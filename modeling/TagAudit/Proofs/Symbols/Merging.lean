/-
  TagAudit.Proofs.Symbols.Merging — what a merge makes of its operands.

  An operand counts for the map that it evaluates to, if it is one. A strict merge asks for a map
  from every operand, a lenient one from some operand; either has the entries of its maps, one
  after the other (`merged`). So it makes no difference whether operands are merged among
  themselves first (`merged_nested`).

  Proved: `merge_of_operands`: for any expressions as operands, when their merge is a map, which
  keys it has in which order and with which values, and that a merge among the operands can be
  replaced by its own operands.
-/

import TagAudit.Proofs.Symbols.Memo
import TagAudit.Proofs.Symbols.Values

namespace TagAudit.Symbols

open Hcl

/-! ## Merging maps -/

/-- The operands of a merge taken together: each is a map, or none. -/
def merged (strict : Bool) (os : List (Option (OrderedMap Value))) : Option (OrderedMap Value) :=
  if strict && os.any Option.isNone || !os.isEmpty && os.all Option.isNone then none
  else some (OrderedMap.ofEntries (os.flatMap (·.getD [])))

/-- Whether a map is missing that a merge cannot do without. -/
def lacksMap (strict : Bool) (os : List (Option (OrderedMap Value))) : Bool :=
  if strict then os.any Option.isNone else os.all Option.isNone

theorem merged_of_ne_nil {os : List (Option (OrderedMap Value))} (h : os ≠ []) (strict : Bool) : merged strict os =
    if lacksMap strict os then none else some (OrderedMap.ofEntries (os.flatMap (·.getD []))) := by
  obtain ⟨o, os, rfl⟩ := List.exists_cons_of_ne_nil h
  cases strict with
  | false => simp [merged, lacksMap]
  | true => cases o <;> simp [merged, lacksMap]

theorem lacksMap_append (strict : Bool) (os os' : List (Option (OrderedMap Value))) : lacksMap strict (os ++ os') =
    if strict then lacksMap strict os || lacksMap strict os' else lacksMap strict os && lacksMap strict os' := by
  cases strict <;> simp [lacksMap]

theorem lacksMap_cons (strict : Bool) (o : Option (OrderedMap Value)) (os : List (Option (OrderedMap Value))) :
    lacksMap strict (o :: os) = if strict then o.isNone || lacksMap strict os else o.isNone && lacksMap strict os := by
  cases strict <;> simp [lacksMap]

theorem isSome_merged (strict : Bool) (os : List (Option (OrderedMap Value))) : (merged strict os).isSome ↔
    if strict then ∀ o ∈ os, o.isSome else os = [] ∨ ∃ o ∈ os, o.isSome := by
  by_cases hos : os = []
  · subst hos
    cases strict <;> simp [merged]
  · have hlacks : (merged strict os).isSome ↔ lacksMap strict os = false := by
      rw [merged_of_ne_nil hos]
      cases lacksMap strict os <;> simp
    rw [hlacks]
    cases strict with
    | false => simp [lacksMap, hos, Option.isSome_iff_ne_none]
    | true => simp [lacksMap, Option.isSome_iff_ne_none]

/-- The entries of the maps, one after the other. -/
theorem merged_eq_some {strict : Bool} {os : List (Option (OrderedMap Value))} {m : OrderedMap Value}
    (h : merged strict os = some m) : OrderedMap.keys m = ((os.filterMap id).flatMap OrderedMap.keys).eraseDups ∧
      ∀ key, OrderedMap.get? m key = (os.filterMap id).reverse.findSome? (OrderedMap.lastValue? · key) := by
  have hentries (os : List (Option (OrderedMap Value))) : os.flatMap (·.getD []) = (os.filterMap id).flatten := by
    induction os with
    | nil => rfl
    | cons o os ih => cases o <;> simp [ih]
  unfold merged at h
  split at h
  · contradiction
  · obtain rfl := Option.some.inj h
    rw [hentries]
    constructor
    · rw [OrderedMap.keys_ofEntries, OrderedMap.keys, List.map_flatten, List.flatMap_def]
      rfl
    · intro key
      rw [OrderedMap.get?_ofEntries, OrderedMap.lastValue?_flatten]

theorem ofEntries_nested (before entries after : List (String × Value)) :
    OrderedMap.ofEntries (before ++ (OrderedMap.ofEntries entries ++ after)) =
      OrderedMap.ofEntries (before ++ (entries ++ after)) := by
  have hbefore := OrderedMap.nodup_keys_ofEntries before
  have hsplit (mid : List (String × Value)) : OrderedMap.ofEntries (before ++ (mid ++ after)) =
      OrderedMap.insertAll (OrderedMap.insertAll (OrderedMap.ofEntries before) mid) after := by
    rw [OrderedMap.ofEntries, OrderedMap.insertAll_append, OrderedMap.insertAll_append]
    rfl
  rw [hsplit, hsplit, OrderedMap.insertAll_ofEntries hbefore]

/-- Operands may be merged among themselves first. -/
theorem merged_nested (strict : Bool) (before after : List (Option (OrderedMap Value)))
    {inner : List (Option (OrderedMap Value))} (h : inner ≠ []) :
    merged strict (before ++ merged strict inner :: after) = merged strict (before ++ (inner ++ after)) := by
  obtain ⟨o, ho⟩ : ∃ o, merged strict inner = o := ⟨_, rfl⟩
  have hinner := merged_of_ne_nil h strict
  rw [ho] at hinner
  have hlacks : o.isNone = lacksMap strict inner := by
    rw [hinner]
    cases lacksMap strict inner <;> rfl
  have hsame : lacksMap strict (before ++ o :: after) = lacksMap strict (before ++ (inner ++ after)) := by
    rw [lacksMap_append, lacksMap_append, lacksMap_cons, lacksMap_append, hlacks]
  rw [ho, merged_of_ne_nil (by simp), merged_of_ne_nil (by simp [h]), hsame]
  split
  · rfl
  · rename_i hmap
    congr 1
    simp only [List.flatMap_append, List.flatMap_cons]
    cases hcase : lacksMap strict inner with
    | false =>
      rw [hcase, if_neg Bool.false_ne_true] at hinner
      rw [hinner]
      exact ofEntries_nested _ _ _
    | true =>
      rw [hcase, if_pos rfl] at hinner
      -- a strict merge would have no value either, so that the inner one is lenient and has no maps
      cases strict with
      | true => simp [lacksMap_append, hcase] at hmap
      | false =>
        have hnone : inner.flatMap (·.getD []) = [] := by
          refine List.flatMap_eq_nil_iff.mpr fun o ho => ?_
          rw [Option.isNone_iff_eq_none.mp (List.all_eq_true.mp hcase o ho)]
          rfl
        rw [hinner, hnone]
        rfl

/-! ## Evaluating a merge -/

/-- The entries of the value, if it is a map. -/
def Outcome.map? : Outcome → Option (OrderedMap Value)
  | .ok (.map entries) => some entries
  | _ => none

theorem operandMap_eq_ok {strict : Bool} {o : Outcome} {operand : Option (OrderedMap Value)} :
    operandMap strict o = .ok operand ↔ (strict → (Outcome.map? o).isSome) ∧ operand = Outcome.map? o := by
  cases o with
  | error r => cases strict <;> simp [operandMap, Outcome.map?, eq_comm]
  | ok v => cases v <;> cases strict <;> simp [operandMap, Outcome.map?, eq_comm]

theorem foldl_insertAll (os : List (Option (OrderedMap Value))) (m : OrderedMap Value) :
    os.foldl (fun merged o => OrderedMap.insertAll merged (o.getD [])) m =
      OrderedMap.insertAll m (os.flatMap (·.getD [])) := by
  induction os generalizing m with
  | nil => rfl
  | cons o os ih => simp [ih]

theorem mergeMaps_eq_ok_iff {os : List (Option (OrderedMap Value))} {v : Value} :
    mergeMaps os = .ok v ↔ ∃ m, merged false os = some m ∧ v = .map m := by
  rw [mergeMaps, foldl_insertAll, merged, Bool.false_and, Bool.false_or, Bool.and_comm]
  split
  · simp
  · simp [eq_comm, OrderedMap.ofEntries, OrderedMap.empty]

theorem merged_eq_some_iff {os : List (Option (OrderedMap Value))} {m : OrderedMap Value} {strict : Bool} :
    merged strict os = some m ↔ (strict → ∀ o ∈ os, o.isSome) ∧ merged false os = some m := by
  have hany : os.any Option.isNone = false ↔ ∀ o ∈ os, o.isSome := by simp [Option.isSome_iff_ne_none]
  cases strict with
  | false => exact ⟨fun h => ⟨nofun, h⟩, fun h => h.2⟩
  | true =>
    by_cases hall : ∀ o ∈ os, o.isSome
    · have hsame : merged true os = merged false os := by rw [merged, merged, hany.mpr hall, Bool.and_false, Bool.false_and]
      rw [hsame]
      exact ⟨fun h => ⟨fun _ => hall, h⟩, fun h => h.2⟩
    · have hnone : merged true os = none := by simp [merged, eq_true_of_ne_false (mt hany.mp hall)]
      rw [hnone]
      exact ⟨nofun, fun h => absurd (h.1 rfl) hall⟩

section
variable (t : Table) (ρ : Valuation)

def Table.mapsIn (es : List Expr) : List (Option (OrderedMap Value)) := es.map fun e => Outcome.map? (t.valueIn ρ e)

variable {t ρ}

@[simp] theorem mapsIn_cons (e : Expr) (es : List Expr) :
    t.mapsIn ρ (e :: es) = Outcome.map? (t.valueIn ρ e) :: t.mapsIn ρ es := rfl

theorem mapsIn_append (es es' : List Expr) : t.mapsIn ρ (es ++ es') = t.mapsIn ρ es ++ t.mapsIn ρ es' := List.map_append

theorem run_evalOperands {es : List Expr} {os : List (Option (OrderedMap Value))} :
    (evalOperands t (told ρ) es).run = .ok os ↔
      (t.strict → ∀ o ∈ t.mapsIn ρ es, o.isSome) ∧ os = t.mapsIn ρ es := by
  constructor
  · intro h
    have hall := evalOperands_eq_ok h
    clear h
    induction hall with
    | nil => simp [Table.mapsIn]
    | cons hfirst _ ih =>
      obtain ⟨hmap, rfl⟩ := operandMap_eq_ok.mp hfirst
      obtain ⟨hmaps, rfl⟩ := ih
      exact ⟨fun hs => List.forall_mem_cons.mpr ⟨hmap hs, hmaps hs⟩, rfl⟩
  · rintro ⟨hmaps, rfl⟩
    induction es with
    | nil =>
      simp only [evalOperands]
      rfl
    | cons e es ih =>
      have hout : (outcomeOf (eval t (told ρ) e)).run = .ok (t.valueIn ρ e) := rfl
      have hfirst : operandMap t.strict (t.valueIn ρ e) = .ok (Outcome.map? (t.valueIn ρ e)) :=
        operandMap_eq_ok.mpr ⟨fun hs => (List.forall_mem_cons.mp (hmaps hs)).1, rfl⟩
      have hrest := ih fun hs => (List.forall_mem_cons.mp (hmaps hs)).2
      simp only [evalOperands, run_bind, hout, hfirst, hrest]
      rfl

/-- A merge has the value that its maps have taken together. -/
theorem valueIn_merge_iff {args : List Expr} {v : Value} : t.valueIn ρ (.call "merge" args false) = .ok v ↔
    ∃ m, merged t.strict (t.mapsIn ρ args) = some m ∧ v = .map m := by
  constructor
  · intro h
    rw [Table.valueIn, eval_merge] at h
    obtain ⟨os, hos, hmerge⟩ := ok_of_bind h
    obtain ⟨hmaps, rfl⟩ := run_evalOperands.mp hos
    obtain ⟨m, hm, rfl⟩ := mergeMaps_eq_ok_iff.mp hmerge
    exact ⟨m, merged_eq_some_iff.mpr ⟨hmaps, hm⟩, rfl⟩
  · rintro ⟨m, hm, rfl⟩
    obtain ⟨hmaps, hm⟩ := merged_eq_some_iff.mp hm
    rw [Table.valueIn, eval_merge, run_bind, run_evalOperands.mpr ⟨hmaps, rfl⟩]
    exact mergeMaps_eq_ok_iff.mpr ⟨m, hm, rfl⟩

theorem map?_merge (args : List Expr) :
    Outcome.map? (t.valueIn ρ (.call "merge" args false)) = merged t.strict (t.mapsIn ρ args) := by
  cases hm : merged t.strict (t.mapsIn ρ args) with
  | some m => rw [valueIn_merge_iff.mpr ⟨m, hm, rfl⟩, Outcome.map?]
  | none =>
    cases hv : t.valueIn ρ (.call "merge" args false) with
    | error r => rfl
    | ok v =>
      obtain ⟨m, hm', -⟩ := valueIn_merge_iff.mp hv
      rw [hm] at hm'
      contradiction

/-- A merge among the operands can be replaced by its own operands, if it has any. -/
theorem valueIn_nested_merge (before inner after : List Expr) (h : inner ≠ []) (v : Value) :
    t.valueIn ρ (.call "merge" (before ++ .call "merge" inner false :: after) false) = .ok v ↔
      t.valueIn ρ (.call "merge" (before ++ (inner ++ after)) false) = .ok v := by
  have hinner : t.mapsIn ρ inner ≠ [] := mt List.map_eq_nil_iff.mp h
  have hmaps : merged t.strict (t.mapsIn ρ (before ++ .call "merge" inner false :: after)) =
      merged t.strict (t.mapsIn ρ (before ++ (inner ++ after))) := by
    rw [mapsIn_append, mapsIn_append, mapsIn_append, mapsIn_cons, map?_merge]
    exact merged_nested t.strict _ _ hinner
  rw [valueIn_merge_iff, valueIn_merge_iff, hmaps]

end

/-! ## Built tables -/

def Table.map? (t : Table) (e : Expr) : Option (OrderedMap Value) := Outcome.map? (t.outcome e)

/-- A merge is a map if there are no operands or some operand is one, in a strict table if every
    operand is one; it is nothing else. Its keys are those of the maps among its operands in the
    order in which they come up, each with the value that the last map has for it. A merge among
    the operands can be replaced by its own operands. -/
theorem merge_of_operands (d : Declarations) (overrides : OrderedMap Value) (strict : Bool) (args : List Expr) :
    let t := d.build overrides strict
    ((∃ v, t.outcome (.call "merge" args false) = .ok v) ↔
      if strict then ∀ e ∈ args, (t.map? e).isSome else args = [] ∨ ∃ e ∈ args, (t.map? e).isSome) ∧
    (∀ v, t.outcome (.call "merge" args false) = .ok v → ∃ m, v = .map m ∧
      OrderedMap.keys m = ((args.filterMap t.map?).flatMap OrderedMap.keys).eraseDups ∧
      ∀ key, OrderedMap.get? m key = (args.filterMap t.map?).reverse.findSome? (OrderedMap.lastValue? · key)) ∧
    ∀ before first inner after, args = before ++ .call "merge" (first :: inner) false :: after → ∀ v,
      t.outcome (.call "merge" args false) = .ok v ↔
        t.outcome (.call "merge" (before ++ (first :: inner ++ after)) false) = .ok v := by
  intro t
  have hvalue (e : Expr) : t.outcome e = t.valueIn t.stored e :=
    Table.outcome_eq_valueIn (Declarations.build_finished d overrides strict) e
  have hmaps : t.mapsIn t.stored args = args.map t.map? :=
    List.map_congr_left fun e _ => by rw [Table.map?, hvalue]
  have hmerge (v : Value) : t.outcome (.call "merge" args false) = .ok v ↔
      ∃ m, merged strict (args.map t.map?) = some m ∧ v = .map m := by
    rw [hvalue, valueIn_merge_iff, hmaps]
    exact Iff.rfl
  refine ⟨?_, ?_, ?_⟩
  · have hsome := isSome_merged strict (args.map t.map?)
    simp only [List.forall_mem_map] at hsome
    simp only [List.map_eq_nil_iff, List.mem_map, exists_exists_and_eq_and] at hsome
    rw [← hsome, Option.isSome_iff_exists]
    constructor
    · rintro ⟨v, hv⟩
      obtain ⟨m, hm, -⟩ := (hmerge v).mp hv
      exact ⟨m, hm⟩
    · rintro ⟨m, hm⟩
      exact ⟨.map m, (hmerge (.map m)).mpr ⟨m, hm, rfl⟩⟩
  · intro v hv
    obtain ⟨m, hm, rfl⟩ := (hmerge v).mp hv
    have hentries := merged_eq_some hm
    rw [List.filterMap_map] at hentries
    exact ⟨m, rfl, hentries⟩
  · rintro before first inner after rfl v
    rw [hvalue, hvalue]
    exact valueIn_nested_merge before (first :: inner) after (List.cons_ne_nil first inner) v

def ownerFiles : List SourceFile :=
  [⟨"tags.tf", "locals \x7b\n  base = \x7b env = \"dev\", owner = \"core\" \x7d\n\x7d\n"⟩]

def baseLocal : Expr := .access (.variable "local") [.attribute "base"]

/-- The expression `merge(var.extra, { owner = "web" })`, whose first operand has no value. -/
def webMerge : List Expr :=
  [.access (.variable "var") [.attribute "extra"], .object [(.ident "owner", .text "web")]]

theorem merge_of_operands_ownerFiles :
    ∃ m, (Table.ofFiles ownerFiles [] false).outcome (.call "merge" [baseLocal, .call "merge" webMerge false] false) =
        .ok (.map m) ∧
      OrderedMap.keys m = ["env", "owner"] ∧ OrderedMap.get? m "owner" = some (.text "web") ∧
      (Table.ofFiles ownerFiles [] false).outcome (.call "merge" (baseLocal :: webMerge) false) = .ok (.map m) := by
  obtain ⟨hmap, hentries, hnested⟩ := merge_of_operands (Declarations.empty.addAll ownerFiles) [] false
    [baseLocal, .call "merge" webMerge false]
  have hbase : ((Table.ofFiles ownerFiles [] false).map? baseLocal).isSome := by decide +kernel
  obtain ⟨v, hv⟩ := hmap.mpr (.inr ⟨baseLocal, List.mem_cons_self, hbase⟩)
  obtain ⟨m, rfl, hkeys, hget⟩ := hentries v hv
  have hmaps : [baseLocal, .call "merge" webMerge false].filterMap (Table.ofFiles ownerFiles [] false).map? =
      [[("env", .text "dev"), ("owner", .text "core")], [("owner", .text "web")]] := by decide +kernel
  have hweb : (Table.ofFiles ownerFiles [] false).outcome (.call "merge" (baseLocal :: webMerge) false) = .ok (.map m) :=
    (hnested [baseLocal] _ _ [] rfl (.map m)).mp hv
  have hkeys : OrderedMap.keys m = _ := hkeys.trans (congrArg (fun maps => (maps.flatMap OrderedMap.keys).eraseDups) hmaps)
  have howner : OrderedMap.get? m "owner" = _ := (hget "owner").trans
    (congrArg (fun maps => maps.reverse.findSome? (OrderedMap.lastValue? · "owner")) hmaps)
  exact ⟨m, hv, hkeys, howner, hweb⟩

end TagAudit.Symbols
