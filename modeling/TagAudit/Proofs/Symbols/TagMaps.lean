/-
  TagAudit.Proofs.Symbols.TagMaps — tags taken from an expression, and the expression evaluated.

  Tags are taken from an object or from merged objects entry by entry, and their values evaluated
  one by one. The expression can also be evaluated as a whole. Both come to the same map. They part
  where a name in parentheses is a key (`Key.isComputed`), which is taken as its text and not
  evaluated to a scalar, and at null, which has no tags and no value (`tags_of_null_not_evaluated`).

  Proved: `tags_evaluated`: an expression that tags can be taken from evaluates to the map of them,
  keys in the same order, each with the value that its expression is resolved to; so a resource has
  the same tags either way.
-/

import TagAudit.Proofs.Hcl.Nulls
import TagAudit.Proofs.Symbols.Literals
import TagAudit.Proofs.Symbols.Merging
import TagAudit.Scan.Run

namespace TagAudit

open Hcl

/-! ## Keys -/

namespace Hcl

/-- Whether an expression is a name, in parentheses or not. -/
def Expr.isName : Expr → Bool
  | .variable _ => true
  | .paren e => isName e
  | _ => false

/-- Whether a key is a name in parentheses, which asks for the key to be computed. -/
def Key.isComputed : Key → Bool
  | .expr (.paren e) => e.isName
  | _ => false

theorem Expr.isName_eq_false {e : Expr} (hk : (Key.expr e).isComputed = false) (hne : ∀ name, e ≠ .variable name) :
    e.isName = false := by
  cases e with
  | paren e => exact hk
  | _ => first | rfl | exact (hne _ rfl).elim

end Hcl

namespace TagExpressions

/-- The keys of the objects that the tags are taken from. -/
def tagKeys : Expr → List Key
  | .object entries => entries.map (·.1)
  | .paren e => tagKeys e
  | .call _ args _ => args.flatMap fun e => ((objectEntries? e).getD []).map (·.1)
  | _ => []

end TagExpressions

namespace Symbols

section
variable {m : Type → Type} [Monad m] [LawfulMonad m] (t : Table) (lv : String → Evaluating m Value)

-- Of all expressions that stand for a key, names alone are not evaluated to its text.
theorem eval_keyText? {e : Expr} {s : String} (h : TagExpressions.keyText? e = some s) (hname : e.isName = false) :
    eval t lv e = pure (.text s) := by
  refine TagExpressions.keyText?.induct
    (fun e => TagExpressions.keyText? e = some s → e.isName = false → eval t lv e = pure (.text s))
    ?text ?name ?paren ?literal ?other e h hname
  case text =>
    intro s' h _
    obtain rfl := Option.some.inj h
    simp only [eval]
  case name =>
    intro name _ hname
    contradiction
  case paren =>
    intro e ih h hname
    rw [eval]
    exact ih h hname
  case literal =>
    intro e htext hvariable hparen s' hliteral h _
    rw [TagExpressions.keyText?, hliteral] at h <;> try assumption
    obtain rfl := Option.some.inj h
    exact eval_ofLiteral? t lv hliteral
  case other =>
    intro e htext hvariable hparen hother h _
    rw [TagExpressions.keyText?] at h <;> try assumption
    split at h
    · exact (hother _ ‹_›).elim
    · contradiction

/-- A key of a tag is evaluated to the text that it stands for, unless it is to be computed. -/
theorem evalKey_key? {k : Key} {s : String} (h : TagExpressions.key? k = some s) (hk : k.isComputed = false) :
    evalKey t lv k = pure s := by
  cases k with
  | ident name =>
    obtain rfl := Option.some.inj h
    simp only [evalKey]
  | expr e =>
    by_cases hvariable : ∃ name, e = .variable name
    · obtain ⟨name, rfl⟩ := hvariable
      obtain rfl := Option.some.inj h
      simp only [evalKey]
    · have hne : ∀ name, e ≠ .variable name := fun name he => hvariable ⟨name, he⟩
      rw [evalKey_expr_of_ne t lv hne, eval_keyText? t lv h (Expr.isName_eq_false hk hne), pure_bind]
      rfl

end

/-! ## Objects and merges -/

section
variable (t : Table) (ρ : Valuation)

/-- Tags with the values that stand for their expressions. -/
def Table.tagsIn (tags : TagExpressions) : OrderedMap Value := OrderedMap.mapValues (t.itemIn ρ) tags

/-- The entries of an object are evaluated to the tags that are taken from them. -/
theorem run_evalEntries_ofEntries {es : List (Key × Expr)} {done tags : TagExpressions}
    (h : TagExpressions.ofEntries done es = .ok tags) (hk : ∀ e ∈ es, e.1.isComputed = false) :
    (evalEntries t (told ρ) es (t.tagsIn ρ done)).run = .ok (t.tagsIn ρ tags) := by
  induction es generalizing done with
  | nil =>
    obtain rfl := Except.ok.inj h
    simp only [evalEntries]
    rfl
  | cons e es ih =>
    rw [TagExpressions.ofEntries] at h
    split at h
    · rename_i key hkey
      have hrest := ih h fun e' he' => hk e' (List.mem_cons_of_mem _ he')
      have hout : (outcomeOf (eval t (told ρ) e.2)).run = .ok (t.valueIn ρ e.2) := rfl
      rw [evalEntries, evalKey_key? t (told ρ) hkey (hk e List.mem_cons_self), pure_bind, run_bind, hout]
      rw [Table.tagsIn, OrderedMap.mapValues_insert] at hrest
      exact hrest
    · contradiction

/-- An object has its tags as value. -/
theorem valueIn_objectEntries? {e : Expr} {es : List (Key × Expr)} {tags : TagExpressions}
    (he : TagExpressions.objectEntries? e = some es) (h : TagExpressions.ofEntries OrderedMap.empty es = .ok tags)
    (hk : ∀ e ∈ es, e.1.isComputed = false) : t.valueIn ρ e = .ok (.map (t.tagsIn ρ tags)) := by
  refine TagExpressions.objectEntries?.induct
    (fun e => TagExpressions.objectEntries? e = some es → t.valueIn ρ e = .ok (.map (t.tagsIn ρ tags)))
    ?object ?paren ?other e he
  case object =>
    intro entries he
    obtain rfl := Option.some.inj he
    have hentries : (evalEntries t (told ρ) entries []).run = .ok (t.tagsIn ρ tags) :=
      run_evalEntries_ofEntries t ρ h hk
    rw [Table.valueIn, eval, run_bind, hentries]
    rfl
  case paren =>
    intro e ih he
    rw [Table.valueIn, eval]
    exact ih he
  case other =>
    intro e hobject hparen he
    rw [TagExpressions.objectEntries?] at he <;> first | contradiction | assumption

/-- The operands that tags are taken from are maps, and the tags are theirs, one after the other. -/
theorem mapsIn_ofOperands {es : List Expr} {done tags : TagExpressions} (h : TagExpressions.ofOperands done es = .ok tags)
    (hk : ∀ e ∈ es, ∀ k ∈ ((TagExpressions.objectEntries? e).getD []).map (·.1), k.isComputed = false) :
    ∃ maps : List TagExpressions, t.mapsIn ρ es = (maps.map (t.tagsIn ρ)).map some ∧
      tags = OrderedMap.insertAll done maps.flatten := by
  induction es generalizing done with
  | nil =>
    obtain rfl := Except.ok.inj h
    exact ⟨[], rfl, rfl⟩
  | cons e es ih =>
    rw [TagExpressions.ofOperands] at h
    split at h
    · rename_i entries hentries
      cases htags : TagExpressions.ofEntries OrderedMap.empty entries with
      | error failure =>
        rw [htags] at h
        contradiction
      | ok own =>
        rw [htags] at h
        obtain ⟨maps, hmaps, rfl⟩ := ih h fun e' he' => hk e' (List.mem_cons_of_mem _ he')
        have hown : t.valueIn ρ e = .ok (.map (t.tagsIn ρ own)) := by
          refine valueIn_objectEntries? t ρ hentries htags fun entry hentry => ?_
          refine hk e List.mem_cons_self entry.1 ?_
          rw [hentries]
          exact List.mem_map_of_mem hentry
        refine ⟨own :: maps, ?_, ?_⟩
        · rw [mapsIn_cons, hmaps, hown]
          rfl
        · simp
    · contradiction

/-- Operands that all are maps are merged to all their entries. -/
theorem merged_maps (strict : Bool) (maps : List (OrderedMap Value)) :
    merged strict (maps.map some) = some (OrderedMap.ofEntries maps.flatten) := by
  have hany : (maps.map some).any Option.isNone = false := by simp
  have hall : (!(maps.map some).isEmpty && (maps.map some).all Option.isNone) = false := by cases maps <;> simp
  have hentries : (maps.map some).flatMap (·.getD []) = maps.flatten := by
    rw [List.flatMap_map, List.flatMap_def]
    simp
  rw [merged, hany, hall, hentries, Bool.and_false, Bool.false_or, if_neg Bool.false_ne_true]

/-- Where tags can be taken from an expression other than null, they are its value. -/
theorem valueIn_tags {e : Expr} {tags : TagExpressions} (h : TagExpressions.ofExpr e = .ok tags)
    (hnull : e.isNull = false) (hk : ∀ k ∈ TagExpressions.tagKeys e, k.isComputed = false) :
    t.valueIn ρ e = .ok (.map (t.tagsIn ρ tags)) := by
  unfold TagExpressions.ofExpr at h
  split at h
  · -- an object
    exact valueIn_objectEntries? t ρ rfl h fun entry hentry => hk entry.1 (List.mem_map_of_mem hentry)
  · -- an expression in parentheses
    rw [Table.valueIn, eval]
    exact valueIn_tags h hnull hk
  · -- a merge
    rename_i args expandLast
    split at h
    · contradiction
    obtain rfl : expandLast = false := by simpa using ‹¬expandLast = true›
    obtain ⟨maps, hmaps, rfl⟩ := mapsIn_ofOperands t ρ h fun e he k hmem => hk k (List.mem_flatMap.mpr ⟨e, he, hmem⟩)
    refine valueIn_merge_iff.mpr ⟨t.tagsIn ρ (OrderedMap.ofEntries maps.flatten), ?_, rfl⟩
    have hflatten : (maps.map (t.tagsIn ρ)).flatten = t.tagsIn ρ maps.flatten := List.map_flatten.symm
    rw [hmaps, merged_maps, hflatten, Table.tagsIn, Table.tagsIn, OrderedMap.ofEntries, OrderedMap.ofEntries,
      OrderedMap.mapValues_insertAll]
    rfl
  all_goals contradiction

end

/-! ## Resolving -/

/-- In a table whose locals are evaluated each tag is resolved to the value that stands for it. -/
theorem tagsIn_stored {t : Table} (h : t.Finished) (tags : TagExpressions) :
    t.tagsIn t.stored tags = OrderedMap.mapValues (fun e => (t.resolve e).value) tags := by
  have hvalue (e : Expr) : t.itemIn t.stored e = (t.resolve e).value := by
    rw [Table.value_resolve, Table.outcome_eq_valueIn h, Table.itemIn]
  exact List.map_congr_left fun tag _ => congrArg (tag.1, ·) (hvalue tag.2)

/-- If tags can be taken from an expression other than null and no key is to be computed, then it
    evaluates to the map of the tags, keys in the same order, each with the value that its own
    expression is resolved to. A resource with this expression has the same tags either way. -/
theorem tags_evaluated (d : Declarations) (overrides : OrderedMap Value) (strict : Bool) {e : Expr}
    {tags : TagExpressions} (h : TagExpressions.ofExpr e = .ok tags) (hnull : e.isNull = false)
    (hk : ∀ k ∈ TagExpressions.tagKeys e, k.isComputed = false) :
    (d.build overrides strict).outcome e =
      .ok (.map (OrderedMap.mapValues (fun e => ((d.build overrides strict).resolve e).value) tags)) ∧
    ∀ (s : Scanner) (r : Resource) (attr : String), s.symbols = d.build overrides strict →
      r.body.attribute? attr = some e →
      s.tags r attr = .ok (OrderedMap.mapValues Expr.rawText tags, (s.evaluatedTags e).2) := by
  have hfinished := Declarations.build_finished d overrides strict
  have houtcome : (d.build overrides strict).outcome e =
      .ok (.map (OrderedMap.mapValues (fun e => ((d.build overrides strict).resolve e).value) tags)) := by
    rw [Table.outcome_eq_valueIn hfinished, valueIn_tags _ _ h hnull hk, tagsIn_stored hfinished]
  refine ⟨houtcome, fun s r attr hs he => ?_⟩
  have htags : TagExpressions.ofBody r.body attr = .ok tags := by
    rw [TagExpressions.ofBody, he]
    exact h
  rw [Scanner.tags, htags, Scanner.evaluatedTags, Table.value_resolve, hs, houtcome]
  rfl

/-- The expression `merge({ zones = local.z, env = "dev" }, ({ "env" = var.env }))`. -/
def zoneTags : Expr :=
  .call "merge"
    [.object [(.ident "zones", .access (.variable "local") [.attribute "z"]), (.ident "env", .text "dev")],
      .paren (.object [(.expr (.text "env"), .access (.variable "var") [.attribute "env"])])] false

def zoneTagsTaken : TagExpressions :=
  [("zones", .access (.variable "local") [.attribute "z"]), ("env", .access (.variable "var") [.attribute "env"])]

def zoneBucket : Resource :=
  { type := "aws_s3_bucket", name := "logs", file := "main.tf", line := 1, snippet := ""
    body := [.attribute ⟨"tags", zoneTags, ⟨0, 0⟩⟩] }

def zoneScanner : Scanner :=
  { options :=
      { root := ".", dialect := .terraform, includes := none, excludes := none, strict := true, ignoreOptional := false
        overrides := [], provider := none, skipTagged := false }
    catalog := Catalog.byName, filter := ⟨none, none⟩, validator := none, symbols := Table.ofFiles [zoneFile] [] true }

theorem tags_evaluated_zoneTags :
    TagExpressions.ofExpr zoneTags = .ok zoneTagsTaken ∧
    (Table.ofFiles [zoneFile] [] true).outcome zoneTags = .ok (.map
      [("zones", .list [.number (.integer 1), .text "a"]), ("env", .unresolved "var.env")]) ∧
    zoneScanner.tags zoneBucket "tags" =
      .ok ([("zones", "local.z"), ("env", "var.env")], (zoneScanner.evaluatedTags zoneTags).2) := by
  have htags : TagExpressions.ofExpr zoneTags = .ok zoneTagsTaken := by rfl
  have hk : ∀ k ∈ TagExpressions.tagKeys zoneTags, k.isComputed = false := by
    simp [zoneTags, TagExpressions.tagKeys, TagExpressions.objectEntries?, Key.isComputed]
  obtain ⟨houtcome, hscanned⟩ := tags_evaluated (Declarations.empty.addAll [zoneFile]) [] true htags rfl hk
  have hvalues : OrderedMap.mapValues (fun e => ((Table.ofFiles [zoneFile] [] true).resolve e).value) zoneTagsTaken =
      [("zones", .list [.number (.integer 1), .text "a"]), ("env", .unresolved "var.env")] := by
    decide +kernel
  exact ⟨htags, houtcome.trans (congrArg (fun entries => Except.ok (Value.map entries)) hvalues),
    hscanned zoneScanner zoneBucket "tags" rfl rfl⟩

/-- Null in parentheses has no tags, and is no map of no tags. -/
theorem tags_of_null_not_evaluated :
    Expr.read? "(null)" = some (.paren .null) ∧
    ¬ ∀ (d : Declarations) overrides strict e tags, e ≠ .null → TagExpressions.ofExpr e = .ok tags →
      (∀ k ∈ TagExpressions.tagKeys e, k.isComputed = false) → (d.build overrides strict).outcome e =
        .ok (.map (OrderedMap.mapValues (fun e => ((d.build overrides strict).resolve e).value) tags)) := by
  refine ⟨rfl, fun h => ?_⟩
  have hmap : (Declarations.empty.build [] false).outcome (.paren .null) = .ok (.map []) :=
    h Declarations.empty [] false (.paren .null) [] nofun rfl (by simp [TagExpressions.tagKeys])
  have hnone : (Declarations.empty.build [] false).outcome (.paren .null) = .error .isNull := by rfl
  rw [hnone] at hmap
  contradiction

end Symbols
end TagAudit
