/-
  TagAudit.Proofs.Symbols.Refinement — values that know more than others.

  Unresolved text stands for any value, so `Below v w` says that `w` is `v` with some of the
  unresolved text replaced; a value without unresolved text is below itself only
  (`Below.eq_of_resolved`). Steps into values, templates and objects keep this order, and so
  does merging, if the operands that know less are merged strictly: then none is passed over
  (`withholding`).

  Proved: `strict_withholds`: what a strict table resolves, a lenient table of the same files
  resolves to the same value.
-/

import TagAudit.Proofs.Symbols.Fixpoint
import TagAudit.Proofs.Symbols.Values
import TagAudit.Symbols.Resolution

namespace TagAudit.Symbols

open Hcl Declarations

/-! ## The order of values -/

/-- The second value is the first with unresolved text replaced by anything. -/
inductive Below : Value → Value → Prop
  | unresolved (raw : String) (w : Value) : Below (.unresolved raw) w
  | scalar {v : Value} (h : v.scalar?.isSome) : Below v v
  | list {vs ws : List Value} (h : List.Forall₂ Below vs ws) : Below (.list vs) (.list ws)
  | map {es fs : OrderedMap Value} (h : List.Forall₂ (EntryRel Below) es fs) : Below (.map es) (.map fs)

mutual
theorem Below.eq_of_resolved : ∀ {v w : Value}, Below v w → v.isResolved → v = w
  | .unresolved _, _, _, h => by simp [Value.isResolved] at h
  | .text _, _, .scalar _, _ => rfl
  | .number _, _, .scalar _, _ => rfl
  | .bool _, _, .scalar _, _ => rfl
  | .list vs, _, .list h, hr => by rw [eq_of_allResolved h (by simpa [Value.isResolved] using hr)]
  | .map es, _, .map h, hr => by rw [eq_of_entriesResolved h (by simpa [Value.isResolved] using hr)]
theorem eq_of_allResolved : ∀ {vs ws : List Value}, List.Forall₂ Below vs ws → Value.allResolved vs → vs = ws
  | [], _, .nil, _ => rfl
  | v :: vs, _, .cons h ht, hr => by
    simp only [Value.allResolved, Bool.and_eq_true] at hr
    rw [h.eq_of_resolved hr.1, eq_of_allResolved ht hr.2]
theorem eq_of_entriesResolved : ∀ {es fs : OrderedMap Value}, EntriesRel Below es fs → Value.entriesResolved es → es = fs
  | [], _, .nil, _ => rfl
  | (_, v) :: es, _, .cons (.mk h) ht, hr => by
    simp only [Value.entriesResolved, Bool.and_eq_true] at hr
    rw [h.eq_of_resolved hr.1, eq_of_entriesResolved ht hr.2]
end

mutual
theorem Below.refl : ∀ v : Value, Below v v
  | .unresolved _ => .unresolved _ _
  | .text _ => .scalar rfl
  | .number _ => .scalar rfl
  | .bool _ => .scalar rfl
  | .list vs => .list (below_refl_all vs)
  | .map es => .map (below_refl_entries es)
theorem below_refl_all : ∀ vs : List Value, List.Forall₂ Below vs vs
  | [] => .nil
  | v :: vs => .cons (Below.refl v) (below_refl_all vs)
theorem below_refl_entries : ∀ es : OrderedMap Value, EntriesRel Below es es
  | [] => .nil
  | (_, v) :: es => .cons (.mk (Below.refl v)) (below_refl_entries es)
end

/-- A scalar is above itself and above unresolved text only. -/
theorem Below.eq_of_scalar {v w : Value} (h : Below v w) (hs : v.scalar?.isSome) : v = w := by
  cases h with
  | unresolved => simp [Value.scalar?] at hs
  | scalar => rfl
  | list => simp [Value.scalar?] at hs
  | map => simp [Value.scalar?] at hs

/-! ## Looking into values -/

/-- Whatever the first comes to, the second comes to something related. -/
def Yields {α β : Type} (P : α → β → Prop) (o : Except Reason α) (o' : Except Reason β) : Prop :=
  ∀ a, o = .ok a → ∃ b, o' = .ok b ∧ P a b

theorem Yields.ok {α β : Type} {P : α → β → Prop} {a : α} {b : β} (h : P a b) : Yields P (.ok a) (.ok b) := by
  rintro _ ⟨⟩
  exact ⟨b, rfl, h⟩

theorem Yields.error {α β : Type} (P : α → β → Prop) (r : Reason) (o : Except Reason β) : Yields P (.error r) o := by
  rintro _ ⟨⟩

theorem Yields.refl (o : Outcome) : Yields Below o o := fun v h => ⟨v, h, .refl v⟩

theorem EntriesRel.get? {V : Value → Value → Prop} {es fs : OrderedMap Value} (h : EntriesRel V es fs) (key : String) :
    Option.Rel V (OrderedMap.get? es key) (OrderedMap.get? fs key) := by
  induction h with
  | nil => exact .none
  | cons he _ ih =>
    obtain ⟨hv⟩ := he
    rw [OrderedMap.get?, OrderedMap.get?]
    split
    · exact .some hv
    · exact ih

theorem getElem?_below {vs ws : List Value} (h : List.Forall₂ Below vs ws) (i : Nat) :
    Option.Rel Below vs[i]? ws[i]? := by
  induction h generalizing i with
  | nil => exact .none
  | cons hv _ ih =>
    cases i with
    | zero => exact .some hv
    | succ i => exact ih i

theorem lookupKey_below {v w : Value} (key : String) (h : Below v w) :
    Yields Below (lookupKey key v) (lookupKey key w) := by
  cases h with
  | unresolved => exact .error _ _ _
  | scalar => exact .refl _
  | list => exact .error _ _ _
  | @map es fs h =>
    have hentry := EntriesRel.get? h key
    simp only [lookupKey]
    generalize OrderedMap.get? es key = entry, OrderedMap.get? fs key = entry' at hentry ⊢
    cases hentry with
    | some hv => exact .ok hv
    | none => exact .error _ _ _

theorem lookupPosition_below {v w : Value} (i : Nat) (h : Below v w) :
    Yields Below (lookupPosition i v) (lookupPosition i w) := by
  cases h with
  | unresolved => exact .error _ _ _
  | scalar => exact .refl _
  | @list vs ws h =>
    have hitem := getElem?_below h i
    simp only [lookupPosition]
    generalize vs[i]? = item, ws[i]? = item' at hitem ⊢
    cases hitem with
    | some hv => exact .ok hv
    | none => exact .error _ _ _
  | map => exact .error _ _ _

theorem lookupIndex_below {i j v w : Value} (hi : Below i j) (h : Below v w) :
    Yields Below (lookupIndex i v) (lookupIndex j w) := by
  -- an index that is no scalar leads nowhere, any other one is the same on both sides
  cases hi with
  | unresolved => cases v <;> exact .error _ _ _
  | list => cases v <;> exact .error _ _ _
  | map => cases v <;> exact .error _ _ _
  | scalar =>
    cases h with
    | unresolved => cases i <;> exact .error _ _ _
    | scalar => exact .refl _
    | list h =>
      cases i with
      | number n =>
        simp only [lookupIndex]
        split
        · exact lookupPosition_below _ (.list h)
        · exact .error _ _ _
      | _ => exact .error _ _ _
    | map h =>
      cases i with
      | text s => exact lookupKey_below s (.map h)
      | number n => exact lookupKey_below n.text (.map h)
      | bool b => exact lookupKey_below _ (.map h)
      | _ => exact .error _ _ _

/-! ## Merging -/

theorem EntriesRel.insertAll {V : Value → Value → Prop} {es es' fs fs' : OrderedMap Value} (h : EntriesRel V es es')
    (hf : EntriesRel V fs fs') : EntriesRel V (OrderedMap.insertAll es fs) (OrderedMap.insertAll es' fs') := by
  unfold OrderedMap.insertAll
  induction hf generalizing es es' with
  | nil => exact h
  | cons he _ ih =>
    obtain ⟨hv⟩ := he
    exact ih (h.insert _ hv)

inductive OperandsBelow : Option (OrderedMap Value) → Option (OrderedMap Value) → Prop
  | some {es fs : OrderedMap Value} (h : EntriesRel Below es fs) : OperandsBelow (some es) (some fs)

theorem mergeMaps_below {os os' : List (Option (OrderedMap Value))} (h : List.Forall₂ OperandsBelow os os') :
    Yields Below (mergeMaps os) (mergeMaps os') := by
  have hfold {es es' : OrderedMap Value} (hes : EntriesRel Below es es') :
      EntriesRel Below (os.foldl (fun merged o => OrderedMap.insertAll merged (o.getD [])) es)
        (os'.foldl (fun merged o => OrderedMap.insertAll merged (o.getD [])) es') := by
    induction h generalizing es es' with
    | nil => exact hes
    | cons ho _ ih =>
      obtain ⟨ho⟩ := ho
      exact ih (hes.insertAll ho)
  unfold mergeMaps
  cases h with
  | nil => exact .refl _
  | cons ho _ =>
    obtain ⟨ho⟩ := ho
    exact .ok (.map (hfold .nil))

/-! ## Evaluating strictly -/

theorem Yields.bind {α β γ δ : Type} {P : α → β → Prop} {Q : γ → δ → Prop} {x : Evaluating Id α} {y : Evaluating Id β}
    {f : α → Evaluating Id γ} {g : β → Evaluating Id δ} (h : Yields P x.run y.run)
    (hf : ∀ a b, P a b → Yields Q (f a).run (g b).run) : Yields Q (x >>= f).run (y >>= g).run := by
  rw [run_bind, run_bind]
  cases hx : x.run with
  | error r => exact .error _ _ _
  | ok a =>
    obtain ⟨b, hy, hab⟩ := h a hx
    rw [hy]
    exact hf a b hab

theorem orRaw_below {o o' : Outcome} (e : Expr) (h : Yields Below o o') : Below (orRaw e o) (orRaw e o') := by
  cases o with
  | error r => exact .unresolved _ _
  | ok v =>
    obtain ⟨w, rfl, hw⟩ := h v rfl
    exact hw

/-- A strict operand is a map, and so is what is above it. -/
theorem operandMap_below {strict : Bool} {o o' : Outcome} (h : Yields Below o o') :
    Yields OperandsBelow (operandMap true o) (operandMap strict o') := by
  cases o with
  | error r => exact .error _ _ _
  | ok v =>
    obtain ⟨w, rfl, hw⟩ := h v rfl
    cases hw with
    | unresolved => exact .error _ _ _
    | list => exact .error _ _ _
    | map hes => exact .ok (.some hes)
    | scalar hv =>
      cases v with
      | map => simp [Value.scalar?] at hv
      | _ => exact .error _ _ _

/-- Evaluation in a strict table beside one that knows more. -/
def withholding {t t' : Table} (hs : t.strict = true) : Correspondence Id Id t t' where
  V := Below
  O := Yields Below
  Operand := OperandsBelow
  Rel P x y := Yields P x.run y.run
  pure h := .ok h
  bind h hf := h.bind hf
  throw _ := .error _ _ _
  settled h := h
  outcomeOf h := .ok h
  scalarText _ h := by
    unfold scalarText
    split
    · rename_i hv
      rw [← h.eq_of_scalar (by rw [hv]; rfl), hv]
      exact .ok rfl
    · exact .error _ _ _
  scalar h := .scalar h
  list h := .list h
  map h := .map h
  orRaw e h := orRaw_below e h
  lookupKey key h := lookupKey_below key h
  lookupPosition i h := lookupPosition_below i h
  lookupIndex hi h := lookupIndex_below hi h
  operand h := hs ▸ operandMap_below h
  merge h := mergeMaps_below h

/-- A strict table whose locals know less comes to values that know less. -/
theorem Table.valueIn_below {t t' : Table} {ρ ρ' : Valuation} (hs : t.strict = true)
    (hv : ∀ name, Yields Below (t.variableValue name) (t'.variableValue name))
    (hρ : ∀ name, Yields Below (ρ name) (ρ' name)) (e : Expr) : Yields Below (t.valueIn ρ e) (t'.valueIn ρ' e) := by
  let R : Correspondence Id Id t t' := withholding hs
  exact R.eval e (R.agree (fun r _ _ => hv r.name) fun r _ _ => hρ r.name)

/-! ## Tables of the same files -/

section
variable {files : List SourceFile} {overrides overrides' : OrderedMap Value} {strict strict' : Bool}

/-- Whether locals form a cycle does not depend on what is supplied, nor on how operands are merged. -/
theorem acyclic_ofFiles (h : (Table.ofFiles files overrides strict).Acyclic) :
    (Table.ofFiles files overrides' strict').Acyclic := by
  have h : ∀ x, ¬ Relation.TransGen (Table.unevaluatedOf files overrides strict).Refers x x :=
    acyclic_iff_unevaluated.mp h
  exact acyclic_iff_unevaluated.mpr h

/-- Where variables know more, so does every local, if the table that knows less is strict. -/
theorem stored_mono (hcycle : (Table.ofFiles files overrides true).Acyclic)
    (hv : ∀ name, Yields Below ((Table.ofFiles files overrides true).variableValue name)
      ((Table.ofFiles files overrides' strict').variableValue name)) (x : String) :
    Yields Below ((Table.ofFiles files overrides true).stored x) ((Table.ofFiles files overrides' strict').stored x) := by
  cases hx : (Table.unevaluatedOf files overrides true).expression? x with
  | none =>
    rw [stored_undeclared hx]
    exact .error _ _ _
  | some e =>
    refine stored_of_step (P := fun x o => Yields Below o ((Table.ofFiles files overrides' strict').stored x)) ?_ hx
    intro x e ρ hx hρ
    have hcycle' : (Table.ofFiles files overrides' strict').Acyclic := acyclic_ofFiles hcycle
    rw [(stored_solves hcycle').declared x e hx]
    refine Table.valueIn_below ?_ ?_ ?_ e
    · rfl
    · exact hv
    · exact fun y v hy => hρ y v hy v rfl

/-- And so does every expression. -/
theorem outcome_mono (hcycle : (Table.ofFiles files overrides true).Acyclic)
    (hv : ∀ name, Yields Below ((Table.ofFiles files overrides true).variableValue name)
      ((Table.ofFiles files overrides' strict').variableValue name)) (e : Expr) :
    Yields Below ((Table.ofFiles files overrides true).outcome e) ((Table.ofFiles files overrides' strict').outcome e) := by
  rw [outcome_ofFiles, outcome_ofFiles]
  refine Table.valueIn_below ?_ ?_ (stored_mono hcycle hv) e
  · rfl
  · exact hv

end

/-! ## Strict and lenient tables -/

theorem outcome_below {files : List SourceFile} {overrides : OrderedMap Value}
    (hcycle : (Table.ofFiles files overrides true).Acyclic) (e : Expr) :
    Yields Below ((Table.ofFiles files overrides true).outcome e) ((Table.ofFiles files overrides false).outcome e) := by
  refine outcome_mono hcycle (fun name => ?_) e
  have hsame : (Table.ofFiles files overrides false).variableValue name =
      (Table.ofFiles files overrides true).variableValue name := Table.variableValue_congr rfl rfl
  rw [hsame]
  exact .refl _

theorem resolved_ofOutcome {written : String} {origin : Origin} {o o' : Outcome} (h : Yields Below o o')
    (hr : (Resolution.ofOutcome written origin o).resolved) :
    Resolution.ofOutcome written origin o' = Resolution.ofOutcome written origin o := by
  cases o with
  | error r => simp [Resolution.ofOutcome, Resolution.failed, Resolution.resolved] at hr
  | ok v =>
    obtain ⟨w, rfl, hw⟩ := h v rfl
    have hv : v.isResolved := by
      by_contra hv
      simp [Resolution.ofOutcome, Resolution.resolved, hv] at hr
    rw [hw.eq_of_resolved hv]

/-- Where no local can reach itself, whatever the strict table of some files resolves completely
    the lenient one resolves to the same, with the value that the strict one gives. -/
theorem strict_withholds (files : List SourceFile) (overrides : OrderedMap Value)
    (hcycle : (Table.ofFiles files overrides true).Acyclic) :
    (∀ written e, ((Table.ofFiles files overrides true).resolveAs written e).resolved →
      (Table.ofFiles files overrides false).resolveAs written e = (Table.ofFiles files overrides true).resolveAs written e) ∧
    ∀ text, ((Table.ofFiles files overrides true).resolveText text).resolved →
      (Table.ofFiles files overrides false).resolveText text = (Table.ofFiles files overrides true).resolveText text := by
  have hresolve (written : String) (e : Expr) (hr : ((Table.ofFiles files overrides true).resolveAs written e).resolved) :
      (Table.ofFiles files overrides false).resolveAs written e =
        (Table.ofFiles files overrides true).resolveAs written e :=
    resolved_ofOutcome (outcome_below hcycle e) hr
  refine ⟨hresolve, fun text hr => ?_⟩
  cases he : Table.parseReference? (Text.trimmed text) with
  | none => simp only [Table.resolveText, he]
  | some e =>
    simp only [Table.resolveText, he] at hr ⊢
    exact hresolve _ e hr

def mergingFiles : List SourceFile :=
  [⟨"tags.tf", "variable \"env\" \x7b\x7d\nlocals \x7b\n  tags = merge(local.base, \x7b env = var.env \x7d)\n  base = \x7b team = \"core\" \x7d\n\x7d\n"⟩]

theorem strict_withholds_mergingFiles :
    ((Table.ofFiles mergingFiles [("env", .text "prod")] true).resolveText "local.tags").resolved ∧
      (Table.ofFiles mergingFiles [("env", .text "prod")] false).resolveText "local.tags" =
        (Table.ofFiles mergingFiles [("env", .text "prod")] true).resolveText "local.tags" := by
  have hcycle : (Table.ofFiles mergingFiles [("env", .text "prod")] true).Acyclic :=
    acyclic_of_rank (fun x => if x = "tags" then 1 else 0) (by decide +kernel)
  have hr : ((Table.ofFiles mergingFiles [("env", .text "prod")] true).resolveText "local.tags").resolved := by
    decide +kernel
  exact ⟨hr, (strict_withholds mergingFiles _ hcycle).2 _ hr⟩

end TagAudit.Symbols
