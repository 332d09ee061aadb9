/-
  TagAudit.Proofs.Symbols.Reports — what is reported of symbols.

  A local keeps its outcome from when the table was built, a variable has its value looked up, the
  report has an entry for each of them, and a reference to one can be resolved like any other
  expression. All tell the same of a symbol: whether it is resolved, its value or the reason why it
  has none (`Entry.Agrees`). They differ where a value has unresolved parts: resolving it says so,
  while the entry has nothing to say beyond the value.

  Proved: `symbols_told_alike`, for the table of any files, and in it that a result is resolved if
  and only if nothing in its value is unresolved at any depth (`isResolved_iff`).
-/

import TagAudit.Proofs.Symbols.LastDeclared
import TagAudit.Proofs.Symbols.Needs
import TagAudit.Symbols.Resolution

namespace TagAudit

/-! ## Unresolved parts of values -/

namespace Value

/-- A value is part of another one, at any depth. -/
inductive Within : Value → Value → Prop
  | self (v : Value) : Within v v
  | item {u v : Value} {vs : List Value} (h : v ∈ vs) (hu : Within u v) : Within u (.list vs)
  | entry {u : Value} {e : String × Value} {es : List (String × Value)} (h : e ∈ es) (hu : Within u e.2) :
      Within u (.map es)

mutual
theorem exists_unresolved : ∀ {v : Value}, v.isResolved = false → ∃ raw, Within (.unresolved raw) v
  | .text _, h => by simp [isResolved] at h
  | .number _, h => by simp [isResolved] at h
  | .bool _, h => by simp [isResolved] at h
  | .unresolved raw, _ => ⟨raw, .self _⟩
  | .list vs, h => by
    rw [isResolved] at h
    obtain ⟨v, hv, raw, hraw⟩ := exists_unresolved_item h
    exact ⟨raw, .item hv hraw⟩
  | .map es, h => by
    rw [isResolved] at h
    obtain ⟨e, he, raw, hraw⟩ := exists_unresolved_entry h
    exact ⟨raw, .entry he hraw⟩
theorem exists_unresolved_item : ∀ {vs : List Value}, allResolved vs = false →
    ∃ v ∈ vs, ∃ raw, Within (.unresolved raw) v
  | [], h => by simp [allResolved] at h
  | v :: vs, h => by
    rw [allResolved, Bool.and_eq_false_iff] at h
    rcases h with h | h
    · exact ⟨v, List.mem_cons_self, exists_unresolved h⟩
    · obtain ⟨w, hw, hraw⟩ := exists_unresolved_item h
      exact ⟨w, List.mem_cons_of_mem v hw, hraw⟩
theorem exists_unresolved_entry : ∀ {es : List (String × Value)}, entriesResolved es = false →
    ∃ e ∈ es, ∃ raw, Within (.unresolved raw) e.2
  | [], h => by simp [entriesResolved] at h
  | (key, v) :: es, h => by
    rw [entriesResolved, Bool.and_eq_false_iff] at h
    rcases h with h | h
    · exact ⟨(key, v), List.mem_cons_self, exists_unresolved h⟩
    · obtain ⟨e, he, hraw⟩ := exists_unresolved_entry h
      exact ⟨e, List.mem_cons_of_mem _ he, hraw⟩
end

theorem Within.resolved {u v : Value} (h : Within u v) (hv : v.isResolved) : u.isResolved := by
  induction h with
  | self => exact hv
  | item h _ ih => exact ih (Symbols.item_resolved hv _ h)
  | entry h _ ih => exact ih (Symbols.map_resolved_iff.mp hv _ h)

theorem isResolved_iff {v : Value} : v.isResolved ↔ ∀ raw, ¬ Within (.unresolved raw) v := by
  constructor
  · intro hv raw h
    have hraw := h.resolved hv
    simp [isResolved] at hraw
  · intro h
    by_contra hv
    rw [Bool.not_eq_true] at hv
    obtain ⟨raw, hraw⟩ := exists_unresolved hv
    exact h raw hraw

end Value

namespace Symbols

open Hcl Declarations

/-! ## Results of resolving -/

/-- A result is resolved if nothing in its value is unresolved, and says why otherwise. -/
structure Resolution.Candid (r : Resolution) : Prop where
  resolved : r.resolved = true ↔ ∀ raw, ¬ (Value.unresolved raw).Within r.value
  doubt : r.doubt.isSome ↔ r.resolved = false

namespace Resolution

theorem candid_of_eq {r : Resolution} (h : r.resolved = r.value.isResolved) : r.Candid := by
  constructor
  · rw [h, Value.isResolved_iff]
  · unfold resolved
    cases r.doubt <;> simp

theorem candid_failed (written : String) (origin : Origin) (doubt : Doubt) : (failed written origin doubt).Candid :=
  candid_of_eq (by simp [failed, resolved, Value.isResolved])

theorem candid_ofOutcome (written : String) (origin : Origin) (o : Outcome) : (ofOutcome written origin o).Candid := by
  cases o with
  | error reason => exact candid_failed written origin (.because reason)
  | ok v =>
    refine candid_of_eq ?_
    cases hv : v.isResolved <;> simp [ofOutcome, resolved, hv]

end Resolution

theorem candid_resolveText (t : Table) (text : String) : (t.resolveText text).Candid := by
  unfold Table.resolveText
  dsimp only
  split
  · exact Resolution.candid_ofOutcome _ _ _
  · exact Resolution.candid_failed _ _ _

/-! ## Entries of the report -/

def referenceTo (scope : Namespace) (name : String) : Expr :=
  .access (.variable scope.word) [.attribute name]

/-- The entry of a symbol and the result of resolving a reference to it tell the same. -/
structure Entry.Agrees (e : Entry) (t : Table) (scope : Namespace) : Prop where
  resolved : e.resolved = (t.resolve (referenceTo scope e.name)).resolved
  value : ∀ v, e.value? = some v ↔ t.outcome (referenceTo scope e.name) = .ok v
  same : ∀ v, e.value? = some v → (t.resolve (referenceTo scope e.name)).value = v
  reason : ∀ r, t.outcome (referenceTo scope e.name) = .error r →
    e.reason? = some r ∧ (t.resolve (referenceTo scope e.name)).doubt = some (.because r)

/-- The report has one entry for each symbol, in the order of the symbols, and each agrees. -/
structure Table.Reports (t : Table) (scope : Namespace) (names : List String) (entries : List Entry) : Prop where
  complete : entries.map (·.name) = names
  distinct : names.Nodup
  agree : ∀ e ∈ entries, e.Agrees t scope

theorem Entry.agrees_of_outcome {t : Table} {scope : Namespace} {e : Entry}
    (h : e.outcome = some (t.outcome (referenceTo scope e.name))) : e.Agrees t scope := by
  cases ho : t.outcome (referenceTo scope e.name) with
  | ok v =>
    rw [ho] at h
    constructor
    · cases hv : v.isResolved <;>
        simp [Entry.resolved, Entry.value?, h, Table.resolve, Table.resolveAs, ho, Resolution.ofOutcome, Resolution.resolved, hv]
    · simp [Entry.value?, h, ho]
    · simp [Entry.value?, h, Table.resolve, Table.resolveAs, ho, Resolution.ofOutcome]
    · simp [ho]
  | error r =>
    rw [ho] at h
    constructor
    · simp [Entry.resolved, Entry.value?, h, Table.resolve, Table.resolveAs, ho, Resolution.ofOutcome, Resolution.failed,
        Resolution.resolved]
    · simp [Entry.value?, h, ho]
    · simp [Entry.value?, h]
    · simp [Entry.reason?, h, Table.resolve, Table.resolveAs, ho, Resolution.ofOutcome, Resolution.failed]

/-! ## Symbols of tables -/

/-- A reference to a variable alone has its value, whatever is known of locals. -/
theorem valueIn_variable (t : Table) (ρ : Valuation) (x : String) :
    t.valueIn ρ (referenceTo .variable x) = t.variableValue x := by
  have hr : Reference.ofAccess? (.variable Namespace.variable.word) [.attribute x] = some ⟨.variable, x, []⟩ := rfl
  have hsymbol : (symbolValue t (told ρ) ⟨.variable, x, []⟩).run = t.variableValue x := rfl
  simp only [referenceTo, Table.valueIn, eval, hr, run_bind, hsymbol, evalPath]
  cases t.variableValue x <;> rfl

theorem name_describe (v : Variable) (a : Attribute) : (describe v a).name = v.name := by
  unfold describe
  split <;> rfl

theorem name_variableOf (file : SourceFile) (name : String) (b : Block) : (variableOf file name b).name = name := by
  have hfold (as : List Attribute) (v : Variable) : (as.foldl describe v).name = v.name := by
    induction as generalizing v with
    | nil => rfl
    | cons a as ih => rw [List.foldl_cons, ih, name_describe]
  exact hfold _ _

theorem name_of_declaredVariable {files : List SourceFile} {x : String} {v : Variable}
    (h : (x, v) ∈ declaredVariables files) : v.name = x := by
  obtain ⟨file, -, body, -, b, -, -, -, rfl⟩ := mem_declaredVariables.mp h
  exact name_variableOf file x b

section
variable (files : List SourceFile) (overrides : OrderedMap Value) (strict : Bool)

theorem reports_variables : (Table.ofFiles files overrides strict).Reports .variable
    (Table.ofFiles files overrides strict).vars.keys (Table.ofFiles files overrides strict).variableEntries := by
  constructor
  · simp only [Table.variableEntries, OrderedMap.values, OrderedMap.keys, List.map_map]
    refine List.map_congr_left fun e he => ?_
    rw [vars_ofFiles] at he
    exact name_of_declaredVariable (OrderedMap.mem_ofEntries he)
  · rw [vars_ofFiles]
    exact OrderedMap.nodup_keys_ofEntries _
  · intro e he
    obtain ⟨v, -, rfl⟩ := List.mem_map.mp he
    refine Entry.agrees_of_outcome ?_
    rw [outcome_ofFiles, valueIn_variable]
    rfl

theorem reports_locals : (Table.ofFiles files overrides strict).Reports .local
    (Table.ofFiles files overrides strict).locals.keys (Table.ofFiles files overrides strict).localEntries := by
  constructor
  · simp only [Table.localEntries, OrderedMap.values, OrderedMap.keys, List.map_map]
    refine List.map_congr_left fun e he => ?_
    have hget := (OrderedMap.get?_eq_some_iff_mem nodup_locals_ofFiles).mpr he
    exact (declares_ofFiles hget).1.name
  · exact nodup_locals_ofFiles
  · intro e he
    obtain ⟨l, hl, rfl⟩ := List.mem_map.mp he
    refine Entry.agrees_of_outcome ?_
    rw [outcome_ofFiles]
    exact (outcome_of_mem hl).2.trans (congrArg some (valueIn_local _).symm)

theorem value_or_reason {l : Local} (hl : l ∈ (Table.ofFiles files overrides strict).locals.values) :
    Xor l.value?.isSome l.reason?.isSome := by
  obtain ⟨-, ho⟩ := outcome_of_mem hl
  cases hs : (Table.ofFiles files overrides strict).stored l.name with
  | ok v => simp [Local.value?, Local.reason?, ho, hs, Xor]
  | error r => simp [Local.value?, Local.reason?, ho, hs, Xor]

end

/-- Each local of a table has either a value or a reason why it has none; the entries of the report
    agree with what resolving a reference to the symbol finds; and a result of resolving anything is
    resolved if and only if nothing in it is unresolved. -/
theorem symbols_told_alike (files : List SourceFile) (overrides : OrderedMap Value) (strict : Bool) :
    let t := Table.ofFiles files overrides strict
    (∀ l ∈ t.locals.values, Xor l.value?.isSome l.reason?.isSome) ∧
      t.Reports .variable t.vars.keys t.variableEntries ∧ t.Reports .local t.locals.keys t.localEntries ∧
      (∀ e, (t.resolve e).Candid) ∧ ∀ text, (t.resolveText text).Candid := by
  intro t
  refine ⟨fun l hl => value_or_reason files overrides strict hl, reports_variables files overrides strict,
    reports_locals files overrides strict, fun e => ?_, candid_resolveText t⟩
  exact Resolution.candid_ofOutcome _ _ _

end Symbols
end TagAudit
