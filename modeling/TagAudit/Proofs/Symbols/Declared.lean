/-
  TagAudit.Proofs.Symbols.Declared — what a list of files declares.

  Collecting declarations file by file and block by block comes to inserting the declarations
  of all files one after the other (`addAll_eq`). So a table holds declarations of the files
  as they were read (`declares_of_mem`), and if no name is declared twice it holds all of
  them (`Unambiguous.addAll`), in whichever order they stand (`Rearranged.expression?_eq`,
  `Rearranged.variableValue_eq`).
-/

import Mathlib.Data.List.Nodup
import TagAudit.Proofs.Hcl.Identifiers
import TagAudit.Proofs.Symbols.Memo

namespace TagAudit.Symbols

open Hcl

/-! ## Declarations in files -/

namespace Declarations

def variablesOf (file : SourceFile) (b : Block) : List (String × Variable) :=
  match b.kind, b.labels with
  | "variable", name :: _ => [(name, variableOf file name b)]
  | _, _ => []

def localsOf (file : SourceFile) (b : Block) : List (String × Local) :=
  if b.kind = "locals" then b.body.attributes.map fun a => (a.name, localOf file a) else []

/-- The blocks of a file, none if it cannot be parsed. -/
def blocksOf (file : SourceFile) : List Block :=
  match Body.read? file.contents with
  | some body => body.blocks
  | none => []

def declaredVariables (files : List SourceFile) : List (String × Variable) :=
  files.flatMap fun file => (blocksOf file).flatMap (variablesOf file)

def declaredLocals (files : List SourceFile) : List (String × Local) :=
  files.flatMap fun file => (blocksOf file).flatMap (localsOf file)

/-- A block of a file, if it can be parsed, declares a variable, and this is all that it says. -/
def VariableIn (file : SourceFile) (x : String) (v : Variable) : Prop :=
  ∃ body, Body.read? file.contents = some body ∧
    ∃ b ∈ body.blocks, b.kind = "variable" ∧ b.labels.head? = some x ∧ v = variableOf file x b

/-- An attribute in a file, if it can be parsed, declares a local, and this is all that it says. -/
def LocalIn (file : SourceFile) (x : String) (l : Local) : Prop :=
  ∃ body, Body.read? file.contents = some body ∧
    ∃ b ∈ body.blocks, b.kind = "locals" ∧ ∃ a ∈ b.body.attributes, a.name = x ∧ l = localOf file a

section
variable {files : List SourceFile} {file : SourceFile} {x : String} {v : Variable} {l : Local}

theorem mem_blocksOf {b : Block} : b ∈ blocksOf file ↔ ∃ body, Body.read? file.contents = some body ∧ b ∈ body.blocks := by
  unfold blocksOf
  cases Body.read? file.contents <;> simp

theorem mem_variablesOf {b : Block} : (x, v) ∈ variablesOf file b ↔
    b.kind = "variable" ∧ b.labels.head? = some x ∧ v = variableOf file x b := by
  unfold variablesOf
  split
  · rename_i name labels hk hl
    simp only [hk, hl, List.mem_singleton, Prod.mk.injEq, List.head?_cons, Option.some.injEq, true_and]
    constructor
    · rintro ⟨rfl, rfl⟩
      exact ⟨rfl, rfl⟩
    · rintro ⟨rfl, rfl⟩
      exact ⟨rfl, rfl⟩
  · rename_i hnot
    refine ⟨fun h => by contradiction, fun ⟨hk, hl, _⟩ => ?_⟩
    obtain ⟨labels, hlabels⟩ := List.head?_eq_some_iff.mp hl
    exact (hnot x labels hk hlabels).elim

theorem mem_localsOf {b : Block} : (x, l) ∈ localsOf file b ↔
    b.kind = "locals" ∧ ∃ a ∈ b.body.attributes, a.name = x ∧ l = localOf file a := by
  unfold localsOf
  by_cases hk : b.kind = "locals"
  · simp only [hk, if_true, List.mem_map, Prod.mk.injEq, true_and]
    exact exists_congr fun a => and_congr_right fun _ => and_congr_right fun _ => eq_comm
  · simp [hk]

theorem mem_declaredVariables : (x, v) ∈ declaredVariables files ↔ ∃ file ∈ files, VariableIn file x v := by
  simp only [declaredVariables, List.mem_flatMap, mem_variablesOf, mem_blocksOf, VariableIn]
  refine exists_congr fun file => and_congr_right fun _ => ⟨?_, ?_⟩
  · rintro ⟨b, ⟨body, hbody, hb⟩, hv⟩
    exact ⟨body, hbody, b, hb, hv⟩
  · rintro ⟨body, hbody, b, hb, hv⟩
    exact ⟨b, ⟨body, hbody, hb⟩, hv⟩

theorem mem_declaredLocals : (x, l) ∈ declaredLocals files ↔ ∃ file ∈ files, LocalIn file x l := by
  simp only [declaredLocals, List.mem_flatMap, mem_localsOf, mem_blocksOf, LocalIn]
  refine exists_congr fun file => and_congr_right fun _ => ⟨?_, ?_⟩
  · rintro ⟨b, ⟨body, hbody, hb⟩, hl⟩
    exact ⟨body, hbody, b, hb, hl⟩
  · rintro ⟨body, hbody, b, hb, hl⟩
    exact ⟨b, ⟨body, hbody, hb⟩, hl⟩

end

def extend (d : Declarations) (vars : List (String × Variable)) (locals : List (String × Local)) : Declarations :=
  ⟨d.vars.insertAll vars, d.locals.insertAll locals⟩

theorem foldl_extend {α : Type} (step : Declarations → α → Declarations) (vars : α → List (String × Variable))
    (locals : α → List (String × Local)) (h : ∀ d a, step d a = d.extend (vars a) (locals a)) (as : List α)
    (d : Declarations) : as.foldl step d = d.extend (as.flatMap vars) (as.flatMap locals) := by
  induction as generalizing d with
  | nil => rfl
  | cons a as ih =>
    rw [List.foldl_cons, ih, h]
    simp [extend, OrderedMap.insertAll]

theorem addBlock_eq (file : SourceFile) (d : Declarations) (b : Block) :
    addBlock file d b = d.extend (variablesOf file b) (localsOf file b) := by
  unfold addBlock variablesOf localsOf
  split
  · rename_i hk hl
    simp only [hk, hl]
    rfl
  · rename_i hk
    simp only [hk]
    rfl
  · rename_i hlocals hvariable
    rw [if_neg hlocals]
    split
    · rename_i hk hl
      exact (hvariable _ _ hk hl).elim
    · rfl

theorem addAll_eq (files : List SourceFile) : empty.addAll files =
    ⟨OrderedMap.ofEntries (declaredVariables files), OrderedMap.ofEntries (declaredLocals files)⟩ := by
  refine foldl_extend _ _ _ (fun d file => ?_) files empty
  unfold add? blocksOf
  cases Body.read? file.contents with
  | none => rfl
  | some body => exact foldl_extend _ _ _ (addBlock_eq file) body.blocks d

/-- A local as it is declared under a name, before any evaluation. -/
structure Declares (x : String) (l : Local) : Prop where
  name : l.name = x
  dependencies : l.dependencies = Symbols.dependencies l.expression
  fresh : l.outcome = none

theorem declares_of_mem {files : List SourceFile} {x : String} {l : Local} (h : (x, l) ∈ declaredLocals files) :
    Declares x l := by
  obtain ⟨file, -, body, -, b, -, -, a, -, rfl, rfl⟩ := mem_declaredLocals.mp h
  exact ⟨rfl, rfl, rfl⟩

theorem isIdent_of_mem {files : List SourceFile} {x : String} {l : Local} (h : (x, l) ∈ declaredLocals files) :
    IsIdent x := by
  obtain ⟨file, -, body, hbody, b, hb, -, a, ha, rfl, -⟩ := mem_declaredLocals.mp h
  exact attributes_named hbody b hb a ha

end Declarations

/-! ## Tables of files -/

open Declarations

/-- The table of what the files declare, before any local was evaluated. -/
def Table.unevaluatedOf (files : List SourceFile) (overrides : OrderedMap Value) (strict : Bool) : Table :=
  (Declarations.empty.addAll files).unevaluated overrides strict

section
variable {files : List SourceFile} {overrides : OrderedMap Value} {strict : Bool} {x : String} {l : Local}

theorem unevaluatedOf_declares (h : (Table.unevaluatedOf files overrides strict).locals.get? x = some l) :
    Declares x l := by
  have hm := OrderedMap.mem_of_get? h
  rw [Table.unevaluatedOf, addAll_eq] at hm
  exact declares_of_mem (OrderedMap.mem_ofEntries hm)

theorem fresh_unevaluatedOf : (Table.unevaluatedOf files overrides strict).Fresh :=
  fun _ _ hl => (unevaluatedOf_declares hl).fresh

theorem vars_ofFiles : (Table.ofFiles files overrides strict).vars = OrderedMap.ofEntries (declaredVariables files) :=
  congrArg Declarations.vars (addAll_eq files)

theorem keys_ofFiles : (Table.ofFiles files overrides strict).locals.keys =
    OrderedMap.keys (OrderedMap.ofEntries (declaredLocals files)) := by
  rw [Table.ofFiles, build, addAll_eq]
  simp [unevaluated, OrderedMap.keys]

theorem nodup_locals_ofFiles : (OrderedMap.keys (Table.ofFiles files overrides strict).locals).Nodup := by
  rw [keys_ofFiles]
  exact OrderedMap.nodup_keys_ofEntries _

/-- A local of a table has the declaration of the unevaluated one, with its outcome. -/
theorem declares_ofFiles (h : (Table.ofFiles files overrides strict).locals.get? x = some l) :
    Declares x { l with outcome := none } ∧ (x, { l with outcome := none }) ∈ declaredLocals files := by
  rw [Table.ofFiles, get?_build] at h
  obtain ⟨l', hl', rfl⟩ := Option.map_eq_some_iff.mp h
  have hm := OrderedMap.mem_of_get? hl'
  rw [addAll_eq] at hm
  have hdecl := declares_of_mem (OrderedMap.mem_ofEntries hm)
  have he : l' = { l' with outcome := none } := by
    rw [← hdecl.fresh]
  exact ⟨he ▸ hdecl, he ▸ OrderedMap.mem_ofEntries hm⟩

theorem expression?_ofFiles : (Table.ofFiles files overrides strict).expression? x =
    (Table.unevaluatedOf files overrides strict).expression? x := by
  rw [Table.expression?, Table.ofFiles, get?_build, Option.map_map]
  rfl

theorem stored_undeclared (h : (Table.unevaluatedOf files overrides strict).expression? x = none) :
    (Table.ofFiles files overrides strict).stored x = .error (.undefinedLocal x) := by
  rw [← expression?_ofFiles, Table.expression?, Option.map_eq_none_iff] at h
  rw [Table.stored, h]

/-- The outcomes in a table were noted one after the other. -/
theorem ofFiles_history (files : List SourceFile) (overrides : OrderedMap Value) (strict : Bool) :
    ∃ memo, (Table.unevaluatedOf files overrides strict).History memo ∧
      ∀ x e, (Table.unevaluatedOf files overrides strict).expression? x = some e →
        memo.get? x = some ((Table.ofFiles files overrides strict).stored x) := by
  obtain ⟨⟨memo, stack⟩, hs, hstack, hknown⟩ := build_history (empty.addAll files) overrides strict
  obtain rfl : stack = [] := hstack
  refine ⟨memo, hs.history, fun x e hx => ?_⟩
  have h := (Table.known_of_fresh fresh_unevaluatedOf memo x).symm.trans (hknown x)
  rw [hx] at h
  split at h
  · contradiction
  · split at h
    · rename_i hm
      rw [hm, Sum.inl.inj h]
      rfl
    · contradiction

/-- What holds of every local of a table because it holds of the values that locals have in it. -/
theorem stored_of_step {P : String → Outcome → Prop}
    (step : ∀ x e ρ, (Table.unevaluatedOf files overrides strict).expression? x = some e →
      (∀ y v, ρ y = .ok v → P y (.ok v)) → P x ((Table.unevaluatedOf files overrides strict).valueIn ρ e))
    {e : Expr} (hx : (Table.unevaluatedOf files overrides strict).expression? x = some e) :
    P x ((Table.ofFiles files overrides strict).stored x) := by
  obtain ⟨memo, hhist, hmemo⟩ := ofFiles_history files overrides strict
  exact hhist.forall_of_step fresh_unevaluatedOf step x _ (hmemo x e hx)

theorem finished_ofFiles : (Table.ofFiles files overrides strict).Finished := build_finished _ _ _

theorem outcome_of_mem (hl : l ∈ (Table.ofFiles files overrides strict).locals.values) :
    (Table.unevaluatedOf files overrides strict).expression? l.name = some l.expression ∧
      l.outcome = some ((Table.ofFiles files overrides strict).stored l.name) := by
  obtain ⟨⟨x, l⟩, hmem, rfl⟩ := List.mem_map.mp hl
  have hget := (OrderedMap.get?_eq_some_iff_mem nodup_locals_ofFiles).mpr hmem
  have hname : l.name = x := (declares_ofFiles hget).1.name
  obtain ⟨o, ho⟩ := Option.isSome_iff_exists.mp (finished_ofFiles x l hget)
  refine ⟨by rw [hname, ← expression?_ofFiles, Table.expression?_of_get? hget], ?_⟩
  simp [Table.stored, hname, hget, ho]

/-- Evaluating an expression in a table is evaluating it with the outcomes in the table. -/
theorem outcome_ofFiles (e : Expr) : (Table.ofFiles files overrides strict).outcome e =
    (Table.unevaluatedOf files overrides strict).valueIn (Table.ofFiles files overrides strict).stored e := by
  rw [Table.outcome_eq_valueIn finished_ofFiles]
  exact Table.valueIn_congr rfl (fun _ _ _ => rfl) fun _ _ _ => rfl

theorem listed_ofFiles : (Table.ofFiles files overrides strict).Listed := by
  intro x l hl
  exact (declares_ofFiles hl).1.dependencies

/-- There is no cycle if references lead to locals of lower rank only. -/
theorem acyclic_of_rank (rank : String → Nat) (h : ∀ e ∈ declaredLocals files, ∀ r ∈ references e.2.expression,
    r.scope = .local → rank r.name < rank e.1) : (Table.ofFiles files overrides strict).Acyclic := by
  rw [Table.acyclic_iff_refers listed_ofFiles]
  have hstep (x y : String) (hxy : (Table.ofFiles files overrides strict).Refers x y) : rank y < rank x := by
    obtain ⟨e, he, r, hr, hscope, rfl⟩ := hxy
    obtain ⟨l, hl, rfl⟩ := Option.map_eq_some_iff.mp he
    exact h _ (declares_ofFiles hl).2 r hr hscope
  have hpath (x y : String) (hxy : Relation.TransGen (Table.ofFiles files overrides strict).Refers x y) :
      rank y < rank x := by
    induction hxy with
    | single hr => exact hstep _ _ hr
    | tail _ hr ih => exact Nat.lt_trans (hstep _ _ hr) ih
  exact fun x hx => Nat.lt_irrefl _ (hpath x x hx)

end

/-! ## The order of declarations -/

/-- Of the declaration of a variable its value takes the default only. -/
theorem Table.variableValue_congr {t t' : Table} {name : String} (ho : t.overrides = t'.overrides)
    (hd : (t.vars.get? name).map (·.default) = (t'.vars.get? name).map (·.default)) :
    t.variableValue name = t'.variableValue name := by
  unfold variableValue
  rw [ho]
  cases t'.overrides.get? name with
  | some v => rfl
  | none =>
    cases hv : t.vars.get? name <;> cases hv' : t'.vars.get? name <;> simp_all

/-- Files that declare the same, variables with the same defaults and locals with the same
    expressions, in any order and distributed in any way. -/
structure Rearranged (files files' : List SourceFile) : Prop where
  vars : (OrderedMap.mapValues (·.default) (declaredVariables files)).Perm
    (OrderedMap.mapValues (·.default) (declaredVariables files'))
  locals : (OrderedMap.mapValues (·.expression) (declaredLocals files)).Perm
    (OrderedMap.mapValues (·.expression) (declaredLocals files'))

/-- No name is declared twice. -/
structure Unambiguous (files : List SourceFile) : Prop where
  vars : (OrderedMap.keys (declaredVariables files)).Nodup
  locals : (OrderedMap.keys (declaredLocals files)).Nodup

namespace Rearranged

variable {files files' : List SourceFile}

theorem of_perm (h : files.Perm files') : Rearranged files files' :=
  ⟨(h.flatMap_right _).map _, (h.flatMap_right _).map _⟩

theorem unambiguous (h : Rearranged files files') (hu : Unambiguous files) : Unambiguous files' := by
  have hv := (h.vars.map Prod.fst).nodup_iff
  have hl := (h.locals.map Prod.fst).nodup_iff
  change (OrderedMap.keys _).Nodup ↔ (OrderedMap.keys _).Nodup at hv hl
  simp only [OrderedMap.keys_mapValues] at hv hl
  exact ⟨hv.mp hu.vars, hl.mp hu.locals⟩

end Rearranged

theorem Unambiguous.addAll {files : List SourceFile} (hu : Unambiguous files) :
    Declarations.empty.addAll files = ⟨declaredVariables files, declaredLocals files⟩ := by
  rw [addAll_eq, OrderedMap.ofEntries_of_nodup hu.vars, OrderedMap.ofEntries_of_nodup hu.locals]

namespace Rearranged

variable {files files' : List SourceFile} (h : Rearranged files files') (hu : Unambiguous files)
  (overrides : OrderedMap Value) (strict : Bool)
include h hu

/-- An order does not matter to the expression of a local. -/
theorem expression?_eq : (Table.unevaluatedOf files overrides strict).expression? =
    (Table.unevaluatedOf files' overrides strict).expression? := by
  funext x
  have hn : (OrderedMap.keys (OrderedMap.mapValues (·.expression) (declaredLocals files))).Nodup := by
    simpa using hu.locals
  rw [Table.unevaluatedOf, Table.unevaluatedOf, hu.addAll, (h.unambiguous hu).addAll]
  simp only [Table.expression?, unevaluated, ← OrderedMap.get?_mapValues]
  exact OrderedMap.get?_of_perm hn h.locals x

/-- Nor to the value of a variable. -/
theorem variableValue_eq (name : String) : (Table.unevaluatedOf files overrides strict).variableValue name =
    (Table.unevaluatedOf files' overrides strict).variableValue name := by
  have hn : (OrderedMap.keys (OrderedMap.mapValues (·.default) (declaredVariables files))).Nodup := by
    simpa using hu.vars
  rw [Table.unevaluatedOf, Table.unevaluatedOf, hu.addAll, (h.unambiguous hu).addAll]
  refine Table.variableValue_congr rfl ?_
  simp only [unevaluated, ← OrderedMap.get?_mapValues]
  exact OrderedMap.get?_of_perm hn h.vars name

end Rearranged

end TagAudit.Symbols
