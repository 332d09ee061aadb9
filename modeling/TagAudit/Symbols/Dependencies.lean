/-
  TagAudit.Symbols.Dependencies — the symbols that an expression refers to.
-/

import TagAudit.Reference

namespace TagAudit.Symbols

open Hcl

mutual
def references : Expr → List Reference
  | .list items => referencesInAll items
  | .object entries => referencesInEntries entries
  | .template _ _ parts => referencesInOptionalParts parts
  | .access root path => (Reference.ofAccess? root path).toList ++ references root ++ referencesInPath path
  | .call _ args _ => referencesInAll args
  | .paren e => references e
  | .conditional c t f => references c ++ references t ++ references f
  | .unary _ e => references e
  | .binary _ l r => references l ++ references r
  | .listFor _ _ c e cond => references c ++ references e ++ referencesInOptional cond
  | .objectFor _ _ c k e _ cond => references c ++ references k ++ references e ++ referencesInOptional cond
  | _ => []
def referencesInAll : List Expr → List Reference
  | [] => []
  | e :: es => references e ++ referencesInAll es
def referencesInOptional : Option Expr → List Reference
  | none => []
  | some e => references e
def referencesInEntries : List (Key × Expr) → List Reference
  | [] => []
  | (k, e) :: es => referencesInKey k ++ references e ++ referencesInEntries es
def referencesInKey : Key → List Reference
  | .ident _ => []
  | .expr e => references e
def referencesInPath : List Access → List Reference
  | [] => []
  | a :: as => referencesInStep a ++ referencesInPath as
def referencesInStep : Access → List Reference
  | .index e => references e
  | _ => []
def referencesInParts : List Part → List Reference
  | [] => []
  | p :: ps => referencesInPart p ++ referencesInParts ps
def referencesInOptionalParts : Option (List Part) → List Reference
  | none => []
  | some ps => referencesInParts ps
def referencesInPart : Part → List Reference
  | .literal _ => []
  | .interpolation e _ _ => references e
  | .conditional c t f => references c ++ referencesInParts t ++ referencesInOptionalParts f
  | .loop _ _ c body => references c ++ referencesInParts body
end

theorem referencesInAll_eq (es : List Expr) : referencesInAll es = es.flatMap references := by
  induction es with
  | nil => rfl
  | cons e es ih => rw [referencesInAll, ih, List.flatMap_cons]

theorem referencesInEntries_eq (es : List (Key × Expr)) :
    referencesInEntries es = es.flatMap fun e => referencesInKey e.1 ++ references e.2 := by
  induction es with
  | nil => rfl
  | cons e es ih => rw [referencesInEntries, ih, List.flatMap_cons]

theorem referencesInPath_eq (path : List Access) : referencesInPath path = path.flatMap referencesInStep := by
  induction path with
  | nil => rfl
  | cons a as ih => rw [referencesInPath, ih, List.flatMap_cons]

theorem referencesInParts_eq (ps : List Part) : referencesInParts ps = ps.flatMap referencesInPart := by
  induction ps with
  | nil => rfl
  | cons p ps ih => rw [referencesInParts, ih, List.flatMap_cons]

def distinct (ss : List String) : List String :=
  ss.foldl (fun seen s => if seen.contains s then seen else seen ++ [s]) []

/-- The symbols that an expression refers to, each once. -/
def dependencies (e : Expr) : List String := distinct ((references e).map (·.symbol))

end TagAudit.Symbols
