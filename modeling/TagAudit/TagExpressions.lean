/-
  TagAudit.TagExpressions — the tags written in a resource, not yet evaluated.

  Tags are written as an object, as `merge` of objects, or as a block for each tag. Any other
  expression is too complex to be read tag by tag.
-/

import TagAudit.Hcl.Body
import TagAudit.Literal

namespace TagAudit

open Hcl

inductive TagDefect where
  | notMap
  | blockWithoutKey
  | blockWithoutValue (key : String)
  deriving DecidableEq, Repr, Inhabited

def TagDefect.message : TagDefect → String
  | .notMap => "expected a map of tags"
  | .blockWithoutKey => "tag block without `key`"
  | .blockWithoutValue key => "tag block `" ++ key ++ "` without `value`"

/-- Why tags cannot be read: the expression calls for evaluation, or has a defect. -/
inductive TagFailure where
  | complex
  | malformed (defect : TagDefect)
  deriving DecidableEq, Repr, Inhabited

def TagFailure.message (attr : String) : TagFailure → String
  | .complex => "`" ++ attr ++ "` is not a literal tag map"
  | .malformed defect => "malformed `" ++ attr ++ "`: " ++ defect.message

abbrev TagExpressions := OrderedMap Expr

namespace TagExpressions

/-- The key that an expression stands for; a variable stands for its name. -/
def keyText? : Expr → Option String
  | .text s => some s
  | .variable name => some name
  | .paren e => keyText? e
  | e =>
    match Value.ofLiteral? e with
    | some (.text s) => some s
    | _ => none

def key? : Key → Option String
  | .ident name => some name
  | .expr e => keyText? e

/-- The tags of an object's entries after those already `done`. -/
def ofEntries (done : TagExpressions) : List (Key × Expr) → Except TagFailure TagExpressions
  | [] => .ok done
  | (k, e) :: es =>
    match key? k with
    | some key => ofEntries (OrderedMap.insert done key e) es
    | none => .error .complex

/-- The entries of an object, in parentheses perhaps. -/
def objectEntries? : Expr → Option (List (Key × Expr))
  | .object entries => some entries
  | .paren e => objectEntries? e
  | _ => none

/-- The tags of the objects that are merged; later ones win. -/
def ofOperands (done : TagExpressions) : List Expr → Except TagFailure TagExpressions
  | [] => .ok done
  | e :: es =>
    match objectEntries? e with
    | some entries => do
      let tags ← ofEntries OrderedMap.empty entries
      ofOperands (OrderedMap.insertAll done tags) es
    | none => .error .complex

def ofExpr : Expr → Except TagFailure TagExpressions
  | .object entries => ofEntries OrderedMap.empty entries
  | .paren e => ofExpr e
  | .call "merge" args expandLast => if expandLast then .error .complex else ofOperands OrderedMap.empty args
  | .null => .ok OrderedMap.empty
  | .text _ => .error (.malformed .notMap)
  | .number _ => .error (.malformed .notMap)
  | .bool _ => .error (.malformed .notMap)
  | .list _ => .error (.malformed .notMap)
  | _ => .error .complex

def ofTagBlock (body : Body) : Except TagFailure (String × Expr) := do
  let some keyExpr := body.attribute? "key" | .error (.malformed .blockWithoutKey)
  let some key := keyText? keyExpr | .error .complex
  let some value := body.attribute? "value" | .error (.malformed (.blockWithoutValue key))
  .ok (key, value)

/-- The tags of the blocks with one name, after those already `done`. -/
def ofTagBlocks (done : TagExpressions) : List Block → Except TagFailure TagExpressions
  | [] => .ok done
  | b :: bs => do
    let (key, value) ← ofTagBlock b.body
    ofTagBlocks (OrderedMap.insert done key value) bs

/-- The tags of a resource: of the attribute, or else of the blocks with its name. -/
def ofBody (body : Body) (attr : String) : Except TagFailure TagExpressions :=
  match body.attribute? attr with
  | some e => ofExpr e
  | none => ofTagBlocks OrderedMap.empty (body.blocks.filter (·.kind == attr))

end TagExpressions
end TagAudit
