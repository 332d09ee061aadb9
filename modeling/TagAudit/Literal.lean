/-
  TagAudit.Literal — expressions that are values as they stand.

  An expression is a literal if its value does not depend on any symbol and calls for no
  evaluation. Null is not: neither alone nor inside a list or object.
-/

import TagAudit.Value
import TagAudit.Hcl.Expr

namespace TagAudit.Value

open Hcl

/-- The text of a template without interpolations and directives. -/
def literalText? : List Part → Option String
  | [] => some ""
  | .literal s :: ps => (literalText? ps).map (s ++ ·)
  | _ :: _ => none

mutual
def ofLiteral? : Expr → Option Value
  | .text s => some (.text s)
  | .number n => some (.number n)
  | .bool b => some (.bool b)
  | .list items => (ofLiterals? items).map .list
  | .object entries => (ofLiteralEntries? entries []).map .map
  | .template _ _ (some parts) => (literalText? parts).map .text
  | .paren e => ofLiteral? e
  | _ => none
def ofLiterals? : List Expr → Option (List Value)
  | [] => some []
  | e :: es => do some ((← ofLiteral? e) :: (← ofLiterals? es))
/-- The entries of a literal object after those already `done`. -/
def ofLiteralEntries? : List (Key × Expr) → OrderedMap Value → Option (OrderedMap Value)
  | [], done => some done
  | (k, e) :: es, done => do
    let key ← literalKey? k
    let value ← ofLiteral? e
    ofLiteralEntries? es (OrderedMap.insert done key value)
def literalKey? : Key → Option String
  | .ident name => some name
  | .expr e => (ofLiteral? e).bind scalar?
end

end TagAudit.Value
