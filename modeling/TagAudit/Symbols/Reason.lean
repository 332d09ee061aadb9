/-
  TagAudit.Symbols.Reason — why an expression has no value.
-/

import TagAudit.Value

namespace TagAudit.Symbols

inductive Reason where
  | isNull
  | unsupported
  | foreignReference
  | incompleteReference (name : String)
  | unknownFunction (name : String)
  | undefinedVariable (name : String)
  | valuelessVariable (name : String)
  | undefinedLocal (name : String)
  | cycle (names : List String)
  | keyNotScalar
  | missingKey (key : String)
  | notMap (key : String) (v : Value)
  | badPosition (n : Number)
  | outOfRange (position : Nat)
  | notList (v : Value)
  | badIndex (v : Value)
  | splat (reference : String)
  | badTemplate
  | severalInterpolations
  | directive
  | notScalar (v : Value)
  | expandedOperands
  | operandNotMap (v : Value)
  | operandUnresolved (reason : Reason)
  | noOperand
  deriving DecidableEq, Inhabited

def Reason.message : Reason → String
  | .isNull => "Value is null"
  | .unsupported => "Expression type is not supported"
  | .foreignReference => "Only var.* and local.* references are resolved"
  | .incompleteReference name => "Reference `" ++ name ++ "` is incomplete"
  | .unknownFunction name => "Function `" ++ name ++ "` is not evaluated"
  | .undefinedVariable name => "Variable `" ++ name ++ "` not defined"
  | .valuelessVariable name => "Variable `" ++ name ++ "` defined but no value provided and no default value"
  | .undefinedLocal name => "Local `" ++ name ++ "` not defined"
  | .cycle names => "Reference cycle between locals: " ++ String.intercalate " -> " names
  | .keyNotScalar => "Object key is not a string"
  | .missingKey key => "Key `" ++ key ++ "` not found"
  | .notMap key v => "Cannot look up `" ++ key ++ "` in " ++ v.display
  | .badPosition n => "Invalid list index " ++ n.text
  | .outOfRange position => "Index " ++ Number.integerText position ++ " out of range"
  | .notList v => "Cannot index " ++ v.display
  | .badIndex v => "Invalid index " ++ v.display
  | .splat reference => "Splat expressions are not resolved in `" ++ reference ++ "`"
  | .badTemplate => "Template could not be parsed: --> HCL parse error"
  | .severalInterpolations => "Strings with several interpolations are resolved per reference"
  | .directive => "Template directives are not resolved"
  | .notScalar v => "Interpolated value " ++ v.display ++ " is not a string"
  | .expandedOperands => "merge() with expanded arguments is not evaluated"
  | .operandNotMap v => "merge() operand " ++ v.display ++ " is not a map"
  | .operandUnresolved reason => "merge() operand could not be resolved: " ++ reason.message
  | .noOperand => "No merge() operand could be resolved"

end TagAudit.Symbols
