/-
  TagAudit.Compliance.Result — what is found wrong with the tags of a resource.
-/

import TagAudit.Standard.ValueCheck

namespace TagAudit

/-- Kinds of violations, in the order in which they are listed. -/
inductive ViolationKind where
  | invalidDataType
  | invalidFormat
  | invalidValue
  | lengthExceeded
  | lengthTooShort
  | notAllowed
  | unresolvableValue
  deriving DecidableEq, Repr, Inhabited

namespace ViolationKind

def all : List ViolationKind :=
  [.invalidDataType, .invalidFormat, .invalidValue, .lengthExceeded, .lengthTooShort, .notAllowed, .unresolvableValue]

def name : ViolationKind → String
  | .invalidDataType => "invalid_data_type"
  | .invalidFormat => "invalid_format"
  | .invalidValue => "invalid_value"
  | .lengthExceeded => "length_exceeded"
  | .lengthTooShort => "length_too_short"
  | .notAllowed => "not_allowed"
  | .unresolvableValue => "unresolvable_value"

def ofName? (s : String) : Option ViolationKind := all.find? (·.name == s)

end ViolationKind

inductive Fault where
  | value (failure : CheckFailure)
  | notSingle
  | notAllowed (resourceType : String)
  | unresolvable
  deriving DecidableEq, Repr, Inhabited

namespace Fault

def kind : Fault → ViolationKind
  | .value (.dataType _) => .invalidDataType
  | .value (.format _) => .invalidFormat
  | .value (.allowed _) => .invalidValue
  | .value (.tooLong _) => .lengthExceeded
  | .value (.tooShort _) => .lengthTooShort
  | .notSingle => .invalidDataType
  | .notAllowed _ => .notAllowed
  | .unresolvable => .unresolvableValue

def expected? : Fault → Option String
  | .value failure => some failure.expected
  | .notSingle => some DataType.string.name
  | .notAllowed _ => none
  | .unresolvable => none

def message (key value : String) : Fault → String
  | .value failure => "Tag '" ++ key ++ "' value '" ++ value ++ "' " ++ failure.detail
  | .notSingle => "Tag '" ++ key ++ "' value '" ++ value ++ "' is not a single value"
  | .notAllowed type => "Tag '" ++ key ++ "' is not allowed on resource type '" ++ type ++ "'"
  | .unresolvable =>
    "Tag '" ++ key ++ "' value '" ++ value ++ "' cannot be validated: value could not be resolved"

end Fault

structure Violation where
  key : String
  value : String
  fault : Fault
  deriving DecidableEq, Repr, Inhabited

def Violation.kind (v : Violation) : ViolationKind := v.fault.kind

def Violation.message (v : Violation) : String := v.fault.message v.key v.value

inductive FixAction where
  | add
  | update
  | remove
  | format
  deriving DecidableEq, Repr, Inhabited

def FixAction.name : FixAction → String
  | .add => "add"
  | .update => "update"
  | .remove => "remove"
  | .format => "format"

structure SuggestedFix where
  key : String
  current : Option String
  suggested : Option String
  action : FixAction
  reason : String
  deriving DecidableEq, Repr, Inhabited

structure ResourceKey where
  type : String
  name : String
  file : String
  deriving DecidableEq, Repr, Inhabited

structure ComplianceResult where
  resource : ResourceKey
  compliant : Bool
  missing : List String
  violations : List Violation
  extra : List String
  fixes : List SuggestedFix
  deriving DecidableEq, Repr, Inhabited

/-! ## Writing -/

def Violation.json (v : Violation) : Json :=
  .obj ([("tag_key", .str v.key), ("tag_value", .str v.value), ("kind", .str v.kind.name)] ++
    Json.optional "expected" (v.fault.expected?.map .str) ++ [("message", .str v.message)])

def SuggestedFix.json (f : SuggestedFix) : Json :=
  .obj ([("tag_key", .str f.key)] ++ Json.optional "current_value" (f.current.map .str) ++
    Json.optional "suggested_value" (f.suggested.map .str) ++
    [("action", .str f.action.name), ("reason", .str f.reason)])

def ResourceKey.json (r : ResourceKey) : Json :=
  .obj [("resource_type", .str r.type), ("name", .str r.name), ("file_path", .str r.file)]

def ComplianceResult.json (r : ComplianceResult) : Json :=
  .obj [("resource", r.resource.json), ("is_compliant", .bool r.compliant), ("supports_tagging", .bool true),
    ("missing_tags", .ofStrings r.missing), ("violations", .arr (r.violations.map Violation.json)),
    ("extra_tags", .ofStrings r.extra), ("suggested_fixes", .arr (r.fixes.map SuggestedFix.json))]

end TagAudit
