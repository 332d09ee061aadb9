/-
  TagAudit.Compliance.Validator — checking the tags of resources against a standard.

  For a type of resource the specs in force are those of the standard, changed by the rules
  that match the type. A required tag that is not there is missing, a tag that no spec speaks
  of is extra, and a tag that its spec refuses is a violation. Extra tags count only in a
  strict check.
-/

import TagAudit.Compliance.Glob
import TagAudit.Compliance.Result
import TagAudit.Standard.Check
import TagAudit.Value

namespace TagAudit

structure ValidationOptions where
  /-- Extra tags count against a resource. -/
  strict : Bool
  /-- Values of optional tags are not checked. -/
  ignoreOptional : Bool
  deriving DecidableEq, Repr, Inhabited

/-- A spec with its format ready to be matched. -/
structure CompiledSpec where
  spec : TagSpec
  pattern : Option Regex
  deriving Inhabited

namespace CompiledSpec

def ofSpec [Regex.Package] (s : TagSpec) : Except StandardError CompiledSpec :=
  match s.pattern with
  | none => .ok ⟨s, none⟩
  | some source =>
    match Regex.readWhole? source with
    | some r => .ok ⟨s, some r⟩
    | none => .error (.invalidPattern s.key)

def ofSpecs [Regex.Package] : List TagSpec → Except StandardError (List CompiledSpec)
  | [] => .ok []
  | s :: ss => do .ok ((← ofSpec s) :: (← ofSpecs ss))

def matchesKey (c : CompiledSpec) (key : String) : Bool := c.spec.matchesKey key

end CompiledSpec

structure CompiledRule where
  rule : ResourceRule
  overrides : List CompiledSpec

namespace CompiledRule

def ofRules [Regex.Package] : List ResourceRule → Except StandardError (List CompiledRule)
  | [] => .ok []
  | r :: rs => do .ok (⟨r, ← CompiledSpec.ofSpecs r.overrideTags⟩ :: (← ofRules rs))

def matchesType (r : CompiledRule) (type : String) : Bool := r.rule.resourceTypes.any (Glob.isMatch · type)

end CompiledRule

/-- The specs in force for a type of resource. -/
structure Requirements where
  required : List CompiledSpec
  optional : List CompiledSpec
  excluded : List CompiledSpec

structure Validator where
  standard : Standard
  options : ValidationOptions
  required : List CompiledSpec
  optional : List CompiledSpec
  rules : List CompiledRule

namespace Requirements

/-- Makes a tag required; `spec?` is what is known of it. -/
def require (spec? : String → Option CompiledSpec) (r : Requirements) (key : String) : Requirements :=
  let r := { r with optional := r.optional.filter (!·.matchesKey key) }
  if r.required.any (·.matchesKey key) then r else { r with required := r.required ++ (spec? key).toList }

/-- Makes a tag optional, unless it is known already. -/
def allow (spec? : String → Option CompiledSpec) (r : Requirements) (key : String) : Requirements :=
  if (r.required ++ r.optional).any (·.matchesKey key) then r
  else { r with optional := r.optional ++ (spec? key).toList }

def exclude (spec? : String → Option CompiledSpec) (r : Requirements) (key : String) : Requirements :=
  { r with excluded := r.excluded ++ (spec? key).toList }

/-- Puts a spec in the place of those with its key. -/
def replace (r : Requirements) (new : CompiledSpec) : Requirements :=
  let swap (c : CompiledSpec) : CompiledSpec := if c.matchesKey new.spec.key then new else c
  { r with required := r.required.map swap, optional := r.optional.map swap }

end Requirements

namespace Validator

def ofStandard [Regex.Package] (s : Standard) (options : ValidationOptions) : Except StandardError Validator := do
  s.check
  let required ← CompiledSpec.ofSpecs s.requiredTags
  let optional ← CompiledSpec.ofSpecs s.optionalTags
  let rules ← CompiledRule.ofRules s.resourceRules
  .ok ⟨s, options, required, optional, rules⟩

def isExcluded (v : Validator) (type : String) : Bool := v.standard.globalExcludes.contains type

def applyRule (v : Validator) (r : Requirements) (rule : CompiledRule) : Requirements :=
  let spec? (key : String) := (rule.overrides ++ v.required ++ v.optional).find? (·.matchesKey key)
  let r := rule.rule.requiredTags.foldl (Requirements.require spec?) r
  let r := rule.rule.optionalTags.foldl (Requirements.allow spec?) r
  let r := rule.rule.excludedTags.foldl (Requirements.exclude spec?) r
  rule.overrides.foldl Requirements.replace r

/-- The specs in force for a type of resource. -/
def requirements (v : Validator) (type : String) : Requirements :=
  (v.rules.filter (·.matchesType type)).foldl v.applyRule ⟨v.required, v.optional, []⟩

/-! ## Checking tags -/

def valueText (value : Value) : String := value.scalar?.getD value.display

/-- The violations of a tag by its spec. -/
def checkTag (c : CompiledSpec) (key : String) (value : Value) : List Violation :=
  if !value.isResolved then [⟨key, valueText value, .unresolvable⟩]
  else
    match value.scalar? with
    | none => [⟨key, valueText value, .notSingle⟩]
    | some s => (c.spec.check c.pattern s).map fun failure => ⟨key, s, .value failure⟩

/-- The value to suggest for a tag that breaks its spec. -/
def suggestedValue? (s : TagSpec) (value : String) : ViolationKind → Option String
  | .invalidValue =>
    let current := (Text.lowercase value).toList
    (s.allowedValues.find? fun a => Text.contains (Text.lowercase a).toList current).or s.allowedValues.head?
  | .invalidFormat => s.examples.head?.or s.defaultValue
  | .lengthTooShort =>
    (s.defaultValue.filter fun d => (s.minLength.getD 0).toNat ≤ d.length).or s.examples.head?
  | .lengthExceeded => s.maxLength.map fun most => String.ofList (value.toList.take most.toNat)
  | .invalidDataType => s.defaultValue.or s.examples.head?
  | .notAllowed => none
  | .unresolvableValue => none

/-- What can be done about a violation. -/
def suggestFix? (s : TagSpec) (v : Violation) : Option SuggestedFix :=
  match v.kind with
  | .notAllowed => none
  | .unresolvableValue => none
  | kind =>
    some ⟨v.key, some v.value, suggestedValue? s v.value kind, if kind = .lengthExceeded then .format else .update,
      v.message⟩

def addMissing (s : TagSpec) : SuggestedFix :=
  ⟨s.key, none, (s.defaultValue.or s.examples.head?).or s.allowedValues.head?, .add,
    "Required tag '" ++ s.key ++ "' is missing"⟩

inductive TagFinding where
  | extra
  | violations (vs : List Violation) (fixes : List SuggestedFix)

def findTag (options : ValidationOptions) (r : Requirements) (type key : String) (value : Value) : TagFinding :=
  if r.excluded.any (·.matchesKey key) then
    let v : Violation := ⟨key, valueText value, .notAllowed type⟩
    .violations [v] [⟨key, some v.value, none, .remove, v.message⟩]
  else
    let checked (c : CompiledSpec) : TagFinding :=
      let vs := checkTag c key value
      .violations vs (vs.filterMap (suggestFix? c.spec))
    match r.required.find? (·.matchesKey key), r.optional.find? (·.matchesKey key) with
    | some c, _ => checked c
    | none, some c => if options.ignoreOptional then .violations [] [] else checked c
    | none, none => .extra

namespace TagFinding

def violationsOf : TagFinding → List Violation
  | .extra => []
  | .violations vs _ => vs

def isExtra : TagFinding → Bool
  | .extra => true
  | .violations .. => false

def fixesOf (key : String) (value : Value) : TagFinding → List SuggestedFix
  | .extra =>
    [⟨key, some (valueText value), none, .remove, "Tag '" ++ key ++ "' is not defined in the standard"⟩]
  | .violations _ fixes => fixes

end TagFinding

def missingSpecs (r : Requirements) (tags : OrderedMap Value) : List TagSpec :=
  (r.required.filter fun c => !tags.keys.any (c.matchesKey ·)).map (·.spec)

def validate (v : Validator) (resource : ResourceKey) (tags : OrderedMap Value) : ComplianceResult :=
  if v.isExcluded resource.type then ⟨resource, true, [], [], [], []⟩
  else
    let r := v.requirements resource.type
    let missing := missingSpecs r tags
    let findings := tags.map fun (key, value) => (key, value, findTag v.options r resource.type key value)
    let violations := findings.flatMap fun (_, _, f) => f.violationsOf
    let extra := (findings.filter fun (_, _, f) => f.isExtra).map (·.1)
    { resource
      compliant := missing.isEmpty && violations.isEmpty && (!v.options.strict || extra.isEmpty)
      missing := missing.map (·.key)
      violations
      extra
      fixes := missing.map addMissing ++ findings.flatMap fun (key, value, f) => f.fixesOf key value }

end Validator
end TagAudit
