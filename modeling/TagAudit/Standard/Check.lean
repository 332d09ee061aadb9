/-
  TagAudit.Standard.Check — whether a standard makes sense.

  Keys are not empty and not declared twice, formats can be read, examples comply with their
  specs, and rules only speak of tags that are declared.
-/

import TagAudit.Standard.ValueCheck

namespace TagAudit

inductive StandardError where
  | io
  | notStandard
  | unsupportedVersion (version : UInt32)
  | emptyKey
  | duplicateKey (key : String)
  | invalidPattern (key : String)
  | lengthBounds (key : String) (least most : UInt64)
  | emptyAllowedValue (key : String)
  | emptyRuleTypes (rule : Nat)
  | unknownRuleTag (rule : Nat) (key : String)
  | invalidExample (key sample reason : String)
  deriving DecidableEq, Repr, Inhabited

def Standard.supportedVersion : UInt32 := 1

def StandardError.message : StandardError → String
  | .io => "unable to read standard"
  | .notStandard => "unable to parse standard"
  | .unsupportedVersion version =>
    "unsupported standard version " ++ Number.integerText version.toNat ++ ", expected " ++
      Number.integerText Standard.supportedVersion.toNat
  | .emptyKey => "tag spec with empty key"
  | .duplicateKey key => "tag `" ++ key ++ "` is declared more than once"
  | .invalidPattern key => "invalid format for tag `" ++ key ++ "`"
  | .lengthBounds key least most =>
    "tag `" ++ key ++ "` has max_length " ++ Number.integerText most.toNat ++ " below min_length " ++
      Number.integerText least.toNat
  | .emptyAllowedValue key => "tag `" ++ key ++ "` allows an empty value"
  | .emptyRuleTypes rule => "resource rule #" ++ Number.integerText rule ++ " has no resource types"
  | .unknownRuleTag rule key =>
    "resource rule #" ++ Number.integerText rule ++ " references undeclared tag `" ++ key ++ "`"
  | .invalidExample key sample reason => "example `" ++ sample ++ "` of tag `" ++ key ++ "` is invalid: " ++ reason

namespace TagSpec

/-- What is wrong with a value, if anything. -/
def valueProblem? [Regex.Package] (s : TagSpec) (value : String) : Option String :=
  match s.pattern with
  | none => ((s.check none value).head?).map CheckFailure.detail
  | some source =>
    match Regex.readWhole? source with
    | none => some "format is not a valid regular expression"
    | some r => ((s.check (some r) value).head?).map CheckFailure.detail

def isBlank (s : String) : Bool := (Text.trim s.toList).isEmpty

def checkPattern [Regex.Package] (s : TagSpec) : Except StandardError Unit :=
  match s.pattern with
  | some source => if (Regex.read? source).isSome then .ok () else .error (.invalidPattern s.key)
  | none => .ok ()

def checkBounds (s : TagSpec) : Except StandardError Unit :=
  match s.minLength, s.maxLength with
  | some least, some most => if most < least then .error (.lengthBounds s.key least most) else .ok ()
  | _, _ => .ok ()

def checkExamples [Regex.Package] (s : TagSpec) : List String → Except StandardError Unit
  | [] => .ok ()
  | sample :: samples =>
    match s.valueProblem? sample with
    | some reason => .error (.invalidExample s.key sample reason)
    | none => checkExamples s samples

def checkSpec [Regex.Package] (s : TagSpec) : Except StandardError Unit := do
  if isBlank s.key then .error .emptyKey
  s.checkPattern
  s.checkBounds
  if s.allowedValues.any (·.isEmpty) then .error (.emptyAllowedValue s.key)
  s.checkExamples s.examples

end TagSpec

namespace Standard

/-- Checks specs one after the other; `seen` are those before. -/
def checkSpecs [Regex.Package] (seen : List TagSpec) : List TagSpec → Except StandardError Unit
  | [] => .ok ()
  | s :: ss => do
    s.checkSpec
    if seen.any fun other => other.matchesKey s.key || s.matchesKey other.key then .error (.duplicateKey s.key)
    checkSpecs (s :: seen) ss

def checkOverrides [Regex.Package] : List TagSpec → Except StandardError Unit
  | [] => .ok ()
  | s :: ss => do
    s.checkSpec
    checkOverrides ss

def checkRule [Regex.Package] (s : Standard) (index : Nat) (r : ResourceRule) : Except StandardError Unit := do
  if r.resourceTypes.isEmpty || r.resourceTypes.any TagSpec.isBlank then .error (.emptyRuleTypes index)
  let isKnown (key : String) : Bool := (s.findSpec? key).isSome || r.overrideTags.any (·.matchesKey key)
  match (r.requiredTags ++ r.optionalTags ++ r.excludedTags).find? (!isKnown ·) with
  | some key => .error (.unknownRuleTag index key)
  | none => checkOverrides r.overrideTags

def checkRules [Regex.Package] (s : Standard) (index : Nat) : List ResourceRule → Except StandardError Unit
  | [] => .ok ()
  | r :: rs => do
    s.checkRule index r
    s.checkRules (index + 1) rs

def check [Regex.Package] (s : Standard) : Except StandardError Unit := do
  if s.version ≠ supportedVersion then .error (.unsupportedVersion s.version)
  checkSpecs [] s.specs
  s.checkRules 0 s.resourceRules

end Standard
end TagAudit
