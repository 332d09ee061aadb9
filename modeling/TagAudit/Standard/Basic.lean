/-
  TagAudit.Standard.Basic — tagging standards: which tags resources have to carry.

  A standard declares the tags that are required or optional, what their values have to be
  like, and rules that change this for some types of resources.
-/

import TagAudit.Catalog
import TagAudit.Json.Basic
import TagAudit.Text.Case

namespace TagAudit

inductive DataType where
  | string
  | numeric
  | alphanumeric
  | email
  | url
  | date
  | boolean
  | cron
  deriving DecidableEq, Repr, Inhabited

namespace DataType

def all : List DataType := [.string, .numeric, .alphanumeric, .email, .url, .date, .boolean, .cron]

def name : DataType → String
  | .string => "string"
  | .numeric => "numeric"
  | .alphanumeric => "alphanumeric"
  | .email => "email"
  | .url => "url"
  | .date => "date"
  | .boolean => "boolean"
  | .cron => "cron"

def ofName? (s : String) : Option DataType := all.find? (·.name == s)

end DataType

structure TagSpec where
  key : String
  description : String
  allowedValues : List String
  /-- A regular expression for the whole value. -/
  pattern : Option String
  dataType : Option DataType
  minLength : Option UInt64
  maxLength : Option UInt64
  caseSensitive : Bool
  defaultValue : Option String
  examples : List String
  deriving DecidableEq, Repr, Inhabited

/-- Whether a key is that of the spec; case counts only where the spec says so. -/
def TagSpec.matchesKey (s : TagSpec) (key : String) : Bool :=
  if s.caseSensitive then s.key == key else Text.sameLetters s.key key

theorem TagSpec.matchesKey_self (s : TagSpec) : s.matchesKey s.key := by
  unfold matchesKey
  split
  · exact beq_self_eq_true s.key
  · exact Text.sameLetters_refl s.key

theorem TagSpec.sameLetters_of_matchesKey {s : TagSpec} {key : String} (h : s.matchesKey key) :
    Text.sameLetters s.key key := by
  unfold matchesKey at h
  split at h
  · rw [beq_iff_eq.mp h]
    exact Text.sameLetters_refl key
  · exact h

/-- What changes for the types of resources that one of the patterns matches. -/
structure ResourceRule where
  resourceTypes : List String
  requiredTags : List String
  optionalTags : List String
  excludedTags : List String
  /-- Specs that take the place of those of the standard with the same key. -/
  overrideTags : List TagSpec
  deriving DecidableEq, Repr, Inhabited

structure Metadata where
  description : String
  author : String
  date : String
  version : Option String
  deriving DecidableEq, Repr, Inhabited

structure Standard where
  version : UInt32
  metadata : Metadata
  provider : Provider
  requiredTags : List TagSpec
  optionalTags : List TagSpec
  /-- Types of resources that the standard leaves alone. -/
  globalExcludes : List String
  resourceRules : List ResourceRule
  deriving DecidableEq, Repr, Inhabited

def Standard.specs (s : Standard) : List TagSpec := s.requiredTags ++ s.optionalTags

def Standard.findSpec? (s : Standard) (key : String) : Option TagSpec := s.specs.find? (·.matchesKey key)

/-! ## Writing -/

def Json.unlessEmpty (key : String) (ss : List String) : List (String × Json) :=
  if ss.isEmpty then [] else [(key, .ofStrings ss)]

def TagSpec.json (s : TagSpec) : Json :=
  .obj ([("key", .str s.key), ("description", .str s.description)] ++
    Json.unlessEmpty "allowed_values" s.allowedValues ++
    Json.optional "format" (s.pattern.map .str) ++
    Json.optional "data_type" (s.dataType.map fun t => .str t.name) ++
    Json.optional "min_length" (s.minLength.map fun n => .ofNat n.toNat) ++
    Json.optional "max_length" (s.maxLength.map fun n => .ofNat n.toNat) ++
    [("case_sensitive", .bool s.caseSensitive)] ++
    Json.optional "default_value" (s.defaultValue.map .str) ++
    Json.unlessEmpty "examples" s.examples)

def ResourceRule.json (r : ResourceRule) : Json :=
  .obj [("resource_types", .ofStrings r.resourceTypes), ("required_tags", .ofStrings r.requiredTags),
    ("optional_tags", .ofStrings r.optionalTags), ("excluded_tags", .ofStrings r.excludedTags),
    ("override_tags", .arr (r.overrideTags.map TagSpec.json))]

def Metadata.json (m : Metadata) : Json :=
  .obj ([("description", .str m.description), ("author", .str m.author), ("date", .str m.date)] ++
    Json.optional "version" (m.version.map .str))

def Standard.json (s : Standard) : Json :=
  .obj [("version", .ofNat s.version.toNat), ("metadata", s.metadata.json), ("cloud_provider", .str s.provider.name),
    ("required_tags", .arr (s.requiredTags.map TagSpec.json)), ("optional_tags", .arr (s.optionalTags.map TagSpec.json)),
    ("global_excludes", .ofStrings s.globalExcludes), ("resource_rules", .arr (s.resourceRules.map ResourceRule.json))]

end TagAudit
