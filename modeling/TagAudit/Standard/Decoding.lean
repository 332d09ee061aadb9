/-
  TagAudit.Standard.Decoding — reading a standard from structured data.

  A `DataFormat` says how data of a format is taken for a text, a number, a list or a record;
  `DataFormat.standard?` reads a standard from data of any format, `Json.format` is the one of
  JSON values.
-/

import TagAudit.Standard.Basic

namespace TagAudit

/-- How data is taken for what is wanted. A record has fields, each with the names it may go
    by; fields with other names are passed over, and none may stand twice. -/
structure DataFormat (α : Type) where
  string? : α → Option String
  nat? : α → Option Nat
  bool? : α → Option Bool
  /-- The name of one of several choices. -/
  choice? : α → Option String
  /-- Whether the data says that there is no value. -/
  nothing? : α → Option Bool
  list? : α → Option (List α)
  /-- The fields of a record by the first of their names. -/
  fields? : List (List String) → α → Option (List (String × α))

namespace DataFormat

variable {α β : Type} (f : DataFormat α)

/-- A list with every item read. -/
def listOf? (item : α → Option β) (a : α) : Option (List β) := do (← f.list? a).mapM item

def maybe? (item : α → Option β) (a : α) : Option (Option β) := do
  if ← f.nothing? a then some none else (item a).map some

def need (fields : List (String × α)) (name : String) (item : α → Option β) : Option β :=
  (fields.lookup name).bind item

def field (fields : List (String × α)) (name : String) (missing : β) (item : α → Option β) : Option β :=
  match fields.lookup name with
  | some a => item a
  | none => some missing

def strings? : α → Option (List String) := f.listOf? f.string?

def below? (bound : Nat) (a : α) : Option Nat := (f.nat? a).filter (· < bound)

def length? (a : α) : Option UInt64 := (f.below? UInt64.size a).map UInt64.ofNat

def tagSpec? (a : α) : Option TagSpec := do
  let fs ← f.fields? [["key"], ["description"], ["allowed_values"], ["format", "pattern"], ["data_type"],
    ["min_length"], ["max_length"], ["case_sensitive"], ["default_value"], ["examples"]] a
  some
    { key := ← need fs "key" f.string?
      description := ← field fs "description" "" f.string?
      allowedValues := ← field fs "allowed_values" [] f.strings?
      pattern := ← field fs "format" none (f.maybe? f.string?)
      dataType := ← field fs "data_type" none (f.maybe? fun a => (f.choice? a).bind DataType.ofName?)
      minLength := ← field fs "min_length" none (f.maybe? f.length?)
      maxLength := ← field fs "max_length" none (f.maybe? f.length?)
      caseSensitive := ← field fs "case_sensitive" false f.bool?
      defaultValue := ← field fs "default_value" none (f.maybe? f.string?)
      examples := ← field fs "examples" [] f.strings? }

def resourceRule? (a : α) : Option ResourceRule := do
  let fs ← f.fields? [["resource_types"], ["required_tags"], ["optional_tags"], ["excluded_tags"],
    ["override_tags"]] a
  some
    { resourceTypes := ← need fs "resource_types" f.strings?
      requiredTags := ← field fs "required_tags" [] f.strings?
      optionalTags := ← field fs "optional_tags" [] f.strings?
      excludedTags := ← field fs "excluded_tags" [] f.strings?
      overrideTags := ← field fs "override_tags" [] (f.listOf? f.tagSpec?) }

def metadata? (a : α) : Option Metadata := do
  let fs ← f.fields? [["description"], ["author"], ["date"], ["version"]] a
  some
    { description := ← field fs "description" "" f.string?
      author := ← field fs "author" "" f.string?
      date := ← field fs "date" "" f.string?
      version := ← field fs "version" none (f.maybe? f.string?) }

def standard? (a : α) : Option Standard := do
  let fs ← f.fields? [["version"], ["metadata"], ["cloud_provider"], ["required_tags"], ["optional_tags"],
    ["global_excludes"], ["resource_rules"]] a
  some
    { version := ← need fs "version" fun a => (f.below? UInt32.size a).map UInt32.ofNat
      metadata := ← field fs "metadata" ⟨"", "", "", none⟩ f.metadata?
      provider := ← need fs "cloud_provider" fun a => (f.choice? a).bind Provider.ofName?
      requiredTags := ← field fs "required_tags" [] (f.listOf? f.tagSpec?)
      optionalTags := ← field fs "optional_tags" [] (f.listOf? f.tagSpec?)
      globalExcludes := ← field fs "global_excludes" [] f.strings?
      resourceRules := ← field fs "resource_rules" [] (f.listOf? f.resourceRule?) }

end DataFormat

/-- The known entries of a record, by the first of the names of their fields; none if a field
    stands twice. -/
def knownFields? {α : Type} (names : List (List String)) (entries : List (String × α)) : Option (List (String × α)) :=
  let known := entries.filterMap fun (key, a) =>
    (names.find? (·.contains key)).map fun aliases => (aliases.headD key, a)
  if (known.map (·.1)).Nodup then some known else none

namespace Json

/-- A record is an object, or an array with the fields in order. A choice is its name, or an
    object that says nothing of it. -/
def format : DataFormat Json where
  string?
    | .str s => some s
    | _ => none
  nat?
    | .number n => n.toNat?
    | _ => none
  bool?
    | .bool b => some b
    | _ => none
  choice?
    | .str s => some s
    | .obj [(name, .null)] => some name
    | _ => none
  nothing?
    | .null => some true
    | _ => some false
  list?
    | .arr items => some items
    | _ => none
  fields? names
    | .obj members => knownFields? names members
    | .arr items => if names.length < items.length then none else some ((names.map (·.headD "")).zip items)
    | _ => none

end Json

def Standard.ofJson? (j : Json) : Option Standard := Json.format.standard? j

end TagAudit
