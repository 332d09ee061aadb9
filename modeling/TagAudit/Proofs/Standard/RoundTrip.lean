/-
  TagAudit.Proofs.Standard.RoundTrip — a standard is read back from what it is written as.

  A written record leaves out optional fields without a value and lists of values that are empty, and
  a reader takes a field that is not there for just that (`field_optional`, `field_strings`). No field
  is written twice, and each by the first of its names, so all of them are known (`knownFields?_eq_some`),
  in whatever order a format keeps them. Nothing else of the format matters: it has to take texts,
  numbers, lists and records for what they were written as (`DataFormat.Reads`), as JSON does with the
  members of its objects as they are (`Json.reads_format`) or sorted (`Json.reads_sorted`).

  Proved: `standard_restored`: every standard, whether it makes sense or not, is read back from its
  written form, in any such format, from JSON values and from JSON texts.
-/

import Mathlib.Data.List.Basic
import TagAudit.Proofs.Json.Reading
import TagAudit.Standard.Decoding

namespace TagAudit

/-! ## Written fields -/

namespace Json

@[simp]
theorem lookup_cons (key name : String) (value : Json) (members : List (String × Json)) :
    ((key, value) :: members).lookup name = if name = key then some value else members.lookup name := by
  rw [List.lookup_cons]
  split
  · rename_i h
    exact (if_pos (beq_iff_eq.mp h)).symm
  · rename_i h
    exact (if_neg (beq_eq_false_iff_ne.mp h)).symm

@[simp]
theorem lookup_optional (key name : String) (value : Option Json) :
    (optional key value).lookup name = if name = key then value else none := by
  cases value with
  | none => exact (ite_self none).symm
  | some v => exact lookup_cons key name v []

@[simp]
theorem lookup_unlessEmpty (key name : String) (ss : List String) :
    (unlessEmpty key ss).lookup name = if name = key then (if ss.isEmpty then none else some (.ofStrings ss)) else none := by
  unfold unlessEmpty
  cases ss.isEmpty with
  | true => exact (ite_self none).symm
  | false => exact lookup_cons key name _ []

def entries : Json → List (String × Json)
  | .obj members => members
  | _ => []

theorem keys_optional (key : String) (value : Option Json) : ((optional key value).map (·.1)).Sublist [key] := by
  cases value with
  | none => exact List.nil_sublist _
  | some v => exact List.Sublist.refl _

theorem keys_unlessEmpty (key : String) (ss : List String) : ((unlessEmpty key ss).map (·.1)).Sublist [key] := by
  unfold unlessEmpty
  split
  · exact List.nil_sublist _
  · exact List.Sublist.refl _

theorem keys_append {ms ms' : List (String × Json)} {names names' : List String} (h : (ms.map (·.1)).Sublist names)
    (h' : (ms'.map (·.1)).Sublist names') : ((ms ++ ms').map (·.1)).Sublist (names ++ names') := by
  rw [List.map_append]
  exact h.append h'

end Json

/-- The fields of a spec that are written, in their order. -/
theorem TagSpec.keys_json (s : TagSpec) : (s.json.entries.map (·.1)).Sublist
    ["key", "description", "allowed_values", "format", "data_type", "min_length", "max_length", "case_sensitive",
      "default_value", "examples"] := by
  have hfirst : ([("key", Json.str s.key), ("description", .str s.description)].map (·.1)).Sublist ["key", "description"] :=
    List.Sublist.refl _
  have hcase : ([("case_sensitive", Json.bool s.caseSensitive)].map (·.1)).Sublist ["case_sensitive"] :=
    List.Sublist.refl _
  have hformat := Json.keys_append (Json.keys_append hfirst (Json.keys_unlessEmpty "allowed_values" s.allowedValues))
    (Json.keys_optional "format" (s.pattern.map .str))
  have hlengths := Json.keys_append (Json.keys_append
    (Json.keys_append hformat (Json.keys_optional "data_type" (s.dataType.map fun t => .str t.name)))
    (Json.keys_optional "min_length" (s.minLength.map fun n => .ofNat n.toNat)))
    (Json.keys_optional "max_length" (s.maxLength.map fun n => .ofNat n.toNat))
  exact Json.keys_append (Json.keys_append (Json.keys_append hlengths hcase)
    (Json.keys_optional "default_value" (s.defaultValue.map .str))) (Json.keys_unlessEmpty "examples" s.examples)

theorem ResourceRule.keys_json (r : ResourceRule) : r.json.entries.map (·.1) =
    ["resource_types", "required_tags", "optional_tags", "excluded_tags", "override_tags"] := rfl

theorem Metadata.keys_json (m : Metadata) :
    (m.json.entries.map (·.1)).Sublist ["description", "author", "date", "version"] := by
  have hfirst : ([("description", Json.str m.description), ("author", .str m.author), ("date", .str m.date)].map
      (·.1)).Sublist ["description", "author", "date"] := List.Sublist.refl _
  exact Json.keys_append hfirst (Json.keys_optional "version" (m.version.map .str))

theorem Standard.keys_json (s : Standard) : s.json.entries.map (·.1) =
    ["version", "metadata", "cloud_provider", "required_tags", "optional_tags", "global_excludes", "resource_rules"] := rfl

/-! ## Fields that are read -/

/-- Fields of which none stands twice are all known, if each goes by the first of its names. -/
theorem knownFields?_eq_some {α : Type} {names : List (List String)} {entries : List (String × α)}
    (hfirst : ∀ name ∈ names.map (·.headD ""), (names.find? (·.contains name)).map (·.headD name) = some name)
    (hnodup : (entries.map (·.1)).Nodup) (h : entries.map (·.1) ⊆ names.map (·.headD "")) :
    knownFields? names entries = some entries := by
  have hknown : entries.filterMap (fun e => (names.find? (·.contains e.1)).map fun aliases => (aliases.headD e.1, e.2)) =
      entries := by
    refine (List.filterMap_congr fun e he => ?_).trans (List.filterMap_some (l := entries))
    obtain ⟨aliases, hfind, hhead⟩ := Option.map_eq_some_iff.mp (hfirst e.1 (h (List.mem_map_of_mem he)))
    rw [hfind, Option.map_some, hhead]
  unfold knownFields?
  dsimp only
  rw [hknown, if_pos hnodup]

namespace DataFormat

variable {α β : Type} {f : DataFormat α} {write : Json → α}

/-- What is written of JSON values is taken for what it is. The members of an object may come in
    another order. -/
structure Reads (f : DataFormat α) (write : Json → α) : Prop where
  string (s : String) : f.string? (write (.str s)) = some s
  nat (n : Nat) : n < UInt64.size → f.nat? (write (.ofNat n)) = some n
  bool (b : Bool) : f.bool? (write (.bool b)) = some b
  choice (s : String) : f.choice? (write (.str s)) = some s
  something (j : Json) : j ≠ .null → f.nothing? (write j) = some false
  list (items : List Json) : f.list? (write (.arr items)) = some (items.map write)
  record (names : List (List String)) (members : List (String × Json)) : (members.map (·.1)).Nodup →
    ∃ entries, entries.Perm (members.map fun m => (m.1, write m.2)) ∧
      f.fields? names (write (.obj members)) = knownFields? names entries

/-- Everything that is written by `json` is read back by `item`. -/
def Restores (write : Json → α) (item : α → Option β) (json : β → Json) : Prop := ∀ b, item (write (json b)) = some b

/-- Each field is there with what was written for it, and no other field. -/
def Holds (write : Json → α) (fields : List (String × α)) (members : List (String × Json)) : Prop :=
  ∀ name, fields.lookup name = (members.lookup name).map write

section
variable {item : α → Option β} {json : β → Json} {fields : List (String × α)} {members : List (String × Json)}
  {name : String}

theorem holds_of_perm (hnodup : (members.map (·.1)).Nodup)
    (h : fields.Perm (members.map fun m => (m.1, write m.2))) : Holds write fields members := by
  have hkeys : (OrderedMap.keys (members.map fun m => (m.1, write m.2))).Nodup := by
    rwa [OrderedMap.keys, List.map_map]
  intro name
  rw [OrderedMap.lookup_eq_get?, OrderedMap.lookup_eq_get?, ← OrderedMap.get?_of_perm hkeys h.symm]
  exact OrderedMap.get?_map (fun _ => write) members name

namespace Holds

variable (h : Holds write fields members)
include h

theorem need (hitem : Restores write item json) (b : β) (hb : members.lookup name = some (json b)) :
    DataFormat.need fields name item = some b := by
  unfold DataFormat.need
  rw [h, hb, Option.map_some, Option.bind_some, hitem]

theorem field (hitem : Restores write item json) (missing b : β) (hb : members.lookup name = some (json b)) :
    DataFormat.field fields name missing item = some b := by
  unfold DataFormat.field
  rw [h, hb, Option.map_some]
  exact hitem b

end Holds

namespace Reads

variable (h : f.Reads write)
include h

theorem listOf (hitem : Restores write item json) : Restores write (f.listOf? item) fun bs => .arr (bs.map json) := by
  intro bs
  unfold listOf?
  rw [h.list, Option.bind_eq_bind, Option.bind_some, List.map_map, List.mapM_map]
  induction bs with
  | nil => rfl
  | cons b bs ih =>
    rw [List.mapM_cons, ih, Function.comp_apply, Function.comp_apply, hitem]
    rfl

theorem strings : Restores write f.strings? Json.ofStrings := h.listOf h.string

/-- A field without a value is left out. -/
theorem field_optional (hfields : Holds write fields members) (hitem : Restores write item json)
    (hjson : ∀ b, json b ≠ .null) (value : Option β) (hvalue : members.lookup name = value.map json) :
    DataFormat.field fields name none (f.maybe? item) = some value := by
  unfold DataFormat.field maybe?
  rw [hfields, hvalue]
  cases value with
  | none => rfl
  | some b =>
    simp only [Option.map_some, h.something _ (hjson b), hitem b, Option.bind_eq_bind, Option.bind_some]
    rfl

/-- A list without items is left out. -/
theorem field_strings (hfields : Holds write fields members) (ss : List String)
    (hss : members.lookup name = if ss.isEmpty then none else some (.ofStrings ss)) :
    DataFormat.field fields name [] f.strings? = some ss := by
  cases ss with
  | nil =>
    unfold DataFormat.field
    rw [hfields, hss]
    rfl
  | cons s ss => exact hfields.field h.strings [] _ hss

theorem length : Restores write f.length? fun n => .ofNat n.toNat := by
  intro n
  have hn : n.toNat < UInt64.size := n.toNat_lt
  simp only [length?, below?, h.nat _ hn, Option.filter_some, hn, decide_true, if_true, Option.map_some,
    UInt64.ofNat_toNat]

theorem version : Restores write (fun a => (f.below? UInt32.size a).map UInt32.ofNat) fun n => .ofNat n.toNat := by
  intro n
  have hn : n.toNat < UInt32.size := n.toNat_lt
  have hfits : n.toNat < UInt64.size := Nat.lt_trans hn (by decide)
  simp only [below?, h.nat _ hfits, Option.filter_some, hn, decide_true, if_true, Option.map_some, UInt32.ofNat_toNat]

theorem dataType : Restores write (fun a => (f.choice? a).bind DataType.ofName?) fun t => .str t.name := by
  intro t
  simp only [h.choice, Option.bind_some]
  cases t <;> rfl

theorem provider : Restores write (fun a => (f.choice? a).bind Provider.ofName?) fun p => .str p.name := by
  intro p
  simp only [h.choice, Option.bind_some]
  cases p <;> rfl

end Reads
end

/-! ## Records -/

namespace Reads

variable (h : f.Reads write)
include h

/-- A record that was written is read if it is read from its fields. Each goes by the first of its names. -/
theorem bind_fields {names : List (List String)} {members : List (String × Json)}
    (hfirst : ∀ name ∈ names.map (·.headD ""), (names.find? (·.contains name)).map (·.headD name) = some name)
    (hnodup : (names.map (·.headD "")).Nodup) (hkeys : (members.map (·.1)).Sublist (names.map (·.headD "")))
    {read : List (String × α) → Option β} {b : β} (hread : ∀ fields, Holds write fields members → read fields = some b) :
    (f.fields? names (write (.obj members))).bind read = some b := by
  have hmembers : (members.map (·.1)).Nodup := hnodup.sublist hkeys
  obtain ⟨entries, hperm, hentries⟩ := h.record names members hmembers
  have hsame : (entries.map (·.1)).Perm (members.map (·.1)) := by
    have := hperm.map (·.1)
    rwa [List.map_map] at this
  have hknown : knownFields? names entries = some entries :=
    knownFields?_eq_some hfirst (hsame.nodup_iff.mpr hmembers) fun _ hname => hkeys.subset (hsame.subset hname)
  rw [hentries, hknown]
  exact hread entries (holds_of_perm hmembers hperm)

theorem tagSpec : Restores write f.tagSpec? TagSpec.json := by
  intro s
  refine h.bind_fields (by decide +kernel) (by decide +kernel) s.keys_json fun fields hfields => ?_
  rw [hfields.need h.string s.key (by simp), hfields.field h.string "" s.description (by simp),
    h.field_strings hfields s.allowedValues (by simp [List.lookup_append]),
    h.field_optional hfields h.string (by simp) s.pattern (by simp [List.lookup_append]),
    h.field_optional hfields h.dataType (by simp) s.dataType (by simp [List.lookup_append]),
    h.field_optional hfields h.length (by simp [Json.ofNat]) s.minLength (by simp [List.lookup_append]),
    h.field_optional hfields h.length (by simp [Json.ofNat]) s.maxLength (by simp [List.lookup_append]),
    hfields.field h.bool false s.caseSensitive (by simp [List.lookup_append]),
    h.field_optional hfields h.string (by simp) s.defaultValue (by simp [List.lookup_append]),
    h.field_strings hfields s.examples (by simp [List.lookup_append])]
  rfl

theorem resourceRule : Restores write f.resourceRule? ResourceRule.json := by
  intro r
  refine h.bind_fields (by decide +kernel) (by decide +kernel) (List.Sublist.refl _) fun fields hfields => ?_
  rw [hfields.need h.strings r.resourceTypes (by simp), hfields.field h.strings [] r.requiredTags (by simp),
    hfields.field h.strings [] r.optionalTags (by simp), hfields.field h.strings [] r.excludedTags (by simp),
    hfields.field (h.listOf h.tagSpec) [] r.overrideTags (by simp)]
  rfl

theorem metadata : Restores write f.metadata? Metadata.json := by
  intro m
  refine h.bind_fields (by decide +kernel) (by decide +kernel) m.keys_json fun fields hfields => ?_
  rw [hfields.field h.string "" m.description (by simp), hfields.field h.string "" m.author (by simp),
    hfields.field h.string "" m.date (by simp), h.field_optional hfields h.string (by simp) m.version (by simp)]
  rfl

theorem standard : Restores write f.standard? Standard.json := by
  intro s
  refine h.bind_fields (by decide +kernel) (by decide +kernel) (List.Sublist.refl _) fun fields hfields => ?_
  rw [hfields.need h.version s.version (by simp), hfields.field h.metadata _ s.metadata (by simp),
    hfields.need h.provider s.provider (by simp), hfields.field (h.listOf h.tagSpec) [] s.requiredTags (by simp),
    hfields.field (h.listOf h.tagSpec) [] s.optionalTags (by simp), hfields.field h.strings [] s.globalExcludes (by simp),
    hfields.field (h.listOf h.resourceRule) [] s.resourceRules (by simp)]
  rfl

end Reads
end DataFormat

/-! ## JSON -/

namespace Json

/-- Values as they are. -/
theorem reads_format : format.Reads id where
  string _ := rfl
  nat _ _ := rfl
  bool _ := rfl
  choice _ := rfl
  something j hj := by
    cases j with
    | null => exact absurd rfl hj
    | _ => rfl
  list items := congrArg some (List.map_id items).symm
  record _ members _ := ⟨members, .of_eq (List.map_id members).symm, rfl⟩

/-- Values with their members in the order of the keys. -/
theorem reads_sorted : format.Reads sorted where
  string _ := rfl
  nat _ _ := rfl
  bool _ := rfl
  choice _ := rfl
  something j hj := by
    cases j with
    | null => exact absurd rfl hj
    | _ => rfl
  list items := by
    rw [sorted, sortedItems_eq_map]
    rfl
  record _ members hmembers := ⟨sortedMembers members [], sortedMembers_perm hmembers, rfl⟩

/-! Written standards are plain: nothing in them is a fraction, and they are nested six deep. -/

variable {depth : Nat}

theorem plain_ofNat {n : Nat} (h : n < UInt64.size) : Plain depth (.ofNat n) :=
  .integer (fits_iff.mpr ⟨by omega, by unfold UInt64.size at h; omega⟩)

theorem plain_map {α : Type} {json : α → Json} (h : ∀ a, Plain depth (json a)) (as : List α) :
    Plain (depth + 1) (.arr (as.map json)) :=
  .arr (List.forall_mem_map.mpr fun a _ => h a)

theorem plain_ofStrings (ss : List String) : Plain (depth + 1) (.ofStrings ss) := plain_map .str ss

theorem plain_optional {α : Type} {json : α → Json} (key : String) (h : ∀ a, Plain depth (json a)) (value : Option α) :
    ∀ m ∈ optional key (value.map json), Plain depth m.2 := by
  cases value with
  | none => exact List.forall_mem_nil _
  | some a => exact List.forall_mem_singleton.mpr (h a)

theorem plain_unlessEmpty (key : String) (ss : List String) : ∀ m ∈ unlessEmpty key ss, Plain (depth + 1) m.2 := by
  unfold unlessEmpty
  cases ss.isEmpty with
  | true => exact List.forall_mem_nil _
  | false => exact List.forall_mem_singleton.mpr (plain_ofStrings ss)

end Json

section
open Json

variable {depth : Nat}

theorem TagSpec.plain_json (s : TagSpec) : Plain (depth + 2) s.json := by
  refine .obj (List.Nodup.sublist s.keys_json (by decide +kernel)) ?_
  simp only [List.forall_mem_append, List.forall_mem_cons, List.not_mem_nil, false_imp_iff, implies_true, and_true]
  exact ⟨⟨⟨⟨⟨⟨⟨⟨⟨.str _, .str _⟩, plain_unlessEmpty _ _⟩, plain_optional _ .str _⟩, plain_optional _ (fun _ => .str _) _⟩,
    plain_optional _ (fun n => plain_ofNat n.toNat_lt) _⟩, plain_optional _ (fun n => plain_ofNat n.toNat_lt) _⟩, .bool _⟩,
    plain_optional _ .str _⟩, plain_unlessEmpty _ _⟩

theorem ResourceRule.plain_json (r : ResourceRule) : Plain (depth + 4) r.json := by
  have hkeys : (r.json.entries.map (·.1)).Nodup := by
    rw [r.keys_json]
    decide +kernel
  refine .obj hkeys ?_
  simp only [List.forall_mem_cons, List.not_mem_nil, false_imp_iff, implies_true, and_true]
  exact ⟨plain_ofStrings _, plain_ofStrings _, plain_ofStrings _, plain_ofStrings _, plain_map TagSpec.plain_json _⟩

theorem Metadata.plain_json (m : Metadata) : Plain (depth + 1) m.json := by
  refine .obj (List.Nodup.sublist m.keys_json (by decide +kernel)) ?_
  simp only [List.forall_mem_append, List.forall_mem_cons, List.not_mem_nil, false_imp_iff, implies_true, and_true]
  exact ⟨⟨.str _, .str _, .str _⟩, plain_optional _ .str _⟩

theorem Standard.plain_json (s : Standard) : Plain (depth + 6) s.json := by
  have hkeys : (s.json.entries.map (·.1)).Nodup := by
    rw [s.keys_json]
    decide +kernel
  refine .obj hkeys ?_
  simp only [List.forall_mem_cons, List.not_mem_nil, false_imp_iff, implies_true, and_true]
  exact ⟨plain_ofNat (Nat.lt_trans s.version.toNat_lt (by decide)), s.metadata.plain_json, .str _,
    plain_map TagSpec.plain_json _, plain_map TagSpec.plain_json _, plain_ofStrings _, plain_map ResourceRule.plain_json _⟩

end

/-- Every standard is read back from what it is written as: from data of any format that takes
    texts, numbers, lists and records for what they were, from a JSON value, and from its text. -/
theorem standard_restored (s : Standard) :
    (∀ (α : Type) (f : DataFormat α) (write : Json → α), f.Reads write → f.standard? (write s.json) = some s) ∧
    Standard.ofJson? s.json = some s ∧
    Standard.ofJson? s.json.sorted = some s ∧
    (Json.read? s.json.compact).bind Standard.ofJson? = some s := by
  have hread : Json.read? s.json.compact = some s.json := Json.read?_compact s.plain_json
  refine ⟨fun α f write h => h.standard s, Json.reads_format.standard s, Json.reads_sorted.standard s, ?_⟩
  rw [hread]
  exact Json.reads_format.standard s

/-- A standard with every field, and one spec and one rule with as few as they can have. -/
def restoredStandard : Standard :=
  { version := 2
    metadata := ⟨"Tags", "platform", "2024-01-01", some "1.0"⟩
    provider := .aws
    requiredTags := [
      { key := "Env"
        description := "stage"
        allowedValues := ["prod", "dev"]
        pattern := some "^[a-z]+$"
        dataType := some .string
        minLength := some 2
        maxLength := some 9
        caseSensitive := true
        defaultValue := some "dev"
        examples := ["prod", ""] },
      ⟨"Owner", "", [], none, none, none, none, false, none, []⟩]
    optionalTags := []
    globalExcludes := ["aws_route53_zone"]
    resourceRules := [⟨["aws_s3_*"], [], [], [], []⟩] }

theorem standard_restored_restoredStandard :
    Json.format.Reads Json.sorted ∧ Json.format.standard? restoredStandard.json.sorted = some restoredStandard :=
  ⟨Json.reads_sorted, (standard_restored restoredStandard).1 Json Json.format Json.sorted Json.reads_sorted⟩

end TagAudit
