/-
  TagAudit.Proofs.Overrides.Notations — the two notations of files of values.

  A file of values is a JSON object or a list of attributes. Values are the same in both notations
  up to the order of entries in maps (`Value.Alike`): the members of a JSON object are sorted by
  key (`alike_sorted`), the entries of a literal stay as they stand. Maps that are alike stay alike
  whatever is inserted into both (`AlikeEntries.insertAll`).

  They differ in two ways. A JSON object may be nested 127 deep at most, itself included, and
  attributes as deep as one likes. And an attribute with a null in its value is passed over, so
  that its name keeps the value that it had.

  Proved: `addFile_notations`: a map of plain values that is not nested too deep is loaded from
  either notation, and leaves the same values but for names whose value has a null in it.
  `notations_differ` has a list nested too deep, and a null.
-/

import Mathlib.Data.List.Forall2
import TagAudit.Overrides
import TagAudit.Proofs.Hcl.Literals

namespace TagAudit

open FileTree Hcl

/-! ## Values up to the order of entries -/

namespace Value

mutual
/-- Two values that differ in nothing but the order of entries in maps. -/
inductive Alike : Value → Value → Prop
  | same (v : Value) : Alike v v
  | list {vs ws : List Value} (h : List.Forall₂ Alike vs ws) : Alike (.list vs) (.list ws)
  | map {es fs gs : List (String × Value)} (h : List.Forall₂ AlikeEntry es gs) (hperm : gs.Perm fs) :
      Alike (.map es) (.map fs)
inductive AlikeEntry : String × Value → String × Value → Prop
  | mk (key : String) {v w : Value} (h : Alike v w) : AlikeEntry (key, v) (key, w)
end

/-- The same keys in the same order, with values that are alike. -/
abbrev AlikeEntries : OrderedMap Value → OrderedMap Value → Prop := List.Forall₂ AlikeEntry

theorem AlikeEntries.same (m : OrderedMap Value) : AlikeEntries m m :=
  List.forall₂_same.mpr fun e _ => .mk e.1 (.same e.2)

theorem AlikeEntries.insert {m n : OrderedMap Value} (h : AlikeEntries m n) (key : String) {v w : Value}
    (hv : Alike v w) : AlikeEntries (OrderedMap.insert m key v) (OrderedMap.insert n key w) := by
  induction h with
  | nil => exact .cons (.mk key hv) .nil
  | cons he hrest ih =>
    obtain ⟨k, hvalue⟩ := he
    by_cases hk : k = key
    · rw [OrderedMap.insert, OrderedMap.insert, if_pos hk, if_pos hk]
      exact .cons (.mk k hv) hrest
    · rw [OrderedMap.insert, OrderedMap.insert, if_neg hk, if_neg hk]
      exact .cons (.mk k hvalue) ih

theorem AlikeEntries.insertAll {m n es fs : OrderedMap Value} (h : AlikeEntries m n) (hes : AlikeEntries es fs) :
    AlikeEntries (OrderedMap.insertAll m es) (OrderedMap.insertAll n fs) := by
  induction hes generalizing m n with
  | nil => exact h
  | cons he hrest ih =>
    obtain ⟨key, hvalue⟩ := he
    exact ih (h.insert key hvalue)

/-! ## Values with sorted members -/

theorem ofJsonMembers_eq_map (members : List (String × Json)) :
    ofJsonMembers members = members.map fun m => (m.1, ofJson m.2) := by
  induction members with
  | nil => rfl
  | cons m ms ih => rw [ofJsonMembers, ih, List.map_cons]

theorem alike_sorted {depth : Nat} {j : Json} (h : Json.Plain depth j) : Alike (ofJson j) (ofJson j.sorted) := by
  induction h with
  | null => exact .same _
  | bool b => exact .same _
  | integer => exact .same _
  | str s => exact .same _
  | arr h ih =>
    rename_i depth items
    refine .list ?_
    clear h
    induction items with
    | nil => exact .nil
    | cons j js ihjs => exact .cons (ih j List.mem_cons_self) (ihjs fun k hk => ih k (List.mem_cons_of_mem _ hk))
  | obj hkeys h ih =>
    rename_i depth members
    have hperm : (Json.sortedMembers members []).Perm _ := Json.sortedMembers_perm hkeys
    have hsorted : (members.map fun m => (m.1, ofJson m.2.sorted)).Perm
        (ofJsonMembers (Json.sortedMembers members [])) := by
      have := (hperm.map fun m => (m.1, ofJson m.2)).symm
      simpa [ofJsonMembers_eq_map, Function.comp_def] using this
    refine .map ?_ hsorted
    rw [ofJsonMembers_eq_map, List.forall₂_map_left_iff, List.forall₂_map_right_iff, List.forall₂_same]
    exact fun m hm => .mk m.1 (ih m hm)

end Value

/-! ## Files in both notations -/

namespace Overrides

/-- The names whose values have a null in them. -/
def nullNames (members : List (String × Json)) : List String := OrderedMap.keys (members.filter (·.2.hasNull))

section
variable {members : List (String × Json)}

theorem mem_nullNames_iff (hdistinct : (OrderedMap.keys members).Nodup) {m : String × Json} (hm : m ∈ members) :
    m.1 ∈ nullNames members ↔ m.2.hasNull := by
  constructor
  · intro hmem
    obtain ⟨n, hn, hkey⟩ := List.mem_map.mp hmem
    obtain ⟨hn, hnull⟩ := List.mem_filter.mp hn
    have hvalue : some n.2 = some m.2 := by
      rw [← (OrderedMap.get?_eq_some_iff_mem hdistinct).mpr hn, hkey, (OrderedMap.get?_eq_some_iff_mem hdistinct).mpr hm]
    exact Option.some.inj hvalue ▸ hnull
  · intro hnull
    exact List.mem_map_of_mem (List.mem_filter.mpr ⟨hm, hnull⟩)

theorem filter_nullNames (hdistinct : (OrderedMap.keys members).Nodup) :
    members.filter (fun m => decide (m.1 ∉ nullNames members)) = members.filter fun m => !m.2.hasNull := by
  refine List.filter_congr fun m hm => ?_
  have hiff := mem_nullNames_iff hdistinct hm
  cases hnull : m.2.hasNull <;> simp [hiff, hnull]

/-- The values of the attributes that a map is written as: those without null. -/
theorem ofBody_attributes {depth : Nat} (h : ∀ m ∈ members, Json.Plain depth m.2) {body : Body}
    (hbody : body.attributes.map (fun a => (a.name, a.value)) = members.map fun m => (m.1, exprOf m.2)) :
    ofBody body = (members.filter fun m => !m.2.hasNull).map fun m => (m.1, Value.ofJson m.2) := by
  have hattributes : ofBody body = (body.attributes.map fun a => (a.name, a.value)).filterMap
      fun a => (Value.ofLiteral? a.2).map (a.1, ·) := by
    rw [ofBody, List.filterMap_map]
    rfl
  rw [hattributes, hbody, List.filterMap_map]
  clear hattributes hbody
  induction members with
  | nil => rfl
  | cons m ms ih =>
    have hrest := ih fun n hn => h n (List.mem_cons_of_mem _ hn)
    rw [List.filterMap_cons, Function.comp_apply, ofLiteral?_exprOf (h m List.mem_cons_self), hrest, List.filter_cons]
    cases m.2.hasNull <;> rfl

variable {w : Workspace} {path : String}

theorem addFile_of_read (o : Overrides) {text : String} (h : w.read path = .ok text) :
    o.addFile w path = (ofFileText path text).map o.insertAll := by
  have hfile : readFile w path = .ok text := by rw [readFile, h]
  unfold addFile
  rw [hfile]
  show (ofFileText path text >>= fun values => .ok (o.insertAll values)) = _
  cases ofFileText path text <;> rfl

theorem addFile_attributes (o : Overrides) {depth : Nat} (hdistinct : (OrderedMap.keys members).Nodup)
    (hnames : ∀ m ∈ members, IsIdent m.1) (h : ∀ m ∈ members, Json.Plain depth m.2)
    (hpath : extension? path ≠ some "json") (hread : w.read path = .ok (attributesText members)) :
    o.addFile w path =
      .ok (o.insertAll ((members.filter fun m => !m.2.hasNull).map fun m => (m.1, Value.ofJson m.2))) := by
  obtain ⟨body, hbody, hattributes⟩ := read_attributesText hdistinct hnames h
  have hvalues : ofFileText path (attributesText members) = .ok (ofBody body) := by
    rw [ofFileText, if_neg hpath, hbody]
  rw [addFile_of_read o hread, hvalues, ofBody_attributes h hattributes]
  rfl

theorem addFile_object (o : Overrides) {text : String} (hpath : extension? path = some "json")
    (hread : w.read path = .ok text) (htext : Json.read? text = some (.obj members)) :
    o.addFile w path = .ok (o.insertAll (members.map fun m => (m.1, Value.ofJson m.2.sorted))) := by
  have hvalues : ofFileText path text = .ok (members.map fun m => (m.1, Value.ofJson m.2.sorted)) := by
    rw [ofFileText, if_pos hpath, ofJsonText?, htext]
  rw [addFile_of_read o hread, hvalues]
  rfl

end

/-- A map of plain values that is nested at most as deep as a JSON text may be has a JSON text, and
    from any JSON text of it one loads the same values as from its attributes, up to the order of
    entries in maps. Only names whose values have a null in them are left aside; from attributes, those
    whose value is null keep the values that they had. -/
theorem addFile_notations (o : Overrides) {members : List (String × Json)}
    (hdistinct : (OrderedMap.keys members).Nodup) (hnames : ∀ m ∈ members, IsIdent m.1)
    (hplain : ∀ m ∈ members, Json.Plain 126 m.2) :
    Json.read? (Json.compact (.obj members)) = some (.obj members) ∧
    ∀ (w : Workspace) (jsonPath path text : String),
      extension? jsonPath = some "json" → w.read jsonPath = .ok text → Json.read? text = some (.obj members) →
      extension? path ≠ some "json" → w.read path = .ok (attributesText members) →
      ∃ o₁ o₂, o.addFile w jsonPath = .ok o₁ ∧ o.addFile w path = .ok o₂ ∧
        Value.AlikeEntries (o₂.filter (·.1 ∉ nullNames members)) (o₁.filter (·.1 ∉ nullNames members)) ∧
        ∀ m ∈ members, m.2 = .null → o₂.get? m.1 = o.get? m.1 := by
  refine ⟨Json.read?_compact (.obj hdistinct hplain), fun w jsonPath path text hjson hjsonText htext hpath hread => ?_⟩
  refine ⟨_, _, addFile_object o hjson hjsonText htext, addFile_attributes o hdistinct hnames hplain hpath hread, ?_, ?_⟩
  · rw [OrderedMap.filter_insertAll (fun name => decide (name ∉ nullNames members)),
      OrderedMap.filter_insertAll (fun name => decide (name ∉ nullNames members))]
    refine (Value.AlikeEntries.same _).insertAll ?_
    rw [← filter_nullNames hdistinct, List.filter_map, List.filter_map]
    simp only [Function.comp_def, List.filter_filter, Bool.and_self]
    rw [Value.AlikeEntries, List.forall₂_map_left_iff, List.forall₂_map_right_iff, List.forall₂_same]
    exact fun m hm => .mk m.1 (Value.alike_sorted (hplain m (List.mem_of_mem_filter hm)))
  · intro m₀ hm₀ hnull₀
    have hname : m₀.1 ∈ nullNames members := (mem_nullNames_iff hdistinct hm₀).mpr (by rw [hnull₀]; rfl)
    refine OrderedMap.get?_insertAll_of_forall_ne o fun e he hkey => ?_
    obtain ⟨m, hm, rfl⟩ := List.mem_map.mp he
    obtain ⟨hm, hnull⟩ := List.mem_filter.mp hm
    rw [(mem_nullNames_iff hdistinct hm).mp (hkey ▸ hname)] at hnull
    contradiction

def bothNotations (members : List (String × Json)) : Workspace where
  root := .directory [("values.tfvars.json", .file (some (Json.compact (.obj members)))),
    ("values.tfvars", .file (some (attributesText members)))]
  current := []

theorem read_bothNotations (members : List (String × Json)) :
    (bothNotations members).read "values.tfvars.json" = .ok (Json.compact (.obj members)) ∧
    (bothNotations members).read "values.tfvars" = .ok (attributesText members) := by
  constructor <;> rfl

theorem addFile_notations_region :
    let members : List (String × Json) :=
      [("tags", .obj [("owner", .str "core"), ("count", .number (.integer 2))]), ("region", .null)]
    let o : Overrides := [("region", .text "eu")]
    ∃ o₁ o₂, o.addFile (bothNotations members) "values.tfvars.json" = .ok o₁ ∧
      o.addFile (bothNotations members) "values.tfvars" = .ok o₂ ∧
      Value.AlikeEntries (o₂.filter (·.1 ∉ nullNames members)) (o₁.filter (·.1 ∉ nullNames members)) ∧
      o₂.get? "region" = some (.text "eu") := by
  intro members o
  have hplain : ∀ m ∈ members, Json.Plain 126 m.2 := by
    simp only [members, List.forall_mem_cons, List.not_mem_nil, false_imp_iff, implies_true, and_true]
    refine ⟨.obj (by decide) ?_, .null⟩
    simp only [List.forall_mem_cons, List.not_mem_nil, false_imp_iff, implies_true, and_true]
    exact ⟨.str "core", .integer rfl⟩
  have hnames : ∀ m ∈ members, IsIdent m.1 := by
    simp only [members, List.forall_mem_cons, List.not_mem_nil, false_imp_iff, implies_true, and_true]
    exact ⟨⟨'t', ['a', 'g', 's'], rfl, rfl, List.all_eq_true.mp rfl⟩,
      ⟨'r', ['e', 'g', 'i', 'o', 'n'], rfl, rfl, List.all_eq_true.mp rfl⟩⟩
  obtain ⟨htext, hfiles⟩ := addFile_notations o (by decide : (OrderedMap.keys members).Nodup) hnames hplain
  obtain ⟨hjson, hread⟩ := read_bothNotations members
  obtain ⟨o₁, o₂, h₁, h₂, halike, hkept⟩ := hfiles (bothNotations members) "values.tfvars.json" "values.tfvars" _
    (by decide +kernel) hjson htext (by decide +kernel) hread
  exact ⟨o₁, o₂, h₁, h₂, halike, hkept ("region", .null) (by simp [members]) rfl⟩

/-! ## Where the notations differ -/

/-- An empty list inside so many lists. -/
def nested : Nat → Json
  | 0 => .arr []
  | n + 1 => .arr [nested n]

theorem plain_nested (n : Nat) : Json.Plain (n + 1) (nested n) := by
  induction n with
  | zero => exact .arr nofun
  | succ n ih => exact .arr fun j hj => List.mem_singleton.mp hj ▸ ih

theorem value?_nested {depth n : Nat} (h : depth ≤ n) : (Json.source (nested n)).value? depth = none := by
  induction n generalizing depth with
  | zero =>
    obtain rfl := Nat.le_zero.mp h
    rfl
  | succ n ih =>
    cases depth with
    | zero => rfl
    | succ depth =>
      have hinner := ih (Nat.le_of_succ_le_succ h)
      rw [nested, Json.source, Json.sourceItems, Json.Source.value?, Json.Source.itemValues?, hinner]
      rfl

theorem hasNull_nested (n : Nat) : (nested n).hasNull = false := by
  induction n with
  | zero => rfl
  | succ n ih => rw [nested, Json.hasNull, Json.itemsHaveNull, ih, Json.itemsHaveNull, Bool.or_self]

theorem read?_nested : Json.read? (Json.compact (.obj [("a", nested 126)])) = none := by
  have hplain : Json.Plain 128 (.obj [("a", nested 126)]) :=
    .obj (by decide) fun m hm => List.mem_singleton.mp hm ▸ plain_nested 126
  have hvalue : (Json.source (nested 126)).value? 126 = none := value?_nested (Nat.le_refl 126)
  rw [Json.read?, Json.source_of_compact hplain, Option.bind_eq_bind, Option.bind_some, Json.source, Json.sourceMembers,
    Json.Source.depthLimit, Json.Source.value?_obj, List.mapM_cons, Json.Source.member?, hvalue]
  rfl

/-- Lists nested 127 deep are not loaded from a JSON object, but they are from an attribute; and a
    null is a value in a JSON object, but not in an attribute. -/
theorem notations_differ :
    addFile [] (bothNotations [("a", nested 126)]) "values.tfvars.json" = .error (.json "values.tfvars.json") ∧
    addFile [] (bothNotations [("a", nested 126)]) "values.tfvars" = .ok [("a", Value.ofJson (nested 126))] ∧
    addFile [] (bothNotations [("a", .null)]) "values.tfvars.json" = .ok [("a", .unresolved "null")] ∧
    addFile [] (bothNotations [("a", .null)]) "values.tfvars" = .ok [] := by
  have hjson : extension? "values.tfvars.json" = some "json" := by decide +kernel
  have hother : extension? "values.tfvars" ≠ some "json" := by decide +kernel
  have hname (j : Json) : ∀ m ∈ [("a", j)], IsIdent m.1 :=
    fun m hm => List.mem_singleton.mp hm ▸ ⟨'a', [], (by decide : "a".toList = ['a']), by decide, nofun⟩
  have hplain {depth : Nat} {j : Json} (h : Json.Plain depth j) : ∀ m ∈ [("a", j)], Json.Plain depth m.2 :=
    fun m hm => List.mem_singleton.mp hm ▸ h
  have hnull : ∀ m ∈ [("a", Json.null)], Json.Plain 126 m.2 := hplain .null
  refine ⟨?_, ?_, ?_, ?_⟩
  · have hvalues : ofFileText "values.tfvars.json" (Json.compact (.obj [("a", nested 126)])) =
        .error (.json "values.tfvars.json") := by
      rw [ofFileText, if_pos hjson, ofJsonText?, read?_nested]
    rw [addFile_of_read _ (read_bothNotations _).1, hvalues]
    rfl
  · rw [addFile_attributes [] (by decide) (hname _) (hplain (plain_nested 126)) hother (read_bothNotations _).2,
      List.filter_singleton, hasNull_nested]
    rfl
  · exact (addFile_object [] hjson (read_bothNotations _).1 (Json.read?_compact (.obj (by decide) hnull))).trans rfl
  · exact (addFile_attributes [] (by decide) (hname _) hnull hother (read_bothNotations _).2).trans rfl

end Overrides
end TagAudit
