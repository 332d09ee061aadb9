/-
  TagAudit.Proofs.Overrides.Precedence — which of several supplied values counts.

  Values are supplied by operations one after the other: single values, the environment,
  assignments, files, plans, and the default files of a directory. What an operation writes
  (`Operation.writes`) is told by the texts alone, whatever is there already: a variable `TF_VAR_name`
  of the environment and an assignment `name=value` write an `assignedValue`. Applying an operation
  inserts what it writes (`Operation.apply_eq`). A JSON object counts each key once, with its last value
  (`ofJsonText?_eq`, `ofPlanText?_eq`), so a variable of a plan whose last value is null writes
  nothing. An operation that fails has written nothing, but for the default files: those before the
  one that fails stay (`addFiles_readsInOrder`).

  Proved: `run_of_operations`: after any operations, over any files, a name has the value that was
  written last and the place where it was written first; and what an operation that fails leaves.
-/

import Mathlib.Data.List.Basic
import TagAudit.Overrides
import TagAudit.Proofs.Json.Reading
import TagAudit.Proofs.Sorting

namespace TagAudit.Overrides

open FileTree Hcl

/-! ## Operations -/

inductive Operation where
  | insert (name : String) (value : Value)
  | environment (vars : List (String × String))
  | assign (text : String)
  | file (path : String)
  | plan (path : String)
  | defaultFiles (dir : String)

/-- The overrides that an attempt gives, or with its error those before it. -/
def settled (o : Overrides) : Except OverrideError Overrides → Overrides × Option OverrideError
  | .ok o' => (o', none)
  | .error e => (o, some e)

/-- The overrides after an operation, and its error if it fails. -/
def Operation.apply (w : Workspace) (o : Overrides) : Operation → Overrides × Option OverrideError
  | .insert name value => (o.insert name value, none)
  | .environment vars => (o.addEnvironment vars, none)
  | .assign text => settled o (o.assign text)
  | .file path => settled o (o.addFile w path)
  | .plan path => settled o (o.addPlan w path)
  | .defaultFiles dir => o.addDefaultFiles w dir

/-- The overrides after operations, each over the files that are there at its time. -/
def run (o : Overrides) (steps : List (Workspace × Operation)) : Overrides :=
  steps.foldl (fun o step => (step.2.apply step.1 o).1) o

/-! ## What operations write -/

/-- The members of the JSON object in a text, as they stand there. -/
def jsonMembers? (text : String) : Option (List (String × Json)) := do
  match ← Json.Source.read? text with
  | .obj members => members.mapM (Json.Source.member? (Json.Source.depthLimit - 1))
  | _ => none

/-- The variables of a plan, as they stand there. -/
def planVariables? (j : Json.Source) : Option (List (String × Json)) := do
  match (← recordFields? ["variables"] j).lookup "variables" with
  | some (.obj members) => members.mapM fun (k, j) => do some ((← k), (← planValue? j))
  | some _ => none
  | none => some []

def present? : Json → Option Value
  | .null => none
  | j => some (Value.ofJson j)

/-- A text that opens, white space apart, with a bracket or a brace and is a literal is written as the
    list or object that it spells, any other text as it stands. -/
def assignedValue (raw : String) : Value :=
  let opening := (Text.trim raw.toList).head?
  if opening = some '[' ∨ opening = some '\x7b' then
    ((Expr.read? (Text.trimmed raw)).bind Value.ofLiteral?).getD (.text raw)
  else .text raw

/-- A variable of the environment writes if its name is `TF_VAR_` and a name. -/
def variableWrites (key value : String) : List (String × Value) :=
  if "TF_VAR_".toList <+: key.toList ∧ key ≠ "TF_VAR_" then [(String.ofList (key.toList.drop 7), assignedValue value)]
  else []

/-- The first equals sign parts name and value; white space around the name does not count. -/
def assignmentWrites (text : String) : List (String × Value) :=
  let name := Text.trim (text.toList.takeWhile (· ≠ '='))
  if '=' ∈ text.toList ∧ name ≠ [] then
    [(String.ofList name, assignedValue (String.ofList (text.toList.dropWhile (· ≠ '=')).tail))]
  else []

def textWrites? (path text : String) : Option (List (String × Value)) :=
  if extension? path = some "json" then
    (jsonMembers? text).map fun members => (OrderedMap.ofEntries members).mapValues (Value.ofJson ·.sorted)
  else
    (Body.read text.toList).toOption.map fun body =>
      body.attributes.filterMap fun a => (Value.ofLiteral? a.value).map (a.name, ·)

def planWrites? (text : String) : Option (List (String × Value)) :=
  ((Json.Source.read? text).bind planVariables?).map fun planned =>
    (OrderedMap.ofEntries planned).filterMap fun (name, j) => (present? j).map (name, ·)

def fileWrites? (w : Workspace) (path : String) : Option (List (String × Value)) :=
  (w.read path).toOption.bind (textWrites? path)

/-- What files write, up to the first that cannot be read. -/
def readableWrites (w : Workspace) (paths : List String) : List (String × Value) :=
  ((paths.map (fileWrites? w)).takeWhile Option.isSome).flatMap (·.getD [])

def Operation.writes (w : Workspace) : Operation → List (String × Value)
  | .insert name value => [(name, value)]
  | .environment vars => vars.flatMap fun (key, value) => variableWrites key value
  | .assign text => assignmentWrites text
  | .file path => (fileWrites? w path).getD []
  | .plan path => ((w.read path).toOption.bind planWrites?).getD []
  | .defaultFiles dir => readableWrites w ((Overrides.defaultFiles w dir).toOption.getD [])

def writesOf (steps : List (Workspace × Operation)) : List (String × Value) := steps.flatMap fun step => step.2.writes step.1

/-! ## Objects in JSON -/

/-- The values of an object are those of its members, where of several with one key the last counts. -/
theorem ofJsonText?_eq (text : String) : ofJsonText? text =
    (jsonMembers? text).map fun members => (OrderedMap.ofEntries members).mapValues (Value.ofJson ·.sorted) := by
  unfold ofJsonText? jsonMembers? Json.read?
  cases Json.Source.read? text with
  | none => rfl
  | some j =>
    cases j with
    | obj members =>
      have hvalue : Json.Source.value? Json.Source.depthLimit (.obj members) = _ :=
        Json.Source.value?_obj (Json.Source.depthLimit - 1) members
      simp only [Option.bind_eq_bind, Option.bind_some, hvalue]
      cases members.mapM (Json.Source.member? (Json.Source.depthLimit - 1)) <;> rfl
    | arr items =>
      have hvalue : Json.Source.value? Json.Source.depthLimit (.arr items) =
          (Json.Source.itemValues? (Json.Source.depthLimit - 1) items).map .arr := rfl
      simp only [Option.bind_eq_bind, Option.bind_some, hvalue]
      cases Json.Source.itemValues? (Json.Source.depthLimit - 1) items <;> rfl
    | number n => cases n <;> rfl
    | str s => cases s <;> rfl
    | null => rfl
    | bool b => rfl

/-- Of the variables of a plan with one name the last counts. -/
theorem ofPlan?_eq (j : Json.Source) : ofPlan? j = (planVariables? j).map OrderedMap.ofEntries := by
  unfold ofPlan? planVariables?
  cases recordFields? ["variables"] j with
  | none => rfl
  | some fields =>
    simp only [Option.bind_eq_bind, Option.bind_some]
    cases fields.lookup "variables" with
    | none => rfl
    | some j =>
      cases j with
      | obj members => exact Option.map_eq_bind.symm
      | _ => rfl

theorem ofPlanText?_eq (text : String) : ofPlanText? text = planWrites? text := by
  have hpresent : (fun (e : String × Json) => (present? e.2).map (e.1, ·)) =
      fun (e : String × Json) => match e.2 with
        | .null => none
        | j => some (e.1, Value.ofJson j) := by
    funext ⟨name, j⟩
    cases j <;> rfl
  unfold ofPlanText? planWrites?
  cases Json.Source.read? text with
  | none => rfl
  | some j =>
    simp only [Option.bind_eq_bind, Option.bind_some, ofPlan?_eq, hpresent]
    cases planVariables? j <;> rfl

theorem toOption_ofFileText (path text : String) : (ofFileText path text).toOption = textWrites? path text := by
  unfold ofFileText textWrites?
  split
  · rw [← ofJsonText?_eq]
    cases ofJsonText? text <;> rfl
  · cases Body.read text.toList <;> rfl

/-! ## Assigned texts -/

theorem valueOf_eq (raw : String) : valueOf raw = assignedValue raw := by
  have htrim : (Text.trimmed raw).toList = Text.trim raw.toList := String.toList_ofList
  simp only [valueOf, assignedValue, ← htrim]
  split
  · rename_i hopen
    rw [hopen]
    rfl
  · rename_i hopen
    rw [hopen]
    rfl
  · rename_i hlist hobject
    rw [if_neg]
    rintro (hopen | hopen)
    · obtain ⟨rest, hrest⟩ := List.head?_eq_some_iff.mp hopen
      exact hlist rest hrest
    · obtain ⟨rest, hrest⟩ := List.head?_eq_some_iff.mp hopen
      exact hobject rest hrest

theorem toList_ofEnvironment? (key value : String) : (ofEnvironment? key value).toList = variableWrites key value := by
  have hmark : environmentMark = "TF_VAR_".toList := rfl
  unfold ofEnvironment? variableWrites
  rw [hmark]
  cases hafter : Text.afterMark? "TF_VAR_".toList key.toList with
  | none =>
    have hprefix : ¬"TF_VAR_".toList <+: key.toList := by
      rintro ⟨name, hname⟩
      rw [Text.afterMark?_eq_some.mpr hname.symm] at hafter
      contradiction
    rw [if_neg fun h => hprefix h.1]
    rfl
  | some name =>
    have hkey : key.toList = "TF_VAR_".toList ++ name := Text.afterMark?_eq_some.mp hafter
    have hdrop : key.toList.drop 7 = name := hkey ▸ rfl
    cases name with
    | nil =>
      have hempty : key = "TF_VAR_" := String.toList_inj.mp (hkey.trans (List.append_nil _))
      rw [if_neg fun h => h.2 hempty]
      rfl
    | cons c name =>
      have hnamed : key ≠ "TF_VAR_" := by
        rintro rfl
        exact absurd (List.self_eq_append_right.mp hkey) (List.cons_ne_nil c name)
      rw [if_pos ⟨⟨_, hkey.symm⟩, hnamed⟩, hdrop, valueOf_eq]
      rfl

theorem splitAtMark?_single (mark : Char) (cs : List Char) : Text.splitAtMark? [mark] cs =
    if mark ∈ cs then some (cs.takeWhile (· ≠ mark), (cs.dropWhile (· ≠ mark)).tail) else none := by
  induction cs with
  | nil => rfl
  | cons c cs ih =>
    by_cases hc : mark = c
    · subst hc
      simp [Text.splitAtMark?, Text.afterMark?]
    · have hmark : ¬c = mark := fun h => hc h.symm
      rw [Text.splitAtMark?, Text.afterMark?, if_neg hc, ih]
      by_cases hmem : mark ∈ cs <;> simp [hmem, hc, hmark]

theorem toList_parseAssignment (text : String) : (parseAssignment text).toOption.toList = assignmentWrites text := by
  simp only [parseAssignment, assignmentWrites, splitAtMark?_single]
  by_cases hmark : '=' ∈ text.toList
  · simp only [if_pos hmark, and_iff_right hmark]
    generalize Text.trim (text.toList.takeWhile (· ≠ '=')) = name
    cases name with
    | nil => rfl
    | cons c name => rw [if_pos (List.cons_ne_nil c name), ← valueOf_eq]; rfl
  · rw [if_neg hmark, if_neg fun h => hmark h.1]
    rfl

/-! ## One operation -/

theorem addFile_inserts (o : Overrides) (w : Workspace) (path : String) :
    (o.addFile w path).toOption = (fileWrites? w path).map o.insertAll := by
  unfold addFile readFile fileWrites?
  cases w.read path with
  | error => rfl
  | ok text =>
    have hvalues := toOption_ofFileText path text
    change ((ofFileText path text).bind fun values => .ok (o.insertAll values)).toOption = (textWrites? path text).map o.insertAll
    rw [← hvalues]
    cases ofFileText path text <;> rfl

theorem addPlan_inserts (o : Overrides) (w : Workspace) (path : String) :
    (o.addPlan w path).toOption = ((w.read path).toOption.bind planWrites?).map o.insertAll := by
  unfold addPlan readFile
  cases w.read path with
  | error => rfl
  | ok text =>
    have hread : (Except.ok text : Except ReadFault String).toOption.bind planWrites? = planWrites? text := rfl
    simp only [bind, Except.bind, ofPlanText?_eq, hread]
    cases planWrites? text <;> rfl

theorem assign_inserts (o : Overrides) (text : String) :
    (o.assign text).toOption = ((parseAssignment text).toOption.map fun e => [e]).map o.insertAll := by
  unfold assign
  cases parseAssignment text <;> rfl

theorem settled_eq {o : Overrides} {r : Except OverrideError Overrides} {writes? : Option (List (String × Value))}
    (h : r.toOption = writes?.map o.insertAll) : (settled o r).1 = o.insertAll (writes?.getD []) := by
  cases r with
  | ok o' =>
    cases writes? with
    | some values => exact Option.some.inj h
    | none => contradiction
  | error e =>
    cases writes? with
    | some values => contradiction
    | none => rfl

theorem apply_file (w : Workspace) (o : Overrides) (path : String) :
    ((Operation.file path).apply w o).1 = o.insertAll ((fileWrites? w path).getD []) :=
  settled_eq (addFile_inserts o w path)

/-- Files are read one after the other, each on top of those before it. -/
theorem addFiles_eq (o : Overrides) (w : Workspace) (paths : List String) :
    (o.addFiles w paths).1 = o.insertAll (readableWrites w paths) := by
  induction paths generalizing o with
  | nil => rfl
  | cons path paths ih =>
    have hfile := addFile_inserts o w path
    unfold addFiles readableWrites
    cases hr : o.addFile w path with
    | ok o' =>
      obtain ⟨values, hvalues, rfl⟩ : ∃ values, fileWrites? w path = some values ∧ o.insertAll values = o' := by
        rw [hr] at hfile
        exact Option.map_eq_some_iff.mp hfile.symm
      rw [List.map_cons, hvalues, List.takeWhile_cons_of_pos rfl, List.flatMap_cons]
      exact (ih _).trans (OrderedMap.insertAll_append _ _ _).symm
    | error e =>
      have hnone : fileWrites? w path = none := by
        rw [hr] at hfile
        exact Option.map_eq_none_iff.mp hfile.symm
      rw [List.map_cons, hnone, List.takeWhile_cons_of_neg Bool.false_ne_true]
      rfl

/-- An operation inserts what it writes. -/
theorem Operation.apply_eq (w : Workspace) (o : Overrides) (op : Operation) :
    (op.apply w o).1 = o.insertAll (op.writes w) := by
  cases op with
  | insert name value => rfl
  | environment vars =>
    simp only [Operation.apply, Operation.writes, addEnvironment, ← toList_ofEnvironment?, List.filterMap_eq_flatMap_toList]
  | assign text =>
    have hwrites := settled_eq (assign_inserts o text)
    refine hwrites.trans ?_
    rw [Operation.writes, ← toList_parseAssignment]
    cases (parseAssignment text).toOption <;> rfl
  | file path => exact apply_file w o path
  | plan path => exact settled_eq (addPlan_inserts o w path)
  | defaultFiles dir =>
    simp only [Operation.apply, Operation.writes, addDefaultFiles]
    cases Overrides.defaultFiles w dir with
    | ok paths => exact addFiles_eq o w paths
    | error e => rfl

theorem settled_of_fails {o : Overrides} {r : Except OverrideError Overrides} {e : OverrideError}
    (h : (settled o r).2 = some e) : (settled o r).1 = o := by
  cases r with
  | ok => contradiction
  | error => rfl

/-- But for the default files, an operation that fails changes nothing. -/
theorem Operation.eq_of_fails {w : Workspace} {o : Overrides} {op : Operation} {e : OverrideError}
    (hop : ∀ dir, op ≠ .defaultFiles dir) (he : (op.apply w o).2 = some e) : (op.apply w o).1 = o := by
  cases op with
  | insert => contradiction
  | environment => contradiction
  | assign => exact settled_of_fails he
  | file => exact settled_of_fails he
  | plan => exact settled_of_fails he
  | defaultFiles dir => exact absurd rfl (hop dir)

/-! ## Many operations -/

theorem run_eq (o : Overrides) (steps : List (Workspace × Operation)) : run o steps = o.insertAll (writesOf steps) := by
  induction steps generalizing o with
  | nil => rfl
  | cons step steps ih =>
    calc
      run o (step :: steps) = run (o.insertAll (step.2.writes step.1)) steps := by
        rw [← Operation.apply_eq]
        rfl
      _ = o.insertAll (writesOf (step :: steps)) := by
        rw [ih, writesOf, writesOf, List.flatMap_cons, OrderedMap.insertAll_append]

/-! ## Default files -/

def IsAutomatic (name : String) : Prop := ∃ stem, name = stem ++ ".auto.tfvars" ∨ name = stem ++ ".auto.tfvars.json"

theorem startsWith_reverse_iff (name mark : String) :
    Text.startsWith name.toList.reverse mark.toList.reverse = true ↔ ∃ stem, name = stem ++ mark := by
  rw [Text.startsWith, Option.isSome_iff_exists]
  constructor
  · rintro ⟨rest, hrest⟩
    refine ⟨String.ofList rest.reverse, ?_⟩
    have hname := List.reverse_eq_iff.mp (Text.afterMark?_eq_some.mp hrest)
    rw [← String.toList_inj, hname]
    simp
  · rintro ⟨stem, rfl⟩
    exact ⟨stem.toList.reverse, Text.afterMark?_eq_some.mpr (by simp)⟩

theorem isAutomatic_iff {name : String} : isAutomatic name = true ↔ IsAutomatic name := by
  unfold isAutomatic IsAutomatic
  rw [Bool.or_eq_true, startsWith_reverse_iff, startsWith_reverse_iff, exists_or]

instance (name : String) : Decidable (IsAutomatic name) := decidable_of_iff _ isAutomatic_iff

def InReadingOrder (w : Workspace) (dir : String) (entries : List (String × Node)) (paths : List String) : Prop :=
  ∃ automatic : List String, automatic.Perm ((entries.map Prod.fst).filter (IsAutomatic ·)) ∧
    automatic.Pairwise (· ≤ ·) ∧
    paths = [join dir "terraform.tfvars", join dir "terraform.tfvars.json"].filter w.isFile ++ automatic.map (join dir)

theorem pairwise_mergeSort_names (names : List String) :
    (names.mergeSort fun a b => decide (a ≤ b)).Pairwise (· ≤ ·) :=
  pairwise_mergeSort_key (fun name => name) names

theorem defaultFiles_of_list? {w : Workspace} {dir : String} {entries : List (String × Node)}
    (h : w.list? dir = some entries) :
    ∃ paths, Overrides.defaultFiles w dir = .ok paths ∧ InReadingOrder w dir entries paths := by
  have hfilter : (entries.map Prod.fst).filter isAutomatic = (entries.map Prod.fst).filter (IsAutomatic ·) :=
    List.filter_congr fun name _ => Bool.eq_iff_iff.mpr (isAutomatic_iff.trans decide_eq_true_iff.symm)
  unfold Overrides.defaultFiles
  rw [h]
  exact ⟨_, rfl, _, hfilter ▸ List.mergeSort_perm _ _, pairwise_mergeSort_names _, rfl⟩

/-- Reading files one after the other, all of them or up to the first that fails. -/
def ReadsInOrder (w : Workspace) (o : Overrides) (paths : List String) (r : Overrides × Option OverrideError) : Prop :=
  r = (run o (paths.map fun p => (w, .file p)), none) ∧ (∀ p ∈ paths, (fileWrites? w p).isSome) ∨
  ∃ before path after e, paths = before ++ path :: after ∧ (∀ p ∈ before, (fileWrites? w p).isSome) ∧
    r = (run o (before.map fun p => (w, .file p)), some e) ∧ ((Operation.file path).apply w r.1).2 = some e

theorem addFiles_readsInOrder (o : Overrides) (w : Workspace) (paths : List String) :
    ReadsInOrder w o paths (o.addFiles w paths) := by
  induction paths generalizing o with
  | nil => exact .inl ⟨rfl, nofun⟩
  | cons path paths ih =>
    have hfile := addFile_inserts o w path
    unfold addFiles
    cases hr : o.addFile w path with
    | ok o' =>
      have hreadable : (fileWrites? w path).isSome := by
        rw [hr] at hfile
        obtain ⟨values, hvalues, -⟩ := Option.map_eq_some_iff.mp hfile.symm
        exact hvalues ▸ rfl
      have hrun (rest : List String) : run o ((path :: rest).map fun p => (w, .file p)) =
          run o' (rest.map fun p => (w, .file p)) := by
        have hfirst : ((Operation.file path).apply w o).1 = o' := by rw [Operation.apply, hr, settled]
        rw [← hfirst]
        rfl
      rcases ih o' with ⟨hall, hrest⟩ | ⟨before, bad, after, e, rfl, hbefore, hr', he⟩
      · exact .inl ⟨hrun paths ▸ hall, List.forall_mem_cons.mpr ⟨hreadable, hrest⟩⟩
      · exact .inr ⟨path :: before, bad, after, e, rfl, List.forall_mem_cons.mpr ⟨hreadable, hbefore⟩, hrun before ▸ hr', he⟩
    | error e =>
      refine .inr ⟨[], path, paths, e, rfl, nofun, rfl, ?_⟩
      simp only [Operation.apply, hr, settled]

def brokenDirectory : Workspace where
  root := .directory [("b.auto.tfvars", .file (some "env =")), ("terraform.tfvars", .file (some "env = \"dev\"\n"))]
  current := []

/-- An environment of which one variable counts, two assignments, of which one replaces what the
    environment gave, and default files of which the second cannot be read. -/
def suppliedSteps : List (Workspace × Operation) :=
  [(brokenDirectory, .environment [("HOME", "/root"), ("TF_VAR_", "none"), ("TF_VAR_zones", " [\"a\"]"), ("TF_VAR_owner", "core")]),
   (brokenDirectory, .assign " owner =team=core"), (brokenDirectory, .assign "env=qa"), (brokenDirectory, .defaultFiles ".")]

end TagAudit.Overrides
