/-
  TagAudit.FileTree.WellFormed — trees of files as they are on a disk.

  The entries of a directory have different names, each of which stands for one step down
  (`Node.wellFormed`). What is found in directories makes well-formed trees (`Tree`), and a workspace
  that is put together of such trees has one, and a current directory that steps lead to (`Site`).
-/

import TagAudit.FileTree.Workspace
import TagAudit.OrderedMap

namespace TagAudit.FileTree

/-! ## Steps -/

/-- A name that stands for one step down. -/
structure IsStep (name : String) : Prop where
  ne_empty : name ≠ ""
  ne_here : name ≠ "."
  ne_up : name ≠ ".."
  no_slash : '/' ∉ name.toList

theorem isStep_iff {name : String} :
    name ≠ "" ∧ name ≠ "." ∧ name ≠ ".." ∧ '/' ∉ name.toList ↔ IsStep name :=
  ⟨fun ⟨hempty, hhere, hup, hslash⟩ => ⟨hempty, hhere, hup, hslash⟩,
    fun h => ⟨h.ne_empty, h.ne_here, h.ne_up, h.no_slash⟩⟩

instance (name : String) : Decidable (IsStep name) := decidable_of_iff _ isStep_iff

theorem betweenSlashes_ne_nil (cs : List Char) : betweenSlashes cs ≠ [] := by
  unfold betweenSlashes
  split
  · exact List.cons_ne_nil _ _
  · exact List.cons_ne_nil _ _
  · split <;> exact List.cons_ne_nil _ _

theorem betweenSlashes_cons {c : Char} (hc : c ≠ '/') (cs : List Char) :
    ∃ p ps, betweenSlashes cs = p :: ps ∧ betweenSlashes (c :: cs) = (c :: p) :: ps := by
  obtain ⟨p, ps, hps⟩ := List.exists_cons_of_ne_nil (betweenSlashes_ne_nil cs)
  refine ⟨p, ps, hps, ?_⟩
  rw [betweenSlashes, hps]
  exact hc

theorem notMem_of_mem_betweenSlashes {cs p : List Char} (h : p ∈ betweenSlashes cs) : '/' ∉ p := by
  induction cs generalizing p with
  | nil => simp_all [betweenSlashes]
  | cons c cs ih =>
    by_cases hc : c = '/'
    · subst hc
      rcases List.mem_cons.mp h with rfl | h
      · exact List.not_mem_nil
      · exact ih h
    · obtain ⟨q, qs, hqs, hcons⟩ := betweenSlashes_cons hc cs
      rw [hcons] at h
      rw [hqs] at ih
      rcases List.mem_cons.mp h with rfl | h
      · simpa [Ne.symm hc] using ih List.mem_cons_self
      · exact ih (List.mem_cons_of_mem q h)

theorem isStep_of_mem_names {path name : String} (h : name ∈ names path) (hup : name ≠ "..") : IsStep name := by
  obtain ⟨hmem, hname⟩ := List.mem_filter.mp h
  obtain ⟨p, hp, rfl⟩ := List.mem_map.mp hmem
  obtain ⟨hempty, hhere⟩ : String.ofList p ≠ "" ∧ String.ofList p ≠ "." := by simpa using hname
  exact ⟨hempty, hhere, hup, by simpa using notMem_of_mem_betweenSlashes hp⟩

/-! ## Trees -/

namespace Node

variable {n m : Node} {entries : List (String × Node)} {name : String} {steps : List String}

mutual

/-- Whether the entries of each directory have different names, and all are steps. -/
def wellFormed : Node → Bool
  | .file _ => true
  | .directory entries => decide (entries.map Prod.fst).Nodup && wellFormedEntries entries

/-- Whether the names of entries are steps, and what they are entries for is well-formed. -/
def wellFormedEntries : List (String × Node) → Bool
  | [] => true
  | (name, n) :: entries => decide (IsStep name) && n.wellFormed && wellFormedEntries entries

end

/-- What holds for a file, and for a directory if it does for all that is in it. -/
@[elab_as_elim] theorem induction {P : Node → Prop} (file : ∀ contents, P (.file contents))
    (directory : ∀ entries, (∀ e ∈ entries, P e.2) → P (.directory entries)) (n : Node) : P n :=
  @Node.rec P (fun entries => ∀ e ∈ entries, P e.2) (fun e => P e.2) file directory nofun
    (fun _ _ he hentries => List.forall_mem_cons.mpr ⟨he, hentries⟩) (fun _ _ hn => hn) n

theorem wellFormedEntries_iff :
    wellFormedEntries entries = true ↔ ∀ e ∈ entries, IsStep e.1 ∧ e.2.wellFormed = true := by
  induction entries with
  | nil => simp [wellFormedEntries]
  | cons e entries ih =>
    rw [wellFormedEntries, Bool.and_eq_true, Bool.and_eq_true, decide_eq_true_eq, ih, List.forall_mem_cons]

@[simp] theorem wellFormed_directory : (directory entries).wellFormed = true ↔
    (OrderedMap.keys entries).Nodup ∧ ∀ e ∈ entries, IsStep e.1 ∧ e.2.wellFormed = true := by
  rw [wellFormed, Bool.and_eq_true, decide_eq_true_eq, wellFormedEntries_iff]
  rfl

@[simp] theorem entry?_directory (entries : List (String × Node)) (name : String) :
    entry? (directory entries) name = OrderedMap.get? entries name := OrderedMap.lookup_eq_get? entries name

/-- What is put in the place of a file is put there as into an empty directory. -/
theorem put_file (contents : Option String) (name : String) (steps : List String) (m : Node) :
    (file contents).put (name :: steps) m = (directory []).put (name :: steps) m := rfl

theorem put_directory (hn : (OrderedMap.keys entries).Nodup) (name : String) (steps : List String) (m : Node) :
    (directory entries).put (name :: steps) m = directory
      (OrderedMap.insert entries name (((OrderedMap.get? entries name).getD (directory [])).put steps m)) := by
  rw [put, OrderedMap.lookup_eq_get?]
  dsimp only
  cases h : OrderedMap.get? entries name with
  | none => rw [OrderedMap.insert_of_get?_none h]; rfl
  | some child =>
    rw [OrderedMap.insert_of_mem_keys hn (OrderedMap.mem_keys_of_get? h)]
    rfl

/-- A well-formed tree stays so when a well-formed one is put into it where steps lead. -/
theorem wellFormed_put (hn : n.wellFormed = true) (hm : m.wellFormed = true) (hsteps : ∀ name ∈ steps, IsStep name) :
    (n.put steps m).wellFormed = true := by
  induction steps generalizing n with
  | nil => exact hm
  | cons name steps ih =>
    have hrest {n : Node} (hn : n.wellFormed = true) : (n.put steps m).wellFormed = true :=
      ih hn fun name h => hsteps name (List.mem_cons_of_mem _ h)
    have hdirectory : ∀ entries, (directory entries).wellFormed = true →
        ((directory entries).put (name :: steps) m).wellFormed = true := by
      intro entries hentries
      obtain ⟨hnodup, hall⟩ := wellFormed_directory.mp hentries
      rw [put_directory hnodup]
      refine wellFormed_directory.mpr ⟨OrderedMap.nodup_keys_insert hnodup _ _, ?_⟩
      intro e he
      rcases OrderedMap.mem_insert he with he | rfl
      · exact hall e he
      · refine ⟨hsteps name List.mem_cons_self, hrest ?_⟩
        cases hget : OrderedMap.get? entries name with
        | none => rfl
        | some child => exact (hall _ (OrderedMap.mem_of_get? hget)).2
    cases n with
    | file contents =>
      rw [put_file]
      exact hdirectory [] rfl
    | directory entries => exact hdirectory entries hn

end Node

/-- A tree as it can be found on a disk. -/
abbrev Tree := { n : Node // n.wellFormed = true }

namespace Tree

def file (contents : Option String) : Tree := ⟨.file contents, by rw [Node.wellFormed]⟩

/-- A directory in which these entries were found. -/
def directory (found : List (String × Tree)) : Tree :=
  ⟨.directory (OrderedMap.ofEntries ((found.filter fun e => decide (IsStep e.1)).map fun e => (e.1, e.2.1))), by
    refine Node.wellFormed_directory.mpr ⟨OrderedMap.nodup_keys_ofEntries _, fun e he => ?_⟩
    obtain ⟨⟨name, tree⟩, hfound, rfl⟩ := List.mem_map.mp (OrderedMap.mem_ofEntries he)
    exact ⟨of_decide_eq_true (List.mem_filter.mp hfound).2, tree.2⟩⟩

end Tree

/-! ## Putting a workspace together -/

/-- The names that lead from the root to a path, those before a step up left out. -/
def Workspace.placeOf (w : Workspace) (path : String) : List String :=
  (names path).foldl (fun place name => if name = ".." then place.dropLast else place ++ [name])
    (if isAbsolute path then [] else w.current)

theorem Workspace.isStep_of_mem_placeOf {w : Workspace} (h : ∀ name ∈ w.current, IsStep name) (path : String) :
    ∀ name ∈ w.placeOf path, IsStep name := by
  have hstart : ∀ name ∈ if isAbsolute path then [] else w.current, IsStep name := by
    split
    · exact nofun
    · exact h
  have hnames : ∀ name ∈ names path, name ≠ ".." → IsStep name := fun _ => isStep_of_mem_names
  unfold placeOf
  generalize (if isAbsolute path then [] else w.current) = place at hstart ⊢
  generalize names path = left at hnames ⊢
  induction left generalizing place with
  | nil => exact hstart
  | cons name left ih =>
    refine ih _ ?_ fun n hn => hnames n (List.mem_cons_of_mem name hn)
    dsimp only
    split
    · exact fun n hn => hstart n (List.dropLast_subset place hn)
    · rename_i hup
      intro n hn
      rcases List.mem_append.mp hn with hn | hn
      · exact hstart n hn
      · rw [List.mem_singleton.mp hn]
        exact hnames name List.mem_cons_self hup

/-- A workspace with a well-formed tree, in a directory that steps lead to. -/
structure Site extends Workspace where
  wellFormed : root.wellFormed = true
  steps : ∀ name ∈ current, IsStep name

namespace Site

/-- Goes to the directory at a path. -/
def enter (s : Site) (path : String) : Site :=
  { s with current := s.placeOf path, steps := Workspace.isStep_of_mem_placeOf s.steps path }

/-- Puts a tree in the place of a path. -/
def put (s : Site) (path : String) (tree : Tree) : Site :=
  { s with
    root := s.root.put (s.placeOf path) tree.1
    wellFormed := Node.wellFormed_put s.wellFormed tree.2 (Workspace.isStep_of_mem_placeOf s.steps path) }

/-- Nothing but the directory at a path. -/
def start (path : String) : Site :=
  let nowhere : Site := ⟨⟨.directory [], []⟩, rfl, nofun⟩
  (nowhere.put path (.directory [])).enter path

end Site
end TagAudit.FileTree
