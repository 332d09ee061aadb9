/-
  TagAudit.Proofs.FileTree.Trees — what paths lead to in trees of files.

  Steps that are joined to a path are taken after it:
  - `names_joinAll`: they are the last names of the path, and so different steps make different paths.
  - `Workspace.find?_joinAll`: the path leads where the steps lead from the directory at the first path.
  The extension of a name is what follows its last point (`nameExtension?_eq_some`).
-/

import TagAudit.FileTree.Walk
import TagAudit.FileTree.WellFormed

namespace TagAudit.FileTree

/-! ## Names in paths -/

theorem betweenSlashes_append (cs ds : List Char) :
    betweenSlashes (cs ++ '/' :: ds) = betweenSlashes cs ++ betweenSlashes ds := by
  induction cs with
  | nil => rfl
  | cons c cs ih =>
    by_cases hc : c = '/'
    · subst hc
      rw [List.cons_append, betweenSlashes, ih, betweenSlashes, List.cons_append]
    · obtain ⟨p, ps, hps, hcons⟩ := betweenSlashes_cons hc cs
      obtain ⟨q, qs, hqs, hcons'⟩ := betweenSlashes_cons hc (cs ++ '/' :: ds)
      rw [ih, hps, List.cons_append] at hqs
      obtain ⟨rfl, rfl⟩ := List.cons.inj hqs
      rw [List.cons_append, hcons', hcons, List.cons_append]

theorem betweenSlashes_of_notMem {cs : List Char} (h : '/' ∉ cs) : betweenSlashes cs = [cs] := by
  induction cs with
  | nil => rfl
  | cons c cs ih =>
    have hc : c ≠ '/' := fun hc => h (hc ▸ List.mem_cons_self)
    obtain ⟨p, ps, hps, hcons⟩ := betweenSlashes_cons hc cs
    rw [ih fun hcs => h (List.mem_cons_of_mem c hcs)] at hps
    obtain ⟨rfl, rfl⟩ := List.cons.inj hps
    exact hcons

section
variable {path name : String} {steps : List String}

/-- A name is joined to a path that ends with a slash, or with one between them. -/
theorem toList_join (hpath : path ≠ "") (name : String) :
    ∃ cs, (path.toList = cs ++ ['/'] ∨ path.toList = cs) ∧ (join path name).toList = cs ++ '/' :: name.toList := by
  have hempty : path.isEmpty = false := by simpa using hpath
  unfold join
  rw [if_neg (by simp [hempty])]
  split
  · rename_i hlast
    obtain ⟨cs, hcs⟩ := List.getLast?_eq_some_iff.mp hlast
    refine ⟨cs, .inl hcs, ?_⟩
    rw [String.toList_append, hcs, List.append_assoc, List.singleton_append]
  · refine ⟨path.toList, .inr rfl, ?_⟩
    rw [String.toList_append, String.toList_append, List.append_assoc]
    rfl

theorem join_ne_empty (hpath : path ≠ "") (name : String) : join path name ≠ "" := by
  obtain ⟨cs, -, hjoin⟩ := toList_join hpath name
  intro h
  rw [h] at hjoin
  exact List.append_ne_nil_of_right_ne_nil cs (List.cons_ne_nil _ _) hjoin.symm

theorem names_of_isStep (h : IsStep name) : names name = [name] := by
  unfold names
  rw [betweenSlashes_of_notMem h.no_slash]
  simp [h.ne_empty, h.ne_here]

theorem names_join (hpath : path ≠ "") (hname : IsStep name) : names (join path name) = names path ++ [name] := by
  obtain ⟨cs, hcs, hjoin⟩ := toList_join hpath name
  have hnames : names (join path name) = names (String.ofList cs) ++ names name := by
    unfold names
    rw [hjoin, betweenSlashes_append, List.map_append, List.filter_append, String.toList_ofList]
  rw [hnames, names_of_isStep hname]
  rcases hcs with hcs | hcs
  · unfold names
    rw [hcs, betweenSlashes_append, String.toList_ofList]
    simp [betweenSlashes]
  · rw [← hcs, String.ofList_toList]

theorem isAbsolute_eq (path : String) : isAbsolute path = (path.toList.head? == some '/') := by
  unfold isAbsolute Text.startsWith
  cases path.toList with
  | nil => rfl
  | cons c cs =>
    by_cases h : '/' = c
    · subst h
      rfl
    · simp [Text.afterMark?, h, Ne.symm h]

theorem isAbsolute_join (hpath : path ≠ "") (name : String) : isAbsolute (join path name) = isAbsolute path := by
  obtain ⟨cs, hcs, hjoin⟩ := toList_join hpath name
  rw [isAbsolute_eq, isAbsolute_eq, hjoin]
  rcases hcs with hcs | hcs
  · rw [hcs]
    cases cs <;> rfl
  · cases cs with
    | nil => exact absurd (String.toList_eq_nil_iff.mp hcs) hpath
    | cons c cs =>
      rw [hcs]
      rfl

theorem getLast?_betweenSlashes_join (hpath : path ≠ "") (hname : IsStep name) :
    (betweenSlashes (join path name).toList).getLast? = some name.toList := by
  obtain ⟨cs, -, hjoin⟩ := toList_join hpath name
  rw [hjoin, betweenSlashes_append, betweenSlashes_of_notMem hname.no_slash, List.getLast?_concat]

theorem joinAll_ne_empty (hpath : path ≠ "") (steps : List String) : joinAll path steps ≠ "" := by
  induction steps generalizing path with
  | nil => exact hpath
  | cons name steps ih => exact ih (join_ne_empty hpath name)

theorem names_joinAll (hpath : path ≠ "") (hsteps : ∀ name ∈ steps, IsStep name) :
    names (joinAll path steps) = names path ++ steps := by
  induction steps generalizing path with
  | nil => exact (List.append_nil _).symm
  | cons name steps ih =>
    have hname := hsteps name List.mem_cons_self
    have hrest : ∀ name ∈ steps, IsStep name := fun name h => hsteps name (List.mem_cons_of_mem _ h)
    rw [joinAll, List.foldl_cons, ← joinAll, ih (join_ne_empty hpath name) hrest, names_join hpath hname,
      List.append_assoc, List.singleton_append]

/-- Different steps make different paths. -/
theorem joinAll_inj {steps' : List String} (hpath : path ≠ "") (hsteps : ∀ name ∈ steps, IsStep name)
    (hsteps' : ∀ name ∈ steps', IsStep name) (h : joinAll path steps = joinAll path steps') : steps = steps' := by
  have hnames := congrArg names h
  rw [names_joinAll hpath hsteps, names_joinAll hpath hsteps'] at hnames
  exact List.append_cancel_left hnames

theorem isAbsolute_joinAll (hpath : path ≠ "") (steps : List String) :
    isAbsolute (joinAll path steps) = isAbsolute path := by
  induction steps generalizing path with
  | nil => rfl
  | cons name steps ih =>
    rw [joinAll, List.foldl_cons, ← joinAll, ih (join_ne_empty hpath name), isAbsolute_join hpath]

end

/-! ## Extensions -/

section
variable {name ext : String}

theorem nameExtension?_of_point {stem ext : List Char} (hup : name ≠ "..") (hext : '.' ∉ ext)
    (h : name.toList = stem ++ '.' :: ext) : nameExtension? name = if stem = [] then none else some (String.ofList ext) := by
  have hreverse : name.toList.reverse = ext.reverse ++ '.' :: stem.reverse := by simp [h]
  have hall : ∀ c ∈ ext.reverse, (c != '.') = true := by
    intro c hc
    rw [bne_iff_ne]
    rintro rfl
    exact hext (List.mem_reverse.mp hc)
  unfold nameExtension?
  rw [if_neg hup, hreverse]
  dsimp only
  rw [List.takeWhile_append_of_pos hall, List.takeWhile_cons_of_neg (by decide), List.append_nil, List.drop_left,
    List.drop_one, List.tail_cons, List.reverse_reverse]
  simp

theorem nameExtension?_of_notMem (h : '.' ∉ name.toList) : nameExtension? name = none := by
  have hall : name.toList.reverse.takeWhile (· != '.') = name.toList.reverse := by
    rw [← List.append_nil name.toList.reverse, List.takeWhile_append_of_pos, List.takeWhile_nil]
    intro c hc
    rw [bne_iff_ne]
    rintro rfl
    exact h (List.mem_reverse.mp hc)
  unfold nameExtension?
  dsimp only
  rw [hall, List.drop_length]
  split <;> rfl

/-- An extension is what follows the last point of a name, which is not its first character. -/
theorem nameExtension?_eq_some : nameExtension? name = some ext ↔
    name ≠ ".." ∧ '.' ∉ ext.toList ∧ ∃ stem, stem ≠ "" ∧ name = stem ++ "." ++ ext := by
  constructor
  · intro h
    have hup : name ≠ ".." := by
      rintro rfl
      cases h
    by_cases hpoint : '.' ∈ name.toList.reverse
    · obtain ⟨after, before, hreverse, hafter⟩ := List.eq_append_cons_of_mem hpoint
      have hname : name.toList = before.reverse ++ '.' :: after.reverse := by
        rw [← List.reverse_reverse name.toList, hreverse]
        simp
      have hext : '.' ∉ after.reverse := fun hmem => hafter (List.mem_reverse.mp hmem)
      rw [nameExtension?_of_point hup hext hname, Option.ite_none_left_eq_some] at h
      obtain ⟨hstem, hext'⟩ := h
      obtain rfl := Option.some.inj hext'
      refine ⟨hup, by rwa [String.toList_ofList], String.ofList before.reverse, ?_, ?_⟩
      · intro hempty
        exact hstem (by simpa using congrArg String.toList hempty)
      · apply String.toList_inj.mp
        simp [hname]
    · rw [nameExtension?_of_notMem fun hmem => hpoint (List.mem_reverse.mpr hmem)] at h
      cases h
  · rintro ⟨hup, hext, stem, hstem, rfl⟩
    have hname : (stem ++ "." ++ ext).toList = stem.toList ++ '.' :: ext.toList := by simp
    rw [nameExtension?_of_point hup hext hname, if_neg (mt String.toList_eq_nil_iff.mp hstem), String.ofList_toList]

end

/-! ## Steps in trees -/

namespace Node

variable {n m : Node} {entries : List (String × Node)} {name : String} {steps : List String}

theorem at?_file {contents : Option String} (h : (file contents).at? steps = some m) : steps = [] := by
  cases steps with
  | nil => rfl
  | cons name steps => cases h

theorem at?_cons_eq_some (hn : (directory entries).wellFormed = true) :
    (directory entries).at? (name :: steps) = some m ↔ ∃ child, (name, child) ∈ entries ∧ child.at? steps = some m := by
  rw [at?, Option.bind_eq_some_iff]
  simp only [entry?_directory, OrderedMap.get?_eq_some_iff_mem (wellFormed_directory.mp hn).1]

theorem at?_append (n : Node) (steps steps' : List String) :
    n.at? (steps ++ steps') = (n.at? steps).bind (·.at? steps') := by
  induction steps generalizing n with
  | nil => rfl
  | cons name steps ih =>
    rw [List.cons_append, at?, at?, Option.bind_assoc]
    simp only [ih]

/-- What stands in a well-formed tree is well-formed, and steps lead to it. -/
theorem wellFormed_at? (hn : n.wellFormed = true) (h : n.at? steps = some m) :
    m.wellFormed = true ∧ ∀ name ∈ steps, IsStep name := by
  induction steps generalizing n with
  | nil =>
    obtain rfl := Option.some.inj h
    exact ⟨hn, nofun⟩
  | cons name steps ih =>
    cases n with
    | file contents => cases h
    | directory entries =>
      obtain ⟨child, hmem, hchild⟩ := (at?_cons_eq_some hn).mp h
      obtain ⟨hname, hwell⟩ := (wellFormed_directory.mp hn).2 _ hmem
      obtain ⟨hm, hsteps⟩ := ih hwell hchild
      exact ⟨hm, List.forall_mem_cons.mpr ⟨hname, hsteps⟩⟩

end Node

/-! ## Paths that lead into trees -/

namespace Workspace

variable {w : Workspace} {path name : String} {here place steps : List String} {n m : Node}

theorem resolveFrom_cons (hname : name ≠ "..") (w : Workspace) (here steps : List String) :
    w.resolveFrom here (name :: steps) =
      (w.root.at? (here ++ [name])).bind fun n =>
        if n.isDirectory then w.resolveFrom (here ++ [name]) steps
        else if steps.isEmpty then some (here ++ [name]) else none := by
  rw [resolveFrom]
  · split
    · rename_i h
      rw [h, Option.bind_none]
    · rename_i h
      rw [h, Option.bind_some]
      rfl
    · rename_i h
      rw [h, Option.bind_some]
      rfl
  · exact hname

theorem resolveFrom_append (h : w.resolveFrom here steps = some place)
    (hplace : (w.root.at? place).any Node.isDirectory = true) (steps' : List String) :
    w.resolveFrom here (steps ++ steps') = w.resolveFrom place steps' := by
  induction steps generalizing here with
  | nil =>
    obtain rfl := Option.some.inj h
    rfl
  | cons name steps ih =>
    by_cases hname : name = ".."
    · subst hname
      exact ih h
    · rw [List.cons_append, resolveFrom_cons hname]
      rw [resolveFrom_cons hname] at h
      obtain ⟨n, hn, h⟩ := Option.bind_eq_some_iff.mp h
      rw [hn, Option.bind_some]
      by_cases hdirectory : n.isDirectory
      · rw [if_pos hdirectory] at h ⊢
        exact ih h
      · rw [if_neg hdirectory, Option.ite_none_right_eq_some] at h
        obtain rfl := Option.some.inj h.2
        rw [hn] at hplace
        contradiction

theorem resolveFrom_steps (hsteps : ∀ name ∈ steps, IsStep name) (h : w.root.at? here = some n)
    (hm : n.at? steps = some m) : w.resolveFrom here steps = some (here ++ steps) := by
  induction steps generalizing here n with
  | nil => exact congrArg some (List.append_nil here).symm
  | cons name steps ih =>
    obtain ⟨child, hentry, hchild⟩ := Option.bind_eq_some_iff.mp hm
    have hat : w.root.at? (here ++ [name]) = some child := by
      rw [Node.at?_append, h, Option.bind_some, Node.at?, hentry]
      rfl
    rw [resolveFrom_cons (hsteps name List.mem_cons_self).ne_up, hat, Option.bind_some]
    cases child with
    | file contents =>
      rw [Node.at?_file hchild]
      rfl
    | directory entries =>
      rw [if_pos (show Node.isDirectory (.directory entries) = true from rfl), ih (fun name h => hsteps name (List.mem_cons_of_mem _ h)) hat hchild, List.append_assoc]
      rfl

theorem place?_eq (w : Workspace) (path : String) : w.place? path =
    if path.isEmpty then none
    else (w.resolveFrom (if isAbsolute path then [] else w.current) (names path)).bind fun place =>
      (w.root.at? place).bind fun n =>
        let last := (betweenSlashes path.toList).getLast?
        if n.isFile && (last == some [] || last == some ['.']) then none else some place := by
  unfold place?
  split <;> rfl

/-- What a path leads to; a path to a file ends with its name. -/
theorem find?_eq_some : w.find? path = some n ↔ path ≠ "" ∧
    ∃ place, w.resolveFrom (if isAbsolute path then [] else w.current) (names path) = some place ∧
      w.root.at? place = some n ∧
      (n.isFile = true → (betweenSlashes path.toList).getLast? ≠ some [] ∧
        (betweenSlashes path.toList).getLast? ≠ some ['.']) := by
  have hempty : path.isEmpty = true ↔ path = "" := String.isEmpty_iff
  rw [find?, place?_eq, Option.bind_eq_some_iff]
  dsimp only
  constructor
  · rintro ⟨place, hplace, hat⟩
    rw [Option.ite_none_left_eq_some, hempty] at hplace
    obtain ⟨hpath, hplace⟩ := hplace
    obtain ⟨place', hresolve, hplace⟩ := Option.bind_eq_some_iff.mp hplace
    obtain ⟨n', hat', hplace⟩ := Option.bind_eq_some_iff.mp hplace
    rw [Option.ite_none_left_eq_some] at hplace
    obtain ⟨hlast, hplace⟩ := hplace
    obtain rfl := Option.some.inj hplace
    obtain rfl := Option.some.inj (hat.symm.trans hat')
    refine ⟨hpath, place', hresolve, hat, ?_⟩
    simpa using hlast
  · rintro ⟨hpath, place, hresolve, hat, hlast⟩
    refine ⟨place, ?_, hat⟩
    rw [if_neg (mt hempty.mp hpath), hresolve, Option.bind_some, hat, Option.bind_some, if_neg]
    simpa using hlast

/-- A path with steps joined to it leads where they lead from the directory at the path. -/
theorem find?_joinAll {entries : List (String × Node)} (h : w.find? path = some (.directory entries))
    (hsteps : ∀ name ∈ steps, IsStep name) (hm : (Node.directory entries).at? steps = some m) :
    w.find? (joinAll path steps) = some m := by
  obtain ⟨hpath, place, hplace, hat, -⟩ := find?_eq_some.mp h
  refine find?_eq_some.mpr ⟨joinAll_ne_empty hpath steps, place ++ steps, ?_, ?_, ?_⟩
  · rw [isAbsolute_joinAll hpath, names_joinAll hpath hsteps, resolveFrom_append hplace (by rw [hat]; rfl)]
    exact resolveFrom_steps hsteps hat hm
  · rw [Node.at?_append, hat]
    exact hm
  · intro hfile
    rcases List.eq_nil_or_concat steps with rfl | ⟨before, name, rfl⟩
    · obtain rfl := Option.some.inj hm
      contradiction
    · have hname : IsStep name := hsteps name (by simp)
      have hlast := getLast?_betweenSlashes_join (joinAll_ne_empty hpath before) hname
      have hjoin : joinAll path (before.concat name) = join (joinAll path before) name := by
        rw [List.concat_eq_append, joinAll, List.foldl_append]
        rfl
      rw [hjoin, hlast]
      refine ⟨fun h => hname.ne_empty ?_, fun h => hname.ne_here ?_⟩
      · exact String.toList_eq_nil_iff.mp (Option.some.inj h)
      · exact String.toList_inj.mp (Option.some.inj h)

end Workspace

end TagAudit.FileTree
