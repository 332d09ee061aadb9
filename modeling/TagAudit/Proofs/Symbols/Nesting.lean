/-
  TagAudit.Proofs.Symbols.Nesting — locals are nested at most as deep as there are locals.

  `localStep` evaluates a local with the help of a function for the locals inside it. The
  stack of an evaluation tells how often it was used within itself. Since a local is entered
  only if it is declared and not on the stack, a stack never repeats a name (`proper_enter`),
  so it cannot get longer than the table has locals (`Proper.length_le`).

  `Watching` is a monad in which the same evaluations note each state that they pass through.

  Proved, for every table:
  - `evaluation_ends`: what would be done one level below as many locals as there are never
    matters to an expression, nor to building a table; each state on the way has a stack of
    distinct declared locals; and the stack is empty again at the end.
  - the same theorem: from any state whatever, a local leaves the stack as it found it.
-/

import Mathlib.Data.List.Nodup
import Mathlib.Data.List.Perm.Subperm
import TagAudit.Proofs.Symbols.Correspondence

namespace TagAudit.Symbols

open Hcl

/-! ## Stacks -/

/-- Declared locals, none of them twice. -/
structure Table.Proper (t : Table) (stack : List String) : Prop where
  distinct : stack.Nodup
  declared : ∀ x ∈ stack, x ∈ t.locals.keys

namespace Table

variable {t : Table}

theorem proper_nil : t.Proper [] := ⟨.nil, by simp⟩

theorem Proper.length_le {stack : List String} (h : t.Proper stack) : stack.length ≤ t.locals.length := by
  have hs : stack.Subperm t.locals.keys := h.distinct.subperm h.declared
  simpa [OrderedMap.keys] using hs.length_le

theorem proper_enter {s : Evaluation} {name : String} {e : Expr} (h : t.Proper s.stack)
    (hk : t.known s name = .inr e) : t.Proper (s.enter name).stack := by
  obtain ⟨l, hl, -, -, hn, -⟩ := known_eq_inr.mp hk
  refine ⟨h.distinct.append (List.nodup_singleton name) (by simpa using hn), fun x hx => ?_⟩
  rcases List.mem_append.mp hx with hx | hx
  · exact h.declared x hx
  · rw [List.mem_singleton.mp hx]
    exact OrderedMap.mem_keys_of_get? hl

end Table

theorem Evaluation.leave_enter_stack (s s' : Evaluation) (name : String) (o : Outcome)
    (h : s'.stack = (s.enter name).stack) : (s'.leave name o).stack = s.stack := by
  simp [h]

/-! ## Noting the states of an evaluation -/

/-- The state of an evaluation, and the states it has been in. -/
structure Watched where
  now : Evaluation
  seen : List Evaluation

def Watched.write (s : Evaluation) (w : Watched) : Watched := ⟨s, w.seen ++ [s]⟩

abbrev Watching := StateM Watched

instance : MonadStateOf Evaluation Watching where
  get := fun w => (w.now, w)
  set s := fun w => ((), w.write s)
  modifyGet f := fun w => ((f w.now).1, w.write (f w.now).2)

theorem run_localStep (t : Table) (inner : String → Evaluating (StateM Evaluation) Value) (name : String)
    (s : Evaluation) : (localStep t inner name).run.run s =
      match t.known s name with
      | .inl o => (o, s)
      | .inr e =>
        let r := (eval t inner e).run.run (s.enter name)
        (r.1, r.2.leave name r.1) := by
  change StateT.run (match t.known s name with
    | .inl o => pure o
    | .inr e => evalLocal t inner name e) s = _
  split <;> rfl

theorem watch_localStep (t : Table) (inner : String → Evaluating Watching Value) (name : String) (w : Watched) :
    (localStep t inner name).run.run w =
      match t.known w.now name with
      | .inl o => (o, w)
      | .inr e =>
        let r := (eval t inner e).run.run (w.write (w.now.enter name))
        (r.1, r.2.write (r.2.now.leave name r.1)) := by
  change StateT.run (match t.known w.now name with
    | .inl o => (pure o : Watching Outcome)
    | .inr e => evalLocal t inner name e) w = _
  split <;> rfl

/-! ## One run beside the other -/

/-- What a watched computation does to the states: the stack is restored, and the states it
    notes have proper stacks if it starts with one. -/
structure Table.Orderly (t : Table) (w w' : Watched) : Prop where
  stack : w'.now.stack = w.now.stack
  seen : t.Proper w.now.stack → ∀ s ∈ w'.seen, s ∈ w.seen ∨ t.Proper s.stack

namespace Table.Orderly

variable {t : Table} {w w' w'' : Watched}

theorem refl : t.Orderly w w := ⟨rfl, fun _ _ hs => .inl hs⟩

theorem trans (h : t.Orderly w w') (h' : t.Orderly w' w'') : t.Orderly w w'' := by
  refine ⟨h'.stack.trans h.stack, fun hp s hs => ?_⟩
  rcases h'.seen (h.stack ▸ hp) s hs with hs | hs
  · exact h.seen hp s hs
  · exact .inr hs

/-- Entering a local, something orderly, and leaving it again. -/
theorem local_of_inner {name : String} {e : Expr} {o : Outcome} (hk : t.known w.now name = .inr e)
    (h : t.Orderly (w.write (w.now.enter name)) w') : t.Orderly w (w'.write (w'.now.leave name o)) := by
  have hstack : (w'.now.leave name o).stack = w.now.stack := Evaluation.leave_enter_stack _ _ _ _ h.stack
  refine ⟨hstack, fun hp s hs => ?_⟩
  rcases List.mem_append.mp hs with hs | hs
  · rcases h.seen (proper_enter hp hk) s hs with hs | hs
    · rcases List.mem_append.mp hs with hs | hs
      · exact .inl hs
      · rw [List.mem_singleton.mp hs]
        exact .inr (proper_enter hp hk)
    · exact .inr hs
  · rw [List.mem_singleton.mp hs, hstack]
    exact .inr hp

end Table.Orderly

/-- A watched computation beside one that notes nothing, from stacks with a property. -/
def watching (t : Table) (C : List String → Prop) : Simulation Watching (StateM Evaluation) where
  Rel P x y := ∀ w, C w.now.stack →
    P (x.run w).1 (y.run w.now).1 ∧ (x.run w).2.now = (y.run w.now).2 ∧ t.Orderly w (x.run w).2
  pure h _ _ := ⟨h, rfl, .refl⟩
  bind := by
    intro _ _ _ _ P Q x y f g hx hf w hw
    obtain ⟨hr, hs, ho⟩ := hx w hw
    have hw' : C (x.run w).2.now.stack := ho.stack ▸ hw
    obtain ⟨hr', hs', ho'⟩ := hf _ _ hr _ hw'
    rw [hs] at hr' hs'
    exact ⟨hr', hs', ho.trans ho'⟩

theorem localStep_watching {t : Table} {C : List String → Prop} {inner : String → Evaluating Watching Value}
    {inner' : String → Evaluating (StateM Evaluation) Value}
    (h : ∀ {s : Evaluation} {x : String} {e : Expr}, C s.stack → t.known s x = .inr e → ∀ name,
      (watching t (· = (s.enter x).stack)).Rel (SameOutcome (· = ·)) (inner name).run (inner' name).run)
    (name : String) :
    (watching t C).Rel (SameOutcome (· = ·)) (localStep t inner name).run (localStep t inner' name).run := by
  intro w hw
  rw [watch_localStep, run_localStep]
  cases hk : t.known w.now name with
  | inl o => exact ⟨.refl o, rfl, .refl⟩
  | inr e =>
    let R : Correspondence _ _ t t := (watching t (· = (w.now.enter name).stack)).exact rfl
    have hlocals : R.Agree inner inner' (references e) := R.agree (fun _ _ _ => rfl) fun r _ _ => h hw hk r.name
    obtain ⟨hr, hs, ho⟩ := R.eval e hlocals (w.write (w.now.enter name)) rfl
    exact ⟨hr, congrArg₂ (Evaluation.leave name) hr.eq hs, .local_of_inner hk ho⟩

/-- Below a proper stack there is room for as many locals as it leaves out; what `inner` and
    `inner'` do further down plays no part. -/
theorem nested_watching {t : Table} (inner : String → Evaluating Watching Value)
    (inner' : String → Evaluating (StateM Evaluation) Value) :
    ∀ {depth : Nat} {stack : List String}, t.Proper stack → t.locals.length < stack.length + depth → ∀ name,
      (watching t (· = stack)).Rel (SameOutcome (· = ·)) (nested t inner depth name).run
        (nested t inner' depth name).run
  | 0, _, hp, hd, _ => absurd hp.length_le (by omega)
  | depth + 1, stack, hp, hd, name => by
    refine localStep_watching ?_ name
    rintro s x e rfl hk
    exact nested_watching inner inner' (Table.proper_enter hp hk) (by simp; omega)

/-- From any state, proper or not, whatever `inner` does not do to the stack. -/
theorem nested_restores (t : Table) (inner : String → Evaluating Watching Value)
    (inner' : String → Evaluating (StateM Evaluation) Value)
    (h : ∀ name, (watching t fun _ => True).Rel (SameOutcome (· = ·)) (inner name).run (inner' name).run) :
    ∀ depth name, (watching t fun _ => True).Rel (SameOutcome (· = ·)) (nested t inner depth name).run
      (nested t inner' depth name).run
  | 0, name => h name
  | depth + 1, name => localStep_watching (fun _ _ name w _ => nested_restores t inner inner' h depth name w trivial) name

theorem localValue_restores (t : Table) (name : String) (s : Evaluation) :
    ((t.localValue name : Evaluating (StateM Evaluation) Value).run.run s).2.stack = s.stack := by
  have h := nested_restores t (fun name => throw (.cycle [name])) (fun name => throw (.cycle [name]))
    (fun _ => (watching t _).pure (.error _)) (t.locals.length + 1) name
  obtain ⟨-, hs, ho⟩ := h ⟨s, []⟩ trivial
  exact hs ▸ ho.stack

/-! ## Evaluations come to an end -/

/-- What asks for the values of locals, in any monad that has the state of an evaluation. -/
abbrev Program (α : Type) :=
  ∀ {m : Type → Type} [Monad m] [MonadStateOf Evaluation m], (String → Evaluating m Value) → m α

/-- The result and the last state of a program that is run from the start. -/
def Program.run {α : Type} (p : Program α) (lv : String → Evaluating (StateM Evaluation) Value) : α × Evaluation :=
  StateT.run (p lv) Evaluation.start

/-- The result of a program and the states that it passes through, the first one included. -/
def Program.watch {α : Type} (p : Program α) (lv : String → Evaluating Watching Value) : α × Watched :=
  StateT.run (p lv) ⟨Evaluation.start, [Evaluation.start]⟩

/-- A program that comes to an end, run on a table from the start. -/
structure Ends (t : Table) {α : Type} (p : Program α) : Prop where
  /-- It asks nothing of a local that lies below as many others as there are. -/
  bounded : ∀ inner, Program.run p (nested t inner (t.locals.length + 1)) = Program.run p t.localValue
  /-- It gives the same result when its states are noted. -/
  watched : (Program.watch p t.localValue).1 = (Program.run p t.localValue).1
  proper : ∀ s ∈ (Program.watch p t.localValue).2.seen, t.Proper s.stack ∧ s.stack.length ≤ t.locals.length
  restored : (Program.run p t.localValue).2.stack = []

theorem Ends.of_watching {t : Table} {α : Type} {p : Program α}
    (h : ∀ {lv : String → Evaluating Watching Value} {lv' : String → Evaluating (StateM Evaluation) Value},
      (∀ name, (watching t (· = [])).Rel (SameOutcome (· = ·)) (lv name).run (lv' name).run) →
        (watching t (· = [])).Rel (· = ·) (p lv) (p lv')) : Ends t p := by
  have deep : t.locals.length < ([] : List String).length + (t.locals.length + 1) := by simp
  have run (inner : String → Evaluating (StateM Evaluation) Value) :=
    h (nested_watching (fun name => throw (.cycle [name])) inner Table.proper_nil deep)
      ⟨Evaluation.start, [Evaluation.start]⟩ rfl
  obtain ⟨hr, hs, ho⟩ := run fun name => throw (.cycle [name])
  constructor
  · intro inner
    obtain ⟨hr', hs', -⟩ := run inner
    exact Prod.ext (hr'.symm.trans hr) (hs'.symm.trans hs)
  · exact hr
  · intro s hmem
    have hp : t.Proper s.stack := by
      rcases ho.seen Table.proper_nil s hmem with hmem | hp
      · rw [List.mem_singleton.mp hmem]
        exact Table.proper_nil
      · exact hp
    exact ⟨hp, hp.length_le⟩
  · exact hs ▸ ho.stack

/-- Evaluating an expression ends, and so does evaluating all locals of a table, with the
    stack proper all the way; and any local leaves the stack as it was. -/
theorem evaluation_ends (t : Table) :
    (∀ e, Ends t fun localValue => (eval t localValue e).run) ∧
      Ends t (fun localValue => Declarations.outcomes localValue t.locals.keys) ∧
      ∀ name s, ((t.localValue name : Evaluating (StateM Evaluation) Value).run.run s).2.stack = s.stack := by
  refine ⟨fun e => .of_watching fun h w hw => ?_, .of_watching fun h => ?_, localValue_restores t⟩
  · let R : Correspondence _ _ t t := (watching t (· = [])).exact rfl
    obtain ⟨hr, hs, ho⟩ := R.eval e (R.agree (fun _ _ _ => rfl) fun r _ _ => h r.name) w hw
    exact ⟨hr.eq, hs, ho⟩
  · exact (watching t (· = [])).outcomes fun name _ => h name

end TagAudit.Symbols
