/-
  TagAudit.Proofs.Symbols.CycleReasons — what reasons say of cycles.

  Evaluation finds a cycle where a local is asked for that stands on the stack, and the reason
  names the stack and that local. From there it is passed on: by the memo, by the outcomes in a
  table, as the reason for an operand; or it is dropped where evaluation goes on without a value.
  A local gets onto the stack only because the expression of the one before it refers to it, so
  every stack is a chain of dependencies (`Candid.linked`) and what is told of a cycle is a chain
  that closes (`Table.Loop`).

  `Listening` is a monad in which the same evaluations note the reason of each local that has no
  value, also of those whose reasons are dropped later.

  Proved: `cycles_told_loop`: while a table is built and afterwards, every reason that tells of a
  cycle tells of a loop of declared locals. Where no local can reach itself no reason does.
-/

import Mathlib.Data.List.Chain
import TagAudit.Proofs.Symbols.Cycles
import TagAudit.Proofs.Symbols.Fixpoint

namespace TagAudit.Symbols

open Hcl Declarations

/-! ## Loops -/

namespace Table

/-- Locals each of which depends on the next one; the last of them stands before already. -/
structure Loop (t : Table) (names : List String) : Prop where
  declared : ∀ x ∈ names, x ∈ t.locals.keys
  linked : names.IsChain t.DependsOn
  closed : ∃ before x, names = before ++ [x] ∧ x ∈ before

/-- If the reason tells of a cycle, there is one. -/
def Truthful (t : Table) (r : Reason) : Prop := ∀ names, r.cycle? = some names → t.Loop names

variable {t : Table} {names : List String} {r : Reason}

theorem Loop.not_acyclic (h : t.Loop names) : ¬ t.Acyclic := by
  intro hcycle
  obtain ⟨before, x, rfl, hx⟩ := h.closed
  have hreach : (before ++ [x]).Pairwise (Relation.TransGen t.DependsOn) :=
    (h.linked.imp fun _ _ => Relation.TransGen.single).pairwise
  exact hcycle x ((List.pairwise_append.mp hreach).2.2 x hx x List.mem_cons_self)

theorem truthful_of_none (h : r.cycle? = none) : t.Truthful r := by
  intro names hnames
  rw [h] at hnames
  contradiction

/-- Where no local can reach itself, a reason that is true tells of no cycle. -/
theorem Truthful.eq_none (h : t.Truthful r) (hcycle : t.Acyclic) : r.cycle? = none := by
  cases hr : r.cycle? with
  | none => rfl
  | some names => exact ((h names hr).not_acyclic hcycle).elim

end Table

/-! ## Evaluations whose reasons are true -/

namespace Table

/-- The same outcome, and if it is a reason, one that is true. -/
inductive Alike (t : Table) {α β : Type} (P : α → β → Prop) : Except Reason α → Except Reason β → Prop
  | ok {a : α} {b : β} (h : P a b) : Alike t P (.ok a) (.ok b)
  | error {r : Reason} (h : t.Truthful r) : Alike t P (.error r) (.error r)

variable {t : Table}

theorem Alike.eq {o o' : Outcome} (h : t.Alike (· = ·) o o') : o = o' := by
  cases h with
  | ok h => rw [h]
  | error h => rfl

theorem alike_of_truthful {o : Outcome} (h : ∀ r, o = .error r → t.Truthful r) : t.Alike (· = ·) o o := by
  cases o with
  | ok v => exact .ok rfl
  | error r => exact .error (h r rfl)

theorem Alike.left {o o' : Outcome} (h : t.Alike (· = ·) o o') : t.Alike (· = ·) o o :=
  h.eq ▸ h

theorem Alike.right {o o' : Outcome} (h : t.Alike (· = ·) o o') : t.Alike (· = ·) o' o' :=
  h.eq ▸ h

theorem truthful_of_alike {o : Outcome} (h : t.Alike (· = ·) o o) {r : Reason} (ho : o = .error r) : t.Truthful r := by
  cases h with
  | ok h => contradiction
  | error h => exact Except.error.inj ho ▸ h

/-! ### What evaluation finds itself -/

theorem alike_error {r : Reason} (h : r.cycle? = none) : t.Alike (· = ·) (.error r : Outcome) (.error r : Outcome) :=
  .error (truthful_of_none h)

theorem lookupKey_alike (key : String) (v : Value) : t.Alike (· = ·) (lookupKey key v) (lookupKey key v) := by
  unfold lookupKey
  split
  · split
    · exact .ok rfl
    · exact alike_error rfl
  · exact alike_error rfl

theorem lookupPosition_alike (i : Nat) (v : Value) : t.Alike (· = ·) (lookupPosition i v) (lookupPosition i v) := by
  unfold lookupPosition
  split
  · split
    · exact .ok rfl
    · exact alike_error rfl
  · exact alike_error rfl

theorem lookupIndex_alike (i v : Value) : t.Alike (· = ·) (lookupIndex i v) (lookupIndex i v) := by
  unfold lookupIndex
  split
  · split
    · exact lookupPosition_alike _ _
    · exact alike_error rfl
  · split
    · exact lookupKey_alike _ _
    · exact alike_error rfl

theorem mergeMaps_alike (os : List (Option (OrderedMap Value))) : t.Alike (· = ·) (mergeMaps os) (mergeMaps os) := by
  unfold mergeMaps
  split
  · exact alike_error rfl
  · exact .ok rfl

theorem variableValue_alike (name : String) : t.Alike (· = ·) (t.variableValue name) (t.variableValue name) := by
  unfold variableValue
  split
  · exact .ok rfl
  · split
    · exact alike_error rfl
    · split
      · exact .ok rfl
      · exact alike_error rfl

/-- An operand passes on what its own reason tells. -/
theorem operandMap_alike {o o' : Outcome} (h : t.Alike (· = ·) o o') :
    t.Alike (· = ·) (operandMap t.strict o) (operandMap t.strict o') := by
  cases h with
  | ok h =>
    subst h
    unfold operandMap
    split
    · exact .ok rfl
    · split
      · exact .error (truthful_of_none rfl)
      · exact .ok rfl
    · split
      · contradiction
      · exact .ok rfl
  | error h =>
    unfold operandMap
    dsimp only
    split
    · exact .error h
    · exact .ok rfl

end Table

/-- Evaluations of the same values that pass on true reasons only. -/
def Simulation.truthful {m n : Type → Type} [Monad m] [Monad n] (S : Simulation m n) (t : Table) :
    Correspondence m n t t where
  V := (· = ·)
  O := t.Alike (· = ·)
  Operand := (· = ·)
  Rel P x y := S.Rel (t.Alike P) x.run y.run
  pure h := S.pure (.ok h)
  bind h hf := S.bind h fun _ _ ho => by
    cases ho with
    | ok h => exact hf _ _ h
    | error h => exact S.pure (.error h)
  throw h := S.pure (.error (Table.truthful_of_none h))
  settled h := S.pure h
  outcomeOf h := S.bind h fun _ _ ho => S.pure (.ok ho)
  scalarText hsilent h := by
    subst h
    unfold scalarText
    split
    · exact S.pure (.ok rfl)
    · exact S.pure (.error (Table.truthful_of_none (hsilent _)))
  scalar _ := rfl
  list h := (S.exact rfl : Correspondence m n t t).list h
  map h := (S.exact rfl : Correspondence m n t t).map h
  orRaw _ h := h.eq ▸ rfl
  lookupKey _ h := h ▸ Table.lookupKey_alike _ _
  lookupPosition _ h := h ▸ Table.lookupPosition_alike _ _
  lookupIndex hi hv := hi ▸ hv ▸ Table.lookupIndex_alike _ _
  operand h := S.pure (Table.operandMap_alike h)
  merge h := by
    rw [List.forall₂_eq_eq_eq] at h
    exact h ▸ Table.mergeMaps_alike _

/-! ## Noting reasons -/

/-- The state of an evaluation, and the reasons of the locals that had no value. -/
structure Overheard where
  now : Evaluation
  reasons : List Reason

def Overheard.note (o : Outcome) (w : Overheard) : Overheard :=
  match o with
  | .ok _ => w
  | .error r => { w with reasons := w.reasons ++ [r] }

@[simp] theorem Overheard.note_now (o : Outcome) (w : Overheard) : (w.note o).now = w.now := by
  cases o <;> rfl

abbrev Listening := StateM Overheard

instance : MonadStateOf Evaluation Listening where
  get := fun w => (w.now, w)
  set s w := ((), { w with now := s })
  modifyGet f := fun w => ((f w.now).1, { w with now := (f w.now).2 })

/-- A local with the reason noted why it has no value. -/
def noting (localValue : String → Evaluating Listening Value) (name : String) : Evaluating Listening Value :=
  ExceptT.mk fun w =>
    let r := (localValue name).run.run w
    (r.1, r.2.note r.1)

def overheard (t : Table) (inner : String → Evaluating Listening Value) : Nat → String → Evaluating Listening Value
  | 0 => inner
  | depth + 1 => noting (localStep t (overheard t inner depth))

/-- The value of a local, with its reason and those of all locals inside it noted. -/
def Table.overheardLocal (t : Table) : String → Evaluating Listening Value :=
  overheard t (fun name => throw (.cycle [name])) (t.locals.length + 1)

/-- The result of a program and the reasons of the locals that it asks for. -/
def Program.listen {α : Type} (p : Program α) (lv : String → Evaluating Listening Value) : α × Overheard :=
  StateT.run (p lv) ⟨Evaluation.start, []⟩

theorem listen_localStep (t : Table) (inner : String → Evaluating Listening Value) (name : String) (w : Overheard) :
    (localStep t inner name).run.run w =
      match t.known w.now name with
      | .inl o => (o, w)
      | .inr e =>
        let r := (eval t inner e).run.run { w with now := w.now.enter name }
        (r.1, { r.2 with now := r.2.now.leave name r.1 }) := by
  change StateT.run (match t.known w.now name with
    | .inl o => (pure o : Listening Outcome)
    | .inr e => evalLocal t inner name e) w = _
  split <;> rfl

/-! ## One run beside the other -/

namespace Table

/-- The reasons that locals were found to have are true. -/
def Recorded (t : Table) : Prop :=
  ∀ x l r, t.locals.get? x = some l → l.outcome = some (.error r) → t.Truthful r

/-- States of an evaluation: each local on the stack depends on the next one, and all reasons
    that were remembered or noted are true. -/
structure Candid (t : Table) (w : Overheard) : Prop where
  proper : t.Proper w.now.stack
  linked : w.now.stack.IsChain t.DependsOn
  memo : ∀ x r, w.now.memo.get? x = some (.error r) → t.Truthful r
  noted : ∀ r ∈ w.reasons, t.Truthful r

namespace Candid

variable {t : Table} {w w' : Overheard} {name : String}

theorem start (t : Table) : t.Candid ⟨Evaluation.start, []⟩ where
  proper := proper_nil
  linked := .nil
  memo := by intro x r h; contradiction
  noted := by simp

theorem note (h : t.Candid w) {o : Outcome} (ho : t.Alike (· = ·) o o) : t.Candid (w.note o) := by
  cases o with
  | ok v => exact h
  | error r =>
    refine ⟨h.proper, h.linked, h.memo, fun r' hr' => ?_⟩
    rcases List.mem_append.mp hr' with hr' | hr'
    · exact h.noted r' hr'
    · rw [List.mem_singleton.mp hr']
      exact truthful_of_alike ho rfl

/-- A cycle is found where the stack and the local that it leads to close a loop. -/
theorem known_alike (h : t.Candid w) (hrec : t.Recorded) (hlink : (w.now.stack ++ [name]).IsChain t.DependsOn)
    {o : Outcome} (hk : t.known w.now name = .inl o) : t.Alike (· = ·) o o := by
  refine alike_of_truthful fun r hr => ?_
  subst hr
  unfold known at hk
  split at hk
  · cases hk
    exact truthful_of_none rfl
  · rename_i l hl
    split at hk
    · rename_i o ho
      cases hk
      exact hrec name l r hl ho
    · split at hk
      · rename_i o hm
        cases hk
        exact h.memo name r hm
      · split at hk
        · rename_i hmem
          cases hk
          intro names hnames
          cases hnames
          rw [List.contains_iff_mem] at hmem
          refine ⟨fun x hx => ?_, hlink, w.now.stack, name, rfl, hmem⟩
          rcases List.mem_append.mp hx with hx | hx
          · exact h.proper.declared x hx
          · rw [List.mem_singleton.mp hx]
            exact h.proper.declared name hmem
        · contradiction

theorem enter (h : t.Candid w) (hlink : (w.now.stack ++ [name]).IsChain t.DependsOn) {e : Expr}
    (hk : t.known w.now name = .inr e) : t.Candid { w with now := w.now.enter name } :=
  ⟨proper_enter h.proper hk, hlink, h.memo, h.noted⟩

theorem leave (h : t.Candid w) (h' : t.Candid w') (hstack : w'.now.stack = (w.now.enter name).stack) {o : Outcome}
    (ho : t.Alike (· = ·) o o) : t.Candid { w' with now := w'.now.leave name o } := by
  have hleft : (w'.now.leave name o).stack = w.now.stack := Evaluation.leave_enter_stack _ _ _ _ hstack
  refine ⟨hleft ▸ h.proper, hleft ▸ h.linked, fun x r hm => ?_, h'.noted⟩
  rw [Evaluation.get?_leave] at hm
  by_cases hx : name = x
  · rw [if_pos hx] at hm
    exact truthful_of_alike ho (Option.some.inj hm)
  · rw [if_neg hx] at hm
    exact h'.memo x r hm

end Candid
end Table

/-- An evaluation that notes reasons beside one that does not, from candid states with one stack. -/
def listening (t : Table) (stack : List String) : Simulation Listening (StateM Evaluation) where
  Rel P x y := ∀ w, t.Candid w → w.now.stack = stack →
    P (x.run w).1 (y.run w.now).1 ∧ (x.run w).2.now = (y.run w.now).2 ∧
      t.Candid (x.run w).2 ∧ (x.run w).2.now.stack = stack
  pure h w hw hstack := ⟨h, rfl, hw, hstack⟩
  bind := by
    intro _ _ _ _ P Q x y f g hx hf w hw hstack
    obtain ⟨hr, hs, hw', hstack'⟩ := hx w hw hstack
    have hrest := hf _ _ hr _ hw' hstack'
    rw [hs] at hrest
    exact hrest

/-- Locals with true reasons, with or without noting them. -/
def Attested (t : Table) (stack : List String) (x : Evaluating Listening Value)
    (y : Evaluating (StateM Evaluation) Value) : Prop :=
  (listening t stack).Rel (t.Alike (· = ·)) x.run y.run

theorem Attested.noting {t : Table} {stack : List String} {lv : String → Evaluating Listening Value} {name : String}
    {y : Evaluating (StateM Evaluation) Value} (h : Attested t stack (lv name) y) :
    Attested t stack (noting lv name) y := by
  intro w hw hstack
  obtain ⟨hr, hs, hw', hstack'⟩ := h w hw hstack
  refine ⟨hr, (Overheard.note_now _ _).trans hs, hw'.note hr.left, ?_⟩
  exact (congrArg Evaluation.stack (Overheard.note_now _ _)).trans hstack'

/-- A local whose expression leads on to locals that it depends on. -/
theorem attested_localStep {t : Table} (hlisted : t.Listed) (hrec : t.Recorded) {stack : List String} {name : String}
    {inner : String → Evaluating Listening Value} {inner' : String → Evaluating (StateM Evaluation) Value}
    (hlink : (stack ++ [name]).IsChain t.DependsOn)
    (h : ∀ y, t.Proper (stack ++ [name]) → (stack ++ [name] ++ [y]).IsChain t.DependsOn →
      Attested t (stack ++ [name]) (inner y) (inner' y)) :
    Attested t stack (localStep t inner name) (localStep t inner' name) := by
  rintro w hw rfl
  rw [listen_localStep, run_localStep]
  cases hk : t.known w.now name with
  | inl o => exact ⟨hw.known_alike hrec hlink hk, rfl, hw, rfl⟩
  | inr e =>
    obtain ⟨l, hl, -, -, -, rfl⟩ := Table.known_eq_inr.mp hk
    have hin := hw.enter hlink hk
    let R : Correspondence _ _ t t := (listening t (w.now.enter name).stack).truthful t
    have hlocals : R.Agree inner inner' (references l.expression) := by
      refine R.agree (fun r _ _ => Table.variableValue_alike r.name) fun r hr hscope => h r.name hin.proper ?_
      have hdep : t.DependsOn name r.name :=
        (Table.refers_iff_dependsOn hlisted _ _).mp ⟨_, Table.expression?_of_get? hl, r, hr, hscope, rfl⟩
      simpa using List.isChain_append_cons_cons.mpr ⟨hlink, hdep, .singleton _⟩
    obtain ⟨hr, hs, hw', hstack⟩ := R.eval l.expression hlocals _ hin rfl
    have hleft := hw.leave hw' hstack (o := ((eval t inner l.expression).run.run _).1) hr.left
    refine ⟨hr, congrArg₂ (Evaluation.leave name) hr.eq hs, hleft, Evaluation.leave_enter_stack _ _ _ _ hstack⟩

/-- With room for all locals, what is noted on the way down is true. The induction is on the depth
    that is left, which a proper stack never uses up. -/
theorem attested_nested {t : Table} (hlisted : t.Listed) (hrec : t.Recorded)
    (inner : String → Evaluating Listening Value) (inner' : String → Evaluating (StateM Evaluation) Value) :
    ∀ {depth : Nat} {stack : List String}, t.Proper stack → t.locals.length < stack.length + depth →
      ∀ {name : String}, (stack ++ [name]).IsChain t.DependsOn →
        Attested t stack (overheard t inner depth name) (nested t inner' depth name)
  | 0, _, hp, hd, _, _ => absurd hp.length_le (by omega)
  | depth + 1, stack, hp, hd, name, hlink => by
    refine Attested.noting (attested_localStep hlisted hrec hlink fun y hp' hlink' => ?_)
    exact attested_nested hlisted hrec inner inner' hp' (by simp; omega) hlink'

theorem attested_localValue {t : Table} (hlisted : t.Listed) (hrec : t.Recorded) (name : String) :
    Attested t [] (t.overheardLocal name) (t.localValue name) :=
  attested_nested hlisted hrec _ _ Table.proper_nil (by simp) (.singleton name)

/-! ## Reasons that tables give -/

/-- The reasons of all locals that a program comes to evaluate. -/
def Table.reasons (t : Table) {α : Type} (p : Program α) : List Reason :=
  (Program.listen p t.overheardLocal).2.reasons

/-- Noting the reasons of the locals that a program asks for makes no difference to it, and
    something holds of all of them. -/
structure Hears (t : Table) (P : Reason → Prop) {α : Type} (p : Program α) : Prop where
  result : (Program.listen p t.overheardLocal).1 = (Program.run p t.localValue).1
  state : (Program.listen p t.overheardLocal).2.now = (Program.run p t.localValue).2
  noted : ∀ r ∈ t.reasons p, P r

theorem Hears.mono {t : Table} {P Q : Reason → Prop} {α : Type} {p : Program α} (h : Hears t P p)
    (hPQ : ∀ r, P r → Q r) : Hears t Q p :=
  ⟨h.result, h.state, fun r hr => hPQ r (h.noted r hr)⟩

/-- Outcomes of the same locals one after the other. -/
theorem outcomes_truthful {m n : Type → Type} [Monad m] [Monad n] (S : Simulation m n) (t : Table)
    {lv : String → Evaluating m Value} {lv' : String → Evaluating n Value} {names : List String}
    (h : ∀ name ∈ names, S.Rel (t.Alike (· = ·)) (lv name).run (lv' name).run) :
    S.Rel (fun os os' => os = os' ∧ ∀ e ∈ os', t.Alike (· = ·) e.2 e.2)
      (Declarations.outcomes lv names) (Declarations.outcomes lv' names) := by
  refine S.outcomes_of ⟨rfl, by simp⟩ (fun ho hos => ?_) h
  obtain ⟨rfl, hall⟩ := hos
  exact ⟨by rw [ho.eq], List.forall_mem_cons.mpr ⟨ho.right, hall⟩⟩

namespace Table

/-- What holds of every reason that comes up where an expression or all locals are evaluated in a
    table, and of those that the table holds. -/
structure Gives (t : Table) (P : Reason → Prop) : Prop where
  expressions : ∀ e, Hears t P fun localValue => (eval t localValue e).run
  locals : Hears t P fun localValue => outcomes localValue t.locals.keys
  outcome : ∀ e r, t.outcome e = .error r → P r
  stored : ∀ x l r, t.locals.get? x = some l → l.outcome = some (.error r) → P r

variable {t t' : Table}

theorem Gives.mono {P Q : Reason → Prop} (h : t.Gives P) (hPQ : ∀ r, P r → Q r) : t.Gives Q where
  expressions e := (h.expressions e).mono hPQ
  locals := h.locals.mono hPQ
  outcome e r hr := hPQ r (h.outcome e r hr)
  stored x l r hl hr := hPQ r (h.stored x l r hl hr)

theorem evaluated_truthful (hlisted : t.Listed) (hrec : t.Recorded) :
    (Hears t t.Truthful fun localValue => outcomes localValue t.locals.keys) ∧
      ∀ x r, OrderedMap.get? (evaluated t) x = some (.error r) → t.Truthful r := by
  have hlocals : ∀ name ∈ t.locals.keys, Attested t [] (t.overheardLocal name) (t.localValue name) :=
    fun name _ => attested_localValue hlisted hrec name
  obtain ⟨⟨hresult, hall⟩, hstate, hcandid, -⟩ := outcomes_truthful (listening t []) t hlocals _ (.start t) rfl
  refine ⟨⟨hresult, hstate, hcandid.noted⟩, fun x r hr => ?_⟩
  have hmem : (x, (.error r : Outcome)) ∈ evaluated t := OrderedMap.mem_of_get? hr
  exact truthful_of_alike (hall _ hmem) rfl

theorem gives_truthful (hlisted : t.Listed) (hrec : t.Recorded) : t.Gives t.Truthful := by
  let R : Correspondence _ _ t t := (listening t []).truthful t
  have hrun (e : Expr) := R.eval e
    (R.agree (fun r _ _ => variableValue_alike r.name) fun r _ _ => attested_localValue hlisted hrec r.name) _ (.start t) rfl
  constructor
  · intro e
    obtain ⟨hr, hs, hcandid, -⟩ := hrun e
    exact ⟨hr.eq, hs, hcandid.noted⟩
  · exact (evaluated_truthful hlisted hrec).1
  · intro e r hr
    obtain ⟨halike, -⟩ := hrun e
    exact truthful_of_alike halike.right hr
  · exact hrec

end Table

section
variable {files : List SourceFile} {overrides : OrderedMap Value} {strict : Bool}

/-- Evaluating locals changes nothing in what they depend on. -/
theorem dependsOn_ofFiles : (Table.ofFiles files overrides strict).DependsOn =
    (Table.unevaluatedOf files overrides strict).DependsOn := by
  funext x y
  refine propext ⟨?_, ?_⟩
  · rintro ⟨l, hl, hy⟩
    rw [Table.ofFiles, get?_build] at hl
    obtain ⟨l', hl', rfl⟩ := Option.map_eq_some_iff.mp hl
    exact ⟨l', hl', hy⟩
  · rintro ⟨l, hl, hy⟩
    exact ⟨_, (get?_build _ _ _ _).trans (congrArg (Option.map _) hl), hy⟩

theorem keys_unevaluatedOf : (Table.unevaluatedOf files overrides strict).locals.keys =
    (Table.ofFiles files overrides strict).locals.keys := by
  rw [keys_ofFiles, Table.unevaluatedOf, addAll_eq]
  rfl

theorem truthful_ofFiles : (Table.ofFiles files overrides strict).Truthful =
    (Table.unevaluatedOf files overrides strict).Truthful := by
  funext r
  refine propext (forall_congr' fun names => imp_congr_right fun _ => ?_)
  constructor
  · rintro ⟨hdeclared, hlinked, hclosed⟩
    exact ⟨keys_unevaluatedOf ▸ hdeclared, dependsOn_ofFiles ▸ hlinked, hclosed⟩
  · rintro ⟨hdeclared, hlinked, hclosed⟩
    exact ⟨keys_unevaluatedOf ▸ hdeclared, dependsOn_ofFiles ▸ hlinked, hclosed⟩

theorem listed_unevaluatedOf : (Table.unevaluatedOf files overrides strict).Listed :=
  fun _ _ hl => (unevaluatedOf_declares hl).dependencies

theorem recorded_unevaluatedOf : (Table.unevaluatedOf files overrides strict).Recorded := by
  intro x l r hl hr
  rw [fresh_unevaluatedOf x l hl] at hr
  contradiction

theorem recorded_ofFiles : (Table.ofFiles files overrides strict).Recorded := by
  intro x l r hl hr
  rw [Table.ofFiles, get?_build] at hl
  obtain ⟨l', hl', rfl⟩ := Option.map_eq_some_iff.mp hl
  rw [truthful_ofFiles]
  exact (Table.evaluated_truthful listed_unevaluatedOf recorded_unevaluatedOf).2 x r hr

end

/-- While a table is built and afterwards, every reason that tells of a cycle tells of a loop, also
    those that are dropped on the way. Where no local can reach itself no reason tells of a cycle. -/
theorem cycles_told_loop (files : List SourceFile) (overrides : OrderedMap Value) (strict : Bool) :
    let t := Table.ofFiles files overrides strict
    let t₀ := Table.unevaluatedOf files overrides strict
    t₀.Gives t.Truthful ∧ t.Gives t.Truthful ∧
      (t.Acyclic → t₀.Gives (·.cycle? = none) ∧ t.Gives (·.cycle? = none)) := by
  intro t t₀
  have hbefore : t₀.Gives t.Truthful := by
    have h : t₀.Gives t₀.Truthful := Table.gives_truthful listed_unevaluatedOf recorded_unevaluatedOf
    rwa [← truthful_ofFiles] at h
  have hafter : t.Gives t.Truthful := Table.gives_truthful listed_ofFiles recorded_ofFiles
  refine ⟨hbefore, hafter, fun hcycle => ?_⟩
  exact ⟨hbefore.mono fun r hr => hr.eq_none hcycle, hafter.mono fun r hr => hr.eq_none hcycle⟩

/-- The merge goes on without the local, but the reason that it had none was noted. -/
theorem cycles_told_loop_passedOverFiles :
    let t := Table.unevaluatedOf passedOverFiles [] false
    (∃ r ∈ t.reasons (fun localValue => outcomes localValue t.locals.keys), r.cycle? = some ["tags", "tags"]) ∧
      (Table.ofFiles passedOverFiles [] false).Loop ["tags", "tags"] ∧
      (Table.ofFiles forwardFiles [] true).Gives (·.cycle? = none) := by
  intro t
  have hnoted : ((t.reasons fun localValue => outcomes localValue t.locals.keys).any
      fun r => r.cycle? == some ["tags", "tags"]) = true := by decide +kernel
  obtain ⟨r, hr, hnames⟩ := List.any_eq_true.mp hnoted
  rw [beq_iff_eq] at hnames
  obtain ⟨htold, -, -⟩ := cycles_told_loop passedOverFiles [] false
  obtain ⟨-, -, hsilent⟩ := cycles_told_loop forwardFiles [] true
  have hcycle : (Table.ofFiles forwardFiles [] true).Acyclic :=
    acyclic_of_rank (fun x => if x = "tags" then 1 else 0) (by decide +kernel)
  exact ⟨⟨r, hr, hnames⟩, htold.locals.noted r hr _ hnames, (hsilent hcycle).2⟩

end TagAudit.Symbols
