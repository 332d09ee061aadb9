/-
  TagAudit.Proofs.Symbols.Memo — what an evaluation remembers of locals.

  A memo grows by one local after the other, and what is noted of a local was found with the
  memo of that moment and with some locals unfinished. `Table.History` keeps this: the
  outcome of a local is the value of its expression wherever other locals have the outcomes
  that were known of them then (`Table.Fits`). `remember` puts an evaluation beside one that
  is given the outcomes of locals, and `nested_remember` is the run lemma.

  Proved:
  - `History.fixpoint`: if no local leads back to itself, every outcome in a memo is the value
    of the local's expression where the locals have the outcomes that the memo says.
  - `build_history`: building a table comes to know all its locals, and by such a history.
  - `outcome_eq_valueIn`: in a finished table an expression has its value where the locals have
    their stored outcomes.
-/

import TagAudit.Proofs.Symbols.Dependencies
import TagAudit.Proofs.Symbols.Nesting

namespace TagAudit.Symbols

open Hcl

/-! ## What is known of locals -/

namespace Table

variable {t : Table} {s s' : Evaluation} {ρ : Valuation}

/-- A valuation says of locals what an evaluation knows of them. -/
def Fits (t : Table) (ρ : Valuation) (s : Evaluation) : Prop := ∀ x o, t.known s x = .inl o → ρ x = o

/-- What is known of locals, and `ρ` of the others. -/
def knownOr (t : Table) (s : Evaluation) (ρ : Valuation) : Valuation := fun x =>
  match t.known s x with
  | .inl o => o
  | .inr _ => ρ x

theorem fits_knownOr (t : Table) (s : Evaluation) (ρ : Valuation) : t.Fits (t.knownOr s ρ) s := by
  intro x o h
  simp [knownOr, h]

/-- What is known stays so while no local that is being evaluated gets an outcome. -/
theorem known_mono (hm : s.memo <+: s'.memo) (hs : s'.stack = s.stack) (ho : ∀ z ∈ s.stack, s'.memo.get? z = none)
    {x : String} {o : Outcome} (h : t.known s x = .inl o) : t.known s' x = .inl o := by
  unfold known at h ⊢
  split at h
  · exact h
  · split at h
    · exact h
    · split at h
      · rename_i hx
        rw [OrderedMap.get?_of_prefix hm hx]
        exact h
      · split at h
        · rename_i hx
          simp only [ho x (List.contains_iff_mem.mp hx), hs, if_pos hx]
          exact h
        · contradiction

theorem Fits.mono (hm : s.memo <+: s'.memo) (hs : s'.stack = s.stack) (ho : ∀ z ∈ s.stack, s'.memo.get? z = none)
    (h : t.Fits ρ s') : t.Fits ρ s :=
  fun x o hx => h x o (known_mono hm hs ho hx)

theorem known_leave {x : String} {e : Expr} (h : t.known s x = .inr e) (s' : Evaluation) (o : Outcome) :
    t.known (s'.leave x o) x = .inl o := by
  obtain ⟨l, hl, ho, -⟩ := known_eq_inr.mp h
  simp [known, hl, ho]

/-! ## How a memo came about -/

/-- A memo to which one local after the other was added, each with the value of its expression
    given what was known then. The locals on the stack led to it. -/
inductive History (t : Table) : OrderedMap Outcome → Prop
  | start : t.History []
  | step {memo : OrderedMap Outcome} {stack : List String} {x : String} {e : Expr} {o : Outcome}
      (before : t.History memo)
      (pending : t.known ⟨memo, stack⟩ x = .inr e)
      (led : ∀ z ∈ stack, Relation.TransGen t.Refers z x)
      (value : ∀ ρ, t.Fits ρ ⟨memo, stack ++ [x]⟩ → t.valueIn ρ e = o) : t.History (memo ++ [(x, o)])

/-- Below the unfinished locals that led to `x`, references of its expression are known or are
    not on the stack. -/
theorem valueIn_knownOr (hcycle : ∀ x, ¬ Relation.TransGen t.Refers x x) {memo : OrderedMap Outcome}
    {stack : List String} {x : String} {e : Expr} (hx : t.expression? x = some e)
    (led : ∀ z ∈ stack, Relation.TransGen t.Refers z x) (hρ : t.Fits ρ ⟨memo, []⟩) :
    t.valueIn (t.knownOr ⟨memo, stack ++ [x]⟩ ρ) e = t.valueIn ρ e := by
  refine valueIn_congr rfl (fun _ _ _ => rfl) fun r hr hscope => ?_
  have href : t.Refers x r.name := ⟨e, hx, r, hr, hscope, rfl⟩
  have hout : r.name ∉ stack ++ [x] := by
    intro hmem
    rcases List.mem_append.mp hmem with hmem | hmem
    · exact hcycle _ ((led _ hmem).tail href)
    · rw [List.mem_singleton.mp hmem] at href
      exact hcycle x (.single href)
  unfold knownOr
  split
  · rename_i o hk
    refine (hρ _ _ ?_).symm
    unfold known at hk ⊢
    simpa [hout] using hk
  · rfl

/-- Outcomes that are the values of the locals' own expressions. -/
structure Solves (t : Table) (ρ : Valuation) : Prop where
  undeclared : ∀ x, t.expression? x = none → ρ x = .error (.undefinedLocal x)
  declared : ∀ x e, t.expression? x = some e → ρ x = t.valueIn ρ e

/-- Where no local leads back to itself, a step notes the value of the expression whatever fits
    the memo without a stack. -/
theorem value_of_fits (hcycle : ∀ x, ¬ Relation.TransGen t.Refers x x) {memo : OrderedMap Outcome}
    {stack : List String} {x : String} {e : Expr} {o : Outcome} (pending : t.known ⟨memo, stack⟩ x = .inr e)
    (led : ∀ z ∈ stack, Relation.TransGen t.Refers z x)
    (value : ∀ ρ, t.Fits ρ ⟨memo, stack ++ [x]⟩ → t.valueIn ρ e = o) (hρ : t.Fits ρ ⟨memo, []⟩) :
    t.valueIn ρ e = o := by
  obtain ⟨l, hl, -, -, -, rfl⟩ := known_eq_inr.mp pending
  rw [← valueIn_knownOr hcycle (expression?_of_get? hl) led hρ]
  exact value _ (fits_knownOr _ _ _)

def Fresh (t : Table) : Prop := ∀ x l, t.locals.get? x = some l → l.outcome = none

/-- Then a memo is all that is known of declared locals. -/
theorem known_of_fresh (hfresh : t.Fresh) (memo : OrderedMap Outcome) (x : String) : t.known ⟨memo, []⟩ x =
    match t.expression? x with
    | none => .inl (.error (.undefinedLocal x))
    | some e =>
      match memo.get? x with
      | some o => .inl o
      | none => .inr e := by
  unfold known expression?
  cases hx : t.locals.get? x with
  | none => rfl
  | some l =>
    simp only [hfresh x l hx, Option.map_some]
    cases memo.get? x <;> rfl

theorem fits_iff (hfresh : t.Fresh) {memo : OrderedMap Outcome} : t.Fits ρ ⟨memo, []⟩ ↔
    (∀ x, t.expression? x = none → ρ x = .error (.undefinedLocal x)) ∧
      ∀ x e o, t.expression? x = some e → memo.get? x = some o → ρ x = o := by
  constructor
  · intro h
    exact ⟨fun x hx => h x _ (by rw [known_of_fresh hfresh, hx]),
      fun x e o hx hm => h x o (by rw [known_of_fresh hfresh, hx, hm])⟩
  · rintro ⟨hnone, hsome⟩ x o h
    rw [known_of_fresh hfresh] at h
    split at h
    · rename_i hx
      rw [hnone x hx, Sum.inl.inj h]
    · rename_i e hx
      split at h
      · rename_i o' hm
        rw [hsome x e o' hx hm, Sum.inl.inj h]
      · contradiction

/-- A solution says of locals what a memo says. -/
theorem History.fits (hcycle : ∀ x, ¬ Relation.TransGen t.Refers x x) (hfresh : t.Fresh) {memo : OrderedMap Outcome}
    (h : t.History memo) (hρ : t.Solves ρ) : t.Fits ρ ⟨memo, []⟩ := by
  refine (fits_iff hfresh).mpr ⟨hρ.undeclared, ?_⟩
  induction h with
  | start => intro x e o _ hm; contradiction
  | @step memo stack y e o before pending led value ih =>
    intro x e' o' hx hm
    rw [OrderedMap.get?_append] at hm
    split at hm
    · rename_i o'' hm'
      exact ih x e' o' hx (hm'.trans hm)
    · obtain ⟨rfl, rfl⟩ : y = x ∧ o = o' := by simpa [OrderedMap.get?] using hm
      obtain ⟨l, hl, -, -, -, rfl⟩ := known_eq_inr.mp pending
      rw [hρ.declared y _ (expression?_of_get? hl)]
      exact value_of_fits hcycle pending led value ((fits_iff hfresh).mpr ⟨hρ.undeclared, ih⟩)

/-- What a memo says of a local is the value of its expression. -/
theorem History.fixpoint (hcycle : ∀ x, ¬ Relation.TransGen t.Refers x x) {memo : OrderedMap Outcome}
    (h : t.History memo) (hρ : t.Fits ρ ⟨memo, []⟩) {x : String} {e : Expr} {o : Outcome}
    (hx : t.expression? x = some e) (hm : memo.get? x = some o) : t.valueIn ρ e = o := by
  induction h with
  | start => contradiction
  | @step memo stack y e' o' before pending led value ih =>
    have hρ' : t.Fits ρ ⟨memo, []⟩ := hρ.mono (List.prefix_append memo _) (by rfl) (by simp)
    rw [OrderedMap.get?_append] at hm
    split at hm
    · rename_i o'' hm'
      exact ih hρ' (hm'.trans hm)
    · obtain ⟨rfl, rfl⟩ : y = x ∧ o' = o := by simpa [OrderedMap.get?] using hm
      obtain ⟨l, hl, -, -, -, rfl⟩ := known_eq_inr.mp pending
      obtain rfl : l.expression = e := Option.some.inj ((expression?_of_get? hl).symm.trans hx)
      exact value_of_fits hcycle pending led value hρ'

/-- What is known of a fresh table beyond its memo are errors. -/
theorem memo_of_knownOr (hfresh : t.Fresh) {r : Reason} {x : String} {v : Value}
    (h : t.knownOr s (fun _ => .error r) x = .ok v) : s.memo.get? x = some (.ok v) := by
  unfold knownOr known at h
  cases hx : t.locals.get? x with
  | none => simp [hx] at h
  | some l =>
    simp only [hx, hfresh x l hx] at h
    cases hm : s.memo.get? x with
    | none => by_cases hstack : x ∈ s.stack <;> simp [hm, hstack] at h
    | some o => simpa [hm] using h

/-- What holds of the value of each expression if it holds of the values that locals have in it,
    holds of every local in a memo, in whichever order they were evaluated. -/
theorem History.forall_of_step (hfresh : t.Fresh) {P : String → Outcome → Prop}
    (step : ∀ x e ρ, t.expression? x = some e → (∀ y v, ρ y = .ok v → P y (.ok v)) → P x (t.valueIn ρ e))
    {memo : OrderedMap Outcome} (h : t.History memo) : ∀ x o, memo.get? x = some o → P x o := by
  induction h with
  | start => intro x o hm; contradiction
  | @step memo stack y e o before pending led value ih =>
    intro x o' hm
    rw [OrderedMap.get?_append] at hm
    split at hm
    · rename_i o'' hm'
      exact ih x o' (hm'.trans hm)
    · obtain ⟨rfl, rfl⟩ : y = x ∧ o = o' := by simpa [OrderedMap.get?] using hm
      obtain ⟨l, hl, -, -, -, rfl⟩ := known_eq_inr.mp pending
      rw [← value _ (fits_knownOr t _ fun _ => .error .isNull)]
      refine step y _ _ (expression?_of_get? hl) fun z v hz => ?_
      exact ih z _ (memo_of_knownOr hfresh hz)

end Table

/-! ## Evaluations that are given the outcomes of locals -/

/-- The outcome that a given valuation has for a local. -/
def ask (name : String) : Evaluating (ReaderM Valuation) Value := ExceptT.mk fun ρ => ρ name

/-- A computation that is given a valuation, beside its result for one. -/
def given (ρ : Valuation) : Simulation (ReaderM Valuation) Id where
  Rel P x y := P (x.run ρ) y
  pure h := h
  bind h hf := hf _ _ h

theorem run_ask (t : Table) (e : Expr) (ρ : Valuation) : (eval t ask e).run.run ρ = t.valueIn ρ e := by
  let R : Correspondence _ _ t t := (given ρ).exact rfl
  have hlocals : R.Agree ask (told ρ) (references e) :=
    R.agree (fun _ _ _ => rfl) fun _ _ _ => SameOutcome.refl _
  exact SameOutcome.eq (R.eval e hlocals)

/-! ## One run beside the other -/

/-- States of an evaluation: a proper stack, no outcome for what is on it, and a memo with a
    history. -/
structure Table.Sound (t : Table) (s : Evaluation) : Prop where
  proper : t.Proper s.stack
  opened : ∀ z ∈ s.stack, s.memo.get? z = none
  history : t.History s.memo

namespace Table.Sound

variable {t : Table} {s s' : Evaluation} {x : String} {e : Expr}

theorem start (t : Table) : t.Sound Evaluation.start := ⟨proper_nil, by simp [Evaluation.start], .start⟩

theorem fits_mono {ρ : Valuation} (h : t.Sound s') (hm : s.memo <+: s'.memo) (hs : s'.stack = s.stack)
    (hρ : t.Fits ρ s') : t.Fits ρ s :=
  hρ.mono hm hs (hs ▸ h.opened)

theorem enter (h : t.Sound s) (hk : t.known s x = .inr e) : t.Sound (s.enter x) := by
  refine ⟨proper_enter h.proper hk, fun z hz => ?_, h.history⟩
  obtain hz | rfl : z ∈ s.stack ∨ z = x := by simpa using hz
  · exact h.opened z hz
  · obtain ⟨-, -, -, hx, -⟩ := known_eq_inr.mp hk
    exact hx

/-- After what was done inside `x`, nothing is known of `x` but what was known before. -/
theorem pending (h : t.Sound s') (hs : s'.stack = (s.enter x).stack) (hk : t.known s x = .inr e) :
    t.known ⟨s'.memo, s.stack⟩ x = .inr e := by
  obtain ⟨l, hl, ho, -, hx, he⟩ := known_eq_inr.mp hk
  have hopen : s'.memo.get? x = none := h.opened x (by simp [hs])
  exact known_eq_inr.mpr ⟨l, hl, ho, hopen, hx, he⟩

theorem leave_memo (h : t.Sound s') (hs : s'.stack = (s.enter x).stack) (o : Outcome) :
    (s'.leave x o).memo = s'.memo ++ [(x, o)] :=
  OrderedMap.insert_of_get?_none (h.opened x (by simp [hs])) o

theorem leave (h : t.Sound s) (h' : t.Sound s') (hs : s'.stack = (s.enter x).stack) (hk : t.known s x = .inr e)
    (led : ∀ z ∈ s.stack, Relation.TransGen t.Refers z x) {o : Outcome}
    (value : ∀ ρ, t.Fits ρ s' → t.valueIn ρ e = o) : t.Sound (s'.leave x o) := by
  have hstack : (s'.leave x o).stack = s.stack := Evaluation.leave_enter_stack _ _ _ _ hs
  have hstate : s' = ⟨s'.memo, s.stack ++ [x]⟩ := by rw [← show s'.stack = s.stack ++ [x] from hs]
  refine ⟨hstack ▸ h.proper, fun z hz => ?_, ?_⟩
  · obtain ⟨-, -, -, -, hx, -⟩ := known_eq_inr.mp hk
    rw [hstack] at hz
    have hne : x ≠ z := fun hxz => hx (hxz ▸ hz)
    rw [Evaluation.get?_leave, if_neg hne]
    exact h'.opened z (by simp [hs, hz])
  · rw [h'.leave_memo hs o]
    exact .step h'.history (h'.pending hs hk) led (hstate ▸ value)

end Table.Sound

/-- An evaluation from sound states with one stack, beside one that is given outcomes: the
    results correspond for all valuations that fit what is known in the end. -/
def remember (t : Table) (stack : List String) : Simulation (StateM Evaluation) (ReaderM Valuation) where
  Rel P x y := ∀ s, t.Sound s → s.stack = stack →
    t.Sound (x.run s).2 ∧ (x.run s).2.stack = s.stack ∧ s.memo <+: (x.run s).2.memo ∧
      ∀ ρ, t.Fits ρ (x.run s).2 → P (x.run s).1 (y.run ρ)
  pure h _ hs _ := ⟨hs, rfl, List.prefix_rfl, fun _ _ => h⟩
  bind := by
    intro _ _ _ _ P Q x y f g hx hf s hs hstack
    obtain ⟨hs₁, hstack₁, hm₁, hr₁⟩ := hx s hs hstack
    -- some valuation fits, so that there are results for `f` and `g` to go on with
    have h₂ {ρ : Valuation} (hρ : t.Fits ρ (x.run s).2) := hf _ _ (hr₁ ρ hρ) _ hs₁ (hstack₁.trans hstack)
    obtain ⟨hs₂, hstack₂, hm₂, -⟩ := h₂ (t.fits_knownOr _ fun name => .error (.undefinedLocal name))
    refine ⟨hs₂, hstack₂.trans hstack₁, hm₁.trans hm₂, fun ρ hρ => ?_⟩
    obtain ⟨-, -, -, hr₂⟩ := h₂ (hs₂.fits_mono hm₂ hstack₂ hρ)
    exact hr₂ ρ hρ

theorem localStep_remember {t : Table} {stack : List String} {inner : String → Evaluating (StateM Evaluation) Value}
    {name : String} (led : ∀ z ∈ stack, Relation.TransGen t.Refers z name)
    (h : ∀ y, t.Proper (stack ++ [name]) → t.Refers name y →
      (remember t (stack ++ [name])).Rel (SameOutcome (· = ·)) (inner y).run (ask y).run) :
    (remember t stack).Rel (SameOutcome (· = ·)) (localStep t inner name).run (ask name).run := by
  rintro s hs rfl
  rw [run_localStep]
  cases hk : t.known s name with
  | inl o =>
    refine ⟨hs, rfl, List.prefix_rfl, fun ρ hρ => ?_⟩
    rw [← hρ name o hk]
    exact .refl _
  | inr e =>
    obtain ⟨l, hl, -, -, -, rfl⟩ := Table.known_eq_inr.mp hk
    have hin := hs.enter hk
    let R : Correspondence _ _ t t := (remember t (s.enter name).stack).exact rfl
    have hlocals : R.Agree inner ask (references l.expression) :=
      R.agree (fun _ _ _ => rfl) fun r hr hscope => h r.name hin.proper ⟨_, Table.expression?_of_get? hl, r, hr, hscope, rfl⟩
    obtain ⟨hs', hstack, hm, hr⟩ := R.eval l.expression hlocals (s.enter name) hin rfl
    have value (ρ : Valuation) (hρ : t.Fits ρ _) := (run_ask t l.expression ρ).symm.trans (hr ρ hρ).eq.symm
    refine ⟨hs.leave hs' hstack hk led value, Evaluation.leave_enter_stack _ _ _ _ hstack, ?_, fun ρ hρ => ?_⟩
    · rw [hs'.leave_memo hstack]
      exact hm.trans (List.prefix_append _ _)
    · rw [← hρ name _ (Table.known_leave hk _ _)]
      exact .refl _

/-- With room for all locals, a local goes hand in hand with what valuations say of it. -/
theorem nested_remember {t : Table} (inner : String → Evaluating (StateM Evaluation) Value) :
    ∀ {depth : Nat} {stack : List String}, t.Proper stack → t.locals.length < stack.length + depth →
      ∀ {name : String}, (∀ z ∈ stack, Relation.TransGen t.Refers z name) →
        (remember t stack).Rel (SameOutcome (· = ·)) (nested t inner depth name).run (ask name).run
  | 0, _, hp, hd, _, _ => absurd hp.length_le (by omega)
  | depth + 1, stack, hp, hd, name, led => by
    refine localStep_remember led fun y hp' href => ?_
    refine nested_remember inner hp' (by simp; omega) fun z hz => ?_
    rcases List.mem_append.mp hz with hz | hz
    · exact (led z hz).tail href
    · rw [List.mem_singleton.mp hz]
      exact .single href

theorem localValue_remember (t : Table) (name : String) :
    (remember t []).Rel (SameOutcome (· = ·)) (t.localValue name).run (ask name).run :=
  nested_remember _ Table.proper_nil (by simp) (by simp)

/-! ## Finished tables -/

namespace Table

/-- The outcomes that a table holds; undeclared locals have none. -/
def stored (t : Table) : Valuation := fun x =>
  match t.locals.get? x with
  | none => .error (.undefinedLocal x)
  | some l => l.outcome.getD (.error (.cycle [x]))

def Finished (t : Table) : Prop := ∀ x l, t.locals.get? x = some l → l.outcome.isSome

theorem known_of_finished {t : Table} (h : t.Finished) (s : Evaluation) (x : String) :
    t.known s x = .inl (t.stored x) := by
  unfold known stored
  cases hl : t.locals.get? x with
  | none => rfl
  | some l =>
    obtain ⟨o, ho⟩ := Option.isSome_iff_exists.mp (h x l hl)
    simp [ho]

theorem outcome_eq_valueIn {t : Table} (h : t.Finished) (e : Expr) : t.outcome e = t.valueIn t.stored e := by
  let R : Correspondence _ _ t t := (remember t []).exact rfl
  have hlocals : R.Agree t.localValue ask (references e) :=
    R.agree (fun _ _ _ => rfl) fun r _ _ => localValue_remember t r.name
  obtain ⟨-, -, -, hr⟩ := R.eval e hlocals Evaluation.start (.start t) rfl
  have hfits (s : Evaluation) : t.Fits t.stored s := fun x o hx =>
    Sum.inl.inj ((known_of_finished h s x).symm.trans hx)
  exact (hr t.stored (hfits _)).eq.trans (run_ask t e t.stored)

end Table

/-! ## Building a table -/

namespace Declarations

theorem run_outcomes_ask (ρ : Valuation) : ∀ names : List String,
    (outcomes ask names).run ρ = names.map fun name => (name, ρ name)
  | [] => rfl
  | name :: names => by
    have h := run_outcomes_ask ρ names
    simp only [outcomes, List.map_cons, ← h]
    rfl

/-- What is found is what any valuation says that fits the last state. -/
theorem evaluated_of_fits (t : Table) : ∃ s, t.Sound s ∧ s.stack = [] ∧
    ∀ ρ, t.Fits ρ s → evaluated t = t.locals.keys.map fun name => (name, ρ name) := by
  have run : (remember t []).Rel (· = ·) (outcomes t.localValue t.locals.keys) (outcomes ask t.locals.keys) :=
    (remember t []).outcomes fun name _ => localValue_remember t name
  obtain ⟨hs, hstack, -, hr⟩ := run Evaluation.start (.start t) rfl
  exact ⟨_, hs, hstack, fun ρ hρ => (hr ρ hρ).trans (run_outcomes_ask ρ _)⟩

/-- In the end all locals are known, and found are the outcomes that are known of them. -/
theorem evaluated_known (t : Table) : ∃ s, t.Sound s ∧ s.stack = [] ∧ ∀ x l, t.locals.get? x = some l →
    ∃ o, t.known s x = .inl o ∧ OrderedMap.get? (evaluated t) x = some o := by
  obtain ⟨s, hs, hstack, hfits⟩ := evaluated_of_fits t
  refine ⟨s, hs, hstack, fun x l hl => ?_⟩
  have found {ρ : Valuation} (hρ : t.Fits ρ s) : OrderedMap.get? (evaluated t) x = some (ρ x) := by
    rw [hfits ρ hρ, OrderedMap.keys, List.map_map]
    exact (OrderedMap.get?_map (fun name _ => ρ name) t.locals x).trans (by rw [hl]; rfl)
  cases hk : t.known s x with
  | inl o => exact ⟨o, rfl, by simpa [Table.knownOr, hk] using found (t.fits_knownOr s t.stored)⟩
  | inr e =>
    -- two valuations that fit would tell different outcomes of `x`
    have h := (found (t.fits_knownOr s fun _ => .error .isNull)).symm.trans
      (found (t.fits_knownOr s fun _ => .error .unsupported))
    simp [Table.knownOr, hk] at h

@[simp] theorem get?_build (d : Declarations) (overrides : OrderedMap Value) (strict : Bool) (x : String) :
    (d.build overrides strict).locals.get? x = (d.locals.get? x).map fun l =>
      { l with outcome := OrderedMap.get? (evaluated (d.unevaluated overrides strict)) x } :=
  OrderedMap.get?_map (fun name (l : Local) =>
    ({ l with outcome := OrderedMap.get? (evaluated (d.unevaluated overrides strict)) name } : Local)) d.locals x

/-- Building a table evaluates its locals: in the end all are known, with the outcomes that the
    table holds. -/
theorem build_history (d : Declarations) (overrides : OrderedMap Value) (strict : Bool) :
    ∃ s, (d.unevaluated overrides strict).Sound s ∧ s.stack = [] ∧
      ∀ x, (d.unevaluated overrides strict).known s x = .inl ((d.build overrides strict).stored x) := by
  obtain ⟨s, hs, hstack, hknown⟩ := evaluated_known (d.unevaluated overrides strict)
  refine ⟨s, hs, hstack, fun x => ?_⟩
  rw [Table.stored, get?_build]
  cases hl : d.locals.get? x with
  | none => simp [Table.known, unevaluated, hl]
  | some l =>
    obtain ⟨o, ho, hfound⟩ := hknown x l hl
    rw [ho, hfound]
    rfl

theorem build_finished (d : Declarations) (overrides : OrderedMap Value) (strict : Bool) :
    (d.build overrides strict).Finished := by
  intro x l' hl'
  obtain ⟨s, -, -, hknown⟩ := evaluated_known (d.unevaluated overrides strict)
  rw [get?_build] at hl'
  obtain ⟨l, hl, rfl⟩ := Option.map_eq_some_iff.mp hl'
  obtain ⟨o, -, hfound⟩ := hknown x l hl
  simp [hfound]

end Declarations
end TagAudit.Symbols
