/-
  TagAudit.Proofs.Scan.Course — the troubles on the way of a scan.

  `Meets` says which troubles a computation comes across, one after the other, and what it comes
  to. It says so for strict and lenient runs at once: a lenient one goes through all of them with
  a warning for each, a strict one is over at the first. A computation that is put together from
  two meets the troubles of the first and then those of the second (`Meets.bind`), so each loop of
  a scan is one induction.

  Proved: `readAll_meets`: reading files meets those that cannot be read, in their order.
-/

import TagAudit.Scan.Run

namespace TagAudit

open FileTree (Workspace)

/-- A computation meets these troubles in this order, and has this result if none of them stops it. -/
structure Meets {α : Type} (strict : Bool) (x : Scanning α) (ts : List Trouble) (a : α) : Prop where
  goes : strict = false ∨ ts = [] → ∀ ws, x.run ws = .ok (a, ws ++ ts.map Trouble.warning)
  stops : ∀ t rest, strict = true → ts = t :: rest → ∀ ws, x.run ws = .error t.error

namespace Meets

variable {α β : Type} {strict : Bool}

theorem pure (a : α) : Meets strict (pure a) [] a := by
  constructor
  · intro _ ws
    simp only [List.map_nil, List.append_nil]
    rfl
  · intro t rest _ h
    contradiction

theorem meet (t : Trouble) : Meets strict (t.meet strict) [t] () := by
  constructor
  · rintro (rfl | h) ws
    · rfl
    · contradiction
  · rintro t' rest rfl h ws
    obtain ⟨rfl, -⟩ := List.cons.inj h
    rfl

theorem bind {x : Scanning α} {f : α → Scanning β} {ts us : List Trouble} {a : α} {b : β} (hx : Meets strict x ts a)
    (hf : Meets strict (f a) us b) : Meets strict (x >>= f) (ts ++ us) b := by
  constructor
  · intro h ws
    have hts : strict = false ∨ ts = [] := h.imp id fun h => (List.append_eq_nil_iff.mp h).1
    have hus : strict = false ∨ us = [] := h.imp id fun h => (List.append_eq_nil_iff.mp h).2
    rw [StateT.run_bind, hx.goes hts ws]
    refine (hf.goes hus _).trans ?_
    rw [List.map_append, List.append_assoc]
  · intro t rest hs h ws
    rw [StateT.run_bind]
    cases ts with
    | nil =>
      rw [hx.goes (.inr rfl) ws]
      exact hf.stops t rest hs h _
    | cons t' ts =>
      obtain ⟨rfl, -⟩ := List.cons.inj h
      rw [hx.stops t' ts hs rfl ws]
      rfl

/-- What follows without trouble may make something else of the result. -/
theorem map {x : Scanning α} {ts : List Trouble} {a : α} (hx : Meets strict x ts a) (f : α → β) :
    Meets strict (x >>= fun a => Pure.pure (f a)) ts (f a) := by
  have h := hx.bind (f := fun a => Pure.pure (f a)) (pure (f a))
  rwa [List.append_nil] at h

end Meets

/-! ## Reading files -/

namespace FileTree.Workspace

def sourcesAt (w : Workspace) (paths : List String) : List SourceFile :=
  paths.filterMap fun path => (w.read path).toOption.map fun contents => ⟨path, contents⟩

def faultsAt (w : Workspace) (paths : List String) : List Trouble :=
  paths.filterMap fun path =>
    match w.read path with
    | .ok _ => none
    | .error fault => some (.unreadable path fault)

end FileTree.Workspace

theorem readAll_meets (w : Workspace) (strict : Bool) (paths : List String) :
    Meets strict (Scanning.readAll w strict paths) (w.faultsAt paths) (w.sourcesAt paths) := by
  induction paths with
  | nil => exact .pure []
  | cons path paths ih =>
    unfold Scanning.readAll Workspace.faultsAt Workspace.sourcesAt
    cases hr : w.read path with
    | ok contents =>
      simp only [List.filterMap_cons, hr, Except.toOption, Option.map_some]
      exact ih.map fun files => ⟨path, contents⟩ :: files
    | error fault =>
      simp only [List.filterMap_cons, hr, Except.toOption, Option.map_none]
      exact Meets.bind (.meet _) ih

end TagAudit
