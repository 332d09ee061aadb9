/-
  TagAudit.Proofs.Hcl.Expressions — where the readers of expressions stop.

  The reader of an expression is built over the reader of those nested in it, so it tracks the
  text if that one does (`tracking_exprWith`), at every depth (`tracking_exprAt`).
-/

import TagAudit.Proofs.Hcl.Templates

namespace TagAudit.Hcl

variable {cs rest : List Char}

/-! ## Operators -/

/-- An operator, where no heredoc starts. -/
theorem level_binaryOp? {op : BinaryOp} (h : binaryOp? cs = some (op, rest)) (hless : ∀ ds, cs ≠ '<' :: '<' :: ds) :
    Level cs rest := by
  unfold binaryOp? at h
  split at h
  all_goals first
    | contradiction
    | obtain ⟨-, rfl⟩ := Prod.mk.inj (Option.some.inj h)
  next cs => exact level_append ['=', '='] (by decide) cs
  next cs => exact level_append ['!', '='] (by decide) cs
  next cs =>
    have hless : Level ('<' :: '=' :: cs) ('=' :: cs) := level_of_opensText rfl (by decide) (by decide) (by decide)
    exact hless.trans (level_cons rfl cs)
  next cs => exact level_append ['>', '='] (by decide) cs
  -- a less sign on its own, which `hless` keeps from starting a heredoc
  next cs _ =>
    have hopens : opensText ('<' :: cs) = false := by
      unfold opensText
      split <;> simp_all
    exact level_of_opensText hopens (by decide) (by decide) (by decide)
  next => exact level_cons rfl _
  next => exact level_cons rfl _
  next => exact level_cons rfl _
  next => exact level_cons rfl _
  -- a slash that starts no comment
  next cs hline hcomment =>
    have hopens : opensText ('/' :: cs) = false := by
      unfold opensText
      split <;> simp_all
    exact level_of_opensText hopens (by decide) (by decide) (by decide)
  next => exact level_cons rfl _
  next cs => exact level_append ['&', '&'] (by decide) cs
  next cs => exact level_append ['|', '|'] (by decide) cs

theorem skip_less (newlines : Bool) (cs : List Char) : skip newlines ('<' :: cs) = '<' :: cs := by
  simp [skip, skipUpTo, afterLineComment?]

/-- Of three less signs in a row the first two do not start a heredoc. -/
theorem level_less_less_less (hs : rest <:+ '<' :: '<' :: cs) : Level ('<' :: '<' :: '<' :: cs) rest := by
  intro st hst
  refine .of_none ((step?_of_code hst _).trans ?_) hs
  have hlines : heredocLines? ('<' :: cs) = none := rfl
  simp [codeStep?, hlines]

/-! ## Expressions -/

section
variable {inner : Bool → List Char → Except (List Char) (Expr × List Char)} (hinner : ∀ newlines, Tracking (inner newlines))
include hinner

theorem tracking_named (newlines : Bool) : Tracking (named inner newlines) := by
  intro cs e rest h
  unfold named at h
  obtain ⟨⟨name, mid⟩, hname, h⟩ := ok_of_do h
  have hname := level_ident hname
  have hskip := hname.trans (level_skip newlines mid)
  dsimp only at h
  split at h
  · rename_i heq
    rw [heq] at hskip
    obtain ⟨⟨⟨args, expand⟩, tail⟩, hargs, h⟩ := ok_of_do h
    obtain ⟨-, rfl⟩ := Prod.mk.inj (Except.ok.inj h)
    exact (hskip.trans (level_cons rfl _)).trans_tracks (tracking_items hinner rfl true _ hargs)
  · have hrest : mid = rest := by
      split at h <;> exact (Prod.mk.inj (Except.ok.inj h)).2
    exact hrest ▸ hname.tracks

theorem tracking_term (newlines : Bool) : Tracking (term inner newlines) := by
  intro cs e rest h
  unfold term at h
  split at h
  · exact tracks_quotedTemplate hinner h
  · exact (level_cons rfl _).trans_tracks (tracking_list hinner h)
  · exact (tracks_object hinner h).braced
  · obtain ⟨⟨e, mid⟩, he, h⟩ := ok_of_do h
    obtain ⟨tail, hclose, h⟩ := ok_of_do h
    obtain ⟨-, rfl⟩ := Prod.mk.inj (Except.ok.inj h)
    have hend := (hinner _ he).trans_level ((level_skipWhite mid).trans (level_expect hclose (by decide)))
    exact ((level_cons rfl _).trans (level_skipWhite _)).trans_tracks hend
  · exact tracks_heredoc hinner h
  · split at h
    · obtain ⟨⟨n, mid⟩, hn, h⟩ := ok_of_do h
      obtain ⟨-, rfl⟩ := Prod.mk.inj (Except.ok.inj h)
      exact (level_number hn).tracks
    · exact tracking_named hinner newlines h
  · contradiction

theorem tracking_operand (newlines : Bool) : ∀ fuel op, Tracking (operand inner newlines fuel op)
  | 0, op, cs, e, rest, h => by simp [operand] at h
  | fuel + 1, op, cs, e, rest, h => by
    unfold operand at h
    split at h
    · exact ((level_cons rfl _).trans (level_skip newlines _)).trans_tracks (tracking_operand newlines fuel _ h)
    · dsimp only at h
      split at h
      · obtain ⟨⟨n, mid⟩, hn, h⟩ := ok_of_do h
        obtain ⟨-, rfl⟩ := Prod.mk.inj (Except.ok.inj h)
        exact ((level_cons rfl _).trans ((level_skipBlank _).trans (level_number hn))).tracks
      · exact ((level_cons rfl _).trans (level_skip newlines _)).trans_tracks (tracking_operand newlines fuel _ h)
    · obtain ⟨⟨e, mid⟩, he, h⟩ := ok_of_do h
      obtain ⟨-, rfl⟩ := Prod.mk.inj (Except.ok.inj h)
      exact tracking_term hinner newlines he

theorem tracking_path (newlines : Bool) : ∀ fuel, Tracking (path inner newlines fuel)
  | 0, cs, as, rest, h => by simp [path] at h
  | fuel + 1, cs, as, rest, h => by
    have hskip := level_skip newlines cs
    unfold path at h
    split at h
    · rename_i after heq
      rw [heq] at hskip
      have hdot := (hskip.trans (level_cons rfl after)).trans (level_skip newlines after)
      split at h
      · rename_i heq
        rw [heq] at hdot
        obtain ⟨⟨as, tail⟩, has, h⟩ := ok_of_do h
        obtain ⟨-, rfl⟩ := Prod.mk.inj (Except.ok.inj h)
        exact (hdot.trans (level_cons rfl _)).trans_tracks (tracking_path newlines fuel has)
      · dsimp only at h
        split at h
        · obtain ⟨⟨name, mid⟩, hname, h⟩ := ok_of_do h
          obtain ⟨⟨as, tail⟩, has, h⟩ := ok_of_do h
          obtain ⟨-, rfl⟩ := Prod.mk.inj (Except.ok.inj h)
          exact (hdot.trans (level_ident hname)).trans_tracks (tracking_path newlines fuel has)
        · split at h
          · obtain ⟨⟨as, tail⟩, has, h⟩ := ok_of_do h
            obtain ⟨-, rfl⟩ := Prod.mk.inj (Except.ok.inj h)
            exact (hdot.trans (level_digitRun _)).trans_tracks (tracking_path newlines fuel has)
          · contradiction
    · rename_i after heq
      rw [heq] at hskip
      have hbracket := hskip.trans (level_cons rfl after)
      have hwhite := hbracket.trans (level_skipWhite after)
      split at h
      · rename_i star heq
        rw [heq] at hwhite
        obtain ⟨mid, hclose, h⟩ := ok_of_do h
        obtain ⟨⟨as, tail⟩, has, h⟩ := ok_of_do h
        obtain ⟨-, rfl⟩ := Prod.mk.inj (Except.ok.inj h)
        have hstar := (hwhite.trans (level_cons rfl star)).trans (level_skipWhite star)
        exact (hstar.trans (level_expect hclose (by decide))).trans_tracks (tracking_path newlines fuel has)
      · obtain ⟨⟨e, mid⟩, he, h⟩ := ok_of_do h
        obtain ⟨mid', hclose, h⟩ := ok_of_do h
        obtain ⟨⟨as, tail⟩, has, h⟩ := ok_of_do h
        obtain ⟨-, rfl⟩ := Prod.mk.inj (Except.ok.inj h)
        have hindex := (hwhite.trans_tracks (tracking_spaced hinner he)).trans_level (level_expect hclose (by decide))
        exact hindex.trans (tracking_path newlines fuel has)
    · obtain ⟨-, rfl⟩ := Prod.mk.inj (Except.ok.inj h)
      exact .refl _

section
variable (hless : ∀ newlines cs a, inner newlines ('<' :: cs) = .ok a → ∃ ds, cs = '<' :: ds)
include hless

/-- An operator and its right operand. -/
theorem tracks_operation {newlines : Bool} {op : BinaryOp} {after : List Char} {e : Expr}
    (hop : binaryOp? cs = some (op, after)) (h : inner newlines (skip newlines after) = .ok (e, rest)) : Tracks cs rest := by
  have hright := hinner _ h
  by_cases hheredoc : ∃ ds, cs = '<' :: '<' :: ds
  · obtain ⟨ds, rfl⟩ := hheredoc
    obtain ⟨-, rfl⟩ := Prod.mk.inj (Option.some.inj hop)
    rw [skip_less] at h hright
    obtain ⟨ds, rfl⟩ := hless _ _ _ h
    exact (level_less_less_less hright.suffix).tracks
  · have hop := level_binaryOp? hop fun ds hds => hheredoc ⟨ds, hds⟩
    exact (hop.trans (level_skip newlines after)).trans_tracks hright

theorem tracking_continuation (newlines : Bool) (e : Expr) : Tracking (continuation inner newlines e) := by
  intro cs e' rest h
  have hskip := level_skip newlines cs
  unfold continuation at h
  split at h
  · rename_i heq
    rw [heq] at hskip
    obtain ⟨⟨ifTrue, mid⟩, htrue, h⟩ := ok_of_do h
    have htrue := (hskip.trans ((level_cons rfl _).trans (level_skip newlines _))).trans_tracks (hinner _ htrue)
    obtain ⟨mid', hcolon, h⟩ := ok_of_do h
    have hcolon := (level_skip newlines mid).trans ((level_expect hcolon (by decide)).trans (level_skip newlines mid'))
    obtain ⟨⟨ifFalse, tail⟩, hfalse, h⟩ := ok_of_do h
    obtain ⟨-, rfl⟩ := Prod.mk.inj (Except.ok.inj h)
    exact (htrue.trans_level hcolon).trans (hinner _ hfalse)
  · split at h
    · rename_i after hop
      obtain ⟨⟨right, tail⟩, hright, h⟩ := ok_of_do h
      obtain ⟨-, rfl⟩ := Prod.mk.inj (Except.ok.inj h)
      exact hskip.trans_tracks (tracks_operation hinner hless hop hright)
    · obtain ⟨-, rfl⟩ := Prod.mk.inj (Except.ok.inj h)
      exact .refl _

theorem tracking_exprWith (newlines : Bool) : Tracking (exprWith inner newlines) := by
  intro cs e rest h
  unfold exprWith at h
  obtain ⟨⟨e, mid⟩, he, h⟩ := ok_of_do h
  have he := tracking_operand hinner newlines _ _ he
  dsimp only at h
  split at h
  · obtain ⟨-, rfl⟩ := Prod.mk.inj (Except.ok.inj h)
    exact he
  · obtain ⟨⟨steps, mid'⟩, hsteps, h⟩ := ok_of_do h
    have hpath := he.trans (tracking_path hinner newlines _ hsteps)
    exact hpath.trans (tracking_continuation hinner hless newlines _ h)

end

end

/-- An expression starts with two less signs or with none. -/
theorem less_of_exprAt {depth : Nat} {newlines : Bool} {found : Expr × List Char}
    (h : exprAt depth newlines ('<' :: cs) = .ok found) : ∃ ds, cs = '<' :: ds := by
  cases depth with
  | zero => simp [exprAt] at h
  | succ depth =>
    obtain ⟨⟨e, mid⟩, he, -⟩ := ok_of_do h
    obtain ⟨⟨e, mid⟩, he, -⟩ := ok_of_do he
    change term (exprAt depth) newlines ('<' :: cs) = .ok (e, mid) at he
    unfold term at he
    split at he
    iterate 4 simp_all
    · rename_i heq
      exact ⟨_, (List.cons.inj heq).2⟩
    · rename_i heq
      obtain ⟨rfl, -⟩ := List.cons.inj heq
      contradiction
    · simp_all

theorem tracking_exprAt : ∀ depth newlines, Tracking (exprAt depth newlines)
  | 0, newlines, cs, e, rest, h => by simp [exprAt] at h
  | depth + 1, newlines, cs, e, rest, h =>
    tracking_exprWith (tracking_exprAt depth) (fun _ _ _ => less_of_exprAt) newlines h

theorem tracking_expr : Tracking expr := fun cs _ _ h => tracking_exprAt (cs.length + 1) false h

end TagAudit.Hcl
