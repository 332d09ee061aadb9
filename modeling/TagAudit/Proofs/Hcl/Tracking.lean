/-
  TagAudit.Proofs.Hcl.Tracking — what the readers of the grammar leave behind them.
-/

import TagAudit.Proofs.Hcl.Lexing

namespace TagAudit.Hcl

variable {cs rest : List Char}

/-! ## Blanks and words -/

theorem level_afterLineComment? (h : afterLineComment? cs = some rest) : Level cs rest := by
  unfold afterLineComment? at h
  split at h
  · exact level_of_commentEnd? h (suffix_of_atLineEnd? h)
  · exact level_of_commentEnd? h ((suffix_of_atLineEnd? h).trans (List.suffix_cons _ _))
  · contradiction

theorem level_comment (h : afterComment? cs = some rest) : Level ('/' :: '*' :: cs) rest := by
  have hafter : commentEnd? ('/' :: '*' :: cs) = some rest := h
  exact level_of_commentEnd? hafter ((suffix_of_afterComment? h).trans (List.suffix_cons '*' cs))

theorem level_skipUpTo (lines : Bool) (fuel : Nat) (cs : List Char) : Level cs (skipUpTo lines fuel cs) := by
  induction fuel generalizing cs with
  | zero => exact .refl cs
  | succ fuel ih =>
    unfold skipUpTo
    split
    · exact (level_cons rfl _).trans (ih _)
    · exact (level_cons rfl _).trans (ih _)
    · split
      · exact (level_cons rfl _).trans (ih _)
      · exact .refl _
    · split
      · exact (level_cons rfl _).trans (ih _)
      · exact .refl _
    · split
      · exact (level_comment ‹_›).trans (ih _)
      · exact .refl _
    · split
      · split
        · exact (level_afterLineComment? ‹_›).trans (ih _)
        · exact .refl _
      · exact .refl _

theorem level_skip (lines : Bool) (cs : List Char) : Level cs (skip lines cs) := level_skipUpTo lines cs.length cs

theorem level_skipBlank (cs : List Char) : Level cs (skipBlank cs) := level_skip false cs

theorem level_skipWhite (cs : List Char) : Level cs (skipWhite cs) := level_skip true cs

theorem level_lineComment (cs : List Char) : Level cs ((afterLineComment? cs).getD cs) := by
  cases h : afterLineComment? cs with
  | none => exact .refl _
  | some rest => exact level_afterLineComment? h

theorem level_afterLineEnd? (h : afterLineEnd? cs = some rest) : Level cs rest := (Ordinary.of_afterLineEnd? h).level

theorem level_afterLine? (h : afterLine? cs = some rest) : Level cs rest := by
  have hline := (level_skipBlank cs).trans (level_lineComment (skipBlank cs))
  simp only [afterLine?] at h
  split at h
  · rename_i hempty
    obtain rfl := Option.some.inj h
    rwa [List.isEmpty_iff.mp hempty] at hline
  · exact hline.trans (level_afterLineEnd? h)

theorem eq_append_of_expect {mark : List Char} (h : expect mark cs = .ok rest) : cs = mark ++ rest := by
  unfold expect at h
  split at h
  · rename_i hmark
    rw [← Except.ok.inj h]
    exact Text.afterMark?_eq_some.mp hmark
  · contradiction

theorem level_expect {mark : List Char} (h : expect mark cs = .ok rest) (hmark : mark.all isOrdinary) :
    Level cs rest := by
  rw [eq_append_of_expect h]
  exact level_append mark hmark rest

theorem level_ident {name : String} (h : ident cs = .ok (name, rest)) : Level cs rest := (Ordinary.of_ident h).level

theorem level_afterKeyword? {word : List Char} (h : afterKeyword? word cs = some rest)
    (hword : word.all isOrdinary) : Level cs rest := by
  unfold afterKeyword? at h
  obtain ⟨mid, hmid, h⟩ := Option.bind_eq_some_iff.mp h
  split at h
  · contradiction
  · rw [← Option.some.inj h, Text.afterMark?_eq_some.mp hmid]
    exact level_append word hword mid

/-! ## Numbers -/

theorem level_digitRun (cs : List Char) : Level cs (Text.digitRun cs).2 :=
  (Ordinary.of_dropWhile (fun _ h => isOrdinary_of_isIdentChar (isIdentChar_iff.mpr (.inr (.inl h)))) cs).level

theorem level_fractionDigits {ds : List Char} (h : fractionDigits cs = some (ds, rest)) : Level cs rest := by
  unfold fractionDigits at h
  split at h
  · simp only at h
    split at h
    · contradiction
    · obtain ⟨-, rfl⟩ := Prod.mk.inj (Option.some.inj h)
      exact (level_cons rfl _).trans (level_digitRun _)
  · contradiction

theorem level_exponent {e : Int} (h : Text.exponent cs = some (e, rest)) : Level cs rest := by
  unfold Text.exponent at h
  extract_lets after at h
  have hafter {cs : List Char} (h : after cs = some (e, rest)) : Level cs rest := by
    simp only [after] at h
    split at h <;> split at h
    · contradiction
    · obtain ⟨-, rfl⟩ := Prod.mk.inj (Option.some.inj h)
      exact (level_cons rfl _).trans (level_digitRun _)
    · contradiction
    · obtain ⟨-, rfl⟩ := Prod.mk.inj (Option.some.inj h)
      exact (level_cons rfl _).trans (level_digitRun _)
    · contradiction
    · obtain ⟨-, rfl⟩ := Prod.mk.inj (Option.some.inj h)
      exact level_digitRun _
  split at h
  · exact (level_cons rfl _).trans (hafter h)
  · exact (level_cons rfl _).trans (hafter h)
  · contradiction

/-- Something that need not be there. -/
theorem level_optional {α : Type} {found : Option (α × List Char)}
    (h : ∀ a rest, found = some (a, rest) → Level cs rest) : Level cs ((found.map (·.2)).getD cs) := by
  cases found with
  | none => exact .refl _
  | some found => exact h found.1 found.2 rfl

theorem level_number {n : Number} (h : number cs = .ok (n, rest)) : Level cs rest := by
  have hfraction := (level_digitRun cs).trans (level_optional fun _ _ => level_fractionDigits)
  have hpower := hfraction.trans (level_optional fun _ _ => level_exponent)
  simp only [number] at h
  split at h
  · contradiction
  · split at h <;> split at h
    · obtain ⟨-, rfl⟩ := Prod.mk.inj (Except.ok.inj h)
      exact hpower
    · contradiction
    · obtain ⟨-, rfl⟩ := Prod.mk.inj (Except.ok.inj h)
      exact hpower
    · contradiction

/-! ## Lists and objects -/

/-- Where a reader stops the tokens lead to. -/
def Tracking {α : Type} (read : List Char → Except (List Char) (α × List Char)) : Prop :=
  ∀ ⦃cs a rest⦄, read cs = .ok (a, rest) → Tracks cs rest

section
variable {inner : Bool → List Char → Except (List Char) (Expr × List Char)} (hinner : ∀ newlines, Tracking (inner newlines))
include hinner

theorem tracking_spaced : Tracking (spaced inner) := by
  intro cs e rest h
  obtain ⟨⟨e, mid⟩, he, h⟩ := ok_of_do h
  obtain ⟨-, rfl⟩ := Prod.mk.inj (Except.ok.inj h)
  exact ((level_skipWhite cs).trans_tracks (hinner _ he)).trans_level (level_skipWhite mid)

theorem tracking_items {close : Char} (hclose : isOrdinary close) (dots : Bool) :
    ∀ fuel, Tracking (items inner close dots fuel)
  | 0, cs, es, rest, h => by simp [items] at h
  | fuel + 1, cs, es, rest, h => by
    have hwhite := level_skipWhite cs
    have hend (cs : List Char) (h : expect [close] cs = .ok rest) : Level cs rest := level_expect h (by simpa using hclose)
    simp only [items] at h
    split at h
    · contradiction
    · rename_i c mid heq
      rw [heq] at hwhite
      split at h
      · rename_i hc
        obtain ⟨-, rfl⟩ := Prod.mk.inj (Except.ok.inj h)
        exact (hwhite.trans (level_cons (hc ▸ hclose) _)).tracks
      · obtain ⟨⟨e, mid'⟩, he, h⟩ := ok_of_do h
        have hitem := hwhite.trans_tracks (tracking_spaced hinner he)
        simp only at h
        split at h
        · obtain ⟨⟨⟨es, expand⟩, tail⟩, hes, h⟩ := ok_of_do h
          obtain ⟨-, rfl⟩ := Prod.mk.inj (Except.ok.inj h)
          exact (hitem.trans_level (level_cons rfl _)).trans (tracking_items hclose dots fuel hes)
        · split at h
          · obtain ⟨tail, htail, h⟩ := ok_of_do h
            obtain ⟨-, rfl⟩ := Prod.mk.inj (Except.ok.inj h)
            exact hitem.trans_level ((level_append ['.', '.', '.'] (by decide) _).trans ((level_skipWhite _).trans (hend _ htail)))
          · contradiction
        · obtain ⟨tail, htail, h⟩ := ok_of_do h
          obtain ⟨-, rfl⟩ := Prod.mk.inj (Except.ok.inj h)
          exact hitem.trans_level (hend _ htail)

theorem tracking_bindings : Tracking (bindings inner) := by
  intro cs b rest h
  unfold bindings at h
  obtain ⟨⟨first, afterFirst⟩, hfirst, h⟩ := ok_of_do h
  have hname := (level_skipWhite cs).trans ((level_ident hfirst).trans (level_skipWhite afterFirst))
  dsimp -zeta only at h
  extract_lets afterNames goOn at h
  have hgoOn {names : (Option String × String) × List Char} (h : goOn names = .ok (b, rest)) : Tracks names.2 rest := by
    obtain ⟨afterIn, hin, h⟩ := ok_of_do h
    obtain ⟨⟨collection, tail⟩, hcollection, h⟩ := ok_of_do h
    obtain ⟨-, rfl⟩ := Prod.mk.inj (Except.ok.inj h)
    exact (level_expect hin (by decide)).trans_tracks (tracking_spaced hinner hcollection)
  have hname : Level cs afterNames := hname
  clear_value afterNames
  split at h
  · obtain ⟨⟨second, afterSecond⟩, hsecond, h⟩ := ok_of_do h
    have hpair := (level_skipWhite _).trans ((level_ident hsecond).trans (level_skipWhite afterSecond))
    exact (hname.trans ((level_cons rfl _).trans hpair)).trans_tracks (hgoOn h)
  · exact hname.trans_tracks (hgoOn h)

theorem tracking_filterCondition : Tracking (filterCondition inner) := by
  intro cs condition rest h
  unfold filterCondition at h
  split at h
  · obtain ⟨⟨e, tail⟩, he, h⟩ := ok_of_do h
    obtain ⟨-, rfl⟩ := Prod.mk.inj (Except.ok.inj h)
    exact (level_append ['i', 'f'] (by decide) _).trans_tracks (tracking_spaced hinner he)
  · obtain ⟨-, rfl⟩ := Prod.mk.inj (Except.ok.inj h)
    exact .refl _

theorem tracking_list : Tracking (list inner) := by
  intro cs e rest h
  unfold list at h
  split at h
  · rename_i afterFor hfor
    have hfor := (level_skipWhite cs).trans (level_afterKeyword? hfor (by decide))
    obtain ⟨⟨⟨key, value, collection⟩, mid⟩, hbindings, h⟩ := ok_of_do h
    have hbindings := hfor.trans_tracks (tracking_bindings hinner hbindings)
    obtain ⟨mid', hcolon, h⟩ := ok_of_do h
    have hcolon := hbindings.trans_level (level_expect hcolon (by decide))
    obtain ⟨⟨item, mid''⟩, hitem, h⟩ := ok_of_do h
    have hitem := hcolon.trans (tracking_spaced hinner hitem)
    obtain ⟨⟨condition, tail⟩, hcondition, h⟩ := ok_of_do h
    have hcondition := hitem.trans (tracking_filterCondition hinner hcondition)
    obtain ⟨tail', hclose, h⟩ := ok_of_do h
    obtain ⟨-, rfl⟩ := Prod.mk.inj (Except.ok.inj h)
    exact hcondition.trans_level (level_expect hclose (by decide))
  · obtain ⟨⟨⟨es, expand⟩, tail⟩, hes, h⟩ := ok_of_do h
    obtain ⟨-, rfl⟩ := Prod.mk.inj (Except.ok.inj h)
    exact tracking_items hinner rfl false _ hes

theorem tracks_entries : ∀ {fuel : Nat} {cs rest : List Char} {es : List (Key × Expr)},
    entries inner fuel cs = .ok (es, rest) → Tracks cs ('\x7d' :: rest)
  | 0, cs, rest, es, h => by simp [entries] at h
  | fuel + 1, cs, rest, es, h => by
    have hwhite := level_skipWhite cs
    unfold entries at h
    split at h
    · rename_i heq
      rw [heq] at hwhite
      obtain ⟨-, rfl⟩ := Prod.mk.inj (Except.ok.inj h)
      exact hwhite.tracks
    · obtain ⟨⟨key, mid⟩, hkey, h⟩ := ok_of_do h
      have hkey := (hwhite.trans_tracks (hinner _ hkey)).trans_level (level_skipBlank mid)
      dsimp -zeta only at h
      extract_lets goOn at h
      have hgoOn {mid : List Char} (h : goOn mid = .ok (es, rest)) : Tracks mid ('\x7d' :: rest) := by
        obtain ⟨⟨value, after⟩, hvalue, h⟩ := ok_of_do h
        have hvalue := ((level_skipBlank mid).trans_tracks (hinner _ hvalue)).trans_level (level_skipBlank after)
        simp only at h
        split at h
        · rename_i heq
          rw [heq] at hvalue
          obtain ⟨-, rfl⟩ := Prod.mk.inj (Except.ok.inj h)
          exact hvalue
        · rename_i heq
          rw [heq] at hvalue
          obtain ⟨⟨es, tail⟩, hes, h⟩ := ok_of_do h
          obtain ⟨-, rfl⟩ := Prod.mk.inj (Except.ok.inj h)
          exact (hvalue.trans_level (level_cons rfl _)).trans (tracks_entries hes)
        · split at h
          · rename_i hline
            obtain ⟨⟨es, tail⟩, hes, h⟩ := ok_of_do h
            obtain ⟨-, rfl⟩ := Prod.mk.inj (Except.ok.inj h)
            have hline := (level_lineComment _).trans (level_afterLineEnd? hline)
            exact (hvalue.trans_level hline).trans (tracks_entries hes)
          · contradiction
      split at h
      · rename_i heq
        rw [heq] at hkey
        exact (hkey.trans_level (level_cons rfl _)).trans (hgoOn h)
      · rename_i heq
        rw [heq] at hkey
        exact (hkey.trans_level (level_cons rfl _)).trans (hgoOn h)
      · contradiction

theorem tracks_object {cs rest : List Char} {e : Expr} (h : object inner cs = .ok (e, rest)) :
    Tracks cs ('\x7d' :: rest) := by
  unfold object at h
  split at h
  · rename_i afterFor hfor
    have hfor := (level_skipWhite cs).trans (level_afterKeyword? hfor (by decide))
    obtain ⟨⟨⟨key, value, collection⟩, mid⟩, hbindings, h⟩ := ok_of_do h
    have hbindings := hfor.trans_tracks (tracking_bindings hinner hbindings)
    obtain ⟨mid', hcolon, h⟩ := ok_of_do h
    have hcolon := hbindings.trans_level (level_expect hcolon (by decide))
    obtain ⟨⟨itemKey, mid''⟩, hkey, h⟩ := ok_of_do h
    have hkey := hcolon.trans (tracking_spaced hinner hkey)
    obtain ⟨afterArrow, harrow, h⟩ := ok_of_do h
    have harrow := hkey.trans_level (level_expect harrow (by decide))
    obtain ⟨⟨item, afterItem⟩, hitem, h⟩ := ok_of_do h
    have hitem := harrow.trans (tracking_spaced hinner hitem)
    obtain ⟨⟨condition, tail⟩, hcondition, h⟩ := ok_of_do h
    obtain ⟨tail', hclose, h⟩ := ok_of_do h
    obtain ⟨-, rfl⟩ := Prod.mk.inj (Except.ok.inj h)
    have hcondition := tracking_filterCondition hinner hcondition
    rw [eq_append_of_expect hclose] at hcondition
    split at hcondition
    · have hdots := hitem.trans_level (level_append ['.', '.', '.'] (by decide) _)
      exact (hdots.trans_level (level_skipWhite _)).trans hcondition
    · exact hitem.trans hcondition
  · obtain ⟨⟨es, tail⟩, hes, h⟩ := ok_of_do h
    obtain ⟨-, rfl⟩ := Prod.mk.inj (Except.ok.inj h)
    exact tracks_entries hinner hes

end

end TagAudit.Hcl
