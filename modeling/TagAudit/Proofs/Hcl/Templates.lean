/-
  TagAudit.Proofs.Hcl.Templates — where the readers of templates stop.

  A quoted template ends at the quote that one finds reading token after token, unless it holds
  something that one cannot pass over (`tracks_quotedTemplate`), and a heredoc at its last line
  (`tracks_heredoc`). `parts_passes` follows the reader of both: what is true of the text before and
  after each part is true of the text before and after all of them.
-/

import TagAudit.Proofs.Hcl.Tracking

namespace TagAudit.Hcl

variable {cs mid rest : List Char} {n m : Nat}

/-! ## Literal text -/

/-- A mark starts here that opens an interpolation or a directive, or that would if it were not
    doubled. -/
def StartsMark (c : Char) (cs : List Char) : Prop :=
  ∃ ds, (c = '$' ∨ c = '%') ∧ (cs = '\x7b' :: ds ∨ cs = c :: '\x7b' :: ds)

theorem not_startsMark {c : Char} (h : ¬StartsMark c cs) :
    (∀ ds, c = '$' → cs = '$' :: '\x7b' :: ds → False) ∧ (∀ ds, c = '%' → cs = '%' :: '\x7b' :: ds → False) ∧
      (∀ ds, c = '$' → cs = '\x7b' :: ds → False) ∧ ∀ ds, c = '%' → cs = '\x7b' :: ds → False := by
  refine ⟨fun ds hc hcs => h ⟨ds, .inl hc, .inr (hc ▸ hcs)⟩, fun ds hc hcs => h ⟨ds, .inr hc, .inr (hc ▸ hcs)⟩,
    fun ds hc hcs => h ⟨ds, .inl hc, .inl hcs⟩, fun ds hc hcs => h ⟨ds, .inr hc, .inl hcs⟩⟩

@[elab_as_elim]
theorem plainLiteral_induction {motive : List Char → Prop} (nil : motive [])
    (dollars : ∀ cs, motive cs → motive ('$' :: '$' :: '\x7b' :: cs))
    (percents : ∀ cs, motive cs → motive ('%' :: '%' :: '\x7b' :: cs))
    (interpolation : ∀ cs, motive ('$' :: '\x7b' :: cs)) (directive : ∀ cs, motive ('%' :: '\x7b' :: cs))
    (inText : ∀ c cs, ¬StartsMark c cs → motive cs → motive (c :: cs)) (cs : List Char) : motive cs := by
  refine plainLiteral.induct (fun _ => false) motive dollars percents interpolation directive (fun _ => nil) (fun _ => nil)
    (fun _ _ _ _ _ _ hfalse => absurd hfalse Bool.false_ne_true) ?_ cs
  rintro c cs hdollars hpercents hinterpolation hdirective -
  refine inText c cs ?_
  rintro ⟨ds, rfl | rfl, hcs | hcs⟩
  · exact hinterpolation ds rfl hcs
  · exact hdollars ds rfl hcs
  · exact hdirective ds rfl hcs
  · exact hpercents ds rfl hcs

theorem plainLiteral_cons {c : Char} (h : ¬StartsMark c cs) (ends : List Char → Bool) :
    plainLiteral ends (c :: cs) =
      if ends (c :: cs) then .ok ([], c :: cs) else plainLiteral ends cs >>= fun x => .ok (c :: x.1, x.2) := by
  obtain ⟨hdollars, hpercents, hinterpolation, hdirective⟩ := not_startsMark h
  rw [plainLiteral]
  all_goals assumption

theorem suffix_of_plainLiteral {ends : List Char → Bool} {t : List Char} (h : plainLiteral ends cs = .ok (t, rest)) :
    rest <:+ cs := by
  induction cs using plainLiteral_induction generalizing t with
  | nil =>
    rw [plainLiteral] at h
    split at h
    · exact (Prod.mk.inj (Except.ok.inj h)).2 ▸ List.suffix_rfl
    · contradiction
  | dollars cs ih =>
    rw [plainLiteral] at h
    obtain ⟨⟨t, tail⟩, ht, h⟩ := ok_of_do h
    obtain ⟨-, rfl⟩ := Prod.mk.inj (Except.ok.inj h)
    exact (ih ht).trans (List.suffix_append ['$', '$', '\x7b'] cs)
  | percents cs ih =>
    rw [plainLiteral] at h
    obtain ⟨⟨t, tail⟩, ht, h⟩ := ok_of_do h
    obtain ⟨-, rfl⟩ := Prod.mk.inj (Except.ok.inj h)
    exact (ih ht).trans (List.suffix_append ['%', '%', '\x7b'] cs)
  | interpolation cs =>
    rw [plainLiteral] at h
    exact (Prod.mk.inj (Except.ok.inj h)).2 ▸ List.suffix_rfl
  | directive cs =>
    rw [plainLiteral] at h
    exact (Prod.mk.inj (Except.ok.inj h)).2 ▸ List.suffix_rfl
  | inText c cs hmark ih =>
    rw [plainLiteral_cons hmark] at h
    split at h
    · exact (Prod.mk.inj (Except.ok.inj h)).2 ▸ List.suffix_rfl
    · obtain ⟨⟨t, tail⟩, ht, h⟩ := ok_of_do h
      obtain ⟨-, rfl⟩ := Prod.mk.inj (Except.ok.inj h)
      exact (ih ht).trans (List.suffix_cons c cs)

/-- Over literal text between quotes one comes from `cs` to `rest`, a number of directives being open. -/
def Literal (directives : Nat) (cs rest : List Char) : Prop :=
  ∀ st, Follows (· = .quote directives :: st) (.quote directives :: st) cs (.quote directives :: st) rest

theorem literalStep?_cons {c : Char} (hquote : c ≠ '"') (hline : c ≠ '\n')
    (hslash : ∀ d ds, c = '\\' → cs = d :: ds → False) (hmark : ¬StartsMark c cs) (n : Nat) (st : List Opener) :
    literalStep? n st (c :: cs) =
      if oddQuotes st && !isHarmless (c :: cs) then none else some (.quote n :: st, cs) := by
  obtain ⟨hdollars, hpercents, hinterpolation, hdirective⟩ := not_startsMark hmark
  rw [literalStep?]
  all_goals assumption

namespace Literal

theorem refl (n : Nat) (cs : List Char) : Literal n cs cs := fun _ => .refl _ _ cs

theorem trans (h : Literal n cs mid) (h' : Literal n mid rest) : Literal n cs rest := fun st => (h st).trans (h' st)

theorem of_step {c : Char} (hs : rest <:+ cs)
    (h : ∀ st, literalStep? n st (c :: cs) = none ∨ literalStep? n st (c :: cs) = some (.quote n :: st, rest)) :
    Literal n (c :: cs) rest :=
  fun st => (h st).elim (.of_none · hs) (.of_step · rfl rfl)

/-- A character that is the start of nothing else. Inside a directive one gets stuck at quotes and
    backslashes. -/
theorem cons {c : Char} (hquote : n = 0 → c ≠ '"') (hslash : n = 0 → c ≠ '\\') (hmark : ¬StartsMark c cs) :
    Literal n (c :: cs) cs := by
  refine of_step List.suffix_rfl fun st => ?_
  by_cases hline : c = '\n'
  · exact .inl (by rw [hline, literalStep?])
  by_cases hquotes : c = '"'
  · have hn : n ≠ 0 := fun hn => hquote hn hquotes
    exact .inl (by rw [hquotes, literalStep?]; simp [hn])
  by_cases hescape : ∃ d ds, c = '\\' ∧ cs = d :: ds
  · obtain ⟨d, ds, hc, rfl⟩ := hescape
    have hn : n ≠ 0 := fun hn => hslash hn hc
    exact .inl (by rw [hc, literalStep?]; simp [hn])
  · rw [literalStep?_cons hquotes hline (fun d ds hc hcs => hescape ⟨d, ds, hc, hcs⟩) hmark]
    split
    · exact .inl rfl
    · exact .inr rfl

theorem hexDigits {ds : List Nat} (count : Nat) (h : (cs.take count).mapM Text.hexDigit? = some ds) :
    Literal 0 cs (cs.drop count) := by
  induction count generalizing cs ds with
  | zero => exact refl 0 cs
  | succ n ih =>
    cases cs with
    | nil => exact refl 0 []
    | cons c cs =>
      simp only [List.take_succ_cons, List.mapM_cons, Option.bind_eq_bind, Option.bind_eq_some_iff] at h
      obtain ⟨d, hd, ds, hds, -⟩ := h
      have hne {a : Char} (ha : Text.hexDigit? a = none) : c ≠ a := fun hc => by simp [← hc, hd] at ha
      have hmark : ¬StartsMark c cs := by
        rintro ⟨-, hc | hc, -⟩
        · exact hne rfl hc
        · exact hne rfl hc
      exact trans (cons (fun _ => hne rfl) (fun _ => hne rfl) hmark) (ih hds)

theorem escape (c : Char) (cs : List Char) : Literal 0 ('\\' :: c :: cs) cs := by
  refine of_step (List.suffix_cons c cs) fun st => ?_
  rw [literalStep?]
  split
  · exact .inl rfl
  · exact .inr rfl

theorem codePoint? {c : Char} {count : Nat} (h : codePoint? count cs = some (c, rest)) : Literal 0 cs rest := by
  unfold Hcl.codePoint? at h
  obtain ⟨ds, hds, h⟩ := Option.bind_eq_some_iff.mp h
  split at h
  · simp only at h
    split at h
    · obtain ⟨-, rfl⟩ := Prod.mk.inj (Option.some.inj h)
      exact hexDigits count hds
    · contradiction
  · contradiction

theorem escaped? {c : Char} (h : escaped? cs = some (c, rest)) : Literal 0 ('\\' :: cs) rest := by
  unfold Hcl.escaped? at h
  split at h
  iterate 8
    obtain ⟨-, rfl⟩ := Prod.mk.inj (Option.some.inj h)
    exact escape _ _
  · rename_i cs
    exact (escape 'u' cs).trans (codePoint? h)
  · rename_i cs
    exact (escape 'U' cs).trans (codePoint? h)
  · contradiction

/-- A mark that stands for itself because its first character is there twice. -/
theorem doubled (n : Nat) (cs : List Char) :
    Literal n ('$' :: '$' :: '\x7b' :: cs) cs ∧ Literal n ('%' :: '%' :: '\x7b' :: cs) cs := by
  refine ⟨of_step (List.suffix_append ['$', '\x7b'] cs) fun st => ?_, of_step (List.suffix_append ['%', '\x7b'] cs) fun st => ?_⟩
  all_goals
    rw [literalStep?]
    split
    · exact .inl rfl
    · exact .inr rfl

theorem of_quotedLiteral {fuel : Nat} {t : List Char} (h : quotedLiteral fuel cs = .ok (t, rest)) : Literal 0 cs rest := by
  induction fuel generalizing cs t with
  | zero => contradiction
  | succ fuel ih =>
    unfold quotedLiteral at h
    split at h
    · exact (Prod.mk.inj (Except.ok.inj h)).2 ▸ refl 0 _
    · obtain ⟨⟨t, tail⟩, ht, h⟩ := ok_of_do h
      obtain ⟨-, rfl⟩ := Prod.mk.inj (Except.ok.inj h)
      exact (doubled 0 _).1.trans (ih ht)
    · obtain ⟨⟨t, tail⟩, ht, h⟩ := ok_of_do h
      obtain ⟨-, rfl⟩ := Prod.mk.inj (Except.ok.inj h)
      exact (doubled 0 _).2.trans (ih ht)
    · exact (Prod.mk.inj (Except.ok.inj h)).2 ▸ refl 0 _
    · exact (Prod.mk.inj (Except.ok.inj h)).2 ▸ refl 0 _
    · split at h
      · obtain ⟨⟨t, tail⟩, ht, h⟩ := ok_of_do h
        obtain ⟨-, rfl⟩ := Prod.mk.inj (Except.ok.inj h)
        exact (escaped? ‹_›).trans (ih ht)
      · contradiction
    · rename_i c cs hquote hdollars hpercents hinterpolation hdirective hslash
      obtain ⟨⟨t, tail⟩, ht, h⟩ := ok_of_do h
      obtain ⟨-, rfl⟩ := Prod.mk.inj (Except.ok.inj h)
      have hmark : ¬StartsMark c cs := by
        rintro ⟨ds, rfl | rfl, hcs | hcs⟩
        · exact hinterpolation ds rfl hcs
        · exact hdollars ds rfl hcs
        · exact hdirective ds rfl hcs
        · exact hpercents ds rfl hcs
      exact (cons (fun _ => hquote) (fun _ => hslash) hmark).trans (ih ht)
    · contradiction

/-- Literal text inside a directive. -/
theorem of_plainLiteral {t : List Char} (h : plainLiteral (fun _ => false) cs = .ok (t, rest)) : Literal (n + 1) cs rest := by
  induction cs using plainLiteral_induction generalizing t with
  | nil => contradiction
  | dollars cs ih =>
    rw [plainLiteral] at h
    obtain ⟨⟨t, tail⟩, ht, h⟩ := ok_of_do h
    obtain ⟨-, rfl⟩ := Prod.mk.inj (Except.ok.inj h)
    exact (doubled _ cs).1.trans (ih ht)
  | percents cs ih =>
    rw [plainLiteral] at h
    obtain ⟨⟨t, tail⟩, ht, h⟩ := ok_of_do h
    obtain ⟨-, rfl⟩ := Prod.mk.inj (Except.ok.inj h)
    exact (doubled _ cs).2.trans (ih ht)
  | interpolation cs =>
    rw [plainLiteral] at h
    exact (Prod.mk.inj (Except.ok.inj h)).2 ▸ refl _ _
  | directive cs =>
    rw [plainLiteral] at h
    exact (Prod.mk.inj (Except.ok.inj h)).2 ▸ refl _ _
  | inText c cs hmark ih =>
    rw [plainLiteral_cons hmark, if_neg Bool.false_ne_true] at h
    obtain ⟨⟨t, tail⟩, ht, h⟩ := ok_of_do h
    obtain ⟨-, rfl⟩ := Prod.mk.inj (Except.ok.inj h)
    have hn : n + 1 ≠ 0 := n.succ_ne_zero
    exact (cons (fun h => absurd h hn) (fun h => absurd h hn) hmark).trans (ih ht)

end Literal

/-- Between quotes one comes from `cs` to `rest`, perhaps over interpolations and directives, `n` of
    which are open before and `m` after. -/
def InQuotes (n m : Nat) (cs rest : List Char) : Prop :=
  ∀ st, Follows (st <:+ ·) (.quote n :: st) cs (.quote m :: st) rest

theorem Literal.inQuotes (h : Literal n cs rest) : InQuotes n n cs rest :=
  fun st => (h st).mono fun _ heq => heq ▸ List.suffix_cons _ st

/-- What stands in quotes, of which `K` allows one more. -/
theorem Follows.quoted {K : List Opener → Prop} {st : List Opener} (hst : inLiteral st = false)
    (h : Follows K (.quote 0 :: st) cs (.quote 0 :: st) ('"' :: rest)) (hK : K st) (hK' : K (.quote 0 :: st)) :
    Follows K st ('"' :: cs) st rest := by
  have hclose : step? (.quote 0 :: st) ('"' :: rest) = some (st, rest) := by
    rw [step?, literalStep?, hst]
    rfl
  exact ((Follows.of_step (step?_of_code hst _) hK hK').trans h).trans (.of_step hclose hK' hK)

theorem InQuotes.tracks (h : InQuotes 0 0 cs ('"' :: rest)) : Tracks ('"' :: cs) rest :=
  fun st hst => .quoted hst (h st) List.suffix_rfl (List.suffix_cons _ st)

/-! ## Templates -/

theorem level_opening (cs : List Char) : Level cs (opening cs).2 := by
  unfold opening
  split
  · exact (level_cons rfl _).trans (level_skipWhite _)
  · exact level_skipWhite cs

theorem level_closing {strip : Bool} (h : closing cs = .ok (strip, rest)) : Level cs ('\x7d' :: rest) := by
  have hwhite := level_skipWhite cs
  unfold closing at h
  split at h
  · rename_i heq
    rw [heq] at hwhite
    obtain ⟨-, rfl⟩ := Prod.mk.inj (Except.ok.inj h)
    exact hwhite.trans (level_cons rfl _)
  · rename_i heq
    rw [heq] at hwhite
    obtain ⟨-, rfl⟩ := Prod.mk.inj (Except.ok.inj h)
    exact hwhite
  · contradiction

theorem suffix_of_expect {mark : List Char} (h : expect mark cs = .ok rest) : rest <:+ cs :=
  eq_append_of_expect h ▸ List.suffix_append mark rest

/-- A directive that is a single word. -/
theorem wordDirective_cases {word : List Char} (hword : word.all isOrdinary) (h : wordDirective word cs = .ok rest) :
    ∃ ds tail, cs = '%' :: '\x7b' :: ds ∧ (opening ds).2 = word ++ tail ∧ Tracks ds ('\x7d' :: rest) := by
  unfold wordDirective at h
  obtain ⟨ds, hmark, h⟩ := ok_of_do h
  obtain ⟨tail, hexpect, h⟩ := ok_of_do h
  obtain ⟨⟨strip, tail'⟩, hclosing, h⟩ := ok_of_do h
  obtain rfl := Except.ok.inj h
  have hopening := level_opening ds
  rw [eq_append_of_expect hexpect] at hopening
  have htrack := (hopening.trans (level_append word hword tail)).trans (level_closing hclosing)
  exact ⟨ds, tail, eq_append_of_expect hmark, eq_append_of_expect hexpect, htrack.tracks⟩

/-- What is true of the text before and after each part of a template, and so of the text before
    and after a template; `n` directives are open before and `m` after. -/
structure Passes (R : Nat → Nat → List Char → List Char → Prop) : Prop where
  refl : ∀ n cs, R n n cs cs
  trans : ∀ {n m k cs mid rest}, R n m cs mid → R m k mid rest → R n k cs rest
  interpolation : ∀ {n cs rest}, Tracks cs ('\x7d' :: rest) → R n n ('$' :: '\x7b' :: cs) rest
  directive : ∀ {n m cs rest}, directivesAfter? n cs = some m → Tracks cs ('\x7d' :: rest) →
    R n m ('%' :: '\x7b' :: cs) rest
  inDirective : ∀ {n cs t rest}, plainLiteral (fun _ => false) cs = .ok (t, rest) → R (n + 1) (n + 1) cs rest

theorem passes_suffix : Passes fun _ _ cs rest => rest <:+ cs where
  refl _ _ := List.suffix_rfl
  trans h h' := h'.trans h
  interpolation h := ((List.suffix_cons _ _).trans h.suffix).trans (List.suffix_append ['$', '\x7b'] _)
  directive _ h := ((List.suffix_cons _ _).trans h.suffix).trans (List.suffix_append ['%', '\x7b'] _)
  inDirective := suffix_of_plainLiteral

theorem passes_inQuotes : Passes InQuotes where
  refl n cs := (Literal.refl n cs).inQuotes
  trans h h' st := (h st).trans (h' st)
  interpolation h st := h.braces (List.suffix_cons _ st) (fun _ => (List.suffix_cons _ st).trans) rfl rfl
  directive {n m cs rest} hafter h st := by
    have hopen : step? (.quote n :: st) ('%' :: '\x7b' :: cs) = some (.brace :: .quote m :: st, cs) := by
      rw [step?, literalStep?, hafter]
      rfl
    exact h.braces (List.suffix_cons _ st) (fun _ => (List.suffix_cons _ st).trans) rfl hopen
  inDirective h := (Literal.of_plainLiteral h).inQuotes

section
variable {inner : Bool → List Char → Except (List Char) (Expr × List Char)} (hinner : ∀ newlines, Tracking (inner newlines))
include hinner

theorem tracks_interpolation {p : Part} (h : interpolation inner cs = .ok (p, rest)) : Tracks cs ('\x7d' :: rest) := by
  unfold interpolation at h
  obtain ⟨⟨e, mid⟩, he, h⟩ := ok_of_do h
  obtain ⟨⟨strip, tail⟩, hclosing, h⟩ := ok_of_do h
  obtain ⟨-, rfl⟩ := Prod.mk.inj (Except.ok.inj h)
  exact ((level_opening cs).trans_tracks (hinner _ he)).trans_level (level_closing hclosing)

section
variable {R : Nat → Nat → List Char → List Char → Prop} (hR : Passes R)
include hR

omit hinner in
theorem passes_wordDirective {word : List Char} (hword : word.all isOrdinary) (h : wordDirective word cs = .ok rest)
    (hafter : ∀ ds tail, (opening ds).2 = word ++ tail → directivesAfter? n ds = some m) : R n m cs rest := by
  obtain ⟨ds, tail, rfl, hopening, htrack⟩ := wordDirective_cases hword h
  exact hR.directive (hafter ds tail hopening) htrack

variable {nested : List Char → Except (List Char) (List Part × List Char)}
  (hnested : ∀ cs ps rest, nested cs = .ok (ps, rest) → R (n + 1) (n + 1) cs rest)
include hnested

theorem passes_ifDirective {p : Part} (hopening : (opening cs).2 = 'i' :: 'f' :: mid)
    (h : ifDirective inner nested mid = .ok (p, rest)) : R n n ('%' :: '\x7b' :: cs) rest := by
  unfold ifDirective at h
  obtain ⟨⟨condition, afterCondition⟩, hcondition, h⟩ := ok_of_do h
  obtain ⟨⟨strip, inside⟩, hclosing, h⟩ := ok_of_do h
  obtain ⟨⟨ifTrue, afterTrue⟩, htrue, h⟩ := ok_of_do h
  have htrue : R n (n + 1) ('%' :: '\x7b' :: cs) afterTrue := by
    have hword := level_opening cs
    rw [hopening] at hword
    have hword := (hword.trans (level_append ['i', 'f'] rfl mid)).trans (level_skipWhite mid)
    have htrack := (hword.trans_tracks (hinner _ hcondition)).trans_level (level_closing hclosing)
    exact hR.trans (hR.directive (by simp [directivesAfter?, hopening]) htrack) (hnested _ _ _ htrue)
  have hend {cs rest : List Char} (h : wordDirective ['e', 'n', 'd', 'i', 'f'] cs = .ok rest) : R (n + 1) n cs rest :=
    passes_wordDirective hR rfl h fun ds tail hds => by simp [directivesAfter?, hds]
  simp only at h
  split at h
  · rename_i helse
    obtain ⟨⟨ifFalse, tail⟩, hfalse, h⟩ := ok_of_do h
    obtain ⟨tail', hendif, h⟩ := ok_of_do h
    obtain ⟨-, rfl⟩ := Prod.mk.inj (Except.ok.inj h)
    have helse := passes_wordDirective hR (n := n + 1) (m := n + 1) rfl helse
      fun ds tail hds => by simp [directivesAfter?, hds]
    exact hR.trans (hR.trans htrue helse) (hR.trans (hnested _ _ _ hfalse) (hend hendif))
  · obtain ⟨tail, hendif, h⟩ := ok_of_do h
    obtain ⟨-, rfl⟩ := Prod.mk.inj (Except.ok.inj h)
    exact hR.trans htrue (hend hendif)

theorem passes_forDirective {p : Part} (hopening : (opening cs).2 = 'f' :: 'o' :: 'r' :: mid)
    (h : forDirective inner nested mid = .ok (p, rest)) : R n n ('%' :: '\x7b' :: cs) rest := by
  unfold forDirective at h
  obtain ⟨⟨⟨key, value, collection⟩, afterBindings⟩, hbindings, h⟩ := ok_of_do h
  obtain ⟨⟨strip, inside⟩, hclosing, h⟩ := ok_of_do h
  obtain ⟨⟨body, afterBody⟩, hbody, h⟩ := ok_of_do h
  obtain ⟨tail, hend, h⟩ := ok_of_do h
  obtain ⟨-, rfl⟩ := Prod.mk.inj (Except.ok.inj h)
  have hword := level_opening cs
  rw [hopening] at hword
  have hbindings := (hword.trans (level_append ['f', 'o', 'r'] rfl mid)).trans_tracks (tracking_bindings hinner hbindings)
  have hfor : R n (n + 1) ('%' :: '\x7b' :: cs) inside :=
    hR.directive (by simp [directivesAfter?, hopening]) (hbindings.trans_level (level_closing hclosing))
  have hend := passes_wordDirective hR (n := n + 1) (m := n) rfl hend
    fun ds tail hds => by simp [directivesAfter?, hds]
  exact hR.trans (hR.trans hfor (hnested _ _ _ hbody)) hend

end

theorem parts_passes {R : Nat → Nat → List Char → List Char → Prop} (hR : Passes R) : ∀ {fuel n : Nat}
    {literal : List Char → Except (List Char) (List Char × List Char)}
    (_ : ∀ cs t rest, literal cs = .ok (t, rest) → R n n cs rest) {cs rest : List Char} {ps : List (Part × List Char)},
    parts inner fuel literal cs = .ok (ps, rest) → R n n cs rest
  | 0, n, literal, hliteral, cs, rest, ps, h => by simp [parts] at h
  | fuel + 1, n, literal, hliteral, cs, rest, ps, h => by
    unfold parts at h
    extract_lets nested goOn at h
    have hnested (cs : List Char) (ps : List Part) (rest : List Char) (h : nested cs = .ok (ps, rest)) :
        R (n + 1) (n + 1) cs rest := by
      obtain ⟨⟨ps, tail⟩, hps, h⟩ := ok_of_do h
      obtain ⟨-, rfl⟩ := Prod.mk.inj (Except.ok.inj h)
      exact parts_passes hR (fun _ _ _ => hR.inDirective) hps
    have hgoOn {p : Part} {mid : List Char} (h : goOn p mid = .ok (ps, rest)) : R n n mid rest := by
      obtain ⟨⟨ps, tail⟩, hps, h⟩ := ok_of_do h
      obtain ⟨-, rfl⟩ := Prod.mk.inj (Except.ok.inj h)
      exact parts_passes hR hliteral hps
    split at h
    · obtain ⟨⟨p, mid⟩, hp, h⟩ := ok_of_do h
      exact hR.trans (hR.interpolation (tracks_interpolation hinner hp)) (hgoOn h)
    · split at h
      · obtain ⟨⟨p, mid⟩, hp, h⟩ := ok_of_do h
        exact hR.trans (passes_ifDirective hinner hR hnested ‹_› hp) (hgoOn h)
      · obtain ⟨⟨p, mid⟩, hp, h⟩ := ok_of_do h
        exact hR.trans (passes_forDirective hinner hR hnested ‹_› hp) (hgoOn h)
      · obtain ⟨-, rfl⟩ := Prod.mk.inj (Except.ok.inj h)
        exact hR.refl n _
    · obtain ⟨⟨text, mid⟩, htext, h⟩ := ok_of_do h
      simp only at h
      split at h
      · obtain ⟨-, rfl⟩ := Prod.mk.inj (Except.ok.inj h)
        exact hR.refl n _
      · obtain ⟨⟨ps, tail⟩, hps, h⟩ := ok_of_do h
        obtain ⟨-, rfl⟩ := Prod.mk.inj (Except.ok.inj h)
        exact hR.trans (hliteral _ _ _ htext) (parts_passes hR hliteral hps)

theorem tracks_quotedTemplate {e : Expr} (h : quotedTemplate inner cs = .ok (e, rest)) : Tracks ('"' :: cs) rest := by
  unfold quotedTemplate at h
  obtain ⟨⟨ps, mid⟩, hps, h⟩ := ok_of_do h
  obtain ⟨tail, hquote, h⟩ := ok_of_do h
  have hmid : mid = '"' :: rest := by
    rw [eq_append_of_expect hquote]
    split at h <;> exact congrArg (['"'] ++ ·) (Prod.mk.inj (Except.ok.inj h)).2
  rw [hmid] at hps
  have hin := parts_passes hinner passes_inQuotes (fun _ _ _ h => (Literal.of_quotedLiteral h).inQuotes) hps
  exact hin.tracks

end

/-! ## Heredocs -/

/-- In a heredoc one comes from `cs` to `rest`, perhaps over interpolations and directives, `n` of
    which are open before and `m` after. -/
def InHeredoc (delimiter : List Char) (n m : Nat) (cs rest : List Char) : Prop :=
  ∀ st depth mode, ∃ depth' mode', Follows (st <:+ ·) (.heredoc delimiter n depth mode :: st) cs
    (.heredoc delimiter m depth' mode' :: st) rest

/-- The last line of a heredoc starts with a line end. -/
theorem isLastLine_eq_false {delimiter : List Char} {c : Char} (hfeed : c ≠ '\n') (hreturn : c ≠ '\r') (cs : List Char) :
    isLastLine delimiter (c :: cs) = false := by
  unfold isLastLine afterDelimiter? afterLineEnd?
  split
  · exact absurd (List.cons.inj ‹_›).1 hfeed
  · exact absurd (List.cons.inj ‹_›).1 hreturn
  · rfl

theorem heredocStep?_interpolation (delimiter : List Char) (n depth : Nat) (mode : Mode) (st : List Opener) (cs : List Char) :
    heredocStep? delimiter n depth mode st ('$' :: '\x7b' :: cs) =
      if settled (.heredoc delimiter n depth mode :: st) then some (.brace :: .heredoc delimiter n depth mode :: st, cs)
      else none := by
  rw [heredocStep?, isLastLine_eq_false (by decide) (by decide), Bool.and_false]
  rfl

theorem heredocStep?_directive (delimiter : List Char) (n depth : Nat) (mode : Mode) (st : List Opener) (cs : List Char) :
    heredocStep? delimiter n depth mode st ('%' :: '\x7b' :: cs) =
      if settled (.heredoc delimiter n depth mode :: st) then
        (directivesAfter? n cs).map fun m => (.brace :: .heredoc delimiter m depth mode :: st, cs)
      else none := by
  rw [heredocStep?, isLastLine_eq_false (by decide) (by decide), Bool.and_false]
  rfl

namespace InHeredoc

variable {delimiter : List Char}

theorem refl (n : Nat) (cs : List Char) : InHeredoc delimiter n n cs cs := fun _ depth mode => ⟨depth, mode, .refl _ _ cs⟩

theorem trans {k : Nat} (h : InHeredoc delimiter n m cs mid) (h' : InHeredoc delimiter m k mid rest) :
    InHeredoc delimiter n k cs rest := by
  intro st depth mode
  obtain ⟨depth', mode', h⟩ := h st depth mode
  obtain ⟨depth'', mode'', h'⟩ := h' st depth' mode'
  exact ⟨depth'', mode'', h.trans h'⟩

/-- What is passed over like the character `d`. -/
theorem of_char {c : Char} (d : Char) (hs : rest <:+ cs)
    (h : ∀ depth mode st, heredocStep? delimiter n depth mode st (c :: cs) = heredocChar? delimiter n depth mode st d rest) :
    InHeredoc delimiter n n (c :: cs) rest := by
  intro st depth mode
  have hstep : step? (.heredoc delimiter n depth mode :: st) (c :: cs) = heredocChar? delimiter n depth mode st d rest :=
    h depth mode st
  rw [heredocChar?] at hstep
  cases htext : textStep? depth mode d rest with
  | none =>
    rw [htext] at hstep
    exact ⟨depth, mode, .of_none hstep hs⟩
  | some next =>
    rw [htext] at hstep
    exact ⟨next.1, next.2, .of_step hstep (List.suffix_cons _ st) (List.suffix_cons _ st)⟩

theorem of_plainLiteral {ends : List Char → Bool} (hends : ∀ cs, ¬ends cs → ¬(n = 0 && isLastLine delimiter cs))
    {t : List Char} (h : plainLiteral ends cs = .ok (t, rest)) : InHeredoc delimiter n n cs rest := by
  induction cs using plainLiteral_induction generalizing t with
  | nil =>
    rw [plainLiteral] at h
    split at h
    · exact (Prod.mk.inj (Except.ok.inj h)).2 ▸ refl n _
    · contradiction
  | dollars cs ih =>
    rw [plainLiteral] at h
    obtain ⟨⟨t, tail⟩, ht, h⟩ := ok_of_do h
    obtain ⟨-, rfl⟩ := Prod.mk.inj (Except.ok.inj h)
    refine trans (of_char '\x7b' (List.suffix_append ['$', '\x7b'] cs) fun depth mode st => ?_) (ih ht)
    rw [heredocStep?, isLastLine_eq_false (by decide) (by decide), Bool.and_false]
    rfl
  | percents cs ih =>
    rw [plainLiteral] at h
    obtain ⟨⟨t, tail⟩, ht, h⟩ := ok_of_do h
    obtain ⟨-, rfl⟩ := Prod.mk.inj (Except.ok.inj h)
    refine trans (of_char '\x7b' (List.suffix_append ['%', '\x7b'] cs) fun depth mode st => ?_) (ih ht)
    rw [heredocStep?, isLastLine_eq_false (by decide) (by decide), Bool.and_false]
    rfl
  | interpolation cs =>
    rw [plainLiteral] at h
    exact (Prod.mk.inj (Except.ok.inj h)).2 ▸ refl n _
  | directive cs =>
    rw [plainLiteral] at h
    exact (Prod.mk.inj (Except.ok.inj h)).2 ▸ refl n _
  | inText c cs hmark ih =>
    rw [plainLiteral_cons hmark] at h
    split at h
    · exact (Prod.mk.inj (Except.ok.inj h)).2 ▸ refl n _
    · rename_i hend
      obtain ⟨⟨t, tail⟩, ht, h⟩ := ok_of_do h
      obtain ⟨-, rfl⟩ := Prod.mk.inj (Except.ok.inj h)
      obtain ⟨hdollars, hpercents, hinterpolation, hdirective⟩ := not_startsMark hmark
      refine trans (of_char c List.suffix_rfl fun depth mode st => ?_) (ih ht)
      rw [heredocStep?, if_neg (hends _ hend)]
      all_goals assumption

end InHeredoc

theorem passes_inHeredoc (delimiter : List Char) : Passes (InHeredoc delimiter) where
  refl := InHeredoc.refl
  trans := InHeredoc.trans
  interpolation {n cs rest} h st depth mode := by
    have hs : rest <:+ '\x7b' :: cs := ((List.suffix_cons _ _).trans h.suffix).trans (List.suffix_cons _ _)
    have hstep := heredocStep?_interpolation delimiter n depth mode st cs
    refine ⟨depth, mode, ?_⟩
    split at hstep
    · exact h.braces (List.suffix_cons _ st) (fun _ => (List.suffix_cons _ st).trans) ‹_› hstep
    · exact .of_none hstep hs
  directive {n m cs rest} hafter h st depth mode := by
    have hs : rest <:+ '\x7b' :: cs := ((List.suffix_cons _ _).trans h.suffix).trans (List.suffix_cons _ _)
    have hstep := heredocStep?_directive delimiter n depth mode st cs
    rw [hafter] at hstep
    refine ⟨depth, mode, ?_⟩
    split at hstep
    · exact h.braces (List.suffix_cons _ st) (fun _ => (List.suffix_cons _ st).trans) ‹_› hstep
    · exact .of_none hstep hs
  inDirective := InHeredoc.of_plainLiteral fun _ _ => by simp

/-- A heredoc whose text has no open brace is left at its last line. -/
theorem follows_lastLine {delimiter lineEnd after : List Char} {st : List Opener} (hst : inLiteral st = false)
    (heven : oddQuotes st = false) (hlast : afterDelimiter? delimiter cs = some (lineEnd, after)) (hline : afterLineEnd? cs = some rest)
    (depth : Nat) (mode : Mode) : Follows (st <:+ ·) (.heredoc delimiter 0 depth mode :: st) cs st rest := by
  have hstep : step? (.heredoc delimiter 0 depth mode :: st) cs = if depth = 0 then some (st, rest) else none := by
    show heredocStep? delimiter 0 depth mode st cs = _
    unfold heredocStep?
    rw [isLastLine, hlast, hst, heven, hline]
    simp
  split at hstep
  · exact .of_step hstep (List.suffix_cons _ st) List.suffix_rfl
  · obtain ⟨c, ds, rfl, hs⟩ := cons_of_afterLineEnd? hline
    exact .of_none hstep hs

section
variable {inner : Bool → List Char → Except (List Char) (Expr × List Char)}

/-- A heredoc is a template up to its last line, or nothing but its delimiter. -/
theorem heredoc_cases {e : Expr} (h : heredoc inner cs = .ok (e, rest)) :
    ∃ name mid content, ident (afterDash cs) = .ok (name, mid) ∧ afterLineEnd? mid = some content ∧
      ((∃ fuel ps last lineEnd, parts inner fuel (plainLiteral (isLastLine name.toList)) content = .ok (ps, last) ∧
          afterDelimiter? name.toList last = some (lineEnd, rest)) ∨
        expect name.toList (content.dropWhile fun c => c == ' ' || c == '\t') = .ok rest) := by
  unfold heredoc at h
  dsimp -zeta only at h
  obtain ⟨⟨name, mid⟩, hname, h⟩ := ok_of_do h
  have hname : ident (afterDash cs) = .ok (name, mid) := by
    rw [← hname]
    cases cs with
    | nil => rfl
    | cons c cs =>
      by_cases hc : c = '-'
      · rw [hc]
        rfl
      · simp [afterDash, hc]
  dsimp -zeta only at h
  split at h
  · rename_i content hcontent
    refine ⟨name, mid, content, hname, hcontent, ?_⟩
    extract_lets ends body at h
    have hbody {ps : List (Part × List Char)} {tail : List Char} (h : body = some (ps, tail)) :
        ∃ fuel ps last lineEnd, parts inner fuel (plainLiteral (isLastLine name.toList)) content = .ok (ps, last) ∧
          afterDelimiter? name.toList last = some (lineEnd, tail) := by
      obtain ⟨⟨ps, last⟩, hps, h⟩ := Option.bind_eq_some_iff.mp h
      obtain ⟨⟨lineEnd, tail⟩, htail, h⟩ := Option.bind_eq_some_iff.mp h
      obtain ⟨-, rfl⟩ := Prod.mk.inj (Option.some.inj h)
      exact ⟨_, ps, last, lineEnd, ok_of_toOption hps, htail⟩
    generalize body = found at h hbody
    split at h
    · refine .inl ?_
      split at h <;> exact (Prod.mk.inj (Except.ok.inj h)).2 ▸ hbody rfl
    · obtain ⟨tail, htail, h⟩ := ok_of_do h
      obtain ⟨-, rfl⟩ := Prod.mk.inj (Except.ok.inj h)
      exact .inr htail
  · contradiction

variable (hinner : ∀ newlines, Tracking (inner newlines))
include hinner

theorem suffix_of_heredoc {e : Expr} (h : heredoc inner cs = .ok (e, rest)) : rest <:+ cs := by
  obtain ⟨name, mid, content, hname, hcontent, h⟩ := heredoc_cases h
  refine List.IsSuffix.trans ?_ (((Ordinary.of_dash cs).trans (.of_ident hname)).trans (.of_afterLineEnd? hcontent)).suffix
  obtain ⟨fuel, ps, last, lineEnd, hps, hlast⟩ | hrest := h
  · exact (suffix_of_afterDelimiter? hlast).trans
      (parts_passes hinner passes_suffix (n := 0) (fun _ _ _ => suffix_of_plainLiteral) hps)
  · exact (suffix_of_expect hrest).trans (List.dropWhile_suffix _)

theorem tracks_heredoc {e : Expr} (h : heredoc inner cs = .ok (e, rest)) : Tracks ('<' :: '<' :: cs) rest := by
  intro st hst
  have hs : rest <:+ '<' :: cs := (suffix_of_heredoc hinner h).trans (List.suffix_cons _ _)
  cases hodd : oddQuotes st with
  | true => exact .of_none ((step?_of_code hst _).trans (by simp [codeStep?, hodd])) hs
  | false =>
    have hstep : step? st ('<' :: '<' :: cs) =
        (heredocLines? cs).map fun found => (.heredoc found.1 0 0 .text :: st, found.2) := by
      rw [step?_of_code hst, codeStep?, hodd]
      rfl
    cases hlines : heredocLines? cs with
    | none => exact .of_none (by rw [hstep, hlines]; rfl) hs
    | some found =>
      obtain ⟨delimiter, lines⟩ := found
      rw [hlines, Option.map_some] at hstep
      have hopen : Follows (st <:+ ·) st ('<' :: '<' :: cs) (.heredoc delimiter 0 0 .text :: st) lines :=
        .of_step hstep List.suffix_rfl (List.suffix_cons _ st)
      obtain ⟨name, mid, hname, hline, rfl, hfirst⟩ := heredocLines?_eq_some hlines
      obtain ⟨name', mid', content, hname', hline', h⟩ := heredoc_cases h
      obtain ⟨rfl, rfl⟩ := Prod.mk.inj (Except.ok.inj (hname.symm.trans hname'))
      obtain rfl := Option.some.inj (hline.symm.trans hline')
      obtain ⟨fuel, ps, last, lineEnd, hps, hlast⟩ | hrest := h
      · have hdelimiter : ∀ c ∈ name.toList, isOrdinary c :=
          fun c hc => isOrdinary_of_isIdentChar ((isIdent_of_ident hname).forall_isIdentChar c hc)
        obtain ⟨after, hafter, hrest⟩ := Ordinary.of_afterDelimiter? hdelimiter hlast
        obtain ⟨depth, mode, hcontent⟩ :=
          parts_passes hinner (passes_inHeredoc name.toList)
            (fun _ _ _ => InHeredoc.of_plainLiteral (n := 0) fun _ hline => by simpa using hline) hps st 0 .text
        have hend := (follows_lastLine hst hodd hlast hafter depth mode).trans (hrest.level.tracks st hst)
        exact (hopen.trans hcontent).trans hend
      · rw [expect, hfirst] at hrest
        contradiction

end

end TagAudit.Hcl
