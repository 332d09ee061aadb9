/-
  TagAudit.Proofs.Snippet.FirstToken — where the first token after an offset stands.

  Between an offset and the token are white space and complete comments (`Gap`). What starts with
  neither is reached in one way only, so that there is one such position (`tokenFrom_gap`).

  `turn?` is a turn of a search by bytes: it cuts the text at an offset, which has to be one where a
  character starts or the text ends, and goes on from an offset that it computes from lengths. One
  turn passes over white space and a comment (`turn?_append`), and the text that is left gets
  shorter, so the search ends without ever cutting a character (`finds_token`).

  Proved: `tokenLine_of_first_token`.
-/

import TagAudit.Proofs.Snippet.Extent

namespace TagAudit.Snippet

open Text

/-! ## White space and comments -/

/-- A complete comment, and what follows it: one to the end of a line, one to the next end mark, or
    one without an end mark to the end of the text. -/
inductive Comment : List Char → List Char → Prop
  | hash {text rest : List Char} : '\n' ∉ text → (rest = [] ∨ ['\n'] <+: rest) → Comment ('#' :: text) rest
  | slashes {text rest : List Char} : '\n' ∉ text → (rest = [] ∨ ['\n'] <+: rest) →
      Comment ('/' :: '/' :: text) rest
  | closed {text rest : List Char} : ¬['*', '/'] <:+: text → Comment ('/' :: '*' :: (text ++ ['*', '/'])) rest
  | unclosed {text : List Char} : ¬['*', '/'] <:+: text → Comment ('/' :: '*' :: text) []

/-- A sequence of white space and complete comments, and what follows it. -/
inductive Gap : List Char → List Char → Prop
  | nil {rest : List Char} : Gap [] rest
  | blank {c : Char} {gap rest : List Char} : isBlank c = true → Gap gap rest → Gap (c :: gap) rest
  | comment {text gap rest : List Char} : Comment text (gap ++ rest) → Gap gap rest → Gap (text ++ gap) rest

/-- A text that is empty or starts with neither white space nor a comment. -/
structure StartsToken (cs : List Char) : Prop where
  notBlank : ∀ c, cs.head? = some c → isBlank c = false
  notHash : ¬['#'] <+: cs
  notSlashes : ¬['/', '/'] <+: cs
  notOpening : ¬['/', '*'] <+: cs

variable {source pre cs rest gap text token : List Char} {c : Char} {offset n : Nat}

/-- A line feed ends a line, and so does the end of the text. -/
theorem lineFeed_or_end (cs : List Char) :
    ∃ text, cs = text ++ atLineFeed cs ∧ '\n' ∉ text ∧ (atLineFeed cs = [] ∨ ['\n'] <+: atLineFeed cs) := by
  induction cs with
  | nil => exact ⟨[], rfl, List.not_mem_nil, .inl rfl⟩
  | cons c cs ih =>
    by_cases hc : c = '\n'
    · subst hc
      exact ⟨[], rfl, List.not_mem_nil, .inr ⟨cs, rfl⟩⟩
    · obtain ⟨text, hcs, htext, hend⟩ := ih
      have hline : atLineFeed (c :: cs) = atLineFeed cs := Braces.dropWhile_of_ne hc cs
      rw [hline]
      exact ⟨c :: text, congrArg (c :: ·) hcs, List.not_mem_cons_of_ne_of_not_mem (Ne.symm hc) htext, hend⟩

theorem atLineFeed_append (htext : '\n' ∉ text) (hrest : rest = [] ∨ ['\n'] <+: rest) :
    atLineFeed (text ++ rest) = rest := by
  have hne : ∀ c ∈ text, c != '\n' := fun c hc => bne_iff_ne.mpr fun h => htext (h ▸ hc)
  rw [atLineFeed, List.dropWhile_append_of_pos hne]
  rcases hrest with rfl | ⟨more, rfl⟩
  · rfl
  · rfl

theorem afterMark?_eq_none {mark : List Char} : afterMark? mark cs = none ↔ ¬mark <+: cs := by
  rw [Option.eq_none_iff_forall_ne_some]
  constructor
  · rintro h ⟨rest, hrest⟩
    exact h rest (afterMark?_eq_some.mpr hrest.symm)
  · intro h rest hrest
    exact h ⟨rest, (afterMark?_eq_some.mp hrest).symm⟩

theorem splitAtMark?_eq_none {mark : List Char} (hmark : mark ≠ []) : splitAtMark? mark cs = none ↔ ¬mark <:+: cs := by
  induction cs with
  | nil => simp [splitAtMark?, hmark]
  | cons c cs ih =>
    rw [splitAtMark?, List.infix_cons_iff]
    split
    · rename_i rest hrest
      have hstart : mark <+: c :: cs := ⟨rest, (afterMark?_eq_some.mp hrest).symm⟩
      simp [hstart]
    · rename_i hnone
      simp [afterMark?_eq_none.mp hnone, ih]

/-- A mark is found where it first ends. -/
theorem splitAtMark?_append {mark : List Char} (hmark : mark ≠ []) (htext : ¬mark <:+: text ++ mark.dropLast)
    (rest : List Char) : splitAtMark? mark (text ++ mark ++ rest) = some (text, rest) := by
  induction text with
  | nil =>
    obtain ⟨c, mark, rfl⟩ := List.exists_cons_of_ne_nil hmark
    rw [List.nil_append, List.cons_append, splitAtMark?, ← List.cons_append, afterMark?_eq_some.mpr rfl]
  | cons c text ih =>
    have hnone : ¬mark <+: c :: (text ++ mark ++ rest) := by
      intro hstart
      have hlonger : c :: text ++ mark.dropLast <+: c :: (text ++ mark ++ rest) := by
        rw [List.append_assoc]
        exact (List.prefix_append_right_inj (c :: text)).mpr (mark.dropLast_prefix.trans (List.prefix_append mark rest))
      have hlength : mark.length ≤ (c :: text ++ mark.dropLast).length := by
        rw [List.length_append, List.length_cons, List.length_dropLast]
        omega
      exact htext (List.prefix_of_prefix_length_le hstart hlonger hlength).isInfix
    have hrest : ¬mark <:+: text ++ mark.dropLast := fun h => htext (h.trans (List.suffix_cons c _).isInfix)
    rw [List.cons_append, List.cons_append, splitAtMark?, afterMark?_eq_none.mpr hnone, ih hrest]
    rfl

/-- What stands before the first mark does not contain it. -/
theorem eq_append_of_splitAtMark? {mark : List Char} (hmark : mark ≠ [])
    (h : splitAtMark? mark cs = some (text, rest)) :
    cs = text ++ mark ++ rest ∧ ¬mark <:+: text := by
  induction cs generalizing text with
  | nil => simp [splitAtMark?, hmark] at h
  | cons c cs ih =>
    rw [splitAtMark?] at h
    split at h
    · rename_i more hmore
      obtain ⟨rfl, rfl⟩ := Prod.mk.inj (Option.some.inj h)
      exact ⟨afterMark?_eq_some.mp hmore, fun hinfix => hmark (List.infix_nil.mp hinfix)⟩
    · rename_i hnone
      obtain ⟨⟨text, more⟩, hsplit, hpair⟩ := Option.map_eq_some_iff.mp h
      obtain ⟨rfl, rfl⟩ := Prod.mk.inj hpair
      obtain ⟨hcs, htext⟩ := ih hsplit
      refine ⟨congrArg (c :: ·) hcs, fun hinfix => ?_⟩
      rcases List.infix_cons_iff.mp hinfix with hstart | hinfix
      · refine afterMark?_eq_none.mp hnone (hstart.trans ?_)
        rw [hcs, List.append_assoc]
        exact List.prefix_append (c :: text) _
      · exact htext hinfix

/-- An end mark cannot overlap another one. -/
theorem splitAtMark?_closed (htext : ¬['*', '/'] <:+: text) (rest : List Char) :
    splitAtMark? ['*', '/'] (text ++ ['*', '/'] ++ rest) = some (text, rest) := by
  refine splitAtMark?_append (by decide) (fun hinfix => ?_) rest
  rcases List.infix_concat_iff.mp hinfix with ⟨before, hend⟩ | hinfix
  · have hlast : before ++ ['*'] ++ ['/'] = text ++ ['*'] := (List.append_assoc _ _ _).trans hend
    cases (List.append_inj' hlast rfl).2
  · exact htext hinfix

theorem afterComment_eq (cs : List Char) :
    afterComment cs = ((splitAtMark? ['*', '/'] cs).map (·.2)).getD [] := by
  induction cs with
  | nil => rfl
  | cons c cs ih =>
    by_cases hmark : ['*', '/'] <+: c :: cs
    · obtain ⟨more, hmore⟩ := hmark
      obtain ⟨rfl, rfl⟩ := List.cons.inj hmore
      rfl
    · have hnext : afterComment (c :: cs) = afterComment cs := by
        rw [afterComment]
        rintro more rfl rfl
        exact hmark ⟨more, rfl⟩
      rw [hnext, splitAtMark?, afterMark?_eq_none.mpr hmark, ih]
      cases splitAtMark? ['*', '/'] cs <;> rfl

theorem afterComment_closed (htext : ¬['*', '/'] <:+: text) (rest : List Char) :
    afterComment (text ++ ['*', '/'] ++ rest) = rest := by
  rw [afterComment_eq, splitAtMark?_closed htext]
  rfl

theorem afterComment_unclosed (htext : ¬['*', '/'] <:+: text) : afterComment text = [] := by
  rw [afterComment_eq, (splitAtMark?_eq_none (by decide)).mpr htext]
  rfl

/-! ## The search -/

theorem exists_blanks (cs : List Char) : ∃ blanks, (∀ c ∈ blanks, isBlank c = true) ∧ cs = blanks ++ trimStart cs :=
  ⟨cs.takeWhile isBlank, fun _ hc => List.mem_takeWhile_imp hc, List.takeWhile_append_dropWhile.symm⟩

theorem head_trimStart (cs : List Char) : ∀ c, (trimStart cs).head? = some c → isBlank c = false := by
  intro c hc
  have hhead := List.head?_dropWhile_not isBlank cs
  rw [← trimStart, hc] at hhead
  simpa using hhead

theorem StartsToken.trimStart_eq (h : StartsToken cs) : trimStart cs = cs := trimStart_of_head h.notBlank

theorem Comment.length_pos (h : Comment text rest) : 0 < text.length := by
  cases h <;> exact Nat.succ_pos _

/-- After white space either a comment starts, or a token or the end of the text. -/
theorem exists_comment_of_not (hblank : ∀ c, cs.head? = some c → isBlank c = false) (h : ¬StartsToken cs) :
    ∃ text rest, cs = text ++ rest ∧ Comment text rest := by
  by_cases hhash : ['#'] <+: cs
  · obtain ⟨more, rfl⟩ := hhash
    obtain ⟨text, hmore, htext, hend⟩ := lineFeed_or_end more
    exact ⟨'#' :: text, _, congrArg ('#' :: ·) hmore, .hash htext hend⟩
  by_cases hslashes : ['/', '/'] <+: cs
  · obtain ⟨more, rfl⟩ := hslashes
    obtain ⟨text, hmore, htext, hend⟩ := lineFeed_or_end more
    exact ⟨'/' :: '/' :: text, _, congrArg ('/' :: '/' :: ·) hmore, .slashes htext hend⟩
  by_cases hopening : ['/', '*'] <+: cs
  · obtain ⟨more, rfl⟩ := hopening
    cases hsplit : splitAtMark? ['*', '/'] more with
    | none =>
      have hmore := (splitAtMark?_eq_none (by decide)).mp hsplit
      exact ⟨'/' :: '*' :: more, [], (List.append_nil _).symm, .unclosed hmore⟩
    | some p =>
      obtain ⟨hmore, htext⟩ := eq_append_of_splitAtMark? (by decide) hsplit
      exact ⟨'/' :: '*' :: (p.1 ++ ['*', '/']), p.2, congrArg ('/' :: '*' :: ·) hmore, .closed htext⟩
  · exact absurd ⟨hblank, hhash, hslashes, hopening⟩ h

theorem tokenFrom_blank (hc : isBlank c = true) (n : Nat) (cs : List Char) :
    tokenFrom (n + 1) (c :: cs) = tokenFrom (n + 1) cs := by
  have htrim : trimStart (c :: cs) = trimStart cs := List.dropWhile_cons_of_pos hc
  rw [tokenFrom, tokenFrom, htrim]

theorem tokenFrom_comment (h : Comment text rest) (n : Nat) : tokenFrom (n + 1) (text ++ rest) = tokenFrom n rest := by
  cases h with
  | hash htext hend => exact congrArg (tokenFrom n) (atLineFeed_append htext hend)
  | slashes htext hend => exact congrArg (tokenFrom n) (atLineFeed_append htext hend)
  | closed htext => exact congrArg (tokenFrom n) (afterComment_closed htext rest)
  | unclosed htext =>
    rw [List.append_nil]
    exact congrArg (tokenFrom n) (afterComment_unclosed htext)

theorem tokenFrom_token (h : StartsToken cs) (n : Nat) : tokenFrom (n + 1) cs = cs := by
  rw [tokenFrom, h.trimStart_eq]
  split
  · exact absurd ⟨_, rfl⟩ h.notHash
  · exact absurd ⟨_, rfl⟩ h.notSlashes
  · exact absurd ⟨_, rfl⟩ h.notOpening
  · rfl

/-- A token after white space and comments is what is found, so there is but one. -/
theorem tokenFrom_gap (hgap : Gap gap token) (htoken : StartsToken token) (hn : (gap ++ token).length < n) :
    tokenFrom n (gap ++ token) = token := by
  induction hgap generalizing n with
  | nil =>
    obtain ⟨n, rfl⟩ : ∃ k, n = k + 1 := ⟨n - 1, by omega⟩
    exact tokenFrom_token htoken n
  | blank hc _ ih =>
    obtain ⟨n, rfl⟩ : ∃ k, n = k + 1 := ⟨n - 1, by omega⟩
    rw [List.cons_append, tokenFrom_blank hc]
    exact ih htoken (Nat.lt_of_succ_lt hn)
  | comment hcomment _ ih =>
    obtain ⟨n, rfl⟩ : ∃ k, n = k + 1 := ⟨n - 1, by omega⟩
    have hpos := hcomment.length_pos
    rw [List.append_assoc, List.length_append] at hn
    rw [List.append_assoc, tokenFrom_comment hcomment]
    exact ih htoken (by omega)

/-! ## A search by bytes -/

/-- The text from a byte on. There is none from inside a character or past the end. -/
def slice? : List Char → Nat → Option (List Char)
  | cs, 0 => some cs
  | [], _ + 1 => none
  | c :: cs, n + 1 => if c.utf8Size ≤ n + 1 then slice? cs (n + 1 - c.utf8Size) else none

def bytesTo? (mark cs : List Char) : Option Nat := (splitAtMark? mark cs).map fun p => byteSize p.1

/-- What a turn of the search comes to: an offset to go on from, or that of a token. -/
inductive Turn where
  | again (offset : Nat)
  | token (offset : Nat)
  deriving DecidableEq

/-- What follows at an offset at which there is no white space. -/
def turn (offset : Nat) (cs : List Char) : Turn :=
  if startsWith cs ['#'] || startsWith cs ['/', '/'] then
    .again (offset + (bytesTo? ['\n'] cs).getD (byteSize cs))
  else
    match afterMark? ['/', '*'] cs with
    | some comment => .again (offset + ((bytesTo? ['*', '/'] comment).map (· + 4)).getD (byteSize cs))
    | none => .token offset

/-- A turn of the search; `none` if the text cannot be cut at the offset. -/
def turn? (source : List Char) (offset : Nat) : Option Turn :=
  (slice? source offset).map fun rest => turn (offset + (byteSize rest - byteSize (trimStart rest))) (trimStart rest)

/-- A search from one offset ends at another one. -/
inductive Finds (source : List Char) : Nat → Nat → Prop
  | token {offset found : Nat} : turn? source offset = some (.token found) → Finds source offset found
  | again {offset next found : Nat} : turn? source offset = some (.again next) → Finds source next found →
      Finds source offset found

theorem slice?_zero : slice? cs 0 = some rest ↔ ∃ pre, cs = pre ++ rest ∧ byteSize pre = 0 := by
  rw [slice?]
  constructor
  · rintro ⟨⟩
    exact ⟨[], rfl, rfl⟩
  · rintro ⟨pre, rfl, hsize⟩
    cases pre with
    | nil => rfl
    | cons c pre =>
      have hpos := c.utf8Size_pos
      rw [byteSize_cons] at hsize
      omega

/-- A text can be cut where a character starts, and at its end. -/
theorem slice?_eq_some : slice? cs n = some rest ↔ ∃ pre, cs = pre ++ rest ∧ byteSize pre = n := by
  induction cs generalizing n with
  | nil =>
    cases n with
    | zero => exact slice?_zero
    | succ n =>
      constructor
      · nofun
      · rintro ⟨pre, hnil, hsize⟩
        obtain ⟨rfl, -⟩ := List.append_eq_nil_iff.mp hnil.symm
        cases hsize
  | cons c cs ih =>
    cases n with
    | zero => exact slice?_zero
    | succ n =>
      rw [slice?]
      split
      · rename_i hc
        rw [ih]
        constructor
        · rintro ⟨pre, rfl, hsize⟩
          refine ⟨c :: pre, rfl, ?_⟩
          rw [byteSize_cons, hsize, Nat.add_sub_cancel' hc]
        · rintro ⟨pre, hcs, hsize⟩
          cases pre with
          | nil => cases hsize
          | cons d pre =>
            obtain ⟨rfl, rfl⟩ := List.cons.inj hcs
            rw [byteSize_cons] at hsize
            exact ⟨pre, rfl, by omega⟩
      · constructor
        · nofun
        · rintro ⟨pre, hcs, hsize⟩
          cases pre with
          | nil => cases hsize
          | cons d pre =>
            obtain ⟨rfl, rfl⟩ := List.cons.inj hcs
            rw [byteSize_cons] at hsize
            omega

theorem bytesTo?_lineEnd (htext : '\n' ∉ text) (hrest : rest = [] ∨ ['\n'] <+: rest) :
    (bytesTo? ['\n'] (text ++ rest)).getD (byteSize (text ++ rest)) = byteSize text := by
  have hnone : ¬['\n'] <:+: text ++ [] := by
    rw [List.append_nil]
    exact fun h => htext (h.subset List.mem_cons_self)
  rcases hrest with rfl | ⟨more, rfl⟩
  · rw [bytesTo?, (splitAtMark?_eq_none (by decide)).mpr hnone, List.append_nil]
    rfl
  · rw [bytesTo?, ← List.append_assoc, splitAtMark?_append (by decide) hnone]
    rfl

/-- The lengths of both marks are added to where the end mark is found after the opening one. -/
theorem turn_comment (h : Comment text rest) (offset : Nat) :
    turn offset (text ++ rest) = .again (offset + byteSize text) := by
  cases h with
  | @hash text _ htext hend =>
    have hmark : '\n' ∉ '#' :: text := List.not_mem_cons_of_ne_of_not_mem (by decide) htext
    exact congrArg (fun n => Turn.again (offset + n)) (bytesTo?_lineEnd hmark hend)
  | @slashes text _ htext hend =>
    have hmark : '\n' ∉ '/' :: '/' :: text :=
      List.not_mem_cons_of_ne_of_not_mem (by decide) (List.not_mem_cons_of_ne_of_not_mem (by decide) htext)
    exact congrArg (fun n => Turn.again (offset + n)) (bytesTo?_lineEnd hmark hend)
  | @closed text _ htext =>
    have hfound : bytesTo? ['*', '/'] (text ++ ['*', '/'] ++ rest) = some (byteSize text) := by
      rw [bytesTo?, splitAtMark?_closed htext]
      rfl
    have hsize : byteSize (text ++ ['*', '/']) = byteSize text + 2 := byteSize_append text ['*', '/']
    show Turn.again (offset + ((bytesTo? ['*', '/'] (text ++ ['*', '/'] ++ rest)).map (· + 4)).getD _) = _
    have hslash : Char.utf8Size '/' = 1 := rfl
    have hstar : Char.utf8Size '*' = 1 := rfl
    rw [hfound, Option.map_some, Option.getD_some, byteSize_cons, byteSize_cons, hsize, hslash, hstar]
    exact congrArg (fun n => Turn.again (offset + n)) (by omega)
  | @unclosed text htext =>
    have hnone : bytesTo? ['*', '/'] (text ++ []) = none := by
      rw [bytesTo?, List.append_nil, (splitAtMark?_eq_none (by decide)).mpr htext]
      rfl
    show Turn.again (offset + ((bytesTo? ['*', '/'] (text ++ [])).map (· + 4)).getD _) = _
    rw [hnone, List.append_nil]
    rfl

theorem turn_token (h : StartsToken cs) (offset : Nat) : turn offset cs = .token offset := by
  rw [turn, startsWith, startsWith, afterMark?_eq_none.mpr h.notHash, afterMark?_eq_none.mpr h.notSlashes,
    afterMark?_eq_none.mpr h.notOpening]
  rfl

theorem turn?_append (pre cs : List Char) : turn? (pre ++ cs) (byteSize pre) =
    some (turn (byteSize pre + (byteSize cs - byteSize (trimStart cs))) (trimStart cs)) := by
  rw [turn?, slice?_eq_some.mpr ⟨pre, rfl, rfl⟩]
  rfl

theorem Gap.of_blanks {blanks : List Char} (hblanks : ∀ c ∈ blanks, isBlank c = true) (h : Gap gap rest) :
    Gap (blanks ++ gap) rest := by
  induction blanks with
  | nil => exact h
  | cons c blanks ih =>
    exact .blank (hblanks c List.mem_cons_self) (ih fun c' hc' => hblanks c' (List.mem_cons_of_mem c hc'))

/-- The search ends at a token. Each of its turns leaves a shorter text. -/
theorem finds_token (hsource : source = pre ++ cs) :
    ∃ gap token, cs = gap ++ token ∧ Gap gap token ∧ StartsToken token ∧
      Finds source (byteSize pre) (byteSize (pre ++ gap)) := by
  induction hlength : cs.length using Nat.strong_induction_on generalizing pre cs with
  | _ n ih =>
    obtain ⟨blanks, hblanks, htrim⟩ := exists_blanks cs
    have hturn : turn? source (byteSize pre) = some (turn (byteSize (pre ++ blanks)) (trimStart cs)) := by
      have hsize := congrArg byteSize htrim
      rw [byteSize_append] at hsize
      rw [hsource, turn?_append, byteSize_append, hsize, Nat.add_sub_cancel]
    by_cases htoken : StartsToken (trimStart cs)
    · rw [turn_token htoken] at hturn
      refine ⟨blanks, trimStart cs, htrim, ?_, htoken, .token hturn⟩
      rw [← List.append_nil blanks]
      exact .of_blanks hblanks .nil
    · obtain ⟨text, rest, hcomment, hclosed⟩ := exists_comment_of_not (head_trimStart cs) htoken
      rw [hcomment, turn_comment hclosed, ← byteSize_append] at hturn
      rw [hcomment] at htrim
      have hpos := hclosed.length_pos
      have hshorter : rest.length < n := by
        rw [← hlength, htrim, List.length_append, List.length_append]
        omega
      have hrest : source = pre ++ blanks ++ text ++ rest := by
        rw [hsource, htrim]
        simp only [List.append_assoc]
      obtain ⟨gap, token, rfl, hgap, hstarts, hfinds⟩ := ih rest.length hshorter hrest rfl
      refine ⟨blanks ++ (text ++ gap), token, ?_, .of_blanks hblanks (.comment hclosed hgap), hstarts, .again hturn ?_⟩
      · rw [htrim]
        simp only [List.append_assoc]
      · simpa only [List.append_assoc] using hfinds

/-! ## Lines -/

theorem count_utf8 (cs : List Char) : (utf8 cs).count 10 = countLineFeeds cs := by
  induction cs with
  | nil => rfl
  | cons c cs ih =>
    rw [utf8_cons, List.count_append, ih]
    by_cases hc : c = '\n'
    · subst hc
      rw [countLineFeeds, countLineFeeds, List.count_cons_self, Nat.add_comm]
      rfl
    · rw [List.count_eq_zero.mpr (lineFeed_notMem_utf8EncodeChar hc), Nat.zero_add, countLineFeeds, countLineFeeds,
        List.count_cons_of_ne hc]

/-- The line of an offset is found by counting bytes. -/
theorem lineOf_eq_count (pre cs : List Char) :
    lineOf (pre ++ cs) (byteSize pre) = ((utf8 (pre ++ cs)).take (byteSize pre)).count 10 + 1 := by
  rw [lineOf_append, utf8_append, ← length_utf8, List.take_left, count_utf8]

theorem after_of_le (h : byteSize cs ≤ offset) : after offset cs = [] := by
  induction cs generalizing offset with
  | nil => rfl
  | cons c cs ih =>
    have hpos := c.utf8Size_pos
    rw [byteSize_cons] at h
    rw [after, if_neg (by omega)]
    exact ih (by omega)

/-- An offset past the end of a text is as good as its end. -/
theorem after_of_min (hsource : source = pre ++ cs) (hoffset : byteSize pre = min offset (byteSize source)) :
    after offset source = cs := by
  subst hsource
  by_cases hle : offset ≤ byteSize (pre ++ cs)
  · rw [Nat.min_eq_left hle] at hoffset
    rw [← hoffset, after_append]
  · have hend : byteSize pre = byteSize (pre ++ cs) := hoffset.trans (Nat.min_eq_right (Nat.le_of_not_le hle))
    rw [byteSize_append] at hend
    cases cs with
    | nil =>
      refine after_of_le ?_
      omega
    | cons c cs =>
      have hpos := c.utf8Size_pos
      rw [byteSize_cons] at hend
      omega

/-- From an offset at which the text can be cut, or one past the end, the first token is found: what
    is passed over up to it are white space and complete comments, it starts with neither, and there is
    no other such position. A search by bytes ends there and cuts the text only where it can be cut.
    The line is that of the token, which is found by counting the bytes of line feeds. -/
theorem tokenLine_of_first_token (hsource : source = pre ++ cs) (hoffset : byteSize pre = min offset (byteSize source)) :
    ∃ gap token, cs = gap ++ token ∧ Gap gap token ∧ StartsToken token ∧
      (∀ gap' token', cs = gap' ++ token' → Gap gap' token' → StartsToken token' → gap' = gap) ∧
      Finds source (byteSize pre) (byteSize (pre ++ gap)) ∧
      tokenLine source offset = lineOf source (byteSize (pre ++ gap)) ∧
      lineOf source (byteSize (pre ++ gap)) = ((utf8 source).take (byteSize (pre ++ gap))).count 10 + 1 := by
  obtain ⟨gap, token, hcs, hgap, htoken, hfinds⟩ := finds_token hsource
  have hwhole : source = (pre ++ gap) ++ token := by
    rw [hsource, hcs, List.append_assoc]
  have hfirst {gap' token' : List Char} (hcs' : cs = gap' ++ token') (hgap' : Gap gap' token')
      (htoken' : StartsToken token') : tokenFrom (cs.length + 1) cs = token' := by
    rw [hcs']
    exact tokenFrom_gap hgap' htoken' (Nat.lt_succ_self _)
  refine ⟨gap, token, hcs, hgap, htoken, ?_, hfinds, ?_, ?_⟩
  · intro gap' token' hcs' hgap' htoken'
    have htokens : token' = token := (hfirst hcs' hgap' htoken').symm.trans (hfirst hcs hgap htoken)
    rw [htokens, hcs] at hcs'
    exact (List.append_cancel_right hcs').symm
  · rw [tokenLine, after_of_min hsource hoffset, hfirst hcs hgap htoken, hwhole, lineOf_append, List.length_append,
      Nat.add_sub_cancel, List.take_left]
  · rw [hwhole]
    exact lineOf_eq_count (pre ++ gap) token

/-- A key after a letter of two bytes, a comment to the end of a line and one over two lines. -/
def commentedKey : List Char := "é # ü\n\t/* é\n*/ key = 1".toList

theorem tokenLine_of_first_token_commentedKey :
    ∃ gap token, " # ü\n\t/* é\n*/ key = 1".toList = gap ++ token ∧ Gap gap token ∧ StartsToken token ∧
      Finds commentedKey 2 (byteSize (['é'] ++ gap)) ∧
      tokenLine commentedKey 2 = lineOf commentedKey (byteSize (['é'] ++ gap)) := by
  have hsource : commentedKey = ['é'] ++ " # ü\n\t/* é\n*/ key = 1".toList := by decide +kernel
  have hoffset : byteSize ['é'] = min 2 (byteSize commentedKey) := by decide +kernel
  obtain ⟨gap, token, hcs, hgap, htoken, -, hfinds, hline, -⟩ := tokenLine_of_first_token hsource hoffset
  exact ⟨gap, token, hcs, hgap, htoken, hfinds, hline⟩

example : tokenLine commentedKey 2 = 3 := by decide +kernel

example : turn? commentedKey 1 = none ∧ turn? commentedKey 2 = some (.again 7) := by decide +kernel

end TagAudit.Snippet
