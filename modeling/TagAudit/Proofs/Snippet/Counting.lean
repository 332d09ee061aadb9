/-
  TagAudit.Proofs.Snippet.Counting — what the counter of braces makes of tokens.

  The counter reads line by line and takes quotes to end with the line. `linesFromHere?` is what
  it counts from the middle of a line on, so that one can follow it over a token at a time:
  where `step?` has a step, the braces counted are those that are open (`reads_step?`). In a text
  that is read token after token it so finds the outermost brace closed on the line on which it is
  (`linesToClose?_of_plain`).
-/

import TagAudit.Proofs.Hcl.Blocks
import TagAudit.Snippet

namespace TagAudit.Snippet.Braces

open Text Hcl

variable {b : Braces} {quoted : Bool} {c : Char} {cs : List Char}

/-! ## One character -/

@[simp] theorem feed_nil (b : Braces) (quoted : Bool) : b.feed quoted [] = (b, false) := rfl

section Comment
variable (h : b.inComment = true)
include h

@[simp] theorem feed_comment_end (quoted : Bool) (cs : List Char) :
    b.feed quoted ('*' :: '/' :: cs) = feed { b with inComment := false } quoted cs := if_pos h

theorem feed_comment (hend : ∀ ds, c = '*' → cs = '/' :: ds → False) :
    b.feed quoted (c :: cs) = b.feed quoted cs := by
  rw [feed.eq_def]
  simp only [h, if_true]

end Comment

section Text
variable (h : ¬ b.inComment)
include h

@[simp] theorem feed_quote (quoted : Bool) (cs : List Char) : b.feed quoted ('"' :: cs) = b.feed (!quoted) cs := by
  refine (if_neg h).trans ?_
  cases quoted <;> rfl

@[simp] theorem feed_escape (c : Char) (cs : List Char) : b.feed true ('\\' :: c :: cs) = b.feed true cs :=
  (if_neg h).trans rfl

theorem feed_quoted (hquote : c ≠ '"') (hslash : ∀ d ds, c = '\\' → cs = d :: ds → False) :
    b.feed true (c :: cs) = b.feed true cs := by
  rw [feed.eq_def]
  simp only [h, Bool.false_eq_true, if_false, if_true]

@[simp] theorem feed_hash (cs : List Char) : b.feed false ('#' :: cs) = (b, false) := (if_neg h).trans rfl

@[simp] theorem feed_slashes (cs : List Char) : b.feed false ('/' :: '/' :: cs) = (b, false) := (if_neg h).trans rfl

@[simp] theorem feed_openComment (cs : List Char) :
    b.feed false ('/' :: '*' :: cs) = feed { b with inComment := true } false cs := (if_neg h).trans rfl

@[simp] theorem feed_openBrace (cs : List Char) :
    b.feed false ('\x7b' :: cs) = feed { b with depth := b.depth + 1, opened := true } false cs := (if_neg h).trans rfl

@[simp] theorem feed_closeBrace (cs : List Char) :
    b.feed false ('\x7d' :: cs) =
      if b.opened then
        if b.depth ≤ 1 then ({ b with depth := 0 }, true) else feed { b with depth := b.depth - 1 } false cs
      else b.feed false cs := (if_neg h).trans rfl

theorem feed_text (hquote : c ≠ '"') (hhash : c ≠ '#') (hslash : ∀ ds, c = '/' → cs = '/' :: ds → False)
    (hstar : ∀ ds, c = '/' → cs = '*' :: ds → False) (hopen : c ≠ '\x7b') (hclose : c ≠ '\x7d') :
    b.feed false (c :: cs) = b.feed false cs := by
  rw [feed.eq_def]
  simp [*]

end Text

theorem head_of_append {d a : Char} {ds : List Char} (h : cs ++ [a] = d :: ds) (hd : d ≠ a) :
    ∃ ds', cs = d :: ds' := by
  cases cs with
  | nil => exact absurd (List.cons.inj h).1.symm hd
  | cons e cs => exact ⟨cs, congrArg (· :: cs) (List.cons.inj h).1⟩

/-- A carriage return at the end of a line changes nothing. -/
theorem feed_carriageReturn (b : Braces) (quoted : Bool) (l : List Char) :
    b.feed quoted (l ++ ['\r']) = b.feed quoted l := by
  refine feed.induct (fun b quoted l => b.feed quoted (l ++ ['\r']) = b.feed quoted l) ?lineEnd ?commentEnd ?comment
    ?escape ?closingQuote ?quoted ?openingQuote ?hash ?slashes ?openComment ?openBrace ?lastBrace ?closeBrace ?strayBrace
    ?text b quoted l
  case lineEnd =>
    intro b quoted
    show b.feed quoted ['\r'] = b.feed quoted []
    cases h : b.inComment with
    | true => exact feed_comment h (by simp)
    | false =>
      have h : ¬ b.inComment := by simp [h]
      cases quoted with
      | true => exact feed_quoted h (by decide) (by simp)
      | false => exact feed_text h (by decide) (by decide) (by simp) (by simp) (by decide) (by decide)
  case commentEnd =>
    intro b quoted h cs ih
    simp [h, ih]
  case comment =>
    intro b quoted c h cs hend ih
    rw [List.cons_append, feed_comment h, feed_comment h hend, ih]
    intro ds hc hcs
    obtain ⟨ds', hcs⟩ := head_of_append hcs (by decide)
    exact hend ds' hc hcs
  case escape =>
    intro b h c cs ih
    simp [h, ih]
  case closingQuote =>
    intro b h cs ih
    simp [h, ih]
  case quoted =>
    intro b c h cs hslash hquote ih
    rw [feed_quoted h hquote hslash]
    cases cs with
    | nil =>
      by_cases hc : c = '\\'
      · exact hc ▸ feed_escape h '\r' []
      · rw [List.cons_append, feed_quoted h hquote fun _ _ h _ => hc h, ih]
    | cons d cs =>
      rw [List.cons_append, feed_quoted h hquote fun _ _ hc _ => hslash d cs hc rfl, ih]
  case openingQuote =>
    intro b quoted h hq cs ih
    obtain rfl := eq_false_of_ne_true hq
    simp [h, ih]
  case hash =>
    intro b quoted cs h hq
    obtain rfl := eq_false_of_ne_true hq
    simp [h]
  case slashes =>
    intro b quoted h hq cs
    obtain rfl := eq_false_of_ne_true hq
    simp [h]
  case openComment =>
    intro b quoted h hq cs ih
    obtain rfl := eq_false_of_ne_true hq
    simp [h, ih]
  case openBrace =>
    intro b quoted h hq cs ih
    obtain rfl := eq_false_of_ne_true hq
    simpa [h] using ih
  case lastBrace =>
    intro b quoted h hq cs hopened hdepth
    obtain rfl := eq_false_of_ne_true hq
    simp [h, hopened, hdepth]
  case closeBrace =>
    intro b quoted h hq cs hopened hdepth ih
    obtain rfl := eq_false_of_ne_true hq
    simpa [h, hopened, hdepth] using ih
  case strayBrace =>
    intro b quoted h hq cs hopened ih
    obtain rfl := eq_false_of_ne_true hq
    simp [h, hopened, ih]
  case text =>
    intro b quoted c h hq cs hquote hhash hslash hstar hopen hclose ih
    obtain rfl := eq_false_of_ne_true hq
    rw [List.cons_append, feed_text h hquote hhash ?_ ?_ hopen hclose, feed_text h hquote hhash hslash hstar hopen hclose, ih]
    · intro ds hc hcs
      obtain ⟨ds', hcs⟩ := head_of_append hcs (by decide)
      exact hslash ds' hc hcs
    · intro ds hc hcs
      obtain ⟨ds', hcs⟩ := head_of_append hcs (by decide)
      exact hstar ds' hc hcs

/-! ## From the middle of a line on -/

/-- Number of lines up to the one that closes the outermost brace, from what was found on the line
    before its end. -/
def linesFromEnd? : Braces × Bool → List Char → Option Nat
  | (_, true), _ => some 1
  | (_, false), [] => none
  | (b, false), _ :: next => (b.linesToClose? (lines next)).map (· + 1)

/-- `linesToClose?` from the middle of a line on, perhaps inside quotes. -/
def linesFromHere? (b : Braces) (quoted : Bool) (cs : List Char) : Option Nat :=
  linesFromEnd? (b.feed quoted (cs.takeWhile (· != '\n'))) (cs.dropWhile (· != '\n'))

theorem linesToClose?_cons (b : Braces) (l next : List Char) :
    b.linesToClose? (l :: lines next) = linesFromEnd? (b.feed false l) ('\n' :: next) := by
  rw [linesToClose?]
  split <;> simp only [linesFromEnd?, *]

theorem linesToClose?_singleton (b : Braces) (l : List Char) :
    b.linesToClose? [l] = linesFromEnd? (b.feed false l) [] := by
  rw [linesToClose?]
  split <;> simp only [linesFromEnd?, linesToClose?, Option.map_none, *]

theorem takeWhile_lineFeed (cs : List Char) : ('\n' :: cs).takeWhile (· != '\n') = [] := rfl

theorem dropWhile_lineFeed (cs : List Char) : ('\n' :: cs).dropWhile (· != '\n') = '\n' :: cs := rfl

theorem takeWhile_of_ne (hc : c ≠ '\n') (cs : List Char) :
    (c :: cs).takeWhile (· != '\n') = c :: cs.takeWhile (· != '\n') :=
  List.takeWhile_cons_of_pos (by simpa using hc)

theorem dropWhile_of_ne (hc : c ≠ '\n') (cs : List Char) :
    (c :: cs).dropWhile (· != '\n') = cs.dropWhile (· != '\n') :=
  List.dropWhile_cons_of_pos (by simpa using hc)

theorem linesToClose?_linesFrom (b : Braces) (line cs : List Char) :
    b.linesToClose? (linesFrom line cs) =
      linesFromEnd? (b.feed false (line.reverse ++ cs.takeWhile (· != '\n'))) (cs.dropWhile (· != '\n')) := by
  induction cs generalizing line with
  | nil =>
    rw [linesFrom]
    split
    · rename_i hline
      rw [List.isEmpty_iff.mp hline]
      rfl
    · rw [linesToClose?_singleton, List.takeWhile_nil, List.append_nil, List.dropWhile_nil]
  | cons c cs ih =>
    by_cases hc : c = '\n'
    · rw [hc, takeWhile_lineFeed, dropWhile_lineFeed, List.append_nil]
      by_cases hreturn : ∃ l, line = '\r' :: l
      · obtain ⟨l, rfl⟩ := hreturn
        rw [linesFrom, List.reverse_cons, feed_carriageReturn]
        exact linesToClose?_cons b l.reverse cs
      · rw [linesFrom]
        · exact linesToClose?_cons b line.reverse cs
        · exact fun l hline => hreturn ⟨l, hline⟩
    · rw [linesFrom, ih, takeWhile_of_ne hc, dropWhile_of_ne hc, List.reverse_cons, List.append_assoc, List.singleton_append]
      exact hc

theorem linesToClose?_lines (b : Braces) (cs : List Char) : b.linesToClose? (lines cs) = b.linesFromHere? false cs :=
  linesToClose?_linesFrom b [] cs

theorem linesFromHere?_append {pre : List Char} (hpre : ∀ c ∈ pre, c ≠ '\n') (b : Braces) (quoted : Bool)
    (cs : List Char) :
    b.linesFromHere? quoted (pre ++ cs) =
      linesFromEnd? (b.feed quoted (pre ++ cs.takeWhile (· != '\n'))) (cs.dropWhile (· != '\n')) := by
  have hpass : ∀ c ∈ pre, (c != '\n') = true := fun c hc => bne_iff_ne.mpr (hpre c hc)
  rw [linesFromHere?, List.takeWhile_append_of_pos hpass, List.dropWhile_append_of_pos hpass]

theorem countLineFeeds_append_of_ne {pre : List Char} (hpre : ∀ c ∈ pre, c ≠ '\n') (cs : List Char) :
    countLineFeeds (pre ++ cs) = countLineFeeds cs := by
  have hnone : pre.count '\n' = 0 := List.count_eq_zero.mpr fun h => hpre _ h rfl
  rw [countLineFeeds, List.count_append, hnone, Nat.zero_add, ← countLineFeeds]

/-! ## Reading on -/

/-- Counting from `cs` on, the outermost brace closes on the line where it does counting from `rest` on. -/
def Reads (b : Braces) (quoted : Bool) (cs : List Char) (b' : Braces) (quoted' : Bool) (rest : List Char) : Prop :=
  ∃ k, countLineFeeds cs = countLineFeeds rest + k ∧
    b.linesFromHere? quoted cs = (b'.linesFromHere? quoted' rest).map (· + k)

namespace Reads

variable {b' b'' : Braces} {quoted' quoted'' : Bool} {mid rest : List Char}

theorem refl (b : Braces) (quoted : Bool) (cs : List Char) : Reads b quoted cs b quoted cs := ⟨0, rfl, by simp⟩

theorem trans (h : Reads b quoted cs b' quoted' mid) (h' : Reads b' quoted' mid b'' quoted'' rest) :
    Reads b quoted cs b'' quoted'' rest := by
  obtain ⟨k, hk, hlines⟩ := h
  obtain ⟨k', hk', hlines'⟩ := h'
  refine ⟨k' + k, by omega, ?_⟩
  rw [hlines, hlines', Option.map_map]
  exact congrArg (Option.map · _) (funext fun n => Nat.add_assoc n k' k)

/-- Characters that do not end the line. -/
theorem append (pre : List Char) (hpre : ∀ c ∈ pre, c ≠ '\n')
    (h : b.feed quoted (pre ++ cs.takeWhile (· != '\n')) = b'.feed quoted' (cs.takeWhile (· != '\n'))) :
    Reads b quoted (pre ++ cs) b' quoted' cs := by
  refine ⟨0, countLineFeeds_append_of_ne hpre cs, ?_⟩
  rw [linesFromHere?_append hpre, h, ← linesFromHere?]
  simp

theorem char (hc : c ≠ '\n')
    (h : b.feed quoted (c :: cs.takeWhile (· != '\n')) = b'.feed quoted' (cs.takeWhile (· != '\n'))) :
    Reads b quoted (c :: cs) b' quoted' cs := append [c] (by simpa using hc) h

/-- A line end after characters that change nothing. -/
theorem lineFeed {pre : List Char} (hpre : ∀ c ∈ pre, c ≠ '\n') (hfeed : b.feed quoted pre = (b, false))
    (cs : List Char) : Reads b quoted (pre ++ '\n' :: cs) b false cs := by
  refine ⟨1, (countLineFeeds_append_of_ne hpre _).trans List.count_cons_self, ?_⟩
  rw [linesFromHere?_append hpre, takeWhile_lineFeed, dropWhile_lineFeed, List.append_nil, hfeed, linesFromEnd?,
    linesToClose?_lines]

theorem newLine (b : Braces) (quoted : Bool) (cs : List Char) : Reads b quoted ('\n' :: cs) b false cs :=
  lineFeed (List.forall_mem_nil _) (feed_nil b quoted) cs

theorem lineEnd {pre : List Char} (hpre : ∀ c ∈ pre, c ≠ '\n') (hfeed : b.feed quoted pre = (b, false))
    (h : afterLineEnd? cs = some rest) : Reads b quoted (pre ++ cs) b false rest := by
  unfold afterLineEnd? at h
  split at h
  · exact Option.some.inj h ▸ lineFeed hpre hfeed _
  · rename_i ds
    have hpre' : ∀ c ∈ pre ++ ['\r'], c ≠ '\n' := List.forall_mem_append.mpr ⟨hpre, by simp⟩
    have hread := lineFeed hpre' ((feed_carriageReturn b quoted pre).trans hfeed) ds
    rw [List.append_assoc] at hread
    exact Option.some.inj h ▸ hread
  · contradiction

/-- Two marks that end the reading of their line. -/
theorem marks (mark mark' : List Char) (hmark : ∀ c ∈ mark, c ≠ '\n') (hmark' : ∀ c ∈ mark', c ≠ '\n')
    (hfeed : ∀ l, b.feed quoted (mark ++ l) = (b, false)) (hfeed' : ∀ l, b.feed quoted (mark' ++ l) = (b, false))
    (cs : List Char) : Reads b quoted (mark ++ cs) b quoted (mark' ++ cs) := by
  refine ⟨0, (countLineFeeds_append_of_ne hmark cs).trans (countLineFeeds_append_of_ne hmark' cs).symm, ?_⟩
  rw [linesFromHere?_append hmark, linesFromHere?_append hmark', hfeed, hfeed']
  simp

end Reads

/-! ## Comments -/

theorem head_of_takeWhile {p : Char → Bool} {d : Char} {ds : List Char} (h : cs.takeWhile p = d :: ds) :
    ∃ ds', cs = d :: ds' := by
  cases cs with
  | nil => simp at h
  | cons c cs =>
    rw [List.takeWhile_cons] at h
    split at h
    · exact ⟨cs, congrArg (· :: cs) (List.cons.inj h).1⟩
    · contradiction

variable {rest : List Char}

theorem reads_afterComment? (h : b.inComment) (hend : Hcl.afterComment? cs = some rest) :
    Reads b false cs { b with inComment := false } false rest := by
  induction cs using Hcl.afterComment?_induction with
  | nil => contradiction
  | mark cs => exact Option.some.inj hend ▸ .append ['*', '/'] (by simp) (feed_comment_end h _ _)
  | inComment c cs hstar ih =>
    rw [Hcl.afterComment?_cons hstar] at hend
    by_cases hc : c = '\n'
    · exact hc ▸ (Reads.newLine b false cs).trans (ih hend)
    · refine (Reads.char hc (feed_comment h fun ds hc hds => ?_)).trans (ih hend)
      obtain ⟨ds', hcs⟩ := head_of_takeWhile hds
      exact hstar ds' hc hcs

/-- From a mark that ends the reading of its line to the end of the line. -/
theorem reads_lineComment (mark : List Char) (hmark : ∀ c ∈ mark, c ≠ '\n')
    (hfeed : ∀ l, b.feed false (mark ++ l) = (b, false)) (hend : atLineEnd? cs = some rest) :
    Reads b false (mark ++ cs) b false rest := by
  have hrest : countLineFeeds cs = countLineFeeds rest ∧ cs.dropWhile (· != '\n') = rest.dropWhile (· != '\n') ∧
      b.feed false (rest.takeWhile (· != '\n')) = (b, false) := by
    induction cs using atLineEnd?_induction with
    | nil => exact Option.some.inj hend ▸ ⟨rfl, rfl, rfl⟩
    | lineFeed cs => exact Option.some.inj hend ▸ ⟨rfl, rfl, rfl⟩
    | lineEnd cs => exact Option.some.inj hend ▸ ⟨rfl, rfl, feed_carriageReturn b false []⟩
    | carriageReturn cs hcs =>
      rw [atLineEnd?_carriageReturn hcs] at hend
      contradiction
    | inLine c cs hfeed hreturn ih =>
      rw [atLineEnd?_cons hfeed hreturn] at hend
      obtain ⟨hcount, hdrop, hrest⟩ := ih hend
      exact ⟨(List.count_cons_of_ne hfeed).trans hcount, (dropWhile_of_ne hfeed cs).trans hdrop, hrest⟩
  obtain ⟨hcount, hdrop, hrest⟩ := hrest
  refine ⟨0, (countLineFeeds_append_of_ne hmark cs).trans hcount, ?_⟩
  rw [linesFromHere?_append hmark, hfeed, linesFromHere?, hrest, hdrop]
  simp

section
variable (h : ¬ b.inComment)
include h

theorem reads_commentEnd? (hend : commentEnd? cs = some rest) : Reads b false cs b false rest := by
  unfold commentEnd? at hend
  split at hend
  · exact reads_lineComment ['#'] (by simp) (feed_hash h) hend
  · exact reads_lineComment ['/', '/'] (by simp) (feed_slashes h) hend
  · rename_i cs
    have hclosed : { b with inComment := false } = b := by rw [← eq_false_of_ne_true h]
    have hcomment : Reads { b with inComment := true } false cs b false rest := hclosed ▸ reads_afterComment? rfl hend
    exact (Reads.append ['/', '*'] (by simp) (feed_openComment h _)).trans hcomment
  · contradiction

/-! ## Single characters -/

theorem reads_quotedChar (hquote : c ≠ '"') (hslash : ∀ d ds, c = '\\' → cs = d :: ds → False) (hline : c ≠ '\n') :
    Reads b true (c :: cs) b true cs := by
  refine .char hline (feed_quoted h hquote fun d ds hc hds => ?_)
  obtain ⟨ds', hcs⟩ := head_of_takeWhile hds
  exact hslash d ds' hc hcs

theorem reads_textChar (hquote : c ≠ '"') (hhash : c ≠ '#') (hslash : ∀ ds, c = '/' → cs = '/' :: ds → False)
    (hstar : ∀ ds, c = '/' → cs = '*' :: ds → False) (hopen : c ≠ '\x7b') (hclose : c ≠ '\x7d') :
    Reads b false (c :: cs) b false cs := by
  by_cases hline : c = '\n'
  · exact hline ▸ .newLine b false cs
  · refine .char hline (feed_text h hquote hhash (fun ds hc hds => ?_) (fun ds hc hds => ?_) hopen hclose)
    · obtain ⟨ds', hcs⟩ := head_of_takeWhile hds
      exact hslash ds' hc hcs
    · obtain ⟨ds', hcs⟩ := head_of_takeWhile hds
      exact hstar ds' hc hcs

theorem reads_of_opensText (hopens : opensText (c :: cs) = false) (hquote : c ≠ '"') (hopen : c ≠ '\x7b')
    (hclose : c ≠ '\x7d') : Reads b false (c :: cs) b false cs := by
  refine reads_textChar h hquote ?_ ?_ ?_ hopen hclose
  · rintro rfl
    contradiction
  · rintro ds rfl rfl
    contradiction
  · rintro ds rfl rfl
    contradiction

theorem reads_mark (hc : c = '$' ∨ c = '%') (quoted : Bool) (cs : List Char) : Reads b quoted (c :: cs) b quoted cs := by
  obtain rfl | rfl := hc <;> cases quoted
  case inl.true | inr.true => exact reads_quotedChar h (by decide) (by simp) (by decide)
  case inl.false | inr.false => exact reads_of_opensText h rfl (by decide) (by decide) (by decide)

theorem reads_ordinary (hread : Ordinary cs rest) : Reads b false cs b false rest := by
  obtain ⟨pre, rfl, hpre⟩ := hread
  induction pre with
  | nil => exact .refl b false rest
  | cons c pre ih =>
    obtain ⟨hc, hpre⟩ := List.forall_mem_cons.mp hpre
    obtain ⟨hopens, hquote, hopen, hclose⟩ := isOrdinary_spec hc
    exact (reads_of_opensText h (hopens _) hquote hopen hclose).trans (ih hpre)

end

/-! ## What is open -/

/-- How many of the braces that are open the counter has counted: those outside quotes, and those
    in a text whose quotes stand inside others. -/
def counted : List Opener → Nat
  | [] => 0
  | .quote _ :: st => counted st
  | .brace :: st => if oddQuotes st then counted st else counted st + 1
  | .heredoc _ _ depth _ :: st => counted st + depth

/-- The counter where `st` is open. -/
def counting (opened : Bool) (st : List Opener) : Braces := ⟨counted st, opened, false⟩

/-- What the counter makes of the next character depends on it too: a backslash in quotes, or the
    mark of a comment. -/
def pending : List Opener → List Char
  | .heredoc _ _ _ .escaped :: _ => ['\\']
  | .heredoc _ _ _ .comment :: _ => ['#']
  | _ => []

/-- Where the outermost brace was opened it is still open, and where it was not none is. -/
def Within (opened : Bool) (st : List Opener) : Prop := opened = true ↔ 1 ≤ counted st

/-- The counter is where reading token after token is. -/
def InStep (opened : Bool) (st : List Opener) (cs : List Char) (st' : List Opener) (rest : List Char) : Prop :=
  Reads (counting opened st) (oddQuotes st) (pending st ++ cs) (counting opened st') (oddQuotes st') (pending st' ++ rest)

variable {opened : Bool} {st st' : List Opener}

theorem pending_of_settled (h : settled st) : pending st = [] := by
  unfold pending
  split
  · contradiction
  · contradiction
  · rfl

theorem pending_ne (st : List Opener) : ∀ c ∈ pending st, c ≠ '\n' := by
  unfold pending
  split <;> simp

/-- What is pending changes nothing at the end of a line. -/
theorem feed_pending (h : ¬ b.inComment) (st : List Opener) : b.feed (oddQuotes st) (pending st) = (b, false) := by
  unfold pending
  split
  · exact (feed_quoted h (by decide) (by simp)).trans (feed_nil b true)
  · exact feed_hash h []
  · exact feed_nil b _

theorem counting_not_inComment (opened : Bool) (st : List Opener) : ¬ (counting opened st).inComment := Bool.false_ne_true

/-! ## Tokens -/

theorem reads_openBrace (hst : Within opened (.brace :: st)) (cs : List Char) :
    Reads (counting opened st) (oddQuotes st) ('\x7b' :: cs) (counting opened (.brace :: st)) (oddQuotes st) cs := by
  have h := counting_not_inComment opened st
  cases hodd : oddQuotes st with
  | true =>
    have heq : counting opened (.brace :: st) = counting opened st := by simp [counting, counted, hodd]
    exact heq ▸ reads_quotedChar h (by decide) (by simp) (by decide)
  | false =>
    have hcounted : counted (.brace :: st) = counted st + 1 := by simp [counted, hodd]
    obtain rfl : opened = true := hst.mpr (by omega)
    have heq : counting true (.brace :: st) = ⟨counted st + 1, true, false⟩ := by rw [counting, hcounted]
    exact heq ▸ .char (by decide) (feed_openBrace h _)

/-- A closing brace that leaves one open. -/
theorem reads_counted (n : Nat) (hn : 1 ≤ n) (cs : List Char) :
    Reads ⟨n + 1, true, false⟩ false ('\x7d' :: cs) ⟨n, true, false⟩ false cs := by
  refine .char (by decide) ?_
  rw [feed_closeBrace Bool.false_ne_true, if_pos rfl, if_neg (Nat.not_le.mpr (Nat.lt_succ_of_le hn))]
  rfl

theorem reads_closeBrace (hst : Within opened (.brace :: st)) (hst' : Within opened st) (cs : List Char) :
    Reads (counting opened (.brace :: st)) (oddQuotes st) ('\x7d' :: cs) (counting opened st) (oddQuotes st) cs := by
  cases hodd : oddQuotes st with
  | true =>
    have heq : counting opened (.brace :: st) = counting opened st := by simp [counting, counted, hodd]
    exact heq ▸ reads_quotedChar (counting_not_inComment opened st) (by decide) (by simp) (by decide)
  | false =>
    have hcounted : counted (.brace :: st) = counted st + 1 := by simp [counted, hodd]
    obtain rfl : opened = true := hst.mpr (by omega)
    have heq : counting true (.brace :: st) = ⟨counted st + 1, true, false⟩ := by rw [counting, hcounted]
    exact heq ▸ reads_counted (counted st) (hst'.mp rfl) cs

section Heredoc
variable {delimiter : List Char} {directives depth depth' : Nat} {mode mode' : Mode}

theorem inStep_textStep? (hstep : textStep? depth mode c cs = some (depth', mode'))
    (hst : Within opened (.heredoc delimiter directives depth mode :: st))
    (hst' : Within opened (.heredoc delimiter directives depth' mode' :: st)) :
    InStep opened (.heredoc delimiter directives depth mode :: st) (c :: cs)
      (.heredoc delimiter directives depth' mode' :: st) cs := by
  have h := counting_not_inComment opened (.heredoc delimiter directives depth mode :: st)
  unfold textStep? at hstep
  split at hstep
  · -- the end of the line
    obtain ⟨rfl, rfl⟩ := Prod.mk.inj (Option.some.inj hstep)
    exact .lineFeed (pending_ne _) (feed_pending h _) cs
  · -- in a comment
    rename_i hline
    obtain ⟨rfl, rfl⟩ := Prod.mk.inj (Option.some.inj hstep)
    exact .marks ['#', c] ['#'] (by simpa using hline) (by simp) (fun _ => feed_hash h _) (feed_hash h) cs
  · -- after a backslash in quotes
    rename_i hline
    obtain ⟨rfl, rfl⟩ := Prod.mk.inj (Option.some.inj hstep)
    exact .append ['\\', c] (by simpa using hline) (feed_escape h c _)
  · -- the closing quote, a backslash, or anything else in quotes
    obtain ⟨rfl, rfl⟩ := Prod.mk.inj (Option.some.inj hstep)
    exact .char (by decide) (feed_quote h true _)
  · obtain ⟨rfl, rfl⟩ := Prod.mk.inj (Option.some.inj hstep)
    exact .refl _ true _
  · rename_i hline hquote hslash
    obtain ⟨rfl, rfl⟩ := Prod.mk.inj (Option.some.inj hstep)
    exact reads_quotedChar h hquote (fun _ _ hc _ => hslash hc) hline
  · -- an opening quote
    obtain ⟨rfl, rfl⟩ := Prod.mk.inj (Option.some.inj hstep)
    exact .char (by decide) (feed_quote h false _)
  · -- the mark of a comment
    obtain ⟨rfl, rfl⟩ := Prod.mk.inj (Option.some.inj hstep)
    exact .refl _ false _
  · rename_i ds
    obtain ⟨rfl, rfl⟩ := Prod.mk.inj (Option.some.inj hstep)
    exact .marks ['/', '/'] ['#', '/'] (by simp) (by simp) (feed_slashes h) (fun _ => feed_hash h _) ds
  · contradiction
  · -- an opening brace
    obtain ⟨rfl, rfl⟩ := Prod.mk.inj (Option.some.inj hstep)
    obtain rfl : opened = true := hst'.mpr (Nat.le_add_left 1 _)
    exact .char (by decide) (feed_openBrace h _)
  · -- a closing brace
    split at hstep
    · contradiction
    · rename_i hdepth
      obtain ⟨n, rfl⟩ := Nat.exists_eq_succ_of_ne_zero hdepth
      obtain ⟨rfl, rfl⟩ := Prod.mk.inj (Option.some.inj hstep)
      obtain rfl : opened = true := hst.mpr (Nat.le_add_left 1 _)
      exact reads_counted (counted st + n) (hst'.mp rfl) cs
  · rename_i hline hquote hhash hopen hclose hslash hstar
    obtain ⟨rfl, rfl⟩ := Prod.mk.inj (Option.some.inj hstep)
    exact reads_textChar h hquote hhash hslash hstar hopen hclose

theorem inStep_heredocChar? (hstep : heredocChar? delimiter directives depth mode st c cs = some (st', rest))
    (hst : Within opened (.heredoc delimiter directives depth mode :: st)) (hst' : Within opened st') :
    InStep opened (.heredoc delimiter directives depth mode :: st) (c :: cs) st' rest := by
  obtain ⟨depth', mode', htext, rfl, rfl⟩ := heredocChar?_eq_some hstep
  exact inStep_textStep? htext hst hst'

/-- A mark that stands for itself because its first character is there twice. -/
theorem inStep_doubled (hc : c = '$' ∨ c = '%')
    (hstep : heredocChar? delimiter directives depth mode st '\x7b' cs = some (st', rest))
    (hst : Within opened (.heredoc delimiter directives depth mode :: st)) (hst' : Within opened st') :
    InStep opened (.heredoc delimiter directives depth mode :: st) (c :: c :: '\x7b' :: cs) st' rest := by
  obtain ⟨mode₁, hfirst, hsecond, hbrace⟩ : ∃ mode₁,
      (∀ ds, textStep? depth mode c ds = some (depth, mode₁)) ∧ (∀ ds, textStep? depth mode₁ c ds = some (depth, mode₁)) ∧
        textStep? depth mode₁ '\x7b' cs = textStep? depth mode '\x7b' cs := by
    obtain rfl | rfl := hc <;> cases mode
    case inl.escaped | inr.escaped => exact ⟨.quoted, fun _ => rfl, fun _ => rfl, rfl⟩
    all_goals exact ⟨_, fun _ => rfl, fun _ => rfl, rfl⟩
  have hbrace : heredocChar? delimiter directives depth mode₁ st '\x7b' cs = some (st', rest) := by
    rw [heredocChar?, hbrace, ← heredocChar?, hstep]
  have hmode : Within opened (.heredoc delimiter directives depth mode₁ :: st) := hst
  have hread := (inStep_textStep? (hfirst (c :: '\x7b' :: cs)) hst hmode).trans
    (inStep_textStep? (hsecond ('\x7b' :: cs)) hmode hmode)
  exact hread.trans (inStep_heredocChar? hbrace hmode hst')

theorem inStep_heredocStep? (hstep : heredocStep? delimiter directives depth mode st cs = some (st', rest))
    (hst : Within opened (.heredoc delimiter directives depth mode :: st)) (hst' : Within opened st') :
    InStep opened (.heredoc delimiter directives depth mode :: st) cs st' rest := by
  have h := counting_not_inComment opened (.heredoc delimiter directives depth mode :: st)
  unfold heredocStep? at hstep
  split at hstep
  · split at hstep
    · rename_i hend
      simp only [Bool.and_eq_true, decide_eq_true_eq, Bool.not_eq_true'] at hend
      obtain ⟨⟨rfl, heven⟩, hcode⟩ := hend
      obtain ⟨mid, hline, hstep⟩ := Option.map_eq_some_iff.mp hstep
      obtain ⟨rfl, rfl⟩ := Prod.mk.inj hstep
      have hread := Reads.lineEnd (pending_ne (.heredoc delimiter directives 0 mode :: st)) (feed_pending h _) hline
      rw [InStep, heven, pending_of_settled (settled_of_code hcode)]
      exact hread
    · contradiction
  · split at hstep
    · contradiction
    · exact inStep_doubled (.inl rfl) hstep hst hst'
    · exact inStep_doubled (.inr rfl) hstep hst hst'
    · -- an interpolation
      split at hstep
      · rename_i hsettled
        obtain ⟨rfl, rfl⟩ := Prod.mk.inj (Option.some.inj hstep)
        rw [InStep, pending_of_settled hsettled]
        exact (reads_mark h (.inl rfl) _ _).trans (reads_openBrace hst' _)
      · contradiction
    · -- a directive
      split at hstep
      · rename_i hsettled
        obtain ⟨n, -, hstep⟩ := Option.map_eq_some_iff.mp hstep
        obtain ⟨rfl, rfl⟩ := Prod.mk.inj hstep
        rw [InStep, pending_of_settled hsettled]
        exact (reads_mark h (.inr rfl) _ _).trans (reads_openBrace hst' _)
      · contradiction
    · exact inStep_heredocChar? hstep hst hst'

end Heredoc

section Quotes
variable {directives : Nat}

/-- A mark that stands for itself, where the counter knows of the quotes. -/
theorem reads_doubled (h : ¬ b.inComment) (hc : c = '$' ∨ c = '%') (cs : List Char) :
    Reads b true (c :: c :: '\x7b' :: cs) b true cs :=
  ((reads_mark h hc true _).trans (reads_mark h hc true _)).trans (reads_quotedChar h (by decide) (by simp) (by decide))

theorem inStep_literalStep? (hstep : literalStep? directives st cs = some (st', rest)) (hst' : Within opened st') :
    InStep opened (.quote directives :: st) cs st' rest := by
  have h := counting_not_inComment opened st
  have hquotes : oddQuotes (.quote directives :: st) = !oddQuotes st := rfl
  unfold literalStep? at hstep
  split at hstep
  · contradiction
  · -- the closing quote
    split at hstep
    · contradiction
    · rename_i hcode
      simp only [Bool.or_eq_true, not_or, Bool.not_eq_true] at hcode
      obtain ⟨rfl, rfl⟩ := Prod.mk.inj (Option.some.inj hstep)
      rw [InStep, pending_of_settled (settled_of_code hcode.2), hquotes]
      refine .char (by decide) ((feed_quote (counting_not_inComment opened (.quote directives :: st)) _ _).trans ?_)
      rw [Bool.not_not]
      rfl
  · contradiction
  · -- an escape
    rename_i c ds
    split at hstep
    · contradiction
    · rename_i hline
      simp only [Bool.or_eq_true, decide_eq_true_eq, not_or, Bool.not_eq_true, not_not] at hline
      obtain ⟨⟨rfl, hodd⟩, hline⟩ := hline
      obtain ⟨rfl, rfl⟩ := Prod.mk.inj (Option.some.inj hstep)
      rw [InStep, hquotes, hodd]
      exact .append ['\\', c] (by simpa using hline) (feed_escape h c _)
  · split at hstep
    · contradiction
    · rename_i hodd
      obtain ⟨rfl, rfl⟩ := Prod.mk.inj (Option.some.inj hstep)
      rw [InStep, hquotes, eq_false_of_ne_true hodd]
      exact reads_doubled h (.inl rfl) _
  · split at hstep
    · contradiction
    · rename_i hodd
      obtain ⟨rfl, rfl⟩ := Prod.mk.inj (Option.some.inj hstep)
      rw [InStep, hquotes, eq_false_of_ne_true hodd]
      exact reads_doubled h (.inr rfl) _
  · -- an interpolation
    obtain ⟨rfl, rfl⟩ := Prod.mk.inj (Option.some.inj hstep)
    exact (reads_mark h (.inl rfl) _ _).trans (reads_openBrace hst' _)
  · -- a directive
    obtain ⟨n, -, hstep⟩ := Option.map_eq_some_iff.mp hstep
    obtain ⟨rfl, rfl⟩ := Prod.mk.inj hstep
    exact (reads_mark h (.inr rfl) _ _).trans (reads_openBrace hst' _)
  · rename_i c ds hquote hline hslash _ _ _ _
    split at hstep
    · contradiction
    · rename_i hharmless
      obtain ⟨rfl, rfl⟩ := Prod.mk.inj (Option.some.inj hstep)
      rw [InStep, hquotes]
      cases hodd : oddQuotes st with
      | true =>
        obtain ⟨hopens, hquote, hopen, hclose⟩ := isHarmless_cons.mp (by simpa [hodd] using hharmless)
        exact reads_of_opensText h hopens hquote hopen hclose
      | false => exact reads_quotedChar h hquote hslash hline

end Quotes

theorem inStep_codeStep? (hcode : inLiteral st = false) (hstep : codeStep? st cs = some (st', rest))
    (hst : Within opened st) (hst' : Within opened st') : InStep opened st cs st' rest := by
  have h := counting_not_inComment opened st
  rw [InStep, pending_of_settled (settled_of_code hcode)]
  unfold codeStep? at hstep
  split at hstep
  · contradiction
  · -- a quote
    obtain ⟨rfl, rfl⟩ := Prod.mk.inj (Option.some.inj hstep)
    exact .char (by decide) (feed_quote h _ _)
  · -- an opening brace
    obtain ⟨rfl, rfl⟩ := Prod.mk.inj (Option.some.inj hstep)
    exact reads_openBrace hst' _
  · -- a closing brace
    split at hstep
    · split at hstep
      · rename_i hsettled
        obtain ⟨rfl, rfl⟩ := Prod.mk.inj (Option.some.inj hstep)
        rw [pending_of_settled hsettled]
        exact reads_closeBrace hst hst' _
      · contradiction
    · contradiction
  · contradiction
  · -- a heredoc
    rename_i ds
    split at hstep
    · contradiction
    · rename_i hodd
      obtain ⟨⟨delimiter, lines⟩, hlines, hstep⟩ := Option.map_eq_some_iff.mp hstep
      obtain ⟨rfl, rfl⟩ := Prod.mk.inj hstep
      obtain ⟨name, mid, hname, hline, -⟩ := heredocLines?_eq_some hlines
      have hfirst := ((Ordinary.of_dash ds).trans (.of_ident hname)).trans (.of_afterLineEnd? hline)
      have hmark (cs : List Char) : Reads (counting opened st) false ('<' :: cs) (counting opened st) false cs :=
        reads_textChar h (by decide) (by decide) (by simp) (by simp) (by decide) (by decide)
      rw [eq_false_of_ne_true hodd]
      exact ((hmark _).trans (hmark _)).trans (reads_ordinary h hfirst)
  · rename_i c ds hquote hopen hclose hslash hheredoc
    split at hstep
    · -- inside quotes
      rename_i hodd
      split at hstep
      · contradiction
      · rename_i hplain
        simp only [Bool.or_eq_true, decide_eq_true_eq, not_or] at hplain
        obtain ⟨hline, hopens⟩ := hplain
        obtain ⟨rfl, rfl⟩ := Prod.mk.inj (Option.some.inj hstep)
        rw [pending_of_settled (settled_of_code hcode), hodd]
        exact reads_quotedChar h hquote (fun _ _ hc _ => hslash hc) hline
    · rename_i hodd
      rw [eq_false_of_ne_true hodd]
      split at hstep
      · -- a comment
        obtain ⟨after, hafter, hstep⟩ := Option.map_eq_some_iff.mp hstep
        obtain ⟨rfl, rfl⟩ := Prod.mk.inj hstep
        rw [pending_of_settled (settled_of_code hcode), eq_false_of_ne_true hodd]
        exact reads_commentEnd? h hafter
      · rename_i hopens
        obtain ⟨rfl, rfl⟩ := Prod.mk.inj (Option.some.inj hstep)
        rw [pending_of_settled (settled_of_code hcode), eq_false_of_ne_true hodd]
        exact reads_of_opensText h (eq_false_of_ne_true hopens) hquote hopen hclose

/-- Over a token the counter stays where reading token after token is. -/
theorem inStep_step? (hstep : step? st cs = some (st', rest)) (hst : Within opened st) (hst' : Within opened st') :
    InStep opened st cs st' rest := by
  unfold step? at hstep
  split at hstep
  · exact inStep_literalStep? hstep hst'
  · exact inStep_heredocStep? hstep hst hst'
  · rename_i hquote hheredoc
    refine inStep_codeStep? ?_ hstep hst hst'
    unfold inLiteral
    split
    · exact absurd rfl (hquote _ _)
    · exact absurd rfl (hheredoc _ _ _ _ _)
    · rfl

theorem inStep_run {x y : List Opener × List Char} (h : Run (Within opened) x y) :
    InStep opened x.1 x.2 y.1 y.2 := by
  induction h with
  | refl => exact .refl _ _ _
  | tail _ hstep ih => exact ih.trans (inStep_step? hstep.1 hstep.2.1 hstep.2.2)

/-! ## Blocks -/

/-- Nothing but quotes is open. -/
def OnlyQuotes (st : List Opener) : Prop := ∀ o ∈ st, o = .quote 0

theorem within_of_onlyQuotes (h : OnlyQuotes st) : Within false st := by
  have hnone : counted st = 0 := by
    induction st with
    | nil => rfl
    | cons o st ih =>
      obtain ⟨rfl, hst⟩ := List.forall_mem_cons.mp h
      exact ih hst
  simp [Within, hnone]

theorem within_of_suffix (h : [.brace] <:+ st) : Within true st := by
  have hsome : 1 ≤ counted st := by
    obtain ⟨pre, rfl⟩ := h
    induction pre with
    | nil => exact le_rfl
    | cons o pre ih =>
      cases o with
      | quote => exact ih
      | brace =>
        rw [List.cons_append, counted]
        split
        · exact ih
        · exact Nat.le_succ_of_le ih
      | heredoc delimiter directives depth mode => exact Nat.le_add_right_of_le ih
  simp [Within, hsome]

theorem linesFromHere?_closeBrace (cs : List Char) :
    (counting true [.brace]).linesFromHere? false ('\x7d' :: cs) = some 1 := by
  rw [linesFromHere?, takeWhile_of_ne (by decide), feed_closeBrace Bool.false_ne_true]
  rfl

/-- Where one can read over a block, its outermost brace is found closed on the line where it is. -/
theorem linesToClose?_of_plain {line : List Char} (hline : Run OnlyQuotes ([], line) ([], cs)) (h : Encloses cs rest)
    (hplain : Plain cs rest) : ∃ k, countLineFeeds line = countLineFeeds ('\x7d' :: rest) + k ∧
      start.linesToClose? (lines line) = some (k + 1) := by
  obtain ⟨mid, hlabels, hbody⟩ := h
  have hlabels : Follows OnlyQuotes [] cs [] ('\x7b' :: mid) :=
    (hlabels [] rfl).mono (by rintro st (rfl | rfl) <;> simp [OnlyQuotes])
  have hopen : Follows (fun _ => True) [] ('\x7b' :: mid) [.brace] mid := .of_step rfl trivial trivial
  have hend : rest <:+ '\x7d' :: rest := List.suffix_cons _ rest
  have hmid : rest <:+ mid := hend.trans hbody.suffix
  have hbefore := hlabels.run_of_plain (hmid.trans (List.suffix_cons _ mid)) hplain
  have hstart := ((hlabels.mono fun _ _ => trivial).trans hopen).run_of_plain hmid hplain
  have hinside : Run (Within true) ([.brace], mid) ([.brace], '\x7d' :: rest) := by
    obtain hrun | hstuck := hbody [.brace] rfl
    · exact hrun.mono fun _ => within_of_suffix
    · exact absurd hplain ((Stuck.of_run hstart hstuck).of_suffix hend).not_plain
  have hline : Reads start false line start false cs := inStep_run (hline.mono fun _ => within_of_onlyQuotes)
  have hbefore : Reads start false cs start false ('\x7b' :: mid) :=
    inStep_run (hbefore.mono fun _ => within_of_onlyQuotes)
  have hopen : Reads start false ('\x7b' :: mid) (counting true [.brace]) false mid :=
    .char (by decide) (feed_openBrace Bool.false_ne_true _)
  have hread : Reads start false line (counting true [.brace]) false ('\x7d' :: rest) :=
    ((hline.trans hbefore).trans hopen).trans (inStep_run hinside)
  obtain ⟨k, hcount, hlines⟩ := hread
  refine ⟨k, hcount, ?_⟩
  rw [linesToClose?_lines, hlines, linesFromHere?_closeBrace, Option.map_some, Nat.add_comm]

end TagAudit.Snippet.Braces
