/-
  TagAudit.Proofs.Hcl.Lexing — reading a text token after token, without regard to its grammar.

  What is remembered between two tokens are the braces, quotes, heredocs and directives that are
  open. A token is a quote, a brace, an escape or a doubled mark between quotes, the opening mark
  of an interpolation or a directive, a comment, the first line of a heredoc, or any other
  character. `step?` passes over no token that would be taken for something else by one who only
  keeps count of braces and of whether the number of quotes on a line is odd: it has no step at a
  line end between quotes, at a brace in a text whose quotes stand inside others, at a quote or a
  backslash inside a directive between quotes, and at a closing brace in a heredoc that closes none
  of its own.

  `Tracks cs rest` is what is true of every reader of the grammar that gets from `cs` to `rest`
  (`TagAudit.Proofs.Hcl.Tracking`): reading token after token one gets there too, with the same
  braces, quotes and heredocs open, or one gets stuck on the way.
-/

import Mathlib.Data.List.Infix
import Mathlib.Logic.Relation
import TagAudit.Proofs.Hcl.Identifiers

namespace TagAudit.Hcl

/-! ## Tokens -/

/-- What one who keeps count of quotes takes a character of a heredoc for: text, text in quotes,
    what follows a backslash in quotes, or a comment. -/
inductive Mode where
  | text
  | quoted
  | escaped
  | comment
  deriving DecidableEq, Repr

/-- What can be open where a text is read. Of the text after a quote one keeps how many of its
    directives are open, of that of a heredoc also its delimiter and how many of its braces are. -/
inductive Opener where
  | brace
  | quote (directives : Nat)
  | heredoc (delimiter : List Char) (directives depth : Nat) (mode : Mode)
  deriving DecidableEq, Repr

/-- Whether literal text comes next: no brace is the innermost of what is open. -/
def inLiteral : List Opener → Bool
  | .quote _ :: _ => true
  | .heredoc .. :: _ => true
  | _ => false

/-- Whether the number of quotes that are open is odd. Those of a heredoc are told by its mode. -/
def oddQuotes : List Opener → Bool
  | [] => false
  | .quote _ :: st => !oddQuotes st
  | .brace :: st => oddQuotes st
  | .heredoc _ _ _ mode :: _ => mode == .quoted || mode == .escaped

/-- Whether what comes next does not depend on the character before: this is not so after a
    backslash in the quotes of a heredoc, nor in a comment there. -/
def settled : List Opener → Bool
  | .heredoc _ _ _ mode :: _ => mode == .text || mode == .quoted
  | _ => true

/-- Whether a comment or a heredoc starts here. -/
def opensText : List Char → Bool
  | '#' :: _ => true
  | '/' :: '/' :: _ => true
  | '/' :: '*' :: _ => true
  | '<' :: '<' :: _ => true
  | _ => false

/-- Whether a character is nothing but itself, wherever it stands. -/
def isHarmless : List Char → Bool
  | [] => false
  | c :: cs => !opensText (c :: cs) && !(['"', '\x7b', '\x7d'].contains c)

def commentEnd? : List Char → Option (List Char)
  | '#' :: cs => atLineEnd? cs
  | '/' :: '/' :: cs => atLineEnd? cs
  | '/' :: '*' :: cs => afterComment? cs
  | _ => none

/-- The text after the mark of an indented heredoc, if it is there. -/
def afterDash : List Char → List Char
  | '-' :: cs => cs
  | cs => cs

/-- The delimiter of a heredoc and its lines, from after its opening mark, unless the first of
    them starts with the delimiter. -/
def heredocLines? (cs : List Char) : Option (List Char × List Char) := do
  let (delimiter, rest) ← (ident (afterDash cs)).toOption
  let content ← afterLineEnd? rest
  match Text.afterMark? delimiter.toList (content.dropWhile fun c => c == ' ' || c == '\t') with
  | some _ => none
  | none => some (delimiter.toList, content)

/-- Whether the last line of a heredoc comes next. -/
def isLastLine (delimiter cs : List Char) : Bool := (afterDelimiter? delimiter cs).isSome

/-- How many directives are open after the one whose opening mark stands before `cs`, where `n` are
    open before it. -/
def directivesAfter? (n : Nat) (cs : List Char) : Option Nat :=
  match (opening cs).2, n with
  | 'i' :: 'f' :: _, n => some (n + 1)
  | 'f' :: 'o' :: 'r' :: _, n => some (n + 1)
  | 'e' :: 'l' :: 's' :: 'e' :: _, n + 1 => some (n + 1)
  | 'e' :: 'n' :: 'd' :: _, n + 1 => some n
  | _, _ => none

/-- A token outside quotes and heredocs: what is open after it, and the text after it. -/
def codeStep? (st : List Opener) : List Char → Option (List Opener × List Char)
  | [] => none
  | '"' :: cs => some (.quote 0 :: st, cs)
  | '\x7b' :: cs => some (.brace :: st, cs)
  | '\x7d' :: cs =>
    match st with
    | .brace :: st => if settled st then some (st, cs) else none
    | _ => none
  | '\\' :: _ => none
  | '<' :: '<' :: cs =>
    if oddQuotes st then none
    else (heredocLines? cs).map fun (delimiter, lines) => (.heredoc delimiter 0 0 .text :: st, lines)
  | c :: cs =>
    if oddQuotes st then if c = '\n' || opensText (c :: cs) then none else some (st, cs)
    else if opensText (c :: cs) then (commentEnd? (c :: cs)).map (st, ·)
    else some (st, cs)

/-- A token of literal text after a quote that was opened inside `st`. Inside a directive no quote ends
    the text and there are no escapes. -/
def literalStep? (directives : Nat) (st : List Opener) : List Char → Option (List Opener × List Char)
  | [] => none
  | '"' :: cs => if directives ≠ 0 || inLiteral st then none else some (st, cs)
  | '\n' :: _ => none
  | '\\' :: c :: cs => if directives ≠ 0 || oddQuotes st || c = '\n' then none else some (.quote 0 :: st, cs)
  | '$' :: '$' :: '\x7b' :: cs => if oddQuotes st then none else some (.quote directives :: st, cs)
  | '%' :: '%' :: '\x7b' :: cs => if oddQuotes st then none else some (.quote directives :: st, cs)
  | '$' :: '\x7b' :: cs => some (.brace :: .quote directives :: st, cs)
  | '%' :: '\x7b' :: cs => (directivesAfter? directives cs).map fun n => (.brace :: .quote n :: st, cs)
  | c :: cs => if oddQuotes st && !isHarmless (c :: cs) then none else some (.quote directives :: st, cs)

/-- A character of a heredoc, `cs` being the text after it: how many of the braces in its text
    are open, and how to take the next character. -/
def textStep? (depth : Nat) (mode : Mode) (c : Char) (cs : List Char) : Option (Nat × Mode) :=
  match mode, c, cs with
  | _, '\n', _ => some (depth, .text)
  | .comment, _, _ => some (depth, .comment)
  | .escaped, _, _ => some (depth, .quoted)
  | .quoted, '"', _ => some (depth, .text)
  | .quoted, '\\', _ => some (depth, .escaped)
  | .quoted, _, _ => some (depth, .quoted)
  | .text, '"', _ => some (depth, .quoted)
  | .text, '#', _ => some (depth, .comment)
  | .text, '/', '/' :: _ => some (depth, .comment)
  | .text, '/', '*' :: _ => none
  | .text, '\x7b', _ => some (depth + 1, .text)
  | .text, '\x7d', _ => if depth = 0 then none else some (depth - 1, .text)
  | .text, _, _ => some (depth, .text)

section
variable (delimiter : List Char) (directives depth : Nat) (mode : Mode) (st : List Opener)

/-- A character of the text of a heredoc that was opened inside `st`. -/
def heredocChar? (c : Char) (cs : List Char) : Option (List Opener × List Char) :=
  (textStep? depth mode c cs).map fun (depth, mode) => (.heredoc delimiter directives depth mode :: st, cs)

/-- A token of a heredoc that was opened inside `st`. The heredoc is left before its delimiter, which
    does not end it inside a directive, and none of the braces in its text can be open there. -/
def heredocStep? (cs : List Char) : Option (List Opener × List Char) :=
  if directives = 0 && isLastLine delimiter cs then
    if depth = 0 && !oddQuotes st && !inLiteral st then (afterLineEnd? cs).map (st, ·) else none
  else
    match cs with
    | [] => none
    | '$' :: '$' :: '\x7b' :: cs => heredocChar? delimiter directives depth mode st '\x7b' cs
    | '%' :: '%' :: '\x7b' :: cs => heredocChar? delimiter directives depth mode st '\x7b' cs
    | '$' :: '\x7b' :: cs =>
      if settled (.heredoc delimiter directives depth mode :: st) then
        some (.brace :: .heredoc delimiter directives depth mode :: st, cs)
      else none
    | '%' :: '\x7b' :: cs =>
      if settled (.heredoc delimiter directives depth mode :: st) then
        (directivesAfter? directives cs).map fun n => (.brace :: .heredoc delimiter n depth mode :: st, cs)
      else none
    | c :: cs => heredocChar? delimiter directives depth mode st c cs

end

/-- A token, `st` being open before it. -/
def step? : List Opener → List Char → Option (List Opener × List Char)
  | .quote directives :: st, cs => literalStep? directives st cs
  | .heredoc delimiter directives depth mode :: st, cs => heredocStep? delimiter directives depth mode st cs
  | st, cs => codeStep? st cs

theorem settled_of_code {st : List Opener} (h : inLiteral st = false) : settled st := by
  unfold settled
  split
  · contradiction
  · rfl

theorem step?_of_code {st : List Opener} (h : inLiteral st = false) (cs : List Char) : step? st cs = codeStep? st cs := by
  unfold step?
  split
  · contradiction
  · contradiction
  · rfl

/-! ## Characters that are tokens -/

variable {cs mid rest : List Char}

/-- Whether a character starts no token longer than itself outside quotes, and is not a brace. -/
def isOrdinary (c : Char) : Bool := !(['"', '#', '/', '<', '\x7b', '\x7d'].contains c)

theorem isOrdinary_spec {c : Char} (h : isOrdinary c) :
    (∀ cs, opensText (c :: cs) = false) ∧ c ≠ '"' ∧ c ≠ '\x7b' ∧ c ≠ '\x7d' := by
  have hne {a : Char} (ha : isOrdinary a = false) : c ≠ a := fun hc => by simp [← hc, h] at ha
  refine ⟨fun cs => ?_, hne rfl, hne rfl, hne rfl⟩
  unfold opensText
  split <;> simp_all [isOrdinary]

theorem isHarmless_cons {c : Char} :
    isHarmless (c :: cs) ↔ opensText (c :: cs) = false ∧ c ≠ '"' ∧ c ≠ '\x7b' ∧ c ≠ '\x7d' := by
  simp [isHarmless]

theorem isOrdinary_of_isIdentChar {c : Char} (h : isIdentChar c) : isOrdinary c := by
  rw [isIdentChar_iff, isIdentStart_iff, isDigit_iff] at h
  simp only [isOrdinary, List.contains_cons, List.contains_nil, Bool.or_false, Bool.not_eq_true', Bool.or_eq_false_iff,
    beq_eq_false_iff_ne]
  refine ⟨?_, ?_, ?_, ?_, ?_, ?_⟩ <;> rintro rfl <;> revert h <;> decide

/-- From `cs` one comes to `rest` over such characters, and line ends and the like. -/
def Ordinary (cs rest : List Char) : Prop := ∃ pre, cs = pre ++ rest ∧ ∀ c ∈ pre, isOrdinary c

namespace Ordinary

theorem append {pre : List Char} (h : ∀ c ∈ pre, isOrdinary c) (cs : List Char) : Ordinary (pre ++ cs) cs := ⟨pre, rfl, h⟩

theorem trans (h : Ordinary cs mid) (h' : Ordinary mid rest) : Ordinary cs rest := by
  obtain ⟨pre, rfl, hpre⟩ := h
  obtain ⟨pre', rfl, hpre'⟩ := h'
  exact ⟨pre ++ pre', (List.append_assoc pre pre' rest).symm, List.forall_mem_append.mpr ⟨hpre, hpre'⟩⟩

theorem suffix (h : Ordinary cs rest) : rest <:+ cs := by
  obtain ⟨pre, rfl, -⟩ := h
  exact List.suffix_append pre rest

theorem of_dropWhile {p : Char → Bool} (hp : ∀ c, p c → isOrdinary c) (cs : List Char) : Ordinary cs (cs.dropWhile p) :=
  ⟨cs.takeWhile p, List.takeWhile_append_dropWhile.symm, fun c hc => hp c (List.mem_takeWhile_imp hc)⟩

theorem of_ident {name : String} (h : ident cs = .ok (name, rest)) : Ordinary cs rest := by
  unfold ident at h
  split at h
  · split at h
    · rename_i c cs hstart
      obtain ⟨-, rfl⟩ := Prod.mk.inj (Except.ok.inj h)
      have hc : ∀ d ∈ [c], isOrdinary d := by simpa using isOrdinary_of_isIdentChar (isIdentChar_of_start hstart)
      exact (append hc cs).trans (of_dropWhile (fun _ => isOrdinary_of_isIdentChar) cs)
    · contradiction
  · contradiction

theorem of_afterLineEnd? (h : afterLineEnd? cs = some rest) : Ordinary cs rest := by
  unfold afterLineEnd? at h
  split at h
  · exact Option.some.inj h ▸ append (List.all_eq_true.mp rfl : ∀ c ∈ ['\n'], isOrdinary c) _
  · exact Option.some.inj h ▸ append (List.all_eq_true.mp rfl : ∀ c ∈ ['\r', '\n'], isOrdinary c) _
  · contradiction

/-- From the start of the last line of a heredoc to the end of its delimiter. -/
theorem of_afterDelimiter? {delimiter lineEnd : List Char} (hdelimiter : ∀ c ∈ delimiter, isOrdinary c)
    (h : afterDelimiter? delimiter cs = some (lineEnd, rest)) :
    ∃ mid, afterLineEnd? cs = some mid ∧ Ordinary mid rest := by
  unfold afterDelimiter? at h
  obtain ⟨mid, hline, h⟩ := Option.bind_eq_some_iff.mp h
  obtain ⟨tail, hmark, h⟩ := Option.bind_eq_some_iff.mp h
  obtain ⟨-, rfl⟩ := Prod.mk.inj (Option.some.inj h)
  have hblank := of_dropWhile (p := fun c => c == ' ' || c == '\t') (by
    intro c hc
    obtain hc | hc := (Bool.or_eq_true _ _).mp hc <;> rw [beq_iff_eq.mp hc] <;> rfl) mid
  rw [Text.afterMark?_eq_some.mp hmark] at hblank
  exact ⟨mid, hline, hblank.trans (append hdelimiter tail)⟩

theorem of_dash (cs : List Char) : Ordinary cs (afterDash cs) := by
  unfold afterDash
  split
  · exact append (List.all_eq_true.mp rfl : ∀ c ∈ ['-'], isOrdinary c) _
  · exact ⟨[], rfl, by simp⟩

end Ordinary

/-! ## What is left after a token -/

@[elab_as_elim]
theorem atLineEnd?_induction {motive : List Char → Prop} (nil : motive []) (lineFeed : ∀ cs, motive ('\n' :: cs))
    (lineEnd : ∀ cs, motive ('\r' :: '\n' :: cs))
    (carriageReturn : ∀ cs, (∀ ds, cs = '\n' :: ds → False) → motive ('\r' :: cs))
    (inLine : ∀ c cs, c ≠ '\n' → c ≠ '\r' → motive cs → motive (c :: cs)) (cs : List Char) : motive cs :=
  atLineEnd?.induct motive nil lineFeed lineEnd carriageReturn
    (fun c cs hfeed _ hreturn => inLine c cs hfeed hreturn) cs

theorem atLineEnd?_cons {c : Char} (hfeed : c ≠ '\n') (hreturn : c ≠ '\r') (cs : List Char) :
    atLineEnd? (c :: cs) = atLineEnd? cs := by
  rw [atLineEnd?]
  · exact hfeed
  · exact fun _ h _ => hreturn h
  · exact hreturn

theorem atLineEnd?_carriageReturn (h : ∀ ds, cs = '\n' :: ds → False) : atLineEnd? ('\r' :: cs) = none := by
  rw [atLineEnd?]
  exact h

theorem suffix_of_atLineEnd? (h : atLineEnd? cs = some rest) : rest <:+ cs := by
  induction cs using atLineEnd?_induction with
  | nil => exact Option.some.inj h ▸ List.suffix_rfl
  | lineFeed cs => exact Option.some.inj h ▸ List.suffix_rfl
  | lineEnd cs => exact Option.some.inj h ▸ List.suffix_rfl
  | carriageReturn cs hcs =>
    rw [atLineEnd?_carriageReturn hcs] at h
    contradiction
  | inLine c cs hfeed hreturn ih =>
    rw [atLineEnd?_cons hfeed hreturn] at h
    exact (ih h).trans (List.suffix_cons c cs)

@[elab_as_elim]
theorem afterComment?_induction {motive : List Char → Prop} (nil : motive []) (mark : ∀ cs, motive ('*' :: '/' :: cs))
    (inComment : ∀ c cs, (∀ ds, c = '*' → cs = '/' :: ds → False) → motive cs → motive (c :: cs)) (cs : List Char) :
    motive cs :=
  afterComment?.induct motive nil mark inComment cs

theorem afterComment?_cons {c : Char} (h : ∀ ds, c = '*' → cs = '/' :: ds → False) :
    afterComment? (c :: cs) = afterComment? cs := by
  rw [afterComment?]
  exact h

theorem suffix_of_afterComment? (h : afterComment? cs = some rest) : rest <:+ cs := by
  induction cs using afterComment?_induction with
  | nil => contradiction
  | mark cs => exact Option.some.inj h ▸ List.suffix_append ['*', '/'] cs
  | inComment c cs hmark ih =>
    rw [afterComment?_cons hmark] at h
    exact (ih h).trans (List.suffix_cons c cs)

theorem cons_of_afterLineEnd? (h : afterLineEnd? cs = some rest) : ∃ c ds, cs = c :: ds ∧ rest <:+ ds := by
  unfold afterLineEnd? at h
  split at h
  · exact Option.some.inj h ▸ ⟨_, _, rfl, List.suffix_rfl⟩
  · exact Option.some.inj h ▸ ⟨_, _, rfl, List.suffix_cons _ _⟩
  · contradiction

theorem suffix_of_afterDelimiter? {delimiter lineEnd : List Char}
    (h : afterDelimiter? delimiter cs = some (lineEnd, rest)) : rest <:+ cs := by
  unfold afterDelimiter? at h
  obtain ⟨mid, hline, h⟩ := Option.bind_eq_some_iff.mp h
  obtain ⟨tail, hmark, h⟩ := Option.bind_eq_some_iff.mp h
  obtain ⟨-, rfl⟩ := Prod.mk.inj (Option.some.inj h)
  calc
    tail <:+ _ := Text.afterMark?_eq_some.mp hmark ▸ List.suffix_append delimiter tail
    _ <:+ mid := List.dropWhile_suffix _
    _ <:+ cs := (Ordinary.of_afterLineEnd? hline).suffix

theorem suffix_of_commentEnd? (h : commentEnd? cs = some rest) : rest <:+ cs := by
  unfold commentEnd? at h
  split at h
  · exact (suffix_of_atLineEnd? h).trans (List.suffix_cons _ _)
  · exact (suffix_of_atLineEnd? h).trans (List.suffix_append ['/', '/'] _)
  · exact (suffix_of_afterComment? h).trans (List.suffix_append ['/', '*'] _)
  · contradiction

/-- What it takes to start a heredoc. -/
theorem heredocLines?_eq_some {delimiter : List Char} (h : heredocLines? cs = some (delimiter, rest)) :
    ∃ name mid, ident (afterDash cs) = .ok (name, mid) ∧ afterLineEnd? mid = some rest ∧ delimiter = name.toList ∧
      Text.afterMark? delimiter (rest.dropWhile fun c => c == ' ' || c == '\t') = none := by
  unfold heredocLines? at h
  obtain ⟨⟨name, mid⟩, hname, h⟩ := Option.bind_eq_some_iff.mp h
  obtain ⟨content, hline, h⟩ := Option.bind_eq_some_iff.mp h
  split at h
  · contradiction
  · rename_i hfirst
    obtain ⟨rfl, rfl⟩ := Prod.mk.inj (Option.some.inj h)
    exact ⟨name, mid, ok_of_toOption hname, hline, rfl, hfirst⟩

theorem suffix_of_heredocLines? {delimiter : List Char} (h : heredocLines? cs = some (delimiter, rest)) : rest <:+ cs := by
  obtain ⟨name, mid, hname, hline, -⟩ := heredocLines?_eq_some h
  exact (((Ordinary.of_dash cs).trans (.of_ident hname)).trans (.of_afterLineEnd? hline)).suffix

theorem suffix_of_codeStep? {st st' : List Opener} (h : codeStep? st cs = some (st', rest)) : rest <:+ cs := by
  unfold codeStep? at h
  split at h
  · contradiction
  · exact (Prod.mk.inj (Option.some.inj h)).2 ▸ List.suffix_cons _ _
  · exact (Prod.mk.inj (Option.some.inj h)).2 ▸ List.suffix_cons _ _
  · split at h
    · split at h
      · exact (Prod.mk.inj (Option.some.inj h)).2 ▸ List.suffix_cons _ _
      · contradiction
    · contradiction
  · contradiction
  · split at h
    · contradiction
    · obtain ⟨⟨delimiter, lines⟩, hlines, h⟩ := Option.map_eq_some_iff.mp h
      exact (Prod.mk.inj h).2 ▸ (suffix_of_heredocLines? hlines).trans (List.suffix_append ['<', '<'] _)
  · split at h
    · split at h
      · contradiction
      · exact (Prod.mk.inj (Option.some.inj h)).2 ▸ List.suffix_cons _ _
    · split at h
      · obtain ⟨after, hafter, h⟩ := Option.map_eq_some_iff.mp h
        exact (Prod.mk.inj h).2 ▸ suffix_of_commentEnd? hafter
      · exact (Prod.mk.inj (Option.some.inj h)).2 ▸ List.suffix_cons _ _

theorem suffix_of_literalStep? {directives : Nat} {st st' : List Opener}
    (h : literalStep? directives st cs = some (st', rest)) : rest <:+ cs := by
  unfold literalStep? at h
  split at h
  · contradiction
  · split at h
    · contradiction
    · exact (Prod.mk.inj (Option.some.inj h)).2 ▸ List.suffix_cons _ _
  · contradiction
  · split at h
    · contradiction
    · exact (Prod.mk.inj (Option.some.inj h)).2 ▸ List.suffix_append ['\\', _] _
  · split at h
    · contradiction
    · exact (Prod.mk.inj (Option.some.inj h)).2 ▸ List.suffix_append ['$', '$', '\x7b'] _
  · split at h
    · contradiction
    · exact (Prod.mk.inj (Option.some.inj h)).2 ▸ List.suffix_append ['%', '%', '\x7b'] _
  · exact (Prod.mk.inj (Option.some.inj h)).2 ▸ List.suffix_append ['$', '\x7b'] _
  · obtain ⟨n, -, h⟩ := Option.map_eq_some_iff.mp h
    exact (Prod.mk.inj h).2 ▸ List.suffix_append ['%', '\x7b'] _
  · split at h
    · contradiction
    · exact (Prod.mk.inj (Option.some.inj h)).2 ▸ List.suffix_cons _ _

section
variable {delimiter : List Char} {directives depth : Nat} {mode : Mode} {st st' : List Opener}

theorem heredocChar?_eq_some {c : Char} (h : heredocChar? delimiter directives depth mode st c cs = some (st', rest)) :
    ∃ depth' mode', textStep? depth mode c cs = some (depth', mode') ∧
      st' = .heredoc delimiter directives depth' mode' :: st ∧ rest = cs := by
  obtain ⟨⟨depth', mode'⟩, hstep, h⟩ := Option.map_eq_some_iff.mp h
  obtain ⟨rfl, rfl⟩ := Prod.mk.inj h
  exact ⟨depth', mode', hstep, rfl, rfl⟩

theorem suffix_of_heredocStep? (h : heredocStep? delimiter directives depth mode st cs = some (st', rest)) :
    rest <:+ cs := by
  have hchar {c : Char} {cs : List Char} (h : heredocChar? delimiter directives depth mode st c cs = some (st', rest)) :
      rest = cs := by
    obtain ⟨-, -, -, -, hrest⟩ := heredocChar?_eq_some h
    exact hrest
  unfold heredocStep? at h
  split at h
  · split at h
    · obtain ⟨mid, hline, h⟩ := Option.map_eq_some_iff.mp h
      exact (Prod.mk.inj h).2 ▸ (Ordinary.of_afterLineEnd? hline).suffix
    · contradiction
  · split at h
    · contradiction
    · exact hchar h ▸ List.suffix_append ['$', '$', '\x7b'] _
    · exact hchar h ▸ List.suffix_append ['%', '%', '\x7b'] _
    · split at h
      · exact (Prod.mk.inj (Option.some.inj h)).2 ▸ List.suffix_append ['$', '\x7b'] _
      · contradiction
    · split at h
      · obtain ⟨n, -, h⟩ := Option.map_eq_some_iff.mp h
        exact (Prod.mk.inj h).2 ▸ List.suffix_append ['%', '\x7b'] _
      · contradiction
    · exact hchar h ▸ List.suffix_cons _ _

end

theorem suffix_of_step? {st st' : List Opener} (h : step? st cs = some (st', rest)) : rest <:+ cs := by
  unfold step? at h
  split at h
  · exact suffix_of_literalStep? h
  · exact suffix_of_heredocStep? h
  · exact suffix_of_codeStep? h

/-! ## Reading on -/

/-- Reading on over tokens, what is open being as `K` asks for before and after each of them. -/
def Run (K : List Opener → Prop) : List Opener × List Char → List Opener × List Char → Prop :=
  Relation.ReflTransGen fun x y => step? x.1 x.2 = some y ∧ K x.1 ∧ K y.1

/-- Reads on over a number of tokens. -/
def passOver : Nat → List Opener × List Char → Option (List Opener × List Char)
  | 0, x => some x
  | n + 1, x => (step? x.1 x.2).bind (passOver n)

/-- From `cs` one comes to `rest` token after token. -/
def Plain (cs rest : List Char) : Prop := ∃ st, Run (fun _ => True) ([], cs) (st, rest)

/-- Before one comes to `rest` there is something that one cannot pass over. -/
def Stuck (st : List Opener) (cs rest : List Char) : Prop :=
  ∃ st' c ds, Run (fun _ => True) (st, cs) (st', c :: ds) ∧ step? st' (c :: ds) = none ∧ rest <:+ ds

/-- One comes to `rest`, if one does not get stuck. -/
def Follows (K : List Opener → Prop) (st : List Opener) (cs : List Char) (st' : List Opener) (rest : List Char) : Prop :=
  Run K (st, cs) (st', rest) ∨ Stuck st cs rest

variable {K K' : List Opener → Prop} {st st' st'' : List Opener}

namespace Run

variable {x y z : List Opener × List Char}

theorem refl (K : List Opener → Prop) (x : List Opener × List Char) : Run K x x := Relation.ReflTransGen.refl

theorem trans (h : Run K x y) (h' : Run K y z) : Run K x z := Relation.ReflTransGen.trans h h'

theorem step (h : step? x.1 x.2 = some y) (hx : K x.1) (hy : K y.1) : Run K x y := .single ⟨h, hx, hy⟩

theorem mono (h : Run K x y) (hK : ∀ st, K st → K' st) : Run K' x y :=
  Relation.ReflTransGen.mono (fun _ _ ⟨hs, hx, hy⟩ => ⟨hs, hK _ hx, hK _ hy⟩) _ _ h

theorem suffix (h : Run K x y) : y.2 <:+ x.2 := by
  induction h with
  | refl => exact List.suffix_rfl
  | tail _ hs ih => exact (suffix_of_step? hs.1).trans ih

theorem of_passOver : ∀ {n : Nat} {x : List Opener × List Char}, passOver n x = some y → Run (fun _ => True) x y
  | 0, x, h => Option.some.inj h ▸ refl _ x
  | n + 1, x, h => by
    obtain ⟨mid, hstep, hrest⟩ := Option.bind_eq_some_iff.mp h
    exact (step hstep trivial trivial).trans (of_passOver hrest)

end Run

namespace Stuck

theorem suffix (h : Stuck st cs rest) : rest <:+ cs := by
  obtain ⟨st', c, ds, hrun, -, hsuffix⟩ := h
  exact (hsuffix.trans (List.suffix_cons c ds)).trans hrun.suffix

theorem of_run (h : Run K (st, cs) (st', mid)) (h' : Stuck st' mid rest) : Stuck st cs rest := by
  obtain ⟨st'', c, ds, hrun, hnone, hsuffix⟩ := h'
  exact ⟨st'', c, ds, (h.mono fun _ _ => trivial).trans hrun, hnone, hsuffix⟩

theorem of_suffix (h : Stuck st cs mid) (hs : rest <:+ mid) : Stuck st cs rest := by
  obtain ⟨st', c, ds, hrun, hnone, hsuffix⟩ := h
  exact ⟨st', c, ds, hrun, hnone, hs.trans hsuffix⟩

/-- A text that one can read over has nothing in it that one cannot pass over. -/
theorem not_plain (h : Stuck [] cs rest) : ¬ Plain cs rest := by
  obtain ⟨st, c, ds, hrun, hnone, hsuffix⟩ := h
  rintro ⟨st', hplain⟩
  have hshort : rest.length < (c :: ds).length := Nat.lt_succ_of_le hsuffix.length_le
  have hunique : Relator.RightUnique fun x y : List Opener × List Char => step? x.1 x.2 = some y ∧ True ∧ True :=
    fun _ _ _ h h' => Option.some.inj (h.1.symm.trans h'.1)
  obtain hpast | hbefore := hrun.total_of_right_unique hunique hplain
  · obtain heq | ⟨next, hnext, -⟩ := hpast.cases_head
    · exact Nat.ne_of_gt hshort (congrArg (List.length ∘ Prod.snd) heq)
    · rw [hnone] at hnext
      nomatch hnext.1
  · have hbefore : Run (fun _ => True) (st', rest) (st, c :: ds) := hbefore
    exact absurd hbefore.suffix.length_le (Nat.not_le.mpr hshort)

end Stuck

namespace Follows

theorem refl (K : List Opener → Prop) (st : List Opener) (cs : List Char) : Follows K st cs st cs := .inl (.refl K _)

theorem suffix (h : Follows K st cs st' rest) : rest <:+ cs := h.elim Run.suffix Stuck.suffix

theorem trans (h : Follows K st cs st' mid) (h' : Follows K st' mid st'' rest) : Follows K st cs st'' rest := by
  obtain h | h := h
  · obtain h' | h' := h'
    · exact .inl (h.trans h')
    · exact .inr (.of_run h h')
  · exact .inr (h.of_suffix h'.suffix)

theorem mono (h : Follows K st cs st' rest) (hK : ∀ st, K st → K' st) : Follows K' st cs st' rest :=
  h.imp (·.mono hK) id

theorem of_step (h : step? st cs = some (st', rest)) (hst : K st) (hst' : K st') : Follows K st cs st' rest :=
  .inl (.step h hst hst')

/-- Something that one cannot pass over, and anything after it. -/
theorem of_none {c : Char} (h : step? st (c :: cs) = none) (hs : rest <:+ cs) : Follows K st (c :: cs) st' rest :=
  .inr ⟨st, c, cs, .refl _ _, h, hs⟩

theorem run_of_plain (h : Follows K [] cs st' mid) (hs : rest <:+ mid) (hplain : Plain cs rest) :
    Run K ([], cs) (st', mid) :=
  h.resolve_right fun hstuck => (hstuck.of_suffix hs).not_plain hplain

end Follows

/-- Outside quotes and heredocs one comes from `cs` to `rest` without a brace or quote on the way. -/
def Level (cs rest : List Char) : Prop := ∀ st, inLiteral st = false → Follows (· = st) st cs st rest

/-- Outside quotes and heredocs one comes from `cs` to `rest` with the same braces and quotes open; more may be
    open on the way. -/
def Tracks (cs rest : List Char) : Prop := ∀ st, inLiteral st = false → Follows (st <:+ ·) st cs st rest

namespace Level

theorem refl (cs : List Char) : Level cs cs := fun st _ => .refl _ st cs

theorem trans (h : Level cs mid) (h' : Level mid rest) : Level cs rest := fun st hst => (h st hst).trans (h' st hst)

theorem tracks (h : Level cs rest) : Tracks cs rest := fun st hst => (h st hst).mono fun _ heq => heq ▸ List.suffix_rfl

theorem suffix (h : Level cs rest) : rest <:+ cs := (h [] rfl).suffix

end Level

namespace Tracks

theorem refl (cs : List Char) : Tracks cs cs := fun st _ => .refl _ st cs

theorem trans (h : Tracks cs mid) (h' : Tracks mid rest) : Tracks cs rest := fun st hst => (h st hst).trans (h' st hst)

theorem trans_level (h : Tracks cs mid) (h' : Level mid rest) : Tracks cs rest := h.trans h'.tracks

theorem suffix (h : Tracks cs rest) : rest <:+ cs := (h [] rfl).suffix

/-- What comes between two braces. Where the first of them is opened something else may be open than
    where the last one is closed, in the case of a directive. -/
theorem braces (h : Tracks cs ('\x7d' :: rest)) {K : List Opener → Prop} {st st' : List Opener} (hst : K st)
    (hst' : ∀ st'', st' <:+ st'' → K st'') (hsettled : settled st') (hopen : step? st mid = some (.brace :: st', cs)) :
    Follows K st mid st' rest := by
  have hbrace : K (.brace :: st') := hst' _ (List.suffix_cons .brace st')
  have hinner := (h (.brace :: st') rfl).mono fun _ hs => hst' _ ((List.suffix_cons .brace st').trans hs)
  have hstep : step? (.brace :: st') ('\x7d' :: rest) = some (st', rest) := if_pos hsettled
  exact ((Follows.of_step hopen hst hbrace).trans hinner).trans (.of_step hstep hbrace (hst' _ List.suffix_rfl))

theorem braced (h : Tracks cs ('\x7d' :: rest)) : Tracks ('\x7b' :: cs) rest :=
  fun _ hst => h.braces List.suffix_rfl (fun _ => id) (settled_of_code hst) (step?_of_code hst _)

end Tracks

theorem Level.trans_tracks (h : Level cs mid) (h' : Tracks mid rest) : Tracks cs rest := h.tracks.trans h'

/-! ## Passing over a token -/

theorem codeStep?_of_opensText {c : Char} (h : opensText (c :: cs) = false) (hquote : c ≠ '"') (hopen : c ≠ '\x7b')
    (hclose : c ≠ '\x7d') (st : List Opener) : codeStep? st (c :: cs) = none ∨ codeStep? st (c :: cs) = some (st, cs) := by
  by_cases hslash : c = '\\'
  · exact .inl (by rw [hslash, codeStep?])
  · have hheredoc (ds : List Char) (hc : c = '<') (hcs : cs = '<' :: ds) : False := by
      rw [hc, hcs] at h
      contradiction
    rw [codeStep?, h]
    · split
      · split
        · exact .inl rfl
        · exact .inr rfl
      · exact .inr rfl
    all_goals assumption

theorem level_of_opensText {c : Char} (h : opensText (c :: cs) = false) (hquote : c ≠ '"') (hopen : c ≠ '\x7b')
    (hclose : c ≠ '\x7d') : Level (c :: cs) cs := by
  intro st hst
  have hstep := codeStep?_of_opensText h hquote hopen hclose st
  rw [← step?_of_code hst] at hstep
  obtain hnone | hsome := hstep
  · exact .of_none hnone List.suffix_rfl
  · exact .of_step hsome rfl rfl

theorem level_cons {c : Char} (h : isOrdinary c) (cs : List Char) : Level (c :: cs) cs := by
  obtain ⟨hopens, hquote, hopen, hclose⟩ := isOrdinary_spec h
  exact level_of_opensText (hopens cs) hquote hopen hclose

theorem Ordinary.level (h : Ordinary cs rest) : Level cs rest := by
  obtain ⟨pre, rfl, hpre⟩ := h
  induction pre with
  | nil => exact .refl rest
  | cons c pre ih =>
    obtain ⟨hc, hpre⟩ := List.forall_mem_cons.mp hpre
    exact (level_cons hc (pre ++ rest)).trans (ih hpre)

theorem level_append (pre : List Char) (h : pre.all isOrdinary) (cs : List Char) : Level (pre ++ cs) cs :=
  (Ordinary.append (List.all_eq_true.mp h) cs).level

theorem codeStep?_of_commentEnd? (h : commentEnd? cs = some rest) (st : List Opener) :
    codeStep? st cs = if oddQuotes st then none else some (st, rest) := by
  unfold commentEnd? at h
  split at h
  all_goals first
    | contradiction
    | simp [codeStep?, opensText, commentEnd?, h]

/-- A comment is passed over as a whole, or not at all. -/
theorem level_of_commentEnd? {c : Char} (h : commentEnd? (c :: cs) = some rest) (hs : rest <:+ cs) :
    Level (c :: cs) rest := by
  intro st hst
  have hstep := codeStep?_of_commentEnd? h st
  rw [← step?_of_code hst] at hstep
  split at hstep
  · exact .of_none hstep hs
  · exact .of_step hstep rfl rfl

end TagAudit.Hcl
