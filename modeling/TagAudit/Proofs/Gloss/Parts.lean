/-
  TagAudit.Proofs.Gloss.Parts — what the expressions that are listed for a line are part of.

  `parts` reads a line as HCL has it: a backslash escapes the next character of a quoted text, an
  opening brace after a dollar or percent sign begins an interpolation or a directive there, after
  two of them it is text, and outside of texts there are comments to the end of the line and
  between marks. The search for expressions only keeps a stack of texts and interpolations
  (`quotedFrom`). Where both stand in an interpolation, a text or outside of both they go on alike
  (`covers_quotedFrom`), until the search misreads a character: a doubled dollar sign, or a quote, a
  brace or an escape that is in a comment or in a directive (`Part.misread`). The smallest such line
  is `"$${var.a}"`, where the search takes the reference for code. Comments it does not know at all:
  a line that is nothing else is passed over before, a comment after code is read as code.

  Proved: `listed_from_code`: an expression that is listed starts in no literal text unless a character
  before it on its line was misread, and in no comment unless something stands before the comment;
  `listed_outside_code`: both happen.
-/

import TagAudit.Proofs.Gloss.Candidates
import TagAudit.Proofs.Symbols.Dependencies

namespace TagAudit.Gloss

/-! ## Reading a line -/

/-- What a character of a line is part of. -/
inductive Part where
  | code
  /-- Literal text in quotes. -/
  | text
  /-- A doubled dollar sign and the brace after it, which are literal text. -/
  | mark
  /-- A comment up to the end of the line. -/
  | comment
  /-- A comment between marks. -/
  | remark
  | directive
  deriving DecidableEq, Repr

def Part.isLiteral : Part → Bool
  | .text => true
  | .mark => true
  | _ => false

/-- Where in the texts of a line code stands: outside of them, or in an interpolation or directive
    with a number of open braces, of a text in quotes that was opened in `outer`. -/
inductive Code where
  | outside
  | interpolation (depth : Nat) (outer : Code)
  | directive (depth : Nat) (outer : Code)

/-- Where the reading stands: in code, in a text that was opened there, or in a comment between marks. -/
inductive Position where
  | code (inner : Code)
  | text (outer : Code)
  | remark (inner : Code)

namespace Code

/-- What a character is part of that would be part of `part` outside of directives. -/
def part (part : Part) : Code → Part
  | .directive .. => .directive
  | _ => part

def opened : Code → Code
  | .outside => .outside
  | .interpolation depth outer => .interpolation (depth + 1) outer
  | .directive depth outer => .directive (depth + 1) outer

def closed : Code → Position
  | .outside => .code .outside
  | .interpolation 0 outer => .text outer
  | .interpolation (depth + 1) outer => .code (.interpolation depth outer)
  | .directive 0 outer => .text outer
  | .directive (depth + 1) outer => .code (.directive depth outer)

end Code

/-- Each character with what it is part of, from a position on. -/
def partsFrom : Position → List Char → List (Char × Part)
  | _, [] => []
  | .text outer, '\\' :: c :: cs => ('\\', .text) :: (c, .text) :: partsFrom (.text outer) cs
  | .text outer, '"' :: cs => ('"', outer.part .code) :: partsFrom (.code outer) cs
  | .text outer, '$' :: '$' :: '\x7b' :: cs =>
    ('$', .mark) :: ('$', .mark) :: ('\x7b', .mark) :: partsFrom (.text outer) cs
  | .text outer, '%' :: '%' :: '\x7b' :: cs =>
    ('%', .text) :: ('%', .text) :: ('\x7b', .text) :: partsFrom (.text outer) cs
  | .text outer, '$' :: '\x7b' :: cs =>
    ('$', .code) :: ('\x7b', .code) :: partsFrom (.code (.interpolation 0 outer)) cs
  | .text outer, '%' :: '\x7b' :: cs =>
    ('%', .directive) :: ('\x7b', .directive) :: partsFrom (.code (.directive 0 outer)) cs
  | .text outer, c :: cs => (c, .text) :: partsFrom (.text outer) cs
  | .code _, '#' :: cs => ('#' :: cs).map (·, .comment)
  | .code _, '/' :: '/' :: cs => ('/' :: '/' :: cs).map (·, .comment)
  | .code inner, '/' :: '*' :: cs =>
    ('/', inner.part .remark) :: ('*', inner.part .remark) :: partsFrom (.remark inner) cs
  | .code inner, '"' :: cs => ('"', inner.part .code) :: partsFrom (.text inner) cs
  | .code inner, '\x7b' :: cs => ('\x7b', inner.part .code) :: partsFrom (.code inner.opened) cs
  | .code inner, '\x7d' :: cs => ('\x7d', inner.part .code) :: partsFrom inner.closed cs
  | .code inner, c :: cs => (c, inner.part .code) :: partsFrom (.code inner) cs
  | .remark inner, '*' :: '/' :: cs =>
    ('*', inner.part .remark) :: ('/', inner.part .remark) :: partsFrom (.code inner) cs
  | .remark inner, c :: cs => (c, inner.part .remark) :: partsFrom (.remark inner) cs

def parts (line : List Char) : List (Char × Part) := partsFrom (.code .outside) line

theorem map_partsFrom (p : Position) (cs : List Char) : (partsFrom p cs).map (·.1) = cs := by
  fun_induction partsFrom p cs <;> simp_all [Function.comp_def]

example : (parts "\"a$\x7bb\x7d\" # c".toList).map (·.2) =
    [.code, .text, .code, .code, .code, .code, .code, .code, .comment, .comment, .comment] := by decide

theorem exists_partsFrom_cons (p : Position) (c : Char) (cs : List Char) :
    ∃ part rest, partsFrom p (c :: cs) = (c, part) :: rest := by
  obtain ⟨⟨d, part⟩, rest, hparts, rfl, -⟩ := List.map_eq_cons_iff.mp (map_partsFrom p (c :: cs))
  exact ⟨part, rest, hparts⟩

/-! ## The search -/

/-- Whether the search takes a character for something else: it takes a doubled dollar sign for the
    beginning of an interpolation, comments between marks for code, and directives for text. -/
def Part.misread : Part → Char → Bool
  | .mark, _ => true
  | .remark, c => ['"', '\x7b', '\x7d'].contains c
  | .directive, c => ['"', '\\', '$'].contains c
  | _, _ => false

/-- Where the search stands: it takes a directive for a part of its text. -/
def Code.frames : Code → List Frame
  | .outside => []
  | .interpolation depth outer => .code depth :: .text :: outer.frames
  | .directive _ outer => .text :: outer.frames

def Position.frames : Position → List Frame
  | .code inner => inner.frames
  | .text outer => .text :: outer.frames
  | .remark inner => inner.frames

section
variable {frames : List Frame} {start at_ n : Nat} {c : Char} {cs : List Char}

/-- A text in which the search stands is covered from its start. -/
theorem covered_open (escaped : Bool) (cs : List Char) (hstart : start ≤ n) (hn : n < at_) :
    covered (quotedFrom (.text :: frames) start escaped at_ cs) n = true := by
  have hrange : (Range.mk start at_).contains n = true := by
    simp [Range.contains, hstart, hn]
  induction cs generalizing at_ escaped with
  | nil => simp [quotedFrom, hrange]
  | cons c cs ih =>
    have hnext : (Range.mk start (at_ + 1)).contains n = true := by
      simp [Range.contains, hstart, Nat.lt_succ_of_lt hn]
    unfold quotedFrom
    dsimp only
    split
    · exact ih _ (Nat.lt_succ_of_lt hn) hnext
    · split
      · exact ih _ (Nat.lt_succ_of_lt hn) hnext
      · simp [hrange]
      · simp [hrange]
      · exact ih _ (Nat.lt_succ_of_lt hn) hnext

theorem quotedFrom_escape (c : Char) (cs : List Char) :
    quotedFrom (.text :: frames) start false at_ ('\\' :: c :: cs) =
      quotedFrom (.text :: frames) start false (at_ + 1 + 1) cs := by
  have hslash : quotedFrom (.text :: frames) start false at_ ('\\' :: c :: cs) =
    quotedFrom (.text :: frames) start true (at_ + 1) (c :: cs) := rfl
  rw [hslash]
  exact (quotedFrom.eq_def ..).trans (if_pos rfl)

theorem quotedFrom_text (hquote : c ≠ '"') (hslash : c ≠ '\\') (hmark : ∀ ds, c = '$' → cs = '\x7b' :: ds → False) :
    quotedFrom (.text :: frames) start false at_ (c :: cs) = quotedFrom (.text :: frames) start false (at_ + 1) cs := by
  rw [quotedFrom.eq_def]
  simp [*]

theorem quotedFrom_plain {inner : Code} (hplain : ∀ part, inner.part part = part) (hquote : c ≠ '"') (hopen : c ≠ '\x7b')
    (hclose : c ≠ '\x7d') :
    quotedFrom inner.frames start false at_ (c :: cs) = quotedFrom inner.frames start false (at_ + 1) cs := by
  cases inner with
  | directive depth outer => exact absurd (hplain .code) (by simp [Code.part])
  | outside =>
    rw [Code.frames, quotedFrom.eq_def]
    simp
  | interpolation depth outer =>
    rw [Code.frames, quotedFrom.eq_def]
    simp [hopen, hclose]

/-- In code the search passes over all that would not be misread in a comment there. -/
theorem quotedFrom_code {inner : Code} (h : (inner.part .remark).misread c = false) :
    quotedFrom inner.frames start false at_ (c :: cs) = quotedFrom inner.frames start false (at_ + 1) cs := by
  cases inner with
  | directive depth outer =>
    simp only [Code.part, Part.misread, List.contains_cons, List.contains_nil, Bool.or_false, Bool.or_eq_false_iff,
      beq_eq_false_iff_ne] at h
    obtain ⟨hquote, hslash, hdollar⟩ := h
    exact quotedFrom_text hquote hslash fun _ hc _ => hdollar hc
  | outside | interpolation =>
    simp only [Code.part, Part.misread, List.contains_cons, List.contains_nil, Bool.or_false, Bool.or_eq_false_iff,
      beq_eq_false_iff_ne] at h
    obtain ⟨hquote, hopen, hclose⟩ := h
    exact quotedFrom_plain (fun _ => rfl) hquote hopen hclose

end

/-- All literal characters are covered, from the first on up to one before which a character is misread. -/
def Covers (parts : List (Char × Part)) (at_ : Nat) (rs : List Range) : Prop :=
  ∀ n c part, parts[n]? = some (c, part) → part.isLiteral → (∀ x ∈ parts.take n, x.2.misread x.1 = false) →
    covered rs (at_ + n) = true

section
variable {parts : List (Char × Part)} {at_ : Nat} {rs : List Range} {c : Char} {part : Part}

theorem covers_nil (at_ : Nat) (rs : List Range) : Covers [] at_ rs := by
  intro n c part hn
  rw [List.getElem?_nil] at hn
  contradiction

theorem covers_cons (hhead : part.isLiteral → covered rs at_ = true)
    (htail : part.misread c = false → Covers parts (at_ + 1) rs) : Covers ((c, part) :: parts) at_ rs := by
  intro n d part' hn hliteral hread
  cases n with
  | zero =>
    obtain ⟨rfl, rfl⟩ := Prod.mk.inj (Option.some.inj hn)
    exact hhead hliteral
  | succ n =>
    rw [List.take_succ_cons, List.forall_mem_cons] at hread
    rw [List.getElem?_cons_succ] at hn
    have hcovered := htail hread.1 n d part' hn hliteral hread.2
    rwa [Nat.add_assoc, Nat.add_comm 1 n] at hcovered

theorem covers_cons_code {inner : Code} (hpart : part = .code ∨ part = .remark)
    (htail : (inner.part part).misread c = false → Covers parts (at_ + 1) rs) :
    Covers ((c, inner.part part) :: parts) at_ rs := by
  refine covers_cons (fun hliteral => ?_) htail
  cases inner <;> obtain rfl | rfl := hpart <;> contradiction

theorem covers_comment (cs : List Char) (at_ : Nat) (rs : List Range) : Covers (cs.map (·, .comment)) at_ rs := by
  induction cs generalizing at_ with
  | nil => exact covers_nil _ _
  | cons c cs ih => exact covers_cons (fun hliteral => by contradiction) fun _ => ih _

theorem Covers.cons (h : Covers parts at_ rs) (r : Range) : Covers parts at_ (r :: rs) := by
  intro n c part hn hliteral hread
  simp [h n c part hn hliteral hread]

end

/-- The search covers literal text as long as nothing is misread: from the same position it goes on
    like the reading, token after token. -/
theorem covers_quotedFrom (p : Position) (cs : List Char) {start at_ : Nat} (hstart : start ≤ at_) :
    Covers (partsFrom p cs) at_ (quotedFrom p.frames start false at_ cs) := by
  refine partsFrom.induct
    (fun p cs => ∀ start at_, start ≤ at_ → Covers (partsFrom p cs) at_ (quotedFrom p.frames start false at_ cs))
    ?nil ?escape ?closingQuote ?dollars ?percents ?interpolation ?directive ?inText ?hash ?slashes ?openRemark
    ?openingQuote ?openBrace ?closeBrace ?inCode ?closeRemark ?inRemark p cs start at_ hstart
  case nil =>
    intro p start at_ hstart
    rw [partsFrom]
    exact covers_nil _ _
  case escape =>
    intro outer c cs ih start at_ hstart
    rw [partsFrom, Position.frames, quotedFrom_escape]
    exact covers_cons (fun _ => covered_open _ _ hstart (by omega)) fun _ =>
      covers_cons (fun _ => covered_open _ _ (by omega) (by omega)) fun _ => ih _ _ (by omega)
  case closingQuote =>
    intro outer cs ih start at_ hstart
    rw [partsFrom]
    have hscan : quotedFrom (.text :: outer.frames) start false at_ ('"' :: cs) =
      ⟨start, at_⟩ :: quotedFrom outer.frames start false (at_ + 1) cs := rfl
    rw [Position.frames, hscan]
    exact covers_cons_code (.inl rfl) fun _ => (ih _ _ (by omega)).cons _
  case dollars =>
    intro outer cs ih start at_ hstart
    rw [partsFrom]
    have hscan : quotedFrom (.text :: outer.frames) start false at_ ('$' :: '$' :: '\x7b' :: cs) =
      quotedFrom (.text :: outer.frames) start false (at_ + 1) ('$' :: '\x7b' :: cs) := rfl
    rw [Position.frames, hscan]
    exact covers_cons (fun _ => covered_open _ _ hstart (by omega)) fun hread => by contradiction
  case percents =>
    intro outer cs ih start at_ hstart
    rw [partsFrom]
    have hscan : quotedFrom (.text :: outer.frames) start false at_ ('%' :: '%' :: '\x7b' :: cs) =
      quotedFrom (.text :: outer.frames) start false (at_ + 1 + 1 + 1) cs := rfl
    rw [Position.frames, hscan]
    exact covers_cons (fun _ => covered_open _ _ hstart (by omega)) fun _ =>
      covers_cons (fun _ => covered_open _ _ (by omega) (by omega)) fun _ =>
        covers_cons (fun _ => covered_open _ _ (by omega) (by omega)) fun _ => ih _ _ (by omega)
  case interpolation =>
    intro outer cs ih start at_ hstart
    rw [partsFrom]
    have hscan : quotedFrom (.text :: outer.frames) start false at_ ('$' :: '\x7b' :: cs) =
      ⟨start, at_⟩ :: quotedFrom (.code 0 :: .text :: outer.frames) start false (at_ + 1 + 1) cs := rfl
    rw [Position.frames, hscan]
    exact covers_cons (fun hliteral => by contradiction) fun _ =>
      covers_cons (fun hliteral => by contradiction) fun _ => (ih _ _ (by omega)).cons _
  case directive =>
    intro outer cs ih start at_ hstart
    rw [partsFrom]
    have hscan : quotedFrom (.text :: outer.frames) start false at_ ('%' :: '\x7b' :: cs) =
      quotedFrom (.text :: outer.frames) start false (at_ + 1 + 1) cs := rfl
    rw [Position.frames, hscan]
    exact covers_cons (fun hliteral => by contradiction) fun _ =>
      covers_cons (fun hliteral => by contradiction) fun _ => ih _ _ (by omega)
  case inText =>
    intro outer c cs hslash hquote hdollars hpercents hmark hdirective ih start at_ hstart
    rw [partsFrom] <;> try assumption
    rw [Position.frames]
    by_cases hlast : c = '\\'
    · -- A backslash that no character follows.
      subst hlast
      obtain rfl : cs = [] := List.eq_nil_iff_forall_not_mem.mpr fun d hd => by
        obtain ⟨e, es, rfl⟩ := List.exists_cons_of_ne_nil (List.ne_nil_of_mem hd)
        exact hslash e es rfl rfl
      have hscan : quotedFrom (.text :: outer.frames) start false at_ ['\\'] =
        quotedFrom (.text :: outer.frames) start true (at_ + 1) [] := rfl
      rw [hscan]
      exact covers_cons (fun _ => covered_open _ _ hstart (by omega)) fun _ => covers_nil _ _
    · rw [quotedFrom_text hquote hlast hmark]
      exact covers_cons (fun _ => covered_open _ _ hstart (by omega)) fun _ => ih _ _ (by omega)
  case hash =>
    intro inner cs start at_ hstart
    rw [partsFrom]
    exact covers_comment _ _ _
  case slashes =>
    intro inner cs start at_ hstart
    rw [partsFrom]
    exact covers_comment _ _ _
  case openRemark =>
    intro inner cs ih start at_ hstart
    rw [partsFrom]
    have hslash : (inner.part .remark).misread '/' = false := by cases inner <;> rfl
    have hstar : (inner.part .remark).misread '*' = false := by cases inner <;> rfl
    rw [Position.frames, quotedFrom_code hslash, quotedFrom_code hstar]
    exact covers_cons_code (.inr rfl) fun _ => covers_cons_code (.inr rfl) fun _ => ih _ _ (by omega)
  case openingQuote =>
    intro inner cs ih start at_ hstart
    rw [partsFrom]
    refine covers_cons_code (.inl rfl) fun hread => ?_
    cases inner with
    | directive => contradiction
    | outside | interpolation => exact ih _ _ (Nat.le_refl _)
  case openBrace =>
    intro inner cs ih start at_ hstart
    rw [partsFrom]
    refine covers_cons_code (.inl rfl) fun _ => ?_
    cases inner <;> exact ih _ _ (by omega)
  case closeBrace =>
    intro inner cs ih start at_ hstart
    rw [partsFrom]
    refine covers_cons_code (.inl rfl) fun _ => ?_
    cases inner with
    | outside => exact ih _ _ (by omega)
    | interpolation depth outer => cases depth <;> exact ih _ _ (by omega)
    | directive depth outer => cases depth <;> exact ih _ _ (by omega)
  case inCode =>
    intro inner c cs hhash hslashes hremark hquote hopen hclose ih start at_ hstart
    rw [partsFrom] <;> try assumption
    refine covers_cons_code (.inl rfl) fun hread => ?_
    have hscan : quotedFrom inner.frames start false at_ (c :: cs) = quotedFrom inner.frames start false (at_ + 1) cs := by
      cases inner with
      | directive => exact quotedFrom_code hread
      | outside | interpolation => exact quotedFrom_plain (fun _ => rfl) hquote hopen hclose
    rw [Position.frames, hscan]
    exact ih _ _ (by omega)
  case closeRemark =>
    intro inner cs ih start at_ hstart
    rw [partsFrom]
    have hslash : (inner.part .remark).misread '/' = false := by cases inner <;> rfl
    have hstar : (inner.part .remark).misread '*' = false := by cases inner <;> rfl
    rw [Position.frames, quotedFrom_code hstar, quotedFrom_code hslash]
    exact covers_cons_code (.inr rfl) fun _ => covers_cons_code (.inr rfl) fun _ => ih _ _ (by omega)
  case inRemark =>
    intro inner c cs hend ih start at_ hstart
    rw [partsFrom] <;> try assumption
    refine covers_cons_code (.inr rfl) fun hread => ?_
    rw [Position.frames, quotedFrom_code hread]
    exact ih _ _ (by omega)

theorem misread_of_literal {line : List Char} {n : Nat} {c : Char} {part : Part}
    (hcovered : covered (quotedRanges line) n = false) (hpart : (parts line)[n]? = some (c, part))
    (hliteral : part.isLiteral) : ∃ x ∈ (parts line).take n, x.2.misread x.1 = true := by
  by_contra hread
  simp only [not_exists, not_and, Bool.not_eq_true] at hread
  have hquoted := covers_quotedFrom (.code .outside) line (Nat.le_refl 0) n c part hpart hliteral hread
  rw [Nat.zero_add] at hquoted
  exact absurd (hcovered.symm.trans hquoted) (by decide)

/-! ## Comments -/

theorem partsFrom_blank {c : Char} (h : Text.isBlank c = true) (inner : Code) (cs : List Char) :
    partsFrom (.code inner) (c :: cs) = (c, inner.part .code) :: partsFrom (.code inner) cs := by
  have hne (d : Char) (hd : Text.isBlank d = false) : c ≠ d := by
    rintro rfl
    exact absurd (h.symm.trans hd) (by decide)
  rw [partsFrom]
  · exact hne _ (by decide)
  · exact fun _ hc _ => hne _ (by decide) hc
  · exact fun _ hc _ => hne _ (by decide) hc
  · exact hne _ (by decide)
  · exact hne _ (by decide)
  · exact hne _ (by decide)

theorem starts_comment {p : Position} {cs : List Char} {c : Char} {rest : List (Char × Part)}
    (h : partsFrom p cs = (c, .comment) :: rest) : (∃ ds, cs = '#' :: ds) ∨ ∃ ds, cs = '/' :: '/' :: ds := by
  have hpart (inner : Code) : inner.part .code ≠ .comment ∧ inner.part .remark ≠ .comment := by
    cases inner <;> exact ⟨nofun, nofun⟩
  unfold partsFrom at h
  split at h
  all_goals first
    | exact .inl ⟨_, rfl⟩
    | exact .inr ⟨_, rfl⟩
    | contradiction
    | exact absurd (congrArg Prod.snd (List.cons.inj h).1) (by simp [hpart])

/-- On a line that is not passed over something stands before a comment. -/
theorem trailing_of_comment {line : List Char} (hidle : isIdle line = false) {n : Nat} {c : Char}
    (h : (parts line)[n]? = some (c, .comment)) :
    ∃ x ∈ (parts line).take n, x.2 ≠ .comment ∧ Text.isBlank x.1 = false := by
  unfold parts at *
  induction line generalizing n with
  | nil => contradiction
  | cons d cs ih =>
    cases hd : Text.isBlank d with
    | true =>
      have hcs : isIdle cs = false := by
        rwa [isIdle, Text.trimStart, List.dropWhile_cons_of_pos hd] at hidle
      rw [partsFrom_blank hd] at h ⊢
      cases n with
      | zero =>
        rw [List.getElem?_cons_zero] at h
        cases h
      | succ n =>
        obtain ⟨x, hx, hcomment, hblank⟩ := ih hcs h
        exact ⟨x, List.mem_cons_of_mem _ hx, hcomment, hblank⟩
    | false =>
      have htrim : Text.trimStart (d :: cs) = d :: cs := List.dropWhile_cons_of_neg (by simp [hd])
      rw [isIdle, htrim] at hidle
      obtain ⟨part, rest, hline⟩ := exists_partsFrom_cons (.code .outside) d cs
      have hpart : part ≠ .comment := by
        rintro rfl
        obtain ⟨ds, hds⟩ | ⟨ds, hds⟩ := starts_comment hline
        · rw [hds] at hidle
          contradiction
        · rw [hds] at hidle
          contradiction
      rw [hline] at h ⊢
      cases n with
      | zero => exact absurd (congrArg Prod.snd (Option.some.inj h)) hpart
      | succ n => exact ⟨(d, part), List.mem_cons_self, hpart, hd⟩

/-! ## Listed expressions -/

theorem written_resolveText (t : Symbols.Table) (text : String) : (t.resolveText text).written = Text.trimmed text := by
  unfold Symbols.Table.resolveText
  dsimp only
  split
  · unfold Symbols.Table.resolveAs
    cases t.outcome _ <;> rfl
  · rfl

theorem of_mem_ofLine {t : Symbols.Table} {number : Nat} {line : List Char} {g : Gloss} (h : g ∈ ofLine t number line) :
    g.line = number ∧ isIdle line = false ∧ ∃ r ∈ candidates line, g.written = Text.trimmed (textOf line r) := by
  unfold ofLine at h
  split at h
  · contradiction
  · rename_i hidle
    obtain ⟨s, hs, hresolved⟩ := List.mem_filterMap.mp h
    obtain ⟨r, hr, rfl⟩ := List.mem_map.mp (Symbols.mem_distinct.mp hs)
    dsimp only at hresolved
    split at hresolved
    · obtain rfl := Option.some.inj hresolved
      refine ⟨rfl, eq_false_of_ne_true hidle, r, hr, ?_⟩
      dsimp only
      exact written_resolveText t (textOf line r)
    · cases hresolved

theorem of_mem_collect {t : Symbols.Table} {snippet : String} {g : Gloss} (h : g ∈ collect t snippet) :
    ∃ number line, (Text.lines snippet.toList)[number]? = some line ∧ g ∈ ofLine t (number + 1) line := by
  obtain ⟨gs, hgs, hg⟩ := List.mem_flatten.mp h
  obtain ⟨number, hnumber, rfl⟩ := List.mem_mapIdx.mp hgs
  exact ⟨number, _, List.getElem?_eq_getElem hnumber, hg⟩

/-- An expression that is listed stands on a line of the snippet. All candidates of the line start in
    code, in a directive or in a comment between marks, unless a character before was misread or a
    comment to the end of the line stands after something else. -/
theorem listed_from_code (t : Symbols.Table) (snippet : String) {g : Gloss} (h : g ∈ collect t snippet) :
    ∃ number line, g.line = number + 1 ∧ (Text.lines snippet.toList)[number]? = some line ∧
      (∃ r ∈ candidates line, g.written = Text.trimmed (textOf line r)) ∧
      ∀ r ∈ candidates line, ∃ c part, (parts line)[r.start]? = some (c, part) ∧ Text.isBlank c = false ∧
        (part.isLiteral → ∃ x ∈ (parts line).take r.start, x.2.misread x.1) ∧
        (part = .comment → ∃ x ∈ (parts line).take r.start, x.2 ≠ .comment ∧ Text.isBlank x.1 = false) := by
  obtain ⟨number, line, hline, hg⟩ := of_mem_collect h
  obtain ⟨hnumber, hidle, hwritten⟩ := of_mem_ofLine hg
  refine ⟨number, line, hnumber, hline, hwritten, fun r hr => ?_⟩
  obtain ⟨hfree, c, hc, hblank⟩ := start_of_mem_candidates hr
  have hparts : (parts line)[r.start]?.map (·.1) = some c := by
    rw [← List.getElem?_map, parts, map_partsFrom, hc]
  obtain ⟨⟨d, part⟩, hpart, rfl⟩ := Option.map_eq_some_iff.mp hparts
  refine ⟨d, part, hpart, hblank, misread_of_literal hfree hpart, ?_⟩
  rintro rfl
  exact trailing_of_comment hidle hpart

def envFile : SourceFile := ⟨"main.tf", "variable \"env\" \x7b default = \"prod\" \x7d\n"⟩

def envTable : Symbols.Table := .ofFiles [envFile] [] true

/-- A reference in an interpolation is listed. -/
theorem listed_from_code_envTable :
    ∃ g ∈ collect envTable "a = \"$\x7bvar.env\x7d\"", g.written = "$\x7bvar.env\x7d" ∧ ∃ number line, g.line = number + 1 ∧
      (Text.lines "a = \"$\x7bvar.env\x7d\"".toList)[number]? = some line ∧
      ∃ r ∈ candidates line, g.written = Text.trimmed (textOf line r) := by
  have hlisted : (collect envTable "a = \"$\x7bvar.env\x7d\"").map (·.written) = ["$\x7bvar.env\x7d"] := by
    decide +kernel
  obtain ⟨g, hcollect, hg⟩ := List.map_eq_singleton_iff.mp hlisted
  have hmem : g ∈ collect envTable "a = \"$\x7bvar.env\x7d\"" := by
    rw [hcollect]
    exact List.mem_singleton_self g
  obtain ⟨number, line, hnumber, hline, hwritten, -⟩ := listed_from_code envTable _ hmem
  exact ⟨g, hmem, hg, number, line, hnumber, hline, hwritten⟩

def commentedLine : String := "a = 1 # var.env"

def escapedLine : String := "a = \"$$\x7bvar.env\x7d\""

/-- The only expression of either line is listed, though one is in a comment after code and the other
    is the text of a string. -/
theorem listed_outside_code :
    (Text.lines commentedLine.toList = [commentedLine.toList] ∧
      (collect envTable commentedLine).map (·.written) = ["var.env"] ∧ candidates commentedLine.toList = [⟨8, 15⟩] ∧
      (parts commentedLine.toList)[8]? = some ('v', .comment)) ∧
    Text.lines escapedLine.toList = [escapedLine.toList] ∧
      (collect envTable escapedLine).map (·.written) = ["$\x7bvar.env\x7d"] ∧
      candidates escapedLine.toList = [⟨6, 16⟩] ∧ (parts escapedLine.toList)[6]? = some ('$', .mark) := by
  refine ⟨⟨?_, ?_, ?_, ?_⟩, ?_, ?_, ?_, ?_⟩ <;> decide +kernel

end TagAudit.Gloss
