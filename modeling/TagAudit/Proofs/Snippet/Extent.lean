/-
  TagAudit.Proofs.Snippet.Extent — the snippet of a resource and the lines of its block.

  The grammar says where a block starts and ends, the snippet is cut where the counter of braces
  finds it closed. A block always starts on the line that its resource is said to start on
  (`tokenLine_of_stands`). Both end it on the same line if all of its text is tokens to one who
  only keeps count of braces and of quotes (`Legible`, `extract_of_legible`).
-/

import TagAudit.Proofs.Snippet.Counting
import TagAudit.Proofs.Text.Utf8
import TagAudit.Resource

namespace TagAudit

open Text Hcl

theorem Hcl.bytesBefore_append (pre cs : List Char) : bytesBefore (byteSize (pre ++ cs)) cs = byteSize pre := by
  rw [bytesBefore, byteSize_append, Nat.add_sub_cancel]

theorem Hcl.Encloses.suffix {cs rest : List Char} (h : Encloses cs rest) : '\x7d' :: rest <:+ cs := by
  obtain ⟨mid, hlabels, hbody⟩ := h
  exact hbody.suffix.trans ((List.suffix_cons _ mid).trans hlabels.tracks.suffix)

namespace Snippet

variable {source cs rest : List Char}

/-! ## Offsets -/

theorem before_append (pre cs : List Char) : before (byteSize pre) (pre ++ cs) = pre := by
  induction pre with
  | nil => cases cs <;> rfl
  | cons c pre ih =>
    have hsize : byteSize (c :: pre) = c.utf8Size + byteSize pre := rfl
    have hpos := c.utf8Size_pos
    rw [List.cons_append, before, if_neg (by omega), hsize, Nat.add_sub_cancel_left, ih]

theorem after_append (pre cs : List Char) : after (byteSize pre) (pre ++ cs) = cs := by
  induction pre with
  | nil => cases cs <;> rfl
  | cons c pre ih =>
    have hsize : byteSize (c :: pre) = c.utf8Size + byteSize pre := rfl
    have hpos := c.utf8Size_pos
    rw [List.cons_append, after, if_neg (by omega), hsize, Nat.add_sub_cancel_left, ih]

theorem lineOf_append (pre cs : List Char) : lineOf (pre ++ cs) (byteSize pre) = countLineFeeds pre + 1 := by
  rw [lineOf, before_append]

theorem tokenFrom_ident {c : Char} (h : isIdentStart c) (fuel : Nat) (cs : List Char) :
    tokenFrom fuel (c :: cs) = c :: cs := by
  have hblank : trimStart (c :: cs) = c :: cs :=
    List.dropWhile_cons_of_neg (by simp [isBlank_of_isIdentChar (isIdentChar_of_start h)])
  cases fuel with
  | zero => rfl
  | succ fuel =>
    rw [tokenFrom, hblank]
    split
    · exact absurd (List.cons.inj ‹_›).1 (ne_of_isIdentStart h rfl)
    · exact absurd (List.cons.inj ‹_›).1 (ne_of_isIdentStart h rfl)
    · exact absurd (List.cons.inj ‹_›).1 (ne_of_isIdentStart h rfl)
    · rfl

theorem tokenLine_append {c : Char} (h : isIdentStart c) (pre cs : List Char) :
    tokenLine (pre ++ c :: cs) (byteSize pre) = lineOf (pre ++ c :: cs) (byteSize pre) := by
  rw [tokenLine, after_append, tokenFrom_ident h, lineOf_append, List.length_append, Nat.add_sub_cancel, List.take_left]

/-! ## Lines -/

def skipLines : Nat → List Char → List Char
  | 0, cs => cs
  | n + 1, cs => skipLines n (atLineFeed cs).tail

def linesBetween (source : List Char) (first last : Nat) : List Char :=
  joinLines (((lines source).drop (first - 1)).take (last + 1 - first))

theorem tail_linesFrom (line cs : List Char) : (linesFrom line cs).tail = lines (atLineFeed cs).tail := by
  induction cs generalizing line with
  | nil =>
    rw [linesFrom]
    split <;> rfl
  | cons c cs ih =>
    by_cases hc : c = '\n'
    · rw [hc]
      unfold linesFrom
      rfl
    · rw [linesFrom, ih, atLineFeed, atLineFeed, Braces.dropWhile_of_ne hc]
      exact hc

theorem lines_skipLines (n : Nat) (cs : List Char) : lines (skipLines n cs) = (lines cs).drop n := by
  induction n generalizing cs with
  | zero => rfl
  | succ n ih => rw [skipLines, ih, ← tail_linesFrom [] cs, List.drop_tail, ← lines]

theorem countLineFeeds_tail (cs : List Char) : countLineFeeds (atLineFeed cs).tail = countLineFeeds cs - 1 := by
  induction cs with
  | nil => rfl
  | cons c cs ih =>
    by_cases hc : c = '\n'
    · rw [hc, atLineFeed, Braces.dropWhile_lineFeed, List.tail_cons, countLineFeeds, countLineFeeds,
        List.count_cons_self, Nat.add_sub_cancel]
    · rw [atLineFeed, Braces.dropWhile_of_ne hc, ← atLineFeed, ih, countLineFeeds, countLineFeeds,
        List.count_cons_of_ne hc]

theorem countLineFeeds_skipLines (n : Nat) (cs : List Char) :
    countLineFeeds (skipLines n cs) = countLineFeeds cs - n := by
  induction n generalizing cs with
  | zero => rfl
  | succ n ih => rw [skipLines, ih, countLineFeeds_tail, Nat.sub_sub, Nat.add_comm 1]

/-! ## Blocks -/

/-- One can read over a part of a text token after token, and over what stands before it on its line,
    where there is no brace. One gets stuck (`step?`) where one who only keeps count of braces and of
    quotes may take a character for something else than the grammar does. -/
structure Legible (source : List Char) (span : Span) : Prop where
  line : Run Braces.OnlyQuotes ([], skipLines (lineOf source span.start - 1) source) ([], after span.start source)
  block : Plain (after span.start source) (after span.stop source)

theorem legible_of_passOver {span : Span} {n : Nat} {st : List Opener}
    (hline : skipLines (lineOf source span.start - 1) source = after span.start source)
    (hblock : passOver n ([], after span.start source) = some (st, after span.stop source)) : Legible source span :=
  ⟨hline ▸ .refl _ _, st, .of_passOver hblock⟩

/-- Where a block starts, and where its closing brace stands. -/
theorem parts_of_stands {b : Block} (h : b.Stands source cs rest) :
    (∃ pre, source = pre ++ cs ∧ b.span.start = byteSize pre) ∧
      ∃ pre, source = pre ++ '\x7d' :: rest ∧ b.span.stop = byteSize (pre ++ ['\x7d']) := by
  obtain ⟨pre, rfl⟩ := h.suffix
  obtain ⟨inner, hinner⟩ := h.encloses.suffix
  refine ⟨⟨pre, rfl, ?_⟩, pre ++ inner, ?_, ?_⟩
  · rw [h.span, bytesBefore_append]
  · rw [List.append_assoc, hinner]
  · rw [h.span, ← bytesBefore_append (pre ++ inner ++ ['\x7d']) rest]
    simp [hinner]

theorem tokenLine_of_stands {b : Block} (h : b.Stands source cs rest) :
    tokenLine source b.span.start = lineOf source b.span.start := by
  obtain ⟨⟨pre, rfl, hstart⟩, -⟩ := parts_of_stands h
  obtain ⟨c, ds, rfl, hc⟩ := h.named
  rw [hstart]
  exact tokenLine_append hc pre ds

/-- The outermost brace is found closed on the last line of the block. -/
theorem linesToClose?_of_legible {b : Block} (h : b.Stands source cs rest) (hlegible : Legible source b.span) :
    Braces.start.linesToClose? ((lines source).drop (lineOf source b.span.start - 1)) =
      some (lineOf source (b.span.stop - 1) + 1 - lineOf source b.span.start) := by
  obtain ⟨⟨pre, hpre, hstart⟩, pre', hpre', hstop⟩ := parts_of_stands h
  have hfirst : lineOf source b.span.start = countLineFeeds pre + 1 := by rw [hstart, hpre, lineOf_append]
  have hlast : lineOf source (b.span.stop - 1) = countLineFeeds pre' + 1 := by
    rw [hstop, hpre', byteSize_append]
    exact lineOf_append pre' _
  have hcs : after b.span.start source = cs := by rw [hstart, hpre, after_append]
  have hrest : after b.span.stop source = rest := by
    rw [hstop, hpre', List.append_cons pre' '\x7d' rest, after_append]
  obtain ⟨hline, hblock⟩ := hlegible
  rw [hcs] at hline
  rw [hcs, hrest] at hblock
  obtain ⟨k, hk, hclose⟩ := Braces.linesToClose?_of_plain hline h.encloses hblock
  rw [lines_skipLines] at hclose
  rw [hclose, hfirst, hlast]
  -- the line feeds before the closing brace are those before the block and those in between
  have hcount : countLineFeeds source = countLineFeeds pre + countLineFeeds cs := hpre ▸ List.count_append
  have hcount' : countLineFeeds source = countLineFeeds pre' + countLineFeeds ('\x7d' :: rest) := hpre' ▸ List.count_append
  rw [countLineFeeds_skipLines, hfirst] at hk
  exact congrArg some (by omega)

/-- What is cut out are the lines on which a block stands. -/
theorem extract_of_legible {b : Block} (h : b.Stands source cs rest) (hlegible : Legible source b.span) (lastLine : Nat) :
    extract source (lineOf source b.span.start) lastLine =
      truncate (trim (linesBetween source (lineOf source b.span.start) (lineOf source (b.span.stop - 1)))) := by
  have hclose := linesToClose?_of_legible h hlegible
  have hlines : ¬ (lineOf source b.span.start = 0 ∨ (lines source).length < lineOf source b.span.start) := by
    rintro (hzero | hlength)
    · nomatch hzero
    · rw [List.drop_eq_nil_of_le (Nat.le_sub_one_of_lt hlength)] at hclose
      contradiction
  rw [extract, if_neg hlines]
  dsimp only
  rw [hclose, Option.getD_some, linesBetween]

end Snippet

namespace Resource

variable {file : SourceFile} {body : Body} {b : Block} {type name : String} {labels : List String}

theorem ofBlock?_resource (file : SourceFile) (hkind : b.kind = "resource") (hlabels : b.labels = type :: name :: labels) :
    ∃ r, ofBlock? file b = some r ∧ r.type = type ∧ r.name = name ∧ r.body = b.body ∧
      r.line = Snippet.tokenLine file.contents.toList b.span.start ∧
      r.snippet = String.ofList (Snippet.extract file.contents.toList r.line
        (Snippet.lineOf file.contents.toList (b.span.stop - 1))) := by
  obtain ⟨kind, ls, inner, span⟩ := b
  obtain rfl : kind = "resource" := hkind
  obtain rfl : ls = type :: name :: labels := hlabels
  exact ⟨_, rfl, rfl, rfl, rfl, rfl, rfl⟩

/-- The last declaration of a resource is the one that is kept. -/
theorem mem_ofBody {before later : List Block} {r : Resource} (hblocks : body.blocks = before ++ b :: later)
    (hr : ofBlock? file b = some r) (hlast : ∀ r' ∈ later.filterMap (ofBlock? file), r'.address ≠ r.address) :
    r ∈ ofBody file body := by
  have hafter : ∀ e ∈ (later.filterMap (ofBlock? file)).map fun r => (r.address, r), e.1 ≠ r.address :=
    List.forall_mem_map.mpr hlast
  have hget := OrderedMap.get?_insertAll_append [] ((before.filterMap (ofBlock? file)).map fun r => (r.address, r))
    r.address r hafter
  rw [ofBody, hblocks, List.filterMap_append, List.filterMap_cons_some hr, List.map_append, List.map_cons]
  exact List.mem_map_of_mem (OrderedMap.mem_of_get? hget)

/-- The last declaration of a resource is found on the line on which its block starts. Its snippet
    are the lines of the block, from which white space is cut off and which are kept from growing
    long, if the block is legible. -/
theorem snippet_of_block (hbody : Body.read? file.contents = some body) {before later : List Block}
    (hblocks : body.blocks = before ++ b :: later) (hkind : b.kind = "resource") (hlabels : b.labels = type :: name :: labels)
    (hlast : ∀ r ∈ later.filterMap (ofBlock? file), r.address ≠ addressOf type name) :
    ∃ rs, locate? file = some rs ∧ ∃ r ∈ rs, r.type = type ∧ r.name = name ∧ r.body = b.body ∧
      r.line = Snippet.lineOf file.contents.toList b.span.start ∧
      (Snippet.Legible file.contents.toList b.span → r.snippet = String.ofList (Snippet.truncate (Text.trim
        (Snippet.linesBetween file.contents.toList r.line (Snippet.lineOf file.contents.toList (b.span.stop - 1)))))) := by
  obtain ⟨cs, rest, hstands⟩ := Body.stands hbody b (by simp [hblocks])
  obtain ⟨r, hr, rfl, rfl, hsame, hline, hsnippet⟩ := ofBlock?_resource file hkind hlabels
  rw [Snippet.tokenLine_of_stands hstands] at hline
  refine ⟨_, by rw [locate?, hbody, Option.map_some], r, mem_ofBody hblocks hr hlast, rfl, rfl, hsame, hline, ?_⟩
  intro hlegible
  rw [hsnippet, hline, Snippet.extract_of_legible hstands hlegible]

/-- A closing brace in a string, and another one in a comment. -/
def braceFile : SourceFile := ⟨"main.tf", "resource \"a\" \"b\" \x7b\n  x = \"\x7d\" # \x7d\n\x7d\n"⟩

def braceBlock : Block := ⟨"resource", ["a", "b"], [.attribute ⟨"x", .text "\x7d", ⟨21, 28⟩⟩], ⟨0, 34⟩⟩

theorem snippet_of_block_braceFile : ∃ rs, locate? braceFile = some rs ∧ ∃ r ∈ rs, r.name = "b" ∧ r.line = 1 ∧
    r.snippet = "resource \"a\" \"b\" \x7b\n  x = \"\x7d\" # \x7d\n\x7d" := by
  have hbody : Body.read? braceFile.contents = some [.block "resource" ["a", "b"] braceBlock.body ⟨0, 34⟩] := by rfl
  have hblocks : Body.blocks [.block "resource" ["a", "b"] braceBlock.body ⟨0, 34⟩] = [] ++ braceBlock :: [] := rfl
  obtain ⟨rs, hrs, r, hr, -, hname, -, hline, hsnippet⟩ := snippet_of_block hbody hblocks rfl rfl (by simp)
  have hread : passOver 32 ([], Snippet.after 0 braceFile.contents.toList) =
      some ([], Snippet.after 34 braceFile.contents.toList) := by decide +kernel
  have hlegible : Snippet.Legible braceFile.contents.toList braceBlock.span :=
    Snippet.legible_of_passOver (by decide +kernel) hread
  have hline : r.line = 1 := hline.trans (by decide +kernel)
  refine ⟨rs, hrs, r, hr, hname, hline, (hsnippet hlegible).trans ?_⟩
  rw [hline]
  decide +kernel

/-- A part of a string that depends on a condition. -/
def directiveText : List Char :=
  "resource \"a\" \"b\" \x7b\n  x = \"v%\x7b if p \x7d1%\x7b endif \x7d\"\n\x7d\n".toList

example : Snippet.Legible directiveText ⟨0, 50⟩ := by
  have hread : passOver 48 ([], Snippet.after 0 directiveText) = some ([], Snippet.after 50 directiveText) := by
    decide +kernel
  exact Snippet.legible_of_passOver (by decide +kernel) hread

/-- A quote in an interpolation in a string. -/
def nestedFile : SourceFile :=
  ⟨"main.tf", "resource \"a\" \"b\" \x7b\n  x = \"$\x7bf(\"\x7d\")\x7d\"\n  y = 1\n\x7d\n"⟩

/-- The counter of braces takes the quote for the end of the string and what follows for the end
    of the block, which goes on for two more lines. -/
theorem snippet_cut_short :
    (Body.read? nestedFile.contents).map (fun body => body.blocks.map fun b =>
      (b.kind, b.labels, Snippet.lineOf nestedFile.contents.toList b.span.start,
        Snippet.lineOf nestedFile.contents.toList (b.span.stop - 1))) = some [("resource", ["a", "b"], 1, 4)] ∧
    (locate? nestedFile).map (fun rs => rs.map fun r => (r.line, r.snippet)) =
      some [(1, "resource \"a\" \"b\" \x7b\n  x = \"$\x7bf(\"\x7d\")\x7d\"")] ∧
    Snippet.truncate (trim (Snippet.linesBetween nestedFile.contents.toList 1 4)) =
      "resource \"a\" \"b\" \x7b\n  x = \"$\x7bf(\"\x7d\")\x7d\"\n  y = 1\n\x7d".toList :=
  ⟨by decide +kernel, by decide +kernel, by decide +kernel⟩

end Resource
end TagAudit
