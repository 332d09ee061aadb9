/-
  TagAudit.Text.Blank — white space, and cutting it off.

  Text is read as a list of characters. `isBlank` is the property White_Space of the Unicode
  standard; `trimStart`, `trimEnd` and `trim` cut such characters off an end, `words` splits
  at runs of them.
-/

namespace TagAudit.Text

/-- The characters with the property White_Space. -/
def isBlank (c : Char) : Bool :=
  let n := c.toNat
  (0x09 ≤ n && n ≤ 0x0D) || n == 0x20 || n == 0x85 || n == 0xA0 || n == 0x1680 ||
    (0x2000 ≤ n && n ≤ 0x200A) || n == 0x2028 || n == 0x2029 || n == 0x202F || n == 0x205F || n == 0x3000

def trimStart (cs : List Char) : List Char := cs.dropWhile isBlank

def trimEnd (cs : List Char) : List Char := (cs.reverse.dropWhile isBlank).reverse

def trim (cs : List Char) : List Char := trimEnd (trimStart cs)

def trimmed (s : String) : String := String.ofList (trim s.toList)

theorem trimStart_of_head {cs : List Char} (h : ∀ c, cs.head? = some c → isBlank c = false) : trimStart cs = cs := by
  cases cs with
  | nil => rfl
  | cons c cs => exact List.dropWhile_cons_of_neg (by simp [h c rfl])

theorem trimEnd_of_last {cs : List Char} (h : ∀ c, cs.getLast? = some c → isBlank c = false) : trimEnd cs = cs := by
  have hreverse : trimStart cs.reverse = cs.reverse := trimStart_of_head fun c hc => h c (by rwa [List.head?_reverse] at hc)
  rw [trimEnd, ← trimStart, hreverse, List.reverse_reverse]

/-- There is nothing to cut off a text with ends that are not white space. -/
theorem trimmed_of_ends {s : String} (hfirst : ∀ c, s.toList.head? = some c → isBlank c = false)
    (hlast : ∀ c, s.toList.getLast? = some c → isBlank c = false) : trimmed s = s := by
  rw [trimmed, trim, trimStart_of_head hfirst, trimEnd_of_last hlast, String.ofList_toList]

/-- There is nothing to cut off from a text without white space. -/
theorem trimmed_of_forall {s : String} (h : ∀ c ∈ s.toList, isBlank c = false) : trimmed s = s :=
  trimmed_of_ends (fun c hc => h c (List.mem_of_head? hc)) fun c hc => h c (List.mem_of_getLast? hc)

/-- What is cut off an end reaches at most to a character that is not white space. -/
theorem trimEnd_append {cs ds : List Char} {c : Char} (hc : c ∈ ds) (hblank : isBlank c = false) :
    trimEnd (cs ++ ds) = cs ++ trimEnd ds := by
  have hstop : ds.reverse.dropWhile isBlank ≠ [] := by
    intro hnil
    have hall : (ds.reverse.takeWhile isBlank).all isBlank = true := List.all_takeWhile
    rw [← List.append_nil (List.takeWhile _ _), ← hnil, List.takeWhile_append_dropWhile, List.all_eq_true] at hall
    rw [hall c (List.mem_reverse.mpr hc)] at hblank
    contradiction
  simp [trimEnd, List.dropWhile_append, hstop]

/-- The maximal runs of characters that are not blank. -/
def words (cs : List Char) : List (List Char) :=
  let push (word : List Char) (ws : List (List Char)) := if word.isEmpty then ws else word.reverse :: ws
  let (word, ws) := cs.foldl
    (fun (word, ws) c => if isBlank c then ([], push word ws) else (c :: word, ws)) ([], [])
  (push word ws).reverse

/-- Whether `cs` starts with `mark`, and what follows it. -/
def afterMark? : (mark cs : List Char) → Option (List Char)
  | [], cs => some cs
  | _ :: _, [] => none
  | m :: mark, c :: cs => if m = c then afterMark? mark cs else none

theorem afterMark?_eq_some {mark cs rest : List Char} : afterMark? mark cs = some rest ↔ cs = mark ++ rest := by
  induction mark generalizing cs with
  | nil => simp [afterMark?]
  | cons m mark ih =>
    cases cs with
    | nil => simp [afterMark?]
    | cons c cs =>
      rw [afterMark?, List.cons_append, List.cons.injEq, eq_comm (a := c)]
      split
      · rename_i h
        rw [ih, and_iff_right h]
      · rename_i h
        simp [h]

def startsWith (cs mark : List Char) : Bool := (afterMark? mark cs).isSome

/-- What precedes and what follows the first occurrence of `mark` in `cs`. -/
def splitAtMark? (mark : List Char) : List Char → Option (List Char × List Char)
  | [] => if mark.isEmpty then some ([], []) else none
  | c :: cs =>
    match afterMark? mark (c :: cs) with
    | some rest => some ([], rest)
    | none => (splitAtMark? mark cs).map fun (before, after) => (c :: before, after)

def contains (cs part : List Char) : Bool := (splitAtMark? part cs).isSome

/-- Size in bytes of the UTF-8 form. -/
def byteSize (cs : List Char) : Nat := cs.foldr (fun c n => c.utf8Size + n) 0

end TagAudit.Text
