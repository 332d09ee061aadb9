/-
  TagAudit.Proofs.Text.Utf8 — texts and the bytes of their UTF-8 forms.

  A text is a list of characters. Where something is counted, searched or ordered by bytes, it is
  said here what that comes to for characters:
  - `length_utf8`: `byteSize` counts the bytes.
  - `getElem?_utf8_eq_lineFeed`: the byte of a line feed is found where the character is.
  - `utf8_lt`: texts are in the same order by their bytes as by their characters.
-/

import TagAudit.Text.Blank

namespace TagAudit.Text

def utf8 (cs : List Char) : List UInt8 := cs.flatMap String.utf8EncodeChar

/-- The UTF-8 form of a string is what it is stored as. -/
theorem utf8_toList (s : String) : utf8 s.toList = s.toByteArray.data.toList := by
  rw [← String.utf8Encode_toList]
  simp [utf8, List.utf8Encode]

@[simp] theorem utf8_nil : utf8 [] = [] := rfl

@[simp] theorem utf8_cons (c : Char) (cs : List Char) : utf8 (c :: cs) = String.utf8EncodeChar c ++ utf8 cs := rfl

@[simp] theorem utf8_append (cs ds : List Char) : utf8 (cs ++ ds) = utf8 cs ++ utf8 ds := List.flatMap_append

@[simp] theorem byteSize_cons (c : Char) (cs : List Char) : byteSize (c :: cs) = c.utf8Size + byteSize cs := rfl

@[simp] theorem byteSize_append (pre cs : List Char) : byteSize (pre ++ cs) = byteSize pre + byteSize cs := by
  induction pre with
  | nil => exact (Nat.zero_add _).symm
  | cons c pre ih => rw [List.cons_append, byteSize_cons, byteSize_cons, ih, Nat.add_assoc]

/-- Of two beginnings of a text the one with fewer bytes is the shorter one. -/
theorem prefix_of_byteSize_le {p q cs : List Char} (hp : p <+: cs) (hq : q <+: cs) (h : byteSize q ≤ byteSize p) :
    q <+: p := by
  rcases List.prefix_or_prefix_of_prefix hp hq with ⟨rest, rfl⟩ | hqp
  · cases rest with
    | nil => simp
    | cons c rest =>
      have hpos := c.utf8Size_pos
      rw [byteSize_append, byteSize_cons] at h
      omega
  · exact hqp

@[simp] theorem length_utf8 (cs : List Char) : (utf8 cs).length = byteSize cs := by
  induction cs with
  | nil => rfl
  | cons c cs ih => rw [utf8_cons, List.length_append, String.length_utf8EncodeChar, ih, byteSize_cons]

/-! ## The bytes of a character -/

/-- The bytes of a character as numbers: the first one tells how many follow, each with six bits. -/
theorem map_toNat_utf8EncodeChar (c : Char) :
    c.toNat < 0x80 ∧ (String.utf8EncodeChar c).map UInt8.toNat = [c.toNat] ∨
    0x80 ≤ c.toNat ∧ c.toNat < 0x800 ∧
      (String.utf8EncodeChar c).map UInt8.toNat = [0xC0 + c.toNat / 64, 0x80 + c.toNat % 64] ∨
    0x800 ≤ c.toNat ∧ c.toNat < 0x10000 ∧ (String.utf8EncodeChar c).map UInt8.toNat =
      [0xE0 + c.toNat / 4096, 0x80 + c.toNat / 64 % 64, 0x80 + c.toNat % 64] ∨
    0x10000 ≤ c.toNat ∧ (String.utf8EncodeChar c).map UInt8.toNat =
      [0xF0 + c.toNat / 262144, 0x80 + c.toNat / 4096 % 64, 0x80 + c.toNat / 64 % 64, 0x80 + c.toNat % 64] := by
  have hval : c.val.toNat = c.toNat := rfl
  have hlt : c.toNat < 0x110000 := by
    rcases c.valid with h | h
    · exact Nat.lt_trans h (by decide)
    · exact h.2
  simp only [String.utf8EncodeChar, hval]
  by_cases h1 : c.toNat ≤ 0x7F
  · refine .inl ⟨by omega, ?_⟩
    simp only [h1, if_true, List.map_cons, List.map_nil, UInt8.toNat_ofNat', List.cons.injEq, and_true]
    omega
  by_cases h2 : c.toNat ≤ 0x7FF
  · refine .inr (.inl ⟨by omega, by omega, ?_⟩)
    simp only [h1, h2, if_true, if_false, List.map_cons, List.map_nil, UInt8.toNat_ofNat', List.cons.injEq, and_true]
    exact ⟨by omega, by omega⟩
  by_cases h3 : c.toNat ≤ 0xFFFF
  · refine .inr (.inr (.inl ⟨by omega, by omega, ?_⟩))
    simp only [h1, h2, h3, if_true, if_false, List.map_cons, List.map_nil, UInt8.toNat_ofNat', List.cons.injEq,
      and_true]
    exact ⟨by omega, by omega, by omega⟩
  · refine .inr (.inr (.inr ⟨by omega, ?_⟩))
    simp only [h1, h2, h3, if_false, List.map_cons, List.map_nil, UInt8.toNat_ofNat', List.cons.injEq, and_true]
    exact ⟨by omega, by omega, by omega, by omega⟩

/-- The byte of a line feed is part of no other character. -/
theorem lineFeed_notMem_utf8EncodeChar {c : Char} (hc : c ≠ '\n') : 10 ∉ String.utf8EncodeChar c := by
  intro h
  have hmem : 10 ∈ (String.utf8EncodeChar c).map UInt8.toNat := List.mem_map_of_mem h
  have hne : c.toNat ≠ 10 := fun h => hc (Char.toNat_inj.mp h)
  rcases map_toNat_utf8EncodeChar c with ⟨-, hbytes⟩ | ⟨-, -, hbytes⟩ | ⟨-, -, hbytes⟩ | ⟨-, hbytes⟩
  all_goals
    rw [hbytes] at hmem
    simp only [List.mem_cons, List.not_mem_nil, or_false] at hmem
    omega

/-- The byte of a line feed is found where the character is, after all the bytes of what precedes it. -/
theorem getElem?_utf8_eq_lineFeed {cs : List Char} {n : Nat} :
    (utf8 cs)[n]? = some 10 ↔ ∃ pre, pre ++ ['\n'] <+: cs ∧ byteSize pre = n := by
  induction cs generalizing n with
  | nil => simp
  | cons c cs ih =>
    have hpos := c.utf8Size_pos
    constructor
    · intro h
      by_cases hn : n < c.utf8Size
      · rw [utf8_cons, List.getElem?_append_left (by rwa [String.length_utf8EncodeChar])] at h
        by_cases hc : c = '\n'
        · subst hc
          refine ⟨[], ⟨cs, rfl⟩, ?_⟩
          have hone : Char.utf8Size '\n' = 1 := rfl
          show 0 = n
          omega
        · exact absurd (List.mem_of_getElem? h) (lineFeed_notMem_utf8EncodeChar hc)
      · rw [utf8_cons, List.getElem?_append_right (by rw [String.length_utf8EncodeChar]; omega),
          String.length_utf8EncodeChar, ih] at h
        obtain ⟨pre, hpre, hsize⟩ := h
        refine ⟨c :: pre, List.cons_prefix_cons.mpr ⟨rfl, hpre⟩, ?_⟩
        rw [byteSize_cons]
        omega
    · rintro ⟨pre, hpre, rfl⟩
      cases pre with
      | nil =>
        obtain ⟨rfl, -⟩ := List.cons_prefix_cons.mp hpre
        rfl
      | cons d pre =>
        obtain ⟨rfl, hrest⟩ := List.cons_prefix_cons.mp hpre
        rw [byteSize_cons, utf8_cons, List.getElem?_append_right (by rw [String.length_utf8EncodeChar]; omega),
          String.length_utf8EncodeChar, Nat.add_sub_cancel_left]
        exact ih.mpr ⟨pre, hrest, rfl⟩

/-! ## Order -/

theorem map_toNat_lt {bs bs' : List UInt8} : bs.map UInt8.toNat < bs'.map UInt8.toNat ↔ bs < bs' := by
  induction bs generalizing bs' with
  | nil => cases bs' <;> simp
  | cons b bs ih =>
    cases bs' with
    | nil => simp
    | cons b' bs' => simp only [List.map_cons, List.cons_lt_cons_iff, ih, UInt8.lt_iff_toNat_lt, UInt8.toNat_inj]

/-- The bytes of a lesser character are less, whatever follows: either the first byte is, or the
    characters have equally many bytes. -/
theorem utf8EncodeChar_append_lt {c d : Char} (h : c < d) (bs bs' : List UInt8) :
    String.utf8EncodeChar c ++ bs < String.utf8EncodeChar d ++ bs' := by
  have hcd : c.toNat < d.toNat := h
  rw [← map_toNat_lt, List.map_append, List.map_append]
  rcases map_toNat_utf8EncodeChar c with ⟨_, hc⟩ | ⟨_, _, hc⟩ | ⟨_, _, hc⟩ | ⟨_, hc⟩ <;>
    rcases map_toNat_utf8EncodeChar d with ⟨_, hd⟩ | ⟨_, _, hd⟩ | ⟨_, _, hd⟩ | ⟨_, hd⟩ <;>
    (rw [hc, hd]; simp only [List.cons_append, List.nil_append, List.cons_lt_cons_iff]; omega)

/-- Texts are in the same order by their bytes as by their characters. -/
theorem utf8_lt {cs ds : List Char} (h : cs < ds) : utf8 cs < utf8 ds := by
  induction h with
  | nil =>
    rename_i d ds
    have hlength : 0 < (String.utf8EncodeChar d).length := by
      rw [String.length_utf8EncodeChar]
      exact d.utf8Size_pos
    obtain ⟨b, bs, hbytes⟩ := List.exists_cons_of_length_pos hlength
    rw [utf8_cons, hbytes]
    exact List.nil_lt_cons b _
  | rel hlt => exact utf8EncodeChar_append_lt hlt _ _
  | cons _ ih => exact List.append_left_lt ih

end TagAudit.Text
