/-
  TagAudit.Proofs.Hcl.Blocks — what stands between the first and the last character of a block.

  Labels hold no brace (`Unbraced.of_labels`), so the first one that comes is the one that opens
  the block, and reading token after token it is closed where the grammar says that the block
  ends (`Block.Stands`, `Body.stands`).
-/

import TagAudit.Proofs.Hcl.Expressions

namespace TagAudit.Hcl

variable {cs mid rest : List Char}

/-! ## Labels -/

/-- Outside quotes one comes from `cs` to `rest` without a brace on the way. -/
def Unbraced (cs rest : List Char) : Prop :=
  ∀ st, inLiteral st = false → Follows (fun st' => st' = st ∨ st' = .quote 0 :: st) st cs st rest

namespace Unbraced

theorem trans (h : Unbraced cs mid) (h' : Unbraced mid rest) : Unbraced cs rest :=
  fun st hst => (h st hst).trans (h' st hst)

theorem tracks (h : Unbraced cs rest) : Tracks cs rest := by
  refine fun st hst => (h st hst).mono ?_
  rintro st' (rfl | rfl)
  · exact List.suffix_rfl
  · exact List.suffix_cons _ st

theorem of_level (h : Level cs rest) : Unbraced cs rest := fun st hst => (h st hst).mono fun _ => .inl

theorem of_quotedText {s : String} (h : quotedText cs = .ok (s, rest)) : Unbraced cs rest := by
  unfold quotedText at h
  split at h
  · obtain ⟨⟨t, mid⟩, ht, h⟩ := ok_of_do h
    dsimp only at h
    split at h
    · obtain ⟨-, rfl⟩ := Prod.mk.inj (Except.ok.inj h)
      exact fun st hst => .quoted hst ((Literal.of_quotedLiteral ht st).mono fun _ => .inr) (.inl rfl) (.inr rfl)
    · contradiction
  · contradiction

theorem of_labels : ∀ {fuel : Nat} {cs rest : List Char} {ls : List String},
    labels fuel cs = .ok (ls, rest) → Unbraced cs ('\x7b' :: rest)
  | 0, cs, rest, ls, h => by simp [labels] at h
  | fuel + 1, cs, rest, ls, h => by
    have hblank := of_level (level_skipBlank cs)
    unfold labels at h
    split at h
    · rename_i heq
      rw [heq] at hblank
      obtain ⟨-, rfl⟩ := Prod.mk.inj (Except.ok.inj h)
      exact hblank
    · rename_i heq
      rw [heq] at hblank
      obtain ⟨⟨l, after⟩, hl, h⟩ := ok_of_do h
      obtain ⟨⟨ls, tail⟩, hls, h⟩ := ok_of_do h
      obtain ⟨-, rfl⟩ := Prod.mk.inj (Except.ok.inj h)
      exact (hblank.trans (of_quotedText hl)).trans (of_labels hls)
    · obtain ⟨⟨l, after⟩, hl, h⟩ := ok_of_do h
      obtain ⟨⟨ls, tail⟩, hls, h⟩ := ok_of_do h
      obtain ⟨-, rfl⟩ := Prod.mk.inj (Except.ok.inj h)
      exact (hblank.trans (of_level (level_ident hl))).trans (of_labels hls)

end Unbraced

/-- From `cs` one comes to an opening brace without another one on the way, and from there to its
    closing brace before `rest`. -/
def Encloses (cs rest : List Char) : Prop := ∃ mid, Unbraced cs ('\x7b' :: mid) ∧ Tracks mid ('\x7d' :: rest)

namespace Encloses

theorem tracks (h : Encloses cs rest) : Tracks cs rest := by
  obtain ⟨mid, hlabels, hbody⟩ := h
  exact hlabels.tracks.trans hbody.braced

theorem of_level (h : Level cs mid) (h' : Encloses mid rest) : Encloses cs rest := by
  obtain ⟨after, hlabels, hbody⟩ := h'
  exact ⟨after, (Unbraced.of_level h).trans hlabels, hbody⟩

end Encloses

/-! ## Bodies -/

theorem tracking_attributeValue : Tracking attributeValue := by
  intro cs e rest h
  unfold attributeValue at h
  obtain ⟨mid, hequals, h⟩ := ok_of_do h
  have hequals := (level_skipBlank cs).trans ((level_expect hequals (by decide)).trans (level_skipBlank mid))
  exact hequals.trans_tracks (tracking_expr h)

section
variable {size : Nat}

theorem tracks_oneLineBody {body : Body} (h : oneLineBody size cs = .ok (body, rest)) : Tracks cs ('\x7d' :: rest) := by
  have hblank := level_skipBlank cs
  unfold oneLineBody at h
  split at h
  · rename_i heq
    rw [heq] at hblank
    obtain ⟨-, rfl⟩ := Prod.mk.inj (Except.ok.inj h)
    exact hblank.tracks
  · obtain ⟨⟨name, mid⟩, hname, h⟩ := ok_of_do h
    obtain ⟨⟨value, mid'⟩, hvalue, h⟩ := ok_of_do h
    obtain ⟨tail, hclose, h⟩ := ok_of_do h
    obtain ⟨-, rfl⟩ := Prod.mk.inj (Except.ok.inj h)
    have hvalue := (hblank.trans (level_ident hname)).trans_tracks (tracking_attributeValue hvalue)
    have hend := level_skipBlank mid'
    rw [eq_append_of_expect hclose] at hend
    exact hvalue.trans_level hend

variable {inner : List Char → Except (List Char) (Body × List Char)} (hinner : Tracking inner)
include hinner

/-- A block ends at its closing brace. -/
theorem block_spec {kind : String} {start : Nat} {i : Item} (h : block size inner kind start cs = .ok (i, rest)) :
    Encloses cs rest ∧ ∃ ls body, i = .block kind ls body ⟨start, bytesBefore size rest⟩ := by
  unfold block at h
  obtain ⟨⟨ls, mid⟩, hls, h⟩ := ok_of_do h
  have hline := (level_skipBlank mid).trans (level_lineComment (skipBlank mid))
  dsimp only at h
  split at h
  · rename_i after hafter
    obtain ⟨⟨body, mid'⟩, hbody, h⟩ := ok_of_do h
    obtain ⟨tail, hclose, h⟩ := ok_of_do h
    obtain ⟨rfl, rfl⟩ := Prod.mk.inj (Except.ok.inj h)
    have hbody := (hline.trans (level_afterLineEnd? hafter)).trans_tracks (hinner hbody)
    have hend := level_skipWhite mid'
    rw [eq_append_of_expect hclose] at hend
    exact ⟨⟨_, .of_labels hls, hbody.trans_level hend⟩, _, _, rfl⟩
  · obtain ⟨⟨body, tail⟩, hbody, h⟩ := ok_of_do h
    obtain ⟨rfl, rfl⟩ := Prod.mk.inj (Except.ok.inj h)
    exact ⟨⟨_, .of_labels hls, tracks_oneLineBody hbody⟩, _, _, rfl⟩

theorem tracks_item {i : Item} (h : item size inner cs = .ok (i, rest)) : Tracks cs rest := by
  unfold item at h
  obtain ⟨⟨name, mid⟩, hname, h⟩ := ok_of_do h
  have hname := level_ident hname
  dsimp only at h
  split at h
  · obtain ⟨⟨value, tail⟩, hvalue, h⟩ := ok_of_do h
    obtain ⟨-, rfl⟩ := Prod.mk.inj (Except.ok.inj h)
    exact hname.trans_tracks (tracking_attributeValue hvalue)
  · exact hname.trans_tracks (block_spec hinner h).1.tracks

theorem tracks_itemsFrom : ∀ {fuel : Nat} {names : List String} {cs rest : List Char} {body : Body},
    itemsFrom size inner fuel names cs = .ok (body, rest) → Tracks cs rest
  | 0, names, cs, rest, body, h => by simp [itemsFrom] at h
  | fuel + 1, names, cs, rest, body, h => by
    obtain ⟨-, rfl⟩ | ⟨i, is, mid, after, names', -, hi, hafter, his⟩ := itemsFrom_cases h
    · exact (level_skipWhite cs).tracks
    · have hi := (level_skipWhite cs).trans_tracks (tracks_item hinner hi)
      exact (hi.trans_level (level_afterLine? hafter)).trans (tracks_itemsFrom his)

/-- An item was read where it stands in the text. -/
theorem item_of_mem : ∀ {fuel : Nat} {names : List String} {cs rest : List Char} {body : Body},
    itemsFrom size inner fuel names cs = .ok (body, rest) →
      ∀ i ∈ body, ∃ here after, here <:+ cs ∧ item size inner here = .ok (i, after)
  | 0, names, cs, rest, body, h => by simp [itemsFrom] at h
  | fuel + 1, names, cs, rest, body, h => by
    obtain ⟨rfl, -⟩ | ⟨i, is, mid, after, names', rfl, hi, hafter, his⟩ := itemsFrom_cases h
    · simp
    · have hwhite := level_skipWhite cs
      have hnext := (hwhite.trans_tracks (tracks_item hinner hi)).trans_level (level_afterLine? hafter)
      refine List.forall_mem_cons.mpr ⟨⟨_, mid, hwhite.tracks.suffix, hi⟩, fun j hj => ?_⟩
      obtain ⟨here, after', hhere, hitem⟩ := item_of_mem his j hj
      exact ⟨here, after', hhere.trans hnext.suffix, hitem⟩

end

theorem tracking_bodyAt (size : Nat) : ∀ depth, Tracking (bodyAt size depth)
  | 0, cs, body, rest, h => by simp [bodyAt] at h
  | depth + 1, cs, body, rest, h => tracks_itemsFrom (tracking_bodyAt size depth) h

/-! ## Blocks -/

/-- A block stands in a text from `cs` up to `rest`. -/
structure Block.Stands (text : List Char) (b : Block) (cs rest : List Char) : Prop where
  suffix : cs <:+ text
  named : ∃ c ds, cs = c :: ds ∧ isIdentStart c
  span : b.span = ⟨bytesBefore (Text.byteSize text) cs, bytesBefore (Text.byteSize text) rest⟩
  encloses : Encloses cs rest

theorem exists_isIdentStart {name : String} (h : ident cs = .ok (name, rest)) : ∃ c ds, cs = c :: ds ∧ isIdentStart c := by
  unfold ident at h
  split at h
  · split at h
    · rename_i hstart
      exact ⟨_, _, rfl, hstart⟩
    · contradiction
  · contradiction

theorem Block.stands_of_item {text : List Char} {inner : List Char → Except (List Char) (Body × List Char)}
    (hinner : Tracking inner) {b : Block} (hs : cs <:+ text)
    (h : item (Text.byteSize text) inner cs = .ok (.block b.kind b.labels b.body b.span, rest)) :
    b.Stands text cs rest := by
  unfold item at h
  obtain ⟨⟨name, mid⟩, hname, h⟩ := ok_of_do h
  dsimp only at h
  split at h
  · obtain ⟨⟨value, tail⟩, -, h⟩ := ok_of_do h
    nomatch (Prod.mk.inj (Except.ok.inj h)).1
  · obtain ⟨hencloses, ls, body, hblock⟩ := block_spec hinner h
    obtain ⟨-, -, -, hspan⟩ := Item.block.inj hblock
    exact ⟨hs, exists_isIdentStart hname, hspan, .of_level (level_ident hname) hencloses⟩

/-- The blocks of a text stand in it. -/
theorem Body.stands {text : String} {body : Body} (h : Body.read? text = some body) :
    ∀ b ∈ body.blocks, ∃ cs rest, b.Stands text.toList cs rest := by
  intro b hb
  have hinner := tracking_bodyAt (Text.byteSize text.toList) text.toList.length
  obtain ⟨cs, rest, hs, hitem⟩ := item_of_mem hinner (bodyAt_of_read? h) _ (Body.mem_of_mem_blocks hb)
  exact ⟨cs, rest, Block.stands_of_item hinner hs hitem⟩

end TagAudit.Hcl
