/-
  TagAudit.Proofs.Resource.Records — one record for each resource of a file.

  Records are kept by address, the type and the name of a resource with a point between them. An
  address does not always tell them apart: `Ambiguous` pairs share one, since both labels may hold
  points (`addressOf_eq_iff`), and then one resource hides the other (`pair_hidden`). The places of
  blocks may be kept by address on their own and looked up later (`correlated`): the place is that
  of the same block as the contents (`ofBody_eq_correlated`), however often an address is declared.

  Proved: `records_of_declarations`: the resources of a file that parses are one for each address,
  in order of first declaration and each from the last block with its address; and one for each
  pair of type and name where no two pairs are ambiguous.
-/

import TagAudit.Resource

namespace TagAudit.Resource

open Hcl

/-! ## Declarations -/

def labels? (b : Block) : Option (String × String) :=
  match b.kind, b.labels with
  | "resource", type :: name :: _ => some (type, name)
  | _, _ => none

def address? (b : Block) : Option String := (labels? b).map fun p => addressOf p.1 p.2

/-- The types and names that a file declares, as often as it does. -/
def declared (body : Body) : List (String × String) := body.blocks.filterMap labels?

def pair (r : Resource) : String × String := (r.type, r.name)

/-- The resource that a block with these labels declares, if it is known where a block stands. -/
def record (file : SourceFile) (labels : String × String) (body : Body) (span : Option Span) : Resource :=
  match span with
  | some span =>
    let source := file.contents.toList
    let line := Snippet.tokenLine source span.start
    let lastLine := Snippet.lineOf source (span.stop - 1)
    ⟨labels.1, labels.2, file.path, line, String.ofList (Snippet.extract source line lastLine), body⟩
  | none => ⟨labels.1, labels.2, file.path, 0, "", body⟩

/-- The places of blocks by address. -/
def positions (body : Body) : OrderedMap Span :=
  OrderedMap.ofEntries (body.blocks.filterMap fun b => (address? b).map (·, b.span))

/-- The resources of a file, where places are looked up by address. -/
def correlated (file : SourceFile) (body : Body) : List Resource :=
  (OrderedMap.ofEntries (body.blocks.filterMap fun b => (labels? b).map fun p =>
    (addressOf p.1 p.2, record file p b.body ((positions body).get? (addressOf p.1 p.2))))).values

theorem ofBlock?_eq (file : SourceFile) (b : Block) :
    ofBlock? file b = (labels? b).map fun p => record file p b.body (some b.span) := by
  obtain ⟨kind, labels, body, span⟩ := b
  by_cases hkind : kind = "resource"
  · subst hkind
    rcases labels with _ | ⟨type, _ | ⟨name, rest⟩⟩ <;> rfl
  · simp [ofBlock?, labels?, hkind]

theorem labels?_of_ofBlock? {file : SourceFile} {b : Block} {r : Resource} (h : ofBlock? file b = some r) :
    labels? b = some r.pair := by
  rw [ofBlock?_eq] at h
  obtain ⟨p, hp, rfl⟩ := Option.map_eq_some_iff.mp h
  exact hp

theorem address?_of_ofBlock? {file : SourceFile} {b : Block} {r : Resource} (h : ofBlock? file b = some r) :
    address? b = some r.address := by
  rw [address?, labels?_of_ofBlock? h]
  rfl

/-! ## Addresses -/

/-- Pairs of labels that share an address: what the first name begins with, the second type ends with. -/
def Ambiguous (p q : String × String) : Prop := ∃ middle, q.1 = p.1 ++ "." ++ middle ∧ p.2 = middle ++ "." ++ q.2

theorem eq_or_ambiguous_of_append {p q : String × String} {rest : List Char} (htype : q.1.toList = p.1.toList ++ rest)
    (hname : '.' :: p.2.toList = rest ++ '.' :: q.2.toList) : p = q ∨ Ambiguous p q := by
  cases rest with
  | nil =>
    have h1 : p.1 = q.1 := String.toList_inj.mp (by simpa using htype.symm)
    have h2 : p.2 = q.2 := String.toList_inj.mp (by simpa using hname)
    exact .inl (Prod.ext h1 h2)
  | cons c middle =>
    obtain ⟨rfl, hname⟩ := List.cons.inj hname
    refine .inr ⟨String.ofList middle, String.toList_inj.mp ?_, String.toList_inj.mp ?_⟩
    · simpa using htype
    · simpa using hname

/-- Different pairs have one address only if they are ambiguous. -/
theorem addressOf_eq_iff (p q : String × String) :
    addressOf p.1 p.2 = addressOf q.1 q.2 ↔ p = q ∨ Ambiguous p q ∨ Ambiguous q p := by
  constructor
  · intro h
    have hchars : p.1.toList ++ '.' :: p.2.toList = q.1.toList ++ '.' :: q.2.toList := by
      simpa [addressOf] using congrArg String.toList h
    rcases List.append_eq_append_iff.mp hchars with ⟨rest, htype, hname⟩ | ⟨rest, htype, hname⟩
    · exact (eq_or_ambiguous_of_append htype hname).imp_right .inl
    · exact (eq_or_ambiguous_of_append htype hname).imp Eq.symm .inr
  · rintro (rfl | ⟨middle, htype, hname⟩ | ⟨middle, htype, hname⟩)
    · rfl
    · simp [addressOf, htype, hname, String.append_assoc]
    · simp [addressOf, htype, hname, String.append_assoc]

/-- Types without a point are told apart. -/
theorem not_ambiguous_of_type {p q : String × String} (h : '.' ∉ q.1.toList) : ¬ Ambiguous p q := by
  rintro ⟨middle, htype, -⟩
  exact h (by simp [htype])

/-! ## The last declaration of an address -/

def lastDeclared? (body : Body) (key : String) : Option Block := body.blocks.reverse.find? (address? · = some key)

section
variable {α : Type} {g : Block → Option (String × α)}

theorem get?_filterMap (hg : ∀ b, (g b).map Prod.fst = address? b) (bs : List Block) (key : String) :
    OrderedMap.get? (bs.filterMap g) key = (bs.find? (address? · = some key)).bind fun b => (g b).map Prod.snd := by
  induction bs with
  | nil => rfl
  | cons b bs ih =>
    have hkey := hg b
    rw [List.find?_cons]
    cases hb : g b with
    | none =>
      rw [hb] at hkey
      rw [List.filterMap_cons_none hb, ih, ← hkey]
      rfl
    | some e =>
      rw [hb] at hkey
      rw [List.filterMap_cons_some hb, OrderedMap.get?, ← hkey]
      by_cases he : e.1 = key
      · simp [he, hb]
      · simpa [he] using ih

/-- Entries by address: the last block with an address counts. -/
theorem get?_ofEntries_blocks (hg : ∀ b, (g b).map Prod.fst = address? b) (body : Body) (key : String) :
    OrderedMap.get? (OrderedMap.ofEntries (body.blocks.filterMap g)) key =
      (lastDeclared? body key).bind fun b => (g b).map Prod.snd := by
  rw [OrderedMap.get?_ofEntries, OrderedMap.lastValue?, ← List.filterMap_reverse, get?_filterMap hg]
  rfl

theorem keys_ofEntries_blocks (hg : ∀ b, (g b).map Prod.fst = address? b) (body : Body) :
    OrderedMap.keys (OrderedMap.ofEntries (body.blocks.filterMap g)) = (body.blocks.filterMap address?).eraseDups := by
  rw [OrderedMap.keys_ofEntries, OrderedMap.keys, List.map_filterMap]
  congr 2
  exact funext hg

end

theorem lastDeclared?_eq_some {body : Body} {key : String} {b : Block} (h : lastDeclared? body key = some b) :
    address? b = some key ∧ ∃ before after, body.blocks = before ++ b :: after ∧ ∀ b' ∈ after, address? b' ≠ some key := by
  obtain ⟨hkey, later, earlier, hblocks, hlater⟩ := List.find?_eq_some_iff_append.mp h
  refine ⟨of_decide_eq_true hkey, earlier.reverse, later.reverse, ?_, fun b' hb' => ?_⟩
  · rw [← List.reverse_reverse body.blocks, hblocks]
    simp
  · simpa using hlater b' (List.mem_reverse.mp hb')

/-! ## Lists without repetition -/

section
variable {α β : Type} {f : α → β}

/-- Where different elements have different images, an image repeats as its element does. -/
theorem eraseDups_map [BEq α] [LawfulBEq α] [BEq β] [LawfulBEq β] (l : List α)
    (h : ∀ a ∈ l, ∀ b ∈ l, f a = f b → a = b) : (l.map f).eraseDups = l.eraseDups.map f := by
  match l with
  | [] => rfl
  | a :: as =>
    have hrest : ((as.map f).filter fun y => !(y == f a)) = (as.filter fun b => !(b == a)).map f := by
      rw [List.filter_map]
      refine congrArg (List.map f) (List.filter_congr fun b hb => ?_)
      have hiff : f b = f a ↔ b = a :=
        ⟨h b (List.mem_cons_of_mem _ hb) a List.mem_cons_self, fun heq => congrArg f heq⟩
      have hsame : (f b == f a) = (b == a) := by rw [Bool.eq_iff_iff, beq_iff_eq, beq_iff_eq, hiff]
      exact congrArg (!·) hsame
    have hshort : (as.filter fun b => !(b == a)).length < (a :: as).length :=
      Nat.lt_succ_of_le (List.length_filter_le _ _)
    rw [List.map_cons, List.eraseDups_cons, List.eraseDups_cons, List.map_cons, hrest]
    refine congrArg (f a :: ·) (eraseDups_map _ fun b hb c hc => ?_)
    exact h b (List.mem_cons_of_mem _ (List.mem_filter.mp hb).1) c (List.mem_cons_of_mem _ (List.mem_filter.mp hc).1)
termination_by l.length
decreasing_by exact hshort

theorem map_inj_of_mem {l l' : List α} (h : ∀ a ∈ l, ∀ b ∈ l', f a = f b → a = b) (hmap : l.map f = l'.map f) :
    l = l' := by
  induction l generalizing l' with
  | nil => exact (List.map_eq_nil_iff.mp hmap.symm).symm
  | cons a as ih =>
    cases l' with
    | nil => contradiction
    | cons b bs =>
      obtain ⟨hfirst, hrest⟩ := List.cons.inj hmap
      rw [h a List.mem_cons_self b List.mem_cons_self hfirst,
        ih (fun c hc d hd => h c (List.mem_cons_of_mem _ hc) d (List.mem_cons_of_mem _ hd)) hrest]

end

/-! ## The resources of a file -/

variable (file : SourceFile) (body : Body)

theorem entries_ofBody : (body.blocks.filterMap (ofBlock? file)).map (fun r => (r.address, r)) =
    body.blocks.filterMap fun b => (ofBlock? file b).map fun r => (r.address, r) :=
  List.map_filterMap

theorem fst_ofBlock? (b : Block) : ((ofBlock? file b).map fun r => (r.address, r)).map Prod.fst = address? b := by
  rw [ofBlock?_eq, address?, Option.map_map, Option.map_map]
  rfl

/-- Places that are kept apart from the blocks and looked up by address are those of the same blocks. -/
theorem ofBody_eq_correlated : ofBody file body = correlated file body := by
  have hfst (b : Block) : ((labels? b).map fun p => (addressOf p.1 p.2,
      record file p b.body ((positions body).get? (addressOf p.1 p.2)))).map Prod.fst = address? b := by
    rw [Option.map_map]
    rfl
  have hspan (b : Block) : ((address? b).map (·, b.span)).map Prod.fst = address? b := by
    rw [Option.map_map]
    exact Option.map_id'
  unfold ofBody correlated
  rw [entries_ofBody]
  refine congrArg OrderedMap.values (OrderedMap.eq_of_keys (OrderedMap.nodup_keys_ofEntries _) ?_ fun key => ?_)
  · rw [keys_ofEntries_blocks (fst_ofBlock? file), keys_ofEntries_blocks hfst]
  · rw [get?_ofEntries_blocks (fst_ofBlock? file), get?_ofEntries_blocks hfst]
    cases hlast : lastDeclared? body key with
    | none => rfl
    | some b =>
      obtain ⟨hkey, -⟩ := lastDeclared?_eq_some hlast
      obtain ⟨p, hp, rfl⟩ := Option.map_eq_some_iff.mp hkey
      have hplace : (positions body).get? (addressOf p.1 p.2) = some b.span := by
        rw [positions, get?_ofEntries_blocks hspan, hlast, Option.bind_some, hkey]
        rfl
      rw [Option.bind_some, Option.bind_some, ofBlock?_eq, hp]
      simp only [Option.map_some, hplace]

theorem map_address_ofBody : (ofBody file body).map address = (body.blocks.filterMap address?).eraseDups := by
  have hkeys := keys_ofEntries_blocks (fst_ofBlock? file) body
  rw [← hkeys, ofBody, entries_ofBody, OrderedMap.values, OrderedMap.keys, List.map_map]
  refine List.map_congr_left fun e he => ?_
  obtain ⟨b, -, hb⟩ := List.mem_filterMap.mp (OrderedMap.mem_ofEntries he)
  obtain ⟨r, -, rfl⟩ := Option.map_eq_some_iff.mp hb
  rfl

variable {file body}

/-- A resource is that of the last block with its address. -/
theorem ofBlock?_of_mem_ofBody {r : Resource} (h : r ∈ ofBody file body) :
    ∃ before b after, body.blocks = before ++ b :: after ∧ ofBlock? file b = some r ∧
      ∀ b' ∈ after, address? b' ≠ some r.address := by
  rw [ofBody, entries_ofBody] at h
  obtain ⟨⟨key, r⟩, he, rfl⟩ := List.mem_map.mp h
  have hget := (OrderedMap.get?_eq_some_iff_mem (OrderedMap.nodup_keys_ofEntries _)).mpr he
  rw [get?_ofEntries_blocks (fst_ofBlock? file)] at hget
  obtain ⟨b, hlast, hb⟩ := Option.bind_eq_some_iff.mp hget
  obtain ⟨hkey, before, after, hblocks, hafter⟩ := lastDeclared?_eq_some hlast
  have hr : ofBlock? file b = some r := by
    rw [Option.map_map] at hb
    exact Option.map_id'.symm.trans hb
  obtain rfl : r.address = key := Option.some.inj ((address?_of_ofBlock? hr).symm.trans hkey)
  exact ⟨before, b, after, hblocks, hr, hafter⟩

/-- Where no two pairs are ambiguous, the resources are one for each pair. -/
theorem map_pair_ofBody (h : ∀ p ∈ declared body, ∀ q ∈ declared body, ¬ Ambiguous p q) :
    (ofBody file body).map pair = (declared body).eraseDups := by
  have hinj : ∀ p ∈ declared body, ∀ q ∈ declared body, addressOf p.1 p.2 = addressOf q.1 q.2 → p = q := by
    intro p hp q hq heq
    rcases (addressOf_eq_iff p q).mp heq with h' | h' | h'
    · exact h'
    · exact absurd h' (h p hp q hq)
    · exact absurd h' (h q hq p hp)
  have hdeclared : ∀ r ∈ ofBody file body, r.pair ∈ declared body := by
    intro r hr
    obtain ⟨before, b, after, hblocks, hb, -⟩ := ofBlock?_of_mem_ofBody hr
    exact List.mem_filterMap.mpr ⟨b, by simp [hblocks], labels?_of_ofBlock? hb⟩
  have haddresses : body.blocks.filterMap address? = (declared body).map fun p => addressOf p.1 p.2 :=
    List.map_filterMap.symm
  refine map_inj_of_mem (f := fun p => addressOf p.1 p.2) ?_ ?_
  · intro p hp q hq
    obtain ⟨r, hr, rfl⟩ := List.mem_map.mp hp
    exact hinj _ (hdeclared r hr) q (List.mem_eraseDups.mp hq)
  · rw [← eraseDups_map _ hinj, ← haddresses, ← map_address_ofBody file, List.map_map]
    rfl

/-- The resources of a file that parses. There is one for each address, in order of first
    declaration, and the contents, the line and the snippet are those of the last block with the
    address, also where the places of blocks are kept apart and looked up. Where no two pairs of
    type and name are ambiguous, the same holds of pairs. -/
theorem records_of_declarations (hbody : Body.read? file.contents = some body) :
    ∃ rs, locate? file = some rs ∧ rs = correlated file body ∧
      rs.map address = (body.blocks.filterMap address?).eraseDups ∧
      (∀ r ∈ rs, ∃ before b after, body.blocks = before ++ b :: after ∧ ofBlock? file b = some r ∧
        ∀ b' ∈ after, address? b' ≠ some r.address) ∧
      ((∀ p ∈ declared body, ∀ q ∈ declared body, ¬ Ambiguous p q) →
        rs.map pair = (declared body).eraseDups ∧
        ∀ r ∈ rs, ∃ before b after, body.blocks = before ++ b :: after ∧ ofBlock? file b = some r ∧
          ∀ b' ∈ after, labels? b' ≠ some r.pair) := by
  refine ⟨ofBody file body, by rw [locate?, hbody, Option.map_some], ofBody_eq_correlated file body,
    map_address_ofBody file body, fun r => ofBlock?_of_mem_ofBody, fun h => ⟨map_pair_ofBody h, fun r hr => ?_⟩⟩
  obtain ⟨before, b, after, hblocks, hb, hafter⟩ := ofBlock?_of_mem_ofBody hr
  refine ⟨before, b, after, hblocks, hb, fun b' hb' hlabels => hafter b' hb' ?_⟩
  rw [address?, hlabels]
  rfl

def repeatedFile : SourceFile :=
  ⟨"main.tf", "resource a b \x7b\x7d\nresource a c \x7b\x7d\nresource a b \x7b\x7d\n"⟩

theorem records_of_declarations_repeatedFile :
    ∃ rs, locate? repeatedFile = some rs ∧ rs.map pair = [("a", "b"), ("a", "c")] := by
  have hread : (Body.read? repeatedFile.contents).map declared = some [("a", "b"), ("a", "c"), ("a", "b")] := by
    decide +kernel
  obtain ⟨body, hbody, hdeclared⟩ := Option.map_eq_some_iff.mp hread
  obtain ⟨rs, hrs, -, -, -, hpairs⟩ := records_of_declarations hbody
  have hplain : ∀ q ∈ declared body, '.' ∉ q.1.toList := by
    rw [hdeclared]
    decide +kernel
  obtain ⟨hpair, -⟩ := hpairs fun p _ q hq => not_ambiguous_of_type (hplain q hq)
  rw [hdeclared] at hpair
  exact ⟨rs, hrs, hpair.trans (by decide +kernel)⟩

/-- Two resources with one address. -/
def hiddenFile : SourceFile :=
  ⟨"main.tf", "resource \"a.b\" \"c\" \x7b\x7d\nresource \"a\" \"b.c\" \x7b\x7d\n"⟩

/-- Not every pair of type and name has a record of its own. -/
theorem pair_hidden : ¬ ∀ (file : SourceFile) (body : Body), Body.read? file.contents = some body →
    ∃ rs, locate? file = some rs ∧ rs.map pair = (declared body).eraseDups := by
  intro h
  have hread : (Body.read? hiddenFile.contents).map declared = some [("a.b", "c"), ("a", "b.c")] := by decide +kernel
  have hlocate : (locate? hiddenFile).map (·.map pair) = some [("a", "b.c")] := by decide +kernel
  obtain ⟨body, hbody, hdeclared⟩ := Option.map_eq_some_iff.mp hread
  obtain ⟨rs, hrs, hpair⟩ := h hiddenFile body hbody
  rw [hrs, Option.map_some, hpair, hdeclared] at hlocate
  revert hlocate
  decide +kernel

end TagAudit.Resource
