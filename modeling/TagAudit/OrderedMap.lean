/-
  TagAudit.OrderedMap — maps from strings that remember the order of first insertion.

  A key keeps the position of its first insertion and the value of its last one: `insert`
  replaces in place or appends. `get?_insert` and `keys_insert` say so for one insertion, `get?_insertAll`
  and `keys_insertAll` for many. `get?_insertAll_of_forall_ne` says that other keys are left alone,
  `nodup_keys_ofEntries` that no key stands twice, `insertAll_ofEntries` that it makes no difference
  whether entries are put together before they are inserted, and `filter_flatMap_of_mem` that what
  the entries of a map contribute can be told apart by key.
-/

namespace TagAudit

/-- Entries in order of first insertion. -/
abbrev OrderedMap (α : Type) := List (String × α)

namespace OrderedMap

variable {α β : Type}

def empty : OrderedMap α := []

def get? : OrderedMap α → String → Option α
  | [], _ => none
  | (k, v) :: m, key => if k = key then some v else get? m key

def has (m : OrderedMap α) (key : String) : Bool := (m.get? key).isSome

/-- Replaces the value at `key`, or appends an entry. -/
def insert : OrderedMap α → String → α → OrderedMap α
  | [], key, value => [(key, value)]
  | (k, v) :: m, key, value => if k = key then (k, value) :: m else (k, v) :: insert m key value

def insertAll (m : OrderedMap α) (entries : List (String × α)) : OrderedMap α :=
  entries.foldl (fun m e => insert m e.1 e.2) m

/-- The map of a list of entries: of several with one key, the first gives the position and the
    last the value. -/
def ofEntries (entries : List (String × α)) : OrderedMap α := insertAll [] entries

def keys (m : OrderedMap α) : List String := List.map Prod.fst m

def values (m : OrderedMap α) : List α := List.map Prod.snd m

def mapValues (f : α → β) (m : OrderedMap α) : OrderedMap β := List.map (fun e => (e.1, f e.2)) m

/-! ## Inserting and looking up -/

theorem mem_of_get? {m : OrderedMap α} {key : String} {value : α} (h : get? m key = some value) : (key, value) ∈ m := by
  induction m with
  | nil => simp [get?] at h
  | cons e m ih =>
    simp only [get?] at h
    split at h
    · rename_i hk
      rw [← hk, ← Option.some.inj h]
      exact List.mem_cons_self
    · exact List.mem_cons_of_mem _ (ih h)

theorem mem_keys_of_get? {m : OrderedMap α} {key : String} {value : α} (h : get? m key = some value) :
    key ∈ keys m :=
  List.mem_map_of_mem (mem_of_get? h)

theorem get?_eq_some_iff_mem {m : OrderedMap α} (h : (keys m).Nodup) {key : String} {value : α} :
    get? m key = some value ↔ (key, value) ∈ m := by
  refine ⟨mem_of_get?, fun hm => ?_⟩
  induction m with
  | nil => contradiction
  | cons e m ih =>
    obtain ⟨hnot, hrest⟩ := List.nodup_cons.mp h
    rw [get?]
    rcases List.mem_cons.mp hm with rfl | hm
    · exact if_pos rfl
    · have hne : e.1 ≠ key := fun he => hnot (he ▸ List.mem_map_of_mem hm)
      rw [if_neg hne]
      exact ih hrest hm

theorem lookup_eq_get? (m : OrderedMap α) (key : String) : m.lookup key = m.get? key := by
  induction m with
  | nil => rfl
  | cons e m ih =>
    rw [List.lookup_cons, get?, ih]
    split
    · rename_i h
      exact (if_pos (beq_iff_eq.mp h).symm).symm
    · rename_i h
      exact (if_neg (Ne.symm (beq_eq_false_iff_ne.mp h))).symm

theorem get?_of_perm {m m' : OrderedMap α} (hn : (keys m).Nodup) (hp : m.Perm m') (key : String) :
    get? m key = get? m' key := by
  have hn' : (keys m').Nodup := (hp.map Prod.fst).nodup_iff.mp hn
  exact Option.ext fun value => by rw [get?_eq_some_iff_mem hn, get?_eq_some_iff_mem hn', hp.mem_iff]

theorem get?_eq_none {m : OrderedMap α} {key : String} : get? m key = none ↔ key ∉ keys m := by
  induction m with
  | nil => simp [get?, keys]
  | cons e m ih =>
    obtain ⟨k, v⟩ := e
    by_cases h : k = key <;> simp_all [get?, keys, eq_comm]

theorem get?_append (m m' : OrderedMap α) (key : String) :
    get? (m ++ m') key = match get? m key with
      | some v => some v
      | none => get? m' key := by
  induction m with
  | nil => rfl
  | cons e m ih =>
    rw [List.cons_append, get?, get?]
    split
    · rfl
    · exact ih

theorem get?_of_prefix {m m' : OrderedMap α} (h : m <+: m') {key : String} {value : α} (hk : get? m key = some value) :
    get? m' key = some value := by
  obtain ⟨rest, rfl⟩ := h
  rw [get?_append, hk]

@[simp] theorem get?_map (f : String → α → β) (m : OrderedMap α) (key : String) :
    get? (m.map fun e => (e.1, f e.1 e.2)) key = (get? m key).map (f key) := by
  induction m with
  | nil => rfl
  | cons e m ih =>
    rw [List.map_cons, get?, get?]
    split
    · rename_i h
      simp [← h]
    · exact ih

@[simp] theorem get?_mapValues (f : α → β) (m : OrderedMap α) (key : String) : get? (mapValues f m) key = (get? m key).map f :=
  get?_map (fun _ => f) m key

@[simp] theorem keys_mapValues (f : α → β) (m : OrderedMap α) : keys (mapValues f m) = keys m := by
  simp [keys, mapValues]

theorem insert_of_get?_none {m : OrderedMap α} {key : String} (h : get? m key = none) (value : α) :
    insert m key value = m ++ [(key, value)] := by
  induction m with
  | nil => rfl
  | cons e m ih =>
    rw [get?] at h
    split at h
    · contradiction
    · rename_i hk
      rw [insert, if_neg hk, ih h, List.cons_append]

/-- Of keys that differ it makes no difference whether the first or all that are the same get a new value. -/
theorem insert_of_mem_keys {m : OrderedMap α} {key : String} (hn : (keys m).Nodup) (h : key ∈ keys m) (value : α) :
    insert m key value = m.map fun e => if e.1 = key then (e.1, value) else e := by
  induction m with
  | nil => contradiction
  | cons e m ih =>
    obtain ⟨hnot, hn⟩ := List.nodup_cons.mp hn
    rw [insert, List.map_cons]
    by_cases hk : e.1 = key
    · have hrest : (m.map fun e => if e.1 = key then (e.1, value) else e) = m := by
        refine (List.map_congr_left fun e' he' => if_neg ?_).trans (List.map_id m)
        intro hk'
        exact hnot (hk.trans hk'.symm ▸ List.mem_map_of_mem he')
      rw [if_pos hk, if_pos hk, hrest, hk]
    · have hkey : key ∈ keys m := by
        rcases List.mem_cons.mp h with h | h
        · exact absurd h.symm hk
        · exact h
      rw [if_neg hk, if_neg hk, ih hn hkey]

@[simp] theorem get?_insert (m : OrderedMap α) (key k : String) (value : α) :
    get? (insert m key value) k = if key = k then some value else get? m k := by
  induction m with
  | nil => simp [insert, get?]
  | cons e m ih =>
    obtain ⟨k', v⟩ := e
    by_cases h : k' = key <;> by_cases h' : k' = k <;> simp_all [insert, get?, eq_comm]

theorem keys_insert (m : OrderedMap α) (key : String) (value : α) :
    keys (insert m key value) = if key ∈ keys m then keys m else keys m ++ [key] := by
  induction m with
  | nil => simp [insert, keys]
  | cons e m ih =>
    obtain ⟨k', v⟩ := e
    by_cases h : k' = key
    · simp [insert, keys, h]
    · by_cases h' : key ∈ keys m <;> simp_all [insert, keys, Ne.symm h]

@[simp] theorem mapValues_insert (f : α → β) (m : OrderedMap α) (key : String) (value : α) :
    mapValues f (insert m key value) = insert (mapValues f m) key (f value) := by
  induction m with
  | nil => rfl
  | cons e m ih =>
    have hcons : mapValues f (e :: m) = (e.1, f e.2) :: mapValues f m := rfl
    rw [hcons, insert, insert]
    split
    · rfl
    · rw [← ih]
      rfl

theorem get?_insertAll_of_forall_ne {key : String} {entries : List (String × α)} (m : OrderedMap α)
    (h : ∀ e ∈ entries, e.1 ≠ key) : get? (insertAll m entries) key = get? m key := by
  unfold insertAll
  induction entries generalizing m with
  | nil => rfl
  | cons e es ih =>
    have he : e.1 ≠ key := h e List.mem_cons_self
    rw [List.foldl_cons, ih _ fun e' h' => h e' (List.mem_cons_of_mem _ h'), get?_insert, if_neg he]

theorem filter_insert (p : String → Bool) (m : OrderedMap α) (key : String) (value : α) :
    (insert m key value).filter (fun e => p e.1) =
      if p key then insert (m.filter fun e => p e.1) key value else m.filter fun e => p e.1 := by
  induction m with
  | nil => cases h : p key <;> simp [insert, h]
  | cons e m ih =>
    by_cases hk : e.1 = key
    · cases h : p key <;> simp [insert, hk, h]
    · cases h : p key <;> cases he : p e.1 <;> simp_all [insert]

/-- Entries with some keys, told from the others, are inserted into those with these keys. -/
theorem filter_insertAll (p : String → Bool) (m : OrderedMap α) (entries : List (String × α)) :
    (insertAll m entries).filter (fun e => p e.1) =
      insertAll (m.filter fun e => p e.1) (entries.filter fun e => p e.1) := by
  induction entries generalizing m with
  | nil => rfl
  | cons e es ih =>
    have hcons : insertAll m (e :: es) = insertAll (insert m e.1 e.2) es := rfl
    rw [hcons, ih, filter_insert, List.filter_cons]
    cases p e.1 <;> rfl

theorem mem_insert {m : OrderedMap α} {key : String} {value : α} {e : String × α} (h : e ∈ insert m key value) :
    e ∈ m ∨ e = (key, value) := by
  induction m with
  | nil => exact .inr (List.mem_singleton.mp h)
  | cons e' m ih =>
    rw [insert] at h
    split at h
    · rename_i hk
      rcases List.mem_cons.mp h with h | h
      · exact .inr (hk ▸ h)
      · exact .inl (List.mem_cons_of_mem _ h)
    · rcases List.mem_cons.mp h with h | h
      · exact .inl (h ▸ List.mem_cons_self)
      · exact (ih h).imp (List.mem_cons_of_mem _) id

theorem mem_insertAll {m : OrderedMap α} {entries : List (String × α)} {e : String × α} (h : e ∈ insertAll m entries) :
    e ∈ m ∨ e ∈ entries := by
  unfold insertAll at h
  induction entries generalizing m with
  | nil => exact .inl h
  | cons e' es ih =>
    rcases ih h with h | h
    · rcases mem_insert h with h | rfl
      · exact .inl h
      · exact .inr List.mem_cons_self
    · exact .inr (List.mem_cons_of_mem _ h)

theorem mem_ofEntries {entries : List (String × α)} {e : String × α} (h : e ∈ ofEntries entries) : e ∈ entries :=
  (mem_insertAll h).resolve_left List.not_mem_nil

/-- Entries of different keys are a map as they stand. -/
theorem insertAll_of_nodup {m : OrderedMap α} {entries : List (String × α)} (h : (keys (m ++ entries)).Nodup) :
    insertAll m entries = m ++ entries := by
  unfold insertAll
  induction entries generalizing m with
  | nil => simp
  | cons e es ih =>
    have hnone : get? m e.1 = none := by
      rw [get?_eq_none]
      intro hm
      rw [keys, List.map_append, List.nodup_append] at h
      exact h.2.2 _ hm e.1 List.mem_cons_self rfl
    rw [List.foldl_cons, insert_of_get?_none hnone, ih (by simpa using h)]
    simp

theorem ofEntries_of_nodup {entries : List (String × α)} (h : (keys entries).Nodup) : ofEntries entries = entries :=
  insertAll_of_nodup h

/-- What is inserted hides what was there. -/
theorem get?_insertAll_of_mem {key : String} {entries : List (String × α)} (h : key ∈ keys entries) (m m' : OrderedMap α) :
    get? (insertAll m entries) key = get? (insertAll m' entries) key := by
  unfold insertAll
  induction entries generalizing m m' with
  | nil => contradiction
  | cons e es ih =>
    rw [List.foldl_cons, List.foldl_cons]
    by_cases hes : key ∈ keys es
    · exact ih hes _ _
    · have hne : ∀ e' ∈ es, e'.1 ≠ key := fun e' he' hk => hes (hk ▸ List.mem_map_of_mem he')
      have hkey : e.1 = key := ((List.mem_cons.mp h).resolve_right hes).symm
      have hlast := get?_insertAll_of_forall_ne (insert m e.1 e.2) hne
      have hlast' := get?_insertAll_of_forall_ne (insert m' e.1 e.2) hne
      rw [get?_insert, if_pos hkey] at hlast hlast'
      exact hlast.trans hlast'.symm

/-- An entry that no later one replaces. -/
theorem get?_insertAll_append (m : OrderedMap α) (before : List (String × α)) (key : String) (value : α)
    {after : List (String × α)} (h : ∀ e ∈ after, e.1 ≠ key) :
    get? (insertAll m (before ++ (key, value) :: after)) key = some value := by
  have hsplit : insertAll m (before ++ (key, value) :: after) =
      insertAll (insert (insertAll m before) key value) after := by
    simp [insertAll]
  simp [hsplit, get?_insertAll_of_forall_ne _ h]

theorem get?_insertAll_of_get? {entries : OrderedMap α} (hn : (keys entries).Nodup) {key : String} {value : α}
    (h : get? entries key = some value) (m : OrderedMap α) : get? (insertAll m entries) key = some value := by
  obtain ⟨before, after, rfl⟩ := List.append_of_mem (mem_of_get? h)
  refine get?_insertAll_append m before key value fun e he hk => ?_
  simp only [keys, List.map_append, List.map_cons, List.nodup_append, List.nodup_cons] at hn
  exact hn.2.1.1 (hk ▸ List.mem_map_of_mem he)

theorem nodup_keys_insert {m : OrderedMap α} (h : (keys m).Nodup) (key : String) (value : α) :
    (keys (insert m key value)).Nodup := by
  rw [keys_insert]
  split
  · exact h
  · rename_i hk
    exact List.nodup_append.2 ⟨h, by simp, fun k hm k' hk' => by
      rw [List.mem_singleton] at hk'
      exact fun e => hk (hk' ▸ e ▸ hm)⟩

theorem nodup_keys_insertAll {m : OrderedMap α} (h : (keys m).Nodup) (entries : List (String × α)) :
    (keys (insertAll m entries)).Nodup := by
  unfold insertAll
  induction entries generalizing m with
  | nil => exact h
  | cons e es ih => exact ih (nodup_keys_insert h e.1 e.2)

theorem nodup_keys_ofEntries (entries : List (String × α)) : (keys (ofEntries entries)).Nodup :=
  nodup_keys_insertAll (by simp [keys]) entries

/-! ## Inserting many entries -/

/-- The value of the last entry with a key. -/
def lastValue? (entries : List (String × α)) (key : String) : Option α := get? entries.reverse key

/-- In a map each key has one entry. -/
theorem lastValue?_of_nodup {m : OrderedMap α} (h : (keys m).Nodup) (key : String) : lastValue? m key = get? m key :=
  (get?_of_perm h m.reverse_perm.symm key).symm

theorem lastValue?_append (es es' : List (String × α)) (key : String) :
    lastValue? (es ++ es') key = (lastValue? es' key).or (lastValue? es key) := by
  rw [lastValue?, List.reverse_append, get?_append, ← lastValue?, ← lastValue?]
  cases lastValue? es' key <;> rfl

theorem lastValue?_flatten (ess : List (List (String × α))) (key : String) :
    lastValue? ess.flatten key = ess.reverse.findSome? (lastValue? · key) := by
  induction ess with
  | nil => rfl
  | cons es ess ih =>
    rw [List.flatten_cons, lastValue?_append, ih, List.reverse_cons, List.findSome?_append, List.findSome?_singleton]

@[simp] theorem insertAll_append (m : OrderedMap α) (es es' : List (String × α)) :
    insertAll m (es ++ es') = insertAll (insertAll m es) es' :=
  List.foldl_append

theorem mapValues_insertAll (f : α → β) (m : OrderedMap α) (entries : List (String × α)) :
    mapValues f (insertAll m entries) = insertAll (mapValues f m) (mapValues f entries) := by
  induction entries generalizing m with
  | nil => rfl
  | cons e es ih =>
    calc
      mapValues f (insertAll m (e :: es)) = insertAll (mapValues f (insert m e.1 e.2)) (mapValues f es) := ih _
      _ = insertAll (mapValues f m) (mapValues f (e :: es)) := by
        rw [mapValues_insert]
        rfl

/-- The last entry with a key is the one that counts. -/
theorem get?_insertAll (m : OrderedMap α) (entries : List (String × α)) (key : String) :
    get? (insertAll m entries) key = (lastValue? entries key).or (get? m key) := by
  induction entries generalizing m with
  | nil => rfl
  | cons e es ih =>
    have hfirst : get? (insert m e.1 e.2) key = (lastValue? [e] key).or (get? m key) := by
      rw [get?_insert, lastValue?, List.reverse_singleton, get?]
      split <;> rfl
    calc
      get? (insertAll m (e :: es)) key = (lastValue? es key).or ((lastValue? [e] key).or (get? m key)) := by
        rw [← hfirst]
        exact ih (insert m e.1 e.2)
      _ = (lastValue? (e :: es) key).or (get? m key) := by
        rw [← Option.or_assoc, ← lastValue?_append, List.singleton_append]

/-- Keys that are there keep their places, and the others follow in the order in which they come. -/
theorem keys_insertAll (m : OrderedMap α) (entries : List (String × α)) :
    keys (insertAll m entries) = keys m ++ ((keys entries).filter (· ∉ keys m)).eraseDups := by
  induction entries generalizing m with
  | nil => exact (List.append_nil _).symm
  | cons e es ih =>
    have hrest : keys (insertAll m (e :: es)) = keys (insertAll (insert m e.1 e.2) es) := rfl
    have hkeys : keys (e :: es) = e.1 :: keys es := rfl
    rw [hrest, ih, keys_insert, hkeys]
    by_cases he : e.1 ∈ keys m
    · rw [if_pos he, List.filter_cons_of_neg (by simpa using he)]
    · have hlater : (keys es).filter (· ∉ keys m ++ [e.1]) =
          ((keys es).filter (· ∉ keys m)).filter (fun k => !(k == e.1)) := by
        rw [List.filter_filter]
        refine List.filter_congr fun k _ => ?_
        by_cases hk : k = e.1 <;> simp [hk]
      rw [if_neg he, List.filter_cons_of_pos (by simpa using he), List.eraseDups_cons, hlater, List.append_assoc,
        List.singleton_append]

theorem mem_keys_insertAll {m : OrderedMap α} {entries : List (String × α)} {key : String} :
    key ∈ keys (insertAll m entries) ↔ key ∈ keys m ∨ key ∈ keys entries := by
  rw [keys_insertAll, List.mem_append, List.mem_eraseDups, List.mem_filter]
  by_cases h : key ∈ keys m <;> simp [h]

theorem keys_ofEntries (entries : List (String × α)) : keys (ofEntries entries) = (keys entries).eraseDups := by
  have hall : (keys entries).filter (· ∉ keys ([] : OrderedMap α)) = keys entries :=
    List.filter_eq_self.mpr fun _ _ => decide_eq_true List.not_mem_nil
  rw [ofEntries, keys_insertAll, hall]
  rfl

theorem get?_ofEntries (entries : List (String × α)) (key : String) :
    get? (ofEntries entries) key = lastValue? entries key := by
  rw [ofEntries, get?_insertAll, get?, Option.or_none]

/-- Maps with the same keys in the same order and the same values are the same. -/
theorem eq_of_keys {m m' : OrderedMap α} (hn : (keys m).Nodup) (hkeys : keys m = keys m')
    (hget : ∀ key, get? m key = get? m' key) : m = m' := by
  induction m generalizing m' with
  | nil =>
    cases m' with
    | nil => rfl
    | cons => contradiction
  | cons e m ih =>
    cases m' with
    | nil => contradiction
    | cons e' m' =>
      obtain ⟨hkey, hrest⟩ := List.cons.inj hkeys
      obtain ⟨hnot, hn⟩ := List.nodup_cons.mp hn
      have hvalue : e.2 = e'.2 := by simpa [get?, hkey] using hget e.1
      have htail : ∀ key, get? m key = get? m' key := by
        intro key
        by_cases hk : e.1 = key
        · have hnone : get? m key = none := get?_eq_none.mpr (hk ▸ hnot)
          have hnone' : get? m' key = none := by
            rw [get?_eq_none, keys, ← hrest]
            exact hk ▸ hnot
          rw [hnone, hnone']
        · have hk' : e'.1 ≠ key := hkey ▸ hk
          simpa [get?, hk, hk'] using hget key
      rw [Prod.ext hkey hvalue, ih hn hrest htail]

theorem insertAll_insert {m n : OrderedMap α} (hm : (keys m).Nodup) (hn : (keys n).Nodup) (key : String) (value : α) :
    insertAll m (insert n key value) = insert (insertAll m n) key value := by
  by_cases hkey : key ∈ keys n
  · have hkeys : keys (insert n key value) = keys n := by rw [keys_insert, if_pos hkey]
    have hthere : key ∈ keys (insertAll m n) := mem_keys_insertAll.mpr (.inr hkey)
    refine eq_of_keys (nodup_keys_insertAll hm _) ?_ fun k => ?_
    · rw [keys_insertAll, hkeys, ← keys_insertAll, keys_insert, if_pos hthere]
    · rw [get?_insertAll, lastValue?_of_nodup (nodup_keys_insert hn key value), get?_insert, get?_insert, get?_insertAll,
        lastValue?_of_nodup hn]
      split <;> rfl
  · rw [insert_of_get?_none (get?_eq_none.mpr hkey), insertAll_append]
    rfl

/-- Inserting the map of some entries is inserting the entries. -/
theorem insertAll_ofEntries {m : OrderedMap α} (hm : (keys m).Nodup) (entries : List (String × α)) :
    insertAll m (ofEntries entries) = insertAll m entries := by
  have step (es : List (String × α)) (n : OrderedMap α) (hn : (keys n).Nodup) :
      insertAll m (insertAll n es) = insertAll (insertAll m n) es := by
    induction es generalizing n with
    | nil => rfl
    | cons e es ih =>
      calc
        insertAll m (insertAll n (e :: es)) = insertAll (insertAll m (insert n e.1 e.2)) es :=
          ih _ (nodup_keys_insert hn e.1 e.2)
        _ = insertAll (insertAll m n) (e :: es) := by
          rw [insertAll_insert hm hn]
          rfl
  exact step entries [] .nil

/-! ## What entries contribute -/

section Contributions

variable {m : OrderedMap α} {f : String × α → List β} {keyOf : β → String} (hf : ∀ e, ∀ x ∈ f e, keyOf x = e.1)
include hf

theorem filter_flatMap_of_not_mem {key : String} (h : key ∉ keys m) : (m.flatMap f).filter (keyOf · = key) = [] := by
  refine List.filter_eq_nil_iff.mpr fun x hx hkey => h ?_
  obtain ⟨e, he, hxe⟩ := List.mem_flatMap.mp hx
  rw [← of_decide_eq_true hkey, hf e x hxe]
  exact List.mem_map_of_mem he

/-- Where entries contribute under their own keys, what stands under the key of an entry is its contribution. -/
theorem filter_flatMap_of_mem (hn : (keys m).Nodup) {e : String × α} (he : e ∈ m) :
    (m.flatMap f).filter (keyOf · = e.1) = f e := by
  obtain ⟨before, after, rfl⟩ := List.append_of_mem he
  rw [keys, List.map_append, List.map_cons, List.nodup_append, List.nodup_cons] at hn
  have hbefore : e.1 ∉ keys before := fun hmem => hn.2.2 e.1 hmem e.1 List.mem_cons_self rfl
  have hown : (f e).filter (keyOf · = e.1) = f e := List.filter_eq_self.mpr fun x hx => decide_eq_true (hf e x hx)
  rw [List.flatMap_append, List.flatMap_cons, List.filter_append, List.filter_append,
    filter_flatMap_of_not_mem hf hbefore, hown, filter_flatMap_of_not_mem hf hn.2.1.1, List.append_nil, List.nil_append]

end Contributions

end OrderedMap
end TagAudit
