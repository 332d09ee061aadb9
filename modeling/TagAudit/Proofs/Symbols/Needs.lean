/-
  TagAudit.Proofs.Symbols.Needs — the parts of locals that an expression cannot do without.

  An expression depends on every local that it refers to, but it can do without some of them:
  a lenient merge passes operands over, a list or object keeps the text of an item that has no
  value, and a later entry replaces an earlier one. A part is what steps lead to in the value of a
  local, and how much of that is to be there. `Table.Needs` says of parts that an expression cannot
  do without all of them, whatever the outcomes of locals; `Requires` are the rules by which this is
  read off an expression.

  Proved: `Requires.needs`: the rules are sound. `Requires.mem_references`: what is required is
  referred to.
-/

import TagAudit.Proofs.Symbols.Values

namespace TagAudit.Symbols

open Hcl

/-! ## Parts of values -/

/-- A step into a value that does not depend on other values. -/
inductive Step where
  | key (name : String)
  | position (i : Nat)
  | index (n : Number)

namespace Step

def key? : Step → Option String
  | .key name => some name
  | .position _ => none
  | .index n => some n.text

def position? : Step → Option Nat
  | .key _ => none
  | .position i => some i
  | .index n => n.toNat?

def ofAccess? : Access → Option Step
  | .attribute name => some (.key name)
  | .position i => some (.position i)
  | .index (.text s) => some (.key s)
  | .index (.number n) => some (.index n)
  | _ => none

/-- A step from a value to one in it. A map may have several entries for one key. -/
inductive Leads (s : Step) : Value → Value → Prop
  | entry {m : OrderedMap Value} {name : String} {w : Value} (hs : s.key? = some name) (h : (name, w) ∈ m) :
      Leads s (.map m) w
  | item {vs : List Value} {i : Nat} {w : Value} (hs : s.position? = some i) (h : vs[i]? = some w) :
      Leads s (.list vs) w

def Along : List Step → Value → Value → Prop
  | [], v, w => v = w
  | s :: p, v, w => ∃ u, s.Leads v u ∧ Along p u w

theorem along_append {p q : List Step} {u v w : Value} (h : Along p v u) (hw : Along q u w) : Along (p ++ q) v w := by
  induction p generalizing v with
  | nil =>
    obtain rfl : v = u := h
    exact hw
  | cons s p ih =>
    obtain ⟨u', hs, hu⟩ := h
    exact ⟨u', hs, ih hu⟩

theorem leads_of_lookupKey {s : Step} {name : String} {v w : Value} (hs : s.key? = some name)
    (h : lookupKey name v = .ok w) : s.Leads v w := by
  cases v with
  | map m =>
    simp only [lookupKey] at h
    split at h
    · rename_i u hu
      rw [← Except.ok.inj h]
      exact .entry hs (OrderedMap.mem_of_get? hu)
    · contradiction
  | _ => contradiction

theorem leads_of_lookupPosition {s : Step} {i : Nat} {v w : Value} (hs : s.position? = some i)
    (h : lookupPosition i v = .ok w) : s.Leads v w := by
  cases v with
  | list vs =>
    simp only [lookupPosition] at h
    split at h
    · rename_i u hu
      rw [← Except.ok.inj h]
      exact .item hs hu
    · contradiction
  | _ => contradiction

theorem leads_of_lookupIndex {n : Number} {v w : Value} (h : lookupIndex (.number n) v = .ok w) :
    (Step.index n).Leads v w := by
  cases v with
  | list vs =>
    simp only [lookupIndex] at h
    split at h
    · rename_i i hi
      exact leads_of_lookupPosition hi h
    · contradiction
  | _ => exact leads_of_lookupKey rfl h

end Step

/-- How much of a value is to be there. -/
inductive Extent where
  /-- Any value will do. -/
  | any
  /-- Nothing in it is unresolved, except for what a map has at some keys. -/
  | but (keys : List String)

namespace Extent

abbrev whole : Extent := .but []

/-- A value is there to an extent; of several entries with one key the last counts. -/
def Covers : Extent → Value → Prop
  | .any, _ => True
  | .but ks, .map m => ∀ e ∈ OrderedMap.ofEntries m, e.1 ∈ ks ∨ e.2.isResolved
  | .but _, v => v.isResolved

end Extent

/-- An outcome has something where the steps lead to, to the extent given. -/
def Has (o : Outcome) (p : List Step) (x : Extent) : Prop :=
  ∃ v w, o = .ok v ∧ Step.Along p v w ∧ x.Covers w

/-- A part of the value of a local, to an extent. -/
structure Need where
  name : String
  path : List Step
  extent : Extent

theorem item_resolved {vs : List Value} (h : Value.isResolved (.list vs)) : ∀ v ∈ vs, v.isResolved := by
  rw [Value.isResolved] at h
  induction vs with
  | nil => simp
  | cons v vs ih =>
    simp only [Value.allResolved, Bool.and_eq_true] at h
    exact List.forall_mem_cons.mpr ⟨h.1, ih h.2⟩

theorem map_resolved_iff {m : OrderedMap Value} : Value.isResolved (.map m) ↔ ∀ e ∈ m, e.2.isResolved := by
  rw [Value.isResolved]
  induction m with
  | nil => simp [Value.entriesResolved]
  | cons e m ih => simp only [Value.entriesResolved, Bool.and_eq_true, ih, List.forall_mem_cons]

theorem covers_of_resolved {v : Value} (h : v.isResolved) (ks : List String) : (Extent.but ks).Covers v := by
  cases v with
  | map m => exact fun e he => .inr (map_resolved_iff.mp h e (OrderedMap.mem_ofEntries he))
  | _ => exact h

theorem has_any {o : Outcome} {v : Value} (h : o = .ok v) : Has o [] .any := ⟨v, v, h, rfl, trivial⟩

theorem has_resolved {o : Outcome} {v : Value} (h : o = .ok v) (hv : v.isResolved) : Has o [] .whole :=
  ⟨v, v, h, rfl, covers_of_resolved hv []⟩

theorem has_of_scalar {o : Outcome} {v : Value} {s : String} (h : o = .ok v) (hs : v.scalar? = some s) :
    Has o [] .whole :=
  has_resolved h (resolved_of_scalar hs)

theorem Has.covers {v : Value} {x : Extent} (h : Has (.ok v) [] x) : x.Covers v := by
  obtain ⟨_, w, ⟨⟩, rfl, hx⟩ := h
  exact hx

/-- The first step, if there is something behind all of them. -/
theorem Has.step {v : Value} {s : Step} {p : List Step} {x : Extent} (h : Has (.ok v) (s :: p) x) :
    ∃ w, s.Leads v w ∧ Has (.ok w) p x := by
  obtain ⟨_, u, ⟨⟩, ⟨w, hs, hp⟩, hx⟩ := h
  exact ⟨w, hs, w, u, rfl, hp, hx⟩

/-- A map without repeated keys has nothing unresolved but at the keys excepted. -/
theorem Has.entries_resolved {m : OrderedMap Value} {ks : List String} (h : Has (.ok (.map m)) [] (.but ks))
    (hn : (OrderedMap.keys m).Nodup) : ∀ e ∈ m, e.1 ∈ ks ∨ e.2.isResolved := by
  have hcovers := h.covers
  rw [Extent.Covers, OrderedMap.ofEntries_of_nodup hn] at hcovers
  exact hcovers

/-- The item of an expression without value has no parts, and is unresolved itself. -/
theorem has_of_item {e : Expr} {o : Outcome} {p : List Step} {x : Extent} (hp : p ≠ [] ∨ x ≠ .any)
    (h : Has (.ok (orRaw e o)) p x) : Has o p x := by
  cases o with
  | ok v => exact h
  | error r =>
    cases p with
    | nil =>
      have hx := h.covers
      cases x with
      | any => exact (hp.elim (· rfl) (· rfl)).elim
      | but ks => simp [orRaw, Extent.Covers, Value.isResolved] at hx
    | cons s p =>
      obtain ⟨w, hs, -⟩ := h.step
      cases hs

/-! ## What expressions need -/

/-- Whatever the outcomes of locals: the part `p` of the value of an expression is there to an extent
    only if one of `D` is. -/
def Table.Needs (t : Table) (D : Need → Prop) (e : Expr) (p : List Step) (x : Extent) : Prop :=
  ∀ ρ, Has (t.valueIn ρ e) p x → ∃ n, D n ∧ Has (ρ n.name) n.path n.extent

theorem Table.Needs.mono {t : Table} {D D' : Need → Prop} {e : Expr} {p : List Step} {x : Extent} (h : t.Needs D e p x)
    (hD : ∀ n, D n → D' n) : t.Needs D' e p x :=
  fun ρ hv => (h ρ hv).imp fun n hn => ⟨hD n hn.1, hn.2⟩

section
variable (t : Table)

/-- Keys that never have the same text. -/
def Apart (k k' : Key) : Prop := ∀ ρ s, t.keyIn ρ k = .ok s → t.keyIn ρ k' ≠ .ok s

/-- An expression whose maps have keys of `S` only. -/
def KeysIn (S : String → Prop) (c : Expr) : Prop := ∀ ρ m, t.valueIn ρ c = .ok (.map m) → ∀ e ∈ m, S e.1

/-- An expression whose maps never have the key. -/
def Lacks (k : Key) (c : Expr) : Prop :=
  ∀ ρ m s, t.valueIn ρ c = .ok (.map m) → t.keyIn ρ k = .ok s → ∀ e ∈ m, e.1 ≠ s

/-- A merge does not pass over this operand among others: strict merges pass over none, and no
    merge over what always is a map. -/
def Stays (e : Expr) : Prop := t.strict = true ∨ ∀ ρ, ∃ m, t.valueIn ρ e = .ok (.map m)

/-- If the first expression has a value, it is a map with the second one's item at the key: an
    entry of an object or of an operand of a merge that no later entry replaces. -/
inductive Holds : Expr → Key → Expr → Prop
  | entry {before after : List (Key × Expr)} {k : Key} {e : Expr} (ha : ∀ a ∈ after, Apart t k a.1) :
      Holds (.object (before ++ (k, e) :: after)) k e
  | paren {c e : Expr} {k : Key} (h : Holds c k e) : Holds (.paren c) k e
  | operand {before after : List Expr} {c e : Expr} {k : Key} (hc : Stays t c) (h : Holds c k e)
      (ha : ∀ a ∈ after, Lacks t k a) : Holds (.call "merge" (before ++ c :: after) false) k e

end

def isSplat : Access → Bool
  | .splat => true
  | .attributeSplat => true
  | _ => false

def isDirective : Part → Bool
  | .conditional .. => true
  | .loop .. => true
  | _ => false

/-- Expressions that never have a value. -/
inductive Valueless : Expr → Prop
  | function {name : String} {args : List Expr} {expandLast : Bool} (h : name ≠ "merge") :
      Valueless (.call name args expandLast)
  | expanded {args : List Expr} : Valueless (.call "merge" args true)
  | conditional {c t f : Expr} : Valueless (.conditional c t f)
  | unary {op : UnaryOp} {e : Expr} : Valueless (.unary op e)
  | binary {op : BinaryOp} {l r : Expr} : Valueless (.binary op l r)
  | listFor {key : Option String} {value : String} {c e : Expr} {cond : Option Expr} :
      Valueless (.listFor key value c e cond)
  | objectFor {key : Option String} {value : String} {c k e : Expr} {grouped : Bool} {cond : Option Expr} :
      Valueless (.objectFor key value c k e grouped cond)
  | foreign {root : Expr} {path : List Access} (h : Reference.ofAccess? root path = none) :
      Valueless (.access root path)
  | splat {root : Expr} {path : List Access} {a : Access} (ha : isSplat a) (h : a ∈ path) :
      Valueless (.access root path)
  | interpolations {form : TemplateForm} {raw : String} {ps : List Part} (h : 1 < interpolationCount ps) :
      Valueless (.template form raw (some ps))
  | directive {form : TemplateForm} {raw : String} {ps : List Part} {p : Part} (hp : isDirective p) (h : p ∈ ps) :
      Valueless (.template form raw (some ps))

section
variable (t : Table) (D : Need → Prop)

/-- Rules for what an expression needs. What has no value, and so no parts, requires whatever it
    refers to. -/
inductive Requires : Expr → List Step → Extent → Prop
  | reference {root : Expr} {a : Access} {path : List Access} {r : Reference} {steps p : List Step} {x : Extent}
      (hr : Reference.ofAccess? root (a :: path) = some r) (hs : r.scope = .local)
      (hp : path.mapM Step.ofAccess? = some steps) (hD : D ⟨r.name, steps ++ p, x⟩) :
      Requires (.access root (a :: path)) p x
  | base {root : Expr} {a : Access} {path rest : List Access} {r : Reference} {steps p : List Step} {x : Extent}
      (hr : Reference.ofAccess? root (a :: (path ++ rest)) = some r) (hs : r.scope = .local)
      (hp : path.mapM Step.ofAccess? = some steps) (hD : D ⟨r.name, steps, .any⟩) :
      Requires (.access root (a :: (path ++ rest))) p x
  | index {root e : Expr} {path : List Access} {p : List Step} {x : Extent} (he : .index e ∈ path)
      (h : Requires e [] .whole) : Requires (.access root path) p x
  | paren {e : Expr} {p : List Step} {x : Extent} (h : Requires e p x) : Requires (.paren e) p x
  | item {items : List Expr} {e : Expr} {ks : List String} (he : e ∈ items) (h : Requires e [] .whole) :
      Requires (.list items) [] (.but ks)
  | itemAt {items : List Expr} {e : Expr} {s : Step} {i : Nat} {p : List Step} {x : Extent}
      (hs : s.position? = some i) (he : items[i]? = some e) (hp : p ≠ [] ∨ x ≠ .any) (h : Requires e p x) :
      Requires (.list items) (s :: p) x
  | key {es : List (Key × Expr)} {k e : Expr} {p : List Step} {x : Extent} (hk : (.expr k, e) ∈ es)
      (h : Requires k [] .whole) : Requires (.object es) p x
  | entry {c e : Expr} {k : Key} {ks : List String} (hc : Holds t c k e)
      (hn : ∀ ρ s, t.keyIn ρ k = .ok s → s ∉ ks) (h : Requires e [] .whole) : Requires c [] (.but ks)
  | entryAt {c e : Expr} {k : Key} {name : String} {s : Step} {p : List Step} {x : Extent} (hc : Holds t c k e)
      (hk : ∀ ρ s', t.keyIn ρ k = .ok s' → s' = name) (hs : s.key? = some name) (hp : p ≠ [] ∨ x ≠ .any)
      (h : Requires e p x) : Requires c (s :: p) x
  | interpolation {form : TemplateForm} {raw : String} {e : Expr} {before after : Bool} {p : List Step} {x : Extent}
      (h : Requires e p x) : Requires (.template form raw (some [.interpolation e before after])) p x
  | part {form : TemplateForm} {raw : String} {ps : List Part} {e : Expr} {before after : Bool} {p : List Step}
      {x : Extent} (hps : ps.length ≠ 1) (he : .interpolation e before after ∈ ps) (h : Requires e [] .whole) :
      Requires (.template form raw (some ps)) p x
  | operand {args : List Expr} {e : Expr} {p : List Step} {x : Extent} (hs : t.strict = true) (he : e ∈ args)
      (h : Requires e [] .any) : Requires (.call "merge" args false) p x
  | operands {args : List Expr} {p : List Step} {x : Extent} (ha : args ≠ []) (h : ∀ e ∈ args, Requires e [] .any) :
      Requires (.call "merge" args false) p x
  | operandsAt {args : List Expr} {c : Expr} {name : String} {s : Step} {p : List Step} {x : Extent}
      (hs : s.key? = some name) (hc : c ∈ args) (hn : ¬ KeysIn t (· ≠ name) c)
      (h : ∀ e ∈ args, ¬ KeysIn t (· ≠ name) e → Requires e (s :: p) x) : Requires (.call "merge" args false) (s :: p) x
  | operandBut {before after : List Expr} {e : Expr} {hidden ks : List String}
      (he : Stays t e ∨ before = [] ∧ after = []) (ha : ∀ a ∈ after, KeysIn t (· ∈ hidden) a)
      (h : Requires e [] (.but (hidden ++ ks))) : Requires (.call "merge" (before ++ e :: after) false) [] (.but ks)
  | valueless {e : Expr} {r : Reference} {p q : List Step} {x y : Extent} (he : Valueless e) (hr : r ∈ references e)
      (hs : r.scope = .local) (hD : D ⟨r.name, q, y⟩) : Requires e p x

end

/-! ## Needs are met -/

section
variable {t : Table} {ρ : Valuation}

theorem leads_of_evalStep {a : Access} {s : Step} (h : Step.ofAccess? a = some s) {reference : String} {v w : Value}
    (hw : (evalStep t (told ρ) reference v a).run = .ok w) : s.Leads v w := by
  unfold Step.ofAccess? at h
  split at h
  · obtain rfl := Option.some.inj h
    simp only [evalStep] at hw
    exact Step.leads_of_lookupKey rfl hw
  · obtain rfl := Option.some.inj h
    simp only [evalStep] at hw
    exact Step.leads_of_lookupPosition rfl hw
  · rename_i key
    obtain rfl := Option.some.inj h
    simp only [evalStep, eval] at hw
    have hkey : lookupIndex (.text key) v = lookupKey key v := by cases v <;> rfl
    exact Step.leads_of_lookupKey rfl (hkey ▸ hw)
  · obtain rfl := Option.some.inj h
    simp only [evalStep, eval] at hw
    exact Step.leads_of_lookupIndex hw
  · contradiction

/-- Literal steps, and others after them. -/
theorem evalPath_append {as bs : List Access} {steps : List Step} (h : as.mapM Step.ofAccess? = some steps)
    {reference : String} {v w : Value} (hw : (evalPath t (told ρ) reference v (as ++ bs)).run = .ok w) :
    ∃ u, Step.Along steps v u ∧ (evalPath t (told ρ) reference u bs).run = .ok w := by
  induction as generalizing v steps with
  | nil =>
    obtain rfl : steps = [] := by simpa using h.symm
    exact ⟨v, rfl, hw⟩
  | cons a as ih =>
    simp only [List.mapM_cons, Option.bind_eq_bind, Option.bind_eq_some_iff] at h
    obtain ⟨s, hs, steps', hsteps, h⟩ := h
    obtain rfl : steps = s :: steps' := by simpa using h.symm
    simp only [List.cons_append, evalPath] at hw
    obtain ⟨u, hu, hw⟩ := ok_of_bind hw
    obtain ⟨u', hx, hw⟩ := ih hsteps hw
    exact ⟨u', ⟨u, leads_of_evalStep hs hu, hx⟩, hw⟩

/-- Every step of a path was taken. -/
theorem evalPath_mem {as : List Access} {reference : String} {v w : Value}
    (hw : (evalPath t (told ρ) reference v as).run = .ok w) {a : Access} (ha : a ∈ as) :
    ∃ u x, (evalStep t (told ρ) reference u a).run = .ok x := by
  induction as generalizing v with
  | nil => contradiction
  | cons b as ih =>
    simp only [evalPath] at hw
    obtain ⟨u, hu, hw⟩ := ok_of_bind hw
    rcases List.mem_cons.mp ha with rfl | ha
    · exact ⟨v, u, hu⟩
    · exact ih hw ha

theorem Valueless.ne_ok {e : Expr} (h : Valueless e) (v : Value) : t.valueIn ρ e ≠ .ok v := by
  intro hv
  cases h with
  | function hn =>
    rw [Table.valueIn, eval_call_of_ne _ _ hn] at hv
    contradiction
  | expanded =>
    rw [Table.valueIn, eval_expandedMerge] at hv
    contradiction
  | conditional => simp only [Table.valueIn, eval] at hv; contradiction
  | unary => simp only [Table.valueIn, eval] at hv; contradiction
  | binary => simp only [Table.valueIn, eval] at hv; contradiction
  | listFor => simp only [Table.valueIn, eval] at hv; contradiction
  | objectFor => simp only [Table.valueIn, eval] at hv; contradiction
  | @foreign root path hr =>
    cases path with
    | nil => simp only [Table.valueIn, eval] at hv; contradiction
    | cons a path =>
      obtain ⟨r, u, hr', -⟩ := valueIn_access_eq_ok hv
      rw [hr] at hr'
      contradiction
  | @splat root path a ha hmem =>
    cases path with
    | nil => contradiction
    | cons b path =>
      obtain ⟨r, u, hr, -, hpath⟩ := valueIn_access_eq_ok hv
      rcases List.mem_cons.mp hmem with rfl | hmem
      · cases a <;> simp [isSplat, Reference.ofAccess?] at ha hr <;> split at hr <;> contradiction
      · obtain ⟨x, y, hstep⟩ := evalPath_mem hpath hmem
        cases a <;> simp only [isSplat, Bool.false_eq_true] at ha <;> simp only [evalStep] at hstep <;> contradiction
  | interpolations hps =>
    obtain ⟨hcount, -⟩ := valueIn_template_eq_ok (by rintro e before after rfl; simp [interpolationCount] at hps) hv
    omega
  | @directive form raw ps p hp hmem =>
    have hne (e : Expr) (before after : Bool) : ps ≠ [.interpolation e before after] := by
      rintro rfl
      rw [List.mem_singleton.mp hmem] at hp
      contradiction
    obtain ⟨-, hparts⟩ := valueIn_template_eq_ok hne hv
    obtain ⟨s, hs⟩ := hparts p hmem
    cases p <;> simp only [isDirective, Bool.false_eq_true] at hp <;> simp only [evalPart] at hs <;> contradiction

/-- The partner of an element, and those of the elements after it. -/
theorem forall₂_append_cons {α β : Type} {R : α → β → Prop} {as bs : List α} {a : α} {cs : List β}
    (h : List.Forall₂ R (as ++ a :: bs) cs) :
    ∃ cs₁ c cs₂, cs = cs₁ ++ c :: cs₂ ∧ R a c ∧ List.Forall₂ R bs cs₂ := by
  induction as generalizing cs with
  | nil =>
    cases h with
    | cons ha hbs => exact ⟨[], _, _, rfl, ha, hbs⟩
  | cons a' as ih =>
    cases h with
    | cons _ h =>
      obtain ⟨cs₁, c, cs₂, rfl, ha, hbs⟩ := ih h
      exact ⟨_ :: cs₁, c, cs₂, rfl, ha, hbs⟩

theorem forall₂_mem {α β : Type} {R : α → β → Prop} {as : List α} {bs : List β} (h : List.Forall₂ R as bs) {a : α}
    (ha : a ∈ as) : ∃ b ∈ bs, R a b := by
  obtain ⟨as₁, as₂, rfl⟩ := List.append_of_mem ha
  obtain ⟨bs₁, b, bs₂, rfl, hab, -⟩ := forall₂_append_cons h
  exact ⟨b, by simp, hab⟩

/-! ### Merging -/

def mergeInto (m : OrderedMap Value) (os : List (Option (OrderedMap Value))) : OrderedMap Value :=
  os.foldl (fun merged o => OrderedMap.insertAll merged (o.getD [])) m

/-- Maps that are merged after another one leave a key alone that they lack. -/
theorem get?_mergeInto {os : List (Option (OrderedMap Value))} {name : String}
    (h : ∀ o ∈ os, ∀ e ∈ o.getD [], e.1 ≠ name) (m : OrderedMap Value) :
    OrderedMap.get? (mergeInto m os) name = OrderedMap.get? m name := by
  induction os generalizing m with
  | nil => rfl
  | cons o os ih =>
    obtain ⟨ho, hos⟩ := List.forall_mem_cons.mp h
    exact (ih hos _).trans (OrderedMap.get?_insertAll_of_forall_ne _ ho)

theorem mem_mergeInto {os : List (Option (OrderedMap Value))} {m : OrderedMap Value} {e : String × Value}
    (h : e ∈ mergeInto m os) : e ∈ m ∨ ∃ m', some m' ∈ os ∧ e ∈ m' := by
  induction os generalizing m with
  | nil => exact .inl h
  | cons o os ih =>
    rcases ih h with h | ⟨m', hm', he⟩
    · rcases OrderedMap.mem_insertAll h with h | h
      · exact .inl h
      · cases o with
        | none => contradiction
        | some m' => exact .inr ⟨m', List.mem_cons_self, h⟩
    · exact .inr ⟨m', List.mem_cons_of_mem _ hm', he⟩

theorem nodup_mergeInto (os : List (Option (OrderedMap Value))) {m : OrderedMap Value} (h : (OrderedMap.keys m).Nodup) :
    (OrderedMap.keys (mergeInto m os)).Nodup := by
  induction os generalizing m with
  | nil => exact h
  | cons o os ih => exact ih (OrderedMap.nodup_keys_insertAll h _)

@[simp] theorem operandMap_eq_some {strict : Bool} {o : Outcome} {m : OrderedMap Value} :
    operandMap strict o = .ok (some m) ↔ o = .ok (.map m) := by
  constructor
  · intro h
    unfold operandMap at h
    split at h
    · rw [Option.some.inj (Except.ok.inj h)]
    · split at h <;> simp at h
    · split at h <;> simp at h
  · rintro rfl
    rfl

/-- An operand that a merge does not pass over. -/
theorem Stays.map {c : Expr} (hc : Stays t c) {o : Option (OrderedMap Value)}
    (ho : operandMap t.strict (t.valueIn ρ c) = .ok o) : ∃ m, o = some m ∧ t.valueIn ρ c = .ok (.map m) := by
  rcases hc with hs | hc
  · rw [hs] at ho
    cases o with
    | some m => exact ⟨m, rfl, operandMap_eq_some.mp ho⟩
    | none =>
      unfold operandMap at ho
      split at ho <;> simp at ho
  · obtain ⟨m, hm⟩ := hc ρ
    rw [operandMap_eq_some.mpr hm] at ho
    exact ⟨m, (Except.ok.inj ho).symm, hm⟩

/-- What holds of the entries of each operand's map holds of each map that is merged. -/
theorem forall_operand {args : List Expr} {os : List (Option (OrderedMap Value))} {S : String → Prop}
    (hos : List.Forall₂ (fun e o => operandMap t.strict (t.valueIn ρ e) = .ok o) args os)
    (h : ∀ a ∈ args, ∀ m, t.valueIn ρ a = .ok (.map m) → ∀ e ∈ m, S e.1) : ∀ o ∈ os, ∀ e ∈ o.getD [], S e.1 := by
  intro o ho
  obtain ⟨a, ha, hoa⟩ := forall₂_mem hos.flip ho
  cases o with
  | none => exact nofun
  | some m => exact h a ha m (operandMap_eq_some.mp hoa)

theorem mergeMaps_eq_ok {os : List (Option (OrderedMap Value))} {v : Value} (h : mergeMaps os = .ok v) :
    (os = [] ∨ ∃ m, some m ∈ os) ∧ v = .map (mergeInto [] os) := by
  unfold mergeMaps at h
  split at h
  · contradiction
  · rename_i hsome
    refine ⟨?_, (Except.ok.inj h).symm⟩
    by_contra hnone
    obtain ⟨hne, hnone⟩ := not_or.mp hnone
    refine hsome ?_
    simp only [Bool.and_eq_true, List.all_eq_true, Bool.not_eq_true', List.isEmpty_eq_false_iff]
    refine ⟨fun o ho => ?_, hne⟩
    cases o with
    | none => rfl
    | some m => exact (hnone ⟨m, ho⟩).elim

/-- What is resolved of a merged map is resolved of an operand, but for what later ones hide. -/
theorem covers_of_mergeInto {acc m : OrderedMap Value} {os : List (Option (OrderedMap Value))} {hidden ks : List String}
    (hn : (OrderedMap.keys acc).Nodup) (hos : ∀ o ∈ os, ∀ e ∈ o.getD [], e.1 ∈ hidden)
    (h : Has (.ok (.map (mergeInto (OrderedMap.insertAll acc m) os))) [] (.but ks)) :
    (Extent.but (hidden ++ ks)).Covers (.map m) := by
  intro e he
  by_cases hhidden : e.1 ∈ hidden
  · exact .inl (List.mem_append_left _ hhidden)
  · have hlater : ∀ o ∈ os, ∀ e' ∈ o.getD [], e'.1 ≠ e.1 := fun o ho e' he' hk => hhidden (hk ▸ hos o ho e' he')
    have hget : OrderedMap.get? (OrderedMap.ofEntries m) e.1 = some e.2 :=
      (OrderedMap.get?_eq_some_iff_mem (OrderedMap.nodup_keys_ofEntries m)).mpr he
    rw [OrderedMap.ofEntries, OrderedMap.get?_insertAll_of_mem (List.mem_map_of_mem (OrderedMap.mem_ofEntries he)) [] acc,
      ← get?_mergeInto hlater] at hget
    have hnodup := nodup_mergeInto os (OrderedMap.nodup_keys_insertAll hn m)
    exact (h.entries_resolved hnodup _ (OrderedMap.mem_of_get? hget)).imp (List.mem_append_right _) id

/-! ### Expressions -/

theorem Holds.sound {c e : Expr} {k : Key} (h : Holds t c k e) {v : Value} (hv : t.valueIn ρ c = .ok v) :
    ∃ m s, v = .map m ∧ (OrderedMap.keys m).Nodup ∧ t.keyIn ρ k = .ok s ∧ OrderedMap.get? m s = some (t.itemIn ρ e) := by
  induction h generalizing v with
  | @entry before after k e ha =>
    obtain ⟨kvs, hkvs, rfl⟩ := (valueIn_object_eq_ok t ρ).mp hv
    obtain ⟨kvs₁, ⟨s, item⟩, kvs₂, rfl, ⟨hkey, rfl⟩, hafter⟩ := forall₂_append_cons hkvs
    have hlater : ∀ kv ∈ kvs₂, kv.1 ≠ s := by
      rintro kv hkv rfl
      obtain ⟨a, hmem, hkey', -⟩ := forall₂_mem hafter.flip hkv
      exact ha a hmem ρ _ hkey hkey'
    exact ⟨_, s, rfl, OrderedMap.nodup_keys_ofEntries _, hkey, OrderedMap.get?_insertAll_append _ _ _ _ hlater⟩
  | paren _ ih =>
    refine ih ?_
    simpa only [Table.valueIn, eval] using hv
  | operand hc _ ha ih =>
    obtain ⟨os, hos, hmerge⟩ := valueIn_merge_eq_ok hv
    obtain ⟨-, rfl⟩ := mergeMaps_eq_ok hmerge
    obtain ⟨os₁, o, os₂, rfl, ho, hafter⟩ := forall₂_append_cons hos
    obtain ⟨m, rfl, hm⟩ := hc.map ho
    obtain ⟨_, s, ⟨⟩, hn, hkey, hget⟩ := ih hm
    refine ⟨_, s, rfl, nodup_mergeInto _ .nil, hkey, ?_⟩
    have hlack := forall_operand (S := (· ≠ s)) hafter fun a hmem m hm => ha a hmem ρ m s hm hkey
    rw [mergeInto, List.foldl_append, List.foldl_cons]
    exact (get?_mergeInto hlack _).trans (OrderedMap.get?_insertAll_of_get? hn hget _)

/-- An item that steps lead to. -/
theorem has_itemAt {items : List Expr} {s : Step} {i : Nat} {e : Expr} {p : List Step} {x : Extent}
    (hs : s.position? = some i) (he : items[i]? = some e) (hp : p ≠ [] ∨ x ≠ .any)
    (h : Has (t.valueIn ρ (.list items)) (s :: p) x) : Has (t.valueIn ρ e) p x := by
  rw [valueIn_list] at h
  obtain ⟨w, hw, h⟩ := h.step
  cases hw with
  | item hs' hw =>
    obtain rfl := Option.some.inj (hs.symm.trans hs')
    rw [List.getElem?_map, he] at hw
    obtain rfl : t.itemIn ρ e = w := Option.some.inj hw
    exact has_of_item hp h

theorem has_entryAt {c e : Expr} {k : Key} {name : String} {s : Step} {p : List Step} {x : Extent}
    (hc : Holds t c k e) (hk : ∀ ρ s', t.keyIn ρ k = .ok s' → s' = name) (hs : s.key? = some name)
    (hp : p ≠ [] ∨ x ≠ .any) (h : Has (t.valueIn ρ c) (s :: p) x) : Has (t.valueIn ρ e) p x := by
  obtain ⟨v, _, hv, -⟩ := id h
  obtain ⟨m, s', rfl, hn, hkey, hget⟩ := hc.sound hv
  obtain rfl := hk ρ s' hkey
  rw [hv] at h
  obtain ⟨w, hw, h⟩ := h.step
  cases hw with
  | entry hs' hw =>
    obtain rfl := Option.some.inj (hs.symm.trans hs')
    obtain rfl := Option.some.inj (hget.symm.trans ((OrderedMap.get?_eq_some_iff_mem hn).mpr hw))
    exact has_of_item hp h

/-- A part of a merged map is a part of an operand. -/
theorem has_operandAt {args : List Expr} {name : String} {s : Step} {p : List Step} {x : Extent}
    (hs : s.key? = some name) (h : Has (t.valueIn ρ (.call "merge" args false)) (s :: p) x) :
    ∃ e ∈ args, ¬ KeysIn t (· ≠ name) e ∧ Has (t.valueIn ρ e) (s :: p) x := by
  obtain ⟨v, _, hv, -⟩ := id h
  obtain ⟨os, hos, hmerge⟩ := valueIn_merge_eq_ok hv
  obtain ⟨-, rfl⟩ := mergeMaps_eq_ok hmerge
  rw [hv] at h
  obtain ⟨w, hw, w', u, ⟨⟩, hp, hx⟩ := h.step
  cases hw with
  | entry hs' hw =>
    obtain rfl := Option.some.inj (hs.symm.trans hs')
    obtain ⟨m, hm, hmem⟩ := (mem_mergeInto hw).resolve_left List.not_mem_nil
    obtain ⟨e, he, ho⟩ := forall₂_mem hos.flip hm
    have hvalue := operandMap_eq_some.mp ho
    exact ⟨e, he, fun hkeys => hkeys ρ m hvalue _ hmem rfl, .map m, u, hvalue, ⟨w, .entry hs hmem, hp⟩, hx⟩

theorem has_operandBut {before after : List Expr} {e : Expr} {hidden ks : List String}
    (he : Stays t e ∨ before = [] ∧ after = []) (ha : ∀ a ∈ after, KeysIn t (· ∈ hidden) a)
    (h : Has (t.valueIn ρ (.call "merge" (before ++ e :: after) false)) [] (.but ks)) :
    Has (t.valueIn ρ e) [] (.but (hidden ++ ks)) := by
  obtain ⟨v, _, hv, -⟩ := id h
  obtain ⟨os, hos, hmerge⟩ := valueIn_merge_eq_ok hv
  obtain ⟨hsome, rfl⟩ := mergeMaps_eq_ok hmerge
  obtain ⟨os₁, o, os₂, rfl, ho, hafter⟩ := forall₂_append_cons hos
  have hmap : ∃ m, o = some m ∧ t.valueIn ρ e = .ok (.map m) := by
    rcases he with he | ⟨rfl, rfl⟩
    · exact he.map ho
    · have hlen : 1 = os₁.length + (os₂.length + 1) := by simpa using hos.length_eq
      obtain rfl : os₁ = [] := List.eq_nil_of_length_eq_zero (by omega)
      obtain rfl : os₂ = [] := List.eq_nil_of_length_eq_zero (by omega)
      obtain ⟨m, hm⟩ := hsome.resolve_left (by simp)
      obtain rfl := List.mem_singleton.mp hm
      exact ⟨m, rfl, operandMap_eq_some.mp ho⟩
  obtain ⟨m, rfl, hm⟩ := hmap
  have hhidden := forall_operand hafter fun a hmem m hm => ha a hmem ρ m hm
  rw [hv, mergeInto, List.foldl_append, List.foldl_cons] at h
  exact ⟨_, _, hm, rfl, covers_of_mergeInto (nodup_mergeInto os₁ (m := []) .nil) hhidden h⟩

/-- What is required is needed. -/
theorem Requires.needs {D : Need → Prop} {e : Expr} {p : List Step} {x : Extent} (h : Requires t D e p x) :
    t.Needs D e p x := by
  intro ρ hv
  induction h with
  | @reference root a path r steps p x hr hs hp hD =>
    obtain ⟨v, w, hv, hw, hx⟩ := hv
    obtain ⟨r', u, hr', hu, hpath⟩ := valueIn_access_eq_ok hv
    obtain rfl := Option.some.inj (hr.symm.trans hr')
    obtain ⟨v', hsteps, hv'⟩ := evalPath_append hp (by rwa [List.append_nil])
    simp only [evalPath] at hv'
    obtain rfl := Except.ok.inj hv'
    exact ⟨_, hD, u, w, (symbolValue_local hs).symm.trans hu, Step.along_append hsteps hw, hx⟩
  | base hr hs hp hD =>
    obtain ⟨v, w, hv, -⟩ := hv
    obtain ⟨r', u, hr', hu, hpath⟩ := valueIn_access_eq_ok hv
    obtain rfl := Option.some.inj (hr.symm.trans hr')
    obtain ⟨v', hsteps, -⟩ := evalPath_append hp hpath
    exact ⟨_, hD, u, v', (symbolValue_local hs).symm.trans hu, hsteps, trivial⟩
  | @index root e path p x he _ ih =>
    obtain ⟨v, w, hv, -⟩ := hv
    cases path with
    | nil => contradiction
    | cons a path =>
      obtain ⟨r, u, hr, -, hpath⟩ := valueIn_access_eq_ok hv
      rcases List.mem_cons.mp he with rfl | he
      · simp [Reference.ofAccess?] at hr
        split at hr <;> contradiction
      · obtain ⟨v', w', hstep⟩ := evalPath_mem hpath he
        obtain ⟨i, hi, hlookup⟩ := evalStep_index_eq_ok hstep
        obtain ⟨s, hs⟩ := scalar_of_lookupIndex hlookup
        exact ih (has_of_scalar hi hs)
  | paren _ ih =>
    refine ih ?_
    simpa only [Table.valueIn, eval] using hv
  | @item items e ks he _ ih =>
    rw [valueIn_list] at hv
    have hitem := item_resolved hv.covers _ (List.mem_map_of_mem he)
    exact ih (has_of_item (.inr (by simp)) (has_resolved rfl hitem))
  | itemAt hs he hp _ ih => exact ih (has_itemAt hs he hp hv)
  | @key es k e p x hk h ih =>
    obtain ⟨v, w, hv, -⟩ := hv
    obtain ⟨kvs, hkvs, -⟩ := (valueIn_object_eq_ok t ρ).mp hv
    obtain ⟨kv, -, hkey, -⟩ := forall₂_mem hkvs hk
    have hvar (name : String) : k ≠ .variable name := by
      rintro rfl
      cases h with
      | entry hc => cases hc
      | valueless he => cases he
    rw [Table.keyIn, evalKey_expr_of_ne _ _ hvar] at hkey
    obtain ⟨u, hu, hs⟩ := ok_of_bind hkey
    exact ih (has_of_scalar hu (ok_of_scalarText hs))
  | entry hc hn _ ih =>
    obtain ⟨v, _, hv', -⟩ := id hv
    obtain ⟨m, s, rfl, hnodup, hkey, hget⟩ := hc.sound hv'
    rw [hv'] at hv
    have hentry := (hv.entries_resolved hnodup _ (OrderedMap.mem_of_get? hget)).resolve_left (hn ρ s hkey)
    exact ih (has_of_item (.inr (by simp)) (has_resolved rfl hentry))
  | entryAt hc hk hs hp _ ih => exact ih (has_entryAt hc hk hs hp hv)
  | interpolation _ ih =>
    refine ih ?_
    simpa only [Table.valueIn, eval, evalTemplate] using hv
  | @part form raw ps e before after p x hps he _ ih =>
    obtain ⟨v, w, hv, -⟩ := hv
    obtain ⟨-, hparts⟩ := valueIn_template_eq_ok (by rintro _ _ _ rfl; exact hps rfl) hv
    obtain ⟨s, hs⟩ := hparts _ he
    obtain ⟨u, hu, hs⟩ := evalPart_interpolation_eq_ok hs
    exact ih (has_of_scalar hu hs)
  | operand hs he _ ih =>
    obtain ⟨v, w, hv, -⟩ := hv
    obtain ⟨os, hos, -⟩ := valueIn_merge_eq_ok hv
    obtain ⟨o, -, ho⟩ := forall₂_mem hos he
    obtain ⟨m, -, hm⟩ := Stays.map (.inl hs) ho
    exact ih (has_any hm)
  | operands ha _ ih =>
    obtain ⟨v, w, hv, -⟩ := hv
    obtain ⟨os, hos, hmerge⟩ := valueIn_merge_eq_ok hv
    obtain ⟨rfl | ⟨m, hm⟩, -⟩ := mergeMaps_eq_ok hmerge
    · cases hos
      exact (ha rfl).elim
    · obtain ⟨e, he, ho⟩ := forall₂_mem hos.flip hm
      exact ih e he (has_any (operandMap_eq_some.mp ho))
  | operandsAt hs _ _ _ ih =>
    obtain ⟨e, he, hn, hhas⟩ := has_operandAt hs hv
    exact ih e he hn hhas
  | operandBut he ha _ ih => exact ih (has_operandBut he ha hv)
  | valueless he _ _ _ =>
    obtain ⟨v, _, hv, -⟩ := hv
    exact (he.ne_ok v hv).elim

end

/-! ## What is required is referred to -/

theorem references_subset_all {e : Expr} {es : List Expr} (h : e ∈ es) : references e ⊆ referencesInAll es := by
  rw [referencesInAll_eq]
  exact fun r hr => List.mem_flatMap.mpr ⟨e, h, hr⟩

theorem references_subset_entries {k : Key} {e : Expr} {es : List (Key × Expr)} (h : (k, e) ∈ es) :
    referencesInKey k ++ references e ⊆ referencesInEntries es := by
  rw [referencesInEntries_eq]
  exact fun r hr => List.mem_flatMap.mpr ⟨(k, e), h, hr⟩

theorem references_subset_path {a : Access} {path : List Access} (h : a ∈ path) :
    referencesInStep a ⊆ referencesInPath path := by
  rw [referencesInPath_eq]
  exact fun r hr => List.mem_flatMap.mpr ⟨a, h, hr⟩

theorem references_subset_parts {p : Part} {ps : List Part} (h : p ∈ ps) : referencesInPart p ⊆ referencesInParts ps := by
  rw [referencesInParts_eq]
  exact fun r hr => List.mem_flatMap.mpr ⟨p, h, hr⟩

theorem Holds.references_subset {t : Table} {c e : Expr} {k : Key} (h : Holds t c k e) :
    references e ⊆ references c := by
  induction h with
  | entry _ =>
    exact fun r hr => references_subset_entries List.mem_append_cons_self (List.mem_append_right _ hr)
  | paren _ ih => exact ih
  | operand _ _ _ ih => exact fun r hr => references_subset_all List.mem_append_cons_self (ih hr)

theorem Requires.mem_references {t : Table} {D : Need → Prop} {e : Expr} {p : List Step} {x : Extent}
    (h : Requires t D e p x) : ∃ n, D n ∧ ∃ r ∈ references e, r.scope = .local ∧ r.name = n.name := by
  have within {e c : Expr} (hsub : references e ⊆ references c)
      (h : ∃ n, D n ∧ ∃ r ∈ references e, r.scope = .local ∧ r.name = n.name) :
      ∃ n, D n ∧ ∃ r ∈ references c, r.scope = .local ∧ r.name = n.name :=
    h.imp fun _ ⟨hD, r, hr, hlocal⟩ => ⟨hD, r, hsub hr, hlocal⟩
  induction h with
  | reference hr hs _ hD => exact ⟨_, hD, _, by simp [references, hr], hs, rfl⟩
  | base hr hs _ hD => exact ⟨_, hD, _, by simp [references, hr], hs, rfl⟩
  | index he _ ih => exact within (fun r hr => List.mem_append_right _ (references_subset_path he hr)) ih
  | paren _ ih => exact ih
  | item he _ ih => exact within (references_subset_all he) ih
  | itemAt _ he _ _ ih => exact within (references_subset_all (List.mem_of_getElem? he)) ih
  | key hk _ ih => exact within (fun r hr => references_subset_entries hk (List.mem_append_left _ hr)) ih
  | entry hc _ _ ih => exact within hc.references_subset ih
  | entryAt hc _ _ _ _ ih => exact within hc.references_subset ih
  | interpolation _ ih => exact within (fun r hr => references_subset_parts List.mem_cons_self hr) ih
  | part _ he _ ih => exact within (fun r hr => references_subset_parts he hr) ih
  | operand _ he _ ih => exact within (references_subset_all he) ih
  | @operands args p x ha _ ih =>
    obtain ⟨e, he⟩ := List.exists_mem_of_ne_nil args ha
    exact within (references_subset_all he) (ih e he)
  | operandsAt _ hc hn _ ih => exact within (references_subset_all hc) (ih _ hc hn)
  | operandBut _ _ _ ih => exact within (references_subset_all List.mem_append_cons_self) ih
  | valueless _ hr hs hD => exact ⟨_, hD, _, hr, hs, rfl⟩

end TagAudit.Symbols
