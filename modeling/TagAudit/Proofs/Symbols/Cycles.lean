/-
  TagAudit.Proofs.Symbols.Cycles — locals that lead back to themselves.

  A local that depends on itself is noticed on the stack, as a reason why a reference has no
  value. That reason is one like any other: a lenient merge passes over an operand that has it,
  a list or object keeps the text of the item, and evaluation goes on. So some locals on cycles
  are resolved, in either mode (`cyclic_local_resolved`), and it can be up to the order of the
  declarations which of them are.

  What is never there are `Unfounded` parts of locals: each of them needs (`Table.Needs`) one of
  them, or a part of a local that was passed on the way, so that none is there first. They are
  found by following what expressions require until a local comes up again (`Table.Returns`).

  Proved: `looping_unresolved`: where what is required returns to a local that was passed, the part
  it started from is unfounded; and a local is not resolved if the whole of it is unfounded, in
  whichever order the locals are evaluated.
-/

import TagAudit.Proofs.Symbols.Declared
import TagAudit.Proofs.Symbols.Needs
import TagAudit.Symbols.Resolution

namespace TagAudit.Symbols

open Hcl Declarations

namespace Table

/-- Parts of locals, each with the locals that were passed on the way to it, of which none is there
    first: it needs a part of a local that was passed, or another of them. -/
def Unfounded (t : Table) (D : List String → Need → Prop) : Prop :=
  ∀ seen n, D seen n → ∃ e, t.expression? n.name = some e ∧
    t.Needs (fun n' => n'.name ∈ n.name :: seen ∨ D (n.name :: seen) n') e n.path n.extent

/-- A part among unfounded ones. -/
def Looping (t : Table) (n : Need) : Prop := ∃ D, t.Unfounded D ∧ D [] n

/-- A part of a local that requires another one. -/
def Leads (t : Table) (n n' : Need) : Prop :=
  ∃ e, t.expression? n.name = some e ∧ Requires t (· = n') e n.path n.extent

/-- Required parts lead to a local that was passed on the way. -/
inductive Returns (t : Table) : List String → Need → Prop
  | back {seen : List String} {n n' : Need} (h : t.Leads n n') (hseen : n'.name ∈ n.name :: seen) : t.Returns seen n
  | on {seen : List String} {n n' : Need} (h : t.Leads n n') (hnext : t.Returns (n.name :: seen) n') : t.Returns seen n

/-- A local is resolved neither in the report of all symbols nor where it is referred to. -/
def Unresolved (t : Table) (x : String) : Prop :=
  (∀ e ∈ t.localEntries, e.name = x → e.resolved = false) ∧ (t.resolveText ("local." ++ x)).resolved = false

variable {t : Table} {n n' : Need} {D : List String → Need → Prop}

theorem dependsOn_of_contains {x y : String}
    (h : ((t.locals.get? x).any fun l => l.dependencies.contains ("local." ++ y)) = true) : t.DependsOn x y := by
  cases hl : t.locals.get? x with
  | none => simp [hl] at h
  | some l =>
    rw [hl, Option.any_some] at h
    exact ⟨l, hl, List.contains_iff_mem.mp h⟩

theorem unfounded_returns (t : Table) : t.Unfounded t.Returns := by
  intro seen n h
  cases h with
  | back hlead hseen =>
    obtain ⟨e, he, hrequires⟩ := hlead
    exact ⟨e, he, hrequires.needs.mono fun _ hn => .inl (hn ▸ hseen)⟩
  | on hlead hnext =>
    obtain ⟨e, he, hrequires⟩ := hlead
    exact ⟨e, he, hrequires.needs.mono fun _ hn => .inr (hn ▸ hnext)⟩

theorem Leads.dependsOn (hlisted : t.Listed) (h : t.Leads n n') : t.DependsOn n.name n'.name := by
  obtain ⟨e, he, hrequires⟩ := h
  obtain ⟨_, rfl, href⟩ := hrequires.mem_references
  exact (refers_iff_dependsOn hlisted _ _).mp ⟨e, he, href⟩

/-- What returns goes round a cycle of dependencies. -/
theorem Returns.cycle (hlisted : t.Listed) {seen : List String} (h : t.Returns seen n)
    (hseen : ∀ z ∈ seen, Relation.TransGen t.DependsOn z n.name) :
    ∃ y, Relation.ReflTransGen t.DependsOn n.name y ∧ Relation.TransGen t.DependsOn y y := by
  have onward {n n' : Need} {seen : List String} (hlead : t.Leads n n')
      (hseen : ∀ z ∈ seen, Relation.TransGen t.DependsOn z n.name) :
      ∀ z ∈ n.name :: seen, Relation.TransGen t.DependsOn z n'.name :=
    List.forall_mem_cons.mpr ⟨.single (hlead.dependsOn hlisted), fun z hz => (hseen z hz).tail (hlead.dependsOn hlisted)⟩
  induction h with
  | @back seen n n' hlead hmem =>
    exact ⟨n'.name, .single (hlead.dependsOn hlisted), onward hlead hseen _ hmem⟩
  | @on seen n n' hlead hnext ih =>
    obtain ⟨y, hy, hcycle⟩ := ih (onward hlead hseen)
    exact ⟨y, .head (hlead.dependsOn hlisted) hy, hcycle⟩

/-- Unfounded parts are never there: what a value was made of was there before it, and so is no
    part of a local that was not evaluated yet. -/
theorem History.not_has_of_unfounded (hfresh : t.Fresh) (hD : t.Unfounded D) {memo : OrderedMap Outcome}
    (h : t.History memo) : ∀ {before : OrderedMap Outcome} {seen : List String} {n : Need} {o : Outcome},
      before ++ [(n.name, o)] <+: memo → D seen n → (∀ z ∈ seen, z ∉ OrderedMap.keys before) →
        ¬ Has o n.path n.extent := by
  induction h with
  | start =>
    intro before seen n o hprefix
    simp at hprefix
  | @step memo stack x e o' _ pending led value ih =>
    intro before seen n o hprefix hn hseen hhas
    rcases List.prefix_concat_iff.mp hprefix with hwhole | hprefix
    · obtain ⟨rfl, hlast⟩ := List.append_inj' hwhole rfl
      obtain ⟨rfl, rfl⟩ : n.name = x ∧ o = o' := by simpa using hlast
      obtain ⟨l, hl, -, hopen, -, rfl⟩ := known_eq_inr.mp pending
      obtain ⟨e, he, hneeds⟩ := hD seen n hn
      obtain rfl : l.expression = e := Option.some.inj ((expression?_of_get? hl).symm.trans he)
      rw [← value _ (fits_knownOr t _ fun _ => .error .isNull)] at hhas
      obtain ⟨n', hn', v, w, hv, hthere⟩ := hneeds _ hhas
      have hget := memo_of_knownOr hfresh hv
      have hdone : n'.name ∈ OrderedMap.keys before := OrderedMap.mem_keys_of_get? hget
      have hseen' : ∀ z ∈ n.name :: seen, z ∉ OrderedMap.keys before :=
        List.forall_mem_cons.mpr ⟨OrderedMap.get?_eq_none.mp hopen, hseen⟩
      rcases hn' with hpassed | hn'
      · exact hseen' _ hpassed hdone
      · obtain ⟨earlier, later, hsplit⟩ : ∃ earlier later, before = earlier ++ (n'.name, .ok v) :: later :=
          List.append_of_mem (OrderedMap.mem_of_get? hget)
        have hprefix : earlier ++ [(n'.name, .ok v)] <+: before := ⟨later, by simp [hsplit]⟩
        refine ih hprefix hn' (fun z hz hmem => hseen' z hz ?_) ⟨v, w, rfl, hthere⟩
        rw [hsplit, OrderedMap.keys, List.map_append]
        exact List.mem_append_left _ hmem
    · exact ih hprefix hn hseen hhas

end Table

section
variable {files : List SourceFile} {overrides : OrderedMap Value} {strict : Bool} {n : Need}

/-- Evaluating locals changes nothing in what expressions need. -/
theorem needs_unevaluated {D : Need → Prop} {e : Expr} {p : List Step} {x : Extent}
    (h : (Table.ofFiles files overrides strict).Needs D e p x) :
    (Table.unevaluatedOf files overrides strict).Needs D e p x := by
  intro ρ hhas
  have hvalue : (Table.ofFiles files overrides strict).valueIn ρ e = (Table.unevaluatedOf files overrides strict).valueIn ρ e :=
    Table.valueIn_congr rfl (fun _ _ _ => rfl) fun _ _ _ => rfl
  exact h ρ (hvalue ▸ hhas)

/-- A part that loops is never there, whichever local was evaluated first. -/
theorem not_has_of_looping (h : (Table.ofFiles files overrides strict).Looping n) :
    ¬ Has ((Table.ofFiles files overrides strict).stored n.name) n.path n.extent := by
  obtain ⟨D, hD, hn⟩ := h
  have hD : (Table.unevaluatedOf files overrides strict).Unfounded D := fun seen n hn => by
    obtain ⟨e, he, hneeds⟩ := hD seen n hn
    exact ⟨e, expression?_ofFiles ▸ he, needs_unevaluated hneeds⟩
  obtain ⟨e, he, -⟩ := hD [] n hn
  obtain ⟨memo, hhist, hmemo⟩ := ofFiles_history files overrides strict
  obtain ⟨before, after, hsplit⟩ := List.append_of_mem (OrderedMap.mem_of_get? (hmemo n.name e he))
  have hprefix : before ++ [(n.name, (Table.ofFiles files overrides strict).stored n.name)] <+: memo := ⟨after, by simp [hsplit]⟩
  exact hhist.not_has_of_unfounded fresh_unevaluatedOf hD hprefix hn (by simp)

/-- The name of a local is read as a reference to it. -/
theorem parseReference?_local {x : String} (h : IsIdent x) : Text.trimmed ("local." ++ x) = "local." ++ x ∧
    Table.parseReference? ("local." ++ x) = some (.access (.variable "local") [.attribute x]) := by
  have htext : ("local." ++ x).toList = 'l' :: 'o' :: 'c' :: 'a' :: 'l' :: '.' :: x.toList := by
    rw [String.toList_append]
    rfl
  constructor
  · refine Text.trimmed_of_forall fun c hc => ?_
    rw [htext] at hc
    simp only [List.mem_cons] at hc
    rcases hc with rfl | rfl | rfl | rfl | rfl | rfl | hc
    iterate 6 rfl
    exact isBlank_of_isIdentChar (h.forall_isIdentChar c hc)
  · unfold Table.parseReference?
    rw [htext]
    exact read?_local h

theorem isIdent_of_looping (h : (Table.ofFiles files overrides strict).Looping n) : IsIdent n.name := by
  obtain ⟨D, hD, hn⟩ := h
  obtain ⟨e, he, -⟩ := hD [] n hn
  obtain ⟨l, hl, -⟩ := Option.map_eq_some_iff.mp he
  exact isIdent_of_mem (declares_ofFiles hl).2

theorem unresolved_of_looping {x : String} (h : (Table.ofFiles files overrides strict).Looping ⟨x, [], .whole⟩) :
    (Table.ofFiles files overrides strict).Unresolved x := by
  have hunresolved (v : Value) (hv : (Table.ofFiles files overrides strict).stored x = .ok v) : v.isResolved = false := by
    by_contra hres
    rw [Bool.not_eq_false] at hres
    exact not_has_of_looping h (has_resolved hv hres)
  constructor
  · intro e he hname
    obtain ⟨l, hl, rfl⟩ := List.mem_map.mp he
    obtain ⟨-, ho⟩ := outcome_of_mem hl
    obtain rfl : l.name = x := hname
    cases hv : (Table.ofFiles files overrides strict).stored l.name with
    | error r => simp [Entry.resolved, Entry.value?, ho, hv]
    | ok v => simp [Entry.resolved, Entry.value?, ho, hv, hunresolved v hv]
  · obtain ⟨htrim, hparse⟩ := parseReference?_local (isIdent_of_looping h)
    simp only [Table.resolveText, htrim, hparse, Table.resolveAs, outcome_ofFiles, valueIn_local]
    cases hv : (Table.ofFiles files overrides strict).stored x with
    | error r => rfl
    | ok v => simp [Resolution.ofOutcome, Resolution.resolved, hunresolved v hv]

end

/-- In either mode and whatever the order of the declarations: required parts that lead back to a
    local on the way go round a cycle of dependencies and are unfounded, and a local the whole of
    which is unfounded is never reported as resolved. -/
theorem looping_unresolved (files : List SourceFile) (overrides : OrderedMap Value) (strict : Bool) :
    let t := Table.ofFiles files overrides strict
    (∀ n, t.Returns [] n → t.Looping n ∧
      ∃ y, Relation.ReflTransGen t.DependsOn n.name y ∧ Relation.TransGen t.DependsOn y y) ∧
    ∀ x, t.Looping ⟨x, [], .whole⟩ → t.Unresolved x := by
  intro t
  refine ⟨fun n h => ⟨⟨t.Returns, t.unfounded_returns, h⟩, ?_⟩, fun x h => unresolved_of_looping h⟩
  exact h.cycle listed_ofFiles (by simp)

/-- A local that takes an entry of merged ones, which is a reference to the first, and one with a
    computed key at which it refers to another part of itself. -/
def entryCycleFiles : List SourceFile :=
  [⟨"tags.tf", "variable \"team\" \x7b\n  default = \"core\"\n\x7d\nlocals \x7b\n  owner = local.tags.owner\n  tags = merge(local.base, \x7b env = \"dev\" \x7d)\n  base = \x7b owner = local.owner \x7d\n  teams = \x7b lead = \"ops\", (var.team) = local.teams.lead \x7d\n\x7d\n"⟩]

set_option maxRecDepth 2000 in
theorem looping_unresolved_entryCycleFiles :
    let t := Table.ofFiles entryCycleFiles [] false
    t.Returns [] ⟨"owner", [], .whole⟩ ∧ t.Unresolved "owner" ∧ t.Returns [] ⟨"teams", [], .whole⟩ ∧ t.Unresolved "teams" := by
  intro t
  let team : Expr := .access (.variable "var") [.attribute "team"]
  let lead : Expr := .access (.variable "local") [.attribute "teams", .attribute "lead"]
  have hread : OrderedMap.mapValues (·.expression) t.locals =
      [("owner", .access (.variable "local") [.attribute "tags", .attribute "owner"]),
        ("tags", .call "merge" [.access (.variable "local") [.attribute "base"], .object [(.ident "env", .text "dev")]] false),
        ("base", .object [(.ident "owner", .access (.variable "local") [.attribute "owner"])]),
        ("teams", .object [(.ident "lead", .text "ops"), (.expr (.paren team), lead)])] := by
    with_unfolding_all rfl
  have expression (x : String) : t.expression? x = OrderedMap.get? (OrderedMap.mapValues (·.expression) t.locals) x :=
    (OrderedMap.get?_mapValues _ _ _).symm
  rw [hread] at expression
  have hfirst : t.Leads ⟨"owner", [], .whole⟩ ⟨"tags", [.key "owner"], .whole⟩ :=
    ⟨_, expression _, .reference (r := ⟨.local, "tags", [.attribute "owner"]⟩) rfl rfl rfl rfl⟩
  have henv : KeysIn t (· ≠ "owner") (.object [(.ident "env", .text "dev")]) := by
    intro ρ m hm
    obtain rfl : OrderedMap.ofEntries [("env", .text "dev")] = m := Value.map.inj (Except.ok.inj hm)
    decide
  have hbase : ¬ KeysIn t (· ≠ "owner") (.access (.variable "local") [.attribute "base"]) := fun hkeys =>
    hkeys (fun _ => .ok (.map [("owner", .text "core")])) _ (valueIn_local "base") ("owner", .text "core") (by simp) rfl
  have hsecond : t.Leads ⟨"tags", [.key "owner"], .whole⟩ ⟨"base", [.key "owner"], .whole⟩ := by
    refine ⟨_, expression _, .operandsAt rfl List.mem_cons_self hbase ?_⟩
    simp only [List.forall_mem_cons]
    exact ⟨fun _ => .reference (r := ⟨.local, "base", []⟩) rfl rfl rfl rfl, fun hkeys => (hkeys henv).elim, by simp⟩
  have hthird : t.Leads ⟨"base", [.key "owner"], .whole⟩ ⟨"owner", [], .whole⟩ := by
    have hentry : Holds t (.object ([] ++ (.ident "owner", .access (.variable "local") [.attribute "owner"]) :: []))
        (.ident "owner") (.access (.variable "local") [.attribute "owner"]) := .entry (by simp)
    have hkey (ρ : Valuation) (s : String) (hs : t.keyIn ρ (.ident "owner") = .ok s) : s = "owner" := (Except.ok.inj hs).symm
    exact ⟨_, expression _, .entryAt hentry hkey rfl (.inr (by simp)) (.reference (r := ⟨.local, "owner", []⟩) rfl rfl rfl rfl)⟩
  have hself : t.Leads ⟨"teams", [], .whole⟩ ⟨"teams", [.key "lead"], .whole⟩ := by
    have hentry : Holds t (.object ([(.ident "lead", .text "ops")] ++ (.expr (.paren team), lead) :: []))
        (.expr (.paren team)) lead := .entry (by simp)
    exact ⟨_, expression _, .entry hentry (by simp) (.reference (r := ⟨.local, "teams", [.attribute "lead"]⟩) rfl rfl rfl rfl)⟩
  obtain ⟨hloops, hunresolved⟩ := looping_unresolved entryCycleFiles [] false
  have howner : t.Returns [] ⟨"owner", [], .whole⟩ := .on hfirst (.on hsecond (.back hthird (by simp)))
  have hteams : t.Returns [] ⟨"teams", [], .whole⟩ := .back hself (by simp)
  exact ⟨howner, hunresolved _ (hloops _ howner).1, hteams, hunresolved _ (hloops _ hteams).1⟩

/-- A merge that passes over the local that it defines. -/
def passedOverFiles : List SourceFile :=
  [⟨"tags.tf", "locals \x7b\n  tags = merge(local.tags, \x7b env = \"dev\" \x7d)\n\x7d\n"⟩]

/-- A local that takes the entry of another one that does not lead back to it. -/
def otherEntryFiles : List SourceFile :=
  [⟨"tags.tf", "locals \x7b\n  env = local.tags.env\n  tags = \x7b copy = local.env, env = \"dev\" \x7d\n\x7d\n"⟩]

/-- Not every local that depends on itself is unresolved, in lenient and in strict tables. -/
theorem cyclic_local_resolved :
    (¬ ∀ files overrides x, Relation.TransGen (Table.ofFiles files overrides false).DependsOn x x →
      (Table.ofFiles files overrides false).Unresolved x) ∧
    ¬ ∀ files overrides x, Relation.TransGen (Table.ofFiles files overrides true).DependsOn x x →
      (Table.ofFiles files overrides true).Unresolved x := by
  constructor
  · intro h
    have hself : (Table.ofFiles passedOverFiles [] false).DependsOn "tags" "tags" :=
      Table.dependsOn_of_contains (by decide +kernel)
    have hres : ((Table.ofFiles passedOverFiles [] false).resolveText ("local." ++ "tags")).resolved = true := by
      decide +kernel
    exact Bool.false_ne_true ((h passedOverFiles [] "tags" (.single hself)).2.symm.trans hres)
  · intro h
    have hto : (Table.ofFiles otherEntryFiles [] true).DependsOn "env" "tags" :=
      Table.dependsOn_of_contains (by decide +kernel)
    have hback : (Table.ofFiles otherEntryFiles [] true).DependsOn "tags" "env" :=
      Table.dependsOn_of_contains (by decide +kernel)
    have hres : ((Table.ofFiles otherEntryFiles [] true).resolveText ("local." ++ "env")).resolved = true := by
      decide +kernel
    exact Bool.false_ne_true ((h otherEntryFiles [] "env" (.tail (.single hto) hback)).2.symm.trans hres)

end TagAudit.Symbols
