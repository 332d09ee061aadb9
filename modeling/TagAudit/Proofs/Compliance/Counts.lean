/-
  TagAudit.Proofs.Compliance.Counts — the numbers of a report.

  A report counts each thing for itself. `Tally` is one pass over the results that keeps three tables
  and changes an entry for each thing it meets; after any number of results they are the tables of
  those (`Counted`), and so the ones that the report has (`tally_eq`). Types and keys of tags are in the
  order of their bytes, kinds of violations in the order in which they are listed.

  Proved: `counts_exact`.
-/

import TagAudit.Proofs.Tabulation
import TagAudit.Proofs.Text.Utf8

namespace TagAudit

/-- The bytes of a text, by which texts are ordered. -/
def bytes (s : String) : List UInt8 := s.toByteArray.data.toList

theorem bytes_injective {s t : String} (h : bytes s = bytes t) : s = t :=
  String.toByteArray_inj.mp (ByteArray.ext (Array.ext' h))

theorem bytes_lt {s t : String} (h : s < t) : bytes s < bytes t := by
  rw [bytes, bytes, ← Text.utf8_toList, ← Text.utf8_toList]
  exact Text.utf8_lt h

namespace ViolationKind

/-- The position in the order in which kinds are listed. -/
def position (k : ViolationKind) : Nat := all.idxOf k

theorem position_injective {k k' : ViolationKind} (h : k.position = k'.position) : k = k' := by
  cases k <;> cases k' <;> first | rfl | cases h

theorem pairwise_all : all.Pairwise fun k k' => k.position < k'.position := by decide

theorem mem_all (k : ViolationKind) : k ∈ all := by cases k <;> decide

end ViolationKind

namespace Report

variable {r : Report} {rs : List ComplianceResult}

/-! ## Tables -/

def kinds (rs : List ComplianceResult) : List ViolationKind := rs.flatMap fun res => res.violations.map (·.kind)

def missingKeys (rs : List ComplianceResult) : List String := rs.flatMap (·.missing)

def Breakdown.of (those : List ComplianceResult) : Breakdown := ⟨those.length, (those.filter (·.compliant)).length⟩

theorem pairwise_sortedDistinct (ss : List String) : (sortedDistinct ss).Pairwise fun s t => bytes s < bytes t :=
  (pairwise_eraseReps (pairwise_mergeSort_key (fun s => s) ss)).imp bytes_lt

theorem mem_sortedDistinct {s : String} {ss : List String} : s ∈ sortedDistinct ss ↔ s ∈ ss := by
  rw [sortedDistinct, mem_eraseReps, List.mem_mergeSort]

theorem tabulates_breakdown (r : Report) :
    Tabulates bytes (·.resource.type) Breakdown.of r.results r.breakdown := by
  have htable : r.breakdown = (sortedDistinct (r.results.map (·.resource.type))).map fun type =>
      (type, Breakdown.of (r.results.filter (·.resource.type == type))) := by
    simp only [breakdown, Breakdown.of, List.countP_eq_length_filter]
  rw [htable]
  refine Tabulates.of_keys (pairwise_sortedDistinct _) fun type => ?_
  rw [mem_sortedDistinct, List.mem_map]

/-- The kinds that occur and how often they do, as they are listed. -/
def kindCounts (rs : List ComplianceResult) : List (ViolationKind × Nat) :=
  (ViolationKind.all.map fun k => (k, (kinds rs).count k)).filter (0 < ·.2)

theorem tabulates_kindCounts (rs : List ComplianceResult) :
    Tabulates ViolationKind.position (fun k => k) List.length (kinds rs) (kindCounts rs) := by
  have htable : kindCounts rs = (ViolationKind.all.filter (· ∈ kinds rs)).map fun k =>
      (k, ((kinds rs).filter (· == k)).length) := by
    rw [kindCounts, List.filter_map]
    simp only [Function.comp_def, List.count_pos_iff]
    simp only [List.count_eq_length_filter]
  rw [htable]
  refine Tabulates.of_keys (ViolationKind.pairwise_all.filter _) fun k => ?_
  simp [ViolationKind.mem_all]

/-- The keys that are missing and how often they are, in the order of their bytes. -/
def missingCounts (rs : List ComplianceResult) : List (String × Nat) :=
  (sortedDistinct (missingKeys rs)).map fun k => (k, (missingKeys rs).count k)

theorem tabulates_missingCounts (rs : List ComplianceResult) :
    Tabulates bytes (fun k => k) List.length (missingKeys rs) (missingCounts rs) := by
  simp only [missingCounts, List.count_eq_length_filter]
  refine Tabulates.of_keys (pairwise_sortedDistinct _) fun k => ?_
  simp [mem_sortedDistinct]

theorem commonViolations_eq (r : Report) : r.commonViolations = byCount (kindCounts r.results) := rfl

theorem commonMissing_eq (r : Report) : r.commonMissing = byCount (missingCounts r.results) := rfl

/-! ## One pass over the results -/

/-- What a pass over results keeps: the numbers for each type, and how often each kind of violation
    occurs and each key is missing. -/
structure Tally where
  types : List (String × Breakdown)
  violations : List (ViolationKind × Nat)
  missing : List (String × Nat)
  deriving DecidableEq

namespace Tally

def empty : Tally := ⟨[], [], []⟩

def countResource (res : ComplianceResult) (b : Breakdown) : Breakdown :=
  ⟨b.total + 1, if res.compliant then b.compliant + 1 else b.compliant⟩

def add (t : Tally) (res : ComplianceResult) : Tally where
  types := amend bytes (countResource res) ⟨0, 0⟩ res.resource.type t.types
  violations := res.violations.foldl (fun table v => amend ViolationKind.position (· + 1) 0 v.kind table) t.violations
  missing := res.missing.foldl (fun table key => amend bytes (· + 1) 0 key table) t.missing

end Tally

def tally (rs : List ComplianceResult) : Tally := rs.foldl Tally.add .empty

/-- What is kept after some results are the tables of these. -/
structure Counted (rs : List ComplianceResult) (t : Tally) : Prop where
  types : Tabulates bytes (·.resource.type) Breakdown.of rs t.types
  violations : Tabulates ViolationKind.position (fun k => k) List.length (kinds rs) t.violations
  missing : Tabulates bytes (fun k => k) List.length (missingKeys rs) t.missing

namespace Counted

variable {t : Tally}

theorem empty : Counted [] .empty :=
  ⟨⟨by simp [Tally.empty], List.Pairwise.nil⟩, ⟨by simp [Tally.empty, kinds], List.Pairwise.nil⟩,
    ⟨by simp [Tally.empty, missingKeys], List.Pairwise.nil⟩⟩

theorem add (h : Counted rs t) (res : ComplianceResult) : Counted (rs ++ [res]) (t.add res) := by
  refine ⟨?_, ?_, ?_⟩
  · refine h.types.amend bytes_injective fun those => ?_
    cases hres : res.compliant <;> simp [Breakdown.of, Tally.countResource, List.filter_append, hres]
  · have hkinds : kinds (rs ++ [res]) = kinds rs ++ res.violations.map (·.kind) := by simp [kinds]
    have hpass := h.violations.foldl_amend (f := fun _ n => n + 1) ViolationKind.position_injective
      (fun ks k => List.length_append) (res.violations.map (·.kind))
    rw [List.foldl_map] at hpass
    rw [hkinds]
    exact hpass
  · have hkeys : missingKeys (rs ++ [res]) = missingKeys rs ++ res.missing := by simp [missingKeys]
    rw [hkeys]
    exact h.missing.foldl_amend (f := fun _ n => n + 1) bytes_injective (fun ks k => List.length_append) res.missing

theorem foldl (h : Counted rs t) (rs' : List ComplianceResult) : Counted (rs ++ rs') (rs'.foldl Tally.add t) := by
  induction rs' generalizing rs t with
  | nil => rwa [List.append_nil]
  | cons res rs' ih =>
    rw [List.append_cons]
    exact ih (h.add res)

end Counted

theorem counted_tally (rs : List ComplianceResult) : Counted rs (tally rs) := Counted.empty.foldl rs

theorem tally_eq (r : Report) : tally r.results = ⟨r.breakdown, kindCounts r.results, missingCounts r.results⟩ := by
  have h := counted_tally r.results
  have htypes := h.types.unique (tabulates_breakdown r)
  have hviolations := h.violations.unique (tabulates_kindCounts r.results)
  have hmissing := h.missing.unique (tabulates_missingCounts r.results)
  rw [← htypes, ← hviolations, ← hmissing]

/-! ## Sums over the types -/

/-- Each result adds to the entry of one type. -/
theorem sum_foldl (g : Breakdown → Nat) (p : ComplianceResult → Bool) (hfresh : g ⟨0, 0⟩ = 0)
    (hadd : ∀ res b, g (Tally.countResource res b) = g b + if p res then 1 else 0)
    (rs : List ComplianceResult) (t : Tally) :
    ((rs.foldl Tally.add t).types.map fun e => g e.2).sum = (t.types.map fun e => g e.2).sum + rs.countP p := by
  induction rs generalizing t with
  | nil => rfl
  | cons res rs ih =>
    rw [List.foldl_cons, ih, Tally.add, sum_amend g hfresh (hadd res), List.countP_cons]
    omega

theorem sum_total (r : Report) : (r.breakdown.map (·.2.total)).sum = r.total := by
  have hsum := sum_foldl Breakdown.total (fun _ => true) rfl (fun _ _ => rfl) r.results .empty
  rw [← tally, tally_eq, List.countP_true] at hsum
  exact hsum.trans (Nat.zero_add _)

theorem sum_compliant (r : Report) : (r.breakdown.map (·.2.compliant)).sum = r.compliant := by
  have hadd (res : ComplianceResult) (b : Breakdown) :
      (Tally.countResource res b).compliant = b.compliant + if res.compliant then 1 else 0 := by
    cases hres : res.compliant <;> simp [Tally.countResource, hres]
  have hsum := sum_foldl Breakdown.compliant (·.compliant) rfl hadd r.results .empty
  rw [← tally, tally_eq] at hsum
  exact hsum.trans (Nat.zero_add _)

/-! ## The numbers of a report -/

/-- The numbers of a report count its results. -/
structure Exact (r : Report) : Prop where
  total : r.total = r.results.length
  compliant : r.compliant = (r.results.filter (·.compliant)).length
  nonCompliant : r.nonCompliant = (r.results.filter (!·.compliant)).length
  whole : r.compliant + r.nonCompliant = r.total
  types : Tabulates bytes (·.resource.type) Breakdown.of r.results r.breakdown
  typesOnce : (r.breakdown.map (·.1)).Nodup
  totalOfTypes : (r.breakdown.map (·.2.total)).sum = r.total
  compliantOfTypes : (r.breakdown.map (·.2.compliant)).sum = r.compliant
  violations : Ranked ViolationKind.position (kinds r.results) r.commonViolations
  missing : Ranked bytes (missingKeys r.results) r.commonMissing

def numbers (r : Report) :
    Nat × Nat × Nat × List (String × Breakdown) × List (ViolationKind × Nat) × List (String × Nat) :=
  (r.total, r.compliant, r.nonCompliant, r.breakdown, r.commonViolations, r.commonMissing)

theorem compliant_add_nonCompliant (r : Report) : r.compliant + r.nonCompliant = r.total :=
  Nat.add_sub_cancel' List.countP_le_length

theorem exact_numbers (r : Report) : r.Exact where
  total := rfl
  compliant := List.countP_eq_length_filter
  nonCompliant := by
    have hlength := r.results.length_eq_countP_add_countP (·.compliant)
    have hwhole := r.compliant_add_nonCompliant
    simp only [Bool.not_eq_true, Bool.decide_eq_false] at hlength
    rw [← List.countP_eq_length_filter]
    unfold total compliant at hwhole
    omega
  whole := r.compliant_add_nonCompliant
  types := tabulates_breakdown r
  typesOnce := (tabulates_breakdown r).nodup_keys
  totalOfTypes := sum_total r
  compliantOfTypes := sum_compliant r
  violations := (tabulates_kindCounts r.results).ranked
  missing := (tabulates_missingCounts r.results).ranked

theorem numbers_of_perm (hperm : rs.Perm r.results) : numbers ⟨r.standardFile, rs⟩ = r.numbers := by
  have htotal : total ⟨r.standardFile, rs⟩ = r.total := hperm.length_eq
  have hcompliant : compliant ⟨r.standardFile, rs⟩ = r.compliant := hperm.countP_eq _
  have hbreakdown : breakdown ⟨r.standardFile, rs⟩ = r.breakdown := by
    have htable := tabulates_breakdown ⟨r.standardFile, rs⟩
    refine (htable.of_perm (fun hthose => ?_) hperm).unique (tabulates_breakdown r)
    rw [Breakdown.of, Breakdown.of, hthose.length_eq, (hthose.filter _).length_eq]
  have hkinds : kindCounts rs = kindCounts r.results :=
    ((tabulates_kindCounts rs).of_perm List.Perm.length_eq (hperm.flatMap_right _)).unique
      (tabulates_kindCounts r.results)
  have hkeys : missingCounts rs = missingCounts r.results :=
    ((tabulates_missingCounts rs).of_perm List.Perm.length_eq (hperm.flatMap_right _)).unique
      (tabulates_missingCounts r.results)
  unfold numbers nonCompliant
  rw [htotal, hcompliant, hbreakdown, commonViolations_eq, commonViolations_eq, hkinds, commonMissing_eq,
    commonMissing_eq, hkeys]

/-- The numbers of a report count its results: each type, kind of violation and missing key that
    occurs has one entry with the number of its occurrences, those of the types add up to the whole,
    and the lists of what is most common descend, with ties in the order of kinds or of the bytes of
    keys. They are those of one pass over the results, and the same in whatever order the results come. -/
theorem counts_exact (r : Report) :
    r.Exact ∧
    ((tally r.results).types = r.breakdown ∧ byCount (tally r.results).violations = r.commonViolations ∧
      byCount (tally r.results).missing = r.commonMissing) ∧
    ∀ rs, rs.Perm r.results → numbers ⟨r.standardFile, rs⟩ = r.numbers := by
  refine ⟨exact_numbers r, ?_, fun rs hperm => numbers_of_perm hperm⟩
  rw [tally_eq]
  exact ⟨rfl, rfl, rfl⟩

/-- Results of a bucket that lacks two tags, of one with a tag that is too long and not among the
    allowed values, and of an instance that complies. -/
def untagged : ComplianceResult := ⟨⟨"aws_s3_bucket", "logs", "main.tf"⟩, false, ["Team", "Owner"], [], [], []⟩

def mistagged : ComplianceResult :=
  ⟨⟨"aws_s3_bucket", "data", "main.tf"⟩, false, ["Team"],
    [⟨"Env", "testing", .value (.tooLong 4)⟩, ⟨"Env", "testing", .value (.allowed ["prod"])⟩], [], []⟩

def tagged : ComplianceResult := ⟨⟨"aws_instance", "web", "main.tf"⟩, true, [], [], [], []⟩

theorem counts_exact_untagged :
    [tagged, mistagged, untagged].Perm [untagged, mistagged, tagged] ∧
    numbers ⟨none, [tagged, mistagged, untagged]⟩ = numbers ⟨none, [untagged, mistagged, tagged]⟩ ∧
    Ranked bytes ["Team", "Owner", "Team"] (commonMissing ⟨none, [untagged, mistagged, tagged]⟩) := by
  have hperm : [tagged, mistagged, untagged].Perm [untagged, mistagged, tagged] :=
    List.reverse_perm [untagged, mistagged, tagged]
  obtain ⟨hexact, -, hlike⟩ := counts_exact ⟨none, [untagged, mistagged, tagged]⟩
  exact ⟨hperm, hlike _ hperm, hexact.missing⟩

example : tally [untagged, mistagged, tagged] =
    ⟨[("aws_instance", ⟨1, 1⟩), ("aws_s3_bucket", ⟨2, 0⟩)], [(.invalidValue, 1), (.lengthExceeded, 1)],
      [("Owner", 1), ("Team", 2)]⟩ := by decide +kernel

end Report
end TagAudit
