/-
  TagAudit.Compliance.Report — the results of many resources taken together.

  Counts are exact, and lists of what is most common put the greatest count first and ties in
  the order of kinds or keys.
-/

import TagAudit.Compliance.Result

namespace TagAudit

structure Report where
  /-- The file that the standard came from. -/
  standardFile : Option String
  results : List ComplianceResult

namespace Report

open Decimal

def total (r : Report) : Nat := r.results.length

def compliant (r : Report) : Nat := r.results.countP (·.compliant)

def nonCompliant (r : Report) : Nat := r.total - r.compliant

def isFullyCompliant (r : Report) : Bool := r.nonCompliant == 0

/-- A part of a whole, nothing of nothing. -/
def rate (part whole : Nat) : Binary64 :=
  if whole = 0 then .zero else (Binary64.ofQuotient? false part whole).getD .zero

def complianceRate (r : Report) : Binary64 := rate r.compliant r.total

/-- The greatest counts first, ties as they stand. -/
def byCount {α : Type} (counts : List (α × Nat)) : List (α × Nat) :=
  counts.mergeSort fun a b => decide (b.2 ≤ a.2)

def sortedDistinct (ss : List String) : List String := (ss.mergeSort fun a b => decide (a ≤ b)).eraseReps

def commonViolations (r : Report) : List (ViolationKind × Nat) :=
  let kinds := r.results.flatMap fun res => res.violations.map (·.kind)
  byCount ((ViolationKind.all.map fun k => (k, kinds.count k)).filter (0 < ·.2))

def commonMissing (r : Report) : List (String × Nat) :=
  let keys := r.results.flatMap (·.missing)
  byCount ((sortedDistinct keys).map fun k => (k, keys.count k))

structure Breakdown where
  total : Nat
  compliant : Nat
  deriving DecidableEq, Repr, Inhabited

def Breakdown.rate (b : Breakdown) : Binary64 := Report.rate b.compliant b.total

def breakdown (r : Report) : List (String × Breakdown) :=
  (sortedDistinct (r.results.map (·.resource.type))).map fun type =>
    let those := r.results.filter (·.resource.type == type)
    (type, ⟨those.length, those.countP (·.compliant)⟩)

/-! ## Writing -/

/-- A rate in JSON, a fraction even if it is whole. -/
def rateJson (x : Binary64) : Json := .number (.fraction x)

def summaryJson (r : Report) : Json :=
  .obj [("compliance_rate", rateJson r.complianceRate),
    ("most_common_violations", .arr (r.commonViolations.map fun (k, n) =>
      .obj [("kind", .str k.name), ("count", .ofNat n)])),
    ("most_common_missing_tags", .arr (r.commonMissing.map fun (k, n) =>
      .obj [("tag_key", .str k), ("count", .ofNat n)])),
    ("resource_type_breakdown", .obj (r.breakdown.map fun (type, b) =>
      (type, .obj [("total", .ofNat b.total), ("compliant", .ofNat b.compliant), ("rate", rateJson b.rate)])))]

def headJson (r : Report) : List (String × Json) :=
  Json.optional "standard_file" (r.standardFile.map .str) ++
    [("total_resources", .ofNat r.total), ("compliant_resources", .ofNat r.compliant),
     ("non_compliant_resources", .ofNat r.nonCompliant), ("summary", r.summaryJson)]

def json (r : Report) : Json := .obj (r.headJson ++ [("results", .arr (r.results.map ComplianceResult.json))])

def natText (n : Nat) : String := Number.integerText n

/-- A rate in percent with one decimal place, a tie to the even digit. -/
def percent (x : Binary64) : String :=
  let tenths := ((x.mul? ((Binary64.ofQuotient? false 100 1).getD .zero)).getD .zero).tenths
  natText (tenths / 10) ++ "." ++ natText (tenths % 10)

def issues (res : ComplianceResult) : String :=
  let part (title : String) (keys : List String) : List String :=
    if keys.isEmpty then [] else [title ++ ": " ++ String.intercalate ", " keys]
  String.intercalate "; "
    (part "missing" res.missing ++ part "invalid" (res.violations.map (·.key)) ++ part "extra" res.extra)

def line (s : String) : String := s ++ "\n"

def text (r : Report) : String :=
  let head := [line "TAG COMPLIANCE REPORT"] ++
    (r.standardFile.map fun f => line ("Standard:        " ++ f)).toList ++
    [line ("Total resources: " ++ natText r.total), line ("Compliant:       " ++ natText r.compliant),
     line ("Non-compliant:   " ++ natText r.nonCompliant),
     line ("Compliance rate: " ++ percent r.complianceRate ++ "%")]
  let failing := (r.results.filter (!·.compliant)).map fun res =>
    line ("  " ++ res.resource.type ++ "." ++ res.resource.name ++ " (" ++ res.resource.file ++ "): " ++ issues res)
  let types := r.breakdown.map fun (type, b) =>
    line ("  " ++ type ++ ": " ++ natText b.compliant ++ "/" ++ natText b.total ++ " (" ++ percent b.rate ++ "%)")
  String.join (head ++
    (if failing.isEmpty then [] else line "\nNON-COMPLIANT RESOURCES" :: failing) ++
    (if types.isEmpty then [] else line "\nRESOURCE TYPES" :: types))

end Report
end TagAudit
