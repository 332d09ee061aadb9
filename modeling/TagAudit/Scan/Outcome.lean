/-
  TagAudit.Scan.Outcome — what a scan finds.
-/

import TagAudit.Compliance.Report
import TagAudit.Scan.Trouble
import TagAudit.Symbols.Resolution

namespace TagAudit

open Symbols

structure ScannedResource where
  resource : Resource
  /-- The texts of the expressions for the tags, or of their values where there are none. -/
  tags : OrderedMap String
  resolved : OrderedMap Value
  /-- The snippet of the resource with its glosses. -/
  annotated : String
  compliance : Option ComplianceResult

structure ScanOutcome where
  resources : List ScannedResource
  symbols : Table
  warnings : List Warning
  filesScanned : Nat
  /-- Whether the scan was stopped before its end. -/
  cancelled : Bool

namespace ScanOutcome

def report (o : ScanOutcome) (standardFile : Option String) : Report :=
  ⟨standardFile, o.resources.filterMap (·.compliance)⟩

end ScanOutcome

/-! ## As JSON -/

def ScannedResource.json (r : ScannedResource) : Json :=
  .obj ([("resource_type", .str r.resource.type), ("name", .str r.resource.name),
    ("file_path", .str r.resource.file), ("line_number", .ofNat r.resource.line),
    ("snippet", .str r.resource.snippet), ("tags", .obj (r.tags.mapValues Json.str)),
    ("resolved_tags", .obj (r.resolved.mapValues Value.json)), ("annotated_snippet", .str r.annotated)] ++
    Json.optional "compliance" (r.compliance.map ComplianceResult.json))

namespace Symbols

def Entry.json (e : Entry) : Json :=
  .obj [("name", .str e.name), ("file_path", .str e.file), ("line_number", .ofNat e.line),
    ("resolved", .bool e.resolved), ("value", (e.value?.map Value.json).getD .null),
    ("uncertainty", .ofString? (e.reason?.map Reason.message))]

def Table.json (t : Table) : Json :=
  .obj [("variables", .arr (t.variableEntries.map Entry.json)), ("locals", .arr (t.localEntries.map Entry.json))]

def Resolution.json (r : Resolution) : Json :=
  .obj [("original", .str r.written), ("value", r.value.json), ("resolved", .bool r.resolved),
    ("source", .str r.origin.name), ("uncertainty", .ofString? (r.doubt.map Doubt.message))]

end Symbols

def ScanOutcome.members (o : ScanOutcome) : List (String × Json) :=
  [("resources", .arr (o.resources.map ScannedResource.json)), ("symbols", o.symbols.json),
   ("warnings", .arr (o.warnings.map Warning.json)), ("files_scanned", .ofNat o.filesScanned),
   ("cancelled", .bool o.cancelled)]

end TagAudit
