import TagAudit.Text.Blank
import TagAudit.Text.Lines
import TagAudit.Text.Quoted
import TagAudit.Text.Case
import TagAudit.Decimal.Shortest
import TagAudit.Json.Reader
import TagAudit.Json.Printer
import TagAudit.Hcl.Document
import TagAudit.Hcl.Printer
import TagAudit.Literal
import TagAudit.Reference
import TagAudit.Resource
import TagAudit.TagExpressions
import TagAudit.Overrides
import TagAudit.Symbols.Declarations
import TagAudit.Catalog
import TagAudit.Compliance.Validator
import TagAudit.Compliance.Report
import TagAudit.Standard.Document
import TagAudit.Gloss
import TagAudit.Symbols.Resolution
import TagAudit.Unicode.CodeSet
import TagAudit.Unicode.Category
import TagAudit.Unicode.Script
import TagAudit.Unicode.Property
import TagAudit.Unicode.CaseMap
import TagAudit.Scan.Run
import TagAudit.Yaml.Printer
import TagAudit.CommandLine.Run
import TagAudit.Main
import TagAudit.Proofs.Symbols.Correspondence
import TagAudit.Proofs.Symbols.Nesting
import TagAudit.Proofs.Symbols.Dependencies
import TagAudit.Proofs.Symbols.Memo
import TagAudit.Proofs.Symbols.Declared
import TagAudit.Proofs.Symbols.Fixpoint
import TagAudit.Proofs.Symbols.Refinement
import TagAudit.Proofs.Symbols.Needs
import TagAudit.Proofs.Symbols.Cycles
import TagAudit.Proofs.Symbols.Supplied
import TagAudit.Proofs.Symbols.Footprint
import TagAudit.Proofs.Scan.Course
import TagAudit.Proofs.Scan.Selection
import TagAudit.Proofs.Scan.Stages
import TagAudit.Proofs.Scan.Strictness
import TagAudit.Proofs.Scan.Completeness
import TagAudit.Proofs.Scan.Agreement
import TagAudit.Proofs.Compliance.InForce
import TagAudit.Proofs.Compliance.Required
import TagAudit.Proofs.Compliance.Findings
import TagAudit.Proofs.Compliance.Replacement
import TagAudit.Proofs.Compliance.Contradiction
import TagAudit.Proofs.Compliance.Options
import TagAudit.Proofs.Regex.Closing
import TagAudit.Proofs.Regex.Classes
import TagAudit.Proofs.Regex.Enclosed
import TagAudit.Proofs.Compliance.Globs
import TagAudit.Proofs.Compliance.Usable
import TagAudit.Proofs.Compliance.Fixes
import TagAudit.Proofs.Compliance.Unambiguous
import TagAudit.Proofs.Compliance.ExampleValues
import TagAudit.Proofs.Hcl.Blocks
import TagAudit.Proofs.Snippet.Counting
import TagAudit.Proofs.Snippet.Extent
import TagAudit.Proofs.Symbols.Merging
import TagAudit.Proofs.Symbols.Literals
import TagAudit.Proofs.Symbols.Templates
import TagAudit.Proofs.Symbols.TagMaps
import TagAudit.Proofs.Symbols.CycleReasons
import TagAudit.Proofs.Symbols.Reports
import TagAudit.Proofs.Symbols.LastDeclared
import TagAudit.Proofs.Overrides.Precedence
import TagAudit.Proofs.Resource.Records
import TagAudit.Proofs.Hcl.Nulls
import TagAudit.Proofs.Hcl.Literals
import TagAudit.Proofs.Overrides.Notations
import TagAudit.Proofs.Standard.RoundTrip
import TagAudit.Proofs.Gloss.Parts
import TagAudit.Proofs.Gloss.Annotated
import TagAudit.Proofs.Gloss.Listed
import TagAudit.Proofs.Snippet.Truncation
import TagAudit.Proofs.Scan.Discovery
import TagAudit.Proofs.Tabulation
import TagAudit.Proofs.Compliance.Counts
import TagAudit.Proofs.Compliance.GlobMatches
import TagAudit.Proofs.Snippet.FirstToken
