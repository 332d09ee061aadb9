/-
  TagAudit.Regex.Classes — classes of characters by name.

  A name is compared without regard to case, spaces, hyphens and underscores, and without a
  leading `is`.
-/

import TagAudit.Regex.Basic
import TagAudit.Unicode.Age
import TagAudit.Unicode.Break
import TagAudit.Unicode.Script

namespace TagAudit.CharClass

open Unicode

/-! ## Short names -/

/-- Classes that a letter stands for. -/
inductive Kind where
  | digit
  | space
  | word
  deriving DecidableEq, Repr, Inhabited

def digits : CodeSet := category "Nd"

def spaces : CodeSet := property "White_Space"

def ofKind (unicode : Bool) : Kind → CharClass
  | .digit => if unicode then .runs digits else between 48 57
  | .space => if unicode then .runs spaces else .runs [⟨9, 13, 1⟩, ⟨32, 32, 1⟩]
  | .word => if unicode then .runs wordSet else .runs [⟨48, 57, 1⟩, ⟨65, 90, 1⟩, ⟨95, 95, 1⟩, ⟨97, 122, 1⟩]

def bracketClasses : List (String × CodeSet) :=
  [("alnum", [⟨48, 57, 1⟩, ⟨65, 90, 1⟩, ⟨97, 122, 1⟩]), ("alpha", [⟨65, 90, 1⟩, ⟨97, 122, 1⟩]),
   ("ascii", [⟨0, 127, 1⟩]), ("blank", [⟨9, 9, 1⟩, ⟨32, 32, 1⟩]), ("cntrl", [⟨0, 31, 1⟩, ⟨127, 127, 1⟩]),
   ("digit", [⟨48, 57, 1⟩]), ("graph", [⟨33, 126, 1⟩]), ("lower", [⟨97, 122, 1⟩]), ("print", [⟨32, 126, 1⟩]),
   ("punct", [⟨33, 47, 1⟩, ⟨58, 64, 1⟩, ⟨91, 96, 1⟩, ⟨123, 126, 1⟩]), ("space", [⟨9, 13, 1⟩, ⟨32, 32, 1⟩]),
   ("upper", [⟨65, 90, 1⟩]), ("word", [⟨48, 57, 1⟩, ⟨65, 90, 1⟩, ⟨95, 95, 1⟩, ⟨97, 122, 1⟩]),
   ("xdigit", [⟨48, 57, 1⟩, ⟨65, 70, 1⟩, ⟨97, 102, 1⟩])]

def ofBracketName? (name : String) : Option CharClass := (bracketClasses.lookup name).map .runs

/-! ## Names of the Unicode standard -/

def plainName (name : List Char) : List Char :=
  let lower (c : Char) : Char := if 'A' ≤ c ∧ c ≤ 'Z' then Char.ofNat (c.toNat + 32) else c
  let ignored (c : Char) : Bool := c == ' ' || c == '_' || c == '-' || 127 < c.toNat
  let strip (cs : List Char) : List Char := (cs.map lower).filter (!ignored ·)
  match name.map lower with
  | 'i' :: 's' :: rest => if strip rest = ['c'] then ['i', 's', 'c'] else strip rest
  | _ => strip name

def samePlain (a b : String) : Bool := plainName a.toList = plainName b.toList

/-- Long names of the categories, and the categories that they take together. -/
def categoryNames : List (List String × List String) :=
  [(["L", "Letter"], ["Lu", "Ll", "Lt", "Lm", "Lo"]), (["LC", "Cased_Letter"], ["Lu", "Ll", "Lt"]),
   (["Lu", "Uppercase_Letter"], ["Lu"]), (["Ll", "Lowercase_Letter"], ["Ll"]),
   (["Lt", "Titlecase_Letter"], ["Lt"]), (["Lm", "Modifier_Letter"], ["Lm"]), (["Lo", "Other_Letter"], ["Lo"]),
   (["M", "Mark", "Combining_Mark"], ["Mn", "Mc", "Me"]), (["Mn", "Nonspacing_Mark"], ["Mn"]),
   (["Mc", "Spacing_Mark"], ["Mc"]), (["Me", "Enclosing_Mark"], ["Me"]),
   (["N", "Number"], ["Nd", "Nl", "No"]), (["Nd", "Decimal_Number", "digit"], ["Nd"]),
   (["Nl", "Letter_Number"], ["Nl"]), (["No", "Other_Number"], ["No"]),
   (["P", "Punctuation", "punct"], ["Pc", "Pd", "Ps", "Pe", "Pi", "Pf", "Po"]),
   (["Pc", "Connector_Punctuation"], ["Pc"]), (["Pd", "Dash_Punctuation"], ["Pd"]),
   (["Ps", "Open_Punctuation"], ["Ps"]), (["Pe", "Close_Punctuation"], ["Pe"]),
   (["Pi", "Initial_Punctuation"], ["Pi"]), (["Pf", "Final_Punctuation"], ["Pf"]),
   (["Po", "Other_Punctuation"], ["Po"]), (["S", "Symbol"], ["Sm", "Sc", "Sk", "So"]),
   (["Sm", "Math_Symbol"], ["Sm"]), (["Sc", "Currency_Symbol"], ["Sc"]), (["Sk", "Modifier_Symbol"], ["Sk"]),
   (["So", "Other_Symbol"], ["So"]), (["Z", "Separator"], ["Zs", "Zl", "Zp"]), (["Zs", "Space_Separator"], ["Zs"]),
   (["Zl", "Line_Separator"], ["Zl"]), (["Zp", "Paragraph_Separator"], ["Zp"]), (["Cc", "Control", "cntrl"], ["Cc"]),
   (["Cf", "Format"], ["Cf"]), (["Co", "Private_Use"], ["Co"])]

/-- Code points that no character is assigned to. -/
def unassigned : CharClass := .complement (.runs assigned)

/-- A general category, or one of the names that are used like one. -/
def ofCategory? (name : String) : Option CharClass :=
  let is (names : List String) : Bool := names.any (samePlain name)
  if is ["Any"] then some any
  else if is ["Assigned"] then some (.runs assigned)
  else if is ["ASCII"] then some (between 0 127)
  else if is ["Cn", "Unassigned"] then some unassigned
  else if is ["C", "Other"] then some (.union unassigned (.runs (["Cc", "Cf", "Co"].flatMap category)))
  else (categoryNames.find? fun e => is e.1).map fun e => .runs (e.2.flatMap category)

def tableEntry? (table : List (String × String)) (aliases : List (String × List String)) (name : String) :
    Option CharClass := do
  let (long, _) ← aliases.find? fun e => samePlain e.1 name || e.2.any (samePlain name)
  some (.runs (CodeSet.ofText ((table.lookup long).getD "")))

def ofScript? (name : String) : Option CharClass := tableEntry? scripts scriptAliases name

/-- The characters that a script is written with. -/
def ofScriptExtension? (name : String) : Option CharClass :=
  let table := scripts.map fun (long, own) => (long, (scriptExtensions.lookup long).getD own)
  tableEntry? table scriptAliases name

/-- The characters that a version of the standard has, those of earlier versions included. -/
def ofAge? (name : String) : Option CharClass := do
  let newest ← ageAliases.findIdx? fun e => samePlain e.1 name || e.2.any (samePlain name)
  some (.runs ((ages.take (newest + 1)).flatMap fun e => CodeSet.ofText e.2))

def ofProperty? (name : String) : Option CharClass :=
  if ["cf", "sc", "lc"].any (samePlain name) then Option.none
  else tableEntry? properties propertyAliases name

/-- A property, category or script. -/
def ofName? (name : String) : Option CharClass :=
  (ofProperty? name).or ((ofCategory? name).or (ofScript? name))

/-- The characters for which a property has a value. -/
def ofValue? (prop value : String) : Option CharClass :=
  let is (names : List String) : Bool := names.any (samePlain prop)
  if is ["General_Category", "gc"] then ofCategory? value
  else if is ["Script", "sc"] then ofScript? value
  else if is ["Script_Extensions", "scx"] then ofScriptExtension? value
  else if is ["Age"] then ofAge? value
  else if is ["Grapheme_Cluster_Break", "GCB"] then tableEntry? graphemeBreaks graphemeBreakAliases value
  else if is ["Word_Break", "WB"] then tableEntry? wordBreaks wordBreakAliases value
  else if is ["Sentence_Break", "SB"] then tableEntry? sentenceBreaks sentenceBreakAliases value
  else Option.none

end TagAudit.CharClass
