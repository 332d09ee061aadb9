/-
  TagAudit.Yaml.Format — what the nodes of a YAML document are taken for.

  Any scalar is a text, whatever it looks like. A number or truth value is a plain scalar, or a
  literal block with the tag of its kind; a plain scalar may also say that there is nothing. A
  choice is named by a scalar, or by a tag of its own on a scalar that says nothing.
-/

import TagAudit.Standard.Decoding
import TagAudit.Yaml.Document

namespace TagAudit.Yaml

/-- The digits of a number in a base. -/
def digitsValue? (base : Nat) (cs : List Char) : Option Nat := do
  if cs.isEmpty then none
  else
    let ds ← cs.mapM fun c => (Text.hexDigit? c).filter (· < base)
    some (ds.foldl (fun n d => base * n + d) 0)

/-- A natural number: in decimals that do not start with a needless zero, or in base 16, 8 or 2
    after `0x`, `0o` or `0b`; a plus sign may come before. -/
def natural? (cs : List Char) : Option Nat :=
  let digits := match cs with
    | '+' :: rest => rest
    | _ => cs
  match digits with
  | '0' :: 'x' :: rest => digitsValue? 16 rest
  | '0' :: 'o' :: rest => digitsValue? 8 rest
  | '0' :: 'b' :: rest => digitsValue? 2 rest
  | '0' :: _ :: _ => none
  | _ => digitsValue? 10 digits

def truth? : String → Option Bool
  | "true" | "True" | "TRUE" => some true
  | "false" | "False" | "FALSE" => some false
  | _ => none

def isNull (text : String) : Bool := ["null", "Null", "NULL", "~"].contains text

/-- The tag of a kind of the language itself. -/
def coreTag (kind : String) : String := "tag:yaml.org,2002:" ++ kind

/-- The text of a scalar that can be a value of a kind other than text. -/
def Node.plainText? (kind : String) : Node → Option String
  | .scalar tag s =>
    if s.style = .plain || (s.style = .literal && tag == some (coreTag kind)) then some s.text else none
  | _ => none

def Node.isEmpty : Node → Bool
  | .scalar _ s => s.style = .plain && s.text.isEmpty
  | _ => false

/-- The name that a tag of one's own gives. -/
def ownTag? (tag : Option String) : Option String := do
  match (← tag).toList with
  | ['!'] => some "!"
  | '!' :: name => some (String.ofList name)
  | _ => none

def Node.text? : Node → Option String
  | .scalar _ s => some s.text
  | _ => none

def Node.choice? : Node → Option String
  | .scalar tag s =>
    match ownTag? tag with
    | some name => if s.style = .plain && (s.text.isEmpty || isNull s.text) then some name else none
    | none => some s.text
  | _ => none

/-- Whether a node says that there is nothing. One with the tag of such nodes has to. -/
def Node.nothing? : Node → Option Bool
  | .scalar tag s =>
    if s.style ≠ .plain then some false
    else
      match tag with
      | none => some (s.text.isEmpty || isNull s.text)
      | some tag => if tag ≠ coreTag "null" then some false else if isNull s.text then some true else none
  | _ => some false

def Document.format (d : Document) : DataFormat Node where
  string? a := (d.target a).text?
  nat? a := ((d.target a).plainText? "int").bind fun s => natural? s.toList
  bool? a := ((d.target a).plainText? "bool").bind truth?
  choice? a := (d.target a).choice?
  nothing? a := (d.target a).nothing?
  list? a :=
    match d.target a with
    | .sequence items => some items
    | node => if node.isEmpty then some [] else none
  fields? names a :=
    match d.target a with
    | .mapping entries => do
      knownFields? names (← entries.mapM fun (key, value) => do some (← (d.target key).text?, value))
    | node => if node.isEmpty then some [] else none

end TagAudit.Yaml
