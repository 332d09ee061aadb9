/-
  TagAudit.Yaml.Property — anchors, tags and directives.

  An anchor names a node so that aliases can stand for it. A tag gives the kind of a node; it
  is written with a handle for which directives may declare what it stands for.
-/

import TagAudit.Text.Digits
import TagAudit.Yaml.Cursor

namespace TagAudit.Yaml

def anchorName? (c : Cursor) : Option (String × Cursor) :=
  let (name, c) := c.span isWordChar
  if name.isEmpty then none
  else if endsWord c.rest || (c.rest.head?.map fun d => "?:,]\x7d%@`".contains d).getD false then
    some (String.ofList name, c)
  else none

/-! ## Tags -/

/-- A tag as written. A verbatim one has an empty handle. -/
structure TagName where
  handle : String
  /-- The UTF-8 form of the rest. -/
  suffix : List UInt8
  deriving DecidableEq

/-- The characters of the rest of a tag; a verbatim one may hold those of flow collections. -/
def isTagChar (verbatim : Bool) (c : Char) : Bool :=
  isWordChar c || ";/?:@&=+$.!~*'()%".contains c || (verbatim && ",[]".contains c)

def utf8 (cs : List Char) : List UInt8 := (String.ofList cs).toUTF8.toList

/-- A zero octet ends the text of a tag. -/
def untilZero (bytes : List UInt8) : List UInt8 := bytes.takeWhile (· != 0)

/-- The bytes of escaped octets, two digits after each percent sign, that make up one character:
    the first says how many there are, and the others are of the form `10xxxxxx`. -/
def octets? (cs : List Char) : Option (List UInt8 × Nat) := do
  let octet? (cs : List Char) : Option Nat :=
    match cs with
    | '%' :: a :: b :: _ => do
      let hi ← Text.hexDigit? a
      let lo ← Text.hexDigit? b
      some (16 * hi + lo)
    | _ => none
  let first ← octet? cs
  let width := if first < 0x80 then 1 else if first / 32 = 6 then 2 else if first / 16 = 14 then 3
    else if first / 8 = 30 then 4 else 0
  if width = 0 then none
  else
    let more ← (List.range (width - 1)).mapM fun i => octet? (cs.drop (3 * (i + 1)))
    if more.all (· / 64 = 2) then some ((first :: more).map UInt8.ofNat, 3 * width) else none

/-- The longest run of characters of a tag, escapes replaced. -/
def tagText? (verbatim : Bool) : Nat → Cursor → Option (List UInt8 × Cursor)
  | 0, c => some ([], c)
  | fuel + 1, c =>
    match c.rest with
    | [] => some ([], c)
    | ch :: _ =>
      if ch == '%' then do
        let (bytes, n) ← octets? c.rest
        let (more, c) ← tagText? verbatim fuel (c.advance n)
        some (bytes ++ more, c)
      else if isTagChar verbatim ch then do
        let (more, c) ← tagText? verbatim fuel (c.advance 1)
        some (utf8 [ch] ++ more, c)
      else some ([], c)

def tagUri? (verbatim : Bool) (c : Cursor) : Option (List UInt8 × Cursor) := do
  let (bytes, c) ← tagText? verbatim c.rest.length c
  if bytes.isEmpty then none else some (untilZero bytes, c)

/-- The name after an exclamation mark, and whether another mark ends it. -/
def handleName (c : Cursor) : List Char × Bool × Cursor :=
  let (name, c) := (c.advance 1).span isWordChar
  if c.startsWith '!' then (name, true, c.advance 1) else (name, false, c)

/-- A tag, from its exclamation mark on. Alone the mark is a tag of its own. -/
def tagName? (inFlow : Bool) (c : Cursor) : Option (TagName × Cursor) := do
  let (tag, c) ←
    if (c.advance 1).startsWith '<' then do
      let (uri, c) ← tagUri? true (c.advance 2)
      if c.startsWith '>' then some ((⟨"", uri⟩ : TagName), c.advance 1) else none
    else
      let (name, closed, c) := handleName c
      if closed then do
        let (suffix, c) ← tagUri? false c
        some (⟨String.ofList ('!' :: name ++ ['!']), suffix⟩, c)
      else do
        let (more, c) ← tagText? false c.rest.length c
        let suffix := utf8 name ++ untilZero more
        some (if suffix.isEmpty then ⟨"", utf8 ['!']⟩ else ⟨"!", suffix⟩, c)
  if endsWord c.rest || (inFlow && c.startsWith ',') then some (tag, c) else none

/-! ## Directives -/

inductive Directive where
  | version (major minor : Nat)
  | handle (name : String) (stem : List UInt8)

/-- A number of at most nine digits. -/
def versionNumber? (c : Cursor) : Option (Nat × Cursor) :=
  let (digits, c) := c.span Text.isDigit
  if digits.isEmpty || 9 < digits.length then none else some (Text.natOfDigits digits, c)

/-- A directive, from its percent sign to the end of the line. -/
def directive? (c : Cursor) : Option (Directive × Cursor) := do
  let (name, c) := (c.advance 1).span isWordChar
  if !endsWord c.rest then none
  else
    let c := c.skipWhile isBlank
    if String.ofList name = "YAML" then do
      let (major, c) ← versionNumber? c
      if !c.startsWith '.' then none
      else
        let (minor, c) ← versionNumber? (c.advance 1)
        some (.version major minor, ← c.endLine?)
    else if String.ofList name = "TAG" then do
      if !c.startsWith '!' then none
      else
        let (name, closed, c) := handleName c
        if !closed && !name.isEmpty then none
        else if !(c.rest.head?.map isBlank).getD false then none
        else
          let (stem, c) ← tagUri? true (c.skipWhile isBlank)
          if !endsWord c.rest then none
          else some (.handle (String.ofList ('!' :: name ++ if closed then ['!'] else [])) stem, ← c.endLine?)
    else none

end TagAudit.Yaml
