/-
  TagAudit.Hcl.Document — reading the contents of a file.

  Attributes and blocks stand on lines of their own. A block on one line holds at most one
  attribute and no blocks. An attribute is set once in a body.
-/

import TagAudit.Hcl.Body
import TagAudit.Hcl.Grammar

namespace TagAudit.Hcl

/-- Labels of a block, up to its opening brace. -/
def labels : Nat → List Char → Except (List Char) (List String × List Char)
  | 0, cs => .error cs
  | fuel + 1, cs =>
    match skipBlank cs with
    | '\x7b' :: rest => .ok ([], rest)
    | '"' :: rest => do
      let (l, rest) ← quotedText ('"' :: rest)
      let (ls, rest) ← labels fuel rest
      .ok (l :: ls, rest)
    | cs => do
      let (l, rest) ← ident cs
      let (ls, rest) ← labels fuel rest
      .ok (l :: ls, rest)

def bytesBefore (size : Nat) (rest : List Char) : Nat := size - Text.byteSize rest

/-- An attribute after its name. -/
def attributeValue (cs : List Char) : Except (List Char) (Expr × List Char) := do
  let rest ← expect ['='] (skipBlank cs)
  expr (skipBlank rest)

section
variable (size : Nat)

/-- The body of a block on one line, after the opening brace. -/
def oneLineBody (cs : List Char) : Except (List Char) (Body × List Char) :=
  match skipBlank cs with
  | '}' :: rest => .ok ([], rest)
  | cs => do
    let (name, rest) ← ident cs
    let (value, rest) ← attributeValue rest
    let item := .attribute ⟨name, value, ⟨bytesBefore size cs, bytesBefore size rest⟩⟩
    .ok ([item], ← expect ['}'] (skipBlank rest))

variable (inner : List Char → Except (List Char) (Body × List Char))

/-- A block after its kind, `inner` reads the body between lines. -/
def block (kind : String) (start : Nat) (cs : List Char) : Except (List Char) (Item × List Char) := do
  let (ls, rest) ← labels (cs.length + 1) cs
  let blank := skipBlank rest
  let comment := (afterLineComment? blank).getD blank
  let (body, rest) ← match afterLineEnd? comment with
    | some rest => do
      let (body, rest) ← inner rest
      .ok (body, ← expect ['}'] (skipWhite rest))
    | none => oneLineBody size rest
  .ok (.block kind ls body ⟨start, bytesBefore size rest⟩, rest)

def item (cs : List Char) : Except (List Char) (Item × List Char) := do
  let (name, rest) ← ident cs
  match skipBlank rest with
  | '=' :: _ =>
    let (value, rest) ← attributeValue rest
    .ok (.attribute ⟨name, value, ⟨bytesBefore size cs, bytesBefore size rest⟩⟩, rest)
  | _ => block size inner name (bytesBefore size cs) rest

/-- Items up to the end of the text or a closing brace; `names` are the attributes set so far. -/
def itemsFrom : Nat → List String → List Char → Except (List Char) (Body × List Char)
  | 0, _, cs => .error cs
  | fuel + 1, names, cs =>
    match skipWhite cs with
    | [] => .ok ([], [])
    | '}' :: rest => .ok ([], '}' :: rest)
    | cs => do
      let (i, rest) ← item size inner cs
      let some rest := afterLine? rest | .error rest
      let names ← match i with
        | .attribute a => if names.contains a.name then .error cs else .ok (a.name :: names)
        | .block .. => .ok names
      let (is, rest) ← itemsFrom fuel names rest
      .ok (i :: is, rest)

end

/-- The items of a body with blocks nested less than `depth` deep. -/
def bodyAt (size : Nat) : Nat → List Char → Except (List Char) (Body × List Char)
  | 0, cs => .error cs
  | depth + 1, cs => itemsFrom size (bodyAt size depth) (cs.length + 1) [] cs

/-- The contents of a text as a whole; where it was not understood otherwise. -/
def Body.read (text : List Char) : Except (List Char) Body :=
  match bodyAt (Text.byteSize text) (text.length + 1) text with
  | .ok (body, []) => .ok body
  | .ok (_, rest) => .error rest
  | .error rest => .error rest

def Body.read? (text : String) : Option Body := (Body.read text.toList).toOption

/-- What is said of a text that stops being understood where `rest` is left of it. -/
def complaint (text rest : List Char) : String :=
  let before := readFrom text rest
  let line := Text.countLineFeeds before + 1
  let column := (before.reverse.takeWhile (· != '\n')).length + 1
  s!" --> HCL parse error in line {line}, column {column}"

end TagAudit.Hcl
