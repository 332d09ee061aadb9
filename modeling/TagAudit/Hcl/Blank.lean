/-
  TagAudit.Hcl.Blank — blanks, line ends and comments between tokens.

  Blanks are spaces, tabs and comments between `/*` and `*/`. White space also has line ends
  and comments that run to the end of a line.
-/

namespace TagAudit.Hcl

/-- The text after the end of a comment that was opened by `/*`. -/
def afterComment? : List Char → Option (List Char)
  | [] => none
  | '*' :: '/' :: cs => some cs
  | _ :: cs => afterComment? cs

/-- The text from the end of the line on. A carriage return only occurs as part of it. -/
def atLineEnd? : List Char → Option (List Char)
  | [] => some []
  | '\n' :: cs => some ('\n' :: cs)
  | '\r' :: '\n' :: cs => some ('\r' :: '\n' :: cs)
  | '\r' :: _ => none
  | _ :: cs => atLineEnd? cs

def afterLineEnd? : List Char → Option (List Char)
  | '\n' :: cs => some cs
  | '\r' :: '\n' :: cs => some cs
  | _ => none

/-- The text from the end of a line comment on, if one starts here. -/
def afterLineComment? : List Char → Option (List Char)
  | '#' :: cs => atLineEnd? cs
  | '/' :: '/' :: cs => atLineEnd? cs
  | _ => none

/-- Drops blanks, and line ends and line comments too if `lines` is set. -/
def skipUpTo (lines : Bool) : Nat → List Char → List Char
  | 0, cs => cs
  | fuel + 1, cs =>
    match cs with
    | ' ' :: rest => skipUpTo lines fuel rest
    | '\t' :: rest => skipUpTo lines fuel rest
    | '\n' :: rest => if lines then skipUpTo lines fuel rest else cs
    | '\r' :: rest => if lines then skipUpTo lines fuel rest else cs
    | '/' :: '*' :: rest =>
      match afterComment? rest with
      | some rest => skipUpTo lines fuel rest
      | none => cs
    | cs =>
      if lines then
        match afterLineComment? cs with
        | some rest => skipUpTo lines fuel rest
        | none => cs
      else cs

/-- Drops blanks, and with `lines` all white space. -/
def skip (lines : Bool) (cs : List Char) : List Char := skipUpTo lines cs.length cs

def skipBlank (cs : List Char) : List Char := skip false cs

def skipWhite (cs : List Char) : List Char := skip true cs

/-- The text after blanks, a comment perhaps, and a line end; the end of the text will do. -/
def afterLine? (cs : List Char) : Option (List Char) :=
  let cs := skipBlank cs
  let cs := (afterLineComment? cs).getD cs
  if cs.isEmpty then some [] else afterLineEnd? cs

end TagAudit.Hcl
