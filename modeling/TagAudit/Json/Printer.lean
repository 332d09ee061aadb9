/-
  TagAudit.Json.Printer — writing JSON, on one line or indented.
-/

import TagAudit.Json.Basic

namespace TagAudit.Json

def hexChar (n : Nat) : Char := if n < 10 then Char.ofNat (48 + n) else Char.ofNat (87 + n)

def escapeChar (c : Char) : List Char :=
  match c with
  | '"' => ['\\', '"']
  | '\\' => ['\\', '\\']
  | '\x08' => ['\\', 'b']
  | '\x0c' => ['\\', 'f']
  | '\n' => ['\\', 'n']
  | '\r' => ['\\', 'r']
  | '\t' => ['\\', 't']
  | c => if c.toNat < 0x20 then ['\\', 'u', '0', '0', hexChar (c.toNat / 16), hexChar (c.toNat % 16)] else [c]

def quote (s : String) : String := String.ofList ('"' :: s.toList.flatMap escapeChar ++ ['"'])

mutual
/-- The value on one line, without spaces. -/
def compact : Json → String
  | .null => "null"
  | .bool b => if b then "true" else "false"
  | .number n => n.jsonText
  | .str s => quote s
  | .arr items => "[" ++ String.intercalate "," (compactItems items) ++ "]"
  | .obj members => "\x7b" ++ String.intercalate "," (compactMembers members) ++ "\x7d"
def compactItems : List Json → List String
  | [] => []
  | j :: js => j.compact :: compactItems js
def compactMembers : List (String × Json) → List String
  | [] => []
  | (k, j) :: ms => (quote k ++ ":" ++ j.compact) :: compactMembers ms
end

def newLine (depth : Nat) : String := "\n" ++ String.ofList (List.replicate (2 * depth) ' ')

mutual
/-- The value over several lines; empty arrays and objects stay on one. -/
def prettyAt (depth : Nat) : Json → String
  | .arr [] => "[]"
  | .arr items =>
    "[" ++ newLine (depth + 1) ++
      String.intercalate ("," ++ newLine (depth + 1)) (prettyItems (depth + 1) items) ++ newLine depth ++ "]"
  | .obj [] => "\x7b\x7d"
  | .obj members =>
    "\x7b" ++ newLine (depth + 1) ++
      String.intercalate ("," ++ newLine (depth + 1)) (prettyMembers (depth + 1) members) ++ newLine depth ++ "\x7d"
  | .null => "null"
  | .bool b => if b then "true" else "false"
  | .number n => n.jsonText
  | .str s => quote s
def prettyItems (depth : Nat) : List Json → List String
  | [] => []
  | j :: js => j.prettyAt depth :: prettyItems depth js
def prettyMembers (depth : Nat) : List (String × Json) → List String
  | [] => []
  | (k, j) :: ms => (quote k ++ ": " ++ j.prettyAt depth) :: prettyMembers depth ms
end

def pretty (j : Json) : String := j.prettyAt 0

end TagAudit.Json
