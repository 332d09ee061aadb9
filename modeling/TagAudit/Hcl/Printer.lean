/-
  TagAudit.Hcl.Printer — writing expressions.

  Lists and objects are written over several lines, or on one line among arguments and inside
  conditionals. `Printing` is the state of the writer. Nested lists and objects share its two
  flags, so an empty one leaves behind that nothing stands before the next item.
-/

import TagAudit.Hcl.Expr
import TagAudit.Hcl.Lexeme
import TagAudit.Json.Printer

namespace TagAudit.Hcl

/-- Text written so far, depth of indentation, whether all goes on one line, whether the next
    item is the first of its list or object, and whether there is one before the closing mark. -/
structure Printing where
  out : String
  indent : Nat
  oneLine : Bool
  first : Bool
  hasItem : Bool

namespace Printing

def start : Printing := ⟨"", 0, false, true, false⟩

def write (p : Printing) (s : String) : Printing := { p with out := p.out ++ s }

def newLine (p : Printing) : Printing := p.write ("\n" ++ String.ofList (List.replicate (2 * p.indent) ' '))

def openWith (p : Printing) (mark : String) : Printing :=
  { p with indent := if p.oneLine then p.indent else p.indent + 1, first := true, hasItem := false }.write mark

/-- What goes before an item of a list. -/
def beforeItem (p : Printing) : Printing :=
  if p.first then
    let p := { p with first := false }
    if p.oneLine then p else p.newLine
  else if p.oneLine then p.write ", " else (p.write ",").newLine

/-- What goes before an entry of an object. -/
def beforeEntry (p : Printing) : Printing :=
  if p.first then
    let p := { p with first := false }
    if p.oneLine then p.write " " else p.newLine
  else if p.oneLine then p.write ", " else p.newLine

def afterItem (p : Printing) : Printing := { p with hasItem := true }

def closeWith (p : Printing) (space mark : String) : Printing :=
  if p.oneLine then (if p.hasItem then p.write space else p).write mark
  else
    let p := { p with indent := p.indent - 1 }
    (if p.hasItem then p.newLine else p).write mark

end Printing

def quoteText (s : String) : String :=
  String.ofList ('"' :: (escapeMarks (s.toList.flatMap Json.escapeChar)) ++ ['"'])

def bindingText (key : Option String) (value : String) : String :=
  match key with
  | some key => key ++ ", " ++ value
  | none => value

def Printing.template (p : Printing) (form : TemplateForm) (raw : String) : Printing :=
  match form with
  | .quoted => p.write ("\"" ++ raw ++ "\"")
  | .heredoc indented delimiter =>
    let mark := if indented then "<<-" else "<<"
    let indent := if indented then String.ofList (List.replicate (2 * p.indent) ' ') else ""
    let lineEnd := if raw.toList.getLast? = some '\n' then "" else "\n"
    p.write (mark ++ delimiter ++ "\n" ++ raw ++ lineEnd ++ indent ++ delimiter)

mutual
def Expr.print (p : Printing) : Expr → Printing
  | .null => p.write "null"
  | .bool b => p.write (if b then "true" else "false")
  | .number n => p.write n.text
  | .text s => p.write (quoteText s)
  | .list es => (Expr.printItems (p.openWith "[") es).closeWith "" "]"
  | .object es => (Expr.printEntries (p.openWith "\x7b") es).closeWith " " "\x7d"
  | .template form raw _ => p.template form raw
  | .variable name => p.write name
  | .access e path => Access.printAll (e.print p) path
  | .call f args expandLast =>
    let q := Expr.printArgs { p.write (f ++ "(") with oneLine := true } true args
    { q.write (if expandLast then "...)" else ")") with oneLine := p.oneLine }
  | .paren e => (e.print (p.write "(")).write ")"
  | .conditional c t f =>
    let q := c.print { p with oneLine := true }
    let q := t.print (q.write " ? ")
    let q := f.print (q.write " : ")
    { q with oneLine := p.oneLine }
  | .unary op e => e.print (p.write op.symbol)
  | .binary op l r => r.print ((l.print p).write (" " ++ op.symbol ++ " "))
  | .listFor k v c e cond =>
    let p := (c.print (p.write ("[for " ++ bindingText k v ++ " in "))).write " : "
    (Expr.printCondition (e.print p) cond).write "]"
  | .objectFor k v c ek e grouped cond =>
    let p := (c.print (p.write ("\x7bfor " ++ bindingText k v ++ " in "))).write " : "
    let p := e.print ((ek.print p).write " => ")
    (Expr.printCondition (if grouped then p.write "..." else p) cond).write "\x7d"
def Expr.printItems (p : Printing) : List Expr → Printing
  | [] => p
  | e :: es => Expr.printItems (e.print p.beforeItem).afterItem es
def Expr.printArgs (p : Printing) (first : Bool) : List Expr → Printing
  | [] => p
  | e :: es => Expr.printArgs (e.print (if first then p else p.write ", ")) false es
def Expr.printEntries (p : Printing) : List (Key × Expr) → Printing
  | [] => p
  | (k, e) :: es => Expr.printEntries (e.print ((k.print p.beforeEntry).write " = ")).afterItem es
def Expr.printCondition (p : Printing) : Option Expr → Printing
  | none => p
  | some e => e.print (p.write " if ")
def Key.print (p : Printing) : Key → Printing
  | .ident name => p.write name
  | .expr e => e.print p
def Access.print (p : Printing) : Access → Printing
  | .attribute name => p.write ("." ++ name)
  | .position n => p.write ("." ++ Number.integerText n)
  | .index e => (e.print (p.write "[")).write "]"
  | .attributeSplat => p.write ".*"
  | .splat => p.write "[*]"
def Access.printAll (p : Printing) : List Access → Printing
  | [] => p
  | a :: as => Access.printAll (a.print p) as
end

namespace Expr

def written (e : Expr) : String := (e.print .start).out

/-- The text that stands for an expression: a text itself, anything else as written. -/
def rawText : Expr → String
  | .text s => s
  | e => e.written

end Expr
end TagAudit.Hcl
