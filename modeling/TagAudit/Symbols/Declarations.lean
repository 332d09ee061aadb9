/-
  TagAudit.Symbols.Declarations — collecting declarations file by file, and building a table.

  A later declaration of a name replaces an earlier one in its place. Building a table
  evaluates every local once.
-/

import TagAudit.Hcl.Printer
import TagAudit.Literal
import TagAudit.Resource
import TagAudit.Symbols.Dependencies
import TagAudit.Symbols.Evaluation

namespace TagAudit.Symbols

open Hcl

structure Declarations where
  vars : OrderedMap Variable
  locals : OrderedMap Local

namespace Declarations

def empty : Declarations := ⟨[], []⟩

def describe (v : Variable) (a : Attribute) : Variable :=
  match a.name with
  | "type" => { v with declaredType := some a.value.rawText }
  | "description" => { v with description := (Value.ofLiteral? a.value).bind Value.scalar? }
  | "default" => { v with default := Value.ofLiteral? a.value }
  | "sensitive" => { v with sensitive := match a.value with | .bool b => b | _ => false }
  | "nullable" => { v with nullable := match a.value with | .bool b => b | _ => true }
  | _ => v

def variableOf (file : SourceFile) (name : String) (b : Block) : Variable :=
  b.body.attributes.foldl describe
    { name, declaredType := none, description := none, default := none, sensitive := false, nullable := true
      file := file.path, line := Snippet.tokenLine file.contents.toList b.span.start }

def localOf (file : SourceFile) (a : Attribute) : Local :=
  { name := a.name, expression := a.value, dependencies := dependencies a.value, file := file.path
    line := Snippet.tokenLine file.contents.toList a.span.start, outcome := none }

def addBlock (file : SourceFile) (d : Declarations) (b : Block) : Declarations :=
  match b.kind, b.labels with
  | "variable", name :: _ => { d with vars := d.vars.insert name (variableOf file name b) }
  | "locals", _ =>
    { d with locals := d.locals.insertAll (b.body.attributes.map fun a => (a.name, localOf file a)) }
  | _, _ => d

def addBody (d : Declarations) (file : SourceFile) (body : Body) : Declarations :=
  body.blocks.foldl (addBlock file) d

def add? (d : Declarations) (file : SourceFile) : Option Declarations :=
  (Body.read? file.contents).map (d.addBody file)

/-- Adds what the files declare that can be parsed. -/
def addAll (d : Declarations) (files : List SourceFile) : Declarations :=
  files.foldl (fun d file => (d.add? file).getD d) d

/-- The table before any local was evaluated. -/
def unevaluated (d : Declarations) (overrides : OrderedMap Value) (strict : Bool) : Table :=
  ⟨d.vars, d.locals, overrides, strict⟩

/-- Outcomes of locals, evaluated one after the other. -/
def outcomes {m : Type → Type} [Monad m] (localValue : String → Evaluating m Value) :
    List String → m (List (String × Outcome))
  | [] => pure []
  | name :: names => do
    let o ← (localValue name).run
    return (name, o) :: (← outcomes localValue names)

/-- The outcomes of all locals of a table. -/
def evaluated (t : Table) : List (String × Outcome) :=
  ((outcomes t.localValue t.locals.keys : StateM Evaluation _).run Evaluation.start).1

/-- The table with every local evaluated. -/
def build (d : Declarations) (overrides : OrderedMap Value) (strict : Bool) : Table :=
  let t := d.unevaluated overrides strict
  let found := evaluated t
  { t with locals := t.locals.map fun (name, l) => (name, { l with outcome := OrderedMap.get? found name }) }

end Declarations

/-- The table of what the files declare that can be parsed. -/
def Table.ofFiles (files : List SourceFile) (overrides : OrderedMap Value) (strict : Bool) : Table :=
  (Declarations.empty.addAll files).build overrides strict

end TagAudit.Symbols
