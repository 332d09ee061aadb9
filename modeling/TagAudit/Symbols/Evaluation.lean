/-
  TagAudit.Symbols.Evaluation — the values of expressions.

  Literals, lists, objects, references, templates with at most one interpolation and `merge`
  have values; anything else does not. An item of a list or object without value stays in it
  as unresolved text.

  An `Evaluation` carries the outcomes of the locals it has evaluated, so that each is
  evaluated once, and the locals that are being evaluated, so that a local that leads back to
  itself is noticed.

  `eval` takes the evaluation of locals as an argument and runs in any monad. `localStep`
  evaluates a local in a monad that has an `Evaluation` as its state, and `nested` repeats it
  for the locals that the local refers to.
-/

import TagAudit.Hcl.Printer
import TagAudit.Reference
import TagAudit.Symbols.Table

namespace TagAudit.Symbols

open Hcl

/-- Outcomes found so far, and the locals that are being evaluated, innermost last. -/
structure Evaluation where
  memo : OrderedMap Outcome
  stack : List String

namespace Evaluation

def start : Evaluation := ⟨[], []⟩

def enter (name : String) (s : Evaluation) : Evaluation := { s with stack := s.stack ++ [name] }

def leave (name : String) (o : Outcome) (s : Evaluation) : Evaluation :=
  { memo := s.memo.insert name o, stack := s.stack.dropLast }

variable (s : Evaluation) (name : String)

@[simp] theorem enter_stack : (s.enter name).stack = s.stack ++ [name] := rfl
@[simp] theorem leave_stack (o : Outcome) : (s.leave name o).stack = s.stack.dropLast := rfl

@[simp] theorem get?_leave (o : Outcome) (x : String) :
    (s.leave name o).memo.get? x = if name = x then some o else s.memo.get? x :=
  OrderedMap.get?_insert _ _ _ _

end Evaluation

abbrev Evaluating (m : Type → Type) (α : Type) := ExceptT Reason m α

/-! ## Steps into values -/

def lookupKey (key : String) : Value → Outcome
  | .map entries =>
    match OrderedMap.get? entries key with
    | some v => .ok v
    | none => .error (.missingKey key)
  | v => .error (.notMap key v)

def lookupPosition (position : Nat) : Value → Outcome
  | .list items =>
    match items[position]? with
    | some v => .ok v
    | none => .error (.outOfRange position)
  | v => .error (.notList v)

/-- What a value holds at an index: a position of a list, or else a key. -/
def lookupIndex (index v : Value) : Outcome :=
  match v, index with
  | .list _, .number n =>
    match n.toNat? with
    | some position => lookupPosition position v
    | none => .error (.badPosition n)
  | _, _ =>
    match index.scalar? with
    | some key => lookupKey key v
    | none => .error (.badIndex index)

/-! ## Templates and merging -/

def interpolationCount (ps : List Part) : Nat :=
  ps.countP fun
    | .interpolation .. => true
    | _ => false

/-- The operands of a merge taken together; `none` stands for an operand that was passed over.
    There has to be a map among them, if there is any operand. -/
def mergeMaps (operands : List (Option (OrderedMap Value))) : Outcome :=
  if operands.all Option.isNone && !operands.isEmpty then .error .noOperand
  else .ok (.map (operands.foldl (fun merged o => OrderedMap.insertAll merged (o.getD [])) OrderedMap.empty))

/-- A merge operand with its outcome: a map, or one that is passed over; a strict merge fails
    with it. -/
def operandMap (strict : Bool) : Outcome → Except Reason (Option (OrderedMap Value))
  | .ok (.map entries) => .ok (some entries)
  | .ok v => if strict then .error (.operandNotMap v) else .ok none
  | .error r => if strict then .error (.operandUnresolved r) else .ok none

/-! ## Expressions -/

section
variable {m : Type → Type} [Monad m]

/-- The computation that has an outcome already. -/
def settled {α : Type} (o : Except Reason α) : Evaluating m α := ExceptT.mk (pure o)

def outcomeOf (e : Evaluating m Value) : Evaluating m Outcome := ExceptT.mk do return .ok (← e.run)

/-- The text of a scalar; where there is none the reason tells of the value. -/
def scalarText (reason : Value → Reason) (v : Value) : Evaluating m String :=
  match v.scalar? with
  | some s => pure s
  | none => throw (reason v)

/-- A value as an item: unresolved text where there is none. -/
def orRaw (e : Expr) (o : Outcome) : Value :=
  match o with
  | .ok v => v
  | .error _ => .unresolved e.rawText

variable (table : Table) (localValue : String → Evaluating m Value)

def symbolValue (r : Reference) : Evaluating m Value :=
  match r.scope with
  | .variable => settled (table.variableValue r.name)
  | .local => localValue r.name

mutual
/-- The value of an expression, `localValue` evaluates the locals that it refers to. -/
def eval : Expr → Evaluating m Value
  | .text s => pure (.text s)
  | .number n => pure (.number n)
  | .bool b => pure (.bool b)
  | .null => throw .isNull
  | .list items => do return .list (← evalItems items)
  | .object entries => do return .map (← evalEntries entries [])
  | .template _ _ parts => evalTemplate parts
  | .access _ [] => throw .foreignReference
  | .access root (a :: path) =>
    match Reference.ofAccess? root (a :: path) with
    | none => throw .foreignReference
    | some r => do evalPath r.display (← symbolValue table localValue r) path
  | .variable name => throw (.incompleteReference name)
  | .call "merge" args expandLast =>
    if expandLast then throw .expandedOperands
    else do settled (mergeMaps (← evalOperands args))
  | .call name _ _ => throw (.unknownFunction name)
  | .paren e => eval e
  | _ => throw .unsupported
def evalItems : List Expr → Evaluating m (List Value)
  | [] => pure []
  | e :: es => do
    let o ← outcomeOf (eval e)
    return orRaw e o :: (← evalItems es)
/-- The entries of an object after those already `done`. -/
def evalEntries : List (Key × Expr) → OrderedMap Value → Evaluating m (OrderedMap Value)
  | [], done => pure done
  | (k, e) :: es, done => do
    let key ← evalKey k
    let o ← outcomeOf (eval e)
    evalEntries es (OrderedMap.insert done key (orRaw e o))
/-- The text of a key; a variable stands for its name. -/
def evalKey : Key → Evaluating m String
  | .ident name => pure name
  | .expr (.variable name) => pure name
  | .expr e => do scalarText (fun _ => .keyNotScalar) (← eval e)
def evalPath (reference : String) (v : Value) : List Access → Evaluating m Value
  | [] => pure v
  | a :: as => do evalPath reference (← evalStep reference v a) as
def evalStep (reference : String) (v : Value) : Access → Evaluating m Value
  | .attribute name => settled (lookupKey name v)
  | .position n => settled (lookupPosition n v)
  | .index e => do settled (lookupIndex (← eval e) v)
  | .attributeSplat => throw (.splat reference)
  | .splat => throw (.splat reference)
/-- The value of a template. A lone interpolation has the value of its expression. -/
def evalTemplate : Option (List Part) → Evaluating m Value
  | none => throw .badTemplate
  | some [.interpolation e _ _] => eval e
  | some ps =>
    if 1 < interpolationCount ps then throw .severalInterpolations
    else do return .text (← evalParts ps)
def evalParts : List Part → Evaluating m String
  | [] => pure ""
  | p :: ps => do
    let s ← evalPart p
    return s ++ (← evalParts ps)
def evalPart : Part → Evaluating m String
  | .literal s => pure s
  | .interpolation e _ _ => do scalarText .notScalar (← eval e)
  | .conditional .. => throw .directive
  | .loop .. => throw .directive
/-- The operands of a merge; a strict merge stops at the first that is no map. -/
def evalOperands : List Expr → Evaluating m (List (Option (OrderedMap Value)))
  | [] => pure []
  | e :: es => do
    let o ← outcomeOf (eval e)
    let operand ← settled (operandMap table.strict o)
    return operand :: (← evalOperands es)
end

/-! ### Where patterns overlap -/

theorem eval_merge (args : List Expr) : eval table localValue (.call "merge" args false) =
    evalOperands table localValue args >>= fun operands => settled (mergeMaps operands) := by
  simp [eval]

theorem eval_expandedMerge (args : List Expr) :
    eval table localValue (.call "merge" args true) = throw .expandedOperands := by
  simp [eval]

theorem eval_call_of_ne {name : String} (h : name ≠ "merge") (args : List Expr) (expandLast : Bool) :
    eval table localValue (.call name args expandLast) = throw (.unknownFunction name) := by
  rw [eval]
  exact h

theorem evalKey_expr_of_ne {e : Expr} (h : ∀ name, e ≠ .variable name) : evalKey table localValue (.expr e) =
    eval table localValue e >>= scalarText fun _ => .keyNotScalar := by
  rw [evalKey]
  exact h

theorem evalTemplate_of_ne {ps : List Part} (h : ∀ e before after, ps ≠ [.interpolation e before after]) :
    evalTemplate table localValue (some ps) =
      if 1 < interpolationCount ps then throw .severalInterpolations
      else do return .text (← evalParts table localValue ps) := by
  rw [evalTemplate]
  exact h

end

/-! ## Locals -/

/-- What an evaluation knows of a local: its outcome, or the expression that is still to be
    evaluated. A local that is being evaluated has none but that it leads back to itself. -/
def Table.known (t : Table) (s : Evaluation) (name : String) : Outcome ⊕ Expr :=
  match t.locals.get? name with
  | none => .inl (.error (.undefinedLocal name))
  | some l =>
    match l.outcome with
    | some o => .inl o
    | none =>
      match s.memo.get? name with
      | some o => .inl o
      | none =>
        if s.stack.contains name then .inl (.error (.cycle (s.stack ++ [name]))) else .inr l.expression

theorem Table.known_eq_inr {t : Table} {s : Evaluation} {name : String} {e : Expr} : t.known s name = .inr e ↔
    ∃ l, t.locals.get? name = some l ∧ l.outcome = none ∧ s.memo.get? name = none ∧ name ∉ s.stack ∧
      l.expression = e := by
  unfold Table.known
  split
  · simp_all
  · split
    · simp_all
    · split
      · simp_all
      · split <;> simp_all

section
variable {m : Type → Type} [Monad m] [MonadStateOf Evaluation m] (table : Table)

def evalLocal (inner : String → Evaluating m Value) (name : String) (e : Expr) : m Outcome := do
  modifyThe Evaluation (·.enter name)
  let o ← (eval table inner e).run
  modifyThe Evaluation (·.leave name o)
  return o

/-- The value of a local: its outcome if it is known, or else that of its expression. -/
def localStep (inner : String → Evaluating m Value) (name : String) : Evaluating m Value := ExceptT.mk do
  match table.known (← getThe Evaluation) name with
  | .inl o => return o
  | .inr e => evalLocal table inner name e

/-- `localStep` nested to a depth, and `inner` below it. -/
def nested (inner : String → Evaluating m Value) : Nat → String → Evaluating m Value
  | 0 => inner
  | depth + 1 => localStep table (nested inner depth)

end

namespace Table

section
variable {m : Type → Type} [Monad m] [MonadStateOf Evaluation m] (t : Table)

/-- The value of a local in the course of an evaluation. Locals are nested at most as deep as
    there are locals, and at the bottom one leads back to itself. -/
def localValue : String → Evaluating m Value :=
  nested t (fun name => throw (.cycle [name])) (t.locals.length + 1)

/-- The value of an expression in the course of an evaluation. -/
def evaluating (e : Expr) : Evaluating m Value := eval t t.localValue e

end

def outcome (t : Table) (e : Expr) : Outcome :=
  ((t.evaluating e : Evaluating (StateM Evaluation) Value).run.run Evaluation.start).1

end Table
end TagAudit.Symbols
