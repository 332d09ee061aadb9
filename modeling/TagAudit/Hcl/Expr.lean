/-
  TagAudit.Hcl.Expr — expressions of the configuration language.

  A template is a text with interpolations and directives. It keeps its text as written
  (`raw`), literal text decoded, beside the parts that this text consists of; a text that no
  longer splits into parts has none.
-/

import TagAudit.Number

namespace TagAudit.Hcl

inductive UnaryOp where
  | negate
  | not
  deriving DecidableEq, Repr, Inhabited

def UnaryOp.symbol : UnaryOp → String
  | .negate => "-"
  | .not => "!"

inductive BinaryOp where
  | equal
  | unequal
  | atMost
  | atLeast
  | less
  | greater
  | plus
  | minus
  | times
  | divide
  | modulo
  | and
  | or
  deriving DecidableEq, Repr, Inhabited

def BinaryOp.symbol : BinaryOp → String
  | .equal => "=="
  | .unequal => "!="
  | .atMost => "<="
  | .atLeast => ">="
  | .less => "<"
  | .greater => ">"
  | .plus => "+"
  | .minus => "-"
  | .times => "*"
  | .divide => "/"
  | .modulo => "%"
  | .and => "&&"
  | .or => "||"

/-- How a template is delimited. The text of an indented heredoc has lost the indentation that
    all its lines had in common. -/
inductive TemplateForm where
  | quoted
  | heredoc (indented : Bool) (delimiter : String)
  deriving DecidableEq, Repr, Inhabited

mutual
inductive Expr where
  | null
  | bool (b : Bool)
  | number (n : Number)
  | text (s : String)
  | list (items : List Expr)
  | object (entries : List (Key × Expr))
  | template (form : TemplateForm) (raw : String) (parts : Option (List Part))
  | variable (name : String)
  | access (root : Expr) (path : List Access)
  | call (function : String) (args : List Expr) (expandLast : Bool)
  | paren (e : Expr)
  | conditional (condition ifTrue ifFalse : Expr)
  | unary (op : UnaryOp) (e : Expr)
  | binary (op : BinaryOp) (left right : Expr)
  | listFor (key : Option String) (value : String) (collection item : Expr) (condition : Option Expr)
  | objectFor (key : Option String) (value : String) (collection itemKey item : Expr) (grouped : Bool)
      (condition : Option Expr)
/-- A key of an object: a bare identifier, or an expression. -/
inductive Key where
  | ident (name : String)
  | expr (e : Expr)
inductive Access where
  | attribute (name : String)
  | position (n : Nat)
  | index (e : Expr)
  | attributeSplat
  | splat
/-- A part of a template. The flags of an interpolation tell whether it carries the marks that
    ask for the white space before and after it to be dropped. -/
inductive Part where
  | literal (text : String)
  | interpolation (e : Expr) (stripBefore stripAfter : Bool)
  | conditional (condition : Expr) (ifTrue : List Part) (ifFalse : Option (List Part))
  | loop (key : Option String) (value : String) (collection : Expr) (body : List Part)
end

instance : Inhabited Expr := ⟨.null⟩

/-! ## Equality -/

mutual
def Expr.same : Expr → Expr → Bool
  | .null, .null => true
  | .bool a, .bool b => a == b
  | .number a, .number b => a == b
  | .text a, .text b => a == b
  | .list as, .list bs => Expr.sameAll as bs
  | .object as, .object bs => Expr.sameEntries as bs
  | .template f s ps, .template g t qs => f == g && s == t && Part.sameOptional ps qs
  | .variable a, .variable b => a == b
  | .access a p, .access b q => a.same b && Access.sameAll p q
  | .call f as x, .call g bs y => f == g && x == y && Expr.sameAll as bs
  | .paren a, .paren b => a.same b
  | .conditional a b c, .conditional d e f => a.same d && b.same e && c.same f
  | .unary o a, .unary p b => o == p && a.same b
  | .binary o a b, .binary p c d => o == p && a.same c && b.same d
  | .listFor k v c i o, .listFor l w d j p => k == l && v == w && c.same d && i.same j && Expr.sameOptional o p
  | .objectFor k v c n i g o, .objectFor l w d m j h p =>
    k == l && v == w && c.same d && n.same m && i.same j && g == h && Expr.sameOptional o p
  | _, _ => false
def Expr.sameAll : List Expr → List Expr → Bool
  | [], [] => true
  | a :: as, b :: bs => a.same b && Expr.sameAll as bs
  | _, _ => false
def Expr.sameOptional : Option Expr → Option Expr → Bool
  | none, none => true
  | some a, some b => a.same b
  | _, _ => false
def Expr.sameEntries : List (Key × Expr) → List (Key × Expr) → Bool
  | [], [] => true
  | (k, a) :: as, (l, b) :: bs => k.same l && a.same b && Expr.sameEntries as bs
  | _, _ => false
def Key.same : Key → Key → Bool
  | .ident a, .ident b => a == b
  | .expr a, .expr b => a.same b
  | _, _ => false
def Access.same : Access → Access → Bool
  | .attribute a, .attribute b => a == b
  | .position a, .position b => a == b
  | .index a, .index b => a.same b
  | .attributeSplat, .attributeSplat => true
  | .splat, .splat => true
  | _, _ => false
def Access.sameAll : List Access → List Access → Bool
  | [], [] => true
  | a :: as, b :: bs => a.same b && Access.sameAll as bs
  | _, _ => false
def Part.same : Part → Part → Bool
  | .literal a, .literal b => a == b
  | .interpolation a x y, .interpolation b z w => a.same b && x == z && y == w
  | .conditional a ps o, .conditional b qs p => a.same b && Part.sameAll ps qs && Part.sameOptional o p
  | .loop k v c ps, .loop l w d qs => k == l && v == w && c.same d && Part.sameAll ps qs
  | _, _ => false
def Part.sameAll : List Part → List Part → Bool
  | [], [] => true
  | a :: as, b :: bs => a.same b && Part.sameAll as bs
  | _, _ => false
def Part.sameOptional : Option (List Part) → Option (List Part) → Bool
  | none, none => true
  | some a, some b => Part.sameAll a b
  | _, _ => false
end

/-! ## Objects -/

namespace Expr

/-- Replaces the value at a key, or appends an entry. -/
def insertEntry (entries : List (Key × Expr)) (key : Key) (value : Expr) : List (Key × Expr) :=
  match entries with
  | [] => [(key, value)]
  | (k, v) :: es => if k.same key then (k, value) :: es else (k, v) :: insertEntry es key value

/-- An object with each key once: of several equal keys the first gives the position and the
    last the value. -/
def ofEntries (entries : List (Key × Expr)) : Expr :=
  .object (entries.foldl (fun es e => insertEntry es e.1 e.2) [])

end Expr
end TagAudit.Hcl
