/-
  TagAudit.Hcl.Grammar — reading expressions and templates.

  Readers give what they read with the rest of the text, or stop with the text where they gave
  up. The readers of parts of an expression take the reader `inner` of expressions nested in
  them; `exprAt` closes the circle and bounds the depth. The flag that goes with `inner` says
  whether the expression may run over line ends, as it may between parentheses.

  Binary operators have no precedence: the right operand is all that follows. A sign or `!`
  applies to the term after it and not to the steps into its value; of several in a row only
  the last counts.
-/

import TagAudit.Hcl.Expr
import TagAudit.Hcl.Blank
import TagAudit.Hcl.Lexeme
import TagAudit.Text.Lines

namespace TagAudit.Hcl

def expect (mark cs : List Char) : Except (List Char) (List Char) :=
  match Text.afterMark? mark cs with
  | some rest => .ok rest
  | none => .error cs

/-- What was read between a text and its rest. -/
def readFrom (cs rest : List Char) : List Char := cs.take (cs.length - rest.length)

section
variable (inner : Bool → List Char → Except (List Char) (Expr × List Char))

/-! ## Lists, arguments and objects -/

/-- An expression on one line, with white space around it. -/
def spaced (cs : List Char) : Except (List Char) (Expr × List Char) := do
  let (e, rest) ← inner false (skipWhite cs)
  .ok (e, skipWhite rest)

/-- Items separated by commas up to a closing character; whether dots that expand the last one
    stand before it. -/
def items (close : Char) (dots : Bool) : Nat → List Char → Except (List Char) ((List Expr × Bool) × List Char)
  | 0, cs => .error cs
  | fuel + 1, cs =>
    match skipWhite cs with
    | [] => .error []
    | c :: rest =>
      if c = close then .ok (([], false), rest)
      else do
        let (e, rest) ← spaced inner (c :: rest)
        match rest with
        | ',' :: rest =>
          let ((es, expand), rest) ← items close dots fuel rest
          .ok ((e :: es, expand), rest)
        | '.' :: '.' :: '.' :: rest =>
          if dots then .ok (([e], true), ← expect [close] (skipWhite rest)) else .error rest
        | rest => .ok (([e], false), ← expect [close] rest)

/-- The names that a comprehension or loop binds, and its collection: after the word `for` up
    to the end of the collection. -/
def bindings (cs : List Char) : Except (List Char) ((Option String × String × Expr) × List Char) := do
  let (first, rest) ← ident (skipWhite cs)
  let rest := skipWhite rest
  let ((key, value), rest) ← match rest with
    | ',' :: rest => do
      let (second, rest) ← ident (skipWhite rest)
      .ok ((some first, second), skipWhite rest)
    | rest => .ok ((none, first), rest)
  let rest ← expect ['i', 'n'] rest
  let (collection, rest) ← spaced inner rest
  .ok ((key, value, collection), rest)

/-- A condition at the end of a comprehension. -/
def filterCondition (cs : List Char) : Except (List Char) (Option Expr × List Char) :=
  match cs with
  | 'i' :: 'f' :: rest => do
    let (e, rest) ← spaced inner rest
    .ok (some e, rest)
  | cs => .ok (none, cs)

def list (cs : List Char) : Except (List Char) (Expr × List Char) :=
  match afterKeyword? ['f', 'o', 'r'] (skipWhite cs) with
  | some rest => do
    let ((key, value, collection), rest) ← bindings inner rest
    let rest ← expect [':'] rest
    let (item, rest) ← spaced inner rest
    let (condition, rest) ← filterCondition inner rest
    .ok (.listFor key value collection item condition, ← expect [']'] rest)
  | none => do
    let ((es, _), rest) ← items inner ']' false (cs.length + 1) cs
    .ok (.list es, rest)

/-- A key of an object: a lone variable is an identifier. -/
def Key.ofExpr : Expr → Key
  | .variable name => .ident name
  | e => .expr e

def entries : Nat → List Char → Except (List Char) (List (Key × Expr) × List Char)
  | 0, cs => .error cs
  | fuel + 1, cs =>
    match skipWhite cs with
    | '}' :: rest => .ok ([], rest)
    | cs => do
      let (key, rest) ← inner false cs
      let rest ← match skipBlank rest with
        | '=' :: rest => .ok rest
        | ':' :: rest => .ok rest
        | rest => .error rest
      let (value, rest) ← inner false (skipBlank rest)
      match skipBlank rest with
      | '}' :: rest => .ok ([(Key.ofExpr key, value)], rest)
      | ',' :: rest =>
        let (es, rest) ← entries fuel rest
        .ok ((Key.ofExpr key, value) :: es, rest)
      | rest =>
        let some rest := afterLineEnd? ((afterLineComment? rest).getD rest) | .error rest
        let (es, rest) ← entries fuel rest
        .ok ((Key.ofExpr key, value) :: es, rest)

def object (cs : List Char) : Except (List Char) (Expr × List Char) :=
  match afterKeyword? ['f', 'o', 'r'] (skipWhite cs) with
  | some rest => do
    let ((key, value, collection), rest) ← bindings inner rest
    let rest ← expect [':'] rest
    let (itemKey, rest) ← spaced inner rest
    let (item, rest) ← spaced inner (← expect ['=', '>'] rest)
    let (grouped, rest) := match rest with
      | '.' :: '.' :: '.' :: rest => (true, skipWhite rest)
      | rest => (false, rest)
    let (condition, rest) ← filterCondition inner rest
    .ok (.objectFor key value collection itemKey item grouped condition, ← expect ['}'] rest)
  | none => do
    let (es, rest) ← entries inner (cs.length + 1) cs
    .ok (Expr.ofEntries es, rest)

/-! ## Templates -/

/-- The end of an interpolation or directive, and whether it has the mark to strip the white
    space after it. -/
def closing (cs : List Char) : Except (List Char) (Bool × List Char) :=
  match skipWhite cs with
  | '~' :: '}' :: rest => .ok (true, rest)
  | '}' :: rest => .ok (false, rest)
  | rest => .error rest

/-- The text after a strip mark, if there is one, and after white space. -/
def opening (cs : List Char) : Bool × List Char :=
  match cs with
  | '~' :: rest => (true, skipWhite rest)
  | rest => (false, skipWhite rest)

def interpolation (cs : List Char) : Except (List Char) (Part × List Char) := do
  let (stripBefore, rest) := opening cs
  let (e, rest) ← inner false rest
  let (stripAfter, rest) ← closing rest
  .ok (.interpolation e stripBefore stripAfter, rest)

/-- The text after a directive that is a single word. -/
def wordDirective (word : List Char) (cs : List Char) : Except (List Char) (List Char) := do
  let rest ← expect ['%', '\x7b'] cs
  let rest ← expect word (opening rest).2
  .ok (← closing rest).2

/-- A directive after its opening mark and its word `if`. -/
def ifDirective (nested : List Char → Except (List Char) (List Part × List Char)) (cs : List Char) :
    Except (List Char) (Part × List Char) := do
  let (condition, rest) ← inner false (skipWhite cs)
  let (_, rest) ← closing rest
  let (ifTrue, rest) ← nested rest
  match wordDirective ['e', 'l', 's', 'e'] rest with
  | .ok rest =>
    let (ifFalse, rest) ← nested rest
    .ok (.conditional condition ifTrue (some ifFalse), ← wordDirective ['e', 'n', 'd', 'i', 'f'] rest)
  | .error _ => .ok (.conditional condition ifTrue none, ← wordDirective ['e', 'n', 'd', 'i', 'f'] rest)

def forDirective (nested : List Char → Except (List Char) (List Part × List Char)) (cs : List Char) :
    Except (List Char) (Part × List Char) := do
  let ((key, value, collection), rest) ← bindings inner cs
  let (_, rest) ← closing rest
  let (body, rest) ← nested rest
  .ok (.loop key value collection body, ← wordDirective ['e', 'n', 'd', 'f', 'o', 'r'] rest)

/-- The parts of a template, each with its text as it is kept: literal text with its marks
    escaped, anything else as written. `literal` reads literal text; inside directives there
    are no escapes. -/
def parts : Nat → (literal : List Char → Except (List Char) (List Char × List Char)) → List Char →
    Except (List Char) (List (Part × List Char) × List Char)
  | 0, _, cs => .error cs
  | fuel + 1, literal, cs =>
    let nested (cs : List Char) : Except (List Char) (List Part × List Char) := do
      let (ps, rest) ← parts fuel (plainLiteral fun _ => false) cs
      .ok (ps.map (·.1), rest)
    let goOn (p : Part) (rest : List Char) : Except (List Char) (List (Part × List Char) × List Char) := do
      let (ps, rest') ← parts fuel literal rest
      .ok ((p, readFrom cs rest) :: ps, rest')
    match cs with
    | '$' :: '\x7b' :: rest => do
      let (p, rest) ← interpolation inner rest
      goOn p rest
    | '%' :: '\x7b' :: rest =>
      match (opening rest).2 with
      | 'i' :: 'f' :: rest => do
        let (p, rest) ← ifDirective inner nested rest
        goOn p rest
      | 'f' :: 'o' :: 'r' :: rest => do
        let (p, rest) ← forDirective inner nested rest
        goOn p rest
      | _ => .ok ([], cs)
    | cs => do
      let (text, rest) ← literal cs
      if text.isEmpty then .ok ([], cs)
      else
        let (ps, rest) ← parts fuel literal rest
        .ok ((.literal (String.ofList text), escapeMarks text) :: ps, rest)

/-- The parts of a text that is a template without escapes as a whole. -/
def wholeTemplate? (cs : List Char) : Option (List Part) :=
  match parts inner (cs.length + 1) (plainLiteral List.isEmpty) cs with
  | .ok (ps, []) => some (ps.map (·.1))
  | _ => none

/-- Whether the last character of a literal would escape the mark after it. -/
def clashes : List (Part × List Char) → Bool
  | (.literal s, _) :: (p, m :: raw) :: ps => s.toList.getLast? == some m || clashes ((p, m :: raw) :: ps)
  | _ :: ps => clashes ps
  | [] => false

/-- The template with the given parts. Where its text would be misread the text counts. -/
def templateOf (form : TemplateForm) (ps : List (Part × List Char)) : Expr :=
  let raw := ps.flatMap (·.2)
  .template form (String.ofList raw)
    (if clashes ps then wholeTemplate? inner raw else some (ps.map (·.1)))

/-- A text or template after its opening quote. -/
def quotedTemplate (cs : List Char) : Except (List Char) (Expr × List Char) := do
  let (ps, rest) ← parts inner (cs.length + 1) (fun cs => quotedLiteral (cs.length + 1) cs) cs
  let rest ← expect ['"'] rest
  match ps with
  | [] => .ok (.text "", rest)
  | [(.literal s, _)] => .ok (.text s, rest)
  | ps => .ok (templateOf inner .quoted ps, rest)

/-! ### Heredocs -/

/-- The last line of a heredoc: the line end before it, and the text after its delimiter. -/
def afterDelimiter? (delimiter cs : List Char) : Option (List Char × List Char) := do
  let rest ← afterLineEnd? cs
  let after ← Text.afterMark? delimiter (rest.dropWhile fun c => c == ' ' || c == '\t')
  some (readFrom cs rest, after)

/-- Number of white space characters that a line starts with. -/
def indentation (line : List Char) : Nat := (line.takeWhile Text.isBlank).length

/-- Lines of a literal that start a line of the heredoc; `midLine` says that the first does not. -/
def fullLines (midLine : Bool) (text : List Char) : List (List Char) :=
  (Text.lines text).drop (if midLine then 1 else 0)

/-- Whether an interpolation or directive starts a line; `atStart` says whether the first part
    does. -/
def startsLine (atStart : Bool) : List Part → Bool
  | [] => false
  | .literal s :: ps => startsLine (s.toList.getLast? == some '\n') ps
  | _ :: ps => atStart || startsLine false ps

def indentations (midLine : Bool) : List Part → List Nat
  | [] => []
  | .literal s :: ps => ((fullLines midLine s.toList).filter (!·.isEmpty)).map indentation ++ indentations true ps
  | _ :: ps => indentations true ps

/-- The indentation that all lines have in common; none where there is nothing to remove. -/
def commonIndentation? (ps : List Part) : Option Nat :=
  if startsLine true ps then none
  else
    match (indentations false ps).min? with
    | some 0 => none
    | n => n

/-- A literal with `n` characters less at the start of each line. -/
def dedentText (n : Nat) (midLine : Bool) (text : List Char) : List Char :=
  let ls := Text.lines text
  let first := if midLine then ls.take 1 else []
  let rest := (if midLine then ls.drop 1 else ls).map (·.drop n)
  Text.joinLines (first ++ rest) ++ if text.getLast? = some '\n' then ['\n'] else []

/-- The parts with `n` characters less at the start of each line. -/
def dedent (n : Nat) (midLine : Bool) : List (Part × List Char) → List (Part × List Char)
  | [] => []
  | (.literal s, _) :: ps =>
    let text := dedentText n midLine s.toList
    (.literal (String.ofList text), escapeMarks text) :: dedent n true ps
  | p :: ps => p :: dedent n true ps

def addLineEnd (lineEnd : List Char) : List (Part × List Char) → List (Part × List Char)
  | [] => [(.literal (String.ofList lineEnd), lineEnd)]
  | [(.literal s, raw)] => [(.literal (s ++ String.ofList lineEnd), raw ++ lineEnd)]
  | p :: ps => p :: addLineEnd lineEnd ps

def heredoc (cs : List Char) : Except (List Char) (Expr × List Char) := do
  let (indented, rest) := match cs with
    | '-' :: rest => (true, rest)
    | rest => (false, rest)
  let (delimiter, rest) ← ident rest
  let some content := afterLineEnd? rest | .error rest
  let ends (cs : List Char) := (afterDelimiter? delimiter.toList cs).isSome
  let body : Option (List (Part × List Char) × List Char) := do
    let (ps, rest) ← (parts inner (content.length + 1) (plainLiteral ends) content).toOption
    let (lineEnd, rest) ← afterDelimiter? delimiter.toList rest
    some (addLineEnd lineEnd ps, rest)
  match body with
  | some (ps, rest) =>
    match if indented then commonIndentation? (ps.map (·.1)) else none with
    | some n => .ok (templateOf inner (.heredoc true delimiter) (dedent n false ps), rest)
    | none => .ok (templateOf inner (.heredoc false delimiter) ps, rest)
  | none =>
    let rest ← expect delimiter.toList (content.dropWhile fun c => c == ' ' || c == '\t')
    .ok (.template (.heredoc false delimiter) "" (some []), rest)

/-! ## Terms and operators -/

/-- A variable, a word with a meaning, or a call. -/
def named (newlines : Bool) (cs : List Char) : Except (List Char) (Expr × List Char) := do
  let (name, rest) ← ident cs
  match skip newlines rest with
  | '(' :: rest =>
    let ((args, expandLast), rest) ← items inner ')' true (rest.length + 1) rest
    .ok (.call name args expandLast, rest)
  | _ =>
    match name with
    | "null" => .ok (.null, rest)
    | "true" => .ok (.bool true, rest)
    | "false" => .ok (.bool false, rest)
    | name => .ok (.variable name, rest)

def term (newlines : Bool) (cs : List Char) : Except (List Char) (Expr × List Char) :=
  match cs with
  | '"' :: rest => quotedTemplate inner rest
  | '[' :: rest => list inner rest
  | '\x7b' :: rest => object inner rest
  | '(' :: rest => do
    let (e, rest) ← inner true (skipWhite rest)
    .ok (.paren e, ← expect [')'] (skipWhite rest))
  | '<' :: '<' :: rest => heredoc inner rest
  | c :: _ =>
    if Text.isDigit c then do
      let (n, rest) ← number cs
      .ok (.number n, rest)
    else named inner newlines cs
  | [] => .error []

def applied (op : Option UnaryOp) (e : Expr) : Expr :=
  match op with
  | some op => .unary op e
  | none => e

/-- A term with the operators before it. A minus sign before digits belongs to the number. -/
def operand (newlines : Bool) : Nat → Option UnaryOp → List Char → Except (List Char) (Expr × List Char)
  | 0, _, cs => .error cs
  | fuel + 1, op, cs =>
    match cs with
    | '!' :: rest => operand newlines fuel (some .not) (skip newlines rest)
    | '-' :: rest =>
      let digits := skipBlank rest
      if (digits.head?.map Text.isDigit).getD false then do
        let (n, rest) ← number digits
        .ok (applied op (.number n.negated), rest)
      else operand newlines fuel (some .negate) (skip newlines rest)
    | cs => do
      let (e, rest) ← term inner newlines cs
      .ok (applied op e, rest)

def path (newlines : Bool) : Nat → List Char → Except (List Char) (List Access × List Char)
  | 0, cs => .error cs
  | fuel + 1, cs =>
    match skip newlines cs with
    | '.' :: rest =>
      match skip newlines rest with
      | '*' :: rest => do
        let (as, rest) ← path newlines fuel rest
        .ok (.attributeSplat :: as, rest)
      | rest =>
        let (digits, after) := Text.digitRun rest
        if digits.isEmpty then do
          let (name, rest) ← ident rest
          let (as, rest) ← path newlines fuel rest
          .ok (.attribute name :: as, rest)
        else if Text.natOfDigits digits < UInt64.size then do
          let (as, rest) ← path newlines fuel after
          .ok (.position (Text.natOfDigits digits) :: as, rest)
        else .error rest
    | '[' :: rest =>
      match skipWhite rest with
      | '*' :: rest => do
        let rest ← expect [']'] (skipWhite rest)
        let (as, rest) ← path newlines fuel rest
        .ok (.splat :: as, rest)
      | rest => do
        let (e, rest) ← spaced inner rest
        let rest ← expect [']'] rest
        let (as, rest) ← path newlines fuel rest
        .ok (.index e :: as, rest)
    | _ => .ok ([], cs)

/-- An operator between two operands. A slash that opens a comment is none. -/
def binaryOp? : List Char → Option (BinaryOp × List Char)
  | '=' :: '=' :: cs => some (.equal, cs)
  | '!' :: '=' :: cs => some (.unequal, cs)
  | '<' :: '=' :: cs => some (.atMost, cs)
  | '>' :: '=' :: cs => some (.atLeast, cs)
  | '<' :: cs => some (.less, cs)
  | '>' :: cs => some (.greater, cs)
  | '+' :: cs => some (.plus, cs)
  | '-' :: cs => some (.minus, cs)
  | '*' :: cs => some (.times, cs)
  | '/' :: '/' :: _ => none
  | '/' :: '*' :: _ => none
  | '/' :: cs => some (.divide, cs)
  | '%' :: cs => some (.modulo, cs)
  | '&' :: '&' :: cs => some (.and, cs)
  | '|' :: '|' :: cs => some (.or, cs)
  | _ => none

/-- What an operand goes on with: another operand, the branches of a conditional, or nothing. -/
def continuation (newlines : Bool) (e : Expr) (cs : List Char) : Except (List Char) (Expr × List Char) :=
  match skip newlines cs with
  | '?' :: rest => do
    let (ifTrue, rest) ← inner newlines (skip newlines rest)
    let rest ← expect [':'] (skip newlines rest)
    let (ifFalse, rest) ← inner newlines (skip newlines rest)
    .ok (.conditional e ifTrue ifFalse, rest)
  | after =>
    match binaryOp? after with
    | some (op, rest) => do
      let (right, rest) ← inner newlines (skip newlines rest)
      .ok (.binary op e right, rest)
    | none => .ok (e, cs)

/-- An expression, nested ones read by `inner`. Two dots after an operand start no step. -/
def exprWith (newlines : Bool) (cs : List Char) : Except (List Char) (Expr × List Char) := do
  let (e, rest) ← operand inner newlines (cs.length + 1) none cs
  match skip newlines rest with
  | '.' :: '.' :: _ => .ok (e, rest)
  | _ =>
    let (steps, rest) ← path inner newlines (rest.length + 1) rest
    continuation inner newlines (if steps.isEmpty then e else .access e steps) rest

end

/-- An expression in which others are nested less than `depth` deep. -/
def exprAt : Nat → Bool → List Char → Except (List Char) (Expr × List Char)
  | 0, _, cs => .error cs
  | depth + 1, newlines, cs => exprWith (exprAt depth) newlines cs

/-- An expression that ends with the line, and the rest of the text. -/
def expr (cs : List Char) : Except (List Char) (Expr × List Char) := exprAt (cs.length + 1) false cs

/-- The expression that a text consists of, nothing before or after it. -/
def Expr.read? (text : String) : Option Expr :=
  match expr text.toList with
  | .ok (e, []) => some e
  | _ => none

end TagAudit.Hcl
