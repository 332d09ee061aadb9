/-
  TagAudit.CommandLine.Arguments — reading the arguments of a command.

  An option has a long name after two hyphens and perhaps a letter after one. Its value is
  joined to the name by an equals sign, follows the letter at once, or is the next argument,
  which then must not look like an option. Arguments after `--` are no options.
-/

import TagAudit.Text.Blank

namespace TagAudit.CommandLine

inductive Halt where
  | help
  | version
  | misuse
  deriving DecidableEq, Repr, Inhabited

inductive Arity where
  /-- An option without value, which may stand once. -/
  | flag
  /-- An option with a value, which may stand once. -/
  | once
  /-- An option with a value, which may stand several times. -/
  | many
  deriving DecidableEq, Repr, Inhabited

structure OptionSpec where
  name : String
  letter : Option Char
  arity : Arity
  /-- Whether a value is one that the option can have. -/
  isValid : String → Bool

structure Arguments where
  /-- The options that are set, in order, with their values; a flag has an empty one. -/
  options : List (String × String)
  /-- The arguments that belong to no option. -/
  positionals : List String
  deriving Inhabited

namespace Arguments

def none : Arguments := ⟨[], []⟩

def isSet (a : Arguments) (name : String) : Bool := a.options.any (·.1 == name)

/-- The values of an option that may stand several times. -/
def valuesOf (a : Arguments) (name : String) : List String := (a.options.filter (·.1 == name)).map (·.2)

def valueOf? (a : Arguments) (name : String) : Option String := (a.valuesOf name).head?

def set (a : Arguments) (o : OptionSpec) (value : String) : Except Halt Arguments :=
  if !o.isValid value || (o.arity ≠ .many && a.isSet o.name) then .error .misuse
  else .ok { a with options := a.options ++ [(o.name, value)] }

end Arguments

structure Signature where
  options : List OptionSpec
  /-- How many arguments may belong to no option. -/
  positionals : Nat
  isValidPositional : String → Bool
  /-- Whether the version can be asked for. -/
  hasVersion : Bool

def Signature.addPositional (s : Signature) (a : Arguments) (arg : String) : Except Halt Arguments :=
  if a.positionals.length < s.positionals ∧ s.isValidPositional arg then
    .ok { a with positionals := a.positionals ++ [arg] }
  else .error .misuse

/-- Whether an argument can be a value of its own: only a single hyphen may start with one. -/
def isValue (arg : String) : Bool := arg = "-" || !Text.startsWith arg.toList ['-']

inductive OptionMark where
  | long (name : String) (value : Option String)
  | short (letter : Char) (value : Option String)

def OptionMark.of? (arg : String) : Option OptionMark :=
  match arg.toList with
  | '-' :: '-' :: rest =>
    match Text.splitAtMark? ['='] rest with
    | some (name, value) => some (.long (String.ofList name) (some (String.ofList value)))
    | none => some (.long (String.ofList rest) none)
  | '-' :: letter :: rest =>
    some (.short letter (match rest with
      | [] => none
      | '=' :: value => some (String.ofList value)
      | value => some (String.ofList value)))
  | _ => none

inductive OptionUse where
  | spec (o : OptionSpec)
  | halt (h : Halt)

namespace OptionMark

def value? : OptionMark → Option String
  | .long _ value => value
  | .short _ value => value

def use (s : Signature) : OptionMark → OptionUse
  | .long name value =>
    match s.options.find? (·.name == name) with
    | some o => .spec o
    | none =>
      if name = "help" ∧ value.isNone then .halt .help
      else if name = "version" ∧ s.hasVersion ∧ value.isNone then .halt .version
      else .halt .misuse
  | .short letter _ =>
    match s.options.find? (·.letter == some letter) with
    | some o => .spec o
    | none => .halt (if letter = 'h' then .help else if letter = 'V' ∧ s.hasVersion then .version else .misuse)

end OptionMark

/-- Sorts out arguments up to the first for which `stop` holds where an option or positional
    argument may start; the rest comes with the answer. -/
def Signature.sort (s : Signature) (stop : String → Bool) :
    Arguments → List String → Except Halt (Arguments × List String)
  | a, [] => .ok (a, [])
  | a, arg :: args =>
    if stop arg then .ok (a, arg :: args)
    else if arg = "--" then do .ok (← args.foldlM s.addPositional a, [])
    else if isValue arg then do s.sort stop (← s.addPositional a arg) args
    else
      match OptionMark.of? arg with
      | none => .error .misuse
      | some mark =>
        match mark.use s with
        | .halt h => .error h
        | .spec o =>
          match o.arity, mark.value?, args with
          | .flag, none, args => do s.sort stop (← a.set o "") args
          | .flag, some _, _ => .error .misuse
          | _, some value, args => do s.sort stop (← a.set o value) args
          | _, none, value :: args =>
            if isValue value then do s.sort stop (← a.set o value) args else .error .misuse
          | _, none, [] => .error .misuse

end TagAudit.CommandLine
