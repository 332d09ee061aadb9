/-
  TagAudit.Standard.ValueCheck — checking the value of a tag against its spec.

  A value is checked in turn for its data type, its format, whether it is one of the allowed
  values, and its length.
-/

import TagAudit.Regex.Reader
import TagAudit.Standard.Basic

namespace TagAudit

namespace DataType

/-- Characters before the `@` of an address. -/
def isMailboxChar (c : Char) : Bool := c.isAlphanum || c == '.' || c == '_' || c == '%' || c == '+' || c == '-'

/-- Characters of the name of a host. -/
def isHostChar (c : Char) : Bool := c.isAlphanum || c == '.' || c == '-'

/-- A mailbox, an `@`, and a host whose last part is two letters or more. -/
def isEmail (cs : List Char) : Bool :=
  let mailbox := cs.takeWhile (· != '@')
  match cs.dropWhile (· != '@') with
  | '@' :: host =>
    let last := host.reverse.takeWhile (· != '.')
    let before := (host.reverse.drop last.length).drop 1
    !mailbox.isEmpty && mailbox.all isMailboxChar && 2 ≤ last.length && last.all Char.isAlpha &&
      !before.isEmpty && before.all isHostChar
  | _ => false

/-- A scheme, a character that can start a host, any other, and no white space from there on. -/
def isUrl (cs : List Char) : Bool :=
  let after := (Text.afterMark? "https://".toList cs).or (Text.afterMark? "http://".toList cs)
  match after with
  | some (a :: b :: rest) =>
    !(Text.isBlank a || a == '/' || a == '$' || a == '.' || a == '?' || a == '#') && b != '\n' &&
      !rest.any Text.isBlank
  | _ => false

def isDecimal (c : Char) : Bool := CharClass.digits.contains c.toNat

/-- Four digits, two and two, with hyphens between them; whether there is such a day does not
    matter. -/
def isDate : List Char → Bool
  | [a, b, c, d, '-', e, f, '-', g, h] => [a, b, c, d, e, f, g, h].all isDecimal
  | _ => false

def isScheduleChar (c : Char) : Bool :=
  c.isAlphanum || c == '*' || c == '?' || c == '/' || c == ',' || c == '-' || c == '#'

/-- Five or six fields. -/
def isCron (cs : List Char) : Bool :=
  let fields := Text.words cs
  (fields.length == 5 || fields.length == 6) && fields.all (·.all isScheduleChar)

/-- Whether a value is of the type. -/
def admits (t : DataType) (value : String) : Bool :=
  let cs := value.toList
  match t with
  | .string => true
  | .numeric => !cs.isEmpty && cs.all Text.isDigit
  | .alphanumeric => !cs.isEmpty && cs.all Char.isAlphanum
  | .email => isEmail cs
  | .url => isUrl cs
  | .date => isDate cs
  | .boolean => Text.lowercase value == "true" || Text.lowercase value == "false"
  | .cron => isCron cs

end DataType

inductive CheckFailure where
  | dataType (t : DataType)
  | format (pattern : String)
  | allowed (values : List String)
  | tooLong (most : Nat)
  | tooShort (least : Nat)
  deriving DecidableEq, Repr, Inhabited

namespace CheckFailure

def expected : CheckFailure → String
  | .dataType t => t.name
  | .format pattern => pattern
  | .allowed values => "one of: " ++ String.intercalate ", " values
  | .tooLong most => "maximum " ++ Number.integerText most ++ " characters"
  | .tooShort least => "minimum " ++ Number.integerText least ++ " characters"

/-- What is wrong, to go after the value. -/
def detail : CheckFailure → String
  | .dataType t => "has invalid data type: expected " ++ t.name
  | .format _ => "does not match required format"
  | .allowed _ => "is not in allowed values"
  | .tooLong most => "is too long (maximum " ++ Number.integerText most ++ " characters)"
  | .tooShort least => "is too short (minimum " ++ Number.integerText least ++ " characters)"

end CheckFailure

namespace TagSpec

def sameValue (s : TagSpec) (a b : String) : Bool :=
  if s.caseSensitive then a == b else Text.lowercase a == Text.lowercase b

def checkDataType (s : TagSpec) (value : String) : List CheckFailure :=
  match s.dataType with
  | some t => if t.admits value then [] else [.dataType t]
  | none => []

/-- `pattern` is the format of the spec, ready to be matched. -/
def checkFormat (s : TagSpec) (pattern : Option Regex) (value : String) : List CheckFailure :=
  match pattern, s.pattern with
  | some r, some source => if r.matchesIn value then [] else [.format source]
  | _, _ => []

def checkAllowed (s : TagSpec) (value : String) : List CheckFailure :=
  if s.allowedValues.isEmpty || s.allowedValues.any (s.sameValue · value) then [] else [.allowed s.allowedValues]

def checkLength (s : TagSpec) (value : String) : List CheckFailure :=
  let tooLong := match s.maxLength with
    | some most => if most.toNat < value.length then [.tooLong most.toNat] else []
    | none => []
  let tooShort := match s.minLength with
    | some least => if value.length < least.toNat then [.tooShort least.toNat] else []
    | none => []
  tooLong ++ tooShort

/-- The rules that a value breaks, in the order in which they are checked. -/
def check (s : TagSpec) (pattern : Option Regex) (value : String) : List CheckFailure :=
  s.checkDataType value ++ s.checkFormat pattern value ++ s.checkAllowed value ++ s.checkLength value

end TagSpec
end TagAudit
