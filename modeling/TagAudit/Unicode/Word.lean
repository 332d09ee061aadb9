/-
  TagAudit.Unicode.Word — the characters that words consist of.
-/

import TagAudit.Unicode.Category
import TagAudit.Unicode.Property

namespace TagAudit.Unicode

/-- Letters, marks, digits, connecting punctuation and joiners. -/
def wordSet : CodeSet :=
  alphabetic ++ ["Mn", "Mc", "Me", "Nd", "Pc"].flatMap category ++ property "Join_Control"

def isWordChar (c : Char) : Bool :=
  if c.toNat < 128 then c.isAlphanum || c == '_' else wordSet.contains c.toNat

end TagAudit.Unicode
