/-
  TagAudit.Compliance.Glob — patterns for types of resources.

  In a pattern `*` matches any sequence of characters on one line, and every other character
  matches itself. The whole type has to match.
-/

import TagAudit.Regex.Basic

namespace TagAudit.Glob

def element (c : Char) : Regex :=
  if c = '*' then .repetition (.set (.complement (.single '\n'))) 0 none else .set (.single c)

def regex (pattern : String) : Regex :=
  .concat (.assertion .textStart :: (pattern.toList.map element ++ [.assertion .textEnd]))

def isMatch (pattern type : String) : Bool := (regex pattern).matchesIn type

end TagAudit.Glob
