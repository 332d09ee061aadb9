/-
  TagAudit.Json.Basic — JSON values.

  An object is a list of members in order. `sorted` puts the members of every object in the
  order of their keys.
-/

import TagAudit.Number
import TagAudit.OrderedMap

namespace TagAudit

inductive Json where
  | null
  | bool (b : Bool)
  | number (n : Number)
  | str (s : String)
  | arr (items : List Json)
  | obj (members : List (String × Json))
  deriving Inhabited

namespace Json

/-- Inserts a member at the place of its key. -/
def insertSorted (key : String) (value : Json) : List (String × Json) → List (String × Json)
  | [] => [(key, value)]
  | (k, v) :: ms =>
    if key < k then (key, value) :: (k, v) :: ms
    else if key = k then (key, value) :: ms
    else (k, v) :: insertSorted key value ms

mutual
def sorted : Json → Json
  | .arr items => .arr (sortedItems items)
  | .obj members => .obj (sortedMembers members [])
  | j => j
def sortedItems : List Json → List Json
  | [] => []
  | j :: js => j.sorted :: sortedItems js
def sortedMembers : List (String × Json) → List (String × Json) → List (String × Json)
  | [], done => done
  | (k, v) :: ms, done => sortedMembers ms (insertSorted k v.sorted done)
end

def member? : Json → String → Option Json
  | .obj members, key => OrderedMap.get? members key
  | _, _ => none

/-- A member that is left out when there is nothing to say. -/
def optional (key : String) (value : Option Json) : List (String × Json) :=
  match value with
  | some v => [(key, v)]
  | none => []

def ofStrings (ss : List String) : Json := .arr (ss.map .str)

def ofNat (n : Nat) : Json := .number (.integer n)

def ofString? : Option String → Json
  | some s => .str s
  | none => .null

end Json
end TagAudit
