/-
  TagAudit.Yaml.Document — the document that a YAML text holds.

  `Document.ofText?` reads a text of exactly one document. The readers take tokens in order
  from the state; a node ends where the collection around it goes on.
-/

import TagAudit.Yaml.Node
import TagAudit.Yaml.Token

namespace TagAudit.Yaml

/-- The state while a document is read. -/
structure Reading where
  tokens : List Token
  /-- What the handles of tags stand for. -/
  handles : List (String × List UInt8)
  /-- The names of anchors with the numbers that aliases refer to. -/
  names : List (String × Nat)
  anchored : Array (Nat × Node)

abbrev Read := StateT Reading Option

namespace Read

def peek : Read Token := do return (← get).tokens.headD .streamEnd

def skip : Read PUnit := modify fun r => { r with tokens := r.tokens.drop 1 }

def accept (p : Token → Bool) : Read Bool := do
  if p (← peek) then
    skip
    return true
  else return false

def expect (p : Token → Bool) : Read PUnit := do
  if !(← accept p) then failure

/-! ## Anchors and tags -/

/-- Gives a node that starts here the name of an anchor; the node is put in its place later. -/
def enter (name : Option String) : Read (Option Nat) :=
  match name with
  | none => return none
  | some name => modifyGet fun r =>
    let number := r.names.length
    (some r.anchored.size,
      { r with
        names := (name, number) :: r.names.filter (·.1 != name)
        anchored := r.anchored.push (number, default) })

def leave (place : Option Nat) (node : Node) : Read Node := do
  if let some i := place then
    modify fun r => { r with anchored := r.anchored.modify i fun (number, _) => (number, node) }
  return node

/-- The text of a tag. Bytes that are no text leave a tag that says nothing. -/
def tagText (tag : TagName) : Read String := do
  let text (bytes : List UInt8) := (String.fromUTF8? ⟨bytes.toArray⟩).getD "\ufffd"
  if tag.handle = "" then return text tag.suffix
  else
    match (← get).handles.lookup tag.handle with
    | some stem => return text (stem ++ tag.suffix)
    | none => failure

/-- The anchor and the tag before a node, each at most once and in either order. -/
def properties : Read (Option String × Option String) := do
  let anchor? : Read (Option String) := do
    match ← peek with
    | .anchor name => do
      skip
      return some name
    | _ => return none
  let tag? : Read (Option TagName) := do
    match ← peek with
    | .tag name => do
      skip
      return some name
    | _ => return none
  let first ← anchor?
  let tag ← tag?
  let anchor ← if first.isNone && tag.isSome then anchor? else pure first
  match tag with
  | some tag => return (anchor, some (← tagText tag))
  | none => return (anchor, none)

/-! ## Nodes -/

/-- The tokens at which a node is left out: an entry that starts or a collection that ends. -/
def endsEntry : Token → Bool
  | .blockEntry | .blockEnd => true
  | _ => false

def endsKey : Token → Bool
  | .key | .value | .blockEnd => true
  | _ => false

def endsEntryOfKey : Token → Bool
  | .blockEntry | .key | .value | .blockEnd => true
  | _ => false

def endsItem : Token → Bool
  | .flowEntry | .flowSequenceEnd => true
  | _ => false

def endsMember : Token → Bool
  | .flowEntry | .flowMappingEnd => true
  | _ => false

def isValue : Token → Bool
  | .value => true
  | _ => false

def isKey : Token → Bool
  | .key => true
  | _ => false

def isBlockEntry : Token → Bool
  | .blockEntry => true
  | _ => false

def isBlockEnd : Token → Bool
  | .blockEnd => true
  | _ => false

def isFlowEntry : Token → Bool
  | .flowEntry => true
  | _ => false

def isFlowSequenceEnd : Token → Bool
  | .flowSequenceEnd => true
  | _ => false

def isFlowMappingEnd : Token → Bool
  | .flowMappingEnd => true
  | _ => false

/-- Where a node stands: in a block, in a block as key or value of a mapping (where a sequence
    need not be indented), or inside brackets. -/
inductive Place where
  | block
  | blockMember
  | flow
  deriving DecidableEq

def missing (anchor tag : Option String) : Read Node := do
  if anchor.isNone && tag.isNone then failure else leave (← enter anchor) (.missing tag)

mutual

def node (fuel : Nat) (place : Place) : Read Node :=
  match fuel with
  | 0 => failure
  | fuel + 1 => do
    if let .alias name ← peek then
      skip
      match (← get).names.lookup name with
      | some number => return .alias number
      | none => failure
    else
      let (anchor, tag) ← properties
      let collection (more : Read Node) : Read Node := do
        let entered ← enter anchor
        leave entered (← more)
      match ← peek with
      | .scalar s => do
        skip
        leave (← enter anchor) (.scalar tag s)
      | .flowSequence => do
        skip
        collection (return .sequence (← flowItems fuel true #[]))
      | .flowMapping => do
        skip
        collection (return .mapping (← flowMembers fuel true #[]))
      | .blockEntry =>
        if place = .blockMember then collection (return .sequence (← plainEntries fuel #[]))
        else missing anchor tag
      | .blockSequence =>
        if place = .flow then missing anchor tag
        else do
          skip
          collection (return .sequence (← blockEntries fuel #[]))
      | .blockMapping =>
        if place = .flow then missing anchor tag
        else do
          skip
          collection (return .mapping (← blockMembers fuel #[]))
      | _ => missing anchor tag

/-- A node, or none at a token at which one is left out. -/
def nodeUnless (fuel : Nat) (ends : Token → Bool) (place : Place) : Read Node :=
  match fuel with
  | 0 => failure
  | fuel + 1 => do if ends (← peek) then return .missing none else node fuel place

def blockEntries (fuel : Nat) (done : Array Node) : Read (List Node) :=
  match fuel with
  | 0 => failure
  | fuel + 1 => do
    if ← accept isBlockEntry then
      let item ← nodeUnless fuel endsEntry .block
      blockEntries fuel (done.push item)
    else
      expect isBlockEnd
      return done.toList

/-- The entries of a block sequence that is not indented. -/
def plainEntries (fuel : Nat) (done : Array Node) : Read (List Node) :=
  match fuel with
  | 0 => failure
  | fuel + 1 => do
    if ← accept isBlockEntry then
      let item ← nodeUnless fuel endsEntryOfKey .block
      plainEntries fuel (done.push item)
    else return done.toList

/-- The keys and values of a block mapping. -/
def blockMembers (fuel : Nat) (done : Array (Node × Node)) : Read (List (Node × Node)) :=
  match fuel with
  | 0 => failure
  | fuel + 1 => do
    if ← accept isKey then
      let key ← nodeUnless fuel endsKey .blockMember
      let value ← if ← accept isValue then nodeUnless fuel endsKey .blockMember else pure (.missing none)
      blockMembers fuel (done.push (key, value))
    else
      expect isBlockEnd
      return done.toList

/-- The items of a sequence in brackets; an item with a colon is a mapping of one member. -/
def flowItems (fuel : Nat) (isFirst : Bool) (done : Array Node) : Read (List Node) :=
  match fuel with
  | 0 => failure
  | fuel + 1 => do
    if ← accept isFlowSequenceEnd then return done.toList
    else
      if !isFirst then expect isFlowEntry
      if ← accept isFlowSequenceEnd then return done.toList
      else if ← accept isKey then
        let key ←
          if isValue (← peek) || endsItem (← peek) then
            skip
            pure (.missing none)
          else node fuel .flow
        let value ← if ← accept isValue then nodeUnless fuel endsItem .flow else pure (.missing none)
        flowItems fuel false (done.push (.mapping [(key, value)]))
      else
        let item ← node fuel .flow
        flowItems fuel false (done.push item)

/-- The members of a mapping in braces; one without a colon has no value. -/
def flowMembers (fuel : Nat) (isFirst : Bool) (done : Array (Node × Node)) : Read (List (Node × Node)) :=
  match fuel with
  | 0 => failure
  | fuel + 1 => do
    if ← accept isFlowMappingEnd then return done.toList
    else
      if !isFirst then expect isFlowEntry
      if ← accept isFlowMappingEnd then return done.toList
      else if ← accept isKey then
        let key ← nodeUnless fuel (fun t => isValue t || endsMember t) .flow
        let value ← if ← accept isValue then nodeUnless fuel endsMember .flow else pure (.missing none)
        flowMembers fuel false (done.push (key, value))
      else
        let key ← node fuel .flow
        flowMembers fuel false (done.push (key, .missing none))

end

/-! ## Documents -/

/-- The directives before a document: one version at most, which must be known, and no handle
    twice. -/
def directives : List Token → (version : Bool) → List (String × List UInt8) →
    Option (List (String × List UInt8) × List Token)
  | .directive (.version major minor) :: ts, version, handles =>
    if version || major != 1 || (minor != 1 && minor != 2) then none else directives ts true handles
  | .directive (.handle name stem) :: ts, version, handles =>
    if (handles.lookup name).isSome then none else directives ts version ((name, stem) :: handles)
  | ts, _, handles => some (handles, ts)

/-- What handles stand for unless directives say otherwise. -/
def usualHandles : List (String × List UInt8) := [("!", utf8 ['!']), ("!!", utf8 "tag:yaml.org,2002:".toList)]

def endsDocument : Token → Bool
  | .directive _ | .documentStart | .documentEnd | .streamEnd => true
  | _ => false

def document (fuel : Nat) : Read Document := do
  let (handles, tokens) ← directives (← get).tokens false []
  let isBare := handles.isEmpty && tokens.length = (← get).tokens.length
  set { ← get with tokens, handles := handles ++ usualHandles }
  let root ←
    match ← peek with
    | .documentStart => do
      skip
      nodeUnless fuel endsDocument .block
    | .streamEnd => failure
    | _ => if isBare then node fuel .block else failure
  return ⟨root, (← get).anchored.toList⟩

end Read

/-- The document of a text with exactly one. -/
def Document.ofText? (cs : List Char) : Option Document := do
  let tokens ← Token.ofText? cs
  let (d, r) ← (Read.document (4 * tokens.length + 4)).run ⟨tokens, [], [], #[]⟩
  match r.tokens.dropWhile fun | .documentEnd => true | _ => false with
  | [.streamEnd] => some d
  | _ => none

end TagAudit.Yaml
