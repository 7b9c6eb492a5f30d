import GrantGate.Yaml.Layout

namespace GrantGate.Yaml

/-- The tree of a document. An anchor gives the node that it stands in front of a number, by which
aliases name it. -/
inductive Node where
  | scalar (s : Scalar)
  | items (xs : List Node)
  | members (ms : List (Node × Node))
  | alias (number : Nat)
  deriving Repr, Inhabited

/-- A document, with the nodes that its aliases name. -/
structure Document where
  root : Node
  targets : List (Nat × Node)

structure Reading where
  tokens : List Token
  handles : Handles := []
  /-- The number of each name that an anchor has given. -/
  numbers : List (String × Nat) := []
  /-- The numbers given, the last first. -/
  given : List Nat := []
  /-- The nodes behind anchors, under the count of anchors in front of theirs. -/
  anchored : List (Nat × Node) := []

abbrev Reader := StateT Reading Option

namespace Reader

def peek : Reader (Option Token) := return (← get).tokens.head?

def skip : Reader Unit := modify fun r => { r with tokens := r.tokens.tail }

def accept (t : Token) : Reader Bool := do
  if (← peek) = some t then
    skip
    return true
  else return false

def expect (t : Token) : Reader Unit := do if !(← accept t) then failure

def isAt (ts : List Token) : Reader Bool := return (← peek).any ts.contains

end Reader

open Reader

structure Properties where
  anchor : Option String := none
  tag : Option String := none

def takeAnchor : Reader (Option String) := do
  match ← peek with
  | some (.anchor name) =>
    skip
    return some name
  | _ => return none

def takeTag : Reader (Option String) := do
  match ← peek with
  | some (.tag t) =>
    skip
    return some (← t.resolve? (← get).handles)
  | _ => return none

def takeProperties : Reader Properties := do
  let tag ← takeTag
  let anchor ← takeAnchor
  let tag ← if tag.isSome then pure tag else takeTag
  return ⟨anchor, tag⟩

/-- Gives an anchor the number of names given before, and the count of its place. A name that is
given again gets a new number, which the next new name gets too. -/
def register : Option String → Reader (Option Nat)
  | none => return none
  | some name => do
    let r ← get
    let number := r.numbers.length
    set { r with
      numbers := (name, number) :: r.numbers.filter fun (other, _) => other != name
      given := number :: r.given }
    return some r.given.length

def note (place : Option Nat) (x : Node) : Reader Node := do
  if let some place := place then modify fun r => { r with anchored := (place, x) :: r.anchored }
  return x

def numberOf (name : String) : Reader Nat := do (← get).numbers.lookup name

def nothing : Node := .scalar .nothing

mutual

/-- Reads a node, which is a block collection only where one may stand. A list under a key need not
be indented. -/
def readNode : Nat → (inBlock underKey : Bool) → Reader Node
  | 0, _, _ => failure
  | fuel + 1, inBlock, underKey => do
    if let some (.alias name) ← peek then
      skip
      return .alias (← numberOf name)
    let p ← takeProperties
    let place ← register p.anchor
    note place (← readContent fuel inBlock underKey p)

/-- Reads a node behind its properties. A scalar may be left out behind them. -/
def readContent : Nat → (inBlock underKey : Bool) → Properties → Reader Node
  | 0, _, _, _ => failure
  | fuel + 1, inBlock, underKey, p => do
    match ← peek, inBlock with
    | some (.scalar s), _ =>
      skip
      return .scalar { s with tag := p.tag.filter (· != "!") }
    | some .flowListStart, _ =>
      skip
      return .items (← readFlowItems fuel true)
    | some .flowMapStart, _ =>
      skip
      return .members (← readFlowMembers fuel true)
    | some .listStart, true =>
      skip
      return .items (← readItems fuel)
    | some .mapStart, true =>
      skip
      return .members (← readMembers fuel)
    | t, _ =>
      if underKey && t == some .item then return .items (← readLooseItems fuel)
      else if p.anchor.isSome || p.tag.isSome then
        return .scalar { Scalar.nothing with tag := p.tag }
      else failure

def readNodeUnless : Nat → (inBlock underKey : Bool) → List Token → Reader Node
  | 0, _, _, _ => failure
  | fuel + 1, inBlock, underKey, ts => do
    if ← isAt ts then return nothing else readNode fuel inBlock underKey

def readItems : Nat → Reader (List Node)
  | 0 => failure
  | fuel + 1 => do
    if ← accept .blockEnd then return []
    expect .item
    let x ← readNodeUnless fuel true false [.item, .blockEnd]
    return x :: (← readItems fuel)

/-- Reads the rest of a list that is not indented. -/
def readLooseItems : Nat → Reader (List Node)
  | 0 => failure
  | fuel + 1 => do
    if !(← accept .item) then return []
    let x ← readNodeUnless fuel true false [.item, .key, .value, .blockEnd]
    return x :: (← readLooseItems fuel)

def readMembers : Nat → Reader (List (Node × Node))
  | 0 => failure
  | fuel + 1 => do
    if ← accept .blockEnd then return []
    expect .key
    let k ← readNodeUnless fuel true true [.key, .value, .blockEnd]
    let x ← readValueUnless fuel true [.key, .value, .blockEnd]
    return (k, x) :: (← readMembers fuel)

/-- Reads a value behind its colon, or nothing if there is none or one of some tokens follows it. -/
def readValueUnless : Nat → (inBlock : Bool) → List Token → Reader Node
  | 0, _, _ => failure
  | fuel + 1, inBlock, ts => do
    if ← accept .value then readNodeUnless fuel inBlock inBlock ts else return nothing

/-- Reads the rest of a flow list, in front of its first item or behind one. -/
def readFlowItems : Nat → (first : Bool) → Reader (List Node)
  | 0, _ => failure
  | fuel + 1, first => do
    if ← accept .flowListEnd then return []
    if !first then expect .comma
    if ← accept .flowListEnd then return []
    let x ← readFlowItem fuel
    return x :: (← readFlowItems fuel false)

/-- Reads an item of a flow list. A key and a value without braces are a map of one member; a mark
that stands in the place of the key counts as none. -/
def readFlowItem : Nat → Reader Node
  | 0 => failure
  | fuel + 1 => do
    if !(← accept .key) then readNode fuel false false
    else
      let marks : List Token := [.value, .comma, .flowListEnd]
      let isKeyless ← isAt marks
      let k ← readNodeUnless fuel false false marks
      if isKeyless then skip
      let x ← readValueUnless fuel false [.comma, .flowListEnd]
      return .members [(k, x)]

/-- Reads the rest of a flow map, in front of its first member or behind one. -/
def readFlowMembers : Nat → (first : Bool) → Reader (List (Node × Node))
  | 0, _ => failure
  | fuel + 1, first => do
    if ← accept .flowMapEnd then return []
    if !first then expect .comma
    if ← accept .flowMapEnd then return []
    let m ← readFlowMember fuel
    return m :: (← readFlowMembers fuel false)

/-- Reads a member of a flow map, whose value may be left out. -/
def readFlowMember : Nat → Reader (Node × Node)
  | 0 => failure
  | fuel + 1 => do
    if !(← accept .key) then return (← readNode fuel false false, nothing)
    else
      let k ← readNodeUnless fuel false false [.value, .comma, .flowMapEnd]
      let x ← readValueUnless fuel false [.comma, .flowMapEnd]
      return (k, x)

end

/-- Reads the directives in front of a document, none of which may be given twice. -/
def readDirectives : Nat → (versioned : Bool) → Reader Unit
  | 0, _ => failure
  | fuel + 1, versioned => do
    match ← peek with
    | some (.directive .version) =>
      skip
      if versioned then failure else readDirectives fuel true
    | some (.directive (.handle name stands)) =>
      skip
      let r ← get
      if (r.handles.lookup name).isSome then failure
      set { r with handles := (name, stands) :: r.handles }
      readDirectives fuel versioned
    | _ => return ()

def Token.isBetween : Token → Bool
  | .directive _ | .documentStart | .documentEnd => true
  | _ => false

/-- Reads a document up to the end of the text. Directives and the mark of its beginning go
together, and behind that mark it may be empty. -/
def readDocument (fuel : Nat) : Reader Node := do
  let root ←
    match ← peek with
    | none => pure nothing
    | some (.directive _) | some .documentStart =>
      readDirectives fuel false
      expect .documentStart
      if (← peek).all Token.isBetween then pure nothing else readNode fuel true false
    | some _ => readNode fuel true false
  if (← get).tokens.all (· == .documentEnd) then return root else failure

/-- The nodes behind anchors by number; of two with one number the later comes first. -/
def Reading.targets (r : Reading) : List (Nat × Node) :=
  r.given.zipIdx.filterMap fun (number, i) =>
    (r.anchored.lookup (r.given.length - 1 - i)).map fun x => (number, x)

/-- The document that tokens spell. No token is followed by more than four steps before the next one
is taken, so four steps a token are enough. -/
def Document.ofTokens? (ts : List Token) : Option Document := do
  let (root, r) ← (readDocument (4 * ts.length + 4)).run { tokens := ts }
  return ⟨root, r.targets⟩

end GrantGate.Yaml
