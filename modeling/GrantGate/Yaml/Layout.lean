import GrantGate.Yaml.Scalar
import GrantGate.Yaml.Scalar.Block
import GrantGate.Yaml.Scalar.Flow
import GrantGate.Yaml.Tag

namespace GrantGate.Yaml

/-- The parts of which a text is made, once its indentation has been turned into marks. -/
inductive Token where
  | directive (d : Directive)
  | documentStart
  | documentEnd
  | listStart
  | mapStart
  /-- The end of a list or map that its indentation holds together. -/
  | blockEnd
  | flowListStart
  | flowListEnd
  | flowMapStart
  | flowMapEnd
  | item
  | comma
  | key
  | value
  | alias (name : String)
  | anchor (name : String)
  | tag (t : TagName)
  | scalar (s : Scalar)
  deriving DecidableEq, Repr

/-- The marks of flow collections, and the comma between their parts. -/
def Token.ofFlowMark? : Char → Option Token
  | '[' => some .flowListStart
  | ']' => some .flowListEnd
  | '{' => some .flowMapStart
  | '}' => some .flowMapEnd
  | ',' => some .comma
  | _ => none

/-- Reads the name of an anchor or alias, which ends at a gap or at one of some marks. -/
def readAnchorName? (gs : List Glyph) : Option (String × List Glyph) :=
  let (name, rest) := takeChars isNameChar gs
  if !name.isEmpty && (atGap rest || startsWith (fun c => "?:,]\x7d%@\x60".toList.contains c) rest)
  then some (String.ofList name, rest)
  else none

structure KeyStart where
  /-- Whether nothing but a key may stand there. -/
  required : Bool
  place : Nat
  index : Nat
  line : Nat
  column : Nat
  deriving DecidableEq, Repr

/-- Whether what begins there can no longer be a key: keys stand on one line, and a colon follows
within 1024 characters. -/
def KeyStart.isStale (index line : Nat) (k : KeyStart) : Bool :=
  decide (k.line < line) || decide (k.index + 1024 < index)

/-- Indentation opens and closes lists and maps, and a colon makes what stands in front of it on its
line a key. So a key is known only behind its end, and its token goes in where it began. -/
structure Layout where
  /-- The tokens up to here, the last first. -/
  tokens : List Token := []
  count : Nat := 0
  /-- The columns of the open block collections, the innermost first. -/
  indents : List Nat := []
  /-- Where the key of the innermost collection may have begun. -/
  key : Option KeyStart := none
  /-- The same for what each open flow collection stands in, the innermost first. -/
  outerKeys : List (Option KeyStart) := []
  keyAllowed : Bool := true
  deriving DecidableEq, Repr

namespace Layout

def inFlow (l : Layout) : Bool := !l.outerKeys.isEmpty

def push (t : Token) (l : Layout) : Layout :=
  { l with tokens := t :: l.tokens, count := l.count + 1 }

def allowKey (allowed : Bool) (l : Layout) : Layout := { l with keyAllowed := allowed }

/-- The least column of what stands further in than the open block collections. -/
def nextIndent (l : Layout) : Nat :=
  match l.indents with
  | [] => 0
  | indent :: _ => indent + 1

/-- Gives up a place where a key may have begun; none if a key had to. -/
def giveUp? : Option KeyStart → Option (Option KeyStart)
  | none => some none
  | some k => if k.required then none else some none

def dropKey? (l : Layout) : Option Layout := do return { l with key := ← giveUp? l.key }

/-- Gives up the places from which no key can reach as far as here. -/
def dropStaleKeys? (index line : Nat) (l : Layout) : Option Layout := do
  let drop (k : Option KeyStart) : Option (Option KeyStart) :=
    if k.any (KeyStart.isStale index line) then giveUp? k else some k
  return { l with key := ← drop l.key, outerKeys := ← l.outerKeys.mapM drop }

/-- Notes that a key may begin at a glyph. One has to in a block map where its keys stand. -/
def saveKey? (g : Glyph) (l : Layout) : Option Layout := do
  if !l.keyAllowed then return l
  else
    let required := !l.inFlow && l.indents.head? == some g.column
    let l ← l.dropKey?
    return { l with key := some ⟨required, l.count, g.index, g.line, g.column⟩ }

def closeBlocks (n : Nat) (l : Layout) : Layout :=
  { l with
    tokens := List.replicate n .blockEnd ++ l.tokens
    count := l.count + n
    indents := l.indents.drop n }

/-- Closes the block collections that stand further in than a column. In a flow collection columns
mean nothing. -/
def closeBeyond (column : Nat) (l : Layout) : Layout :=
  if l.inFlow then l else l.closeBlocks (l.indents.takeWhile (column < ·)).length

def closeAll (l : Layout) : Layout := if l.inFlow then l else l.closeBlocks l.indents.length

def insertAt (place : Nat) (ts : List Token) (l : Layout) : Layout :=
  let (late, early) := l.tokens.splitAt (l.count - place)
  { l with tokens := late ++ ts.reverse ++ early, count := l.count + ts.length }

/-- Opens a block collection at a column, unless it is open already. Its token stands behind the
first `place` of them, and in front of `ts`. -/
def openAt (column place : Nat) (opening : Token) (ts : List Token) (l : Layout) : Layout :=
  if !l.inFlow && decide (l.nextIndent ≤ column) then
    insertAt place (opening :: ts) { l with indents := column :: l.indents }
  else insertAt place ts l

/-- Opens a block collection at a glyph where one may begin. -/
def openHere? (g : Glyph) (opening : Token) (l : Layout) : Option Layout :=
  if l.inFlow then some l
  else if l.keyAllowed then some (l.openAt g.column l.count opening [])
  else none

/-- Reads the mark that opens or closes a flow collection, or a comma. -/
def readFlowMark? (g : Glyph) (t : Token) (l : Layout) : Option Layout := do
  match t with
  | .flowListStart | .flowMapStart =>
    let l ← l.saveKey? g
    return { l with key := none, outerKeys := l.key :: l.outerKeys, keyAllowed := true }.push t
  | .comma => return (← l.dropKey?).allowKey true |>.push t
  | t =>
    let l ← l.dropKey?
    let l :=
      match l.outerKeys with
      | [] => l
      | key :: outer => { l with key, outerKeys := outer }
    return l.allowKey false |>.push t

def readItem? (g : Glyph) (l : Layout) : Option Layout := do
  return (← (← l.openHere? g .listStart).dropKey?).allowKey true |>.push .item

def readKey? (g : Glyph) (l : Layout) : Option Layout := do
  let l ← (← l.openHere? g .mapStart).dropKey?
  return l.allowKey (!l.inFlow) |>.push .key

/-- Reads a colon. What may have begun as a key is one. -/
def readValue? (g : Glyph) (l : Layout) : Option Layout := do
  match l.key with
  | some k =>
    let l := l.openAt k.column k.place .mapStart [.key]
    return { l with key := none, keyAllowed := false }.push .value
  | none =>
    let l ← l.openHere? g .mapStart
    return l.allowKey (!l.inFlow) |>.push .value

/-- Reads something that may be a key or the beginning of one. -/
def readKeyLike? (g : Glyph) (t : Token) (l : Layout) : Option Layout := do
  return (← l.saveKey? g).allowKey false |>.push t

def readBetween? (t : Token) (l : Layout) : Option Layout := do
  return (← l.closeAll.dropKey?).allowKey false |>.push t

def readPlainScalar? (g : Glyph) (gs : List Glyph) (l : Layout) :
    Option (Layout × List Glyph) := do
  let p ← readPlain l.inFlow l.nextIndent {} gs
  let l ← l.readKeyLike? g (.scalar { text := String.ofList p.text, style := .plain })
  return (l.allowKey p.broken, p.rest)

def readQuotedScalar? (g : Glyph) (rest : List Glyph) (l : Layout) :
    Option (Layout × List Glyph) := do
  let (text, rest) ← if g.char == '"' then readDouble {} rest else readSingle {} rest
  return (← l.readKeyLike? g (.scalar { text := String.ofList text, style := .other }), rest)

def readBlockScalar? (folded : Bool) (rest : List Glyph) (l : Layout) :
    Option (Layout × List Glyph) := do
  let l ← l.dropKey?
  let (text, rest) ← readBlock folded l.nextIndent rest
  let s : Scalar := { text := String.ofList text, style := if folded then .other else .literal }
  return (l.allowKey true |>.push (.scalar s), rest)

def readToken? (g : Glyph) (rest : List Glyph) (l : Layout) : Option (Layout × List Glyph) := do
  let gs := g :: rest
  let inFlow := l.inFlow
  let standsAlone := inFlow || atGap rest
  if g.column = 0 ∧ g.char = '%' then
    let (d, rest) ← readDirective? rest
    return (← l.readBetween? (.directive d), rest)
  else if let some (mark, rest) := documentMark? gs then
    return (← l.readBetween? (if mark = '-' then .documentStart else .documentEnd), rest)
  else if let some t := Token.ofFlowMark? g.char then return (← l.readFlowMark? g t, rest)
  else if g.char = '-' ∧ atGap rest then return (← l.readItem? g, rest)
  else if g.char = '?' ∧ standsAlone then return (← l.readKey? g, rest)
  else if g.char = ':' ∧ standsAlone then return (← l.readValue? g, rest)
  else if g.char = '*' then
    let (name, rest) ← readAnchorName? rest
    return (← l.readKeyLike? g (.alias name), rest)
  else if g.char = '&' then
    let (name, rest) ← readAnchorName? rest
    return (← l.readKeyLike? g (.anchor name), rest)
  else if g.char = '!' then
    let (t, rest) ← readTag? inFlow gs
    return (← l.readKeyLike? g (.tag t), rest)
  else if g.char = '|' ∧ !inFlow then l.readBlockScalar? false rest
  else if g.char = '>' ∧ !inFlow then l.readBlockScalar? true rest
  else if g.char = '"' ∨ g.char = '\x27' then l.readQuotedScalar? g rest
  else if startsPlain inFlow gs then l.readPlainScalar? g gs
  else none

/-- Skips to the next token, and says whether a key may begin there: behind a line it may, except in
a flow collection. Tabs do not count as gaps where a key may begin, outside of flow collections. A
mark of the order of bytes may stand at the beginning of a line. -/
def skipToToken (inFlow inComment keyAllowed : Bool) : List Glyph → Bool × List Glyph
  | [] => (keyAllowed, [])
  | g :: rest =>
    if isBreak g.char then skipToToken inFlow false (keyAllowed || !inFlow) rest
    else if inComment || g.char == '#' then skipToToken inFlow true keyAllowed rest
    else if g.char == ' ' || (g.char == '\t' && (inFlow || !keyAllowed)) ||
        (g.char == '\ufeff' && g.column == 0) then
      skipToToken inFlow false keyAllowed rest
    else (keyAllowed, g :: rest)

/-- Reads tokens up to the end of the text, with as many steps as there are glyphs and one more. -/
def readAll? : Nat → List Glyph → Layout → Option Layout
  | 0, _, _ => none
  | fuel + 1, gs, l =>
    let (keyAllowed, gs) := skipToToken l.inFlow false l.keyAllowed gs
    let l := l.allowKey keyAllowed
    match gs with
    | [] => l.closeAll.dropKey?
    | g :: rest => do
      let l ← l.dropStaleKeys? g.index g.line
      let (l, rest) ← (l.closeBeyond g.column).readToken? g rest
      readAll? fuel rest l

end Layout

/-- The tokens of a text; none if it is not laid out as texts are. -/
def tokensOf? (s : String) : Option (List Token) := do
  let gs ← Glyph.ofText? s
  let l ← Layout.readAll? (gs.length + 1) gs {}
  return l.tokens.reverse

end GrantGate.Yaml
