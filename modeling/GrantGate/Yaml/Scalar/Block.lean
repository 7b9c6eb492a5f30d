import GrantGate.Yaml.Glyph

namespace GrantGate.Yaml

inductive Chomping where
  | strip
  | clip
  | keep
  deriving DecidableEq, Repr

structure BlockHeader where
  folded : Bool
  chomping : Chomping := .clip
  /-- By how much the lines are indented more than what the scalar stands in; none if their own
  indentation says so. -/
  increment : Option Nat := none
  deriving DecidableEq, Repr

namespace BlockHeader

def chomping? : Char → Option Chomping
  | '+' => some .keep
  | '-' => some .strip
  | _ => none

def readChomping (h : BlockHeader) : List Glyph → BlockHeader × List Glyph
  | [] => (h, [])
  | g :: rest =>
    match chomping? g.char with
    | some c => ({ h with chomping := c }, rest)
    | none => (h, g :: rest)

/-- Takes a digit for the indentation, which is not zero. -/
def readIncrement? (h : BlockHeader) : List Glyph → Option (BlockHeader × List Glyph)
  | [] => some (h, [])
  | g :: rest =>
    if !g.char.isDigit then some (h, g :: rest)
    else if g.char == '0' then none
    else some ({ h with increment := some (g.char.toNat - '0'.toNat) }, rest)

def readSigns? (h : BlockHeader) (gs : List Glyph) : Option (BlockHeader × List Glyph) :=
  if startsWith (fun c => (chomping? c).isSome) gs then
    let (h, rest) := h.readChomping gs
    h.readIncrement? rest
  else
    (h.readIncrement? gs).map fun (h, rest) =>
      if h.increment.isSome then h.readChomping rest else (h, rest)

def read? (folded : Bool) (gs : List Glyph) : Option (BlockHeader × List Glyph) := do
  let (h, rest) ← readSigns? { folded } gs
  return (h, ← dropLineEnd? rest)

end BlockHeader

/-- The widest indentation among the first line that is not blank and those before it; none if a tab
is used to indent one. -/
def widestIndent? (widest : Nat) : List Glyph → Option Nat
  | [] => some widest
  | g :: rest =>
    if g.char == ' ' then widestIndent? widest rest
    else if g.char == '\t' then none
    else if isBreak g.char then widestIndent? (max widest g.column) rest
    else some (max widest g.column)

/-- What stands between two lines of a block scalar. -/
structure LineGap where
  /-- The end of the line before; none in front of the first line. -/
  first : Option Char := none
  /-- The ends of the blank lines after it. -/
  more : List Char := []
  /-- Whether the line before begins with a gap. -/
  afterGap : Bool := false

namespace LineGap

/-- A line feed between two lines that begin with no gap is folded if lines are. -/
def fold (folded beforeGap : Bool) (g : LineGap) : List Char :=
  if folded && g.first == some '\n' && !g.afterGap && !beforeGap then
    if g.more.isEmpty then [' '] else g.more
  else g.first.toList ++ g.more

def chomp (g : LineGap) : Chomping → List Char
  | .strip => []
  | .clip => g.first.toList
  | .keep => g.first.toList ++ g.more

end LineGap

/-- Reads on in a line, or else in front of one. -/
def readLines (h : BlockHeader) (indent : Nat) (gap : LineGap) (inLine : Bool) :
    List Glyph → Option (List Char × List Glyph)
  | [] => some (gap.chomp h.chomping, [])
  | g :: rest =>
    if inLine then
      if isBreak g.char then readLines h indent { gap with first := some g.char } false rest
      else do
        let (text, rest) ← readLines h indent gap true rest
        return (g.char :: text, rest)
    else if g.column < indent ∧ g.char = ' ' then readLines h indent gap false rest
    else if g.column < indent ∧ g.char = '\t' then none
    else if isBreak g.char then
      readLines h indent { gap with more := gap.more ++ [g.char] } false rest
    else if g.column = indent then do
      let atGap := isGap g.char
      let (text, rest) ← readLines h indent { afterGap := atGap } true rest
      return (gap.fold h.folded atGap ++ g.char :: text, rest)
    else some (gap.chomp h.chomping, g :: rest)

/-- Reads a block scalar behind its mark. Its lines are indented at least to `least`, and by more
than nothing. -/
def readBlock (folded : Bool) (least : Nat) (gs : List Glyph) :
    Option (List Char × List Glyph) := do
  let (h, rest) ← BlockHeader.read? folded gs
  let indent ←
    match h.increment with
    | some n => pure (least - 1 + n)
    | none => (widestIndent? 0 rest).map fun n => max n (max least 1)
  readLines h indent {} false rest

end GrantGate.Yaml
