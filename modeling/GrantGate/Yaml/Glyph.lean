namespace GrantGate.Yaml

/-- A character that knows where it stands. -/
structure Glyph where
  char : Char
  index : Nat
  line : Nat
  column : Nat
  deriving DecidableEq, Repr

/-- Whether a text may hold the character: no controls but tabs and line breaks, and none of the
code points that are no characters at the end of the first plane. -/
def isAllowed (c : Char) : Bool :=
  let n := c.toNat
  n == 9 || n == 0xa || n == 0xd || (0x20 ≤ n && n ≤ 0x7e) || n == 0x85 ||
    (0xa0 ≤ n && n ≤ 0xfffd) || 0x10000 ≤ n

def isGap (c : Char) : Bool := c == ' ' || c == '\t'

def isBreak (c : Char) : Bool := c == '\n' || c == '\u2028' || c == '\u2029'

/-- Letters of names: those of anchors, of handles and of directives. -/
def isNameChar (c : Char) : Bool := c.isAlphanum || c == '_' || c == '-'

def isFlowMark (c : Char) : Bool := ",[]\x7b\x7d".toList.contains c

namespace Glyph

/-- The glyphs of a text from a place on; none if it holds a character that it may not hold. The
end of a line is one glyph, and a line feed unless it is a separator of lines or paragraphs. -/
def ofChars? (index line column : Nat) : List Char → Option (List Glyph)
  | [] => some []
  | '\r' :: '\n' :: rest =>
    (ofChars? (index + 2) (line + 1) 0 rest).map (⟨'\n', index, line, column⟩ :: ·)
  | c :: rest =>
    let c := if c == '\r' || c == '\u0085' then '\n' else c
    if !isAllowed c then none
    else if isBreak c then
      (ofChars? (index + 1) (line + 1) 0 rest).map (⟨c, index, line, column⟩ :: ·)
    else (ofChars? (index + 1) line (column + 1) rest).map (⟨c, index, line, column⟩ :: ·)

def ofText? (s : String) : Option (List Glyph) := ofChars? 0 0 0 s.toList

end Glyph

def startsWith (p : Char → Bool) : List Glyph → Bool
  | [] => false
  | g :: _ => p g.char

/-- Whether a gap, the end of a line or the end of the text comes next. -/
def atGap : List Glyph → Bool
  | [] => true
  | g :: _ => isGap g.char || isBreak g.char

/-- The characters in front for as long as they are of a kind, and what follows them. -/
def takeChars (p : Char → Bool) : List Glyph → List Char × List Glyph
  | [] => ([], [])
  | g :: rest =>
    if p g.char then
      let (cs, rest) := takeChars p rest
      (g.char :: cs, rest)
    else ([], g :: rest)

def dropGaps (gs : List Glyph) : List Glyph := (takeChars isGap gs).2

/-- Drops the rest of a line, which may hold a comment and nothing else. -/
def dropLineEnd? (gs : List Glyph) : Option (List Glyph) :=
  let gs := dropGaps gs
  let gs := if startsWith (· == '#') gs then (takeChars (!isBreak ·) gs).2 else gs
  match gs with
  | [] => some []
  | g :: rest => if isBreak g.char then some rest else none

/-- Three dashes or three points that fill the beginning of a line, and what follows them. -/
def documentMark? : List Glyph → Option (Char × List Glyph)
  | a :: b :: c :: rest =>
    if a.column = 0 ∧ b.char = a.char ∧ c.char = a.char ∧ (a.char = '-' ∨ a.char = '.') ∧
        atGap rest then some (a.char, rest)
    else none
  | _ => none

end GrantGate.Yaml
