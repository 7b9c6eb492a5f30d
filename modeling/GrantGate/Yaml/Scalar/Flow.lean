import GrantGate.Text
import GrantGate.Yaml.Glyph

namespace GrantGate.Yaml

/-- What stands between two words of a scalar: gaps within a line stay, and the ends of lines are
folded. -/
structure Gap where
  blanks : List Char := []
  /-- Whether a line has ended; blanks after that do not count. -/
  broken : Bool := false
  /-- The end of the first line; none if it does not count. -/
  first : Option Char := none
  /-- The ends of the lines after it, which are empty. -/
  more : List Char := []
  deriving DecidableEq, Repr

namespace Gap

/-- The gap behind a line whose end does not count. -/
def escaped : Gap := { broken := true }

def isEmpty (g : Gap) : Bool := !g.broken && g.blanks.isEmpty

def blank (c : Char) (g : Gap) : Gap := if g.broken then g else { g with blanks := g.blanks ++ [c] }

def lineEnd (c : Char) (g : Gap) : Gap :=
  if g.broken then { g with more := g.more ++ [c] } else { broken := true, first := some c }

/-- One line feed becomes a space, and of several the first goes. -/
def fold (g : Gap) : List Char :=
  if !g.broken then g.blanks
  else
    match g.first with
    | some '\n' => if g.more.isEmpty then [' '] else g.more
    | first => first.toList ++ g.more

end Gap

def startsPlain (inFlow : Bool) : List Glyph → Bool
  | [] => false
  | g :: rest =>
    if g.char == '-' then !startsWith isGap rest
    else if g.char == '?' || g.char == ':' then !inFlow && !atGap rest
    else
      !(isGap g.char || isBreak g.char || isFlowMark g.char ||
        "#&*!|>\x27\"%@\x60".toList.contains g.char)

structure PlainText where
  text : List Char
  /-- Whether the lines after the text were read as well. -/
  broken : Bool
  rest : List Glyph

/-- Whether a plain scalar ends in front of a glyph that is no gap: where something else must begin,
or, outside of flow collections, at a line that is not indented enough. -/
def endsPlain (inFlow : Bool) (indent : Nat) (gap : Gap) (g : Glyph) (rest : List Glyph) : Bool :=
  (gap.broken && !inFlow && decide (g.column < indent)) || (documentMark? (g :: rest)).isSome ||
    (g.char == '#' && !gap.isEmpty) || (g.char == ':' && atGap rest) ||
    (inFlow && isFlowMark g.char)

/-- Reads on behind a gap. In a flow collection no mark may follow a colon, and no tab may indent a
line that is not indented by spaces. -/
def readPlain (inFlow : Bool) (indent : Nat) (gap : Gap) : List Glyph → Option PlainText
  | [] => some ⟨[], gap.broken, []⟩
  | g :: rest =>
    if isGap g.char then
      if gap.broken && g.char == '\t' && decide (g.column < indent) then none
      else readPlain inFlow indent (gap.blank g.char) rest
    else if isBreak g.char then readPlain inFlow indent (gap.lineEnd g.char) rest
    else if endsPlain inFlow indent gap g rest then some ⟨[], gap.broken, g :: rest⟩
    else if inFlow && g.char == ':' && startsWith (fun c => isFlowMark c || c == '?') rest then none
    else do
      let p ← readPlain inFlow indent {} rest
      return { p with text := gap.fold ++ g.char :: p.text }

/-- Reads on behind a gap up to the closing single quote; two of them stand for one. -/
def readSingle (gap : Gap) : List Glyph → Option (List Char × List Glyph)
  | [] => none
  | g :: rest =>
    if isGap g.char then readSingle (gap.blank g.char) rest
    else if isBreak g.char then readSingle (gap.lineEnd g.char) rest
    else if (documentMark? (g :: rest)).isSome then none
    else if g.char == '\x27' then
      match rest with
      | [] => some (gap.fold, [])
      | h :: rest =>
        if h.char == '\x27' then do
          let (text, rest) ← readSingle {} rest
          return (gap.fold ++ '\x27' :: text, rest)
        else some (gap.fold, h :: rest)
    else do
      let (text, rest) ← readSingle {} rest
      return (gap.fold ++ g.char :: text, rest)

def escapeValue? : Char → Option Char
  | '0' => some '\x00'
  | 'a' => some '\x07'
  | 'b' => some '\x08'
  | 't' => some '\t'
  | '\t' => some '\t'
  | 'n' => some '\n'
  | 'v' => some '\x0b'
  | 'f' => some '\x0c'
  | 'r' => some '\r'
  | 'e' => some '\x1b'
  | ' ' => some ' '
  | '"' => some '"'
  | '/' => some '/'
  | '\\' => some '\\'
  | 'N' => some '\u0085'
  | '_' => some '\u00a0'
  | 'L' => some '\u2028'
  | 'P' => some '\u2029'
  | _ => none

def codePoint? (digits : List Glyph) : Option Char := do
  let n ← Text.hexNumber? (digits.map Glyph.char)
  if n.isValidChar then some (Char.ofNat n) else none

/-- Reads on behind a gap up to the closing double quote. A backslash at the end of a line makes
that end count for nothing. -/
def readDouble (gap : Gap) : List Glyph → Option (List Char × List Glyph)
  | [] => none
  | g :: rest =>
    if isGap g.char then readDouble (gap.blank g.char) rest
    else if isBreak g.char then readDouble (gap.lineEnd g.char) rest
    else if (documentMark? (g :: rest)).isSome then none
    else if g.char == '"' then some (gap.fold, rest)
    else if g.char == '\\' then
      match rest with
      | [] => none
      | e :: rest =>
        match e.char, rest with
        | 'x', a :: b :: rest => do
          let c ← codePoint? [a, b]
          let (text, rest) ← readDouble {} rest
          return (gap.fold ++ c :: text, rest)
        | 'u', a :: b :: c :: d :: rest => do
          let c ← codePoint? [a, b, c, d]
          let (text, rest) ← readDouble {} rest
          return (gap.fold ++ c :: text, rest)
        | 'U', a :: b :: c :: d :: e :: f :: g :: h :: rest => do
          let c ← codePoint? [a, b, c, d, e, f, g, h]
          let (text, rest) ← readDouble {} rest
          return (gap.fold ++ c :: text, rest)
        | c, rest =>
          if isBreak c then do
            let (text, rest) ← readDouble .escaped rest
            return (gap.fold ++ text, rest)
          else do
            let c ← escapeValue? c
            let (text, rest) ← readDouble {} rest
            return (gap.fold ++ c :: text, rest)
    else do
      let (text, rest) ← readDouble {} rest
      return (gap.fold ++ g.char :: text, rest)

end GrantGate.Yaml
