import GrantGate.Text
import GrantGate.Yaml.Glyph

namespace GrantGate.Yaml

/-- A tag as written. A handle stands for the beginning of a tag, as a directive in front of the
document says; it is empty if what follows it is all there is. -/
structure TagName where
  handle : String
  suffix : String
  deriving DecidableEq, Repr

abbrev Handles := List (String × String)

def Handles.standard : Handles := [("!", "!"), ("!!", "tag:yaml.org,2002:")]

/-- The tag in full; none if nothing says what its handle stands for. -/
def TagName.resolve? (hs : Handles) (t : TagName) : Option String :=
  if t.handle.isEmpty then some t.suffix
  else ((hs ++ Handles.standard).lookup t.handle).map (· ++ t.suffix)

/-- Characters of a tag; where it is written in full they include the marks of lists. -/
def isTagChar (inFull : Bool) (c : Char) : Bool :=
  isNameChar c || ";/?:@&=+$.%!~*\x27()".toList.contains c || (inFull && ",[]".toList.contains c)

/-- Whether each percent sign stands in front of two hexadecimal digits. -/
def areEscapesWhole : List Char → Bool
  | [] => true
  | '%' :: a :: b :: rest => (Text.hexNumber? [a, b]).isSome && areEscapesWhole rest
  | c :: rest => c != '%' && areEscapesWhole rest

/-- The part of a tag in front, with bytes behind percent signs read. -/
def readTagText? (inFull : Bool) (gs : List Glyph) : Option (String × List Glyph) := do
  let (cs, rest) := takeChars (isTagChar inFull) gs
  if !areEscapesWhole cs then none
  else return (← Text.percentDecode? (String.ofList cs), rest)

/-- A handle, or what stands in its place: an exclamation mark, letters of a name, and perhaps
another exclamation mark. -/
def readHandle? : List Glyph → Option (List Char × List Glyph)
  | [] => none
  | g :: rest =>
    if g.char ≠ '!' then none
    else
      let (name, rest) := takeChars isNameChar rest
      match rest with
      | [] => some ('!' :: name, [])
      | h :: after =>
        if h.char = '!' then some ('!' :: name ++ ['!'], after) else some ('!' :: name, h :: after)

def isHandle (cs : List Char) : Bool := 1 < cs.length && cs.getLast? == some '!'

/-- Reads a tag between angle brackets, behind the first of them. -/
def readFullTag? (gs : List Glyph) : Option (TagName × List Glyph) := do
  let (suffix, rest) ← readTagText? true gs
  match rest with
  | [] => none
  | g :: rest => if g.char ≠ '>' || suffix.isEmpty then none else return (⟨"", suffix⟩, rest)

/-- Reads a tag with a handle. One that is an exclamation mark alone has none. -/
def readShortTag? (gs : List Glyph) : Option (TagName × List Glyph) := do
  let (head, rest) ← readHandle? gs
  let (suffix, rest) ← readTagText? false rest
  if isHandle head then
    if suffix.isEmpty then none else return (⟨String.ofList head, suffix⟩, rest)
  else
    let suffix := String.ofList head.tail ++ suffix
    return (if suffix.isEmpty then ⟨"", "!"⟩ else ⟨"!", suffix⟩, rest)

/-- Reads a tag, which ends at a gap or in front of a comma of a flow collection. -/
def readTag? (inFlow : Bool) (gs : List Glyph) : Option (TagName × List Glyph) := do
  let (tag, rest) ←
    match gs with
    | _ :: g :: rest => if g.char = '<' then readFullTag? rest else readShortTag? gs
    | _ => readShortTag? gs
  if atGap rest || (inFlow && startsWith (· == ',') rest) then return (tag, rest) else none

inductive Directive where
  | version
  | handle (name stands : String)
  deriving DecidableEq, Repr

/-- A number of a version, of at most nine digits. -/
def readVersionNumber? (gs : List Glyph) : Option (Nat × List Glyph) :=
  let (ds, rest) := takeChars Char.isDigit gs
  if ds.isEmpty || 9 < ds.length then none
  else some (ds.foldl (fun n d => n * 10 + (d.toNat - '0'.toNat)) 0, rest)

/-- Reads a version, which is 1.1 or 1.2. -/
def readVersion? (gs : List Glyph) : Option (List Glyph) := do
  let (major, rest) ← readVersionNumber? gs
  match rest with
  | [] => none
  | point :: rest =>
    let (minor, rest) ← readVersionNumber? rest
    if point.char = '.' ∧ major = 1 ∧ (minor = 1 ∨ minor = 2) then some rest else none

def readHandleMeaning? (gs : List Glyph) : Option (Directive × List Glyph) := do
  let (name, rest) ← readHandle? gs
  let (stands, after) ← readTagText? true (dropGaps rest)
  let isName := isHandle name || name == ['!']
  if isName && startsWith isGap rest && !stands.isEmpty && atGap after then
    return (.handle (String.ofList name) stands, after)
  else none

/-- Reads a directive behind its percent sign, up to the next line. -/
def readDirective? (gs : List Glyph) : Option (Directive × List Glyph) := do
  let (name, rest) := takeChars isNameChar gs
  if !atGap rest then none
  else
    let rest := dropGaps rest
    let (directive, rest) ←
      if name = "YAML".toList then (readVersion? rest).map fun rest => (Directive.version, rest)
      else if name = "TAG".toList then readHandleMeaning? rest
      else none
    return (directive, ← dropLineEnd? rest)

end GrantGate.Yaml
