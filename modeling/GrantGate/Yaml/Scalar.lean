import GrantGate.Decimal.Numeral
import GrantGate.Text

namespace GrantGate.Yaml

inductive ScalarStyle where
  | plain
  | literal
  | other
  deriving DecidableEq, Repr

/-- A reader that wants a text takes any scalar as it is written; one that wants something else asks
for what it stands for. -/
structure Scalar where
  text : String
  style : ScalarStyle
  tag : Option String := none
  deriving DecidableEq, Repr

def coreTag (name : String) : String := "tag:yaml.org,2002:" ++ name

namespace Scalar

def nothing : Scalar := { text := "", style := .plain }

def isPlain (s : Scalar) : Bool := s.style == .plain

def isEmpty (s : Scalar) : Bool := s.isPlain && s.text.isEmpty

def isNullWord (s : String) : Bool := s == "~" || s == "null" || s == "Null" || s == "NULL"

/-- Whether it stands for nothing, whatever its tag. -/
def isNull (s : Scalar) : Bool := s.isPlain && (s.text.isEmpty || isNullWord s.text)

/-- Whether it stands for a value that is not there; none if its tag says so and its text does
not. -/
def isAbsent? (s : Scalar) : Option Bool :=
  if !s.isPlain then some false
  else
    match s.tag with
    | none => some s.isNull
    | some t =>
      if t ≠ coreTag "null" then some false else if isNullWord s.text then some true else none

def variantName? (s : Scalar) : Option String := do
  match (← s.tag).toList with
  | ['!'] => some "!"
  | '!' :: name => some (String.ofList name)
  | _ => none

/-- Whether the text may be taken for something of a core type: a literal block needs the tag of the
type for that. -/
def mayBe (name : String) (s : Scalar) : Bool :=
  s.isPlain || (s.style == .literal && s.tag == some (coreTag name))

def boolWord? (s : String) : Option Bool :=
  if s == "true" || s == "True" || s == "TRUE" then some true
  else if s == "false" || s == "False" || s == "FALSE" then some false
  else none

def boolean? (s : Scalar) : Option Bool := if s.mayBe "bool" then boolWord? s.text else none

/-- Whether digits stand behind a zero, which makes them a text. -/
def isPadded : List Char → Bool
  | '-' :: cs | '+' :: cs => go cs
  | cs => go cs
where
  go : List Char → Bool
    | '0' :: c :: cs => (c :: cs).all Char.isDigit
    | _ => false

def digits? (base : Nat) (cs : List Char) : Option Nat :=
  if cs.isEmpty then none
  else cs.foldlM (fun n c => (Text.hexDigit? c).bind fun d =>
    if d < base then some (n * base + d) else none) 0

/-- Digits in the base that stands in front of them, or else in base ten. -/
def magnitude? : List Char → Option Nat
  | '0' :: 'x' :: cs => digits? 16 cs
  | '0' :: 'o' :: cs => digits? 8 cs
  | '0' :: 'b' :: cs => digits? 2 cs
  | cs => if isPadded cs then none else digits? 10 cs

/-- A whole number below a limit, with or without a plus sign. -/
def natWord? (limit : Nat) (s : String) : Option Nat :=
  let cs :=
    match s.toList with
    | '+' :: cs => cs
    | cs => cs
  (magnitude? cs).filter (· < limit)

def unsigned? (s : Scalar) : Option Nat :=
  if s.mayBe "int" then natWord? (Nat.pow 2 64) s.text else none

def intWord? (s : String) : Option Int :=
  match natWord? (Nat.pow 2 128) s with
  | some n => some n
  | none =>
    match s.toList with
    | '-' :: cs => ((magnitude? cs).filter (· ≤ Nat.pow 2 127)).map fun n => -(n : Int)
    | _ => none

def digitValue (c : Char) : Nat := c.toNat - '0'.toNat

/-- A decimal with digits on at least one side of the point. -/
def decimal? (cs : List Char) : Option Decimal := do
  let (negative, cs) :=
    match cs with
    | '-' :: cs => (true, cs)
    | '+' :: cs => (false, cs)
    | cs => (false, cs)
  let (whole, cs) := cs.span Char.isDigit
  let (fraction, cs) :=
    match cs with
    | '.' :: cs => cs.span Char.isDigit
    | cs => ([], cs)
  let exponent ←
    match cs with
    | [] => some 0
    | e :: cs => if e == 'e' || e == 'E' then signed? cs else none
  if whole.isEmpty && fraction.isEmpty then none
  else
    let digits := (whole ++ fraction).foldl (fun n c => n * 10 + digitValue c) 0
    return ⟨negative, digits, exponent - fraction.length⟩
where
  signed? : List Char → Option Int
    | '-' :: cs => (digits? 10 cs).map fun n => -(n : Int)
    | '+' :: cs => (digits? 10 cs).map fun n => (n : Int)
    | cs => (digits? 10 cs).map fun n => (n : Int)

/-- What a plain scalar is that is no whole number and yet no text. -/
inductive RealWord where
  | finite (d : Decimal)
  /-- Infinite, or no number at all. -/
  | limitless

def realWord? (s : String) : Option RealWord :=
  let unsigned := if s.startsWith "+" then (s.drop 1).toString else s
  if [".inf", ".Inf", ".INF"].contains unsigned ||
      ["-.inf", "-.Inf", "-.INF", ".nan", ".NaN", ".NAN"].contains s then some .limitless
  else if s.startsWith "++" || s.startsWith "+-" then none
  else do
    let d ← decimal? s.toList
    let b ← d.nearest?
    return .finite (.ofBinary d.negative b)

inductive Meaning where
  | null
  | bool (b : Bool)
  | number (n : Number)
  | limitless
  | text

def plainMeaning (s : String) : Meaning :=
  if s.isEmpty || isNullWord s then .null
  else
    match boolWord? s, intWord? s with
    | some b, _ => .bool b
    | none, some n => .number (.whole n)
    | none, none =>
      if isPadded s.toList then .text
      else
        match realWord? s with
        | some (.finite d) => .number (.real d)
        | some .limitless => .limitless
        | none => .text

/-- The meaning of a scalar; none if its tag names a variant or does not fit the text. -/
def meaning? (s : Scalar) : Option Meaning :=
  match s.tag with
  | none => some (if s.isPlain then plainMeaning s.text else .text)
  | some t =>
    if s.variantName?.isSome then none
    else if t = coreTag "null" then if isNullWord s.text then some .null else none
    else if t = coreTag "bool" then (boolWord? s.text).map .bool
    else if t = coreTag "int" then (intWord? s.text).map fun n => .number (.whole n)
    else if t = coreTag "float" then
      (realWord? s.text).map fun
        | .finite d => .number (.real d)
        | .limitless => .limitless
    else some .text

end Scalar

end GrantGate.Yaml
