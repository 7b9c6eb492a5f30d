import GrantGate.Json

namespace GrantGate

/-- JSON text as far as it can be read, with its members in the order in which they are written.
Where the text stops being JSON the draft is broken, so that a reader that looks at it from the
front meets its errors in the order in which they stand in the text. -/
inductive Draft where
  | null
  | bool (b : Bool)
  /-- A number as written; none if it is out of range. -/
  | number (n : Option Number)
  /-- None if an escape names half a character. -/
  | text (s : Option String)
  | items (xs : List Draft) (closed : Bool)
  | members (ms : List (Option String × Draft)) (closed : Bool)
  | broken
  deriving Repr, Inhabited

namespace Draft

def isSpace (c : Char) : Bool := c == ' ' || c == '\n' || c == '\t' || c == '\r'

def escapeValue? : Char → Option Nat
  | '"' => some 0x22
  | '\\' => some 0x5c
  | '/' => some 0x2f
  | 'b' => some 8
  | 'f' => some 0xc
  | 'n' => some 0xa
  | 'r' => some 0xd
  | 't' => some 9
  | _ => none

/-- The code points and halves of code points up to the closing quote, and what follows it. -/
def readUnits : List Char → Option (List Nat × List Char)
  | [] => none
  | '"' :: rest => some ([], rest)
  | '\\' :: 'u' :: a :: b :: c :: d :: rest =>
    match Text.hexNumber? [a, b, c, d], readUnits rest with
    | some n, some (units, rest) => some (n :: units, rest)
    | _, _ => none
  | '\\' :: e :: rest =>
    match escapeValue? e, readUnits rest with
    | some n, some (units, rest) => some (n :: units, rest)
    | _, _ => none
  | c :: rest =>
    if c = '\\' ∨ c.toNat < 0x20 then none
    else
      match readUnits rest with
      | some (units, rest) => some (c.toNat :: units, rest)
      | none => none

def isHighHalf (n : Nat) : Bool := 0xd800 ≤ n && n < 0xdc00

def isLowHalf (n : Nat) : Bool := 0xdc00 ≤ n && n < 0xe000

/-- Joins two halves to one character; a half that stands alone is none. -/
def joinHalves : List Nat → Option (List Char)
  | [] => some []
  | [n] => if isHighHalf n || isLowHalf n then none else some [Char.ofNat n]
  | n :: m :: rest =>
    if isHighHalf n then
      if isLowHalf m then
        (joinHalves rest).map (Char.ofNat (0x10000 + (n - 0xd800) * 0x400 + (m - 0xdc00)) :: ·)
      else none
    else if isLowHalf n then none
    else (joinHalves (m :: rest)).map (Char.ofNat n :: ·)

def readText (cs : List Char) : Option (Option String × List Char) :=
  (readUnits cs).map fun (units, rest) => ((joinHalves units).map String.ofList, rest)

def readDigits (cs : List Char) : List Nat × List Char :=
  let (ds, rest) := cs.span Char.isDigit
  (ds.map fun d => d.toNat - '0'.toNat, rest)

/-- Digits after a point; none if a point has no digit after it. -/
def readFraction : List Char → Option (List Nat × List Char)
  | '.' :: rest =>
    let (ds, rest) := readDigits rest
    if ds.isEmpty then none else some (ds, rest)
  | rest => some ([], rest)

def readSignedDigits (cs : List Char) : Option (Int × List Char) :=
  let (negative, cs) :=
    match cs with
    | '-' :: rest => (true, rest)
    | '+' :: rest => (false, rest)
    | cs => (false, cs)
  let (ds, rest) := readDigits cs
  let n : Int := (ds.foldl (fun n d => n * 10 + d) 0 : Nat)
  if ds.isEmpty then none else some (if negative then -n else n, rest)

def readExponent : List Char → Option (Option Int × List Char)
  | 'e' :: rest | 'E' :: rest => (readSignedDigits rest).map fun (e, rest) => (some e, rest)
  | rest => some (none, rest)

/-- Reads a number: no zero before other digits, and digits on both sides of a point. -/
def readNumber (cs : List Char) : Option (Option Number × List Char) := do
  let (negative, cs) :=
    match cs with
    | '-' :: rest => (true, rest)
    | cs => (false, cs)
  let (whole, cs) := readDigits cs
  if whole.isEmpty ∨ (whole.head? = some 0 ∧ 1 < whole.length) then none
  else
    let (fraction, cs) ← readFraction cs
    let (exponent, cs) ← readExponent cs
    return (Numeral.number? ⟨negative, whole, fraction, exponent⟩, cs)

mutual

/-- Reads one value; no rest means that reading cannot go on. -/
def read : Nat → List Char → Draft × Option (List Char)
  | 0, _ => (.broken, none)
  | fuel + 1, cs =>
    match cs.dropWhile isSpace with
    | 'n' :: 'u' :: 'l' :: 'l' :: rest => (.null, some rest)
    | 't' :: 'r' :: 'u' :: 'e' :: rest => (.bool true, some rest)
    | 'f' :: 'a' :: 'l' :: 's' :: 'e' :: rest => (.bool false, some rest)
    | '"' :: rest =>
      match readText rest with
      | some (s, rest) => (.text s, some rest)
      | none => (.broken, none)
    | '[' :: rest =>
      let (xs, closed, rest) := readItems fuel true rest
      (.items xs closed, rest)
    | '{' :: rest =>
      let (ms, closed, rest) := readMembers fuel true rest
      (.members ms closed, rest)
    | cs =>
      match readNumber cs with
      | some (n, rest) => (.number n, some rest)
      | none => (.broken, none)

/-- Reads the rest of a list, at its first item or behind one. -/
def readItems : Nat → Bool → List Char → List Draft × Bool × Option (List Char)
  | 0, _, _ => ([], false, none)
  | fuel + 1, first, cs =>
    match first, cs.dropWhile isSpace with
    | _, ']' :: rest => ([], true, some rest)
    | true, cs => readItem fuel cs
    | false, ',' :: cs => readItem fuel cs
    | false, _ => ([], false, none)

def readItem : Nat → List Char → List Draft × Bool × Option (List Char)
  | 0, _ => ([], false, none)
  | fuel + 1, cs =>
    match read fuel cs with
    | (x, some rest) =>
      let (xs, closed, rest) := readItems fuel false rest
      (x :: xs, closed, rest)
    | (x, none) => ([x], false, none)

/-- Reads the rest of an object, at its first member or behind one. -/
def readMembers : Nat → Bool → List Char →
    List (Option String × Draft) × Bool × Option (List Char)
  | 0, _, _ => ([], false, none)
  | fuel + 1, first, cs =>
    match first, cs.dropWhile isSpace with
    | _, '}' :: rest => ([], true, some rest)
    | true, cs => readMember fuel cs
    | false, ',' :: cs => readMember fuel (cs.dropWhile isSpace)
    | false, _ => ([], false, none)

def readMember : Nat → List Char → List (Option String × Draft) × Bool × Option (List Char)
  | 0, _ => ([], false, none)
  | fuel + 1, cs =>
    match cs with
    | '"' :: cs =>
      match readText cs with
      | none => ([], false, none)
      | some (name, cs) =>
        match cs.dropWhile isSpace with
        | ':' :: cs =>
          match read fuel cs with
          | (x, some rest) =>
            let (ms, closed, rest) := readMembers fuel false rest
            ((name, x) :: ms, closed, rest)
          | (x, none) => ([(name, x)], false, none)
        | _ => ([(name, .broken)], false, none)
    | _ => ([], false, none)

end

/-- Reads the first value of a text. Each step of the reading that takes no character follows one
that does, so three steps a character are enough. -/
def ofText (s : String) : Draft × Option (List Char) :=
  let cs := s.toList
  read (3 * cs.length + 3) cs

mutual

def intact : Draft → Bool
  | broken => false
  | items xs closed => intactItems xs && closed
  | members ms closed => intactMembers ms && closed
  | _ => true

def intactItems : List Draft → Bool
  | [] => true
  | x :: xs => intact x && intactItems xs

def intactMembers : List (Option String × Draft) → Bool
  | [] => true
  | (_, x) :: ms => intact x && intactMembers ms

end

mutual

/-- The value, with at most so many lists and objects in one another. -/
def toJson? (depth : Nat) : Draft → Option Json
  | null => some .null
  | bool b => some (.bool b)
  | number n => n.map .number
  | text s => s.map .text
  | items xs closed =>
    if depth = 0 ∨ ¬ closed then none else (itemsToJson? (depth - 1) xs).map .items
  | members ms closed =>
    if depth = 0 ∨ ¬ closed then none else (membersToJson? (depth - 1) ms).map Json.ofMembers
  | broken => none

def itemsToJson? (depth : Nat) : List Draft → Option (List Json)
  | [] => some []
  | x :: xs =>
    match toJson? depth x, itemsToJson? depth xs with
    | some j, some js => some (j :: js)
    | _, _ => none

def membersToJson? (depth : Nat) : List (Option String × Draft) → Option (List (String × Json))
  | [] => some []
  | (name, x) :: ms =>
    match name, toJson? depth x, membersToJson? depth ms with
    | some name, some j, some js => some ((name, j) :: js)
    | _, _, _ => none

end

end Draft

/-- Reads a text that is one JSON value and nothing more. -/
def Json.ofText? (depth : Nat) (s : String) : Option Json :=
  match Draft.ofText s with
  | (x, some rest) => if rest.all Draft.isSpace then x.toJson? depth else none
  | (_, none) => none

end GrantGate
