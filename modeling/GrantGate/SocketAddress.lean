namespace GrantGate

/-- A host and the number of a service on it, as in `1.2.3.4:80` or `[2001:db8::1]:80`, where a zone
may stand behind a percent sign. -/
inductive SocketAddress where
  | v4 (a b c d : UInt8) (service : UInt16)
  /-- Eight groups, and a zone that is zero where there is none. -/
  | v6 (groups : List UInt16) (zone : UInt32) (service : UInt16)
  deriving DecidableEq, Repr, Inhabited

namespace SocketAddress

def digit? (base : Nat) (c : Char) : Option Nat :=
  let n :=
    if '0' ≤ c ∧ c ≤ '9' then some (c.toNat - '0'.toNat)
    else if 'a' ≤ c ∧ c ≤ 'f' then some (c.toNat - 'a'.toNat + 10)
    else if 'A' ≤ c ∧ c ≤ 'F' then some (c.toNat - 'A'.toNat + 10)
    else none
  n.filter (· < base)

/-- Reads all the digits in front: at least one, and a number below the bound. -/
def readNumber (base bound : Nat) (cs : List Char) : Option (Nat × List Char) :=
  let (ds, rest) := cs.span fun c => (digit? base c).isSome
  let n := ds.foldl (fun n d => n * base + (digit? base d).getD 0) 0
  if ds.isEmpty ∨ bound ≤ n then none else some (n, rest)

/-- One of four parts: up to three digits, with no zero before others. -/
def readOctet (cs : List Char) : Option (Nat × List Char) :=
  let ds := cs.takeWhile fun c => (digit? 10 c).isSome
  if 3 < ds.length ∨ (1 < ds.length ∧ ds.head? = some '0') then none else readNumber 10 256 cs

/-- One of eight groups: up to four digits. -/
def readGroup (cs : List Char) : Option (Nat × List Char) :=
  let ds := cs.takeWhile fun c => (digit? 16 c).isSome
  if 4 < ds.length then none else readNumber 16 65536 cs

def expect (c : Char) : List Char → Option (List Char)
  | [] => none
  | d :: rest => if c = d then some rest else none

def readHost4 (cs : List Char) : Option ((Nat × Nat × Nat × Nat) × List Char) := do
  let (a, cs) ← readOctet cs
  let (b, cs) ← readOctet (← expect '.' cs)
  let (c, cs) ← readOctet (← expect '.' cs)
  let (d, cs) ← readOctet (← expect '.' cs)
  return ((a, b, c, d), cs)

def readService (cs : List Char) : Option (Nat × List Char) := do
  readNumber 10 65536 (← expect ':' cs)

/-- Reads groups with colons between them, as many as there is room for. Four parts may stand for
two groups at the end; the answer tells whether they did. -/
def readGroups : Nat → Bool → List Char → List Nat × Bool × List Char
  | 0, _, cs => ([], false, cs)
  | room + 1, first, cs =>
    match if first then some cs else expect ':' cs with
    | none => ([], false, cs)
    | some inner =>
      match if room = 0 then none else readHost4 inner with
      | some ((a, b, c, d), rest) => ([a * 256 + b, c * 256 + d], true, rest)
      | none =>
        match readGroup inner with
        | none => ([], false, cs)
        | some (g, rest) =>
          let (gs, dotted, rest) := readGroups room false rest
          (g :: gs, dotted, rest)

/-- Eight groups, or fewer with two colons for at least one group of zeros. -/
def readHost6 (cs : List Char) : Option (List Nat × List Char) :=
  let (head, dotted, rest) := readGroups 8 true cs
  if head.length = 8 then some (head, rest)
  else if dotted then none
  else do
    let rest ← expect ':' (← expect ':' rest)
    let (tail, _, rest) := readGroups (7 - head.length) true rest
    return (head ++ List.replicate (8 - head.length - tail.length) 0 ++ tail, rest)

def readZone (cs : List Char) : Option (Nat × List Char) :=
  match cs with
  | '%' :: rest => readNumber 10 (Nat.pow 2 32) rest
  | _ => some (0, cs)

def parse4? (cs : List Char) : Option SocketAddress := do
  let ((a, b, c, d), cs) ← readHost4 cs
  let (service, cs) ← readService cs
  if cs.isEmpty then
    return .v4 a.toUInt8 b.toUInt8 c.toUInt8 d.toUInt8 service.toUInt16
  else none

def parse6? (cs : List Char) : Option SocketAddress := do
  let (groups, cs) ← readHost6 (← expect '[' cs)
  let (zone, cs) ← readZone cs
  let (service, cs) ← readService (← expect ']' cs)
  if cs.isEmpty then return .v6 (groups.map Nat.toUInt16) zone.toUInt32 service.toUInt16 else none

/-- Reads an address; nothing may stand around it. -/
def parse? (s : String) : Option SocketAddress := (parse4? s.toList).or (parse6? s.toList)

def hex (g : UInt16) : String := String.ofList (Nat.toDigits 16 g.toNat)

def joinHex (gs : List UInt16) : String := ":".intercalate (gs.map hex)

/-- The start and length of the longest run of zeros, the first of several. -/
def longestZeros (gs : List UInt16) : Nat × Nat :=
  let runs := (List.range gs.length).map fun n => (n, ((gs.drop n).takeWhile (· == 0)).length)
  runs.foldl (fun best run => if best.2 < run.2 then run else best) (0, 0)

/-- Two colons stand for the longest run of several zeros; four parts for an embedded address. -/
def renderHost6 (gs : List UInt16) : String :=
  match gs with
  | [0, 0, 0, 0, 0, 0xffff, x, y] =>
    "::ffff:" ++ ".".intercalate
      ([x.toNat / 256, x.toNat % 256, y.toNat / 256, y.toNat % 256].map toString)
  | gs =>
    let (start, length) := longestZeros gs
    if 1 < length then joinHex (gs.take start) ++ "::" ++ joinHex (gs.drop (start + length))
    else joinHex gs

def render : SocketAddress → String
  | v4 a b c d service =>
    ".".intercalate ([a, b, c, d].map fun n => toString n.toNat) ++ ":" ++ toString service.toNat
  | v6 groups zone service =>
    "[" ++ renderHost6 groups ++ (if zone = 0 then "" else "%" ++ toString zone.toNat) ++ "]:" ++
      toString service.toNat

end SocketAddress

end GrantGate
