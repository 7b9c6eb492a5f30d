import GrantGate.Text.Printable

namespace GrantGate.Text

/-- White space in the sense of the Unicode property White_Space. -/
def isBlank (c : Char) : Bool :=
  let n := c.toNat
  (9 ≤ n && n ≤ 13) || n == 0x20 || n == 0x85 || n == 0xa0 || n == 0x1680 ||
    (0x2000 ≤ n && n ≤ 0x200a) || n == 0x2028 || n == 0x2029 || n == 0x202f || n == 0x205f ||
    n == 0x3000

def trim (cs : List Char) : List Char :=
  ((cs.dropWhile isBlank).reverse.dropWhile isBlank).reverse

def hexDigit? (c : Char) : Option Nat :=
  if '0' ≤ c ∧ c ≤ '9' then some (c.toNat - '0'.toNat)
  else if 'a' ≤ c ∧ c ≤ 'f' then some (c.toNat - 'a'.toNat + 10)
  else if 'A' ≤ c ∧ c ≤ 'F' then some (c.toNat - 'A'.toNat + 10)
  else none

def hexNumber? (cs : List Char) : Option Nat :=
  cs.foldlM (fun n c => (hexDigit? c).map (n * 16 + ·)) 0

def hexDigits (n : Nat) : String := String.ofList (Nat.toDigits 16 n)

def hexByte? (a b : UInt8) : Option UInt8 :=
  (hexNumber? [Char.ofNat a.toNat, Char.ofNat b.toNat]).map Nat.toUInt8

/-- Reads two hexadecimal digits behind a percent sign as a byte; any other percent sign stands for
itself. -/
def percentBytes : List UInt8 → List UInt8
  | [] => []
  | 37 :: a :: b :: rest =>
    match hexByte? a b with
    | some x => x :: percentBytes rest
    | none => 37 :: percentBytes (a :: b :: rest)
  | c :: rest => c :: percentBytes rest

/-- The text that the bytes spell; none if they spell none. -/
def percentDecode? (s : String) : Option String :=
  String.fromUTF8? ⟨(percentBytes s.toUTF8.toList).toArray⟩

/-- One character of a quoted text. A mark that would join the quote, and whatever does not print,
is written by its code point. -/
def escapeChar (c : Char) : String :=
  match c with
  | '\x00' => "\\0"
  | '\t' => "\\t"
  | '\n' => "\\n"
  | '\r' => "\\r"
  | '\\' => "\\\\"
  | '"' => "\\\""
  | c =>
    if isExtending c || !isPrintable c then "\\u\x7b" ++ hexDigits c.toNat ++ "\x7d"
    else c.toString

/-- Names in messages stand in double quotes, with everything escaped that would not show on the
line. -/
def quote (s : String) : String :=
  "\"" ++ String.join (s.toList.map escapeChar) ++ "\""

def quoteList (ss : List String) : String :=
  "[" ++ ", ".intercalate (ss.map quote) ++ "]"

end GrantGate.Text
