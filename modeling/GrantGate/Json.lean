import GrantGate.Decimal.Numeral
import GrantGate.Roster
import GrantGate.Text

namespace GrantGate

inductive Json where
  | null
  | bool (b : Bool)
  | number (n : Number)
  | text (s : String)
  | items (xs : List Json)
  | members (ms : List (String × Json))
  deriving Repr, Inhabited

namespace Json

def ofNat (n : Nat) : Json := .number (.whole n)

def ofTexts (ss : List String) : Json := .items (ss.map .text)

def ofTextOrNull : Option String → Json
  | some s => .text s
  | none => .null

/-- An object of the members in increasing order of their names; of two of one name the later
counts. -/
def ofMembers (ms : List (String × Json)) : Json :=
  .members (ms.foldl (fun sorted m => Roster.place Prod.fst m sorted) [])

def get? (name : String) : Json → Option Json
  | members ms => ms.lookup name
  | _ => none

def escapeChar (c : Char) : String :=
  match c with
  | '"' => "\\\""
  | '\\' => "\\\\"
  | '\n' => "\\n"
  | '\r' => "\\r"
  | '\t' => "\\t"
  | '\x08' => "\\b"
  | '\x0c' => "\\f"
  | c =>
    if c.toNat < 0x20 then
      let hex := Text.hexDigits c.toNat
      "\\u" ++ "".pushn '0' (4 - hex.length) ++ hex
    else c.toString

def renderText (s : String) : String :=
  "\"" ++ String.join (s.toList.map escapeChar) ++ "\""

mutual

def render : Json → String
  | null => "null"
  | bool b => if b then "true" else "false"
  | number n => n.render
  | text s => renderText s
  | items xs => "[" ++ ",".intercalate (renderItems xs) ++ "]"
  | members ms => "\x7b" ++ ",".intercalate (renderMembers ms) ++ "\x7d"

def renderItems : List Json → List String
  | [] => []
  | x :: xs => render x :: renderItems xs

def renderMembers : List (String × Json) → List String
  | [] => []
  | (name, x) :: ms => (renderText name ++ ":" ++ render x) :: renderMembers ms

end

end Json

end GrantGate
