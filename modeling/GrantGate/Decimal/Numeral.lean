import GrantGate.Decimal

namespace GrantGate

structure Numeral where
  negative : Bool
  whole : List Nat
  fraction : List Nat
  exponent : Option Int
  deriving DecidableEq, Repr

/-- A number is whole if it is written without fraction and exponent and fits 64 bits. -/
inductive Number where
  | whole (n : Int)
  | real (d : Decimal)
  deriving DecidableEq, Repr

def Number.render : Number → String
  | whole n => toString n
  | real d => d.render

namespace Numeral

/-- Takes digits onto a number for as long as it stays below `2 ^ 64`, and says how many are left
over. -/
def takeDigits (n : Nat) : List Nat → Nat × Nat
  | [] => (n, 0)
  | d :: ds =>
    if n * 10 + d < Nat.pow 2 64 then takeDigits (n * 10 + d) ds else (n, (d :: ds).length)

/-- The leading digits, and the power of ten that goes with them. Digits before the point that are
left over still count as places; behind it they count for nothing. -/
def leading (n : Numeral) : Nat × Int :=
  let (digits, places) := takeDigits 0 n.whole
  let (digits, spare) := takeDigits digits n.fraction
  let point : Int := (n.fraction.length : Int) - spare
  (digits, places - point + n.exponent.getD 0)

def powerOfTen? (e : Nat) : Option Binary := Binary.ofRatio? ⟨Nat.pow 10 e, 1⟩

def divPower? (e : Nat) (b : Binary) : Option Binary := do b.div? (← powerOfTen? e)

/-- Multiplies by a power of ten, or divides by one; none if the result is too large. The largest
power there is has 308 zeros, so a smaller number takes two divisions, after which nothing is left
of `digits` if there are more. -/
def scale? (digits : Nat) (e : Int) : Option Binary := do
  let b ← Binary.ofRatio? ⟨digits, 1⟩
  if digits = 0 ∨ e < -616 then return .zero
  else if 308 < e then none
  else if 0 ≤ e then b.mul? (← powerOfTen? e.toNat)
  else if -308 ≤ e then divPower? (-e).toNat b
  else divPower? (-e - 308).toNat (← divPower? 308 b)

/-- Rounds at each step: the leading digits, the power of ten, and the product or quotient of the
two. So the last place may differ from that of the number nearest to the numeral. -/
def real? (n : Numeral) : Option Decimal :=
  let (digits, e) := n.leading
  (scale? digits e).map (Decimal.ofBinary n.negative)

/-- The number that a numeral without fraction and exponent stands for, if 64 bits hold it. Zero
with a minus sign is not among them. -/
def whole? (n : Numeral) : Option Int :=
  let (digits, spare) := takeDigits 0 n.whole
  if spare ≠ 0 ∨ !n.fraction.isEmpty ∨ n.exponent.isSome then none
  else if !n.negative then some digits
  else if 0 < digits ∧ digits ≤ Nat.pow 2 63 then some (-digits)
  else none

def number? (n : Numeral) : Option Number :=
  match n.whole? with
  | some k => some (.whole k)
  | none => n.real?.map .real

end Numeral

end GrantGate
