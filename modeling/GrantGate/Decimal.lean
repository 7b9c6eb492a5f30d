namespace GrantGate

/-- The number `digits * 10 ^ exponent`, or its negative. -/
structure Decimal where
  negative : Bool
  digits : Nat
  exponent : Int
  deriving DecidableEq, Repr

/-- A fraction, with a denominator that is not zero. -/
structure Ratio where
  num : Nat
  den : Nat

namespace Ratio

def scale (base : Nat) (e : Int) (r : Ratio) : Ratio :=
  if 0 ≤ e then ⟨r.num * Nat.pow base e.toNat, r.den⟩
  else ⟨r.num, r.den * Nat.pow base (-e).toNat⟩

def le (a b : Ratio) : Bool := a.num * b.den ≤ b.num * a.den

def floor (r : Ratio) : Nat := r.num / r.den

/-- The nearest whole number, the even one of two. -/
def round (r : Ratio) : Nat :=
  let q := r.num / r.den
  let twice := 2 * (r.num % r.den)
  if twice < r.den then q
  else if r.den < twice then q + 1
  else q + q % 2

end Ratio

/-- The number `mantissa * 2 ^ exponent`, which has no sign. -/
structure Binary where
  mantissa : Nat
  exponent : Int
  deriving DecidableEq, Repr

namespace Binary

def zero : Binary := ⟨0, 0⟩

def ratio (b : Binary) : Ratio := Ratio.scale 2 b.exponent ⟨b.mantissa, 1⟩

/-- The number of 64 bits that is nearest to a ratio, of two the one with the even mantissa; none
if the ratio is too large for one. -/
def ofRatio? (r : Ratio) : Option Binary :=
  let low : Int := (r.num.log2 : Int) - r.den.log2 - 53
  let fits := Ratio.le (Ratio.scale 2 (low + 53) ⟨1, 1⟩) r
  let q := max (if fits then low + 1 else low) (-1074)
  let m := (r.scale 2 (-q)).round
  let (m, q) := if m = Nat.pow 2 53 then (Nat.pow 2 52, q + 1) else (m, q)
  if m = 0 then some zero else if 971 < q then none else some ⟨m, q⟩

def mul? (a b : Binary) : Option Binary :=
  ofRatio? ⟨a.ratio.num * b.ratio.num, a.ratio.den * b.ratio.den⟩

def div? (a b : Binary) : Option Binary :=
  ofRatio? ⟨a.ratio.num * b.ratio.den, a.ratio.den * b.ratio.num⟩

/-- The largest power of ten that is no larger than a positive ratio. -/
def floorLog10 (r : Ratio) : Int :=
  let guess := ((r.num.log2 : Int) - r.den.log2) * 30103 / 100000
  ([guess + 1, guess, guess - 1].find? fun e => Ratio.le (Ratio.scale 10 e ⟨1, 1⟩) r).getD
    (guess - 2)

def trimZeros : Nat → Nat → Int → Nat × Int
  | 0, digits, e => (digits, e)
  | fuel + 1, digits, e =>
    if digits % 10 = 0 ∧ digits ≠ 0 then trimZeros fuel (digits / 10) (e + 1) else (digits, e)

/-- The decimal of the fewest digits among those that are nearest to a number, and of several the
one closest to it. -/
def shortest (b : Binary) : Nat × Int :=
  let quarter (n : Nat) : Ratio := Ratio.scale 2 (b.exponent - 2) ⟨n, 1⟩
  let m := b.mantissa
  let value := quarter (4 * m)
  let below := quarter (4 * m - if m = Nat.pow 2 52 ∧ -1074 < b.exponent then 1 else 2)
  let above := quarter (4 * m + 2)
  let inside (d : Ratio) : Bool :=
    if m % 2 = 0 then below.le d && d.le above else !d.le below && !above.le d
  let top := floorLog10 value
  let tries : List Int := (List.range 17).map fun (n : Nat) => top - (n : Int)
  let hit := tries.findSome? fun e =>
    let grid := value.scale 10 (-e)
    let down := grid.floor
    let at' (n : Nat) : Ratio := Ratio.scale 10 e ⟨n, 1⟩
    let nearer := grid.round
    if inside (at' nearer) then some (nearer, e)
    else if inside (at' down) then some (down, e)
    else if inside (at' (down + 1)) then some (down + 1, e)
    else none
  match hit with
  | some (digits, e) => trimZeros 20 digits e
  | none => (m, b.exponent)

end Binary

namespace Decimal

def ratio (d : Decimal) : Ratio := Ratio.scale 10 d.exponent ⟨d.digits, 1⟩

/-- The number of 64 bits nearest to a decimal less its sign; none if it is too large for one. -/
def nearest? (d : Decimal) : Option Binary :=
  let size := ((Nat.toDigits 10 d.digits).length : Int) + d.exponent
  if d.digits = 0 ∨ size < -330 then some .zero
  else if 310 < size then none
  else Binary.ofRatio? d.ratio

def ofBinary (negative : Bool) (b : Binary) : Decimal :=
  if b.mantissa = 0 then ⟨negative, 0, 0⟩
  else
    let (digits, e) := b.shortest
    ⟨negative, digits, e⟩

def zeros (n : Int) : String := "".pushn '0' n.toNat

/-- An exponent behind its mark, always with a sign. -/
def renderExponent (e : Int) : String := (if e < 0 then "e" else "e+") ++ toString e

/-- Positional from `1e-5` up to `1e16`, with at least one digit on either side of the point;
otherwise with an exponent. -/
def render (d : Decimal) : String :=
  let ds := Nat.toDigits 10 d.digits
  let text := String.ofList ds
  let point := (ds.length : Int) + d.exponent
  let body :=
    if d.digits = 0 then "0.0"
    else if 0 ≤ d.exponent ∧ point ≤ 16 then text ++ zeros d.exponent ++ ".0"
    else if 0 < point ∧ point ≤ 16 then
      String.ofList (ds.take point.toNat) ++ "." ++ String.ofList (ds.drop point.toNat)
    else if -5 < point ∧ point ≤ 0 then "0." ++ zeros (-point) ++ text
    else
      match ds with
      | [one] => one.toString ++ renderExponent (point - 1)
      | first :: rest =>
        first.toString ++ "." ++ String.ofList rest ++ renderExponent (point - 1)
      | [] => text
  (if d.negative then "-" else "") ++ body

end Decimal

end GrantGate
