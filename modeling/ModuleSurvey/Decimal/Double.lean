/-! # Doubles

The finite numbers of IEEE 754 binary64, and rounding a ratio to the nearest of them.

* `Double` — sign, significand and power of two; `Double.ofRatio?` rounds to nearest, ties to even.
* `Double.ofDecimal?` — the nearest double of a decimal number.
* `Double.scale?` — one rounded multiplication or division by a rounded power of ten, the way a
  decimal number is read from at most 64 bits of its digits.
-/

namespace ModuleSurvey.Decimal

/-- The number `± significand · 2 ^ exponent`. A number made by `Double.ofRatio?` has an exponent
between -1074 and 971 and a significand of at most 53 bits, all 53 of them unless the exponent is
-1074. -/
structure Double where
  negative : Bool
  significand : Nat
  exponent : Int
  deriving DecidableEq, Repr, Inhabited

namespace Double

def zero (negative : Bool) : Double := ⟨negative, 0, -1074⟩

def isZero (d : Double) : Bool := d.significand == 0

def ratio (d : Double) : Nat × Nat :=
  if d.exponent < 0 then (d.significand, Nat.pow 2 (-d.exponent).toNat)
  else (d.significand * Nat.pow 2 d.exponent.toNat, 1)

def roundHalfEven (num den : Nat) : Nat :=
  let q := num / den
  let r := num % den
  if 2 * r < den then q else if den < 2 * r then q + 1 else if q % 2 = 0 then q else q + 1

/-- The power of two that leaves 53 bits of `num / den`, but not less than -1074. -/
def fittingExponent (num den : Nat) : Int :=
  let guess : Int := (Nat.log2 num : Int) - (Nat.log2 den : Int)
  -- The quotient lies between `2 ^ (guess - 1)` and `2 ^ (guess + 1)`.
  let below :=
    if guess < 0 then num * Nat.pow 2 (-guess).toNat < den else num < den * Nat.pow 2 guess.toNat
  max (-1074) ((if below then guess - 1 else guess) - 52)

/-- The double nearest to `num / den`, of two the one with the even significand. `none` where the
magnitude rounds beyond the largest double. -/
def ofRatio? (negative : Bool) (num den : Nat) : Option Double :=
  if num = 0 then some (zero negative)
  else
    let e := fittingExponent num den
    let m :=
      if e < 0 then roundHalfEven (num * Nat.pow 2 (-e).toNat) den
      else roundHalfEven num (den * Nat.pow 2 e.toNat)
    let (m, e) := if m = Nat.pow 2 53 then (Nat.pow 2 52, e + 1) else (m, e)
    if 971 < e then none else some ⟨negative, m, e⟩

def digitCount (n : Nat) : Nat := (Nat.toDigits 10 n).length

/-- The double nearest to `± n · 10 ^ exponent`. -/
def ofDecimal? (negative : Bool) (n : Nat) (exponent : Int) : Option Double :=
  if n = 0 then some (zero negative)
  else
    let magnitude := exponent + digitCount n
    -- Far outside the range of the doubles the power is not computed.
    if magnitude < -400 then some (zero negative)
    else if 400 < magnitude then none
    else if exponent < 0 then ofRatio? negative n (Nat.pow 10 (-exponent).toNat)
    else ofRatio? negative (n * Nat.pow 10 exponent.toNat) 1

def ofInt? (n : Int) : Option Double :=
  ofRatio? (n < 0) n.natAbs 1

def maxTenPower : Nat := 308

/-- The magnitude of `d` times the double nearest to `10 ^ k`, rounded. -/
def timesTenPower? (d : Double) (k : Nat) : Option Double := do
  let (a, b) := d.ratio
  let (p, q) := (← ofRatio? false (Nat.pow 10 k) 1).ratio
  ofRatio? d.negative (a * p) (b * q)

/-- The magnitude of `d` divided by the double nearest to `10 ^ k`, rounded. -/
def overTenPower? (d : Double) (k : Nat) : Option Double := do
  let (a, b) := d.ratio
  let (p, q) := (← ofRatio? false (Nat.pow 10 k) 1).ratio
  ofRatio? d.negative (a * q) (b * p)

/-- Divides by `10 ^ k`. `steps` bounds the number of divisions by the largest power of ten. -/
def shrink? (d : Double) (k : Nat) : (steps : Nat) → Option Double
  | 0 => some (zero d.negative)
  | steps + 1 =>
    if k ≤ maxTenPower then d.overTenPower? k
    -- A result of zero stays zero.
    else if d.isZero then some d
    else do (← d.overTenPower? maxTenPower).shrink? (k - maxTenPower) steps

/-- The double of `± significand · 10 ^ exponent`, where the significand is rounded first and the
power of ten is applied by one more rounded operation. `none` where the number is too large. -/
def scale? (negative : Bool) (significand : Nat) (exponent : Int) : Option Double := do
  let d ← ofRatio? negative significand 1
  if exponent < 0 then
    -- Four divisions by the largest power of ten take any significand of 64 bits to zero.
    d.shrink? (-exponent).toNat 4
  else if exponent.toNat ≤ maxTenPower then d.timesTenPower? exponent.toNat
  else if d.isZero then some d
  else none

end Double

end ModuleSurvey.Decimal
