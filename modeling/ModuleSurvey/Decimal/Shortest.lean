import ModuleSurvey.Decimal.Double

/-! # Shortest decimal digits

The fewest decimal digits that read back as a double, and of those the nearest to it.

* `Shortest` — digits and the decimal exponent of the first one.
* `Double.shortest` — the search: on the grid of 1, 2, … 17 digits the two neighbours of the
  number are tested against the interval of all reals that round to it.
-/

namespace ModuleSurvey.Decimal

/-- The number `0.d₁d₂… · 10 ^ point`: its digits, the first and the last of them not zero, and
the place of the point. -/
structure Shortest where
  digits : List Char
  point : Int
  deriving DecidableEq, Repr, Inhabited

namespace Double

/-- Four times the magnitude and the interval of what rounds to it: the ratio of each of
`lower`, `middle` and `upper` to the common denominator. -/
structure Interval where
  lower : Nat
  middle : Nat
  upper : Nat
  den : Nat
  closed : Bool

def interval (d : Double) : Interval :=
  let m := d.significand
  -- Below a power of two the next double is only half as far away.
  let lowerGap := if m = Nat.pow 2 52 ∧ -1074 < d.exponent then 1 else 2
  let (up, den) : Nat × Nat :=
    if d.exponent < 0 then (1, 4 * Nat.pow 2 (-d.exponent).toNat)
    else (Nat.pow 2 d.exponent.toNat, 4)
  { lower := (4 * m - lowerGap) * up
    middle := 4 * m * up
    upper := (4 * m + 2) * up
    den := den
    -- The ends round to the double where its significand is even.
    closed := m % 2 == 0 }

def Interval.holds (i : Interval) (n unit scale : Nat) : Bool :=
  let v := n * unit * i.den
  let lo := i.lower * scale
  let hi := i.upper * scale
  if i.closed then lo ≤ v && v ≤ hi else lo < v && v < hi

/-- The grid point nearest to the number of those of its two neighbours that lie in the interval;
of two equally near ones the even one. -/
def Interval.nearest? (i : Interval) (unit scale : Nat) : Option Nat :=
  let num := i.middle * scale
  let den := unit * i.den
  let floor := num / den
  let rest := num % den
  let below := i.holds floor unit scale && floor ≠ 0
  let above := i.holds (floor + 1) unit scale
  if below && above then
    some (if 2 * rest < den then floor else if den < 2 * rest then floor + 1
      else if floor % 2 = 0 then floor else floor + 1)
  else if below then some floor
  else if above then some (floor + 1)
  else none

/-- The digits of the first grid with a point in the interval. `point` is the decimal exponent of
the number, `0.1 ≤ number / 10 ^ point < 1`. -/
def Interval.search (i : Interval) (point : Int) : (digits more : Nat) → Shortest
  | _, 0 => ⟨['0'], 0⟩
  | count, more + 1 =>
    let step := point - count
    let (unit, scale) : Nat × Nat :=
      if step < 0 then (1, Nat.pow 10 (-step).toNat) else (Nat.pow 10 step.toNat, 1)
    match i.nearest? unit scale with
    | some n =>
      let shown := Nat.toDigits 10 n
      -- Rounding up to a power of ten gives one digit more.
      ⟨(shown.reverse.dropWhile (· == '0')).reverse, step + shown.length⟩
    | none => i.search point (count + 1) more

/-- The decimal exponent of a positive ratio: the least `p` with `num / den < 10 ^ p`. -/
def decimalPoint (num den : Nat) : Int :=
  if den ≤ num then digitCount (num / den)
  else
    -- `den / num` rounded up has one digit more than there are zeros behind the point, unless it
    -- is a power of ten.
    let inverse := (den + num - 1) / num
    1 - (digitCount (inverse - 1) : Int)

/-- The fewest digits that read back as this number, and of those the nearest ones. -/
def shortest (d : Double) : Shortest :=
  if d.isZero then ⟨['0'], 1⟩
  else
    let (num, den) := d.ratio
    d.interval.search (decimalPoint num den) 1 17

end Double

end ModuleSurvey.Decimal
