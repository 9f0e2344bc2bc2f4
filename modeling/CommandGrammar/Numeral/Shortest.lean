import CommandGrammar.Numeral.Binary64

/-!
# Shortest decimal digits

A decimal reads back as a number when it lies in the number's rounding interval. Among all
decimals that read back, those with the fewest digits are kept, and of these the one nearest
to the number. For each count of digits only the two neighbours of the number on that
decimal grid can be nearest, so the search tests two candidates a count, from one digit on.
Where both are equally near, a rule says which is kept.
-/

namespace CommandGrammar

/-- Which of two decimals is kept when both are equally near. -/
inductive TieRule where
  /-- The greater one. -/
  | upward
  /-- The one whose last digit is even. -/
  | toEven
  deriving DecidableEq, Repr

/-- Whether the greater one of two neighbours is kept, given the smaller one. -/
def TieRule.keepsGreater : TieRule → Nat → Bool
  | upward, _ => true
  | toEven, smaller => smaller % 2 == 1

/-- A positive decimal `digits * 10^exponent`. -/
structure Decimal where
  /-- All digits, the first one not zero. -/
  digits : Nat
  /-- Power of ten of the last digit. -/
  exponent : Int
  deriving DecidableEq, Repr

namespace Decimal

/-- How many digits are written. -/
def digitCount (d : Decimal) : Nat := (Nat.toDigits 10 d.digits).length

/-- Power of ten of the first digit. -/
def leadingExponent (d : Decimal) : Int := d.exponent + d.digitCount - 1

/-- The decimal `digits * 10^exponent` written without zeros at its end. -/
def trim (digits : Nat) (exponent : Int) : Decimal :=
  if h : digits ≠ 0 ∧ digits % 10 = 0 then trim (digits / 10) (exponent + 1)
  else ⟨digits, exponent⟩
termination_by digits
decreasing_by omega

end Decimal

namespace Binary64

/-- The reals that round to one number, as numerators over a common denominator. -/
structure RoundingInterval where
  /-- Lower end. -/
  low : Nat
  /-- The number itself. -/
  middle : Nat
  /-- Upper end. -/
  high : Nat
  /-- Common denominator. -/
  den : Nat
  /-- Whether the two ends round to the number too. -/
  closed : Bool

/-- The rounding interval of a finite magnitude: half a step to each side, but a quarter
below the first significand of a scale, where the numbers below lie twice as dense. -/
def roundingInterval (x : Binary64) : RoundingInterval :=
  let ⟨m, e⟩ := x.parts
  let below := if m == hiddenBit && 0 < e then 1 else 2
  { low := (4 * m - below) * Nat.pow 2 e
    middle := 4 * m * Nat.pow 2 e
    high := (4 * m + 2) * Nat.pow 2 e
    den := Nat.pow 2 1076
    closed := m % 2 == 0 }

/-- Whether `num / den` rounds to the number. -/
def RoundingInterval.contains (r : RoundingInterval) (num den : Nat) : Bool :=
  if r.closed then
    decide (r.low * den ≤ num * r.den) && decide (num * r.den ≤ r.high * den)
  else
    decide (r.low * den < num * r.den) && decide (num * r.den < r.high * den)

/-- Distance of naturals. -/
def gap (a b : Nat) : Nat := (a - b) + (b - a)

/-- The better of the two neighbours on the grid of multiples of `10^exponent`, if one of
them reads back: the nearer one, by the rule for ties if both are equally near. -/
def RoundingInterval.onGrid? (ties : TieRule) (r : RoundingInterval) (exponent : Int) :
    Option Nat :=
  let up := Nat.pow 10 exponent.toNat
  let down := Nat.pow 10 (-exponent).toNat
  let floor := r.middle * down / (r.den * up)
  let reads (d : Nat) : Bool := r.contains (d * up) down
  let distance (d : Nat) : Nat := gap (d * up * r.den) (r.middle * down)
  match reads floor, reads (floor + 1) with
  | false, false => none
  | true, false => some floor
  | false, true => some (floor + 1)
  | true, true =>
    if distance floor < distance (floor + 1) then some floor
    else if distance (floor + 1) < distance floor then some (floor + 1)
    else some (if ties.keepsGreater floor then floor + 1 else floor)

/-- Try grids from coarse to fine; the last one always has a hit for a double. -/
def RoundingInterval.search (ties : TieRule) (r : RoundingInterval) : Nat → Int → Decimal
  | 0, exponent => ⟨(r.onGrid? ties exponent).getD 0, exponent⟩
  | more + 1, exponent =>
    match r.onGrid? ties exponent with
    | some 0 | none => r.search ties more (exponent - 1)
    | some d => Decimal.trim d exponent

/-- Power of ten of the first digit of `num / den`, from an estimate that is never above it
by more than the two steps tried. -/
def leadingPower (num den : Nat) : Int :=
  let estimate : Int := ((num.log2 : Int) - (den.log2 : Int)) * 30103 / 100000 + 2
  let atLeast (p : Int) : Bool :=
    decide (den * Nat.pow 10 p.toNat ≤ num * Nat.pow 10 (-p).toNat)
  if atLeast estimate then estimate
  else if atLeast (estimate - 1) then estimate - 1
  else if atLeast (estimate - 2) then estimate - 2
  else if atLeast (estimate - 3) then estimate - 3
  else estimate - 4

/-- The shortest decimal that reads back as a finite magnitude other than zero. -/
def shortest (x : Binary64) (ties : TieRule) : Decimal :=
  let r := x.roundingInterval
  r.search ties 17 (leadingPower r.middle r.den)

end Binary64

end CommandGrammar
