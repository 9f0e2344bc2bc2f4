/-!
# Double-precision numbers by their code

A number is kept as its 64-bit interchange code, so equality is decidable and every
operation is exact arithmetic on naturals. The codes of the non-negative numbers are
ordered as the numbers are: code `e * 2^52 + m` with `2^52 ≤ m < 2^53`, or with `e = 0`
and `m < 2^52`, stands for `m * 2^(e - 1074)`. Rounding a ratio therefore only has to
choose the scale `e`, and a carry out of the mantissa needs no case of its own.
-/

namespace CommandGrammar

/-- A double-precision number, identified by its interchange code. -/
structure Binary64 where
  /-- Sign, eleven exponent bits and fifty-two fraction bits. -/
  bits : UInt64
  deriving DecidableEq, Repr

namespace Binary64

/-- The sign bit of a code, `2^63`. -/
def signBit : Nat := 0x8000000000000000

/-- The leading bit of a significand, which codes do not hold, `2^52`. -/
def hiddenBit : Nat := 0x10000000000000

/-- The code of positive infinity; larger magnitudes are not numbers. -/
def infinityCode : Nat := 0x7ff0000000000000

/-- The code of a magnitude, with the sign bit added when `negative` holds. -/
def ofCode (negative : Bool) (code : Nat) : Binary64 :=
  ⟨UInt64.ofNat (if negative then code + signBit else code)⟩

/-- Whether the sign bit is set. -/
def isNegative (x : Binary64) : Bool := decide (signBit ≤ x.bits.toNat)

/-- The code without its sign bit. -/
def code (x : Binary64) : Nat := x.bits.toNat % signBit

/-- Neither an infinity nor a NaN. -/
def isFinite (x : Binary64) : Bool := decide (x.code < infinityCode)

/-- Exponent all ones with a fraction that is not zero. -/
def isNaN (x : Binary64) : Bool := decide (infinityCode < x.code)

/-- Positive or negative zero. -/
def isZero (x : Binary64) : Bool := x.code == 0

/-- Infinity of the given sign. -/
def infinity (negative : Bool) : Binary64 := ofCode negative infinityCode

/-- The quiet NaN, with the given sign bit. -/
def nan (negative : Bool) : Binary64 := ofCode negative 0x7ff8000000000000

/-- Zero of the given sign. -/
def zero (negative : Bool) : Binary64 := ofCode negative 0

/-- The same number with the opposite sign bit. -/
def negate (x : Binary64) : Binary64 := ofCode (!x.isNegative) x.code

/-- Integer significand and binary scale of a finite number: its magnitude is
`significand * 2^(scale - 1074)`. -/
structure Parts where
  /-- Fifty-three bits at most. -/
  significand : Nat
  /-- Exponent of two, counted from the smallest one. -/
  scale : Nat
  deriving DecidableEq, Repr

/-- Split a magnitude code into significand and scale. -/
def parts (x : Binary64) : Parts :=
  if x.code < hiddenBit then ⟨x.code, 0⟩
  else ⟨x.code % hiddenBit + hiddenBit, x.code / hiddenBit - 1⟩

/-- Quotient of naturals rounded to the nearest integer, a tie going to the even one. -/
def roundQuotient (num den : Nat) : Nat :=
  let q := num / den
  let twice := 2 * (num % den)
  if den < twice || (twice == den && q % 2 == 1) then q + 1 else q

/-- The code nearest to `num / den`, a tie going to the even significand, and infinity's
code from the point where rounding leaves the finite range. -/
def nearestCode (num den : Nat) : Nat :=
  let scaled := num * Nat.pow 2 1074
  let scale := (scaled / den).log2 - 52
  min (scale * hiddenBit + roundQuotient scaled (den * Nat.pow 2 scale)) infinityCode

/-- The number nearest to a ratio of naturals. -/
def ofRatio (negative : Bool) (num den : Nat) : Binary64 :=
  ofCode negative (nearestCode num den)

/-- The number nearest to an integer. -/
def ofInt (n : Int) : Binary64 := ofRatio (decide (n < 0)) n.natAbs 1

/-- Numerator of a finite magnitude over `2^1074`. -/
def numerator (x : Binary64) : Nat := x.parts.significand * Nat.pow 2 x.parts.scale

/-- Product of two finite magnitudes, rounded once. -/
def scaleUp (x y : Binary64) : Binary64 :=
  ofRatio x.isNegative (x.numerator * y.numerator) (Nat.pow 2 2148)

/-- Quotient of two finite magnitudes, rounded once; the divisor is not zero. -/
def scaleDown (x y : Binary64) : Binary64 :=
  ofRatio x.isNegative x.numerator y.numerator

/-- The number nearest to `significand * 10^exponent`. Exponents outside the range where a
finite number other than zero can result are answered without computing the power. -/
def ofDecimal (negative : Bool) (significand : Nat) (exponent : Int) : Binary64 :=
  let digits := significand.log2 / 3 + 1
  if significand == 0 then zero negative
  else if 310 < exponent then infinity negative
  else if exponent + digits < -330 then zero negative
  else if 0 ≤ exponent then ofRatio negative (significand * Nat.pow 10 exponent.toNat) 1
  else ofRatio negative significand (Nat.pow 10 (-exponent).toNat)

end Binary64

end CommandGrammar
