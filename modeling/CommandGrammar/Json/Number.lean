import CommandGrammar.Json.Tree
import CommandGrammar.Numeral.Reading

/-!
# Reading JSON numbers

A number without fraction and exponent stays an integer when sixty-four bits hold it. All
others become doubles: digits are taken as long as an unsigned integer of sixty-four bits holds
them, and the result is scaled by a power of ten, rounding once for each step. A number
beyond the largest double is out of range, while one too small is zero.
-/

namespace CommandGrammar

/-- The written parts of a JSON number. -/
structure WrittenNumber where
  /-- Whether there is a minus sign. -/
  negative : Bool
  /-- The digits in front of the point. -/
  whole : List Char
  /-- The digits after the point, empty if there is no point. -/
  fraction : List Char
  /-- The sign and digits of the exponent, if there is one; `true` for a minus. -/
  exponent : Option (Bool × List Char)

namespace WrittenNumber

/-- The digits at the front of some characters, and the rest. -/
def takeDigits (cs : List Char) : List Char × List Char :=
  (cs.takeWhile isAsciiDigit, cs.dropWhile isAsciiDigit)

/-- The fraction at the front of some characters: nothing without a point, and at least one
digit after one. -/
def takeFraction : List Char → Option (List Char × List Char)
  | '.' :: rest =>
    let (digits, rest) := takeDigits rest
    if digits.isEmpty then none else some (digits, rest)
  | cs => some ([], cs)

/-- The exponent at the front of some characters, which has at least one digit. -/
def takeExponent : List Char → Option (Option (Bool × List Char) × List Char)
  | [] => some (none, [])
  | c :: rest =>
    if c == 'e' || c == 'E' then
      let (negative, rest) := takeSign rest
      let (digits, rest) := takeDigits rest
      if digits.isEmpty then none else some (some (negative, digits), rest)
    else some (none, c :: rest)

/-- The number at the front of some characters, and the rest. No further digit follows a
leading zero. -/
def take? (cs : List Char) : Option (WrittenNumber × List Char) :=
  let (negative, cs) := match cs with
    | '-' :: rest => (true, rest)
    | cs => (false, cs)
  let (whole, rest) := takeDigits cs
  if whole.isEmpty || (whole.head? == some '0' && whole.length != 1) then none
  else match takeFraction rest with
    | none => none
    | some (fraction, rest) =>
      (takeExponent rest).map fun (exponent, rest) =>
        (⟨negative, whole, fraction, exponent⟩, rest)

/-- Append digits to a number as long as it stays below `2^64`; the second part is the digits
from the first that does not fit. -/
def absorb : Nat → List Char → Nat × List Char
  | n, [] => (n, [])
  | n, c :: rest =>
    let next := n * 10 + (c.toNat - '0'.toNat)
    if next < 0x10000000000000000 then absorb next rest else (n, c :: rest)

/-- The largest power of ten that a double holds. -/
def tenLimit : Nat := 308

/-- A power of ten as a double. -/
def tenPower (exponent : Nat) : Binary64 := .ofDecimal false 1 exponent

/-- Multiply a double by a power of ten, at most by the largest one in a step. The result is
out of range when it is too large. -/
def scale? (x : Binary64) (exponent : Int) : Option Binary64 :=
  if exponent.natAbs ≤ tenLimit then
    if 0 ≤ exponent then
      let product := x.scaleUp (tenPower exponent.natAbs)
      if product.isFinite then some product else none
    else some (x.scaleDown (tenPower exponent.natAbs))
  else if x.isZero then some x
  else if 0 ≤ exponent then none
  else scale? (x.scaleDown (tenPower tenLimit)) (exponent + tenLimit)
termination_by exponent.natAbs
decreasing_by simp only [tenLimit] at *; omega

/-- The bounds of exponents, which larger ones are moved to. -/
def exponentLimit : Int := 0x80000000

/-- The double that a significand, an exponent already counted and a written exponent make. -/
def toFloat? (w : WrittenNumber) (significand : Nat) (counted : Int) : Option Binary64 :=
  let signed (x : Binary64) : Binary64 := if w.negative then x.negate else x
  match w.exponent with
  | none => (scale? (.ofInt significand) counted).map signed
  | some (down, digits) =>
    let written : Int := digitsValue digits
    if exponentLimit ≤ written then
      if significand == 0 || down then some (.zero w.negative) else none
    else
      let exponent := if down then max (counted - written) (-exponentLimit)
        else min (counted + written) (exponentLimit - 1)
      (scale? (.ofInt significand) exponent).map signed

/-- The value of a number, unless it is out of range. -/
def value? (w : WrittenNumber) : Option JsonNumber :=
  let (significand, left) := absorb 0 w.whole
  let (withFraction, unread) := absorb significand w.fraction
  let counted : Int := (left.length : Int) - (w.fraction.length - unread.length : Nat)
  if left.isEmpty && w.fraction.isEmpty && w.exponent.isNone then
    if !w.negative then some (.integer significand)
    else if significand != 0 && decide (significand ≤ 0x8000000000000000) then
      some (.integer (-(significand : Int)))
    else some (.float (Binary64.ofInt significand).negate)
  else (w.toFloat? withFraction counted).map .float

end WrittenNumber

end CommandGrammar
