import CommandGrammar.Numeral.Shortest

/-!
# Writing double-precision numbers

The digits are always the shortest ones; a layout says where plain notation ends and how the
two notations look. The library writes two layouts: the one of JSON texts and the plain one
of messages.
-/

namespace CommandGrammar

/-- The decisions of a number format that the digits leave open. -/
structure FloatLayout where
  /-- The leading exponents written plainly; `none` for all of them. -/
  plain : Option (Int × Int)
  /-- Whether a whole number gets a `.0`. -/
  pointZero : Bool
  /-- Which of two equally near decimals is written. -/
  ties : TieRule

namespace FloatLayout

/-- JSON texts: plain from `10^-5` up to `10^15`, a fraction digit always, a sign always in
the exponent, ties to the even digit. -/
def json : FloatLayout := ⟨some (-5, 15), true, .toEven⟩

/-- Messages: never an exponent, no fraction for whole numbers, ties upward. -/
def plainest : FloatLayout := ⟨none, false, .upward⟩

end FloatLayout

namespace Decimal

/-- The digits as characters. -/
def digitChars (d : Decimal) : List Char := Nat.toDigits 10 d.digits

/-- Plain notation: zeros are filled in up to the point, on whichever side it falls. -/
def plainText (d : Decimal) (pointZero : Bool) : List Char :=
  let digits := d.digitChars
  let whole := d.leadingExponent + 1
  if whole ≤ 0 then
    '0' :: '.' :: List.replicate (-whole).toNat '0' ++ digits
  else if d.digitCount ≤ whole.toNat then
    digits ++ List.replicate (whole.toNat - d.digitCount) '0' ++
      (if pointZero then ['.', '0'] else [])
  else
    digits.take whole.toNat ++ '.' :: digits.drop whole.toNat

/-- Exponent notation: one digit, a point if more follow, and a signed exponent. -/
def exponentText (d : Decimal) : List Char :=
  let power := d.leadingExponent
  let mantissa := match d.digitChars with
    | [] => []
    | [c] => [c]
    | c :: rest => c :: '.' :: rest
  mantissa ++ 'e' :: (if power < 0 then '-' else '+') :: Nat.toDigits 10 power.natAbs

end Decimal

namespace Binary64

/-- A magnitude other than zero in the given layout. -/
def magnitudeText (layout : FloatLayout) (x : Binary64) : List Char :=
  let d := x.shortest layout.ties
  match layout.plain with
  | none => d.plainText layout.pointZero
  | some (low, high) =>
    if low ≤ d.leadingExponent ∧ d.leadingExponent ≤ high then d.plainText layout.pointZero
    else d.exponentText

/-- A number in the given layout; infinities and NaN are spelled `inf` and `NaN`. -/
def text (layout : FloatLayout) (x : Binary64) : String :=
  let sign := if x.isNegative && !x.isNaN then ['-'] else []
  let body :=
    if x.isNaN then ['N', 'a', 'N']
    else if !x.isFinite then ['i', 'n', 'f']
    else if x.isZero then (if layout.pointZero then ['0', '.', '0'] else ['0'])
    else x.magnitudeText layout
  String.ofList (sign ++ body)

end Binary64

end CommandGrammar
