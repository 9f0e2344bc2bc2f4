import CommandGrammar.Numeral.Binary64

/-!
# Reading numerals

Integers are read in base ten or sixteen with an optional sign and must fit sixty-four bits;
digits are ASCII digits only. Floating-point numerals are rounded to the nearest number, so
one too large is an infinity and no well-formed numeral fails.
-/

namespace CommandGrammar

/-- The integers of sixty-four bits with a sign. -/
def fitsInt64 (n : Int) : Bool :=
  decide (-0x8000000000000000 ≤ n) && decide (n < 0x8000000000000000)

/-- The value of an ASCII digit or letter as a digit, if it is one of the given base. -/
def digitValue? (base : Nat) (c : Char) : Option Nat :=
  let value :=
    if '0' ≤ c ∧ c ≤ '9' then c.toNat - '0'.toNat
    else if 'a' ≤ c ∧ c ≤ 'z' then c.toNat - 'a'.toNat + 10
    else if 'A' ≤ c ∧ c ≤ 'Z' then c.toNat - 'A'.toNat + 10
    else base
  if value < base then some value else none

/-- Continue a natural with further digits; fails at the first character that is none. -/
def readDigits (base : Nat) : Nat → List Char → Option Nat
  | value, [] => some value
  | value, c :: rest =>
    match digitValue? base c with
    | some d => readDigits base (value * base + d) rest
    | none => none

/-- A natural of at least one digit. -/
def readNat? (base : Nat) : List Char → Option Nat
  | [] => none
  | cs => readDigits base 0 cs

/-- Take a sign off the front; `true` for a minus. -/
def takeSign : List Char → Bool × List Char
  | '-' :: rest => (true, rest)
  | '+' :: rest => (false, rest)
  | cs => (false, cs)

/-- A signed integer of sixty-four bits in the given base. -/
def readInt64? (base : Nat) (cs : List Char) : Option Int :=
  let (negative, digits) := takeSign cs
  match readNat? base digits with
  | none => none
  | some n =>
    let value : Int := if negative then -(n : Int) else n
    if fitsInt64 value then some value else none

/-- Whether a character is an ASCII digit. -/
def isAsciiDigit (c : Char) : Bool := decide ('0' ≤ c) && decide (c ≤ '9')

/-- The value of a run of ASCII digits. -/
def digitsValue (cs : List Char) : Nat :=
  cs.foldl (fun value c => value * 10 + (c.toNat - '0'.toNat)) 0

/-- Lower-case an ASCII letter. -/
def asciiLower (c : Char) : Char :=
  if 'A' ≤ c ∧ c ≤ 'Z' then Char.ofNat (c.toNat + 32) else c

/-- Equality of texts up to the case of ASCII letters. -/
def equalsIgnoringCase (a b : List Char) : Bool := a.map asciiLower == b.map asciiLower

/-- The exponent part of a numeral: nothing, or `e` and a signed integer. -/
def readExponent? : List Char → Option Int
  | [] => some 0
  | c :: rest =>
    if c == 'e' || c == 'E' then
      let (negative, digits) := takeSign rest
      (readNat? 10 digits).map fun n => if negative then -(n : Int) else n
    else none

/-- A floating-point numeral: digits with an optional point among them or at either end, an
optional exponent, or the words for infinity and NaN; each with an optional sign. -/
def readBinary64? (cs : List Char) : Option Binary64 :=
  let (negative, body) := takeSign cs
  if equalsIgnoringCase body "inf".toList || equalsIgnoringCase body "infinity".toList then
    some (.infinity negative)
  else if equalsIgnoringCase body "nan".toList then some (.nan negative)
  else
    let whole := body.takeWhile isAsciiDigit
    let afterWhole := body.dropWhile isAsciiDigit
    let (fraction, tail) := match afterWhole with
      | '.' :: rest => (rest.takeWhile isAsciiDigit, rest.dropWhile isAsciiDigit)
      | rest => ([], rest)
    if whole.isEmpty && fraction.isEmpty then none
    else (readExponent? tail).map fun exponent =>
      .ofDecimal negative (digitsValue (whole ++ fraction)) (exponent - fraction.length)

end CommandGrammar
