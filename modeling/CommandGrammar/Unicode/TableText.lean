/-!
# Tables as texts

Tables over code points are written as words between blanks and line ends, with numbers in
hexadecimal. A number is followed by what belongs to it without a blank in between.
-/

namespace CommandGrammar

/-- The words of a table text, which stand between blanks and line ends. -/
def tableWords (text : String) : List (List Char) :=
  let step (c : Char) : List Char × List (List Char) → List Char × List (List Char)
    | (word, words) =>
      if c == ' ' || c == '\n' then ([], if word.isEmpty then words else word :: words)
      else (c :: word, words)
  let (word, words) := text.toList.foldr step ([], [])
  if word.isEmpty then words else word :: words

/-- The parts of a word that a mark divides. -/
def tableParts (mark : Char) (word : List Char) : List (List Char) :=
  let step (c : Char) : List Char × List (List Char) → List Char × List (List Char)
    | (part, parts) => if c == mark then ([], part :: parts) else (c :: part, parts)
  let (part, parts) := word.foldr step ([], [])
  part :: parts

/-- The value of a digit in a table: decimal digits and `a` to `f`. -/
def tableDigit (c : Char) : Nat :=
  if c.toNat < 'a'.toNat then c.toNat - '0'.toNat else c.toNat - 'a'.toNat + 10

/-- The number at the front of a table word, and what follows it. -/
def tableNumber : Nat → List Char → Nat × List Char
  | value, [] => (value, [])
  | value, c :: rest =>
    if ('0' ≤ c ∧ c ≤ '9') ∨ ('a' ≤ c ∧ c ≤ 'f') then tableNumber (value * 16 + tableDigit c) rest
    else (value, c :: rest)

end CommandGrammar
