import CommandGrammar.Unicode.CharSet
import CommandGrammar.Unicode.FoldTable

/-!
# Equality of characters up to case

Characters that are equal up to case form classes of two to four members; a character in no
class is equal to itself only. Ignoring case adds to a set all members of the classes it has
members of.
-/

namespace CommandGrammar

/-- The classes of characters equal up to case that have more than one member. -/
def foldClasses : List (List Nat) :=
  (tableWords foldClassText).map fun word =>
    (tableParts '-' word).map fun number => (tableNumber 0 number).1

/-- The classes of letters equal up to case among ASCII characters. -/
def asciiFoldClasses : List (List Nat) :=
  (List.range 26).map fun n => ['A'.toNat + n, 'a'.toNat + n]

namespace CharSet

/-- The characters that are equal up to case to other ones. -/
def inCaseClass : CharSet := .ofPoints foldClasses.flatten

/-- The characters that are equal up to case to a member; up to the case of ASCII letters
when `wide` does not hold. -/
def foldCase (wide : Bool) (a : CharSet) : CharSet :=
  let classes := if wide then foldClasses else asciiFoldClasses
  a.union (.ofPoints (classes.filter fun points => points.any a.hasPoint).flatten)

end CharSet

end CommandGrammar
