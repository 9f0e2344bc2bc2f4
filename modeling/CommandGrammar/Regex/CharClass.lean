import CommandGrammar.Unicode.DecimalDigit
import CommandGrammar.Unicode.Letters
import CommandGrammar.Unicode.Marks

/-!
# Classes of characters in regular expressions

The classes with names are the POSIX ones and the three that are written with a letter:
digits, blanks and word characters. Each of the three has a narrow form for ASCII characters
only.
-/

namespace CommandGrammar.CharSet

/-- The ASCII ranges of digits. -/
def asciiDigit : List CodeRange := [(0x30, 0x39)]

/-- The ASCII ranges of blanks. -/
def asciiBlank : List CodeRange := [(0x9, 0xd), (0x20, 0x20)]

/-- The ASCII ranges of word characters. -/
def asciiWord : List CodeRange := [(0x30, 0x39), (0x41, 0x5a), (0x5f, 0x5f), (0x61, 0x7a)]

/-- What words are made of: what is alphabetic, marks, decimal digits, connectors and the join
controls. -/
def wordCharacter : CharSet :=
  withAscii asciiWord
    (unions [alphabetic, mark, decimalDigit, categorySet ["Pc"], joinControl])

/-- Digits. -/
def digit (wide : Bool) : CharSet := if wide then decimalDigit else ⟨asciiDigit⟩

/-- Blanks. -/
def blank (wide : Bool) : CharSet :=
  if wide then withAscii asciiBlank whiteSpace else ⟨asciiBlank⟩

/-- The characters of a word. -/
def word (wide : Bool) : CharSet := if wide then wordCharacter else ⟨asciiWord⟩

/-- The POSIX classes by name. -/
def posix? : List Char → Option CharSet
  | ['a', 'l', 'n', 'u', 'm'] => some ⟨[(0x30, 0x39), (0x41, 0x5a), (0x61, 0x7a)]⟩
  | ['a', 'l', 'p', 'h', 'a'] => some ⟨[(0x41, 0x5a), (0x61, 0x7a)]⟩
  | ['a', 's', 'c', 'i', 'i'] => some ⟨[(0, 0x7f)]⟩
  | ['b', 'l', 'a', 'n', 'k'] => some ⟨[(0x9, 0x9), (0x20, 0x20)]⟩
  | ['c', 'n', 't', 'r', 'l'] => some ⟨[(0, 0x1f), (0x7f, 0x7f)]⟩
  | ['d', 'i', 'g', 'i', 't'] => some ⟨asciiDigit⟩
  | ['g', 'r', 'a', 'p', 'h'] => some ⟨[(0x21, 0x7e)]⟩
  | ['l', 'o', 'w', 'e', 'r'] => some ⟨[(0x61, 0x7a)]⟩
  | ['p', 'r', 'i', 'n', 't'] => some ⟨[(0x20, 0x7e)]⟩
  | ['p', 'u', 'n', 'c', 't'] =>
    some ⟨[(0x21, 0x2f), (0x3a, 0x40), (0x5b, 0x60), (0x7b, 0x7e)]⟩
  | ['s', 'p', 'a', 'c', 'e'] => some ⟨asciiBlank⟩
  | ['u', 'p', 'p', 'e', 'r'] => some ⟨[(0x41, 0x5a)]⟩
  | ['w', 'o', 'r', 'd'] => some ⟨asciiWord⟩
  | ['x', 'd', 'i', 'g', 'i', 't'] => some ⟨[(0x30, 0x39), (0x41, 0x46), (0x61, 0x66)]⟩
  | _ => none

end CommandGrammar.CharSet
