import CommandGrammar.Unicode.CharSet

/-!
# Characters as byte sequences

A character is written as one to four bytes. The characters of a set are covered by sequences
of byte ranges: the characters of a sequence are all those whose bytes lie in its ranges, each
byte in the range of its place. The sequences come in the order of their characters.
-/

namespace CommandGrammar

/-- A range of bytes by its first and last one. -/
abbrev ByteRange := Nat × Nat

/-- The bytes of a code point after the first one, `count` of them. -/
def trailingBytes (point : Nat) : Nat → List Nat
  | 0 => []
  | count + 1 => trailingBytes (point / 64) count ++ [0x80 + point % 64]

/-- The bytes of a code point. -/
def utf8Bytes (point : Nat) : List Nat :=
  if point < 0x80 then [point]
  else if point < 0x800 then (0xc0 + point / 64) :: trailingBytes point 1
  else if point < 0x10000 then (0xe0 + point / 4096) :: trailingBytes point 2
  else (0xf0 + point / 262144) :: trailingBytes point 3

/-- The ranges in which code points have bytes of one number. -/
def byteLengthRanges : List CodeRange :=
  [(0, 0x7f), (0x80, 0x7ff), (0x800, 0xd7ff), (0xe000, 0xffff), (0x10000, 0x10ffff)]

/-- The pieces of a range that one sequence covers each. A piece lies in one block of code
points with the same leading bytes, or consists of whole blocks; the blocks are those of the
last byte, of the last two bytes and so on. -/
def alignedPieces : Nat → Nat → Nat → Nat → List CodeRange
  | 0, _, low, high => [(low, high)]
  | levels + 1, block, low, high =>
    if low / block == high / block then [(low, high)]
    else
      let head := if low % block == 0 then [] else [(low, low / block * block + block - 1)]
      let tail := if high % block == block - 1 then [] else [(high / block * block, high)]
      let first := if low % block == 0 then low else low / block * block + block
      let stop := if high % block == block - 1 then high + 1 else high / block * block
      let middle := if first < stop then alignedPieces levels (block * 64) first (stop - 1) else []
      head ++ middle ++ tail

/-- The sequences for a range of code points. -/
def rangeSequences (range : CodeRange) : List (List ByteRange) :=
  byteLengthRanges.flatMap fun bounds =>
    let low := max range.1 bounds.1
    let high := min range.2 bounds.2
    if low ≤ high then
      (alignedPieces ((utf8Bytes low).length - 1) 64 low high).map fun piece =>
        (utf8Bytes piece.1).zip (utf8Bytes piece.2)
    else []

/-- The sequences for a set. -/
def CharSet.byteSequences (a : CharSet) : List (List ByteRange) :=
  a.ranges.flatMap rangeSequences

end CommandGrammar
