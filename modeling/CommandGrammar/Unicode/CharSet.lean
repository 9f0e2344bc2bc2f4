import CommandGrammar.Unicode.TableText

/-!
# Sets of characters

A set of characters is a list of ranges of code points. The operations give ranges that
increase and leave a gap between each other, so that equal sets have equal ranges; code points
that are no characters are left out.
-/

namespace CommandGrammar

/-- A range of code points by its first and last one. -/
abbrev CodeRange := Nat × Nat

/-- A set of characters. -/
structure CharSet where
  /-- The ranges whose characters belong to the set. -/
  ranges : List CodeRange
  deriving DecidableEq, Repr, Inhabited

namespace CharSet

/-- Whether a code point lies in one of the ranges. -/
def hasPoint (a : CharSet) (n : Nat) : Bool :=
  a.ranges.any fun r => decide (r.1 ≤ n) && decide (n ≤ r.2)

/-- Whether a character belongs to the set. -/
def contains (a : CharSet) (c : Char) : Bool := a.hasPoint c.toNat

/-- Join a range with those after it that it touches, when the ranges start in increasing
order. -/
def joinFrom (r : CodeRange) : List CodeRange → List CodeRange
  | [] => [r]
  | next :: rest =>
    if next.1 ≤ r.2 + 1 then joinFrom (r.1, max r.2 next.2) rest
    else r :: joinFrom next rest

/-- Put a range into a list of ranges before the first one that starts behind it; what comes
after it is left to `rest`. -/
def placeRange (r : CodeRange) (rest : List CodeRange → List CodeRange) :
    List CodeRange → List CodeRange
  | [] => r :: rest []
  | s :: others => if r.1 ≤ s.1 then r :: rest (s :: others) else s :: placeRange r rest others

/-- Two lists of ranges that start in increasing order as one such list. -/
def mergeRanges : List CodeRange → List CodeRange → List CodeRange
  | [] => fun b => b
  | r :: a => placeRange r (mergeRanges a)

/-- Merge neighbours among lists of ranges. -/
def mergePairs : List (List CodeRange) → List (List CodeRange)
  | a :: b :: rest => mergeRanges a b :: mergePairs rest
  | rest => rest

/-- Merge lists of ranges to one. Every round halves their number, so as many rounds as there
are lists are enough. -/
def mergeAll : (rounds : Nat) → List (List CodeRange) → List CodeRange
  | rounds + 1, a :: b :: rest => mergeAll rounds (mergePairs (a :: b :: rest))
  | _, lists => lists.flatten

/-- Some ranges in the order in which they start. -/
def sortRanges (ranges : List CodeRange) : List CodeRange :=
  mergeAll ranges.length (ranges.map fun r => [r])

/-- The set of the code points in some ranges, which come in any order. -/
def ofRanges (ranges : List CodeRange) : CharSet :=
  match sortRanges ranges with
  | [] => ⟨[]⟩
  | first :: rest => ⟨joinFrom first rest⟩

/-- The set of some code points. -/
def ofPoints (points : List Nat) : CharSet := .ofRanges (points.map fun n => (n, n))

/-- The set with one character. -/
def single (c : Char) : CharSet := ⟨[(c.toNat, c.toNat)]⟩

/-- The characters with code points from one bound to the other. -/
def range (low high : Char) : CharSet := ⟨[(low.toNat, high.toNat)]⟩

/-- The set without characters. -/
def empty : CharSet := ⟨[]⟩

/-- The last code point. -/
def lastPoint : Nat := 0x10ffff

/-- The code points that are no characters. -/
def surrogates : CodeRange := (0xd800, 0xdfff)

/-- The gaps between ranges in increasing order, from a code point on. -/
def gapsFrom (start : Nat) : List CodeRange → List CodeRange
  | [] => if start ≤ lastPoint then [(start, lastPoint)] else []
  | r :: rest =>
    if start < r.1 then (start, r.1 - 1) :: gapsFrom (r.2 + 1) rest
    else gapsFrom (max start (r.2 + 1)) rest

/-- The characters outside a set. -/
def complement (a : CharSet) : CharSet :=
  ⟨gapsFrom 0 (ofRanges (surrogates :: a.ranges)).ranges⟩

/-- The characters in either set. -/
def union (a b : CharSet) : CharSet := .ofRanges (a.ranges ++ b.ranges)

/-- The characters in both sets. -/
def inter (a b : CharSet) : CharSet := (a.complement.union b.complement).complement

/-- The characters in the first set and not in the second. -/
def diff (a b : CharSet) : CharSet := (a.complement.union b).complement

/-- The characters in exactly one of two sets. -/
def symmDiff (a b : CharSet) : CharSet := (a.diff b).union (b.diff a)

/-- The characters in any of some sets. -/
def unions (sets : List CharSet) : CharSet := .ofRanges (sets.flatMap ranges)

/-- The complement when asked for, the set itself otherwise. -/
def negateIf (negated : Bool) (a : CharSet) : CharSet := if negated then a.complement else a

/-- All characters. -/
def all : CharSet := empty.complement

/-- A set given by its ASCII ranges and, for the other characters, by another set. Whether an
ASCII character belongs to it can be seen without the other set. -/
def withAscii (ascii : List CodeRange) (wide : CharSet) : CharSet :=
  ⟨ascii ++ wide.ranges.filter fun r => decide (128 ≤ r.1)⟩

/-- Whether all characters of the set are ASCII ones. -/
def isAscii (a : CharSet) : Bool := a.ranges.all fun r => decide (r.2 < 128)

/-- The only character of the set, if there is just one. -/
def single? (a : CharSet) : Option Char :=
  match a.ranges with
  | [(low, high)] => if low == high then some (Char.ofNat low) else none
  | _ => none

/-- The ranges of a table: each word is one code point or two joined by a hyphen. -/
def ofText (text : String) : CharSet :=
  let range (word : List Char) : CodeRange :=
    match tableNumber 0 word with
    | (first, '-' :: rest) => (first, (tableNumber 0 rest).1)
    | (first, _) => (first, first)
  ⟨(tableWords text).map range⟩

/-- A set with one character contains that one only. -/
theorem contains_single (c d : Char) : (single c).contains d = (d == c) := by
  have : (decide (c.toNat ≤ d.toNat) && decide (d.toNat ≤ c.toNat)) = (d == c) := by
    by_cases h : d = c
    · subst h
      simp
    · have : d.toNat ≠ c.toNat := fun e => h (Char.toNat_inj.mp e)
      simp only [beq_eq_false_iff_ne.mpr h, Bool.and_eq_false_iff, decide_eq_false_iff_not]
      omega
  simpa [single, contains, hasPoint] using this

end CharSet

end CommandGrammar
