import CommandGrammar.Regex.CharClass

/-!
# Places between characters

A condition on a place looks at the characters just before and just after it; at an end of the
text there is none.
-/

namespace CommandGrammar

/-- How a word lies around a place. -/
inductive WordEdge where
  /-- A word begins or ends. -/
  | boundary
  /-- No word begins or ends. -/
  | interior
  /-- A word begins. -/
  | start
  /-- A word ends. -/
  | stop
  /-- There is no word before. -/
  | startHalf
  /-- There is no word after. -/
  | stopHalf
  deriving DecidableEq, Repr

/-- Whether a word lies so, given whether word characters stand before and after. -/
def WordEdge.holds : WordEdge → Bool → Bool → Bool
  | boundary, before, after => before != after
  | interior, before, after => before == after
  | start, before, after => !before && after
  | stop, before, after => before && !after
  | startHalf, before, _ => !before
  | stopHalf, _, after => !after

/-- A condition on a place in a text. -/
inductive Place where
  /-- The start of the text. -/
  | textStart
  /-- The end of the text. -/
  | textEnd
  /-- The start of a line; lines end with a line feed. -/
  | lineStart
  /-- The end of a line; lines end with a line feed. -/
  | lineEnd
  /-- The start of a line; lines end with a carriage return, a line feed or both. -/
  | anyLineStart
  /-- The end of a line; lines end with a carriage return, a line feed or both. -/
  | anyLineEnd
  /-- The edge of a word, of ASCII characters only when not `wide`. -/
  | word (wide : Bool) (edge : WordEdge)
  deriving DecidableEq, Repr

/-- Whether a condition holds between two characters. -/
def Place.holds : Place → Option Char → Option Char → Bool
  | textStart, before, _ => before.isNone
  | textEnd, _, after => after.isNone
  | lineStart, before, _ => before.isNone || before == some '\n'
  | lineEnd, _, after => after.isNone || after == some '\n'
  | anyLineStart, before, after =>
    before.isNone || before == some '\n' || (before == some '\r' && after != some '\n')
  | anyLineEnd, before, after =>
    after.isNone || after == some '\r' || (after == some '\n' && before != some '\r')
  | word wide edge, before, after =>
    edge.holds (before.any (CharSet.word wide).contains) (after.any (CharSet.word wide).contains)

end CommandGrammar
