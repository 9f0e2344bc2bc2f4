/-!
# Lines of a text

A line ends with a line feed, and a carriage return right before the line feed belongs to the
end of the line. What follows the last line feed is a line too, unless it is empty.
-/

namespace CommandGrammar

namespace Lines

/-- A line that has ended, without the carriage return at its end; the characters of a line are
collected in reverse. -/
def ended : List Char → List Char
  | '\r' :: held => held.reverse
  | held => held.reverse

/-- The lines ahead, with the characters of the line under way. -/
def collect (held : List Char) : List Char → List (List Char)
  | [] => if held.isEmpty then [] else [held.reverse]
  | '\n' :: rest => ended held :: collect [] rest
  | c :: rest => collect (c :: held) rest

end Lines

/-- The lines of a text. -/
def textLines (text : String) : List String := (Lines.collect [] text.toList).map String.ofList

end CommandGrammar
