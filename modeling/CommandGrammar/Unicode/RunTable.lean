import CommandGrammar.Unicode.CharSet

/-!
# Labelled runs of code points

A run table gives every code point a label. It is written as the first code point of each run
followed by the label of the run, in increasing order; a run ends where the next one begins.
-/

namespace CommandGrammar

/-- A labelling of all code points by runs. -/
structure RunTable where
  /-- The range and the label of each run. -/
  runs : List (CodeRange × String)
  deriving Inhabited

namespace RunTable

/-- Give each run its end, which is before the start of the next one. -/
def close : List (Nat × String) → List (CodeRange × String)
  | [] => []
  | [(first, label)] => [((first, CharSet.lastPoint), label)]
  | (first, label) :: (next, other) :: rest =>
    ((first, next - 1), label) :: close ((next, other) :: rest)

/-- Read a table: each word is the first code point of a run and its label, which starts with
a character that is no digit of a number. -/
def ofText (text : String) : RunTable :=
  let run (word : List Char) : Nat × String :=
    let (first, label) := tableNumber 0 word
    (first, String.ofList label)
  ⟨close ((tableWords text).map run)⟩

/-- The code points with a label that passes a test. -/
def setOf (table : RunTable) (test : String → Bool) : CharSet :=
  .ofRanges ((table.runs.filter fun run => test run.2).map Prod.fst)

end RunTable

end CommandGrammar
