import CommandGrammar.Diagnostic
import CommandGrammar.Matching.FailureSpan

/-!
# Reports for people

Diagnostics and counts as lines of text, the latter in colours.
-/

namespace CommandGrammar

/-- The name of a severity at the front of a report. -/
def Severity.heading : Severity → String
  | error => "error"
  | warn => "warning"
  | info => "info"

/-- Lines with the end of line after each. -/
def joinLines (lines : List String) : String := String.join (lines.map (· ++ "\n"))

/-- The context of a report in one line, if there is any. -/
def Diagnostic.note? (d : Diagnostic) : Option String :=
  match d.context with
  | none => none
  | some context =>
    if context.entries.isEmpty then none
    else some (", ".intercalate (context.entries.map fun (name, text) => s!"{name}={text}"))

/-- A report in lines, with the place in the input if that is known. -/
def Diagnostic.lines (d : Diagnostic) (place : Option ByteSpan) : List String :=
  [s!"{d.severity.heading}[{d.id}]: {d.message}"] ++
    (place.map fun span => s!"  = at: {span.start}..{span.stop}").toList ++
    (d.note?.map fun note => s!"  = note: {note}").toList ++
    ((explain? d.id).map fun text => s!"  = help: {text}").toList

namespace CommandLine

/-- Colours of text on a terminal. -/
inductive Colour where
  /-- For what went wrong. -/
  | red
  /-- For what went well. -/
  | green
  /-- For names. -/
  | cyan
  deriving DecidableEq, Repr

/-- The number of a colour in a control sequence. -/
def Colour.code : Colour → String
  | red => "31"
  | green => "32"
  | cyan => "36"

/-- A text in a colour. -/
def Colour.paint (colour : Colour) (text : String) : String :=
  s!"\x1b[{colour.code}m{text}\x1b[0m"

/-- How many inputs matched and how many did not, those of which there are any. -/
def summaryParts (matched failed : Nat) : List String :=
  (if matched > 0 then [Colour.green.paint s!"{matched} matched"] else []) ++
    (if failed > 0 then [Colour.red.paint s!"{failed} failed"] else [])

/-- The summary in lines; there is none without inputs. -/
def summaryLines (matched failed : Nat) : List String :=
  match summaryParts matched failed with
  | [] => []
  | parts => [", ".intercalate parts]

end CommandLine

end CommandGrammar
