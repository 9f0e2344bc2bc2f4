import CommandGrammar.CommandLine.Arguments
import CommandGrammar.CommandLine.Display
import CommandGrammar.Document.Input
import CommandGrammar.Matching.Analysis
import CommandGrammar.Matching.Report
import CommandGrammar.Text.Lines

/-!
# Trials

A trial is one source text with what matching it gave. The sources of a task are its operands,
where a single hyphen stands for the lines on standard input that are not blank. A result with
an error and an error alone are told apart in a report only by what was captured.
-/

namespace CommandGrammar.CommandLine

/-- The operand that stands for the lines on standard input. -/
def standardInput : String := "-"

/-- The sources on standard input. -/
def inputSources (text : String) : List String :=
  (textLines text).filter fun line => !isBlankText line

/-- The sources of operands. Standard input is used up where it is first named. -/
def sourcesOf {ε : Type} (input : Except ε String) : List String → Except ε (List String)
  | [] => .ok []
  | operand :: rest =>
    if operand = standardInput then do
      let text ← input
      .ok (inputSources text ++ (← sourcesOf (.ok "") rest))
    else do .ok (operand :: (← sourcesOf input rest))

/-- A source with what matching it gave. -/
structure Trial where
  /-- The source text. -/
  source : String
  /-- The result, or an error alone from a command that raises errors. -/
  outcome : Except MatchError MatchResult

namespace Trial

/-- The error of a source that does not match. -/
def error? (t : Trial) : Option MatchError :=
  match t.outcome with
  | .ok result => result.error?
  | .error e => some e

/-- Whether the source matches. -/
def isMatch (t : Trial) : Bool := t.error?.isNone

/-- The result, or the error alone, as a JSON tree. -/
def resultJson (t : Trial) : Json :=
  match t.outcome with
  | .ok result => result.toJson
  | .error e => .object [("matched", .bool false), ("error", e.toJson)]

/-- The trial as a JSON tree with sorted fields. -/
def toJson (t : Trial) : Json :=
  Json.sortFields (.object [("input", .string t.source), ("result", t.resultJson)])

/-- The result over several lines; an error alone has none. -/
def resultLines (t : Trial) : List String :=
  match t.outcome with
  | .ok result => [result.prettyText]
  | .error _ => []

/-- The report of a source that does not match. The place of the error is given in a source
that is the text of the input. -/
def reportLines (t : Trial) (separator : String) (readsJson : Bool) : List String :=
  match t.error? with
  | none => []
  | some e =>
    e.diagnostic.lines (if readsJson then none else some (e.spanIn t.source separator))

end Trial

/-- The input a source stands for: the source itself, or what it says as a JSON text. -/
def readSource (readsJson : Bool) (source : String) : Except DocumentFault Input :=
  if readsJson then readDocument Input.read source else .ok (.text source)

/-- A source that is not the JSON text of an input. -/
structure UnreadSource where
  /-- The source. -/
  source : String
  /-- Why it is none. -/
  fault : DocumentFault
  deriving DecidableEq, Repr

/-- The trials of sources up to the first one that cannot be read. -/
def trialsOf (command : Command) (readsJson : Bool) :
    List String → List Trial × Option UnreadSource
  | [] => ([], none)
  | source :: rest =>
    match readSource readsJson source with
    | .error fault => ([], some ⟨source, fault⟩)
    | .ok input =>
      let (trials, unread) := trialsOf command readsJson rest
      (⟨source, command.analyse input⟩ :: trials, unread)

end CommandGrammar.CommandLine
