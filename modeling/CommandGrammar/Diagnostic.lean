import CommandGrammar.Json.Tree

/-!
# Diagnostics

A diagnostic is a report for people: an identifier, how severe it is, a message, and texts
that say where it arose. Identifiers in use have an explanation.
-/

namespace CommandGrammar

/-- How severe a report is. -/
inductive Severity where
  /-- Something failed. -/
  | error
  /-- Something may be wrong. -/
  | warn
  /-- Something is worth knowing. -/
  | info
  deriving DecidableEq, Repr

/-- The name of a severity. -/
def Severity.name : Severity → String
  | error => "error"
  | warn => "warn"
  | info => "info"

/-- The severities in the order in which they are listed. -/
def Severity.all : List Severity := [error, warn, info]

/-- A report for people. -/
structure Diagnostic where
  /-- What sort of report it is. -/
  id : String
  /-- How severe it is. -/
  severity : Severity
  /-- What happened. -/
  message : String
  /-- Texts by name that say where. -/
  context : Option (NameMap String)

namespace Diagnostic

/-- Whether something failed. -/
def isError (d : Diagnostic) : Bool := decide (d.severity = .error)

/-- The report in one line. -/
def display (d : Diagnostic) : String := s!"{d.severity.name}[{d.id}]: {d.message}"

/-- The report as a JSON tree; an absent context is left out. -/
def toJson (d : Diagnostic) : Json :=
  .object (
    [("id", .string d.id), ("severity", .string d.severity.name),
      ("message", .string d.message)] ++
    match d.context with
    | none => []
    | some context =>
      [("context", .object (context.entries.map fun (name, text) => (name, .string text)))])

end Diagnostic

/-- What reports are about. Codes below two thousand are about inputs, those above about
grammars. -/
inductive ReportCode where
  /-- An input without tokens. -/
  | emptyInput
  /-- A unit of an excluded kind. -/
  | excludedUnit
  /-- Leading tokens that are not those of the command. -/
  | headerMismatch
  /-- A token that a slot does not take. -/
  | unmatched
  /-- A slot without a token. -/
  | missing
  /-- A pattern that is not an expression. -/
  | invalidPattern
  /-- Slots that share a name. -/
  | duplicateArgument
  /-- Children that share a name. -/
  | duplicateName
  /-- A missing name. -/
  | emptyName
  /-- A missing separator. -/
  | emptySeparator
  /-- A document that does not describe a grammar. -/
  | invalidDocument
  deriving DecidableEq, Repr

namespace ReportCode

/-- All codes in order. -/
def all : List ReportCode :=
  [emptyInput, excludedUnit, headerMismatch, unmatched, missing, invalidPattern,
    duplicateArgument, duplicateName, emptyName, emptySeparator, invalidDocument]

/-- The identifier of a code. -/
def id : ReportCode → String
  | emptyInput => "ARGOT1001"
  | excludedUnit => "ARGOT1002"
  | headerMismatch => "ARGOT1003"
  | unmatched => "ARGOT1004"
  | missing => "ARGOT1005"
  | invalidPattern => "ARGOT2001"
  | duplicateArgument => "ARGOT2002"
  | duplicateName => "ARGOT2003"
  | emptyName => "ARGOT2004"
  | emptySeparator => "ARGOT2005"
  | invalidDocument => "ARGOT2006"

/-- What a code means. -/
def explanation : ReportCode → String
  | emptyInput =>
    "The input produced no tokens after splitting on the command separator. " ++
    "Empty strings and chains made only of dropped units end up here."
  | excludedUnit =>
    "An opaque unit in the input has a type listed in the grammar's filter-out list. " ++
    "Remove the unit or take the type off the list."
  | headerMismatch =>
    "The leading tokens do not match the command header: the command name, " ++
    "optionally preceded by one of the configured literal or unit triggers."
  | unmatched =>
    "A token was present for an argument slot but did not satisfy the slot's " ++
    "match strategy, and the slot has neither a default nor the optional flag."
  | missing =>
    "The input ran out before a required argument slot could be filled. " ++
    "Supply the argument or give the slot a default."
  | invalidPattern => "A pattern in the grammar failed to compile as a regular expression."
  | duplicateArgument => "Argument names must be unique within one argument list."
  | duplicateName =>
    "Options and sub-commands under the same parent must resolve to distinct names."
  | emptyName => "Commands, options and sub-commands need a non-empty name."
  | emptySeparator => "Separators must contain at least one character."
  | invalidDocument =>
    "The grammar document could not be read: it is not valid JSON, or a field " ++
    "has the wrong shape. The message names the line and column."

end ReportCode

/-- What an identifier means, if it is in use. -/
def explain? (id : String) : Option String :=
  (ReportCode.all.find? fun code => code.id == id).map ReportCode.explanation

end CommandGrammar
