import CommandGrammar.Diagnostic
import CommandGrammar.GrammarFault

/-!
# Faults of documents

A document is refused because it is no JSON text, or because a part of it is not what the
place calls for. A grammar can also be refused for what its parts say.
-/

namespace CommandGrammar

/-- Why a part of a document does not fit its place. -/
inductive Misfit where
  /-- A value of the wrong sort. -/
  | wrongType (found expected : String)
  /-- A field that has to be there is not. -/
  | missingField (name : String)
  /-- A field that has no meaning here, with those that do. -/
  | unknownField (name : String) (known : List String)
  /-- A field that is there twice. -/
  | duplicateField (name : String)
  /-- A sequence with the wrong number of items. -/
  | wrongLength (count : Nat) (expected : String)
  /-- A word that is none of those allowed. -/
  | unknownVariant (name : String) (known : List String)
  /-- A value that has none of the forms allowed. -/
  | noVariant (name : String)
  /-- What the part says cannot stand in a grammar. -/
  | grammar (fault : GrammarFault)
  deriving DecidableEq, Repr

namespace Misfit

/-- A list of alternatives in a message. -/
def oneOf : List String → String
  | [] => "there are no fields"
  | [only] => s!"expected `{only}`"
  | [first, second] => s!"expected `{first}` or `{second}`"
  | names => "expected one of " ++ ", ".intercalate (names.map fun name => s!"`{name}`")

/-- The message for a part that does not fit. -/
def message : Misfit → String
  | wrongType found expected => s!"invalid type: {found}, expected {expected}"
  | missingField name => s!"missing field `{name}`"
  | unknownField name known => s!"unknown field `{name}`, {oneOf known}"
  | duplicateField name => s!"duplicate field `{name}`"
  | wrongLength count expected => s!"invalid length {count}, expected {expected}"
  | unknownVariant name known => s!"unknown variant `{name}`, {oneOf known}"
  | noVariant name => s!"data did not match any variant of untagged enum {name}"
  | grammar fault => fault.message

end Misfit

/-- Why a document is refused. -/
inductive DocumentFault where
  /-- It is no JSON text. -/
  | malformed
  /-- A part of it does not fit. -/
  | misfit (cause : Misfit)
  deriving DecidableEq, Repr

/-- The message for a document that is refused. -/
def DocumentFault.message : DocumentFault → String
  | malformed => "malformed JSON"
  | misfit cause => cause.message

/-- Why a grammar is not loaded. -/
inductive LoadFault where
  /-- Its document is refused. -/
  | document (fault : DocumentFault)
  /-- What it says as a whole is refused. -/
  | grammar (fault : GrammarFault)
  deriving DecidableEq, Repr

/-- The code of a fault of a grammar. -/
def GrammarFault.code : GrammarFault → ReportCode
  | invalidPattern _ => .invalidPattern
  | duplicateArgument _ => .duplicateArgument
  | duplicateName _ _ => .duplicateName
  | emptyName => .emptyName
  | emptySeparator => .emptySeparator

/-- The texts a fault of a grammar names. -/
def GrammarFault.details : GrammarFault → List (String × String)
  | invalidPattern source => [("pattern", source)]
  | duplicateArgument name => [("name", name)]
  | duplicateName name parent => [("name", name), ("parent", parent)]
  | emptyName => []
  | emptySeparator => []

namespace LoadFault

/-- The code of a fault. -/
def code : LoadFault → ReportCode
  | document _ => .invalidDocument
  | grammar fault => fault.code

/-- The message for a fault. -/
def message : LoadFault → String
  | document fault => "invalid grammar document: " ++ fault.message
  | grammar fault => fault.message

/-- The texts a fault names. -/
def details : LoadFault → List (String × String)
  | document _ => []
  | grammar fault => fault.details

/-- The fault as a report. -/
def diagnostic (f : LoadFault) : Diagnostic :=
  ⟨f.code.id, .error, f.message,
    if f.details.isEmpty then none else some (.ofList f.details)⟩

end LoadFault

end CommandGrammar
