import CommandGrammar.Document.Record
import CommandGrammar.Value

/-!
# Reading inputs, values and diagnostics

The forms in which units, tokens, inputs, values and diagnostics stand in documents. They are
the forms in which those are written, and a few more.
-/

namespace CommandGrammar

/-- The parts of a unit. -/
structure UnitParts where
  /-- Its kind. -/
  kind : Option String
  /-- Its payload. -/
  data : Option Json

/-- Units as records. -/
def unitRecord : Record UnitParts where
  name := "Unit"
  isStrict := false
  fields :=
    [.of "kind" UnitParts.kind (fun p x => { p with kind := some x }) (fun _ => Draft.readString)
      true,
    .of "data" UnitParts.data (fun p x => { p with data := some x }) Draft.readTree false]

/-- Read a unit. -/
def OpaqueUnit.read (access : Access) (d : Draft) : Except DocumentFault OpaqueUnit := do
  let parts ← unitRecord.read ⟨none, none⟩ access d
  .ok ⟨parts.kind.getD "", parts.data.getD .null⟩

/-- The token of a draft that was read ahead: a text or a unit. -/
def Token.ofDraft? : Draft → Option Token
  | .string s => some (.text s)
  | d => (OpaqueUnit.read .ahead d).toOption.map .unit

/-- Read a token. -/
def Token.read (access : Access) (d : Draft) : Except DocumentFault Token := do
  access.readAhead d
  match Token.ofDraft? d with
  | some token => .ok token
  | none => .error (.misfit (.noVariant "Token"))

/-- The input of a draft that was read ahead: a text or a sequence of tokens. -/
def Input.ofDraft? : Draft → Option Input
  | .string s => some (.text s)
  | .array items _ => (items.mapM Token.ofDraft?).map .chain
  | _ => none

/-- Read an input. -/
def Input.read (access : Access) (d : Draft) : Except DocumentFault Input := do
  access.readAhead d
  match Input.ofDraft? d with
  | some input => .ok input
  | none => .error (.misfit (.noVariant "Input"))

/-- Read a value. -/
def Value.read (access : Access) (d : Draft) : Except DocumentFault Value :=
  (Draft.readTree access d).map Value.ofJson

/-- Read a severity. -/
def Severity.read (access : Access) (d : Draft) : Except DocumentFault Severity := do
  let word ← d.readWord access (Severity.all.map Severity.name)
  match Severity.all.find? fun severity => severity.name == word with
  | some severity => .ok severity
  | none => .error (.misfit (.unknownVariant word (Severity.all.map Severity.name)))

/-- The parts of a diagnostic. -/
structure DiagnosticParts where
  /-- Its identifier. -/
  id : Option String
  /-- Its severity. -/
  severity : Option Severity
  /-- Its message. -/
  message : Option String
  /-- Its context, which can be given as absent. -/
  context : Option (Option (NameMap String))

/-- Diagnostics as records. The context can be left out of an object but not of a sequence. -/
def diagnosticRecord : Record DiagnosticParts where
  name := "Diagnostic"
  isStrict := false
  fields :=
    [.of "id" DiagnosticParts.id (fun p x => { p with id := some x }) (fun _ => Draft.readString)
      true,
    .of "severity" DiagnosticParts.severity (fun p x => { p with severity := some x })
      Severity.read true,
    .of "message" DiagnosticParts.message (fun p x => { p with message := some x })
      (fun _ => Draft.readString) true,
    { Field.of "context" DiagnosticParts.context (fun p x => { p with context := some x })
        (fun access => Draft.readOptional (Draft.readMap (fun _ => Draft.readString) access))
        false with
      neededInPlace := true }]

/-- Read a diagnostic. -/
def Diagnostic.read (access : Access) (d : Draft) : Except DocumentFault Diagnostic := do
  let parts ← diagnosticRecord.read ⟨none, none, none, none⟩ access d
  .ok ⟨parts.id.getD "", parts.severity.getD .error, parts.message.getD "",
    parts.context.getD none⟩

end CommandGrammar
