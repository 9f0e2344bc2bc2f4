import CommandGrammar.Diagnostic
import CommandGrammar.Json.Printer
import CommandGrammar.Matching.Outcome

/-!
# Reports of outcomes

Faults, errors and results as JSON trees, and errors as diagnostics.
-/

namespace CommandGrammar

namespace MatchFault

/-- The code of a fault. -/
def code : MatchFault → ReportCode
  | emptyInput => .emptyInput
  | excludedUnit _ => .excludedUnit
  | headerMismatch _ => .headerMismatch
  | unmatched _ _ => .unmatched
  | missing _ => .missing

/-- The name of the sort of a fault. -/
def kind : MatchFault → String
  | emptyInput => "empty_input"
  | excludedUnit _ => "unrecognised_unit"
  | headerMismatch _ => "header_mismatch"
  | unmatched _ _ => "params_unmatched"
  | missing _ => "argument_missing"

/-- The texts a fault carries, by name. -/
def details : MatchFault → List (String × String)
  | emptyInput => []
  | excludedUnit kind => [("unit_type", kind)]
  | headerMismatch found => [("found", found)]
  | unmatched slot found => [("slot", slot), ("found", found)]
  | missing slot => [("slot", slot)]

/-- The fault as a JSON tree. -/
def toJson (fault : MatchFault) : Json :=
  .object (("kind", .string fault.kind) ::
    fault.details.map fun (name, text) => (name, .string text))

end MatchFault

namespace MatchError

/-- The error as a JSON tree. -/
def toJson (e : MatchError) : Json :=
  .object
    [("code", .string e.fault.code.id), ("message", .string e.fault.message),
      ("kind", e.fault.toJson), ("remainder", .array (e.remainder.map Token.toJson))]

/-- The texts that say where an error arose: those of its fault, and the tokens that were left
if there were any. -/
def context (e : MatchError) : NameMap String :=
  let details := NameMap.ofList e.fault.details
  if e.remainder.isEmpty then details
  else details.insert "remainder" (" ".intercalate (e.remainder.map Token.display))

/-- The error as a report. -/
def diagnostic (e : MatchError) : Diagnostic :=
  ⟨e.fault.code.id, .error, e.fault.message,
    if e.context.entries.isEmpty then none else some e.context⟩

end MatchError

/-- The values of slots as a JSON tree. -/
def slotValuesJson (values : SlotValues) : Json :=
  .object (values.entries.map fun (name, value) => (name, value.toJson))

/-- The values of options as a JSON tree. -/
def optionValuesJson (options : NameMap SlotValues) : Json :=
  .object (options.entries.map fun (name, values) => (name, slotValuesJson values))

/-- The values of a nested command as a JSON tree. -/
def SubcommandValues.toJson (values : SubcommandValues) : Json :=
  .object [("args", slotValuesJson values.args), ("options", optionValuesJson values.options)]

namespace MatchResult

/-- The result as a JSON tree; there is no error field in the result of a match. -/
def toJson (r : MatchResult) : Json :=
  .object (
    [("matched", .bool r.matched), ("header", r.header.toJson),
      ("main_args", slotValuesJson r.mainArgs), ("options", optionValuesJson r.options),
      ("subcommands", .object (r.subcommands.entries.map fun (name, values) =>
        (name, values.toJson))),
      ("remainder", .array (r.remainder.map Token.toJson))] ++
    match r.error? with
    | none => []
    | some error => [("error", error.toJson)])

/-- The result as JSON text over several lines. -/
def prettyText (r : MatchResult) : String := r.toJson.pretty

end MatchResult

end CommandGrammar
