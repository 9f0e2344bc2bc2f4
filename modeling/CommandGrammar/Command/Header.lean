import CommandGrammar.GrammarFault
import CommandGrammar.Regex.Parser
import CommandGrammar.Value

/-!
# Headers

A command begins with its name, which is a regular expression. Triggers change what stands
before the name: a literal is glued to it, a unit is a token of its own. With triggers of
both sorts the literals are tokens of their own too.
-/

namespace CommandGrammar

/-- What can stand before the name of a command. -/
inductive Trigger where
  /-- A text glued to the name. -/
  | literal (text : String)
  /-- A unit of a kind. -/
  | unit (kind : String)
  deriving DecidableEq, Repr

/-- The literals among triggers. -/
def Trigger.literals (triggers : List Trigger) : List String :=
  triggers.filterMap fun
    | literal text => some text
    | unit _ => none

/-- The kinds of units among triggers. -/
def Trigger.kinds (triggers : List Trigger) : List String :=
  triggers.filterMap fun
    | literal _ => none
    | unit kind => some kind

/-- The leading tokens of a command, ready for matching. -/
inductive Header where
  /-- One token: the name with an optional literal glued to it. -/
  | single (name : Program)
  /-- A unit of one of the kinds, then the name. -/
  | afterUnit (kinds : List String) (name : Program)
  /-- A unit of one of the kinds or a text that is one of the literals, then the name. -/
  | afterLead (kinds : List String) (lead name : Program)

namespace Header

/-- The program of a written expression; `named` is what a fault calls it. -/
def program (written named : String) : Except GrammarFault Program :=
  match Program.ofText? written.toList with
  | some program => .ok program
  | none => .error (.invalidPattern named)

/-- The expression for any of some literals. -/
def anyLiteral (literals : List String) : String := "|".intercalate (literals.map Regex.quote)

/-- The header of a name and its triggers. -/
def ofTriggers (name : String) (triggers : List Trigger) : Except GrammarFault Header :=
  let literals := Trigger.literals triggers
  let kinds := Trigger.kinds triggers
  let lead := anyLiteral literals
  let bare := "^(?:" ++ name ++ ")$"
  if kinds.isEmpty then
    if literals.isEmpty then (program bare name).map single
    else (program ("^(?:" ++ lead ++ ")?(?:" ++ name ++ ")$") name).map single
  else if literals.isEmpty then (program bare name).map (afterUnit kinds)
  else do
    let leadProgram ← program ("^(?:" ++ lead ++ ")$") lead
    let nameProgram ← program bare name
    .ok (afterLead kinds leadProgram nameProgram)

/-- The program of the name. -/
def nameProgram : Header → Program
  | single name => name
  | afterUnit _ name => name
  | afterLead _ _ name => name

/-- Whether the name is the second token. -/
def isLed : Header → Bool
  | single _ => false
  | _ => true

/-- Whether a token may stand before the name. -/
def isLead : Header → Token → Bool
  | single _, _ => false
  | afterUnit kinds _, .unit u => kinds.contains u.kind
  | afterUnit _ _, .text _ => false
  | afterLead kinds _ _, .unit u => kinds.contains u.kind
  | afterLead _ lead _, .text text => (lead.search text.toList).isSome

/-- What a text gives as the name: the first group if it took part in the match, else that
it matched. -/
def capture? (h : Header) (text : String) : Option Value :=
  let cs := text.toList
  (h.nameProgram.search cs).map fun m =>
    match m.group? 1 cs with
    | some found => .string found
    | none => .bool true

end Header

end CommandGrammar
