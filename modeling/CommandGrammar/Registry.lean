import CommandGrammar.Matching.Analysis

/-!
# Registries of commands

Commands in the order in which they were first registered, each of which can be disabled. An
input goes to the enabled commands in turn until one recognises its header.
-/

namespace CommandGrammar

/-- A command that was registered. -/
structure Registration where
  /-- The command. -/
  command : Command
  /-- Whether inputs are matched against it. -/
  enabled : Bool

/-- The registered commands in order. -/
structure Registry where
  /-- The registrations, no two of one name. -/
  registrations : List Registration

/-- Change or drop the registration of a name: the registration it had and all of them
afterwards, unless there is none. -/
def alterRegistration? (name : String) (change : Registration → Option Registration) :
    List Registration → Option (Registration × List Registration)
  | [] => none
  | r :: rest =>
    if r.command.name = name then some (r, (change r).toList ++ rest)
    else (alterRegistration? name change rest).map fun (old, rest) => (old, r :: rest)

namespace Registry

/-- The registry without commands. -/
def empty : Registry := ⟨[]⟩

/-- The registration of a name. -/
def find? (r : Registry) (name : String) : Option Registration :=
  r.registrations.find? fun entry => entry.command.name == name

/-- The names in order. -/
def names (r : Registry) : List String := r.registrations.map fun entry => entry.command.name

/-- How many commands are registered. -/
def size (r : Registry) : Nat := r.registrations.length

/-- The command of a name. -/
def get? (r : Registry) (name : String) : Option Command := (r.find? name).map (·.command)

/-- Whether a name is registered and enabled. -/
def isEnabled (r : Registry) (name : String) : Bool :=
  r.registrations.any fun entry => entry.enabled && entry.command.name == name

/-- Register a command. One of the same name is replaced, in its place and enabled or not as
it was; the second part is the command that was replaced. -/
def insert (r : Registry) (command : Command) : Registry × Option Command :=
  let replace (entry : Registration) := some { entry with command }
  match alterRegistration? command.name replace r.registrations with
  | some (old, registrations) => (⟨registrations⟩, some old.command)
  | none => (⟨r.registrations ++ [⟨command, true⟩]⟩, none)

/-- Drop the command of a name; the second part is that command. -/
def remove (r : Registry) (name : String) : Registry × Option Command :=
  match alterRegistration? name (fun _ => none) r.registrations with
  | some (old, registrations) => (⟨registrations⟩, some old.command)
  | none => (r, none)

/-- Enable or disable the command of a name; the second part is whether there is one. -/
def setEnabled (r : Registry) (name : String) (enabled : Bool) : Registry × Bool :=
  match alterRegistration? name (fun entry => some { entry with enabled }) r.registrations with
  | some (_, registrations) => (⟨registrations⟩, true)
  | none => (r, false)

end Registry

/-- Whether the input failed at the header. -/
def MatchResult.missedHeader (r : MatchResult) : Bool :=
  match r.fault with
  | some (.headerMismatch _) => true
  | _ => false

/-- The result of the first command that recognises the header of an input, else of the
last. -/
def firstRecognised? (input : Input) : List Command → Option MatchResult
  | [] => none
  | command :: rest =>
    let result := command.run input
    if result.matched || !result.missedHeader then some result
    else (firstRecognised? input rest).or (some result)

namespace Registry

/-- The enabled commands in order. -/
def enabledCommands (r : Registry) : List Command :=
  (r.registrations.filter (·.enabled)).map (·.command)

/-- Match an input against the enabled commands in turn. -/
def analyse (r : Registry) (input : Input) : Option MatchResult :=
  firstRecognised? input r.enabledCommands

end Registry

end CommandGrammar
