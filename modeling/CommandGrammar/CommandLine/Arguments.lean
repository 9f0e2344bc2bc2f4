import CommandGrammar.Text.Split

/-!
# Command-line arguments

Arguments name a task, its operands and options. Options may stand in front of the task and
after it; those after the task count first. An option that takes a value has it in the same
argument or in the next one. What follows `--` is an operand.

Arguments are read from left to right, so the first thing that is wrong decides, and a call for
help counts where it stands. The value in an argument of its own is taken in when the next
option or operand comes: a bad one in front of a task is noticed after the arguments of the
task.
-/

namespace CommandGrammar.CommandLine

/-- The forms of what is written. -/
inductive OutputForm where
  /-- JSON texts. -/
  | json
  /-- Results and reports one by one, for people. -/
  | pretty
  deriving DecidableEq, Repr

/-- The form of a name. -/
def OutputForm.named? : String → Option OutputForm
  | "json" => some json
  | "pretty" => some pretty
  | _ => none

/-- What is to be done. -/
inductive Task where
  /-- Match inputs against the grammar in a file; inputs can be JSON texts. -/
  | parse (grammar : String) (readsJson : Bool) (operands : List String)
  /-- Load the grammar in a file. -/
  | check (path : String)
  /-- Say what an identifier of reports means. -/
  | explain (id : String)
  deriving DecidableEq, Repr

/-- What arguments ask for. -/
structure Request where
  /-- The form of the output, if one is chosen. -/
  form : Option OutputForm
  /-- The task. -/
  task : Task
  deriving DecidableEq, Repr

/-- What is answered when no task is done. -/
inductive UsageNotice where
  /-- Help was asked for. -/
  | help
  /-- The version was asked for. -/
  | version
  /-- The arguments do not make sense. -/
  | misuse
  deriving DecidableEq, Repr

/-- The names of tasks. -/
inductive TaskName where
  /-- Match inputs. -/
  | parse
  /-- Load a grammar. -/
  | check
  /-- Say what an identifier means. -/
  | explain
  deriving DecidableEq, Repr

namespace TaskName

/-- The task of a name. -/
def named? : String → Option TaskName
  | "parse" => some parse
  | "check" => some check
  | "explain" => some explain
  | _ => none

/-- Whether a task takes an operand after a number of others: every task takes one, `parse`
takes any number, and the path for `check` is not empty. -/
def takes (name : TaskName) (count : Nat) (operand : String) : Bool :=
  match name with
  | parse => true
  | check => count == 0 && !operand.isEmpty
  | explain => count == 0

end TaskName

/-- Options without a value. -/
inductive Flag where
  /-- Say more about what is done. -/
  | verbose
  /-- Read inputs as JSON texts. -/
  | readsJson
  /-- Answer with help. -/
  | help
  /-- Answer with the version. -/
  | version
  deriving DecidableEq, Repr

/-- Options with a value. -/
inductive Setting where
  /-- The form of the output. -/
  | output
  /-- The path of the grammar. -/
  | grammar
  deriving DecidableEq, Repr

/-- Options. -/
inductive Switch where
  /-- One without a value. -/
  | flag (flag : Flag)
  /-- One with a value. -/
  | setting (setting : Setting)
  deriving DecidableEq, Repr

namespace Switch

/-- The option of a long name, in front of the task or after it. -/
def ofName? (task : Option TaskName) (name : String) : Option Switch :=
  match name, task with
  | "output", _ => some (setting .output)
  | "verbose", _ => some (flag .verbose)
  | "help", _ => some (flag .help)
  | "version", none => some (flag .version)
  | "grammar", some .parse => some (setting .grammar)
  | "json-input", some .parse => some (flag .readsJson)
  | _, _ => none

/-- The option of a letter, in front of the task or after it. -/
def ofLetter? (task : Option TaskName) (letter : Char) : Option Switch :=
  match letter, task with
  | 'v', _ => some (flag .verbose)
  | 'h', _ => some (flag .help)
  | 'V', none => some (flag .version)
  | 'g', some .parse => some (setting .grammar)
  | _, _ => none

end Switch

/-- The forms of an argument. -/
inductive Argument where
  /-- The name of an option, with a value after the first equals sign. -/
  | long (name : String) (value : Option String)
  /-- Letters of options; the value of one can follow it. -/
  | short (letters : List Char)
  /-- The mark after which there are only operands. -/
  | terminator
  /-- Anything else; a single hyphen too. -/
  | operand (text : String)
  deriving DecidableEq, Repr

/-- The form of an argument. -/
def Argument.ofText (text : String) : Argument :=
  match text.toList with
  | ['-', '-'] => terminator
  | '-' :: '-' :: rest =>
    match Split.around? '=' rest with
    | some (name, value) => long (String.ofList name) (some (String.ofList value))
    | none => long (String.ofList rest) none
  | '-' :: c :: rest => short (c :: rest)
  | _ => operand text

/-- What has become of the value of the last option. -/
inductive LastValue where
  /-- Nothing is open. -/
  | settled
  /-- The next argument is the value of an option. -/
  | awaited (setting : Setting)
  /-- The value of an option was read and not yet taken in. -/
  | held (setting : Setting) (value : String)
  deriving DecidableEq, Repr

/-- What the arguments in front of the task or after it have given. -/
structure Given where
  /-- The form of the output. -/
  form : Option OutputForm
  /-- The path of the grammar. -/
  grammar : Option String
  /-- The flags. -/
  flags : List Flag
  /-- The operands. -/
  operands : List String
  /-- The value of the last option. -/
  last : LastValue
  deriving DecidableEq, Repr

namespace Given

/-- What no arguments give. -/
def empty : Given := ⟨none, none, [], [], .settled⟩

/-- Take in the value of an option. An option has one value, a form has a name, and a path is
not empty. -/
def set (g : Given) (setting : Setting) (value : String) : Except UsageNotice Given :=
  match setting with
  | .output =>
    match g.form, OutputForm.named? value with
    | none, some form => .ok { g with form := some form }
    | _, _ => .error .misuse
  | .grammar =>
    if g.grammar.isNone && !value.isEmpty then .ok { g with grammar := some value }
    else .error .misuse

/-- Take in a value that is held; one that is still awaited is missing. -/
def settle (g : Given) : Except UsageNotice Given :=
  match g.last with
  | .settled => .ok g
  | .awaited _ => .error .misuse
  | .held setting value => { g with last := .settled }.set setting value

/-- Take in a flag; none is given twice. -/
def flag (g : Given) (flag : Flag) : Except UsageNotice Given := do
  let g ← g.settle
  match flag with
  | .help => .error .help
  | .version => .error .version
  | other =>
    if g.flags.contains other then .error .misuse else .ok { g with flags := other :: g.flags }

/-- Wait for the value of an option. -/
def await (g : Given) (setting : Setting) : Except UsageNotice Given := do
  .ok { ← g.settle with last := .awaited setting }

/-- Take in an option with a long name. -/
def long (task : Option TaskName) (g : Given) (name : String) (value : Option String) :
    Except UsageNotice Given :=
  match Switch.ofName? task name, value with
  | some (.flag flag), none => g.flag flag
  | some (.setting setting), none => g.await setting
  | some (.setting setting), some value => do (← g.settle).set setting value
  | _, _ => .error .misuse

/-- Take in options by their letters. What follows the letter of an option with a value is the
value, without an equals sign at its front. -/
def short (task : Option TaskName) (g : Given) : List Char → Except UsageNotice Given
  | [] => .ok g
  | c :: rest =>
    match Switch.ofLetter? task c with
    | some (.flag flag) => do short task (← g.flag flag) rest
    | some (.setting setting) =>
      match rest with
      | [] => g.await setting
      | '=' :: value => do (← g.settle).set setting (String.ofList value)
      | value => do (← g.settle).set setting (String.ofList value)
    | none => .error .misuse

/-- Take in an operand of a task. -/
def operand (name : TaskName) (g : Given) (text : String) : Except UsageNotice Given := do
  let g ← g.settle
  if name.takes g.operands.length text then .ok { g with operands := g.operands ++ [text] }
  else .error .misuse

/-- The task with what was given for it. -/
def task (g : Given) (name : TaskName) : Except UsageNotice Task :=
  match name, g.grammar, g.operands with
  | .parse, some grammar, operand :: operands =>
    .ok (.parse grammar (g.flags.contains .readsJson) (operand :: operands))
  | .check, _, [path] => .ok (.check path)
  | .explain, _, [id] => .ok (.explain id)
  | _, _, _ => .error .misuse

end Given

/-- Read the arguments after the name of a task. -/
def readTask (name : TaskName) : Given → List String → Except UsageNotice Given
  | g, [] => g.settle
  | g, text :: rest =>
    match Argument.ofText text, g.last with
    | .long option value, _ => do readTask name (← g.long (some name) option value) rest
    | .short letters, _ => do readTask name (← g.short (some name) letters) rest
    | .terminator, _ => do rest.foldlM (Given.operand name) (← g.settle)
    | .operand value, .awaited setting =>
      readTask name { g with last := .held setting value } rest
    | .operand operand, _ => do readTask name (← g.operand name operand) rest

/-- What is answered to a call for help on a task. -/
def helpOn : List String → UsageNotice
  | [] => .help
  | [name] => if (TaskName.named? name).isSome || name == "help" then .help else .misuse
  | _ => .misuse

/-- Read arguments from the start. -/
def readRequest : Given → List String → Except UsageNotice Request
  | _, [] => .error .misuse
  | g, text :: rest =>
    match Argument.ofText text, g.last with
    | .long option value, _ => do readRequest (← g.long none option value) rest
    | .short letters, _ => do readRequest (← g.short none letters) rest
    | .terminator, _ => .error .misuse
    | .operand value, .awaited setting => readRequest { g with last := .held setting value } rest
    | .operand "help", _ => .error (helpOn rest)
    | .operand operand, _ =>
      match TaskName.named? operand with
      | none => .error .misuse
      | some name => do
        let own ← readTask name .empty rest
        let task ← own.task name
        let g ← g.settle
        .ok ⟨own.form.or g.form, task⟩

/-- What arguments ask for. -/
def Request.ofArguments (arguments : List String) : Except UsageNotice Request :=
  readRequest .empty arguments

end CommandGrammar.CommandLine
