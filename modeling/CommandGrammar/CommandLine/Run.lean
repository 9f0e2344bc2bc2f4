import CommandGrammar.CommandLine.Folder
import CommandGrammar.CommandLine.Trial
import CommandGrammar.Document.Grammar

/-!
# Doing tasks

A task is done on the texts it needs, a file of a path and standard input, and gives an exit
status and what is written. The status is 0 when all went well, 1 when something did not match
or could not be read, and 2 when the arguments do not make sense.
-/

namespace CommandGrammar.CommandLine

/-- The texts a task can read. -/
structure Sources where
  /-- The text of the file of a path. -/
  file : String → Except ReadFault String
  /-- The text on standard input. -/
  input : Except ReadFault String

/-- What a task leaves. -/
structure Outcome where
  /-- The exit status. -/
  status : Nat
  /-- What is written to standard output. -/
  stdout : String
  /-- What is written to standard error. -/
  stderr : String
  deriving DecidableEq, Repr

/-- Why a task cannot be done. -/
inductive TaskFault where
  /-- The file of the grammar cannot be read. -/
  | unreadGrammar (path : String) (fault : ReadFault)
  /-- The grammar is refused. -/
  | refusedGrammar (fault : LoadFault)
  /-- Standard input cannot be read. -/
  | unreadInput (fault : ReadFault)
  /-- A source is not the JSON text of an input. -/
  | unreadSource (cause : UnreadSource)

namespace TaskFault

/-- The message for a fault. -/
def message : TaskFault → String
  | unreadGrammar path fault => s!"failed to read grammar file '{path}': {fault.message}"
  | refusedGrammar fault => fault.message
  | unreadInput fault => s!"failed to read stdin: {fault.message}"
  | unreadSource cause =>
    s!"input is not a JSON string or token array: {cause.source}: {cause.fault.message}"

/-- The fault as JSON text: a refused grammar has its diagnostic over several lines, anything
else a message in one line. -/
def jsonText : TaskFault → String
  | refusedGrammar fault =>
    (Json.object
      [("diagnostic", fault.diagnostic.toJson.sortFields), ("error", .string "invalid_grammar"),
        ("success", .bool false)]).pretty
  | fault =>
    (Json.object
      [("error", .string "command_failed"), ("message", .string fault.message),
        ("success", .bool false)]).compact

/-- The fault for people: the diagnostic of a refused grammar, or a message. -/
def lines : TaskFault → List String
  | refusedGrammar fault => fault.diagnostic.lines none
  | fault => [s!"error: {fault.message}"]

/-- What a fault leaves. -/
def outcome (fault : TaskFault) : OutputForm → Outcome
  | .json => ⟨1, joinLines [fault.jsonText], ""⟩
  | .pretty => ⟨1, "", joinLines fault.lines⟩

end TaskFault

/-- Load the grammar in a file. -/
def loadGrammar (sources : Sources) (path : String) : Except TaskFault Command :=
  match sources.file path with
  | .error fault => .error (.unreadGrammar path fault)
  | .ok text =>
    match Command.ofDocument text with
    | .error fault => .error (.refusedGrammar fault)
    | .ok command => .ok command

/-- The exit status after trials. -/
def statusOf (trials : List Trial) : Nat := if trials.all Trial.isMatch then 0 else 1

/-- The report of trials as JSON: an array with one entry for each. A source that cannot be
read leaves no report. -/
def reportJson (trials : List Trial) : Option UnreadSource → Outcome
  | some cause => (TaskFault.unreadSource cause).outcome .json
  | none => ⟨statusOf trials, joinLines [(Json.array (trials.map Trial.toJson)).pretty], ""⟩

/-- The report of trials for people. What was found before a source that cannot be read is
reported, and a summary only without one. -/
def reportPretty (separator : String) (readsJson : Bool) (trials : List Trial)
    (unread : Option UnreadSource) : Outcome :=
  let results := trials.flatMap Trial.resultLines
  let reports := trials.flatMap fun t => t.reportLines separator readsJson
  match unread with
  | some cause =>
    ⟨1, joinLines results, joinLines (reports ++ (TaskFault.unreadSource cause).lines)⟩
  | none =>
    let matched := trials.countP Trial.isMatch
    ⟨statusOf trials, joinLines results,
      joinLines (reports ++ summaryLines matched (trials.length - matched))⟩

/-- Match sources against the grammar in a file and report what came of it. -/
def runParse (sources : Sources) (form : OutputForm) (path : String) (readsJson : Bool)
    (operands : List String) : Outcome :=
  match loadGrammar sources path with
  | .error fault => fault.outcome form
  | .ok command =>
    match sourcesOf sources.input operands with
    | .error fault => (TaskFault.unreadInput fault).outcome form
    | .ok texts =>
      let (trials, unread) := trialsOf command readsJson texts
      match form with
      | .json => reportJson trials unread
      | .pretty => reportPretty command.separator readsJson trials unread

/-- A command in numbers and names, as a JSON tree. -/
def checkJson (command : Command) : Json :=
  .object
    [("args", .ofInt command.config.args.size), ("keywords", .ofTexts command.sortedKeywords),
      ("name", .string command.name), ("params", .ofInt command.members.length),
      ("separator", .string command.separator), ("success", .bool true)]

/-- A command in numbers and names, for people. -/
def checkLines (command : Command) : List String :=
  let arguments := command.config.args.size
  let members := command.members.length
  [Colour.green.paint "ok" ++
    s!" grammar `{command.name}`: {arguments} argument(s), {members} option(s)/sub-command(s)"] ++
  if command.sortedKeywords.isEmpty then []
  else ["keywords: " ++ " ".intercalate command.sortedKeywords]

/-- Load the grammar in a file and describe it. -/
def runCheck (sources : Sources) (form : OutputForm) (path : String) : Outcome :=
  match loadGrammar sources path with
  | .error fault => fault.outcome form
  | .ok command =>
    match form with
    | .json => ⟨0, joinLines [(checkJson command).pretty], ""⟩
    | .pretty => ⟨0, joinLines (checkLines command), ""⟩

/-- Say what an identifier means. -/
def runExplain (form : OutputForm) (id : String) : Outcome :=
  let line := match form, explain? id with
    | .json, text =>
      (Json.object
        [("explanation", (text.map Json.string).getD .null), ("id", .string id)]).pretty
    | .pretty, some text => Colour.cyan.paint id ++ ": " ++ text
    | .pretty, none => id ++ ": (no explanation available)"
  ⟨0, joinLines [line], ""⟩

/-- Do a task. -/
def Task.run (task : Task) (sources : Sources) (form : OutputForm) : Outcome :=
  match task with
  | .parse grammar readsJson operands => runParse sources form grammar readsJson operands
  | .check path => runCheck sources form path
  | .explain id => runExplain form id

/-- The path of the file a task reads. -/
def Task.path? : Task → Option String
  | .parse grammar _ _ => some grammar
  | .check path => some path
  | .explain _ => none

/-- Whether a task reads standard input. -/
def Task.readsInput : Task → Bool
  | .parse _ _ operands => operands.contains standardInput
  | _ => false

/-- How to call the program. -/
def usageText : String := joinLines
  ["argot: match inputs against declarative command grammars",
    "",
    "Usage: argot [OPTIONS] <COMMAND>",
    "",
    "Commands:",
    "  parse --grammar <FILE> [--json-input] <INPUTS>...",
    "      Match inputs against a grammar file; - reads one input per line from stdin",
    "  check <FILE>",
    "      Validate a grammar file and print its keyword index",
    "  explain <ID>",
    "      Explain a diagnostic ID",
    "",
    "Options:",
    "      --output <pretty|json>  Output mode",
    "  -v, --verbose               Say more",
    "  -h, --help                  Print help",
    "  -V, --version               Print version"]

/-- What is left when no task is done. -/
def UsageNotice.outcome : UsageNotice → Outcome
  | help => ⟨0, usageText, ""⟩
  | version => ⟨0, joinLines ["argot 0.1.0"], ""⟩
  | misuse => ⟨2, "", usageText⟩

/-- Do what arguments ask for. The form of the output is the one given unless another is
chosen. -/
def run (arguments : List String) (form : OutputForm) (sources : Sources) : Outcome :=
  match Request.ofArguments arguments with
  | .error notice => notice.outcome
  | .ok request => request.task.run sources (request.form.getD form)

end CommandGrammar.CommandLine
