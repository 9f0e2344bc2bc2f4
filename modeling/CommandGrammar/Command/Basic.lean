import CommandGrammar.Command.Entry
import CommandGrammar.Command.Header

/-!
# Commands

A command is a description whose names and separator are given, whose header is a regular
expression, and in which no two options or sub-commands share a name.
-/

namespace CommandGrammar

/-- The separator of a command that names none. -/
def defaultSeparator : String := " "

/-- The description of a command. -/
structure CommandConfig where
  /-- The name, a regular expression. -/
  name : String
  /-- What can stand before the name. -/
  triggers : List Trigger
  /-- The characters that split texts. -/
  separator : String
  /-- Whether failures are raised rather than reported in the result. -/
  raises : Bool
  /-- The arguments after the name. -/
  args : SlotList
  /-- The options. -/
  options : List Entry
  /-- The nested commands. -/
  subcommands : List Subcommand
  /-- The kinds of units that are excluded. -/
  excluded : List String
  /-- The help text. -/
  help : String

namespace CommandConfig

/-- The description that has a name only. -/
def ofName (name : String) : CommandConfig :=
  ⟨name, [], defaultSeparator, false, .empty, [], [], [], ""⟩

/-- The same description with one more trigger. -/
def addTrigger (c : CommandConfig) (trigger : Trigger) : CommandConfig :=
  { c with triggers := c.triggers ++ [trigger] }

/-- The same description with another separator. -/
def withSeparator (c : CommandConfig) (separator : String) : CommandConfig := { c with separator }

/-- The same description, where failures are raised or not. -/
def withRaises (c : CommandConfig) (raises : Bool) : CommandConfig := { c with raises }

/-- The same description with other arguments after the name. -/
def withArgs (c : CommandConfig) (args : SlotList) : CommandConfig := { c with args }

/-- The same description with one more option. -/
def addOption (c : CommandConfig) (option : Entry) : CommandConfig :=
  { c with options := c.options ++ [option] }

/-- The same description with one more nested command. -/
def addSubcommand (c : CommandConfig) (subcommand : Subcommand) : CommandConfig :=
  { c with subcommands := c.subcommands ++ [subcommand] }

/-- The same description with one more kind of units that is excluded. -/
def addExcluded (c : CommandConfig) (kind : String) : CommandConfig :=
  { c with excluded := c.excluded ++ [kind] }

/-- The same description with another help text. -/
def withHelp (c : CommandConfig) (help : String) : CommandConfig := { c with help }

/-- Options and sub-commands, options first. -/
def members (c : CommandConfig) : List Member :=
  c.options.map .option ++ c.subcommands.map .subcommand

/-- The options among the members. -/
@[simp] theorem option_mem_members {c : CommandConfig} {e : Entry} :
    .option e ∈ c.members ↔ e ∈ c.options := by
  simp [members]

/-- The sub-commands among the members. -/
@[simp] theorem subcommand_mem_members {c : CommandConfig} {s : Subcommand} :
    .subcommand s ∈ c.members ↔ s ∈ c.subcommands := by
  simp [members]

/-- The names that options and sub-commands answer to. -/
def memberNames (c : CommandConfig) : List String :=
  c.members.flatMap fun m => m.entry.aliases

end CommandConfig

/-- A description that was found to be in order. -/
structure Command where
  /-- The description. -/
  config : CommandConfig
  /-- The leading tokens. -/
  header : Header
  /-- The name is given. -/
  named : config.name ≠ ""
  /-- The separator has a character. -/
  separates : config.separator ≠ ""
  /-- The header belongs to the name and the triggers. -/
  header_eq : Header.ofTriggers config.name config.triggers = .ok header
  /-- No two options or sub-commands share a name. -/
  distinct : config.memberNames.Nodup

namespace Command

/-- The command of a description. The name is looked at first, then the separator, the
header, and the names of options and sub-commands. -/
def ofConfig (config : CommandConfig) : Except GrammarFault Command :=
  if named : config.name = "" then .error .emptyName
  else if separates : config.separator = "" then .error .emptySeparator
  else match header_eq : Header.ofTriggers config.name config.triggers with
    | .error fault => .error fault
    | .ok header =>
      match distinct : firstRepeated? config.memberNames with
      | some name => .error (.duplicateName name config.name)
      | none =>
        .ok ⟨config, header, named, separates, header_eq, firstRepeated?_eq_none.mp distinct⟩

/-- The name. -/
def name (c : Command) : String := c.config.name

/-- The characters that split texts. -/
def separator (c : Command) : String := c.config.separator

/-- Options and sub-commands, options first. -/
def members (c : Command) : List Member := c.config.members

/-- Every name that options, sub-commands and the options of sub-commands answer to. -/
def keywords (c : Command) : List String := c.members.flatMap Member.keywords

/-- The keywords in order, each once. -/
def sortedKeywords (c : Command) : List String :=
  (NameMap.ofList (c.keywords.map fun word => (word, ()))).names

/-- The option or sub-command that a text calls. -/
def resolve? (c : Command) (text : String) : Option Member :=
  callee? Member.entry c.members text

end Command

/-- The description that a command was made of is its own. -/
theorem config_of_ofConfig {config : CommandConfig} {command : Command}
    (h : Command.ofConfig config = .ok command) : command.config = config := by
  unfold Command.ofConfig at h
  split at h
  · cases h
  · split at h
    · cases h
    · split at h
      · cases h
      · split at h
        · cases h
        · cases h
          rfl

/-- Every command is the one of its description. -/
theorem Command.ofConfig_config (c : Command) : Command.ofConfig c.config = .ok c := by
  unfold Command.ofConfig
  rw [dif_neg c.named, dif_neg c.separates]
  split
  · rename_i hfault
    cases c.header_eq.symm.trans hfault
  · rename_i hheader
    cases c.header_eq.symm.trans hheader
    split
    · rename_i name hrepeated
      cases (firstRepeated?_eq_none.mpr c.distinct).symm.trans hrepeated
    · rfl

/-- What is found to succeed has a result. -/
theorem exists_of_isOk {ε α : Type} {result : Except ε α} (h : result.isOk = true) :
    ∃ x, result = .ok x := by
  cases result with
  | ok x => exact ⟨x, rfl⟩
  | error fault => cases h

end CommandGrammar
