import CommandGrammar.Command.Basic
import CommandGrammar.Document.Input

/-!
# Reading grammars

The forms in which strategies, slots, entries and commands stand in documents. A fault of the
parts of a command is a fault of its document; what only the command as a whole can tell is a
fault of the grammar.
-/

namespace CommandGrammar

/-- The result of building a part of a grammar, as that of reading it. -/
def built {α : Type} : Except GrammarFault α → Except DocumentFault α
  | .ok x => .ok x
  | .error fault => .error (.misfit (.grammar fault))

/-- The parts of alternatives. -/
structure AlternativesParts where
  /-- Texts that hold by equality. -/
  equals : Option (List String)
  /-- The patterns as they are written. -/
  patterns : Option (List String)
  /-- Kinds of tokens. -/
  kinds : Option (List String)
  /-- Whether a slot takes what holds. -/
  negated : Option Bool

/-- Read a sequence of texts. -/
def readStrings : Access → Draft → Except DocumentFault (List String) :=
  Draft.readList fun _ => Draft.readString

/-- Alternatives as records. -/
def alternativesRecord : Record AlternativesParts where
  name := "UnionSpec"
  isStrict := true
  fields :=
    [.of "equals" AlternativesParts.equals (fun p x => { p with equals := some x })
      readStrings false,
    .of "patterns" AlternativesParts.patterns (fun p x => { p with patterns := some x })
      readStrings false,
    .of "kinds" AlternativesParts.kinds (fun p x => { p with kinds := some x })
      readStrings false,
    .of "negated" AlternativesParts.negated (fun p x => { p with negated := some x })
      (fun _ => Draft.readBool) false]

/-- A strategy as it is written. -/
inductive StrategyForm where
  /-- A text. -/
  | short (text : String)
  /-- Alternatives. -/
  | union (parts : AlternativesParts)
  /-- A run of what a pattern captures. -/
  | multi (inner : String) (mode : RunMode)

/-- Read the shape of a run. -/
def RunMode.read (access : Access) (d : Draft) : Except DocumentFault RunMode := do
  let word ← d.readWord access ["list", "map"]
  .ok (if word = "map" then .map else .list)

/-- The form that names alternatives. -/
def unionRecord : Record (Option AlternativesParts) where
  name := "StrategySpec"
  isStrict := false
  fields :=
    [.of "union" id (fun _ x => some x) (alternativesRecord.read ⟨none, none, none, none⟩) true]

/-- The form that names the pattern of a run. -/
def multiRecord : Record (Option String × Option RunMode) where
  name := "StrategySpec"
  isStrict := false
  fields :=
    [.of "multi" Prod.fst (fun p x => (some x, p.2)) (fun _ => Draft.readString) true,
    .of "mode" Prod.snd (fun p x => (p.1, some x)) RunMode.read false]

/-- The form of a strategy in a draft that was read ahead. -/
def StrategyForm.ofDraft? : Draft → Option StrategyForm
  | .string s => some (short s)
  | .object fields ending =>
    let d : Draft := .object fields ending
    match (unionRecord.read none .ahead d).toOption.join with
    | some parts => some (union parts)
    | none =>
      match (multiRecord.read (none, none) .ahead d).toOption with
      | some (inner, mode) => inner.map fun inner => multi inner (mode.getD .list)
      | none => none
  | _ => none

/-- The strategy of a form. -/
def StrategyForm.build : StrategyForm → Except GrammarFault Strategy
  | short s => Strategy.parse s
  | union parts => do
    let patterns ← (parts.patterns.getD []).mapM Pattern.parse
    .ok (.union ⟨parts.equals.getD [], patterns, parts.kinds.getD [], parts.negated.getD false⟩)
  | multi inner mode => do
    let inner ← Pattern.parse inner
    .ok (.multi ⟨inner, mode⟩)

/-- Read a strategy. -/
def Strategy.read (access : Access) (d : Draft) : Except DocumentFault Strategy := do
  access.readAhead d
  match StrategyForm.ofDraft? d with
  | some form => built form.build
  | none => .error (.misfit (.noVariant "StrategySpec"))

/-- The parts of a slot. -/
structure SlotParts where
  /-- Its name. -/
  name : Option String
  /-- Which tokens it takes. -/
  strategy : Option Strategy
  /-- Its default. -/
  default : Option Value
  /-- Whether it may stay empty. -/
  optional : Option Bool

/-- Slots as records. -/
def slotRecord : Record SlotParts where
  name := "ArgSlot"
  isStrict := true
  fields :=
    [.of "name" SlotParts.name (fun p x => { p with name := some x }) (fun _ => Draft.readString)
      true,
    .of "pattern" SlotParts.strategy (fun p x => { p with strategy := some x }) Strategy.read
      true,
    .of "default" SlotParts.default (fun p x => { p with default := some x }) Value.read false,
    .of "optional" SlotParts.optional (fun p x => { p with optional := some x })
      (fun _ => Draft.readBool) false]

/-- Read a slot. -/
def Slot.read (access : Access) (d : Draft) : Except DocumentFault Slot := do
  let parts ← slotRecord.read ⟨none, none, none, none⟩ access d
  .ok ⟨parts.name.getD "", parts.strategy.getD .any, parts.default, parts.optional.getD false⟩

/-- Read a list of slots. -/
def SlotList.read (access : Access) (d : Draft) : Except DocumentFault SlotList := do
  let slots ← Draft.readList Slot.read access d
  built (SlotList.ofSlots slots)

/-- The parts of an entry. -/
structure EntryParts where
  /-- Its names between bars. -/
  name : Option String
  /-- Further names. -/
  aliases : Option (List String)
  /-- Its slots. -/
  args : Option SlotList
  /-- Its separator, which can be given as absent. -/
  separator : Option (Option String)
  /-- Its help text. -/
  help : Option String

/-- Nothing read of an entry. -/
def EntryParts.none : EntryParts := ⟨.none, .none, .none, .none, .none⟩

/-- Entries as records. -/
def entryRecord : Record EntryParts where
  name := "NodeSpec"
  isStrict := true
  fields :=
    [.of "name" EntryParts.name (fun p x => { p with name := some x }) (fun _ => Draft.readString)
      true,
    .of "aliases" EntryParts.aliases (fun p x => { p with aliases := some x }) readStrings false,
    .of "args" EntryParts.args (fun p x => { p with args := some x }) SlotList.read false,
    .of "separator" EntryParts.separator (fun p x => { p with separator := some x })
      (fun _ => Draft.readOptional Draft.readString) false,
    .of "help" EntryParts.help (fun p x => { p with help := some x }) (fun _ => Draft.readString)
      false]

/-- The entry of its parts: the names, then the further ones in order, then the separator. -/
def EntryParts.build (parts : EntryParts) : Except GrammarFault Entry := do
  let entry ← Entry.ofNames (parts.name.getD "")
  let entry := (entry.withArgs (parts.args.getD .empty)).withHelp (parts.help.getD "")
  let entry ← (parts.aliases.getD []).foldlM Entry.withAlias entry
  match parts.separator.join with
  | some separator => entry.withSeparator separator
  | .none => .ok entry

/-- Read an entry. -/
def Entry.read (access : Access) (d : Draft) : Except DocumentFault Entry := do
  let parts ← entryRecord.read .none access d
  built parts.build

/-- The fields of a nested command: its options, and the other fields in reverse. -/
structure SubcommandParts where
  /-- The options. -/
  options : Option (List Entry)
  /-- The fields that are read as those of an entry. -/
  others : List (Option String × Draft)

/-- Read the fields of a nested command: options as they come, all other fields ahead. -/
def SubcommandParts.readFields (access : Access) :
    List (Option String × Draft) → SubcommandParts → Except DocumentFault SubcommandParts
  | [], parts => .ok parts
  | (none, _) :: _, _ => .error .malformed
  | (some name, value) :: rest, parts =>
    if name = "options" then
      if parts.options.isSome then .error (.misfit (.duplicateField name))
      else do
        let options ← Draft.readList Entry.read access value
        readFields access rest { parts with options := some options }
    else do
      access.readAhead value
      readFields access rest { parts with others := (some name, value) :: parts.others }

/-- Read a nested command, an object with the fields of an entry, options, and others without
a meaning. -/
def Subcommand.read (access : Access) : Draft → Except DocumentFault Subcommand
  | .object fields ending => do
    let access ← access.enter
    let parts ← SubcommandParts.readFields access fields ⟨none, []⟩
    ending.finish
    let lenient := { entryRecord with isStrict := false }
    let entryParts ← lenient.readFields .ahead parts.others.reverse .none
    let entryParts ← Record.checkGiven entryRecord.fields entryParts
    let entry ← built entryParts.build
    built (Subcommand.ofOptions entry (parts.options.getD []))
  | d => .error (d.mismatch "struct SubcommandSpec")

/-- The trigger of a draft that was read ahead: a text, or an object that names the kind of a
unit. -/
def Trigger.ofDraft? : Draft → Option Trigger
  | .string s => some (literal s)
  | .object fields ending =>
    let unitTrigger : Record (Option String) :=
      ⟨"Trigger", [.of "unit" id (fun _ x => some x) (fun _ => Draft.readString) true], false⟩
    ((unitTrigger.read none .ahead (.object fields ending)).toOption.join).map unit
  | _ => none

/-- Read a trigger. -/
def Trigger.read (access : Access) (d : Draft) : Except DocumentFault Trigger := do
  access.readAhead d
  match Trigger.ofDraft? d with
  | some trigger => .ok trigger
  | none => .error (.misfit (.noVariant "Trigger"))

/-- The parts of the description of a command. -/
structure ConfigParts where
  /-- The name. -/
  name : Option String
  /-- What can stand before the name. -/
  triggers : Option (List Trigger)
  /-- The characters that split texts. -/
  separator : Option String
  /-- Whether failures are raised. -/
  raises : Option Bool
  /-- The arguments after the name. -/
  args : Option SlotList
  /-- The options. -/
  options : Option (List Entry)
  /-- The nested commands. -/
  subcommands : Option (List Subcommand)
  /-- The kinds of units that are excluded. -/
  excluded : Option (List String)
  /-- The help text. -/
  help : Option String

/-- Descriptions of commands as records. -/
def configRecord : Record ConfigParts where
  name := "CommandConfig"
  isStrict := true
  fields :=
    [.of "name" ConfigParts.name (fun p x => { p with name := some x }) (fun _ => Draft.readString)
      true,
    .of "triggers" ConfigParts.triggers (fun p x => { p with triggers := some x })
      (Draft.readList Trigger.read) false,
    .of "separator" ConfigParts.separator (fun p x => { p with separator := some x })
      (fun _ => Draft.readString) false,
    .of "raise_on_failure" ConfigParts.raises (fun p x => { p with raises := some x })
      (fun _ => Draft.readBool) false,
    .of "args" ConfigParts.args (fun p x => { p with args := some x }) SlotList.read false,
    .of "options" ConfigParts.options (fun p x => { p with options := some x })
      (Draft.readList Entry.read) false,
    .of "subcommands" ConfigParts.subcommands (fun p x => { p with subcommands := some x })
      (Draft.readList Subcommand.read) false,
    .of "filter_out" ConfigParts.excluded (fun p x => { p with excluded := some x })
      readStrings false,
    .of "help" ConfigParts.help (fun p x => { p with help := some x }) (fun _ => Draft.readString)
      false]

/-- Read the description of a command. -/
def CommandConfig.read (access : Access) (d : Draft) : Except DocumentFault CommandConfig := do
  let start : ConfigParts := ⟨none, none, none, none, none, none, none, none, none⟩
  let parts ← configRecord.read start access d
  .ok ⟨parts.name.getD "", parts.triggers.getD [], parts.separator.getD defaultSeparator,
    parts.raises.getD false, parts.args.getD .empty, parts.options.getD [],
    parts.subcommands.getD [], parts.excluded.getD [], parts.help.getD ""⟩

namespace Command

/-- Read a command as a part of a document. -/
def read (access : Access) (d : Draft) : Except DocumentFault Command := do
  let config ← CommandConfig.read access d
  built (ofConfig config)

/-- The command that a document describes. -/
def ofDocument (text : String) : Except LoadFault Command :=
  match readDocument CommandConfig.read text with
  | .error fault => .error (.document fault)
  | .ok config =>
    match ofConfig config with
    | .error fault => .error (.grammar fault)
    | .ok command => .ok command

end Command

end CommandGrammar
