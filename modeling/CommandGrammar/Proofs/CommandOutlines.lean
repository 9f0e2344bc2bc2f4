import CommandGrammar.Proofs.RecordReading

/-!
# Outlines of commands

An outline says what there is to say of a command: its name, and as much of the rest as is given. A
command can be had from it in two ways. It can be put together step by step, strategies first, then
slots, entries and nested commands, and the description of the command last. Or the outline is
spelled as a tree, which is read as a document.

`Spells` relations say which trees spell an outline: objects with a field for each part that is
given, in any order. `routes_agree` compares the two ways: the same outlines have commands, and the
same ones. What is wrong with a part is a fault of the document, and what is wrong with the command
as a whole is the same fault either way.
-/

namespace CommandGrammar

/-! ### Putting commands together -/

/-- The outline of a strategy. -/
inductive StrategyOutline where
  /-- A text. -/
  | short (text : String)
  /-- Alternatives. -/
  | union (parts : AlternativesParts)
  /-- A run of what a pattern captures. -/
  | multi (inner : String) (mode : Option RunMode)

/-- The strategy of an outline. -/
def StrategyOutline.build : StrategyOutline → Except GrammarFault Strategy
  | short text => Strategy.parse text
  | union parts => do
    let patterns ← (parts.patterns.getD []).mapM Pattern.parse
    .ok (.union ⟨parts.equals.getD [], patterns, parts.kinds.getD [], parts.negated.getD false⟩)
  | multi inner mode => do
    let pattern ← Pattern.parse inner
    .ok (.multi ⟨pattern, mode.getD .list⟩)

/-- The outline of a slot. -/
structure SlotOutline where
  /-- Its name. -/
  name : String
  /-- Which tokens it takes. -/
  strategy : StrategyOutline
  /-- Its default, which can be an explicit null. -/
  default : Option Json
  /-- Whether it may stay without a value. -/
  optional : Option Bool

/-- The slot of an outline. -/
def SlotOutline.build (o : SlotOutline) : Except GrammarFault Slot := do
  let strategy ← o.strategy.build
  let slot := Slot.ofStrategy o.name strategy
  let slot := o.default.elim slot fun tree => slot.withDefault (.ofJson tree)
  .ok (if o.optional = some true then slot.asOptional else slot)

/-- The list of some slots. -/
def buildSlots (slots : List SlotOutline) : Except GrammarFault SlotList := do
  let slots ← slots.mapM SlotOutline.build
  SlotList.ofSlots slots

/-- The outline of an entry. -/
structure EntryOutline where
  /-- Its names between bars. -/
  name : String
  /-- Further names. -/
  aliases : Option (List String)
  /-- Its slots. -/
  args : Option (List SlotOutline)
  /-- Its separator, which can be given as absent. -/
  separator : Option (Option String)
  /-- Its help text. -/
  help : Option String

/-- The same entry with a separator of its own, if one is given. -/
def Entry.withSeparator? (e : Entry) : Option String → Except GrammarFault Entry
  | some separator => e.withSeparator separator
  | none => .ok e

/-- The entry of an outline and its slots. -/
def EntryOutline.assemble (o : EntryOutline) (args : Option SlotList) :
    Except GrammarFault Entry := do
  let entry ← Entry.ofNames o.name
  let entry := args.elim entry entry.withArgs
  let entry := o.help.elim entry entry.withHelp
  let entry ← (o.aliases.getD []).foldlM Entry.withAlias entry
  entry.withSeparator? o.separator.join

/-- The entry of an outline. -/
def EntryOutline.build (o : EntryOutline) : Except GrammarFault Entry := do
  let args ← o.args.mapM buildSlots
  o.assemble args

/-- The outline of a nested command. -/
structure SubcommandOutline where
  /-- Its names, slots and separator. -/
  entry : EntryOutline
  /-- Its options. -/
  options : Option (List EntryOutline)

/-- The nested command of an outline. -/
def SubcommandOutline.build (o : SubcommandOutline) : Except GrammarFault Subcommand := do
  let entry ← o.entry.build
  let options ← o.options.mapM fun options => options.mapM EntryOutline.build
  Subcommand.ofOptions entry (options.getD [])

/-- The outline of a command. -/
structure CommandOutline where
  /-- The name. -/
  name : String
  /-- What can stand before the name. -/
  triggers : Option (List Trigger)
  /-- The characters that split texts. -/
  separator : Option String
  /-- Whether failures are raised. -/
  raises : Option Bool
  /-- The arguments after the name. -/
  args : Option (List SlotOutline)
  /-- The options. -/
  options : Option (List EntryOutline)
  /-- The nested commands. -/
  subcommands : Option (List SubcommandOutline)
  /-- The kinds of units that are excluded. -/
  excluded : Option (List String)
  /-- The help text. -/
  help : Option String

namespace CommandOutline

/-- The description of an outline and its parts, one thing after the other. -/
def assemble (o : CommandOutline) (args : Option SlotList) (options : Option (List Entry))
    (subcommands : Option (List Subcommand)) : CommandConfig :=
  let c := CommandConfig.ofName o.name
  let c := (o.triggers.getD []).foldl CommandConfig.addTrigger c
  let c := o.separator.elim c c.withSeparator
  let c := o.raises.elim c c.withRaises
  let c := args.elim c c.withArgs
  let c := (options.getD []).foldl CommandConfig.addOption c
  let c := (subcommands.getD []).foldl CommandConfig.addSubcommand c
  let c := (o.excluded.getD []).foldl CommandConfig.addExcluded c
  o.help.elim c c.withHelp

/-- The description of an outline, if its parts are in order. -/
def config (o : CommandOutline) : Except GrammarFault CommandConfig := do
  let args ← o.args.mapM buildSlots
  let options ← o.options.mapM fun options => options.mapM EntryOutline.build
  let subcommands ← o.subcommands.mapM fun subcommands =>
    subcommands.mapM SubcommandOutline.build
  .ok (o.assemble args options subcommands)

/-- The command of an outline. -/
def build (o : CommandOutline) : Except GrammarFault Command := do
  let config ← o.config
  Command.ofConfig config

end CommandOutline

/-! ### Spelling outlines -/

/-- The trees that spell a trigger. -/
def SpellsTrigger : Trigger → Json → Prop
  | .literal text, tree => tree = .string text
  | .unit kind, tree => tree = .object [("unit", .string kind)]

/-- The trees that spell the shape of a run. -/
def SpellsMode (mode : RunMode) (tree : Json) : Prop :=
  tree = .string (match mode with | .list => "list" | .map => "map")

/-- The trees that spell alternatives. -/
def SpellsAlternatives (parts : AlternativesParts) (tree : Json) : Prop :=
  ∃ fields, tree = .object fields ∧ TellsAmong alternativesRecord.names fields ∧
    Tells (SpellsList SpellsText) parts.equals "equals" fields ∧
    Tells (SpellsList SpellsText) parts.patterns "patterns" fields ∧
    Tells (SpellsList SpellsText) parts.kinds "kinds" fields ∧
    Tells SpellsBool parts.negated "negated" fields

/-- The trees that spell a strategy. -/
def SpellsStrategy : StrategyOutline → Json → Prop
  | .short text, tree => tree = .string text
  | .union parts, tree =>
    ∃ inner, tree = .object [("union", inner)] ∧ SpellsAlternatives parts inner
  | .multi inner mode, tree =>
    ∃ fields, tree = .object fields ∧ TellsAmong multiRecord.names fields ∧
      Tells SpellsText (some inner) "multi" fields ∧ Tells SpellsMode mode "mode" fields

/-- The trees that spell a slot. -/
def SpellsSlot (o : SlotOutline) (tree : Json) : Prop :=
  ∃ fields, tree = .object fields ∧ TellsAmong slotRecord.names fields ∧
    Tells SpellsText (some o.name) "name" fields ∧
    Tells SpellsStrategy (some o.strategy) "pattern" fields ∧
    Tells Eq o.default "default" fields ∧
    Tells SpellsBool o.optional "optional" fields

/-- The fields that an entry and a nested command have in common. -/
structure TellsEntry (o : EntryOutline) (fields : List (String × Json)) : Prop where
  /-- The names. -/
  name : Tells SpellsText (some o.name) "name" fields
  /-- The further names. -/
  aliases : Tells (SpellsList SpellsText) o.aliases "aliases" fields
  /-- The slots. -/
  args : Tells (SpellsList SpellsSlot) o.args "args" fields
  /-- The separator. -/
  separator : Tells SpellsTextOrNull o.separator "separator" fields
  /-- The help text. -/
  help : Tells SpellsText o.help "help" fields

/-- The trees that spell an entry. -/
def SpellsEntry (o : EntryOutline) (tree : Json) : Prop :=
  ∃ fields, tree = .object fields ∧ TellsAmong entryRecord.names fields ∧ TellsEntry o fields

/-- The trees that spell a nested command. -/
def SpellsSubcommand (o : SubcommandOutline) (tree : Json) : Prop :=
  ∃ fields, tree = .object fields ∧ TellsAmong ("options" :: entryRecord.names) fields ∧
    TellsEntry o.entry fields ∧ Tells (SpellsList SpellsEntry) o.options "options" fields

/-- The fields of a command. -/
structure TellsCommand (o : CommandOutline) (fields : List (String × Json)) : Prop where
  /-- The name. -/
  name : Tells SpellsText (some o.name) "name" fields
  /-- What can stand before the name. -/
  triggers : Tells (SpellsList SpellsTrigger) o.triggers "triggers" fields
  /-- The characters that split texts. -/
  separator : Tells SpellsText o.separator "separator" fields
  /-- Whether failures are raised. -/
  raises : Tells SpellsBool o.raises "raise_on_failure" fields
  /-- The arguments after the name. -/
  args : Tells (SpellsList SpellsSlot) o.args "args" fields
  /-- The options. -/
  options : Tells (SpellsList SpellsEntry) o.options "options" fields
  /-- The nested commands. -/
  subcommands : Tells (SpellsList SpellsSubcommand) o.subcommands "subcommands" fields
  /-- The kinds of units that are excluded. -/
  excluded : Tells (SpellsList SpellsText) o.excluded "filter_out" fields
  /-- The help text. -/
  help : Tells SpellsText o.help "help" fields

/-- The trees that spell a command. -/
def SpellsCommand (o : CommandOutline) (tree : Json) : Prop :=
  ∃ fields, tree = .object fields ∧ TellsAmong configRecord.names fields ∧ TellsCommand o fields

end CommandGrammar
