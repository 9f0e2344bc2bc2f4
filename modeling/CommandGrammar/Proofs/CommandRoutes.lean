import CommandGrammar.Proofs.OutlineDocuments
import CommandGrammar.Proofs.OutlineReading

/-!
# Two ways to a command

A command is put together from its outline, or it is loaded from a document that spells the outline.
The document is a tree, or a text that such a tree stands in and that has no more levels than a text
may have. `routes_agree` compares the two ways.

Both check the same things at different times. A part that is not in order is noticed when it is
built, or makes the document one that is refused; the fault that is then reported need not be the
same, as it depends on the order in which the parts come. The command as a whole is only looked at
where all parts are in order, and its fault is the same either way.
-/

namespace CommandGrammar

/-- The command of a description that was read from a document. -/
def Command.ofReading (reading : Except DocumentFault CommandConfig) : Except LoadFault Command :=
  match reading with
  | .error fault => .error (.document fault)
  | .ok config =>
    match ofConfig config with
    | .error fault => .error (.grammar fault)
    | .ok command => .ok command

/-- The command that a tree describes. -/
def Command.ofTree (tree : Json) : Except LoadFault Command :=
  ofReading (CommandConfig.read .tree (Draft.ofTree tree))

/-- A document has the command of the description that is read from it. -/
theorem Command.ofDocument_eq (text : String) :
    Command.ofDocument text = ofReading (readDocument CommandConfig.read text) := rfl

/-- What loading a tree gives, by itself or as a text. -/
inductive LoadsTree (tree : Json) : Except LoadFault Command → Prop where
  /-- The tree by itself. -/
  | tree : LoadsTree tree (Command.ofTree tree)
  /-- A text that the tree stands in, with no more levels than are allowed. -/
  | text {text : String} (hdraft : Draft.ofText text = (Draft.ofTree tree, true))
      (hlevels : (Draft.ofTree tree).hasValue Draft.depthLimit = true) :
      LoadsTree tree (Command.ofDocument text)

/-- The description is read from the draft of the tree either way. -/
theorem LoadsTree.reading {tree : Json} {loaded : Except LoadFault Command}
    (h : LoadsTree tree loaded) : ∃ access : Access, access.Reads tree ∧
      loaded = Command.ofReading (CommandConfig.read access (Draft.ofTree tree)) := by
  cases h with
  | tree => exact ⟨.tree, trivial, rfl⟩
  | text hdraft hlevels =>
    refine ⟨.direct Draft.depthLimit, hlevels, ?_⟩
    rw [Command.ofDocument_eq, readDocument, hdraft]
    exact congrArg Command.ofReading
      (bind_pure (CommandConfig.read (.direct Draft.depthLimit) (Draft.ofTree tree)))

/-- A command is loaded from a document exactly when it can be put together from the outline that
the document spells, and it is the same command. If a part of the outline is not in order, the
document is refused. If only the command as a whole is not in order, its fault is reported either
way. -/
theorem routes_agree {o : CommandOutline} {tree : Json} {loaded : Except LoadFault Command}
    (hspells : SpellsCommand o tree) (hloads : LoadsTree tree loaded) :
    (∀ command, loaded = .ok command ↔ o.build = .ok command) ∧
    (∀ fault, o.config = .error fault →
      o.build = .error fault ∧ ∃ cause, loaded = .error (.document cause)) ∧
    ∀ config fault, o.config = .ok config → Command.ofConfig config = .error fault →
      o.build = .error fault ∧ loaded = .error (.grammar fault) := by
  obtain ⟨access, hreads, rfl⟩ := hloads.reading
  have hread : (CommandConfig.read access (Draft.ofTree tree)).toOption = o.config.toOption :=
    readsAs_config access o tree hspells hreads
  cases hconfig : o.config with
  | error fault =>
    have hbuild : o.build = .error fault := by
      rw [CommandOutline.build, hconfig]
      rfl
    obtain ⟨cause, hcause⟩ :
        ∃ cause, CommandConfig.read access (Draft.ofTree tree) = .error cause := by
      cases hresult : CommandConfig.read access (Draft.ofTree tree) with
      | error cause => exact ⟨cause, rfl⟩
      | ok config => simp [hresult, hconfig, Except.toOption] at hread
    rw [hbuild, hcause]
    refine ⟨fun command => ?_, fun other hother => ?_, fun config other hother => ?_⟩
    · constructor <;> intro h <;> cases h
    · cases hother
      exact ⟨rfl, cause, rfl⟩
    · cases hother
  | ok config =>
    have hresult : CommandConfig.read access (Draft.ofTree tree) = .ok config := by
      rw [eq_ok_iff, hread, hconfig]
      rfl
    have hbuild : o.build = Command.ofConfig config := by
      rw [CommandOutline.build, hconfig]
      rfl
    rw [hresult, hbuild, Command.ofReading]
    refine ⟨fun command => ?_, fun fault hfault => ?_, fun other fault hother hfault => ?_⟩
    · cases Command.ofConfig config <;> simp
    · cases hfault
    · cases hother
      rw [hfault]
      exact ⟨rfl, rfl⟩

/-- The outline of a command with an argument and an option. -/
def greetOutline : CommandOutline where
  name := "greet"
  triggers := none
  separator := none
  raises := none
  args := some [⟨"who", .short "str", none, none⟩]
  options := some [⟨"--loud", some ["-l"], none, none, none⟩]
  subcommands := none
  excluded := none
  help := none

/-- A text that spells the outline. -/
def greetText : String :=
  "\x7b\"name\": \"greet\", \"args\": [\x7b\"name\": \"who\", \"pattern\": \"str\"\x7d], " ++
    "\"options\": [\x7b\"name\": \"--loud\", \"aliases\": [\"-l\"]\x7d]\x7d"

/-- An option that takes an argument by what is no pattern. -/
def brokenOption : EntryOutline :=
  ⟨"--to|-t", none, some [⟨"rest", .multi "(" none, some .null, some true⟩], none, none⟩

/-- An outline with a nested command that has such an option. -/
def brokenOutline : CommandOutline :=
  { greetOutline with
    subcommands := some [⟨⟨"set", none, none, some (some "="), none⟩, some [brokenOption]⟩] }

/-- An outline with a nested command that has the name of an option. -/
def clashingOutline : CommandOutline :=
  { greetOutline with subcommands := some [⟨⟨"-l|list", none, none, none, none⟩, none⟩] }

set_option maxRecDepth 4000 in
/-- The outline can be put together and loaded from its text. The outline with a part that is not in
order has a document that is refused, and the one with a shared name has the same fault either
way. -/
theorem routes_agree_greet :
    (∃ command, Command.ofDocument greetText = .ok command ∧ greetOutline.build = .ok command) ∧
    (∃ cause, Command.ofTree brokenOutline.document = .error (.document cause)) ∧
    ∃ fault, clashingOutline.build = .error fault ∧
      Command.ofTree clashingOutline.document = .error (.grammar fault) := by
  refine ⟨?_, ?_, ?_⟩
  · have hdraft : Draft.ofText greetText = (Draft.ofTree greetOutline.document, true) := by rfl
    obtain ⟨command, hbuild⟩ : ∃ command, greetOutline.build = .ok command :=
      exists_of_isOk (by decide +kernel)
    have hloaded := (routes_agree greetOutline.spells_document (.text hdraft (by decide))).1 command
    exact ⟨command, hloaded.mpr hbuild, hbuild⟩
  · cases hconfig : brokenOutline.config with
    | ok config =>
      have hrefused : brokenOutline.config.isOk = false := by decide +kernel
      rw [hconfig] at hrefused
      cases hrefused
    | error fault => exact ((routes_agree brokenOutline.spells_document .tree).2.1 fault hconfig).2
  · obtain ⟨config, hconfig⟩ : ∃ config, clashingOutline.config = .ok config :=
      exists_of_isOk (by decide +kernel)
    cases hcommand : Command.ofConfig config with
    | ok command =>
      have hrefused : clashingOutline.build.isOk = false := by decide +kernel
      rw [CommandOutline.build, hconfig] at hrefused
      change (Command.ofConfig config).isOk = false at hrefused
      rw [hcommand] at hrefused
      cases hrefused
    | error fault =>
      exact ⟨fault, (routes_agree clashingOutline.spells_document .tree).2.2 config fault hconfig
        hcommand⟩

end CommandGrammar
