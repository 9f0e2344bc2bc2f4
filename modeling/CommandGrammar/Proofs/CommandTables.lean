import CommandGrammar.Document.Grammar
import CommandGrammar.Proofs.ConsumedNames
import Mathlib.Data.List.Duplicate

/-!
# Names and tables of commands

A command comes out of a document, out of a part of one, or out of a description that was put
together. Whichever it was, its parts are in order: separators and names are given, and no two
aliases or slots that stand side by side share a name. What a name calls and which texts are
keywords can then be read off the aliases.

The names of one option or nested command never clash with each other. `SharesName` says that two
different ones have a name in common, and `obtained_tables` that a description whose name, separator
and header are in order is refused for that reason only, with one of the names that are shared.
-/

namespace CommandGrammar

/-- A name that is found to be repeated stands in the list twice, or was passed before. -/
theorem duplicate_of_firstRepeated_go {seen names : List String} {name : String}
    (h : firstRepeated?.go seen names = some name) :
    (name ∈ seen ∧ name ∈ names) ∨ List.Duplicate name names := by
  induction names generalizing seen with
  | nil => cases h
  | cons first rest ih =>
    unfold firstRepeated?.go at h
    split at h
    · rename_i hseen
      cases h
      exact .inl ⟨List.contains_iff_mem.mp hseen, List.mem_cons_self⟩
    · rcases ih h with ⟨hseen, hrest⟩ | hrest
      · rcases List.mem_cons.mp hseen with rfl | hseen
        · exact .inr hrest.duplicate_cons_self
        · exact .inl ⟨hseen, List.mem_cons_of_mem _ hrest⟩
      · exact .inr (hrest.duplicate_cons first)

/-- A name that is found to be repeated stands in the list twice. -/
theorem duplicate_of_firstRepeated {names : List String} {name : String}
    (h : firstRepeated? names = some name) : List.Duplicate name names :=
  (duplicate_of_firstRepeated_go h).resolve_left fun hseen => List.not_mem_nil hseen.1

/-- Two items at different places answer to a name. -/
def SharesName {α : Type} (entry : α → Entry) (items : List α) (name : String) : Prop :=
  ∃ first second, [first, second].Sublist items ∧
    name ∈ (entry first).aliases ∧ name ∈ (entry second).aliases

/-- A name that stands among the aliases of items twice is shared, as no item has it twice. -/
theorem sharesName_of_duplicate {α : Type} {entry : α → Entry} {items : List α} {name : String}
    (h : List.Duplicate name (items.flatMap fun x => (entry x).aliases)) :
    SharesName entry items name := by
  induction items with
  | nil => exact absurd h (List.not_duplicate_nil name)
  | cons first rest ih =>
    rw [List.flatMap_cons, List.duplicate_iff_two_le_count, List.count_append] at h
    by_cases hfirst : name ∈ (entry first).aliases
    · have hown : (entry first).aliases.count name ≤ 1 :=
        List.nodup_iff_count_le_one.mp (entry first).distinct name
      have hrest : name ∈ rest.flatMap fun x => (entry x).aliases :=
        List.count_pos_iff.mp (by omega)
      obtain ⟨second, hsecond, hname⟩ := List.mem_flatMap.mp hrest
      exact ⟨first, second, (List.singleton_sublist.mpr hsecond).cons_cons first, hfirst, hname⟩
    · rw [List.count_eq_zero_of_not_mem hfirst, Nat.zero_add] at h
      obtain ⟨x, y, hplaces, hx, hy⟩ := ih (List.duplicate_iff_two_le_count.mpr h)
      exact ⟨x, y, hplaces.cons first, hx, hy⟩

/-- All aliases of some items differ exactly when no name is shared. -/
theorem aliases_nodup_iff {α : Type} {entry : α → Entry} {items : List α} :
    (items.flatMap fun x => (entry x).aliases).Nodup ↔ ∀ name, ¬ SharesName entry items name := by
  constructor
  · rintro hnodup name ⟨x, y, hplaces, hx, hy⟩
    have hapart := List.pairwise_iff_forall_sublist.mp (List.nodup_flatMap.mp hnodup).2 hplaces
    exact hapart hx hy
  · intro h
    by_contra hrepeated
    obtain ⟨name, hname⟩ := List.exists_duplicate_iff_not_nodup.mpr hrepeated
    exact h name (sharesName_of_duplicate hname)

/-- Two options or nested commands of a description answer to a name. -/
def CommandConfig.SharesName (c : CommandConfig) (name : String) : Prop :=
  CommandGrammar.SharesName Member.entry c.members name

/-- A description whose name, separator and header are in order is refused for a repeated name
only. -/
theorem ofConfig_eq_error_iff {config : CommandConfig} {header : Header} {fault : GrammarFault}
    (hname : config.name ≠ "") (hseparator : config.separator ≠ "")
    (hheader : Header.ofTriggers config.name config.triggers = .ok header) :
    Command.ofConfig config = .error fault ↔
      ∃ name, firstRepeated? config.memberNames = some name ∧
        fault = .duplicateName name config.name := by
  unfold Command.ofConfig
  rw [dif_neg hname, dif_neg hseparator]
  split
  · rename_i hother
    cases hheader.symm.trans hother
  · split
    · rename_i name hrepeated
      simp [hrepeated, eq_comm]
    · rename_i hnone
      simp [hnone]

/-- Such a description is refused exactly when a name is shared, and the fault names one that is. -/
theorem refused_iff_shared {config : CommandConfig} {header : Header}
    (hname : config.name ≠ "") (hseparator : config.separator ≠ "")
    (hheader : Header.ofTriggers config.name config.triggers = .ok header) :
    ((∃ fault, Command.ofConfig config = .error fault) ↔ ∃ name, config.SharesName name) ∧
      ∀ fault, Command.ofConfig config = .error fault →
        ∃ name, config.SharesName name ∧ fault = .duplicateName name config.name := by
  have hfault : ∀ fault, Command.ofConfig config = .error fault →
      ∃ name, config.SharesName name ∧ fault = .duplicateName name config.name := by
    intro fault h
    obtain ⟨name, hrepeated, hnamed⟩ := (ofConfig_eq_error_iff hname hseparator hheader).mp h
    exact ⟨name, sharesName_of_duplicate (duplicate_of_firstRepeated hrepeated), hnamed⟩
  refine ⟨⟨fun ⟨fault, h⟩ => ?_, fun ⟨name, hshared⟩ => ?_⟩, hfault⟩
  · obtain ⟨name, hshared, -⟩ := hfault fault h
    exact ⟨name, hshared⟩
  · have hsome : firstRepeated? config.memberNames ≠ none := fun hnone =>
      aliases_nodup_iff.mp (firstRepeated?_eq_none.mp hnone) name hshared
    obtain ⟨repeated, hrepeated⟩ := Option.ne_none_iff_exists'.mp hsome
    exact ⟨_, (ofConfig_eq_error_iff hname hseparator hheader).mpr ⟨repeated, hrepeated, rfl⟩⟩

/-- The entries of an option or nested command, its own first. -/
def Member.entries : Member → List Entry
  | option e => [e]
  | subcommand s => s.entry :: s.options

namespace CommandConfig

/-- The entries of all options, nested commands and options of these. -/
def entries (c : CommandConfig) : List Entry := c.members.flatMap Member.entries

/-- The lists of slots after the header and of all entries. -/
def slotLists (c : CommandConfig) : List SlotList := c.args :: c.entries.map Entry.args

/-- The parts of a description are in order. -/
structure WellFormed (c : CommandConfig) : Prop where
  /-- The separator has a character. -/
  separates : c.separator ≠ ""
  /-- Separators of options and nested commands have a character. -/
  overrides : ∀ e ∈ c.entries, e.separator ≠ some ""
  /-- No alias is empty. -/
  named : ∀ e ∈ c.entries, ∀ name ∈ e.aliases, name ≠ ""
  /-- Every slot has a name. -/
  slotsNamed : ∀ l ∈ c.slotLists, ∀ slot ∈ l.slots, slot.name ≠ ""
  /-- No two slots of one list share a name. -/
  slotsDistinct : ∀ l ∈ c.slotLists, (l.slots.map Slot.name).Nodup
  /-- No two aliases of options and nested commands are equal. -/
  distinct : (c.members.flatMap fun m => m.entry.aliases).Nodup
  /-- No two aliases of the options of one nested command are equal. -/
  childrenDistinct : ∀ s ∈ c.subcommands, (s.options.flatMap Entry.aliases).Nodup

end CommandConfig

namespace Command

/-- The names in the tables of a command are the aliases of its parts. -/
structure TablesAgree (c : Command) : Prop where
  /-- Every alias of an option or nested command calls it. -/
  calls : ∀ m ∈ c.members, ∀ name ∈ m.entry.aliases, c.resolve? name = some m
  /-- Every alias of an option of a nested command calls it there. -/
  callsChild : ∀ s ∈ c.config.subcommands, ∀ e ∈ s.options, ∀ name ∈ e.aliases,
    s.resolve? name = some e
  /-- The keywords are the aliases of options, nested commands and options of these. -/
  keywords : ∀ word, word ∈ c.sortedKeywords ↔
    (∃ m ∈ c.members, word ∈ m.entry.aliases) ∨
      ∃ s ∈ c.config.subcommands, ∃ e ∈ s.options, word ∈ e.aliases
  /-- Every keyword is listed once, in order. -/
  sorted : c.sortedKeywords.Pairwise (· < ·)
  /-- The texts that slots are kept from are the keywords. -/
  kept : ∀ word, word ∈ c.keywords ↔ word ∈ c.sortedKeywords

/-- The ways in which there comes to be a command. -/
inductive Obtained (c : Command) : Prop where
  /-- A document describes it. -/
  | document {text : String} (h : Command.ofDocument text = .ok c)
  /-- A part of a document describes it. -/
  | part {access : Access} {d : Draft} (h : Command.read access d = .ok c)
  /-- It was put together. -/
  | built {config : CommandConfig} (h : Command.ofConfig config = .ok c)

/-- The parts of a command are in order. -/
theorem config_wellFormed (c : Command) : c.config.WellFormed where
  separates := c.separates
  overrides e _ := e.separates
  named e _ := e.named
  slotsNamed l _ := l.named
  slotsDistinct l _ := l.distinct
  distinct := c.distinct
  childrenDistinct s _ := s.distinct

/-- The keywords of an option or nested command are its aliases and those of its options. -/
theorem mem_member_keywords {m : Member} {word : String} :
    word ∈ m.keywords ↔ word ∈ m.entry.aliases ∨
      ∃ s, m = .subcommand s ∧ ∃ e ∈ s.options, word ∈ e.aliases := by
  cases m with
  | option e => simp [Member.keywords, Member.entry]
  | subcommand s => simp [Member.keywords, Member.entry]

/-- The keywords of a command are the aliases of options, nested commands and options of these. -/
theorem mem_keywords_iff {c : Command} {word : String} :
    word ∈ c.keywords ↔ (∃ m ∈ c.members, word ∈ m.entry.aliases) ∨
      ∃ s ∈ c.config.subcommands, ∃ e ∈ s.options, word ∈ e.aliases := by
  simp only [Command.keywords, List.mem_flatMap, mem_member_keywords]
  constructor
  · rintro ⟨m, hm, hname | ⟨s, rfl, e, he, hname⟩⟩
    · exact .inl ⟨m, hm, hname⟩
    · exact .inr ⟨s, CommandConfig.subcommand_mem_members.mp hm, e, he, hname⟩
  · rintro (⟨m, hm, hname⟩ | ⟨s, hs, e, he, hname⟩)
    · exact ⟨m, hm, .inl hname⟩
    · exact ⟨.subcommand s, CommandConfig.subcommand_mem_members.mpr hs,
        .inr ⟨s, rfl, e, he, hname⟩⟩

/-- Sorting the keywords keeps them. -/
theorem mem_sortedKeywords {c : Command} {word : String} :
    word ∈ c.sortedKeywords ↔ word ∈ c.keywords := by
  rw [Command.sortedKeywords, NameMap.mem_names, NameMap.get?_ofList, findEntry_isSome]
  simp

/-- The tables of a command agree with its parts. -/
theorem tables_agree (c : Command) : c.TablesAgree where
  calls _ hm _ hname := callee?_of_alias c.distinct hm hname
  callsChild s _ _ he _ hname := callee?_of_alias s.distinct he hname
  keywords _ := mem_sortedKeywords.trans mem_keywords_iff
  sorted := List.pairwise_map.mpr (NameMap.sorted _)
  kept _ := mem_sortedKeywords.symm

end Command

/-- However a command was obtained, its parts are in order and its tables agree with them: the
structures carry the proofs of it, so nothing has to be known of the way it was obtained. A
description whose name, separator and header are in order is refused exactly when two of its options
and nested commands share a name, and then for a name that they share. -/
theorem obtained_tables :
    (∀ c : Command, c.Obtained → c.config.WellFormed ∧ c.TablesAgree) ∧
      ∀ config : CommandConfig, config.name ≠ "" → config.separator ≠ "" →
        (∃ header, Header.ofTriggers config.name config.triggers = .ok header) →
          ((∃ fault, Command.ofConfig config = .error fault) ↔
            ∃ name, config.SharesName name) ∧
          ∀ fault, Command.ofConfig config = .error fault →
            ∃ name, config.SharesName name ∧ fault = .duplicateName name config.name := by
  refine ⟨fun c _ => ⟨c.config_wellFormed, c.tables_agree⟩, ?_⟩
  rintro config hname hseparator ⟨header, hheader⟩
  exact refused_iff_shared hname hseparator hheader

/-- A document of a command with an option that is written with one name twice, and a nested command
with an option of its own. -/
def goDocument : String :=
  "\x7b\"name\": \"go\", \"options\": [\x7b\"name\": \"-a|--all|-a\"\x7d], " ++
    "\"subcommands\": [\x7b\"name\": \"set\", \"options\": [\x7b\"name\": \"-f\"\x7d]\x7d]\x7d"

/-- A description that has one option twice. -/
def twiceConfig : CommandConfig :=
  { CommandConfig.ofName "go" with options := [receiverOption, receiverOption] }

/-- The document has a command, whose tables agree with its parts. The description that has one
option twice is refused for a name of it. -/
theorem obtained_tables_go :
    (∃ c, Command.ofDocument goDocument = .ok c ∧ c.config.WellFormed ∧ c.TablesAgree ∧
      c.sortedKeywords = ["--all", "-a", "-f", "set"]) ∧
    ∃ name, twiceConfig.SharesName name ∧
      Command.ofConfig twiceConfig = .error (.duplicateName name "go") := by
  constructor
  · obtain ⟨c, hc⟩ : ∃ c, Command.ofDocument goDocument = .ok c :=
      exists_of_isOk (by decide +kernel)
    obtain ⟨hparts, htables⟩ := obtained_tables.1 c (.document hc)
    have hsorted : (Command.ofDocument goDocument).toOption.map Command.sortedKeywords =
        some ["--all", "-a", "-f", "set"] := by decide +kernel
    rw [hc] at hsorted
    exact ⟨c, hc, hparts, htables, Option.some.inj hsorted⟩
  · have hheader : ∃ header, Header.ofTriggers twiceConfig.name twiceConfig.triggers = .ok header :=
      exists_of_isOk (by decide +kernel)
    obtain ⟨hiff, hnamed⟩ := obtained_tables.2 twiceConfig (by decide) (by decide) hheader
    have hshared : twiceConfig.SharesName "--to" :=
      ⟨.option receiverOption, .option receiverOption, List.Sublist.refl _, by decide, by decide⟩
    obtain ⟨fault, hfault⟩ := hiff.mpr ⟨"--to", hshared⟩
    obtain ⟨name, hname, rfl⟩ := hnamed fault hfault
    exact ⟨name, hname, hfault⟩

end CommandGrammar
