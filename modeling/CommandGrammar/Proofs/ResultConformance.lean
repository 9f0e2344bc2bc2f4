import CommandGrammar.Matching.Analysis

/-!
# Results conform to the command

Values are kept under the names of options and nested commands as the command knows them, and
under the names of slots. In a result that matched every slot has a value unless it may lack
one. A fault about a slot leaves one map of values incomplete: the slots before that slot are
settled in it, and neither that slot nor a later one has a value. Any other fault leaves
nothing.

The lists of slots are followed from one slot to the next with `Accounts`, and the loops from
one call to the next with `FaultAtOne`. `run_conforms` puts both together for every input.
-/

namespace CommandGrammar

/-- The slot that a fault is about. -/
def MatchFault.slot? : MatchFault → Option String
  | unmatched slot _ => some slot
  | missing slot => some slot
  | _ => none

/-- Whether a slot has a value, or is optional without a default. -/
def Slot.Settled (slot : Slot) (values : SlotValues) : Prop :=
  (values.get? slot.name).isSome ∨ (slot.optional = true ∧ slot.default = none)

/-- Whether all slots are settled. -/
def Complete (slots : List Slot) (values : SlotValues) : Prop :=
  ∀ slot ∈ slots, slot.Settled values

/-- Whether the slots before the one of a name are settled, while it and those after it have
no value. -/
def StuckAt (name : String) (slots : List Slot) (values : SlotValues) : Prop :=
  ∃ before slot after, slots = before ++ slot :: after ∧ slot.name = name ∧
    Complete before values ∧ ∀ later ∈ slot :: after, values.get? later.name = none

/-- Values are those of slots: of all of them, or of those before a required slot that a fault
is about. -/
structure Accounts (slots : List Slot) (values : SlotValues) (fault : Option MatchFault) :
    Prop where
  /-- Values are kept under the names of slots. -/
  listed : ∀ name ∈ values.names, name ∈ slots.map Slot.name
  /-- Without a fault all slots are settled. -/
  complete : fault = none → Complete slots values
  /-- A fault is about a slot that has to be filled and is not. -/
  stuck : ∀ f, fault = some f →
    ∃ name, f.slot? = some name ∧ StuckAt name slots values ∧ ¬ Complete slots values

/-- What may happen to a slot: it stays empty only if it is optional without a default, and it
fails only if it is required. -/
def Slot.Allows (slot : Slot) : SlotOutcome → Prop
  | .filled _ => True
  | .empty => slot.optional = true ∧ slot.default = none
  | .failed fault => slot.isRequired = true ∧ fault.slot? = some slot.name

/-- A slot that takes nothing does what it may. -/
theorem allows_unfilled (slot : Slot) (refused : Option Token) :
    slot.Allows (slot.unfilled refused) := by
  unfold Slot.unfilled
  split
  · trivial
  · rename_i hdefault
    split
    · rename_i hoptional
      exact ⟨hoptional, hdefault⟩
    · rename_i hoptional
      have hrequired : slot.isRequired = true := by simp [Slot.isRequired, hdefault, hoptional]
      split <;> exact ⟨hrequired, rfl⟩

/-- A slot for one token does what it may. -/
theorem allows_fillOne (slot : Slot) (ctx : SlotContext) (c : Cursor) :
    slot.Allows (slot.fillOne ctx c).2 := by
  rw [Slot.fillOne_cases]
  split
  · exact allows_unfilled slot none
  · split
    · exact allows_unfilled slot none
    · split
      · trivial
      · exact allows_unfilled slot (some _)

/-- Every slot does what it may. -/
theorem allows_fill (slot : Slot) (ctx : SlotContext) (c : Cursor) :
    slot.Allows (slot.fill ctx c).2 := by
  unfold Slot.fill
  split
  · unfold Slot.fillRun
    split <;> trivial
  · trivial
  · exact allows_fillOne ..

/-- A slot that has to be filled and has no value is not settled. -/
theorem not_settled_of_required {slot : Slot} {values : SlotValues}
    (hrequired : slot.isRequired = true) (hnone : values.get? slot.name = none) :
    ¬ slot.Settled values := by
  rintro (hsome | ⟨hoptional, -⟩)
  · simp [hnone] at hsome
  · simp [Slot.isRequired, hoptional] at hrequired

/-- A further value settles no slot less. -/
theorem Complete.insert {slots : List Slot} {values : SlotValues} (h : Complete slots values)
    (name : String) (value : Value) : Complete slots (values.insert name value) := by
  intro slot hslot
  rcases h slot hslot with hsome | hlacks
  · refine .inl ?_
    rw [NameMap.get?_insert]
    split
    · rfl
    · exact hsome
  · exact .inr hlacks

/-- Settling one more slot completes one more. -/
theorem Complete.concat {slots : List Slot} {values : SlotValues} {slot : Slot}
    (h : Complete slots values) (hslot : slot.Settled values) :
    Complete (slots ++ [slot]) values := by
  intro other hother
  rcases List.mem_append.mp hother with hother | hother
  · exact h other hother
  · exact List.mem_singleton.mp hother ▸ hslot

/-- Filling slots in order accounts for them and for those filled before. -/
theorem fillFrom_accounts (separator : String) (keywords : List String) {before rest : List Slot}
    (c : Cursor) {values : SlotValues} (hdistinct : ((before ++ rest).map Slot.name).Nodup)
    (hlisted : ∀ name ∈ values.names, name ∈ before.map Slot.name)
    (hbefore : Complete before values) :
    let filling := SlotList.fillFrom separator keywords rest c values
    Accounts (before ++ rest) filling.values filling.fault := by
  induction rest generalizing before c values with
  | nil =>
    rw [List.append_nil]
    exact ⟨hlisted, fun _ => hbefore, fun _ h => by cases h⟩
  | cons slot rest ih =>
    have hassoc : before ++ slot :: rest = (before ++ [slot]) ++ rest := by simp
    have hgrown : ∀ name ∈ values.names, name ∈ (before ++ [slot]).map Slot.name := by
      intro name hname
      rw [List.map_append]
      exact List.mem_append_left _ (hlisted name hname)
    have hallows := allows_fill slot ⟨separator, keywords, rest.countP Slot.isRequired⟩ c
    rw [SlotList.fillFrom_cons]
    split <;> rename_i hfill <;> rw [hfill] at hallows
    · rename_i value
      rw [hassoc] at hdistinct ⊢
      refine ih _ hdistinct (fun name hname => ?_) ((hbefore.insert _ _).concat (.inl ?_))
      · rw [NameMap.mem_names, NameMap.get?_insert] at hname
        split at hname
        · rename_i heq
          exact List.mem_map.mpr ⟨slot, List.mem_append_right _ List.mem_cons_self, heq⟩
        · exact hgrown name (NameMap.mem_names.mpr hname)
      · simp [NameMap.get?_insert]
    · rw [hassoc] at hdistinct ⊢
      exact ih _ hdistinct hgrown (hbefore.concat (.inr hallows))
    · -- Values are kept under names of earlier slots, and names do not repeat.
      obtain ⟨hrequired, hslot⟩ := hallows
      have hlater : ∀ later ∈ slot :: rest, values.get? later.name = none := by
        intro later hmem
        rw [← Option.not_isSome_iff_eq_none, ← NameMap.mem_names]
        intro hname
        rw [List.map_append, List.nodup_append] at hdistinct
        exact hdistinct.2.2 _ (hlisted _ hname) _ (List.mem_map_of_mem hmem) rfl
      refine ⟨fun name hname => ?_, fun h => (by cases h), fun f hf => ?_⟩
      · rw [List.map_append]
        exact List.mem_append_left _ (hlisted name hname)
      · cases hf
        refine ⟨slot.name, hslot, ⟨before, slot, rest, rfl, rfl, hbefore, hlater⟩, fun h => ?_⟩
        exact not_settled_of_required hrequired (hlater slot List.mem_cons_self)
          (h slot (by simp))

/-- The names under which defaults are kept are those of slots with a default. -/
theorem mem_names_defaults {l : SlotList} {name : String} :
    name ∈ l.defaults.names ↔ ∃ slot ∈ l.slots, slot.name = name ∧ slot.default.isSome := by
  rw [NameMap.mem_names, SlotList.defaults, NameMap.get?_ofList, findEntry_isSome]
  simp only [List.map_reverse, List.mem_reverse, List.mem_map, List.mem_filterMap,
    Option.map_eq_some_iff]
  constructor
  · rintro ⟨entry, ⟨slot, hslot, value, hvalue, rfl⟩, rfl⟩
    exact ⟨slot, hslot, rfl, by simp [hvalue]⟩
  · rintro ⟨slot, hslot, rfl, hsome⟩
    obtain ⟨value, hvalue⟩ := Option.isSome_iff_exists.mp hsome
    exact ⟨(slot.name, value), ⟨slot, hslot, value, hvalue, rfl⟩, rfl⟩

/-- Filling a list of slots accounts for them, also where input is not looked at. -/
theorem fill_accounts (l : SlotList) (separator : String) (keywords : List String) (c : Cursor) :
    Accounts l.slots (l.fill separator keywords c).values (l.fill separator keywords c).fault := by
  unfold SlotList.fill
  split
  · rename_i hshort
    refine ⟨fun name hname => ?_, fun _ slot hslot => ?_, fun _ h => by cases h⟩
    · obtain ⟨slot, hslot, rfl, -⟩ := mem_names_defaults.mp hname
      exact List.mem_map_of_mem hslot
    · have hoptional : slot.isRequired = false := by
        simp only [Bool.and_eq_true, Bool.not_eq_true', SlotList.needsInput,
          List.any_eq_false, Bool.not_eq_true] at hshort
        exact hshort.1 slot hslot
      cases hdefault : slot.default with
      | none => exact .inr ⟨by simpa [Slot.isRequired, hdefault] using hoptional, hdefault⟩
      | some value =>
        exact .inl (NameMap.mem_names.mp (mem_names_defaults.mpr ⟨slot, hslot, rfl, by
          simp [hdefault]⟩))
  · exact @fillFrom_accounts separator keywords [] l.slots c .empty l.distinct
      (fun name hname => by simp [NameMap.mem_names] at hname) (fun slot hslot => by simp at hslot)

/-- Whether what is kept at places is as it should be, with a fault at exactly one place, or
without any. -/
def FaultAtOne {σ α : Type} (kept? : σ → Option α) (good : σ → α → Option MatchFault → Prop) :
    Option MatchFault → Prop
  | none => ∀ place x, kept? place = some x → good place x none
  | some fault => ∃ place x, kept? place = some x ∧ good place x (some fault) ∧
      ∀ other y, other ≠ place → kept? other = some y → good other y none

/-- Whether a fault is in one of two parts, the other being without. -/
def FaultInOne (first second : Option MatchFault → Prop) (fault : Option MatchFault) : Prop :=
  (first fault ∧ second none) ∨ (first none ∧ second fault)

/-- A value put under a name takes the place of an earlier one, and is the only one with a
fault. -/
theorem FaultAtOne.insert {α : Type} {m : NameMap α} {good : String → α → Option MatchFault → Prop}
    (h : FaultAtOne m.get? good none) {name : String} {value : α} {fault : Option MatchFault}
    (hgood : good name value fault) : FaultAtOne (m.insert name value).get? good fault := by
  have hother : ∀ other y, other ≠ name → (m.insert name value).get? other = some y →
      good other y none := by
    intro other y hne hy
    rw [NameMap.get?_insert, if_neg (Ne.symm hne)] at hy
    exact h other y hy
  have hself : (m.insert name value).get? name = some value := by
    rw [NameMap.get?_insert, if_pos rfl]
  cases fault with
  | none =>
    intro other y hy
    by_cases heq : other = name
    · subst heq
      rw [hself] at hy
      exact Option.some.inj hy ▸ hgood
    · exact hother other y heq hy
  | some fault => exact ⟨name, value, hself, hgood, hother⟩

/-- The option of a name it is known by. -/
def optionNamed? (options : List Entry) (name : String) : Option Entry :=
  options.find? fun e => e.name == name

/-- The nested command of a name it is known by. -/
def subcommandNamed? (subcommands : List Subcommand) (name : String) : Option Subcommand :=
  subcommands.find? fun s => s.name == name

/-- Whether values are those of the slots of an option. -/
def OptionAccounts (options : List Entry) (name : String) (values : SlotValues)
    (fault : Option MatchFault) : Prop :=
  ∃ e, optionNamed? options name = some e ∧ Accounts e.args.slots values fault

/-- Whether values are those of a nested command and of its options. -/
def SubcommandAccounts (subcommands : List Subcommand) (name : String)
    (values : SubcommandValues) (fault : Option MatchFault) : Prop :=
  ∃ s, subcommandNamed? subcommands name = some s ∧
    FaultInOne (Accounts s.entry.args.slots values.args)
      (FaultAtOne values.options.get? (OptionAccounts s.options)) fault

/-- Where no name is shared, an item is the first that is known by its name. -/
theorem find_by_name {α : Type} {entry : α → Entry} {items : List α}
    (hdistinct : (items.flatMap fun x => (entry x).aliases).Nodup) {item : α}
    (hitem : item ∈ items) :
    items.find? (fun x => (entry x).name == (entry item).name) = some item := by
  refine find?_of_alias hdistinct hitem List.mem_cons_self (beq_self_eq_true _) fun x hx => ?_
  rw [← beq_iff_eq.mp hx]
  exact List.mem_cons_self

/-- An option of a nested command that is called accounts for its slots, under the name it is
known by. -/
theorem suboption_called_accounts {s : Subcommand} {separator : String} {c : Cursor} {e : Entry}
    (h : s.called? separator c = some e) (keywords : List String) :
    OptionAccounts s.options e.name (e.fill separator keywords c).values
      (e.fill separator keywords c).fault := by
  obtain ⟨token, -, hresolve⟩ := Option.bind_eq_some_iff.mp h
  obtain ⟨text, -, hcallee⟩ := Option.bind_eq_some_iff.mp hresolve
  exact ⟨e, find_by_name s.distinct (mem_of_callee hcallee), fill_accounts ..⟩

/-- The loop over the options of a nested command accounts for all it was called for. -/
theorem fillOptions_accounts (s : Subcommand) (separator : String) (keywords : List String)
    (c : Cursor) {options : NameMap SlotValues}
    (h : FaultAtOne options.get? (OptionAccounts s.options) none) :
    FaultAtOne (s.fillOptions separator keywords c options).options.get?
      (OptionAccounts s.options) (s.fillOptions separator keywords c options).fault := by
  fun_induction Subcommand.fillOptions s separator keywords c options with
  | case1 => exact h
  | case2 c options e hcalled _ _ fault hfault =>
    have haccounts := suboption_called_accounts hcalled keywords
    exact h.insert (hfault ▸ haccounts)
  | case3 c options e hcalled _ _ hfault ih =>
    have haccounts := suboption_called_accounts hcalled keywords
    exact ih (h.insert (hfault ▸ haccounts))

/-- Filling a nested command accounts for its slots and its options. -/
theorem subcommand_fill_accounts (s : Subcommand) (outer : String) (keywords : List String)
    (c : Cursor) :
    FaultInOne (Accounts s.entry.args.slots (s.fill outer keywords c).values.args)
      (FaultAtOne (s.fill outer keywords c).values.options.get? (OptionAccounts s.options))
      (s.fill outer keywords c).fault := by
  have hempty : FaultAtOne (NameMap.empty : NameMap SlotValues).get? (OptionAccounts s.options)
      none := fun name values h => by cases h
  have hown : Accounts s.entry.args.slots (s.entry.fill outer keywords c).values
      (s.entry.fill outer keywords c).fault := fill_accounts ..
  unfold Subcommand.fill
  dsimp only
  split <;> rename_i hfault <;> rw [hfault] at hown
  · exact .inl ⟨hown, hempty⟩
  · exact .inr ⟨hown, fillOptions_accounts _ _ _ _ hempty⟩

/-- No two options, and no two nested commands, share a name. -/
theorem distinct_apart (command : Command) :
    (command.config.options.flatMap Entry.aliases).Nodup ∧
      (command.config.subcommands.flatMap fun s => s.entry.aliases).Nodup := by
  have hall := command.distinct
  rw [CommandConfig.memberNames, CommandConfig.members, List.flatMap_append,
    List.nodup_append] at hall
  simp only [List.flatMap_map, Member.entry] at hall
  exact ⟨hall.1, hall.2.1⟩

/-- What a token calls is an option or a nested command of the command. -/
theorem mem_of_called {command : Command} {c : Cursor} {member : Member}
    (h : command.called? c = some member) : member ∈ command.config.members := by
  obtain ⟨token, -, hresolve⟩ := Option.bind_eq_some_iff.mp h
  obtain ⟨text, -, hcallee⟩ := Option.bind_eq_some_iff.mp hresolve
  exact mem_of_callee hcallee

/-- An option that is called accounts for its slots, under the name it is known by. -/
theorem option_called_accounts {command : Command} {c : Cursor} {e : Entry}
    (h : command.called? c = some (.option e)) (keywords : List String) :
    OptionAccounts command.config.options e.name (e.fill command.separator keywords c).values
      (e.fill command.separator keywords c).fault := by
  have hmem : e ∈ command.config.options := CommandConfig.option_mem_members.mp (mem_of_called h)
  exact ⟨e, find_by_name (distinct_apart command).1 hmem, fill_accounts ..⟩

/-- A nested command that is called accounts for its slots and its options, under the name it
is known by. -/
theorem subcommand_called_accounts {command : Command} {c : Cursor} {s : Subcommand}
    (h : command.called? c = some (.subcommand s)) (keywords : List String) :
    SubcommandAccounts command.config.subcommands s.name
      (s.fill command.separator keywords c).values (s.fill command.separator keywords c).fault := by
  have hmem : s ∈ command.config.subcommands :=
    CommandConfig.subcommand_mem_members.mp (mem_of_called h)
  exact ⟨s, find_by_name (distinct_apart command).2 hmem, subcommand_fill_accounts ..⟩

/-- The loop over options and nested commands accounts for all it was called for. -/
theorem fillMembers_accounts (command : Command) (keywords : List String) (c : Cursor)
    {options : NameMap SlotValues} {subcommands : NameMap SubcommandValues}
    (hoptions : FaultAtOne options.get? (OptionAccounts command.config.options) none)
    (hsubcommands :
      FaultAtOne subcommands.get? (SubcommandAccounts command.config.subcommands) none) :
    FaultInOne
      (FaultAtOne (command.fillMembers keywords c options subcommands).options.get?
        (OptionAccounts command.config.options))
      (FaultAtOne (command.fillMembers keywords c options subcommands).subcommands.get?
        (SubcommandAccounts command.config.subcommands))
      (command.fillMembers keywords c options subcommands).fault := by
  fun_induction Command.fillMembers command keywords c options subcommands with
  | case1 => exact .inl ⟨hoptions, hsubcommands⟩
  | case2 c options subcommands e hcalled _ _ fault hfault =>
    have haccounts := option_called_accounts hcalled keywords
    exact .inl ⟨hoptions.insert (hfault ▸ haccounts), hsubcommands⟩
  | case3 c options subcommands e hcalled _ _ hfault ih =>
    have haccounts := option_called_accounts hcalled keywords
    exact ih (hoptions.insert (hfault ▸ haccounts)) hsubcommands
  | case4 c options subcommands s hcalled _ _ fault hfault =>
    have haccounts := subcommand_called_accounts hcalled keywords
    exact .inr ⟨hoptions, hsubcommands.insert (hfault ▸ haccounts)⟩
  | case5 c options subcommands s hcalled _ _ hfault ih =>
    have haccounts := subcommand_called_accounts hcalled keywords
    exact ih hoptions (hsubcommands.insert (hfault ▸ haccounts))

/-- Where a result keeps values. -/
inductive Site where
  /-- The slots after the header. -/
  | main
  /-- The slots of an option. -/
  | option (name : String)
  /-- The slots of a nested command. -/
  | subcommand (name : String)
  /-- The slots of an option of a nested command. -/
  | suboption (subcommand option : String)

/-- The slots whose values are kept at a site, if the command has it. -/
def Command.slotsAt? (command : Command) : Site → Option (List Slot)
  | .main => some command.config.args.slots
  | .option name => (optionNamed? command.config.options name).map fun e => e.args.slots
  | .subcommand name =>
    (subcommandNamed? command.config.subcommands name).map fun s => s.entry.args.slots
  | .suboption name option =>
    (subcommandNamed? command.config.subcommands name).bind fun s =>
      (optionNamed? s.options option).map fun e => e.args.slots

/-- The values that a result keeps at a site, if there are any. -/
def MatchResult.valuesAt? (result : MatchResult) : Site → Option SlotValues
  | .main => some result.mainArgs
  | .option name => result.options.get? name
  | .subcommand name => (result.subcommands.get? name).map SubcommandValues.args
  | .suboption name option => (result.subcommands.get? name).bind fun values =>
      values.options.get? option

/-- Whether a result has values at a site but not all that it needs there. -/
def MatchResult.IncompleteAt (command : Command) (result : MatchResult) (site : Site) : Prop :=
  ∃ slots values, command.slotsAt? site = some slots ∧ result.valuesAt? site = some values ∧
    ¬ Complete slots values

/-- What every result of a command keeps to. -/
structure MatchResult.Conforms (command : Command) (result : MatchResult) : Prop where
  /-- Values are kept where the command has slots, under the names of slots. -/
  listed : ∀ site values, result.valuesAt? site = some values →
    ∃ slots, command.slotsAt? site = some slots ∧ ∀ name ∈ values.names, name ∈ slots.map Slot.name
  /-- Where the input matches, nothing is missing. -/
  complete : result.matched = true → ∀ site, ¬ result.IncompleteAt command site
  /-- Where a slot was not filled, values are missing at one site: those of this slot and of
  all after it. -/
  stuck : ∀ fault name, result.fault = some fault → fault.slot? = some name →
    ∃ site slots values, command.slotsAt? site = some slots ∧
      result.valuesAt? site = some values ∧ StuckAt name slots values ∧
      ∀ other, result.IncompleteAt command other ↔ other = site
  /-- Any other fault leaves no values. -/
  early : ∀ fault, result.fault = some fault → fault.slot? = none →
    result.mainArgs = .empty ∧ result.options = .empty ∧ result.subcommands = .empty

/-- Whether values are those of the slots at a site. -/
def SiteAccounts (command : Command) (site : Site) (values : SlotValues)
    (fault : Option MatchFault) : Prop :=
  ∃ slots, command.slotsAt? site = some slots ∧ Accounts slots values fault

/-- What holds of an option holds at its site. -/
theorem siteAccounts_option {command : Command} {name : String} {values : SlotValues}
    {fault : Option MatchFault} (h : OptionAccounts command.config.options name values fault) :
    SiteAccounts command (.option name) values fault := by
  obtain ⟨e, he, haccounts⟩ := h
  exact ⟨e.args.slots, by simp [Command.slotsAt?, he], haccounts⟩

/-- What holds of a nested command holds at its site. -/
theorem siteAccounts_subcommand {command : Command} {name : String} {s : Subcommand}
    {values : SlotValues} {fault : Option MatchFault}
    (hs : subcommandNamed? command.config.subcommands name = some s)
    (h : Accounts s.entry.args.slots values fault) :
    SiteAccounts command (.subcommand name) values fault :=
  ⟨s.entry.args.slots, by simp [Command.slotsAt?, hs], h⟩

/-- What holds of an option of a nested command holds at its site. -/
theorem siteAccounts_suboption {command : Command} {name option : String} {s : Subcommand}
    {values : SlotValues} {fault : Option MatchFault}
    (hs : subcommandNamed? command.config.subcommands name = some s)
    (h : OptionAccounts s.options option values fault) :
    SiteAccounts command (.suboption name option) values fault := by
  obtain ⟨e, he, haccounts⟩ := h
  exact ⟨e.args.slots, by simp [Command.slotsAt?, hs, he], haccounts⟩

/-- Whether no fault is at a site. -/
def SettledAt (command : Command) (result : MatchResult) (site : Site) : Prop :=
  ∀ values, result.valuesAt? site = some values → SiteAccounts command site values none

/-- Slots after the header without a fault are settled at their site. -/
theorem settledAt_main {command : Command} {result : MatchResult}
    (h : Accounts command.config.args.slots result.mainArgs none) :
    SettledAt command result .main := by
  intro values hvalues
  cases hvalues
  exact ⟨_, rfl, h⟩

/-- An option without a fault is settled at its site. -/
theorem settledAt_option {command : Command} {result : MatchResult} {name : String}
    (h : ∀ values, result.options.get? name = some values →
      OptionAccounts command.config.options name values none) :
    SettledAt command result (.option name) :=
  fun values hvalues => siteAccounts_option (h values hvalues)

/-- A nested command without a fault is settled at its sites. -/
theorem settledAt_subcommand {command : Command} {result : MatchResult} {name : String}
    (h : ∀ below, result.subcommands.get? name = some below →
      SubcommandAccounts command.config.subcommands name below none) :
    SettledAt command result (.subcommand name) ∧
      ∀ option, SettledAt command result (.suboption name option) := by
  have hparts : ∀ below, result.subcommands.get? name = some below →
      ∃ s, subcommandNamed? command.config.subcommands name = some s ∧
        Accounts s.entry.args.slots below.args none ∧
        FaultAtOne below.options.get? (OptionAccounts s.options) none := by
    intro below hbelow
    obtain ⟨s, hs, hboth | hboth⟩ := h below hbelow
    · exact ⟨s, hs, hboth⟩
    · exact ⟨s, hs, hboth⟩
  constructor
  · intro values hvalues
    obtain ⟨below, hbelow, rfl⟩ := Option.map_eq_some_iff.mp hvalues
    obtain ⟨s, hs, hargs, -⟩ := hparts below hbelow
    exact siteAccounts_subcommand hs hargs
  · intro option values hvalues
    obtain ⟨below, hbelow, hoption⟩ := Option.bind_eq_some_iff.mp hvalues
    obtain ⟨s, hs, -, hoptions⟩ := hparts below hbelow
    exact siteAccounts_suboption hs (hoptions option values hoption)

/-- A fault of a nested command is at one of its own sites; the others of them are settled. -/
theorem fault_below {command : Command} {result : MatchResult} {name : String}
    {below : SubcommandValues} {fault : MatchFault}
    (hbelow : result.subcommands.get? name = some below)
    (h : SubcommandAccounts command.config.subcommands name below (some fault)) :
    ∃ site values, result.valuesAt? site = some values ∧
      SiteAccounts command site values (some fault) ∧
      (.subcommand name ≠ site → SettledAt command result (.subcommand name)) ∧
      ∀ option, .suboption name option ≠ site →
        SettledAt command result (.suboption name option) := by
  obtain ⟨s, hs, ⟨hargs, hoptions⟩ | ⟨hargs, option, values, hvalues, hgood, hother⟩⟩ := h
  · refine ⟨.subcommand name, below.args, by simp [MatchResult.valuesAt?, hbelow],
      siteAccounts_subcommand hs hargs, fun hne => absurd rfl hne, fun option _ => ?_⟩
    intro values hvalues
    simp only [MatchResult.valuesAt?, hbelow, Option.bind_some] at hvalues
    exact siteAccounts_suboption hs (hoptions option values hvalues)
  · refine ⟨.suboption name option, values, by simp [MatchResult.valuesAt?, hbelow, hvalues],
      siteAccounts_suboption hs hgood, fun _ => ?_, fun other hne => ?_⟩
    · intro values hvalues
      simp only [MatchResult.valuesAt?, hbelow, Option.map_some, Option.some.injEq] at hvalues
      exact hvalues ▸ siteAccounts_subcommand hs hargs
    · intro values hvalues
      simp only [MatchResult.valuesAt?, hbelow, Option.bind_some] at hvalues
      exact siteAccounts_suboption hs (hother other values (fun heq => hne (heq ▸ rfl)) hvalues)

/-- A site is settled when the part of the result it belongs to is. -/
theorem settledAt_of_parts {command : Command} {result : MatchResult} {site : Site}
    (hmain : site = .main → Accounts command.config.args.slots result.mainArgs none)
    (hoption : ∀ name, site = .option name → ∀ values, result.options.get? name = some values →
      OptionAccounts command.config.options name values none)
    (hsubcommand : ∀ name, (site = .subcommand name ∨ ∃ option, site = .suboption name option) →
      ∀ below, result.subcommands.get? name = some below →
        SubcommandAccounts command.config.subcommands name below none) :
    SettledAt command result site := by
  cases site with
  | main => exact settledAt_main (hmain rfl)
  | option name => exact settledAt_option (hoption name rfl)
  | subcommand name => exact (settledAt_subcommand (hsubcommand name (.inl rfl))).1
  | suboption name option =>
    exact (settledAt_subcommand (hsubcommand name (.inr ⟨option, rfl⟩))).2 option

/-- A fault in one part of a result is at one site of it. -/
theorem faultAtOne_site {command : Command} {result : MatchResult} {fault : Option MatchFault}
    (h : FaultInOne (Accounts command.config.args.slots result.mainArgs)
      (FaultInOne (FaultAtOne result.options.get? (OptionAccounts command.config.options))
        (FaultAtOne result.subcommands.get? (SubcommandAccounts command.config.subcommands)))
      fault) :
    FaultAtOne result.valuesAt? (SiteAccounts command) fault := by
  cases fault with
  | none =>
    obtain ⟨hmain, hrest⟩ := h.elim id id
    obtain ⟨hoptions, hsubcommands⟩ := hrest.elim id id
    exact fun site values => settledAt_of_parts (fun _ => hmain) (fun name _ => hoptions name)
      (fun name _ => hsubcommands name) values
  | some fault =>
    rcases h with ⟨hmain, hrest⟩ |
        ⟨hmain, ⟨⟨name, values, hget, hgood, hother⟩, hsubcommands⟩ |
          ⟨hoptions, name, below, hget, hgood, hother⟩⟩
    · obtain ⟨hoptions, hsubcommands⟩ := hrest.elim id id
      refine ⟨.main, result.mainArgs, rfl, ⟨_, rfl, hmain⟩, fun site values hne => ?_⟩
      exact settledAt_of_parts (fun heq => absurd heq hne) (fun name _ => hoptions name)
        (fun name _ => hsubcommands name) values
    · refine ⟨.option name, values, hget, siteAccounts_option hgood, fun site values hne => ?_⟩
      refine settledAt_of_parts (fun _ => hmain) (fun other hsite values => ?_)
        (fun name _ => hsubcommands name) values
      exact hother other values fun heq => hne (heq ▸ hsite)
    · obtain ⟨site, values, hvalues, haccounts, hself, hbelow⟩ := fault_below hget hgood
      refine ⟨site, values, hvalues, haccounts, fun other values hne => ?_⟩
      by_cases hsame : other = .subcommand name ∨ ∃ option, other = .suboption name option
      · rcases hsame with rfl | ⟨option, rfl⟩
        · exact hself hne values
        · exact hbelow option hne values
      · refine settledAt_of_parts (fun _ => hmain) (fun name _ => hoptions name)
          (fun found hsite below => ?_) values
        exact hother found below fun heq => hsame (heq ▸ hsite)

/-- What follows the header has a fault in one of its parts at most. -/
theorem runBody_accounts (command : Command) (header : Value) (c : Cursor) :
    FaultAtOne (command.runBody header c).valuesAt? (SiteAccounts command)
      (command.runBody header c).fault := by
  have hmain := fill_accounts command.config.args command.separator command.keywords c
  have hoptions : FaultAtOne (NameMap.empty : NameMap SlotValues).get?
      (OptionAccounts command.config.options) none := fun name values h => by cases h
  have hsubcommands : FaultAtOne (NameMap.empty : NameMap SubcommandValues).get?
      (SubcommandAccounts command.config.subcommands) none := fun name values h => by cases h
  refine faultAtOne_site ?_
  unfold Command.runBody
  dsimp only
  split <;> rename_i hfault <;> rw [hfault] at hmain <;> rw [MatchResult.conclude_fault]
  · exact .inl ⟨hmain, .inl ⟨hoptions, hsubcommands⟩⟩
  · exact .inr ⟨hmain, fillMembers_accounts command _ _ hoptions hsubcommands⟩

/-- A result whose sites are accounted for conforms. -/
theorem conforms_of_accounts {command : Command} {result : MatchResult}
    (hagrees : result.Agrees)
    (h : FaultAtOne result.valuesAt? (SiteAccounts command) result.fault) :
    result.Conforms command := by
  have hcomplete : ∀ {site values}, SiteAccounts command site values none →
      result.valuesAt? site = some values → ¬ result.IncompleteAt command site := by
    rintro site values ⟨slots, hslots, haccounts⟩ hvalues ⟨slots', values', hslots', hvalues', hnot⟩
    cases hslots.symm.trans hslots'
    cases hvalues.symm.trans hvalues'
    exact hnot (haccounts.complete rfl)
  cases hfault : result.fault with
  | none =>
    rw [hfault] at h
    refine ⟨fun site values hvalues => ?_, fun _ site => ?_, ?_, ?_⟩
    · obtain ⟨slots, hslots, haccounts⟩ := h site values hvalues
      exact ⟨slots, hslots, haccounts.listed⟩
    · intro hincomplete
      obtain ⟨-, values, -, hvalues, -⟩ := id hincomplete
      exact hcomplete (h site values hvalues) hvalues hincomplete
    · exact fun fault name hsome => by simp [hfault] at hsome
    · exact fun fault hsome => by simp [hfault] at hsome
  | some fault =>
    rw [hfault] at h
    obtain ⟨site, values, hvalues, ⟨slots, hslots, haccounts⟩, hother⟩ := h
    obtain ⟨slot, hslot, hstuck, hnot⟩ := haccounts.stuck fault rfl
    refine ⟨fun found values' hvalues' => ?_, fun hmatched => ?_, fun fault' name hsome hname => ?_,
      fun fault' hsome hnone => ?_⟩
    · by_cases heq : found = site
      · subst heq
        cases hvalues.symm.trans hvalues'
        exact ⟨slots, hslots, haccounts.listed⟩
      · obtain ⟨slots, hslots, haccounts⟩ := hother found values' heq hvalues'
        exact ⟨slots, hslots, haccounts.listed⟩
    · simp [hagrees.matched_iff, hfault] at hmatched
    · cases hfault.symm.trans hsome
      cases hslot.symm.trans hname
      refine ⟨site, slots, values, hslots, hvalues, hstuck, fun other => ⟨fun hincomplete => ?_, ?_⟩⟩
      · obtain ⟨-, values, -, hvalues, -⟩ := id hincomplete
        exact Classical.byContradiction fun hne => hcomplete (hother other values hne hvalues) hvalues hincomplete
      · rintro rfl
        exact ⟨slots, values, hslots, hvalues, hnot⟩
    · cases hfault.symm.trans hsome
      simp [hslot] at hnone

/-- An input that fails before its header matched leaves no values. -/
theorem conforms_failedEarly (command : Command) {fault : MatchFault} (hfault : fault.slot? = none)
    (remainder : List Token) : (MatchResult.failedEarly fault remainder).Conforms command := by
  refine ⟨fun site values hvalues => ?_, fun hmatched => ?_, fun found name hsome hname => ?_,
    fun _ _ _ => ⟨rfl, rfl, rfl⟩⟩
  · cases site with
    | main =>
      cases hvalues
      exact ⟨_, rfl, fun name hname => by simp [MatchResult.failedEarly, NameMap.mem_names] at hname⟩
    | option name => cases hvalues
    | subcommand name => cases hvalues
    | suboption name option => cases hvalues
  · cases hmatched
  · cases hsome
    cases hfault.symm.trans hname

/-- Every result conforms to the command, whatever the input is. -/
theorem run_conforms (command : Command) (input : Input) :
    (command.run input).Conforms command := by
  unfold Command.run
  split
  · rename_i error _
    exact conforms_failedEarly command (by cases error <;> rfl) []
  · unfold Command.runTokens
    split
    · exact conforms_failedEarly command rfl _
    · exact conforms_of_accounts (Command.runBody_agrees ..) (runBody_accounts command _ _)

end CommandGrammar
