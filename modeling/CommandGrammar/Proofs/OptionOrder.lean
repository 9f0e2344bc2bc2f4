import CommandGrammar.Proofs.MatchingDependence

/-!
# The order of options

No two options share a name, so a name calls the same one in whatever order they are declared. A
text that is nobody's name can still be a name with an argument glued to it for several options,
where their separators differ. Such a text calls the one that is declared first.

`Unambiguous` says that there is no such text, and `option_order` that this is what it takes for the
order to make no difference. `order_decides_call` is a command with two options where it does make
one.
-/

namespace CommandGrammar

/-- A search for the only item that passes a test does not depend on the order of the items. -/
theorem find?_eq_of_unique {α : Type} {items others : List α} {test : α → Bool}
    (hmem : ∀ x, x ∈ others ↔ x ∈ items)
    (hunique : ∀ x ∈ items, ∀ y ∈ items, test x = true → test y = true → x = y) :
    others.find? test = items.find? test := by
  cases hfound : items.find? test with
  | none =>
    rw [List.find?_eq_none] at hfound ⊢
    exact fun x hx => hfound x ((hmem x).mp hx)
  | some x =>
    have hx := List.mem_of_find?_eq_some hfound
    have htest := List.find?_some hfound
    obtain ⟨y, hother⟩ := Option.isSome_iff_exists.mp
      (List.find?_isSome.mpr ⟨x, (hmem x).mpr hx, htest⟩)
    have hy := (hmem y).mp (List.mem_of_find?_eq_some hother)
    rw [hother, hunique y hy x hx (List.find?_some hother) htest]

/-- No two options answer to one text with an argument glued to a name of theirs, unless the text is
itself a name. -/
def CommandConfig.Unambiguous (c : CommandConfig) : Prop :=
  ∀ text, text ∉ c.memberNames → ∀ e ∈ c.options, ∀ f ∈ c.options,
    e.answersGlued text = true → f.answersGlued text = true → e = f

/-- Where the options that have separators have the same one, a text is split for all of them
alike, so that no two answer to it. -/
theorem unambiguous_of_separator {c : CommandConfig} {separator : String}
    (hdistinct : c.memberNames.Nodup)
    (hseparator : ∀ e ∈ c.options, e.separator = none ∨ e.separator = some separator) :
    c.Unambiguous := by
  intro text _ e he f hf hglued hother
  have hname : ∀ g ∈ c.options, g.answersGlued text = true →
      (splitOnce text separator).1 ∈ g.aliases := by
    intro g hg hanswers
    unfold Entry.answersGlued at hanswers
    rcases hseparator g hg with hnone | hsome
    · rw [hnone] at hanswers
      cases hanswers
    · rw [hsome] at hanswers
      exact List.contains_iff_mem.mp (Bool.and_eq_true_iff.mp hanswers).1
  have hcalled := callee?_of_alias hdistinct (CommandConfig.option_mem_members.mpr he)
    (hname e he hglued)
  have hagain := callee?_of_alias hdistinct (CommandConfig.option_mem_members.mpr hf)
    (hname f hf hother)
  exact Member.option.inj (Option.some.inj (hcalled.symm.trans hagain))

/-- The command that a text calls by a name with a glued argument is looked for among the options
first. -/
theorem resolve?_of_glued {c : Command} {text : String} (htext : text ∉ c.config.memberNames) :
    c.resolve? text =
      ((c.config.options.find? fun e => e.answersGlued text).map Member.option).or
        ((c.config.subcommands.map Member.subcommand).find? fun m =>
          m.entry.answersGlued text) := by
  have hexact : (c.members.find? fun m => m.entry.aliases.contains text) = none :=
    List.find?_eq_none.mpr fun m hm hname =>
      htext (List.mem_flatMap.mpr ⟨m, hm, List.contains_iff_mem.mp hname⟩)
  rw [Command.resolve?, callee?, hexact, Option.none_or, Command.members, CommandConfig.members,
    List.find?_append, List.find?_map]
  rfl

section Reordered

variable {c d : Command} {options : List Entry} (hperm : options.Perm c.config.options)
  (hconfig : d.config = { c.config with options })
include hperm hconfig

/-- The same options and nested commands can be called. -/
theorem members_reordered : d.members.Perm c.members := by
  rw [Command.members, Command.members, hconfig]
  exact (hperm.map Member.option).append_right _

/-- A name calls the same in every order. -/
theorem resolve?_reordered_name {text : String} (htext : text ∈ c.config.memberNames) :
    d.resolve? text = c.resolve? text := by
  obtain ⟨m, hm, hname⟩ := List.mem_flatMap.mp htext
  have hmoved : m ∈ d.members := (members_reordered hperm hconfig).mem_iff.mpr hm
  have hcalled : d.resolve? text = some m := callee?_of_alias d.distinct hmoved hname
  rw [hcalled]
  exact (callee?_of_alias c.distinct hm hname).symm

/-- Where no two options answer to one text, every text calls the same in every order. -/
theorem resolve?_reordered (hunambiguous : c.config.Unambiguous) (text : String) :
    d.resolve? text = c.resolve? text := by
  by_cases htext : text ∈ c.config.memberNames
  · exact resolve?_reordered_name hperm hconfig htext
  · have hmoved : text ∉ d.config.memberNames := fun h =>
      htext (((members_reordered hperm hconfig).flatMap_right _).mem_iff.mp h)
    have hoptions : d.config.options = options := by rw [hconfig]
    have hsubcommands : d.config.subcommands = c.config.subcommands := by rw [hconfig]
    have hfind : (options.find? fun e => e.answersGlued text) =
        c.config.options.find? fun e => e.answersGlued text :=
      find?_eq_of_unique (fun e => hperm.mem_iff) (hunambiguous text htext)
    rw [resolve?_of_glued htext, resolve?_of_glued hmoved, hoptions, hsubcommands, hfind]

/-- Where no two options answer to one text, commands in every order match alike. -/
theorem matchesLike_reordered (hunambiguous : c.config.Unambiguous) : d.MatchesLike c where
  header := header_eq_of_config (by rw [hconfig]) (by rw [hconfig])
  separator := by rw [Command.separator, hconfig]; rfl
  args := by rw [hconfig]
  resolve := resolve?_reordered hperm hconfig hunambiguous
  keywords := fun word => ((members_reordered hperm hconfig).flatMap_right _).mem_iff

/-- Where no two options answer to one text, every input has the same result in every order. -/
theorem analyse_reordered (hunambiguous : c.config.Unambiguous) (input : Input) :
    d.analyse input = c.analyse input := by
  have hraises : d.config.raises = c.config.raises := by rw [hconfig]
  have hrun : d.run input = c.run input := by
    refine run_congr ?_ (matchesLike_reordered hperm hconfig hunambiguous).runTokens_eq
    rw [Command.separator, hconfig]
    rfl
  unfold Command.analyse
  rw [hrun, hraises]

end Reordered

/-- A description stays in order when its options are declared in another order. -/
theorem exists_reordered (c : Command) {options : List Entry}
    (hperm : options.Perm c.config.options) :
    ∃ d, Command.ofConfig { c.config with options } = .ok d := by
  let config : CommandConfig := { c.config with options }
  have hnames : config.memberNames.Perm c.config.memberNames :=
    ((hperm.map Member.option).append_right _).flatMap_right _
  let d : Command :=
    { config, header := c.header, named := c.named, separates := c.separates
      header_eq := c.header_eq, distinct := hnames.nodup_iff.mpr c.distinct }
  exact ⟨d, Command.ofConfig_config d⟩

/-- Of several options that answer to a text, the one declared first is called. -/
theorem resolve?_first {c : Command} {e : Entry} {rest : List Entry}
    (hfirst : c.config.options = e :: rest) {text : String}
    (htext : text ∉ c.config.memberNames) (hglued : e.answersGlued text = true) :
    c.resolve? text = some (.option e) := by
  rw [resolve?_of_glued htext, hfirst, List.find?_cons, hglued]
  rfl

/-- A command whose options are declared in another order, with a given one first. -/
theorem exists_declared_first (c : Command) {e : Entry} (he : e ∈ c.config.options) :
    ∃ rest d, (e :: rest).Perm c.config.options ∧
      Command.ofConfig { c.config with options := e :: rest } = .ok d ∧
      ∀ text, text ∉ c.config.memberNames → e.answersGlued text = true →
        d.resolve? text = some (.option e) := by
  obtain ⟨before, after, hoptions⟩ := List.mem_iff_append.mp he
  have hperm : (e :: (before ++ after)).Perm c.config.options := by
    rw [hoptions]
    exact List.perm_middle.symm
  obtain ⟨d, hd⟩ := exists_reordered c hperm
  have hconfig := config_of_ofConfig hd
  refine ⟨before ++ after, d, hperm, hd, fun text htext hglued => ?_⟩
  have hmoved : text ∉ d.config.memberNames := fun h =>
    htext (((members_reordered hperm hconfig).flatMap_right _).mem_iff.mp h)
  exact resolve?_first (by rw [hconfig]) hmoved hglued

/-- The options of a command can be declared in any order, and names call the same in each. Every
text calls the same in each if and only if no two options answer to a text that is nobody's name,
and then every input has the same result in each. -/
theorem option_order (c : Command) :
    (∀ options : List Entry, options.Perm c.config.options →
      ∃ d, Command.ofConfig { c.config with options } = .ok d ∧
        ∀ text ∈ c.config.memberNames, d.resolve? text = c.resolve? text) ∧
    (c.config.Unambiguous ↔ ∀ (options : List Entry) (d : Command),
      options.Perm c.config.options → Command.ofConfig { c.config with options } = .ok d →
        ∀ text, d.resolve? text = c.resolve? text) ∧
    (c.config.Unambiguous → ∀ (options : List Entry) (d : Command),
      options.Perm c.config.options → Command.ofConfig { c.config with options } = .ok d →
        ∀ input, d.analyse input = c.analyse input) := by
  refine ⟨fun options hperm => ?_, ⟨fun hunambiguous options d hperm hd text => ?_,
    fun hsame text htext e he f hf hglued hother => ?_⟩,
    fun hunambiguous options d hperm hd input => ?_⟩
  · obtain ⟨d, hd⟩ := exists_reordered c hperm
    exact ⟨d, hd, fun text => resolve?_reordered_name hperm (config_of_ofConfig hd)⟩
  · exact resolve?_reordered hperm (config_of_ofConfig hd) hunambiguous text
  · -- Either of the two is called where it is declared first, so they are the same option.
    obtain ⟨_, d, hperm, hd, hcalled⟩ := exists_declared_first c he
    obtain ⟨_, d', hperm', hd', hcalled'⟩ := exists_declared_first c hf
    have hfirst := hcalled text htext hglued
    have hsecond := hcalled' text htext hother
    rw [hsame _ d hperm hd text] at hfirst
    rw [hsame _ d' hperm' hd' text] at hsecond
    exact Member.option.inj (Option.some.inj (hfirst.symm.trans hsecond))
  · exact analyse_reordered hperm (config_of_ofConfig hd) hunambiguous input

/-- An equals sign has a character. -/
theorem equals_separates : some "=" ≠ some "" := by decide

/-- An option without slots that answers to a name before an equals sign. -/
def shortFlag : Entry where
  name := "-a"
  others := []
  args := .empty
  separator := some "="
  help := ""
  named := by decide
  distinct := by decide
  separates := equals_separates

/-- A second one. -/
def otherFlag : Entry :=
  { shortFlag with name := "-b", named := by decide, distinct := by decide }

/-- A command with options only. -/
def flagConfig (options : List Entry) : CommandConfig :=
  { CommandConfig.ofName "go" with options }

/-- A command whose two options are both read with an equals sign matches every input alike in both
orders. -/
theorem option_order_flags :
    ∃ c d, Command.ofConfig (flagConfig [shortFlag, otherFlag]) = .ok c ∧
      Command.ofConfig (flagConfig [otherFlag, shortFlag]) = .ok d ∧
      c.config.Unambiguous ∧ ∀ input, d.analyse input = c.analyse input := by
  obtain ⟨c, hc⟩ : ∃ c, Command.ofConfig (flagConfig [shortFlag, otherFlag]) = .ok c :=
    exists_of_isOk (by decide +kernel)
  obtain ⟨d, hd⟩ : ∃ d, Command.ofConfig (flagConfig [otherFlag, shortFlag]) = .ok d :=
    exists_of_isOk (by decide +kernel)
  have hconfig := config_of_ofConfig hc
  have hunambiguous : c.config.Unambiguous := by
    have hseparator : ∀ e ∈ c.config.options, e.separator = none ∨ e.separator = some "=" := by
      rw [hconfig]
      intro e he
      rcases List.mem_cons.mp he with rfl | he
      · exact .inr rfl
      · rw [List.mem_singleton.mp he]
        exact .inr rfl
    exact unambiguous_of_separator c.distinct hseparator
  refine ⟨c, d, hc, hd, hunambiguous,
    (option_order c).2.2 hunambiguous [otherFlag, shortFlag] d ?_ ?_⟩
  · rw [hconfig]
    exact List.Perm.swap _ _ _
  · rw [hconfig]
    exact hd

/-- Where a command without slots calls an option without slots and nothing behind it, the option is
all that is found. -/
theorem runBody_option_only {command : Command} {c : Cursor} {e : Entry} (header : Value)
    (hmain : command.config.args = .empty) (hargs : e.args = .empty)
    (hcalled : command.called? c = some (.option e))
    (hend : command.called? (e.stepOverName command.separator c) = none) :
    (command.runBody header c).options = NameMap.empty.insert e.name .empty := by
  have hempty : ∀ separator keywords c,
      SlotList.empty.fill separator keywords c = ⟨c, .empty, none⟩ := by
    intro separator keywords c
    unfold SlotList.fill
    split <;> rfl
  unfold Command.runBody
  simp only [hmain, hempty, fillMembers_option hcalled, Entry.fill, hargs, fillMembers_end hend,
    MatchResult.conclude_options]

/-- An option that answers to a name before a colon, and whose name is itself the name of the other
option with an argument glued to it. -/
def joinedFlag : Entry :=
  { shortFlag with
    name := "-a=b", separator := some ":", named := by decide, distinct := by decide
    separates := by decide }

/-- The command that declares the shorter name first. -/
def shortFirst : Command :=
  (Command.ofConfig (flagConfig [shortFlag, joinedFlag])).toOption.get (by decide +kernel)

/-- The command that declares the longer name first. -/
def joinedFirst : Command :=
  (Command.ofConfig (flagConfig [joinedFlag, shortFlag])).toOption.get (by decide +kernel)

/-- One text calls either option, whichever is declared first, so that the two orders give
different results. -/
theorem order_decides_call :
    Command.ofConfig (flagConfig [shortFlag, joinedFlag]) = .ok shortFirst ∧
      Command.ofConfig (flagConfig [joinedFlag, shortFlag]) = .ok joinedFirst ∧
      shortFirst.resolve? "-a=b:c" = some (.option shortFlag) ∧
      joinedFirst.resolve? "-a=b:c" = some (.option joinedFlag) ∧
      shortFirst.analyse (.text "go -a=b:c") ≠ joinedFirst.analyse (.text "go -a=b:c") := by
  let segments : List Segment := [.text ["go", "-a=b:c"] " "]
  have hshort : (shortFirst.run (.text "go -a=b:c")).options =
      NameMap.empty.insert "-a" .empty := by
    have hbody : shortFirst.run (.text "go -a=b:c") =
        shortFirst.runBody (.bool true) ⟨segments, 0, 1⟩ := by rfl
    rw [hbody]
    exact runBody_option_only (e := shortFlag) _ (by rfl) (by rfl) (by rfl) (by rfl)
  have hjoined : (joinedFirst.run (.text "go -a=b:c")).options =
      NameMap.empty.insert "-a=b" .empty := by
    have hbody : joinedFirst.run (.text "go -a=b:c") =
        joinedFirst.runBody (.bool true) ⟨segments, 0, 1⟩ := by rfl
    rw [hbody]
    exact runBody_option_only (e := joinedFlag) _ (by rfl) (by rfl) (by rfl) (by rfl)
  refine ⟨by rfl, by rfl, by rfl, by rfl, fun hsame => ?_⟩
  rw [Command.analyse_of_reports (by rfl), Command.analyse_of_reports (by rfl)] at hsame
  have hrun := Except.ok.inj hsame
  rw [hrun, hjoined] at hshort
  exact absurd (congrArg (fun options => (options.get? "-a").isSome) hshort) (by decide)

end CommandGrammar
