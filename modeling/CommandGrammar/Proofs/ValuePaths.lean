import CommandGrammar.Proofs.SlotVisits

/-!
# Paths to values

A path names a value of a result by the names that lead to it, with a dot between each two: a slot,
or an option or a nested command and a slot of it, or a nested command, an option of it and a slot of
that. An option with one value needs no slot: its own name leads there, or its name behind that of
the nested command, unless a slot is named so in the same place.

`MatchResult.Leads` says which paths lead to which values. Looking a path up cuts it at the first dot
and goes on with what is behind; `finds_iff_leads` says that it finds what the path leads to,
and nothing else, in every result whose names can be told apart. `run_plainlyNamed` says for which
commands this is so in the results of all inputs.
-/

namespace CommandGrammar

/-! ### Cutting paths -/

/-- Whether a name has no dot. -/
def Undotted (name : String) : Prop := '.' ∉ name.toList

/-- Whether a name has no dot can be decided. -/
instance (name : String) : Decidable (Undotted name) := inferInstanceAs (Decidable (¬ _))

/-- Names with a dot between each two. -/
def dotted (names : List String) : String := ".".intercalate names

/-- One name stands for itself. -/
@[simp] theorem dotted_single (name : String) : dotted [name] = name := String.intercalate_singleton

/-- A dot stands between two names. -/
theorem dotted_pair (name rest : String) : dotted [name, rest] = name ++ "." ++ rest := by
  rw [dotted, String.intercalate_cons_cons, String.intercalate_singleton]

/-- Two names with a dot between them have a dot. -/
theorem not_undotted_pair (name rest : String) : ¬ Undotted (dotted [name, rest]) := by
  simp [dotted_pair, Undotted]

namespace MatchResult

/-- A name without a dot is not cut. -/
theorem cutPath_undotted {name : String} (h : Undotted name) : cutPath name = (name, none) := by
  rw [cutPath, splitAround?, Split.around?_eq_none_iff.mpr h]
  rfl

/-- A path is cut behind the name in front of it. -/
theorem cutPath_pair {name : String} (h : Undotted name) (rest : String) :
    cutPath (dotted [name, rest]) = (name, some rest) := by
  have hcut : Split.around? '.' (dotted [name, rest]).toList = some (name.toList, rest.toList) :=
    Split.around?_eq_some_iff.mpr ⟨h, by simp [dotted_pair]⟩
  rw [cutPath, splitAround?, hcut]
  simp

/-- A path is a name without a dot, or it is cut behind such a name. -/
theorem cutPath_cases (path : String) :
    (Undotted path ∧ cutPath path = (path, none)) ∨
      ∃ name rest, path = dotted [name, rest] ∧ cutPath path = (name, some rest) := by
  by_cases hdot : Undotted path
  · exact .inl ⟨hdot, cutPath_undotted hdot⟩
  · cases hcut : Split.around? '.' path.toList with
    | none => exact absurd (Split.around?_eq_none_iff.mp hcut) hdot
    | some parts =>
      obtain ⟨hfree, hparts⟩ := Split.around?_eq_some_iff.mp hcut
      have hname : Undotted (String.ofList parts.1) := by rwa [Undotted, String.toList_ofList]
      have hpath : path = dotted [String.ofList parts.1, String.ofList parts.2] := by
        rw [← String.toList_inj, hparts, dotted_pair]
        simp
      refine .inr ⟨_, _, hpath, ?_⟩
      rw [hpath, cutPath_pair hname]

/-- Without a slot the value of an option is its only one. -/
theorem optionValue?_none_eq_some_iff {values : SlotValues} {value : Value} :
    optionValue? values none = some value ↔ ∃ slot, values.entries = [(slot, value)] := by
  rw [optionValue?]
  split
  · rename_i hentries
    rw [hentries]
    simp
  · rename_i hentries
    refine iff_of_false (fun h => by cases h) ?_
    rintro ⟨slot, hsingle⟩
    exact hentries slot value hsingle

end MatchResult

/-! ### What paths lead to -/

/-- The names that lead to a site. -/
def Site.names : Site → List String
  | main => []
  | option name => [name]
  | subcommand name => [name]
  | suboption outer name => [outer, name]

/-- The path of a slot at a site. -/
def Site.path (site : Site) (slot : String) : String := dotted (site.names ++ [slot])

/-- The path of a slot after the header is its name. -/
@[simp] theorem Site.path_main (slot : String) : Site.main.path slot = slot := dotted_single slot

/-- The path of a slot of an option below a nested command is that of the slot of the option, behind
the name of the nested command. -/
theorem Site.path_suboption (outer name slot : String) :
    (Site.suboption outer name).path slot = dotted [outer, dotted [name, slot]] := by
  rw [dotted_pair, dotted]
  exact String.intercalate_cons_cons

namespace MatchResult

/-- Which values a path leads to. -/
inductive Leads (r : MatchResult) : String → Value → Prop
  /-- The path of a slot leads to its value. -/
  | slot (site : Site) {values : SlotValues} {slot : String} {value : Value}
      (holds : r.valuesAt? site = some values) (found : values.get? slot = some value) :
      Leads r (site.path slot) value
  /-- The name of an option leads to its only value, unless a slot after the header is named so. -/
  | only {name slot : String} {values : SlotValues} {value : Value}
      (holds : r.valuesAt? (.option name) = some values) (single : values.entries = [(slot, value)])
      (unshadowed : r.mainArgs.get? name = none) : Leads r name value
  /-- The names of a nested command and of an option of it lead to the only value of the option,
  unless a slot of the nested command is named so. -/
  | onlyBelow {outer name slot : String} {around values : SlotValues} {value : Value}
      (holds : r.valuesAt? (.suboption outer name) = some values)
      (single : values.entries = [(slot, value)])
      (inside : r.valuesAt? (.subcommand outer) = some around)
      (unshadowed : around.get? name = none) : Leads r (dotted [outer, name]) value

/-- Whether the names in a result can be told apart in paths: they have no dot, and no option is
named as a nested command is. -/
structure PlainlyNamed (r : MatchResult) : Prop where
  /-- The names of options and nested commands have no dot. -/
  sites : ∀ site values, r.valuesAt? site = some values → ∀ name ∈ site.names, Undotted name
  /-- The names of slots have no dot. -/
  slots : ∀ site values, r.valuesAt? site = some values → ∀ slot ∈ values.names, Undotted slot
  /-- A nested command is not named as an option is. -/
  apart : ∀ name, (r.subcommands.get? name).isSome → r.options.get? name = none

/-- The values at a nested command are those of its slots. -/
theorem valuesAt?_subcommand {r : MatchResult} {name : String} {below : SubcommandValues}
    (h : r.subcommands.get? name = some below) :
    r.valuesAt? (.subcommand name) = some below.args := by
  rw [valuesAt?, h, Option.map_some]

/-- The values at an option below a nested command are those that the nested command has for it. -/
theorem valuesAt?_suboption {r : MatchResult} {outer : String} {below : SubcommandValues}
    (h : r.subcommands.get? outer = some below) (name : String) :
    r.valuesAt? (.suboption outer name) = below.options.get? name := by
  rw [valuesAt?, h, Option.bind_some]

/-! ### Looking up -/

section Lookup

variable {r : MatchResult} {name : String}

/-- A name without a dot is that of a slot after the header, or of an option. -/
theorem get?_undotted (h : Undotted name) :
    r.get? name =
      (r.mainArgs.get? name).or ((r.options.get? name).bind fun option => optionValue? option none) := by
  rw [get?, cutPath_undotted h]
  cases hmain : r.mainArgs.get? name with
  | some value => simp [hmain]
  | none => cases hoption : r.options.get? name <;> simp [hmain, hoption]

/-- Behind the name of an option stands that of a slot. -/
theorem get?_option {values : SlotValues} (h : Undotted name)
    (hoption : r.options.get? name = some values) (rest : String) :
    r.get? (dotted [name, rest]) = values.get? rest := by
  rw [get?, cutPath_pair h]
  simp [hoption, optionValue?]

/-- Behind the name of a nested command stands a path below it. -/
theorem get?_subcommand {below : SubcommandValues} (h : Undotted name)
    (hbelow : r.subcommands.get? name = some below) (hoption : r.options.get? name = none)
    (rest : String) : r.get? (dotted [name, rest]) = subcommandValue? below rest := by
  rw [get?, cutPath_pair h]
  simp [hoption, hbelow]

end Lookup

section Below

variable {below : SubcommandValues} {name : String}

/-- A slot of a nested command comes first. -/
theorem subcommandValue?_slot {value : Value} (h : below.args.get? name = some value) :
    subcommandValue? below name = some value := by
  rw [subcommandValue?, h]

/-- A name of no slot, without a dot, is that of an option below. -/
theorem subcommandValue?_undotted (h : Undotted name) (hslot : below.args.get? name = none) :
    subcommandValue? below name =
      (below.options.get? name).bind fun option => optionValue? option none := by
  rw [subcommandValue?, hslot, cutPath_undotted h]

/-- Behind the name of an option below stands that of a slot. -/
theorem subcommandValue?_pair (h : Undotted name) {rest : String}
    (hslot : below.args.get? (dotted [name, rest]) = none) :
    subcommandValue? below (dotted [name, rest]) =
      (below.options.get? name).bind fun option => option.get? rest := by
  rw [subcommandValue?, hslot, cutPath_pair h]
  rfl

end Below

/-- A value that is found below a nested command is one that the path leads to behind the name of the
nested command. -/
theorem leads_of_subcommandValue? {r : MatchResult} {outer : String} {below : SubcommandValues}
    (hbelow : r.subcommands.get? outer = some below) {path : String} {value : Value}
    (h : subcommandValue? below path = some value) : r.Leads (dotted [outer, path]) value := by
  have hslots := valuesAt?_subcommand hbelow
  unfold subcommandValue? at h
  split at h
  · rename_i hfound
    cases h
    exact .slot (.subcommand outer) hslots hfound
  · rename_i hnone
    rcases cutPath_cases path with ⟨-, hcut⟩ | ⟨name, slot, rfl, hcut⟩ <;> rw [hcut] at h <;>
      obtain ⟨values, hoption, hvalue⟩ := Option.bind_eq_some_iff.mp h
    · obtain ⟨slot, hsingle⟩ := optionValue?_none_eq_some_iff.mp hvalue
      exact .onlyBelow ((valuesAt?_suboption hbelow path).trans hoption) hsingle hslots hnone
    · rw [← Site.path_suboption]
      exact .slot (.suboption outer name) ((valuesAt?_suboption hbelow name).trans hoption) hvalue

/-- A value that is found is one that the path leads to. -/
theorem leads_of_get? {r : MatchResult} {path : String} {value : Value}
    (h : r.get? path = some value) : r.Leads path value := by
  rcases cutPath_cases path with ⟨hplain, -⟩ | ⟨name, rest, rfl, hcut⟩
  · rw [get?_undotted hplain] at h
    cases hmain : r.mainArgs.get? path with
    | some found =>
      rw [hmain] at h
      cases h
      rw [← Site.path_main path]
      exact .slot .main rfl hmain
    | none =>
      rw [hmain, Option.none_or] at h
      obtain ⟨values, hoption, hvalue⟩ := Option.bind_eq_some_iff.mp h
      obtain ⟨slot, hsingle⟩ := optionValue?_none_eq_some_iff.mp hvalue
      exact .only hoption hsingle hmain
  · rw [get?, hcut] at h
    cases hoption : r.options.get? name with
    | some values =>
      have hfound : values.get? rest = some value := by simpa [hoption, optionValue?] using h
      exact .slot (.option name) hoption hfound
    | none =>
      cases hbelow : r.subcommands.get? name with
      | none => simp [hoption, hbelow] at h
      | some below => exact leads_of_subcommandValue? hbelow (by simpa [hoption, hbelow] using h)

/-- The name of a slot that has a value has no dot. -/
theorem PlainlyNamed.slot {r : MatchResult} (h : r.PlainlyNamed) {site : Site}
    {values : SlotValues} {slot : String} {value : Value} (holds : r.valuesAt? site = some values)
    (found : values.get? slot = some value) : Undotted slot :=
  h.slots site values holds slot (NameMap.mem_names.mpr (by rw [found]; rfl))

/-- A path with a dot is the name of no slot. -/
theorem PlainlyNamed.get?_pair {r : MatchResult} (h : r.PlainlyNamed) {site : Site}
    {values : SlotValues} (holds : r.valuesAt? site = some values) (name rest : String) :
    values.get? (dotted [name, rest]) = none := by
  cases hfound : values.get? (dotted [name, rest]) with
  | none => rfl
  | some value => exact absurd (h.slot holds hfound) (not_undotted_pair name rest)

/-- Behind the name of a nested command stands a path below it. -/
theorem PlainlyNamed.get?_below {r : MatchResult} (h : r.PlainlyNamed) {name : String}
    {below : SubcommandValues} (hbelow : r.subcommands.get? name = some below) (rest : String) :
    r.get? (dotted [name, rest]) = subcommandValue? below rest := by
  have hname := h.sites _ _ (valuesAt?_subcommand hbelow) name List.mem_cons_self
  exact get?_subcommand hname hbelow (h.apart name (by rw [hbelow]; rfl)) rest

/-- A value that a path leads to is found. -/
theorem get?_of_leads {r : MatchResult} (h : r.PlainlyNamed) {path : String} {value : Value}
    (hleads : r.Leads path value) : r.get? path = some value := by
  cases hleads with
  | @slot site values slot _ holds found =>
    cases site with
    | main =>
      have hslot := h.slot holds found
      cases holds
      rw [Site.path_main, get?_undotted hslot, found, Option.some_or]
    | option name =>
      have hname := h.sites _ _ holds name List.mem_cons_self
      exact (get?_option hname holds slot).trans found
    | subcommand name =>
      obtain ⟨below, hbelow, rfl⟩ := Option.map_eq_some_iff.mp holds
      exact (h.get?_below hbelow slot).trans (subcommandValue?_slot found)
    | suboption outer name =>
      have hname := h.sites _ _ holds name (List.mem_cons_of_mem _ List.mem_cons_self)
      obtain ⟨below, hbelow, hoption⟩ := Option.bind_eq_some_iff.mp holds
      have hnone := h.get?_pair (valuesAt?_subcommand hbelow) name slot
      rw [Site.path_suboption, h.get?_below hbelow, subcommandValue?_pair hname hnone, hoption,
        Option.bind_some, found]
  | only holds single unshadowed =>
    have hname := h.sites _ _ holds _ List.mem_cons_self
    rw [get?_undotted hname, unshadowed, Option.none_or]
    exact Option.bind_eq_some_iff.mpr ⟨_, holds, optionValue?_none_eq_some_iff.mpr ⟨_, single⟩⟩
  | @onlyBelow outer name _ _ _ _ holds single inside unshadowed =>
    have hname := h.sites _ _ holds name (List.mem_cons_of_mem _ List.mem_cons_self)
    obtain ⟨below, hbelow, hoption⟩ := Option.bind_eq_some_iff.mp holds
    obtain rfl := Option.some.inj ((valuesAt?_subcommand hbelow).symm.trans inside)
    rw [h.get?_below hbelow, subcommandValue?_undotted hname unshadowed]
    exact Option.bind_eq_some_iff.mpr ⟨_, hoption, optionValue?_none_eq_some_iff.mpr ⟨_, single⟩⟩

end MatchResult

/-- Looking a path up finds the value that it leads to, and nothing if it leads to none, in every
result in which no name has a dot and no option is named as a nested command is. -/
theorem finds_iff_leads {r : MatchResult} (h : r.PlainlyNamed) (path : String)
    (value : Value) : r.get? path = some value ↔ r.Leads path value :=
  ⟨MatchResult.leads_of_get?, MatchResult.get?_of_leads h⟩

/-- A slot that is named with a dot is not found. -/
example : MatchResult.get? (.conclude .null (.ofList [("a.b", .null)]) .empty .empty [] none) "a.b" =
    none := by rfl

/-- An option below a nested command is found by both names, as it has one value only and no slot of
the nested command is named so. -/
theorem finds_iff_leads_mode :
    let mode : SlotValues := .ofList [("m", .string "fast")]
    let below : SubcommandValues :=
      ⟨.ofList [("path", .string "a.txt")], .ofList [("--mode", mode)]⟩
    let r : MatchResult := .conclude (.bool true) (.ofList [("who", .string "Alice")])
      (.ofList [("--level", .ofList [("n", .int 3)])]) (.ofList [("add", below)]) [] none
    r.PlainlyNamed ∧ r.get? "add.--mode" = some (.string "fast") ∧
      r.Leads "add.--mode" (.string "fast") := by
  intro mode below r
  have hnames : ∀ site values, r.valuesAt? site = some values →
      ∀ name ∈ site.names ++ values.names, Undotted name := by
    intro site values holds
    cases site with
    | main =>
      cases holds
      decide
    | option name =>
      obtain ⟨rfl, rfl⟩ : "--level" = name ∧ NameMap.ofList [("n", .int 3)] = values := by
        simpa [r, MatchResult.valuesAt?, NameMap.get?_ofList, findEntry] using holds
      decide
    | subcommand name =>
      obtain ⟨rfl, rfl⟩ : "add" = name ∧ below.args = values := by
        simpa [r, MatchResult.valuesAt?, NameMap.get?_ofList, findEntry] using holds
      decide
    | suboption outer name =>
      obtain ⟨found, hfound, hvalues⟩ := Option.bind_eq_some_iff.mp holds
      obtain ⟨rfl, rfl⟩ : "add" = outer ∧ below = found := by
        simpa [r, NameMap.get?_ofList, findEntry] using hfound
      obtain ⟨rfl, rfl⟩ : "--mode" = name ∧ mode = values := by
        simpa [below, NameMap.get?_ofList, findEntry] using hvalues
      decide
  have hplain : r.PlainlyNamed := by
    refine ⟨fun site values holds name hname => ?_, fun site values holds slot hslot => ?_,
      fun name hname => ?_⟩
    · exact hnames site values holds name (List.mem_append_left _ hname)
    · exact hnames site values holds slot (List.mem_append_right _ hslot)
    · obtain rfl : "add" = name := by
        simpa [r, NameMap.get?_ofList, findEntry] using hname
      rfl
  have hfound : r.get? "add.--mode" = some (.string "fast") := by rfl
  exact ⟨hplain, hfound, (finds_iff_leads hplain _ _).mp hfound⟩

/-! ### Results of runs -/

/-- A run keeps values where the command has slots, under the names of the slots. -/
theorem run_listed {command : Command} {input : Input} {site : Site} {values : SlotValues}
    (holds : (command.run input).valuesAt? site = some values) :
    ∃ slots, command.slotsAt? site = some slots ∧
      ∀ name ∈ values.names, name ∈ slots.map Slot.name := by
  rcases run_cases command input with ⟨fault, remainder, hrun⟩ | ⟨header, body, -, hrun⟩ <;>
    rw [hrun] at holds
  · cases site with
    | main =>
      cases holds
      exact ⟨_, rfl, fun name hname => by cases hname⟩
    | option name => cases holds
    | subcommand name => cases holds
    | suboption outer name => cases holds
  · exact (conforms_of_accounts (command.runBody_agrees header body)
      (runBody_accounts command header body)).listed site values holds

/-- No option of a command has a name of a nested command. -/
theorem option_ne_subcommand {command : Command} {e : Entry} {s : Subcommand}
    (he : e ∈ command.config.options) (hs : s ∈ command.config.subcommands) : e.name ≠ s.name := by
  have hall := command.distinct
  rw [CommandConfig.memberNames, CommandConfig.members, List.flatMap_append,
    List.nodup_append] at hall
  simp only [List.flatMap_map, Member.entry] at hall
  exact hall.2.2 _ (List.mem_flatMap.mpr ⟨e, he, List.mem_cons_self⟩) _
    (List.mem_flatMap.mpr ⟨s, hs, List.mem_cons_self⟩)

/-- Whether no name of a command has a dot. -/
def Command.Undotted (command : Command) : Prop :=
  ∀ site slots, command.slotsAt? site = some slots →
    (∀ name ∈ site.names, CommandGrammar.Undotted name) ∧
      ∀ slot ∈ slots, CommandGrammar.Undotted slot.name

/-- The names in the results of a command without dots in its names can be told apart, whatever the
input is. -/
theorem run_plainlyNamed {command : Command} (h : command.Undotted) (input : Input) :
    (command.run input).PlainlyNamed := by
  refine ⟨fun site values holds => ?_, fun site values holds slot hslot => ?_, fun name hname => ?_⟩
  · obtain ⟨slots, hslots, -⟩ := run_listed holds
    exact (h site slots hslots).1
  · obtain ⟨slots, hslots, hlisted⟩ := run_listed holds
    obtain ⟨found, hfound, rfl⟩ := List.mem_map.mp (hlisted slot hslot)
    exact (h site slots hslots).2 found hfound
  · cases hoption : (command.run input).options.get? name with
    | none => rfl
    | some values =>
      obtain ⟨below, hbelow⟩ := Option.isSome_iff_exists.mp hname
      obtain ⟨slots, hslots, -⟩ := run_listed (MatchResult.valuesAt?_subcommand hbelow)
      obtain ⟨slots', hslots', -⟩ := @run_listed command input (.option name) values hoption
      obtain ⟨s, hs, -⟩ := Option.map_eq_some_iff.mp hslots
      obtain ⟨e, he, -⟩ := Option.map_eq_some_iff.mp hslots'
      have hename : e.name = name := by simpa using List.find?_some he
      have hsname : s.name = name := by simpa using List.find?_some hs
      exact absurd (hename.trans hsname.symm) (option_ne_subcommand
        (List.mem_of_find?_eq_some he) (List.mem_of_find?_eq_some hs))

end CommandGrammar
