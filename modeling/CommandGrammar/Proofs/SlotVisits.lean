import CommandGrammar.Proofs.CursorWalks
import CommandGrammar.Proofs.ResultConformance
import Mathlib.Logic.Relation

/-!
# Visits of slots

A run fills one slot after the other: those after the header, and then those of each option and
nested command that is called. Each of these times is a visit. A slot is visited again when its
option is called again, and it is not visited when a slot before it failed or when all tokens were
read and no slot of its list is required.

`Command.Visits` lists the visits of a run by the site at which their values are kept. The lemmas
say what every visit of a run has in common (`Visits.arises`), and that every value of the result
is that of a visit of its site or the default of a slot (`run_value`). What holds of all visits of
slots therefore holds of runs of any length.
-/

namespace CommandGrammar

open Relation (ReflTransGen)

/-- One time that a slot is filled. -/
structure Visit where
  /-- The slot. -/
  slot : Slot
  /-- What it depends on besides the input. -/
  ctx : SlotContext
  /-- The cursor that it reads from. -/
  cursor : Cursor

namespace Visit

/-- The cursor behind the tokens that the slot takes. -/
def last (v : Visit) : Cursor := (v.slot.fill v.ctx v.cursor).1

/-- What happens to the slot. -/
def outcome (v : Visit) : SlotOutcome := (v.slot.fill v.ctx v.cursor).2

/-- The visit of the first of some slots. -/
def ofFirst (separator : String) (keywords : List String) (slot : Slot) (rest : List Slot)
    (c : Cursor) : Visit :=
  ⟨slot, ⟨separator, keywords, rest.countP Slot.isRequired⟩, c⟩

/-- A slot ends a walk behind the tokens that it takes. -/
theorem walk (v : Visit) : ∃ past, Walk [v.ctx.separator] v.cursor past v.last :=
  walk_slot_fill v.slot v.ctx v.cursor List.mem_cons_self

end Visit

section Slots

variable (separator : String) (keywords : List String)

/-- The visits of slots in order. A slot is visited unless one before it fails. -/
inductive SlotsVisit : List Slot → Cursor → Visit → Prop
  /-- The first slot is visited. -/
  | first (slot : Slot) (rest : List Slot) (c : Cursor) :
      SlotsVisit (slot :: rest) c (.ofFirst separator keywords slot rest c)
  /-- The slots after it are visited from where it ends. -/
  | later {slot : Slot} {rest : List Slot} {c : Cursor} {v : Visit}
      (goes : ∀ fault,
        (Visit.ofFirst separator keywords slot rest c).outcome ≠ .failed fault)
      (visit : SlotsVisit rest (Visit.ofFirst separator keywords slot rest c).last v) :
      SlotsVisit (slot :: rest) c v

/-- The visits of a list of slots: none where no slot is required and all tokens were read. -/
def SlotList.Visits (l : SlotList) (c : Cursor) (v : Visit) : Prop :=
  (l.needsInput = false → c.isExhausted = false) ∧ SlotsVisit separator keywords l.slots c v

end Slots

/-- The visits of the slots of an entry that is called. -/
def Entry.Visits (e : Entry) (outer : String) (keywords : List String) (c : Cursor) (v : Visit) :
    Prop :=
  e.args.Visits (e.separatorOr outer) keywords (e.stepOverName outer c) v

/-- Whether the loop over the options of a nested command goes on from one cursor to another. -/
inductive Subcommand.GoesOn (s : Subcommand) (separator : String) (keywords : List String) :
    Cursor → Cursor → Prop
  /-- An option is called and filled without a fault. -/
  | option {c : Cursor} {e : Entry} (called : s.called? separator c = some e)
      (fills : (e.fill separator keywords c).fault = none) :
      GoesOn s separator keywords c (e.fill separator keywords c).cursor

/-- Whether the loop over options and nested commands goes on from one cursor to another. -/
inductive Command.GoesOn (command : Command) (keywords : List String) : Cursor → Cursor → Prop
  /-- An option is called and filled without a fault. -/
  | option {c : Cursor} {e : Entry} (called : command.called? c = some (.option e))
      (fills : (e.fill command.separator keywords c).fault = none) :
      GoesOn command keywords c (e.fill command.separator keywords c).cursor
  /-- A nested command is called and filled without a fault. -/
  | subcommand {c : Cursor} {s : Subcommand} (called : command.called? c = some (.subcommand s))
      (fills : (s.fill command.separator keywords c).fault = none) :
      GoesOn command keywords c (s.fill command.separator keywords c).cursor

namespace Command

/-- Whether a run comes to a cursor behind its header. -/
def BodyAt (command : Command) (input : Input) (c : Cursor) : Prop :=
  ∃ start header,
    Cursor.tokenize input command.separator command.config.excluded command.config.raises =
      .ok start ∧
    command.header.read command.separator start = .ok (header, c)

/-- Whether the loop of a run comes to a cursor. -/
def LoopAt (command : Command) (input : Input) (c : Cursor) : Prop :=
  ∃ body, command.BodyAt input body ∧
    let main := command.config.args.fill command.separator command.keywords body
    main.fault = none ∧ ReflTransGen (command.GoesOn command.keywords) main.cursor c

/-- The visits of a run, by the site at which their values are kept. -/
inductive Visits (command : Command) (input : Input) : Site → Visit → Prop
  /-- A slot after the header is filled. -/
  | main {c : Cursor} {v : Visit} (body : command.BodyAt input c)
      (visit : command.config.args.Visits command.separator command.keywords c v) :
      Visits command input .main v
  /-- A slot of a called option is filled. -/
  | option {c : Cursor} {e : Entry} {v : Visit} (loop : command.LoopAt input c)
      (called : command.called? c = some (.option e))
      (visit : e.Visits command.separator command.keywords c v) :
      Visits command input (.option e.name) v
  /-- A slot of a called nested command is filled. -/
  | subcommand {c : Cursor} {s : Subcommand} {v : Visit} (loop : command.LoopAt input c)
      (called : command.called? c = some (.subcommand s))
      (visit : s.entry.Visits command.separator command.keywords c v) :
      Visits command input (.subcommand s.name) v
  /-- A slot of a called option of a called nested command is filled. -/
  | suboption {c d : Cursor} {s : Subcommand} {e : Entry} {v : Visit}
      (loop : command.LoopAt input c) (called : command.called? c = some (.subcommand s))
      (fills : (s.entry.fill command.separator command.keywords c).fault = none)
      (inner : ReflTransGen (s.GoesOn (s.entry.separatorOr command.separator) command.keywords)
        (s.entry.fill command.separator command.keywords c).cursor d)
      (calledOption : s.called? (s.entry.separatorOr command.separator) d = some e)
      (visit : e.Visits (s.entry.separatorOr command.separator) command.keywords d v) :
      Visits command input (.suboption s.name e.name) v

end Command

/-! ### What visits have in common -/

section Arises

variable {separators keywords : List String} {separator outer : String} {c : Cursor} {v : Visit}

/-- Where a visit comes from: its slot is one of some slots, it reads with a separator of a list
and knows the keywords, and a walk leads from a cursor to where it begins. -/
structure Visit.Arises (v : Visit) (separators keywords : List String) (slots : List Slot)
    (start : Cursor) : Prop where
  /-- The slot is one of those at the site. -/
  slot : v.slot ∈ slots
  /-- The separator is listed. -/
  separator : v.ctx.separator ∈ separators
  /-- The keywords are known. -/
  keywords : v.ctx.keywords = keywords
  /-- The cursor is the end of a walk. -/
  walk : ∃ past, Walk separators start past v.cursor

/-- A visit also comes from where a walk to its start begins. -/
theorem Visit.Arises.after {slots : List Slot} {start : Cursor} {past : List Token}
    (h : v.Arises separators keywords slots c) (walk : Walk separators start past c) :
    v.Arises separators keywords slots start := by
  obtain ⟨more, hmore⟩ := h.walk
  exact ⟨h.slot, h.separator, h.keywords, _, walk.trans hmore⟩

/-- The visits of slots in order are of these slots. -/
theorem SlotsVisit.arises {slots : List Slot} (h : SlotsVisit separator keywords slots c v)
    (hlisted : separator ∈ separators) : v.Arises separators keywords slots c := by
  induction h with
  | first slot rest c => exact ⟨List.mem_cons_self, hlisted, rfl, [], .here⟩
  | @later slot rest c v _ _ ih =>
    obtain ⟨past, hwalk⟩ := (Visit.ofFirst separator keywords slot rest c).walk
    have hfirst : Walk separators c past (Visit.ofFirst separator keywords slot rest c).last :=
      hwalk.mono fun found hfound => List.mem_singleton.mp hfound ▸ hlisted
    have hrest := ih.after hfirst
    exact ⟨List.mem_cons_of_mem _ hrest.slot, hrest.separator, hrest.keywords, hrest.walk⟩

/-- The visits of an entry are of its slots. -/
theorem Entry.Visits.arises {e : Entry} (h : e.Visits outer keywords c v)
    (hlisted : e.separatorOr outer ∈ separators) :
    v.Arises separators keywords e.args.slots c := by
  obtain ⟨past, hname⟩ := walk_stepOverName e outer c
  exact (h.2.arises hlisted).after
    (hname.mono fun found hfound => List.mem_singleton.mp hfound ▸ hlisted)

/-- The loop over the options of a nested command goes a walk. -/
theorem walk_goesOn_options {s : Subcommand} {d : Cursor}
    (h : ReflTransGen (s.GoesOn (s.entry.separatorOr outer) keywords) c d) :
    ∃ past, Walk (s.separators outer) c past d := by
  induction h with
  | refl => exact ⟨[], .here⟩
  | tail _ step ih =>
    obtain ⟨past, hwalk⟩ := ih
    cases step with
    | option called fills =>
      obtain ⟨name, next, more, hfetch, hlisted, hrest⟩ := walk_suboption outer keywords called
      exact ⟨_, hwalk.trans ((Walk.here.read hlisted hfetch).trans hrest)⟩

/-- The loop over options and nested commands goes a walk. -/
theorem walk_goesOn_members {command : Command} {d : Cursor}
    (h : ReflTransGen (command.GoesOn keywords) c d) :
    ∃ past, Walk command.separators c past d := by
  induction h with
  | refl => exact ⟨[], .here⟩
  | tail _ step ih =>
    obtain ⟨past, hwalk⟩ := ih
    cases step with
    | option called fills =>
      obtain ⟨name, next, more, hfetch, hlisted, hrest⟩ := walk_option keywords called
      exact ⟨_, hwalk.trans ((Walk.here.read hlisted hfetch).trans hrest)⟩
    | subcommand called fills =>
      obtain ⟨name, next, more, hfetch, hlisted, hrest⟩ := walk_subcommand keywords called
      exact ⟨_, hwalk.trans ((Walk.here.read hlisted hfetch).trans hrest)⟩

end Arises

section Command

variable {command : Command} {input : Input} {c : Cursor}

/-- A run goes a walk to where the slots after its header are filled. -/
theorem Command.BodyAt.walk (h : command.BodyAt input c) :
    ∃ start past, Cursor.tokenize input command.separator command.config.excluded
        command.config.raises = .ok start ∧ Walk command.separators start past c := by
  obtain ⟨start, header, hstart, hread⟩ := h
  obtain ⟨name, past, hwalk⟩ := walk_read (List.mem_cons_self) hread
  exact ⟨start, _, hstart, hwalk⟩

/-- A run goes a walk to wherever its loop comes. -/
theorem Command.LoopAt.walk (h : command.LoopAt input c) :
    ∃ start past, Cursor.tokenize input command.separator command.config.excluded
        command.config.raises = .ok start ∧ Walk command.separators start past c := by
  obtain ⟨body, hbody, -, hloop⟩ := h
  obtain ⟨start, past, hstart, hheader⟩ := hbody.walk
  obtain ⟨taken, hmain⟩ := walk_fill command.config.args
    (show command.separator ∈ command.separators from List.mem_cons_self) command.keywords body
  obtain ⟨more, hrest⟩ := walk_goesOn_members hloop
  exact ⟨start, _, hstart, (hheader.trans hmain).trans hrest⟩

/-- An option that is called is the one of its name, and its separator is one of the command. -/
theorem option_of_called {e : Entry} (h : command.called? c = some (.option e)) :
    optionNamed? command.config.options e.name = some e ∧
      e.separatorOr command.separator ∈ command.separators := by
  have hmem : e ∈ command.config.options := CommandConfig.option_mem_members.mp (mem_of_called h)
  exact ⟨find_by_name (distinct_apart command).1 hmem,
    List.mem_cons_of_mem _ (List.mem_append_left _ (List.mem_map_of_mem hmem))⟩

/-- A nested command that is called is the one of its name, and its separators are of the
command. -/
theorem subcommand_of_called {s : Subcommand} (h : command.called? c = some (.subcommand s)) :
    subcommandNamed? command.config.subcommands s.name = some s ∧
      ∀ separator ∈ s.separators command.separator, separator ∈ command.separators := by
  have hmem : s ∈ command.config.subcommands :=
    CommandConfig.subcommand_mem_members.mp (mem_of_called h)
  exact ⟨find_by_name (distinct_apart command).2 hmem, mem_separators_of_subcommand hmem⟩

/-- Every visit of a run fills a slot of its site with a separator and the keywords of the
command, from where a walk through the input leads. -/
theorem Command.Visits.arises {site : Site} {v : Visit} (h : command.Visits input site v) :
    ∃ start slots, Cursor.tokenize input command.separator command.config.excluded
        command.config.raises = .ok start ∧ command.slotsAt? site = some slots ∧
      v.Arises command.separators command.keywords slots start := by
  cases h with
  | main body visit =>
    obtain ⟨start, past, hstart, hwalk⟩ := body.walk
    exact ⟨start, _, hstart, rfl, (visit.2.arises List.mem_cons_self).after hwalk⟩
  | option loop called visit =>
    obtain ⟨start, past, hstart, hwalk⟩ := loop.walk
    obtain ⟨hnamed, hlisted⟩ := option_of_called called
    exact ⟨start, _, hstart, by simp [Command.slotsAt?, hnamed],
      (visit.arises hlisted).after hwalk⟩
  | subcommand loop called visit =>
    obtain ⟨start, past, hstart, hwalk⟩ := loop.walk
    obtain ⟨hnamed, hlisted⟩ := subcommand_of_called called
    exact ⟨start, _, hstart, by simp [Command.slotsAt?, hnamed],
      (visit.arises (hlisted _ List.mem_cons_self)).after hwalk⟩
  | @suboption c d s e v loop called fills inner calledOption visit =>
    obtain ⟨start, past, hstart, hwalk⟩ := loop.walk
    obtain ⟨hnamed, hlisted⟩ := subcommand_of_called called
    obtain ⟨hoption, -⟩ := suboption_of_called calledOption
    have hseparator := hlisted _ (List.mem_cons_of_mem _ (List.mem_map_of_mem hoption))
    have hfound : optionNamed? s.options e.name = some e := find_by_name s.distinct hoption
    obtain ⟨own, hown⟩ :=
      walk_entry s.entry (hlisted _ List.mem_cons_self) command.keywords c
    obtain ⟨more, hinner⟩ := walk_goesOn_options inner
    exact ⟨start, _, hstart, by simp [Command.slotsAt?, hnamed, hfound],
      (visit.arises hseparator).after ((hwalk.trans hown).trans (hinner.mono hlisted))⟩

end Command

/-! ### Where values come from -/

/-- Whether a value under the name of a slot is its default or that of a visit. -/
def ValueFrom (visits : Visit → Prop) (slots : List Slot) (name : String) (value : Value) : Prop :=
  ∃ slot ∈ slots, slot.name = name ∧
    (slot.default = some value ∨ ∃ v, visits v ∧ v.slot = slot ∧ v.outcome = .filled value)

/-- More visits give more values. -/
theorem ValueFrom.mono {visits others : Visit → Prop} {slots : List Slot} {name : String}
    {value : Value} (h : ValueFrom visits slots name value) (hmore : ∀ v, visits v → others v) :
    ValueFrom others slots name value := by
  obtain ⟨slot, hslot, hname, hdefault | ⟨v, hv, hrest⟩⟩ := h
  · exact ⟨slot, hslot, hname, .inl hdefault⟩
  · exact ⟨slot, hslot, hname, .inr ⟨v, hmore v hv, hrest⟩⟩

section Values

variable {separator outer : String} {keywords : List String} {c : Cursor} {name : String}

/-- A default that is kept is that of a slot. -/
theorem default_of_get {l : SlotList} {value : Value} (h : l.defaults.get? name = some value) :
    ∃ slot ∈ l.slots, slot.name = name ∧ slot.default = some value := by
  rw [SlotList.defaults, NameMap.get?_ofList] at h
  obtain ⟨slot, hslot, hentry⟩ :=
    List.mem_filterMap.mp (List.mem_reverse.mp (mem_of_findEntry h))
  obtain ⟨found, hdefault, heq⟩ := Option.map_eq_some_iff.mp hentry
  cases heq
  exact ⟨slot, hslot, rfl, hdefault⟩

/-- Filling slots in order goes on from the visit of the first one. -/
theorem fillFrom_cons (slot : Slot) (rest : List Slot) (c : Cursor) (values : SlotValues) :
    SlotList.fillFrom separator keywords (slot :: rest) c values =
      let first := Visit.ofFirst separator keywords slot rest c
      match first.outcome with
      | .filled value =>
        SlotList.fillFrom separator keywords rest first.last (values.insert slot.name value)
      | .empty => SlotList.fillFrom separator keywords rest first.last values
      | .failed fault => ⟨first.last, values, some fault⟩ := by
  rw [SlotList.fillFrom_cons]
  simp only [Visit.ofFirst, Visit.outcome, Visit.last]
  split <;> rename_i hfill <;> simp only [hfill]

/-- Filling slots in order keeps the values there were and those of visits. -/
theorem fillFrom_value {slots : List Slot} {values : SlotValues} {value : Value}
    (h : (SlotList.fillFrom separator keywords slots c values).values.get? name = some value) :
    values.get? name = some value ∨ ∃ v, SlotsVisit separator keywords slots c v ∧
      v.slot.name = name ∧ v.outcome = .filled value := by
  induction slots generalizing c values with
  | nil => exact .inl h
  | cons slot rest ih =>
    rw [fillFrom_cons] at h
    dsimp only at h
    split at h
    · rename_i found hfound
      rcases ih h with hget | ⟨v, hvisit, hv⟩
      · rcases NameMap.get_of_insert hget with ⟨hname, rfl⟩ | hget
        · exact .inr ⟨_, .first slot rest c, hname, hfound⟩
        · exact .inl hget
      · exact .inr ⟨v, .later (by simp [hfound]) hvisit, hv⟩
    · rename_i hempty
      rcases ih h with hget | ⟨v, hvisit, hv⟩
      · exact .inl hget
      · exact .inr ⟨v, .later (by simp [hempty]) hvisit, hv⟩
    · exact .inl h

/-- The values of a list of slots are those of its visits, or defaults. -/
theorem fill_value {l : SlotList} {value : Value}
    (h : (l.fill separator keywords c).values.get? name = some value) :
    ValueFrom (l.Visits separator keywords c) l.slots name value := by
  unfold SlotList.fill at h
  split at h
  · obtain ⟨slot, hslot, hname, hdefault⟩ := default_of_get h
    exact ⟨slot, hslot, hname, .inl hdefault⟩
  · rename_i hlooks
    have hlooks : l.needsInput = false → c.isExhausted = false := by simpa using hlooks
    rcases fillFrom_value h with hget | ⟨v, hvisit, hname, hfilled⟩
    · cases hget
    · have hslot := (hvisit.arises List.mem_cons_self : v.Arises [separator] _ _ _).slot
      exact ⟨v.slot, hslot, hname, .inr ⟨v, ⟨hlooks, hvisit⟩, rfl, hfilled⟩⟩

/-- The loop over the options of a nested command keeps the values there were, and for an option
that it called those of one of the times. -/
theorem fillOptions_value {s : Subcommand} {options : NameMap SlotValues} {values : SlotValues}
    (h : (s.fillOptions separator keywords c options).options.get? name = some values) :
    options.get? name = some values ∨ ∃ d e, ReflTransGen (s.GoesOn separator keywords) c d ∧
      s.called? separator d = some e ∧ e.name = name ∧
      (e.fill separator keywords d).values = values := by
  fun_induction Subcommand.fillOptions s separator keywords c options with
  | case1 => exact .inl h
  | case2 c options e hcalled filling inserted fault hfault =>
    rcases NameMap.get_of_insert h with ⟨hname, hvalues⟩ | hget
    · exact .inr ⟨c, e, .refl, hcalled, hname, hvalues⟩
    · exact .inl hget
  | case3 c options e hcalled filling inserted hfault ih =>
    rcases ih h with hget | ⟨d, found, hloop, hrest⟩
    · rcases NameMap.get_of_insert hget with ⟨hname, hvalues⟩ | hget
      · exact .inr ⟨c, e, .refl, hcalled, hname, hvalues⟩
      · exact .inl hget
    · exact .inr ⟨d, found, hloop.head (.option hcalled hfault), hrest⟩

variable {command : Command} {options : NameMap SlotValues}
  {subcommands : NameMap SubcommandValues}

/-- The loop over options and nested commands keeps the values there were, and for an option that
it called those of one of the times. -/
theorem fillMembers_option_value {values : SlotValues}
    (h : (command.fillMembers keywords c options subcommands).options.get? name = some values) :
    options.get? name = some values ∨ ∃ d e, ReflTransGen (command.GoesOn keywords) c d ∧
      command.called? d = some (.option e) ∧ e.name = name ∧
      (e.fill command.separator keywords d).values = values := by
  fun_induction Command.fillMembers command keywords c options subcommands with
  | case1 => exact .inl h
  | case2 c options subcommands e hcalled filling inserted fault hfault =>
    rcases NameMap.get_of_insert h with ⟨hname, hvalues⟩ | hget
    · exact .inr ⟨c, e, .refl, hcalled, hname, hvalues⟩
    · exact .inl hget
  | case3 c options subcommands e hcalled filling inserted hfault ih =>
    rcases ih h with hget | ⟨d, found, hloop, hrest⟩
    · rcases NameMap.get_of_insert hget with ⟨hname, hvalues⟩ | hget
      · exact .inr ⟨c, e, .refl, hcalled, hname, hvalues⟩
      · exact .inl hget
    · exact .inr ⟨d, found, hloop.head (.option hcalled hfault), hrest⟩
  | case4 => exact .inl h
  | case5 c options subcommands s hcalled filling inserted hfault ih =>
    rcases ih h with hget | ⟨d, found, hloop, hrest⟩
    · exact .inl hget
    · exact .inr ⟨d, found, hloop.head (.subcommand hcalled hfault), hrest⟩

/-- The loop over options and nested commands keeps the values there were, and for a nested command
that it called those of one of the times. -/
theorem fillMembers_subcommand_value {below : SubcommandValues}
    (h : (command.fillMembers keywords c options subcommands).subcommands.get? name = some below) :
    subcommands.get? name = some below ∨ ∃ d s, ReflTransGen (command.GoesOn keywords) c d ∧
      command.called? d = some (.subcommand s) ∧ s.name = name ∧
      (s.fill command.separator keywords d).values = below := by
  fun_induction Command.fillMembers command keywords c options subcommands with
  | case1 => exact .inl h
  | case2 => exact .inl h
  | case3 c options subcommands e hcalled filling inserted hfault ih =>
    rcases ih h with hget | ⟨d, found, hloop, hrest⟩
    · exact .inl hget
    · exact .inr ⟨d, found, hloop.head (.option hcalled hfault), hrest⟩
  | case4 c options subcommands s hcalled filling inserted fault hfault =>
    rcases NameMap.get_of_insert h with ⟨hname, hvalues⟩ | hget
    · exact .inr ⟨c, s, .refl, hcalled, hname, hvalues⟩
    · exact .inl hget
  | case5 c options subcommands s hcalled filling inserted hfault ih =>
    rcases ih h with hget | ⟨d, found, hloop, hrest⟩
    · rcases NameMap.get_of_insert hget with ⟨hname, hvalues⟩ | hget
      · exact .inr ⟨c, s, .refl, hcalled, hname, hvalues⟩
      · exact .inl hget
    · exact .inr ⟨d, found, hloop.head (.subcommand hcalled hfault), hrest⟩

/-- The values of a nested command are those of its own slots, and for an option that was called
those of one of the times. -/
theorem subcommand_fill_value (s : Subcommand) (outer : String) (keywords : List String)
    (c : Cursor) :
    let own := s.entry.fill outer keywords c
    let loop := s.entry.separatorOr outer
    (s.fill outer keywords c).values.args = own.values ∧
      ∀ option values, (s.fill outer keywords c).values.options.get? option = some values →
        own.fault = none ∧ ∃ d e, ReflTransGen (s.GoesOn loop keywords) own.cursor d ∧
          s.called? loop d = some e ∧ e.name = option ∧
          (e.fill loop keywords d).values = values := by
  intro own loop
  unfold Subcommand.fill
  dsimp only
  split
  · exact ⟨rfl, fun option values h => by cases h⟩
  · rename_i hfault
    refine ⟨rfl, fun option values h => ⟨hfault, ?_⟩⟩
    rcases fillOptions_value h with hget | hcalled
    · cases hget
    · exact hcalled

end Values

/-- A run fails before its header matched, or goes on behind the header. -/
theorem run_cases (command : Command) (input : Input) :
    (∃ fault remainder, command.run input = .failedEarly fault remainder) ∨
      ∃ header body, command.BodyAt input body ∧
        command.run input = command.runBody header body := by
  unfold Command.run
  split
  · exact .inl ⟨_, _, rfl⟩
  · rename_i start hstart
    unfold Command.runTokens
    split
    · exact .inl ⟨_, _, rfl⟩
    · rename_i header body hread
      exact .inr ⟨header, body, ⟨start, header, hstart, hread⟩, rfl⟩

/-- The values behind the header are those of its slots, and for an option or a nested command that
was called those of one of the times. -/
theorem runBody_value {command : Command} {input : Input} {body : Cursor}
    (hbody : command.BodyAt input body) (header : Value) :
    let result := command.runBody header body
    result.mainArgs =
        (command.config.args.fill command.separator command.keywords body).values ∧
      (∀ name values, result.options.get? name = some values →
        ∃ c e, command.LoopAt input c ∧ command.called? c = some (.option e) ∧ e.name = name ∧
          (e.fill command.separator command.keywords c).values = values) ∧
      ∀ name below, result.subcommands.get? name = some below →
        ∃ c s, command.LoopAt input c ∧ command.called? c = some (.subcommand s) ∧
          s.name = name ∧ (s.fill command.separator command.keywords c).values = below := by
  intro result
  simp only [result, Command.runBody]
  split
  · exact ⟨rfl, fun name values h => (by cases h), fun name below h => (by cases h)⟩
  · rename_i hfault
    refine ⟨rfl, fun name values h => ?_, fun name below h => ?_⟩
    · rcases fillMembers_option_value h with hget | ⟨c, e, hloop, hcalled⟩
      · cases hget
      · exact ⟨c, e, ⟨body, hbody, hfault, hloop⟩, hcalled⟩
    · rcases fillMembers_subcommand_value h with hget | ⟨c, s, hloop, hcalled⟩
      · cases hget
      · exact ⟨c, s, ⟨body, hbody, hfault, hloop⟩, hcalled⟩

/-- An early failure keeps no value. -/
theorem failedEarly_value {fault : MatchFault} {remainder : List Token} {site : Site}
    {values : SlotValues}
    (h : (MatchResult.failedEarly fault remainder).valuesAt? site = some values) (name : String) :
    values.get? name = none := by
  cases site with
  | main =>
    cases h
    rfl
  | option name => cases h
  | subcommand name => cases h
  | suboption name option => cases h

/-- Every value of a result is that of a visit of its site, or the default of a slot there. -/
theorem run_value {command : Command} {input : Input} {site : Site} {values : SlotValues}
    (hsite : (command.run input).valuesAt? site = some values) {name : String} {value : Value}
    (hvalue : values.get? name = some value) :
    ∃ slots, command.slotsAt? site = some slots ∧
      ValueFrom (command.Visits input site) slots name value := by
  rcases run_cases command input with ⟨fault, remainder, hrun⟩ | ⟨header, body, hbody, hrun⟩
  · rw [hrun] at hsite
    cases (failedEarly_value hsite name).symm.trans hvalue
  obtain ⟨hmain, hoptions, hsubcommands⟩ := runBody_value hbody header
  rw [← hrun] at hmain hoptions hsubcommands
  cases site with
  | main =>
    cases hsite
    rw [hmain] at hvalue
    exact ⟨_, rfl, (fill_value hvalue).mono fun v => .main hbody⟩
  | option called =>
    obtain ⟨c, e, hloop, hcalled, rfl, rfl⟩ := hoptions called values hsite
    exact ⟨e.args.slots, by simp [Command.slotsAt?, (option_of_called hcalled).1],
      (fill_value hvalue).mono fun v => .option hloop hcalled⟩
  | subcommand called =>
    obtain ⟨below, hbelow, rfl⟩ := Option.map_eq_some_iff.mp hsite
    obtain ⟨c, s, hloop, hcalled, rfl, rfl⟩ := hsubcommands called below hbelow
    rw [(subcommand_fill_value s command.separator command.keywords c).1] at hvalue
    exact ⟨s.entry.args.slots, by simp [Command.slotsAt?, (subcommand_of_called hcalled).1],
      (fill_value hvalue).mono fun v => .subcommand hloop hcalled⟩
  | suboption called option =>
    obtain ⟨below, hbelow, hoption⟩ := Option.bind_eq_some_iff.mp hsite
    obtain ⟨c, s, hloop, hcalled, rfl, rfl⟩ := hsubcommands called below hbelow
    obtain ⟨hfills, d, e, hinner, hcalledOption, rfl, rfl⟩ :=
      (subcommand_fill_value s command.separator command.keywords c).2 option values hoption
    have hfound : optionNamed? s.options e.name = some e :=
      find_by_name s.distinct (suboption_of_called hcalledOption).1
    exact ⟨e.args.slots, by simp [Command.slotsAt?, (subcommand_of_called hcalled).1, hfound],
      (fill_value hvalue).mono fun v => .suboption hloop hcalled hfills hinner hcalledOption⟩

end CommandGrammar
