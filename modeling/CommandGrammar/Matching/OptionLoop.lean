import CommandGrammar.Command.Basic
import CommandGrammar.Matching.Filling

/-!
# Options and nested commands

After its own arguments a command goes on with options and nested commands, and a nested
command with options of its own. A token that calls none of them ends the loop. Each round
reads at least the calling name, so the amount of unconsumed input falls from round to round.
-/

namespace CommandGrammar

namespace Entry

/-- Step over the name that called an entry. -/
def stepOverName (e : Entry) (outer : String) (c : Cursor) : Cursor :=
  match c.fetch (e.separatorOr outer) with
  | none => c
  | some (_, next) => next

/-- Fill the slots of an entry that a token called, with its separator. -/
def fill (e : Entry) (outer : String) (keywords : List String) (c : Cursor) : Filling :=
  e.args.fill (e.separatorOr outer) keywords (e.stepOverName outer c)

end Entry

/-- Filling the slots of a called entry consumes its name at least. -/
theorem fill_unconsumed_lt {e : Entry} {outer separator : String} {keywords : List String}
    {c : Cursor} {token : Token} (h : c.peek separator = some token) :
    (e.fill outer keywords c).cursor.unconsumed < c.unconsumed := by
  obtain ⟨name, next, hfetch⟩ := Cursor.exists_fetch_of_peek h (e.separatorOr outer)
  have hplaced := Cursor.fetch_wellPlaced hfetch
  have hfill := (reaches_fill e.args (e.separatorOr outer) keywords hplaced).unconsumed_le
  have hname := Cursor.fetch_unconsumed hfetch
  simp only [Entry.fill, Entry.stepOverName, hfetch]
  omega

/-- What a loop over options gives. -/
structure OptionFilling where
  /-- The cursor after the tokens that were kept. -/
  cursor : Cursor
  /-- The values of the options. -/
  options : NameMap SlotValues
  /-- Why an option failed, if one did. -/
  fault : Option MatchFault

/-- The option that the next token calls. -/
def Subcommand.called? (s : Subcommand) (separator : String) (c : Cursor) : Option Entry :=
  (c.peek separator).bind fun token => token.asText?.bind s.resolve?

/-- Fill the options of a nested command as long as tokens call them. An option called again
has its latest values. -/
def Subcommand.fillOptions (s : Subcommand) (separator : String) (keywords : List String)
    (c : Cursor) (options : NameMap SlotValues) : OptionFilling :=
  match _h : s.called? separator c with
  | none => ⟨c, options, none⟩
  | some e =>
    let filling := e.fill separator keywords c
    let options := options.insert e.name filling.values
    match filling.fault with
    | some fault => ⟨filling.cursor, options, some fault⟩
    | none => fillOptions s separator keywords filling.cursor options
termination_by c.unconsumed
decreasing_by
  obtain ⟨token, hpeek, -⟩ := Option.bind_eq_some_iff.mp _h
  exact fill_unconsumed_lt hpeek

/-- The loop over options ends where no option is called. -/
theorem fillOptions_end {s : Subcommand} {separator : String} {c : Cursor}
    (h : s.called? separator c = none) (keywords : List String) (options : NameMap SlotValues) :
    s.fillOptions separator keywords c options = ⟨c, options, none⟩ := by
  rw [Subcommand.fillOptions]
  split
  · rfl
  · rename_i hcalled
    cases h.symm.trans hcalled

/-- A called option is filled before the loop goes on. -/
theorem fillOptions_called {s : Subcommand} {separator : String} {c : Cursor} {e : Entry}
    (h : s.called? separator c = some e) (keywords : List String)
    (options : NameMap SlotValues) :
    s.fillOptions separator keywords c options =
      let filling := e.fill separator keywords c
      let options := options.insert e.name filling.values
      match filling.fault with
      | some fault => ⟨filling.cursor, options, some fault⟩
      | none => s.fillOptions separator keywords filling.cursor options := by
  rw [Subcommand.fillOptions]
  split
  · rename_i hcalled
    cases h.symm.trans hcalled
  · rename_i hcalled
    cases h.symm.trans hcalled
    rfl

/-- A loop over options gains no input. -/
theorem fillOptions_unconsumed_le (s : Subcommand) (separator : String)
    (keywords : List String) (c : Cursor) (options : NameMap SlotValues) :
    (s.fillOptions separator keywords c options).cursor.unconsumed ≤ c.unconsumed := by
  fun_induction Subcommand.fillOptions s separator keywords c options with
  | case1 => exact Nat.le_refl _
  | case2 c options e h =>
    obtain ⟨token, hpeek, -⟩ := Option.bind_eq_some_iff.mp h
    exact Nat.le_of_lt (fill_unconsumed_lt hpeek)
  | case3 c options e h _ _ _ ih =>
    obtain ⟨token, hpeek, -⟩ := Option.bind_eq_some_iff.mp h
    exact Nat.le_trans ih (Nat.le_of_lt (fill_unconsumed_lt hpeek))

/-- What a nested command that a token called gives. -/
structure SubcommandFilling where
  /-- The cursor after the tokens that were kept. -/
  cursor : Cursor
  /-- The values. -/
  values : SubcommandValues
  /-- Why a slot failed, if one did. -/
  fault : Option MatchFault

/-- Fill a nested command: its own slots, then its options. -/
def Subcommand.fill (s : Subcommand) (outer : String) (keywords : List String) (c : Cursor) :
    SubcommandFilling :=
  let own := s.entry.fill outer keywords c
  match own.fault with
  | some fault => ⟨own.cursor, ⟨own.values, .empty⟩, some fault⟩
  | none =>
    let rest := s.fillOptions (s.entry.separatorOr outer) keywords own.cursor .empty
    ⟨rest.cursor, ⟨own.values, rest.options⟩, rest.fault⟩

/-- Filling a called nested command consumes its name at least. -/
theorem subcommand_fill_unconsumed_lt {s : Subcommand} {outer separator : String}
    {keywords : List String} {c : Cursor} {token : Token}
    (h : c.peek separator = some token) :
    (s.fill outer keywords c).cursor.unconsumed < c.unconsumed := by
  have hown : (s.entry.fill outer keywords c).cursor.unconsumed < c.unconsumed :=
    fill_unconsumed_lt h
  unfold Subcommand.fill
  dsimp only
  split
  · exact hown
  · exact Nat.lt_of_le_of_lt (fillOptions_unconsumed_le ..) hown

/-- What the loop over options and nested commands gives. -/
structure MemberFilling where
  /-- The cursor after the tokens that were kept. -/
  cursor : Cursor
  /-- The values of the options. -/
  options : NameMap SlotValues
  /-- The values of the nested commands. -/
  subcommands : NameMap SubcommandValues
  /-- Why a slot failed, if one did. -/
  fault : Option MatchFault

/-- The option or nested command that the next token calls. -/
def Command.called? (command : Command) (c : Cursor) : Option Member :=
  (c.peek command.separator).bind fun token => token.asText?.bind command.resolve?

/-- Fill the options and nested commands of a command as long as tokens call them. What is
called again has its latest values. -/
def Command.fillMembers (command : Command) (keywords : List String) (c : Cursor)
    (options : NameMap SlotValues) (subcommands : NameMap SubcommandValues) : MemberFilling :=
  match _h : command.called? c with
  | none => ⟨c, options, subcommands, none⟩
  | some (.option e) =>
    let filling := e.fill command.separator keywords c
    let options := options.insert e.name filling.values
    match filling.fault with
    | some fault => ⟨filling.cursor, options, subcommands, some fault⟩
    | none => fillMembers command keywords filling.cursor options subcommands
  | some (.subcommand s) =>
    let filling := s.fill command.separator keywords c
    let subcommands := subcommands.insert s.name filling.values
    match filling.fault with
    | some fault => ⟨filling.cursor, options, subcommands, some fault⟩
    | none => fillMembers command keywords filling.cursor options subcommands
termination_by c.unconsumed
decreasing_by
  · obtain ⟨token, hpeek, -⟩ := Option.bind_eq_some_iff.mp _h
    exact fill_unconsumed_lt hpeek
  · obtain ⟨token, hpeek, -⟩ := Option.bind_eq_some_iff.mp _h
    exact subcommand_fill_unconsumed_lt hpeek

/-- The loop over options and nested commands ends where none is called. -/
theorem fillMembers_end {command : Command} {c : Cursor} (h : command.called? c = none)
    (keywords : List String) (options : NameMap SlotValues)
    (subcommands : NameMap SubcommandValues) :
    command.fillMembers keywords c options subcommands = ⟨c, options, subcommands, none⟩ := by
  rw [Command.fillMembers]
  split <;> rename_i hcalled
  · rfl
  · cases h.symm.trans hcalled
  · cases h.symm.trans hcalled

/-- A called option is filled before the loop goes on. -/
theorem fillMembers_option {command : Command} {c : Cursor} {e : Entry}
    (h : command.called? c = some (.option e)) (keywords : List String)
    (options : NameMap SlotValues) (subcommands : NameMap SubcommandValues) :
    command.fillMembers keywords c options subcommands =
      let filling := e.fill command.separator keywords c
      let options := options.insert e.name filling.values
      match filling.fault with
      | some fault => ⟨filling.cursor, options, subcommands, some fault⟩
      | none => command.fillMembers keywords filling.cursor options subcommands := by
  rw [Command.fillMembers]
  split <;> rename_i hcalled <;> cases h.symm.trans hcalled
  rfl

/-- A called nested command is filled before the loop goes on. -/
theorem fillMembers_subcommand {command : Command} {c : Cursor} {s : Subcommand}
    (h : command.called? c = some (.subcommand s)) (keywords : List String)
    (options : NameMap SlotValues) (subcommands : NameMap SubcommandValues) :
    command.fillMembers keywords c options subcommands =
      let filling := s.fill command.separator keywords c
      let subcommands := subcommands.insert s.name filling.values
      match filling.fault with
      | some fault => ⟨filling.cursor, options, subcommands, some fault⟩
      | none => command.fillMembers keywords filling.cursor options subcommands := by
  rw [Command.fillMembers]
  split <;> rename_i hcalled <;> cases h.symm.trans hcalled
  rfl

end CommandGrammar
