import CommandGrammar.Proofs.CursorWalks
import CommandGrammar.Proofs.Sentences

/-!
# How much input the loops consume

The amount of input that is left is counted as the characters of the pieces that are left and one
for each unit. No token of an input counts for nothing, and cutting one gains nothing, so a walk
spends at least one for each token that stays read.

Each round of a loop over options or nested commands reads a name and never steps back over it.
The rounds of all loops of a run, the nested ones included, are therefore fewer than the
characters and units of the input.
-/

namespace CommandGrammar

open Cursor (Shows)

/-- How much a token counts for: its characters, or one for a unit. -/
def Token.extent : Token → Nat
  | text piece => piece.length
  | unit _ => 1

/-- How much tokens count for. -/
def extentOf (tokens : List Token) : Nat := sumOf (tokens.map Token.extent)

/-- No tokens count for nothing. -/
@[simp] theorem extentOf_nil : extentOf [] = 0 := rfl

/-- The first token counts once. -/
@[simp] theorem extentOf_cons (token : Token) (tokens : List Token) :
    extentOf (token :: tokens) = token.extent + extentOf tokens := rfl

/-- Tokens can be counted in parts. -/
@[simp] theorem extentOf_append (front back : List Token) :
    extentOf (front ++ back) = extentOf front + extentOf back := by
  simp [extentOf]

/-- The characters of the pieces not yet consumed and the number of the units among them. -/
def Cursor.extent (c : Cursor) : Nat := extentOf c.left

/-- The number of characters and units of an input. -/
def Input.extent : Input → Nat
  | text whole => whole.length
  | chain parts => extentOf parts

/-- Whether all tokens count for something. -/
def Filled (tokens : List Token) : Prop := ∀ token ∈ tokens, 0 < token.extent

/-- Tokens that all count for something count for no less than their number. -/
theorem length_le_extentOf {tokens : List Token} (h : Filled tokens) :
    tokens.length ≤ extentOf tokens := by
  induction tokens with
  | nil => exact Nat.le_refl 0
  | cons token tokens ih =>
    have hfirst := h token List.mem_cons_self
    have hrest := ih fun t ht => h t (List.mem_cons_of_mem _ ht)
    rw [List.length_cons, extentOf_cons]
    omega

namespace Split

/-- Every piece has a character. -/
theorem ne_nil_of_mem_pieces {separators : List Char} {quote : Option Char} {fresh : Bool}
    {held ahead piece : List Char} (h : piece ∈ pieces separators quote fresh held ahead) :
    piece ≠ [] := by
  fun_induction pieces separators quote fresh held ahead with
  | case1 quote fresh held =>
    rcases mem_emit h with ⟨rfl, hne⟩ | h
    · exact hne
    · cases h
  | case2 _ _ _ _ ih => exact ih h
  | case3 _ _ _ _ _ _ ih => exact ih h
  | case4 _ held _ rest _ ih =>
    rcases mem_emit h with ⟨rfl, hne⟩ | h
    · exact hne
    · exact ih h
  | case5 _ _ _ _ _ _ ih => exact ih h
  | case6 _ _ _ _ _ _ ih => exact ih h

/-- A piece counts for its characters when it is emitted. -/
theorem length_emit (piece : List Char) (others : List (List Char)) :
    sumOf ((emit piece others).map List.length) =
      piece.length + sumOf (others.map List.length) := by
  unfold emit
  split
  · rename_i hempty
    simp [List.isEmpty_iff.mp hempty]
  · simp

/-- The pieces have no more characters than what was held and ahead. -/
theorem length_pieces_le (separators : List Char) (quote : Option Char) (fresh : Bool)
    (held ahead : List Char) :
    sumOf ((pieces separators quote fresh held ahead).map List.length) ≤
      quote.toList.length + held.length + ahead.length := by
  fun_induction pieces separators quote fresh held ahead with
  | case1 quote fresh held => simp [length_emit, close]
  | case2 => simp_all; omega
  | case3 => simp_all; omega
  | case4 _ held _ rest _ ih =>
    rw [length_emit, List.length_reverse, List.length_cons]
    simp only [Option.toList_none, List.length_nil] at ih ⊢
    omega
  | case5 => simp_all; omega
  | case6 => simp_all; omega

end Split

/-- The tokens that a text is split into count for something, and for no more than the text. -/
theorem split_filled (whole separator : String) :
    Filled ((split whole separator).map .text) ∧
      extentOf ((split whole separator).map .text) ≤ whole.length := by
  constructor
  · intro token htoken
    obtain ⟨piece, hpiece, rfl⟩ := List.mem_map.mp htoken
    obtain ⟨chars, hchars, rfl⟩ := List.mem_map.mp hpiece
    have hne := Split.ne_nil_of_mem_pieces hchars
    simpa [Token.extent, ← String.length_toList] using List.length_pos_iff.mpr hne
  · have hpieces := Split.length_pieces_le separator.toList none true [] whole.toList
    have hlength : Token.extent ∘ Token.text ∘ String.ofList = List.length := by
      funext chars
      simp [Token.extent, ← String.length_toList]
    simpa [extentOf, split, hlength, String.length_toList] using hpieces

/-- Leaving out blank characters in front of a text gains no character. -/
theorem length_trimFront_le (whole : String) : (trimFront whole).length ≤ whole.length := by
  rw [trimFront, ← String.length_toList, ← String.length_toList, String.toList_ofList]
  exact (List.dropWhile_suffix _).length_le

/-- What an element of a chain is read as counts for no more than the element. -/
theorem cut_filled (separator : String) (excluded : List String) (part : Token) :
    Filled (part.cut separator excluded) ∧
      extentOf (part.cut separator excluded) ≤ part.extent := by
  unfold Token.cut
  cases part with
  | text whole =>
    obtain ⟨hfilled, hle⟩ := split_filled (trimFront whole) separator
    exact ⟨hfilled, Nat.le_trans hle (length_trimFront_le whole)⟩
  | unit u =>
    dsimp only
    split
    · exact ⟨by simp [Filled], Nat.zero_le _⟩
    · exact ⟨by simp [Filled, Token.extent], Nat.le_refl _⟩

/-- What an input is read as counts for no more than the input. -/
theorem tokens_filled (input : Input) (separator : String) (excluded : List String) :
    Filled (input.tokens separator excluded) ∧
      extentOf (input.tokens separator excluded) ≤ input.extent := by
  cases input with
  | text whole => exact cut_filled separator excluded (.text whole)
  | chain parts =>
    constructor
    · intro token htoken
      obtain ⟨part, -, hpart⟩ := List.mem_flatMap.mp htoken
      exact (cut_filled separator excluded part).1 token hpart
    · simp only [Input.tokens, Input.extent]
      induction parts with
      | nil => exact Nat.le_refl 0
      | cons part parts ih =>
        rw [List.flatMap_cons, extentOf_append, extentOf_cons]
        exact Nat.add_le_add (cut_filled separator excluded part).2 ih

/-- Both parts of a token that is read count for something, and for no more than the token. -/
theorem readToken_filled (own separator : String) {token : Token} (h : 0 < token.extent) :
    let read := Cursor.readToken own separator token
    Filled (read.1 :: read.2) ∧ extentOf (read.1 :: read.2) ≤ token.extent := by
  cases token with
  | unit u => simp [Cursor.readToken, Filled, h]
  | text piece =>
    simp only [Cursor.readToken]
    rcases Cursor.readPiece_cases piece own separator with hwhole | ⟨-, hcut, hhead⟩
    · simpa [hwhole, Filled] using h
    · have hlength := splitOnce_length piece separator
      have hpos : ∀ {part : String}, part ≠ "" → 0 < part.length := by
        intro part hpart
        rw [← String.length_toList]
        exact List.length_pos_iff.mpr fun hnil => hpart (String.toList_inj.mp hnil)
      rw [hcut]
      generalize splitOnce piece separator = cut at hhead hlength
      by_cases hrest : cut.2 = ""
      · simp only [hrest, if_true, Filled, List.mem_singleton, forall_eq, Token.extent, extentOf_cons,
          extentOf_nil] at hlength ⊢
        exact ⟨hpos hhead, by omega⟩
      · simp only [hrest, if_false, Filled, Token.extent, extentOf_cons, extentOf_nil] at hlength ⊢
        refine ⟨fun part hpart => ?_, by omega⟩
        simp only [List.mem_cons, List.not_mem_nil, or_false] at hpart
        rcases hpart with rfl | rfl
        · exact hpos hhead
        · exact hpos hrest

/-- Whether a cursor shows tokens that all count for something. -/
def Cursor.Full (own : String) (c : Cursor) : Prop :=
  ∃ past left, Shows own c past left ∧ Filled (past ++ left)

/-- A cursor starts in front of no more than the input. -/
theorem tokenize_full {input : Input} {separator : String} {excluded : List String}
    {refuse : Bool} {start : Cursor}
    (h : Cursor.tokenize input separator excluded refuse = .ok start) :
    start.Full separator ∧ start.extent ≤ input.extent := by
  have hshows := tokenize_tokens h
  obtain ⟨hfilled, hle⟩ := tokens_filled input separator excluded
  refine ⟨⟨[], _, hshows, hfilled⟩, ?_⟩
  rw [Cursor.extent, hshows.left_eq]
  exact hle

/-- A walk spends one at least for each token that stays read. -/
theorem Walk.spends {separators : List String} {own : String} {start c : Cursor}
    {past : List Token} (h : start.Full own) (walk : Walk separators start past c) :
    c.Full own ∧ past.length + c.extent ≤ start.extent := by
  obtain ⟨before, left, hstart, hfilled⟩ := h
  suffices hrest : ∃ rest, Shows own c (past ++ before) rest ∧ Filled (past ++ before ++ rest) ∧
      extentOf past + extentOf rest ≤ extentOf left by
    obtain ⟨rest, hshows, hfull, hle⟩ := hrest
    refine ⟨⟨_, _, hshows, hfull⟩, ?_⟩
    have hpast : past.length ≤ extentOf past :=
      length_le_extentOf fun token htoken => hfull token (by simp [htoken])
    rw [Cursor.extent, Cursor.extent, hshows.left_eq, hstart.left_eq]
    omega
  induction walk with
  | here => exact ⟨left, hstart, hfilled, by simp⟩
  | @read past c next separator token _ _ fetch ih =>
    obtain ⟨rest, hshows, hfull, hle⟩ := ih
    cases rest with
    | nil => cases (hshows.fetch_nil separator).symm.trans fetch
    | cons first rest =>
      obtain ⟨found, hfetch, hnext⟩ := hshows.fetch separator
      cases hfetch.symm.trans fetch
      obtain ⟨hread, hspent⟩ := readToken_filled own separator (hfull first (by simp))
      refine ⟨_, hnext, fun token htoken => ?_, ?_⟩
      · simp only [List.cons_append, List.mem_cons, List.mem_append, or_assoc] at htoken
        rcases htoken with rfl | hpast | hbefore | hcut | hrest
        · exact hread _ List.mem_cons_self
        · exact hfull token (by simp [hpast])
        · exact hfull token (by simp [hbefore])
        · exact hread token (List.mem_cons_of_mem _ hcut)
        · exact hfull token (by simp [hrest])
      · simp only [extentOf_cons, extentOf_append] at hspent hle ⊢
        omega
  | @back past c token _ ih =>
    obtain ⟨rest, hshows, hfull, hle⟩ := ih
    refine ⟨_, hshows.pushBack, fun other hother => hfull other ?_, ?_⟩
    · simp only [List.cons_append, List.mem_cons, List.mem_append] at hother ⊢
      rcases hother with (hpast | hbefore) | rfl | hrest
      · exact .inr (.inl (.inl hpast))
      · exact .inr (.inl (.inr hbefore))
      · exact .inl rfl
      · exact .inr (.inr hrest)
    · simp only [extentOf_cons] at hle ⊢
      omega

/-- A walk from behind a name spends the name at least. -/
theorem Walk.spends_name {separators : List String} {separator own : String} {c next d : Cursor}
    {name : Token} {past : List Token} (hc : c.Full own) (hlisted : separator ∈ separators)
    (hfetch : c.fetch separator = some (name, next)) (hwalk : Walk separators next past d) :
    d.Full own ∧ d.extent < c.extent := by
  obtain ⟨hfull, hspent⟩ := ((Walk.here.read hlisted hfetch).trans hwalk).spends hc
  rw [List.length_append, List.length_singleton] at hspent
  exact ⟨hfull, by omega⟩

/-- A called option of a nested command spends its name at least. -/
theorem suboption_spends {s : Subcommand} {outer own : String} {keywords : List String}
    {c : Cursor} (hc : c.Full own) {e : Entry}
    (h : s.called? (s.entry.separatorOr outer) c = some e) :
    (e.fill (s.entry.separatorOr outer) keywords c).cursor.Full own ∧
      (e.fill (s.entry.separatorOr outer) keywords c).cursor.extent < c.extent := by
  obtain ⟨name, next, past, hfetch, hlisted, hwalk⟩ := walk_suboption outer keywords h
  exact hwalk.spends_name hc hlisted hfetch

/-- A called option spends its name at least. -/
theorem option_spends {command : Command} {own : String} {keywords : List String} {c : Cursor}
    (hc : c.Full own) {e : Entry} (h : command.called? c = some (.option e)) :
    (e.fill command.separator keywords c).cursor.Full own ∧
      (e.fill command.separator keywords c).cursor.extent < c.extent := by
  obtain ⟨name, next, past, hfetch, hlisted, hwalk⟩ := walk_option keywords h
  exact hwalk.spends_name hc hlisted hfetch

/-- What a called entry does to a cursor: its name is read and never stepped back over, and less
input is left than before. -/
structure Command.Consumes (command : Command) (separator : String) (c d : Cursor) : Prop where
  /-- All that follows is a walk from behind the name. -/
  name : ∃ name next past, c.fetch separator = some (name, next) ∧
    Walk command.separators next past d
  /-- Less input is left. -/
  less : d.extent < c.extent

/-- How a cursor makes progress with a command: with every token that is read, and with everything
that is called. -/
structure Command.Progresses (command : Command) (c : Cursor) : Prop where
  /-- Reading a token lowers the amount of input left. -/
  read : ∀ separator token next, c.fetch separator = some (token, next) →
    next.extent < c.extent
  /-- Stepping back over it leaves no more than there was, though it may be cut now. -/
  back : ∀ separator token next, c.fetch separator = some (token, next) →
    (next.pushBack token).extent ≤ c.extent
  /-- A called option consumes input. -/
  option : ∀ keywords e, command.called? c = some (.option e) →
    command.Consumes (e.separatorOr command.separator) c
      (e.fill command.separator keywords c).cursor
  /-- A called nested command consumes input. -/
  subcommand : ∀ keywords s, command.called? c = some (.subcommand s) →
    command.Consumes (s.entry.separatorOr command.separator) c
      (s.fill command.separator keywords c).cursor
  /-- A called option of a nested command consumes input. -/
  suboption : ∀ keywords, ∀ s ∈ command.config.subcommands, ∀ e,
    s.called? (s.entry.separatorOr command.separator) c = some e →
    command.Consumes (e.separatorOr (s.entry.separatorOr command.separator)) c
      (e.fill (s.entry.separatorOr command.separator) keywords c).cursor

/-- A cursor whose tokens count for something makes progress with any command. -/
theorem Cursor.Full.progresses {own : String} {c : Cursor} (hc : c.Full own) (command : Command) :
    command.Progresses c where
  read separator token next hfetch := by
    have hspent := ((Walk.here.read (List.mem_singleton.mpr rfl) hfetch).spends hc).2
    rw [List.length_singleton] at hspent
    omega
  back separator token next hfetch := by
    have hspent := ((Walk.here.read (List.mem_singleton.mpr rfl) hfetch).back.spends hc).2
    rw [List.length_nil] at hspent
    omega
  option keywords e h := by
    obtain ⟨name, next, past, hfetch, -, hwalk⟩ := walk_option keywords h
    exact ⟨⟨name, next, past, hfetch, hwalk⟩, (option_spends hc h).2⟩
  subcommand keywords s h := by
    obtain ⟨name, next, past, hfetch, hlisted, hwalk⟩ := walk_subcommand keywords h
    exact ⟨⟨name, next, past, hfetch, hwalk⟩, (hwalk.spends_name hc hlisted hfetch).2⟩
  suboption keywords s hs e h := by
    obtain ⟨name, next, past, hfetch, -, hwalk⟩ := walk_suboption command.separator keywords h
    exact ⟨⟨name, next, past, hfetch, hwalk.mono (mem_separators_of_subcommand hs)⟩,
      (suboption_spends hc h).2⟩

/-- The rounds of the loop over the options of a nested command, and what they give. A round fills
a called option. The last iteration, which finds none that is called, is not counted. -/
inductive Subcommand.Rounds (s : Subcommand) (separator : String) (keywords : List String) :
    Cursor → NameMap SlotValues → Nat → OptionFilling → Prop
  /-- No option is called. -/
  | over {c : Cursor} {options : NameMap SlotValues} (idle : s.called? separator c = none) :
      Rounds s separator keywords c options 0 ⟨c, options, none⟩
  /-- A slot of a called option fails. -/
  | failed {c : Cursor} {options : NameMap SlotValues} {e : Entry} {fault : MatchFault}
      (called : s.called? separator c = some e)
      (fails : (e.fill separator keywords c).fault = some fault) :
      Rounds s separator keywords c options 1
        ⟨(e.fill separator keywords c).cursor,
          options.insert e.name (e.fill separator keywords c).values, some fault⟩
  /-- A called option is filled and the loop goes on. -/
  | next {c : Cursor} {options : NameMap SlotValues} {e : Entry} {rounds : Nat}
      {result : OptionFilling} (called : s.called? separator c = some e)
      (fills : (e.fill separator keywords c).fault = none)
      (rest : Rounds s separator keywords (e.fill separator keywords c).cursor
        (options.insert e.name (e.fill separator keywords c).values) rounds result) :
      Rounds s separator keywords c options (rounds + 1) result

/-- The rounds of the loop inside a called nested command, and what the command gives. -/
inductive Subcommand.InnerRounds (s : Subcommand) (outer : String) (keywords : List String)
    (c : Cursor) : Nat → SubcommandFilling → Prop
  /-- A slot of its own fails, so there is no loop. -/
  | failed {fault : MatchFault} (fails : (s.entry.fill outer keywords c).fault = some fault) :
      InnerRounds s outer keywords c 0
        ⟨(s.entry.fill outer keywords c).cursor, ⟨(s.entry.fill outer keywords c).values, .empty⟩,
          some fault⟩
  /-- Its options follow. -/
  | options {rounds : Nat} {result : OptionFilling}
      (fills : (s.entry.fill outer keywords c).fault = none)
      (rest : s.Rounds (s.entry.separatorOr outer) keywords (s.entry.fill outer keywords c).cursor
        .empty rounds result) :
      InnerRounds s outer keywords c rounds
        ⟨result.cursor, ⟨(s.entry.fill outer keywords c).values, result.options⟩, result.fault⟩

/-- The rounds of the loop over options and nested commands, those of the loops inside the nested
commands included, and what they give. The last iteration of a loop, which finds nothing that is
called, is not counted. -/
inductive Command.Rounds (command : Command) (keywords : List String) :
    Cursor → NameMap SlotValues → NameMap SubcommandValues → Nat → MemberFilling → Prop
  /-- Nothing is called. -/
  | over {c : Cursor} {options : NameMap SlotValues} {subcommands : NameMap SubcommandValues}
      (idle : command.called? c = none) :
      Rounds command keywords c options subcommands 0 ⟨c, options, subcommands, none⟩
  /-- A slot of a called option fails. -/
  | optionFailed {c : Cursor} {options : NameMap SlotValues}
      {subcommands : NameMap SubcommandValues} {e : Entry} {fault : MatchFault}
      (called : command.called? c = some (.option e))
      (fails : (e.fill command.separator keywords c).fault = some fault) :
      Rounds command keywords c options subcommands 1
        ⟨(e.fill command.separator keywords c).cursor,
          options.insert e.name (e.fill command.separator keywords c).values, subcommands,
          some fault⟩
  /-- A called option is filled and the loop goes on. -/
  | option {c : Cursor} {options : NameMap SlotValues} {subcommands : NameMap SubcommandValues}
      {e : Entry} {rounds : Nat} {result : MemberFilling}
      (called : command.called? c = some (.option e))
      (fills : (e.fill command.separator keywords c).fault = none)
      (rest : Rounds command keywords (e.fill command.separator keywords c).cursor
        (options.insert e.name (e.fill command.separator keywords c).values) subcommands rounds
        result) :
      Rounds command keywords c options subcommands (rounds + 1) result
  /-- A slot of a called nested command or of one of its options fails. -/
  | subcommandFailed {c : Cursor} {options : NameMap SlotValues}
      {subcommands : NameMap SubcommandValues} {s : Subcommand} {inner : Nat}
      {filling : SubcommandFilling} {fault : MatchFault}
      (called : command.called? c = some (.subcommand s))
      (loop : s.InnerRounds command.separator keywords c inner filling)
      (fails : filling.fault = some fault) :
      Rounds command keywords c options subcommands (inner + 1)
        ⟨filling.cursor, options, subcommands.insert s.name filling.values, some fault⟩
  /-- A called nested command is filled and the loop goes on. -/
  | subcommand {c : Cursor} {options : NameMap SlotValues}
      {subcommands : NameMap SubcommandValues} {s : Subcommand} {inner rounds : Nat}
      {filling : SubcommandFilling} {result : MemberFilling}
      (called : command.called? c = some (.subcommand s))
      (loop : s.InnerRounds command.separator keywords c inner filling)
      (fills : filling.fault = none)
      (rest : Rounds command keywords filling.cursor options
        (subcommands.insert s.name filling.values) rounds result) :
      Rounds command keywords c options subcommands (inner + 1 + rounds) result

section Rounds

variable {own : String} {keywords : List String} {c : Cursor}

/-- The loop over the options of a nested command has no more rounds than it spends input. -/
theorem fillOptions_rounds (s : Subcommand) (outer : String) (hc : c.Full own)
    (options : NameMap SlotValues) :
    let result := s.fillOptions (s.entry.separatorOr outer) keywords c options
    ∃ rounds, s.Rounds (s.entry.separatorOr outer) keywords c options rounds result ∧
      result.cursor.Full own ∧ rounds + result.cursor.extent ≤ c.extent := by
  dsimp only
  fun_induction Subcommand.fillOptions s (s.entry.separatorOr outer) keywords c options with
  | case1 c options h => exact ⟨0, .over h, hc, by simp⟩
  | case2 c options e h filling inserted fault hfault =>
    obtain ⟨hfull, hless⟩ := suboption_spends hc h
    exact ⟨1, .failed h hfault, hfull, by rw [Nat.add_comm]; exact hless⟩
  | case3 c options e h filling inserted hfault ih =>
    obtain ⟨hfull, hless⟩ := suboption_spends hc h
    obtain ⟨rounds, hrounds, hlast, hle⟩ := ih hfull
    refine ⟨rounds + 1, .next h hfault hrounds, hlast, ?_⟩
    rw [Nat.add_right_comm]
    exact Nat.lt_of_le_of_lt hle hless

/-- A called nested command spends its name besides the rounds of its loop. -/
theorem subcommand_fill_rounds (s : Subcommand) (outer : String) (hc : c.Full own) {seen : String}
    {token : Token} (h : c.peek seen = some token) :
    let result := s.fill outer keywords c
    ∃ rounds, s.InnerRounds outer keywords c rounds result ∧
      result.cursor.Full own ∧ rounds + result.cursor.extent < c.extent := by
  have hlisted : s.entry.separatorOr outer ∈ [s.entry.separatorOr outer] := List.mem_cons_self
  obtain ⟨name, next, past, hfetch, hwalk⟩ := walk_entry_fill s.entry hlisted keywords h
  obtain ⟨hfull, hless⟩ := hwalk.spends_name hc hlisted hfetch
  unfold Subcommand.fill
  dsimp only
  split
  · rename_i hfault
    exact ⟨0, .failed hfault, hfull, by rwa [Nat.zero_add]⟩
  · rename_i hfault
    obtain ⟨rounds, hrounds, hlast, hle⟩ := fillOptions_rounds s outer hfull .empty
    exact ⟨rounds, .options hfault hrounds, hlast, Nat.lt_of_le_of_lt hle hless⟩

/-- The loop over options and nested commands has no more rounds than it spends input. -/
theorem fillMembers_rounds (command : Command) (hc : c.Full own) (options : NameMap SlotValues)
    (subcommands : NameMap SubcommandValues) :
    let result := command.fillMembers keywords c options subcommands
    ∃ rounds, command.Rounds keywords c options subcommands rounds result ∧
      rounds + result.cursor.extent ≤ c.extent := by
  dsimp only
  fun_induction Command.fillMembers command keywords c options subcommands with
  | case1 c options subcommands h => exact ⟨0, .over h, by simp⟩
  | case2 c options subcommands e h filling inserted fault hfault =>
    obtain ⟨-, hless⟩ := option_spends hc h
    exact ⟨1, .optionFailed h hfault, by rw [Nat.add_comm]; exact hless⟩
  | case3 c options subcommands e h filling inserted hfault ih =>
    obtain ⟨hfull, hless⟩ := option_spends hc h
    obtain ⟨rounds, hrounds, hle⟩ := ih hfull
    refine ⟨rounds + 1, .option h hfault hrounds, ?_⟩
    rw [Nat.add_right_comm]
    exact Nat.lt_of_le_of_lt hle hless
  | case4 c options subcommands s h filling inserted fault hfault =>
    obtain ⟨-, text, hpeek, -⟩ := member_of_called h
    obtain ⟨inner, hinner, -, hless⟩ := subcommand_fill_rounds s command.separator hc hpeek
    refine ⟨inner + 1, .subcommandFailed h hinner hfault, ?_⟩
    rw [Nat.add_right_comm]
    exact hless
  | case5 c options subcommands s h filling inserted hfault ih =>
    obtain ⟨-, text, hpeek, -⟩ := member_of_called h
    obtain ⟨inner, hinner, hfull, hless⟩ := subcommand_fill_rounds s command.separator hc hpeek
    obtain ⟨rounds, hrounds, hle⟩ := ih hfull
    refine ⟨inner + 1 + rounds, .subcommand h hinner hfault hrounds, ?_⟩
    have hspent : inner + filling.cursor.extent < c.extent := hless
    omega

end Rounds

end CommandGrammar
