import CommandGrammar.Matching.Analysis
import CommandGrammar.Proofs.PlainTexts
import CommandGrammar.Proofs.TokenSequence

/-!
# Sentences of a command

A sentence says how tokens are meant: those of the header, one for each slot after it, and then
calls of options and of nested commands, each with one token for each of its slots. A nested
command goes on with calls of its own options as long as there are any.

`analyse_sentence` says that the tokens of a sentence are matched as they are meant, and that
nothing is left of them. Each reader is shown to take the tokens of its part, whatever follows
them; a loop is left at the first name that calls nothing it knows.
-/

namespace CommandGrammar

open Cursor (Shows)

/-- A token that stands for a slot, and the value it gives. -/
structure Argument where
  /-- The slot. -/
  slot : Slot
  /-- The token. -/
  token : Token
  /-- The value. -/
  value : Value

/-- Whether a slot for one token accepts the token, which is no keyword, with the value. -/
structure Argument.Fits (keywords : List String) (a : Argument) : Prop where
  /-- The strategy of the slot gives the value. -/
  accepted : a.slot.strategy.accept? a.token = some a.value
  /-- The token is no keyword. -/
  free : ∀ text, a.token = .text text → text ∉ keywords

/-- Whether there is a fitting argument for each slot of a list, in order. -/
structure FitSlots (keywords : List String) (l : SlotList) (args : List Argument) : Prop where
  /-- The arguments are for the slots of the list. -/
  slots : args.map Argument.slot = l.slots
  /-- Every argument fits. -/
  fits : ∀ a ∈ args, a.Fits keywords

/-- The values of arguments by the names of their slots. -/
def argumentValues (args : List Argument) : SlotValues :=
  .ofList (args.map fun a => (a.slot.name, a.value))

/-- A call of an option. -/
structure OptionCall where
  /-- The name it is called by. -/
  name : String
  /-- The option. -/
  option : Entry
  /-- What stands for its slots. -/
  args : List Argument

namespace OptionCall

/-- The tokens of a call. -/
def tokens (call : OptionCall) : List Token := .text call.name :: call.args.map Argument.token

/-- Whether a call is one of an option in a list, by one of its names. -/
structure Fits (keywords : List String) (options : List Entry) (call : OptionCall) : Prop where
  /-- The option is in the list. -/
  listed : call.option ∈ options
  /-- The name is one of the option. -/
  named : call.name ∈ call.option.aliases
  /-- The arguments are those of the option. -/
  args : FitSlots keywords call.option.args call.args

/-- The values of a call under the name the option is known by. -/
def entry (call : OptionCall) : String × SlotValues :=
  (call.option.name, argumentValues call.args)

end OptionCall

/-- A call of a nested command. -/
structure SubcommandCall where
  /-- The name it is called by. -/
  name : String
  /-- The nested command. -/
  subcommand : Subcommand
  /-- What stands for its own slots. -/
  args : List Argument
  /-- The calls of its options. -/
  options : List OptionCall

namespace SubcommandCall

/-- The tokens of a call. -/
def tokens (call : SubcommandCall) : List Token :=
  .text call.name :: (call.args.map Argument.token ++ call.options.flatMap OptionCall.tokens)

/-- Whether a call is one of a nested command in a list, by one of its names. -/
structure Fits (keywords : List String) (subcommands : List Subcommand) (call : SubcommandCall) :
    Prop where
  /-- The nested command is in the list. -/
  listed : call.subcommand ∈ subcommands
  /-- The name is one of the nested command. -/
  named : call.name ∈ call.subcommand.entry.aliases
  /-- The arguments are those of the nested command. -/
  args : FitSlots keywords call.subcommand.entry.args call.args
  /-- The further calls are calls of its options. -/
  options : ∀ option ∈ call.options, option.Fits keywords call.subcommand.options

/-- The values of a call under the name the nested command is known by. Of several calls of one
option the last stays. -/
def entry (call : SubcommandCall) : String × SubcommandValues :=
  (call.subcommand.name,
    ⟨argumentValues call.args, .ofList (call.options.map OptionCall.entry)⟩)

end SubcommandCall

/-- A call of an option or of a nested command. -/
inductive Block where
  /-- A call of an option. -/
  | option (call : OptionCall)
  /-- A call of a nested command. -/
  | subcommand (call : SubcommandCall)

namespace Block

/-- The name that opens a block. -/
def name : Block → String
  | option call => call.name
  | subcommand call => call.name

/-- The tokens of a block. -/
def tokens : Block → List Token
  | option call => call.tokens
  | subcommand call => call.tokens

/-- Whether a block is a call of an option or nested command of a command. -/
def Fits (command : Command) : Block → Prop
  | option call => call.Fits command.keywords command.config.options
  | subcommand call => call.Fits command.keywords command.config.subcommands

/-- Whether a name behind a block opens the next one. Behind a nested command it would call an
option of that if it could. -/
def EndsBefore (next : String) : Block → Prop
  | option _ => True
  | subcommand call => next ∉ call.subcommand.options.flatMap Entry.aliases

/-- The values of an option call. -/
def optionEntry? : Block → Option (String × SlotValues)
  | option call => some call.entry
  | subcommand _ => none

/-- The values of a call of a nested command. -/
def subcommandEntry? : Block → Option (String × SubcommandValues)
  | option _ => none
  | subcommand call => some call.entry

end Block

/-- Whether each of several blocks ends before the name of the next. -/
def Blocks.Apart : List Block → Prop
  | [] => True
  | [_] => True
  | block :: next :: rest => block.EndsBefore next.name ∧ Blocks.Apart (next :: rest)

/-- The value that a header gives to the tokens it accepts. -/
def Header.accept? (h : Header) : List Token → Option Value
  | [name] => if h.isLed then none else name.asText?.bind h.capture?
  | [lead, name] => if h.isLed && h.isLead lead then name.asText?.bind h.capture? else none
  | _ => none

/-- Tokens, and what they are meant to be. -/
structure Sentence where
  /-- The tokens of the header. -/
  header : List Token
  /-- The value of the header. -/
  headerValue : Value
  /-- What stands for the slots after the header. -/
  args : List Argument
  /-- The calls after that. -/
  blocks : List Block

namespace Sentence

/-- The tokens of a sentence. -/
def tokens (s : Sentence) : List Token :=
  s.header ++ (s.args.map Argument.token ++ s.blocks.flatMap Block.tokens)

/-- Whether a sentence is one of a command. -/
structure Fits (command : Command) (s : Sentence) : Prop where
  /-- The header accepts its tokens. -/
  header : command.header.accept? s.header = some s.headerValue
  /-- The arguments are those of the command. -/
  args : FitSlots command.keywords command.config.args s.args
  /-- The blocks are calls of its options and nested commands. -/
  blocks : ∀ block ∈ s.blocks, block.Fits command
  /-- No block would go on into the next. -/
  apart : Blocks.Apart s.blocks

/-- What a sentence means. Of several calls of one option or nested command the last stays. -/
def result (s : Sentence) : MatchResult where
  matched := true
  header := s.headerValue
  mainArgs := argumentValues s.args
  options := .ofList (s.blocks.filterMap Block.optionEntry?)
  subcommands := .ofList (s.blocks.filterMap Block.subcommandEntry?)
  remainder := []
  error? := none

end Sentence

/-- Whether a token stays as it is when the input is read: a text is a single piece that does not
start blank, a unit is of no excluded kind. -/
def Token.StaysWhole (command : Command) : Token → Prop
  | text t => PlainPiece command.separator t ∧ startsBlank t = false
  | unit u => u.kind ∉ command.config.excluded

/-- Whether a token stays as it is can be decided. -/
instance (command : Command) : (token : Token) → Decidable (token.StaysWhole command)
  | .text _ => inferInstanceAs (Decidable (_ ∧ _))
  | .unit _ => inferInstanceAs (Decidable (_ ∉ _))

/-- Whether no option and no nested command has a separator of its own. -/
structure Command.OneSeparator (command : Command) : Prop where
  /-- The options have none. -/
  options : ∀ e ∈ command.config.options, e.separator = none
  /-- The nested commands have none. -/
  subcommands : ∀ s ∈ command.config.subcommands, s.entry.separator = none
  /-- Their options have none. -/
  suboptions : ∀ s ∈ command.config.subcommands, ∀ e ∈ s.options, e.separator = none

/-- A slot takes an argument that fits. -/
theorem fill_argument {a : Argument} {ctx : SlotContext} (ha : a.Fits ctx.keywords) {c : Cursor}
    {past left : List Token} (h : Shows ctx.separator c past (a.token :: left)) :
    ∃ next, a.slot.fill ctx c = (next, .filled a.value) ∧
      Shows ctx.separator next (a.token :: past) left := by
  obtain ⟨next, hfetch, hnext, -⟩ := h.fetch_self
  have haccepted := ha.accepted
  have hfree : ctx.isKeyword a.token = false := by
    unfold SlotContext.isKeyword
    cases htoken : a.token with
    | unit u => rfl
    | text text => simpa [Token.asText?] using ha.free text htoken
  have hone : a.slot.fill ctx c = a.slot.fillOne ctx c := by
    unfold Slot.fill
    split
    · rename_i run hrun
      rw [hrun] at haccepted
      cases haccepted
    · rename_i hall
      rw [hall] at haccepted
      cases haccepted
    · rfl
  refine ⟨next, ?_, hnext⟩
  rw [hone, Slot.fillOne_cases, hfetch]
  simp only [hfree, Bool.false_eq_true, if_false, haccepted]

/-- Slots in order take arguments that fit. -/
theorem fillFrom_arguments {separator : String} {keywords : List String} {args : List Argument}
    (hargs : ∀ a ∈ args, a.Fits keywords) {c : Cursor} {past left : List Token}
    (h : Shows separator c past (args.map Argument.token ++ left)) (values : SlotValues) :
    ∃ next past', SlotList.fillFrom separator keywords (args.map Argument.slot) c values =
        ⟨next, args.foldl (fun m a => m.insert a.slot.name a.value) values, none⟩ ∧
      Shows separator next past' left := by
  induction args generalizing c past values with
  | nil => exact ⟨c, past, rfl, h⟩
  | cons a rest ih =>
    obtain ⟨next, hfill, hnext⟩ := @fill_argument a
      ⟨separator, keywords, (rest.map Argument.slot).countP Slot.isRequired⟩
      (hargs a List.mem_cons_self) _ _ _ h
    obtain ⟨last, past', hrest, hlast⟩ :=
      ih (fun b hb => hargs b (List.mem_cons_of_mem _ hb)) hnext (values.insert a.slot.name a.value)
    refine ⟨last, past', ?_, hlast⟩
    rw [List.map_cons, SlotList.fillFrom_cons, hfill]
    exact hrest

/-- A list of slots takes arguments that fit. -/
theorem fill_arguments {separator : String} {keywords : List String} {l : SlotList}
    {args : List Argument} (hargs : FitSlots keywords l args) {c : Cursor}
    {past left : List Token} (h : Shows separator c past (args.map Argument.token ++ left)) :
    ∃ next past', l.fill separator keywords c = ⟨next, argumentValues args, none⟩ ∧
      Shows separator next past' left := by
  have hvalues : argumentValues args =
      args.foldl (fun m a => m.insert a.slot.name a.value) .empty := by
    rw [argumentValues, NameMap.ofList, List.foldl_map]
  unfold SlotList.fill
  split
  · -- Without input there is no argument, hence no slot and no default.
    rename_i hshort
    rw [Bool.and_eq_true, h.isExhausted, List.isEmpty_iff, List.append_eq_nil_iff,
      List.map_eq_nil_iff] at hshort
    obtain ⟨-, rfl, rfl⟩ := hshort
    have hslots : l.slots = [] := hargs.slots.symm
    refine ⟨c, past, ?_, h⟩
    rw [SlotList.defaults, hslots]
    rfl
  · rw [← hargs.slots, hvalues]
    exact fillFrom_arguments hargs.fits h .empty

/-- An entry takes its name and the arguments that fit. -/
theorem entry_fill_arguments {outer : String} {keywords : List String} {e : Entry}
    (hseparator : e.separator = none) {name : String} {args : List Argument}
    (hargs : FitSlots keywords e.args args) {c : Cursor} {past left : List Token}
    (h : Shows outer c past (.text name :: (args.map Argument.token ++ left))) :
    ∃ next past', e.fill outer keywords c = ⟨next, argumentValues args, none⟩ ∧
      Shows outer next past' left := by
  have houter : e.separatorOr outer = outer := by rw [Entry.separatorOr, hseparator]; rfl
  obtain ⟨next, hfetch, hnext, -⟩ := h.fetch_self
  rw [Entry.fill, Entry.stepOverName, houter, hfetch]
  exact fill_arguments hargs hnext

/-- The option that the name in front calls. -/
theorem suboption_called {s : Subcommand} {separator : String} {c : Cursor} {past left : List Token}
    {name : String} (h : Shows separator c past (.text name :: left)) {e : Entry}
    (he : e ∈ s.options) (hname : name ∈ e.aliases) : s.called? separator c = some e := by
  rw [Subcommand.called?, h.peek]
  simp only [List.head?_cons, Option.map_some, Cursor.readToken_self, Option.bind_some,
    Token.asText?]
  exact @callee?_of_alias _ id s.options s.distinct e he name hname

/-- No option is called where a name stands in front that none answers to, or nothing. -/
theorem suboption_not_called {s : Subcommand} (hseparator : ∀ e ∈ s.options, e.separator = none)
    {separator : String} {c : Cursor} {past left : List Token} (h : Shows separator c past left)
    (hleft : ∀ token, left.head? = some token →
      ∃ name, token = .text name ∧ name ∉ s.options.flatMap Entry.aliases) :
    s.called? separator c = none := by
  rw [Subcommand.called?, h.peek]
  cases left with
  | nil => rfl
  | cons token left =>
    obtain ⟨name, rfl, hname⟩ := hleft token rfl
    simp only [List.head?_cons, Option.map_some, Cursor.readToken_self, Option.bind_some,
      Token.asText?]
    exact @callee?_eq_none _ id s.options name hseparator hname

/-- The loop over the options of a nested command takes the calls of them. -/
theorem fillOptions_calls {s : Subcommand} (hseparator : ∀ e ∈ s.options, e.separator = none)
    {separator : String} {keywords : List String} {calls : List OptionCall}
    (hcalls : ∀ call ∈ calls, call.Fits keywords s.options) {c : Cursor} {past left : List Token}
    (h : Shows separator c past (calls.flatMap OptionCall.tokens ++ left))
    (hleft : ∀ token, left.head? = some token →
      ∃ name, token = .text name ∧ name ∉ s.options.flatMap Entry.aliases)
    (options : NameMap SlotValues) :
    ∃ next past', s.fillOptions separator keywords c options =
        ⟨next, (calls.map OptionCall.entry).foldl (fun m e => m.insert e.1 e.2) options, none⟩ ∧
      Shows separator next past' left := by
  induction calls generalizing c past options with
  | nil =>
    refine ⟨c, past, ?_, h⟩
    exact fillOptions_end (suboption_not_called hseparator h hleft) keywords options
  | cons call rest ih =>
    have hcall := hcalls call List.mem_cons_self
    rw [List.flatMap_cons, List.append_assoc, OptionCall.tokens, List.cons_append] at h
    obtain ⟨next, past', hfill, hnext⟩ :=
      entry_fill_arguments (hseparator _ hcall.listed) hcall.args h
    obtain ⟨last, past'', hrest, hlast⟩ := ih (fun d hd => hcalls d (List.mem_cons_of_mem _ hd))
      hnext (options.insert call.option.name (argumentValues call.args))
    refine ⟨last, past'', ?_, hlast⟩
    rw [fillOptions_called (suboption_called h hcall.listed hcall.named), hfill]
    exact hrest

/-- A nested command takes its name, the arguments that fit and the calls of its options. -/
theorem subcommand_fill_call {command : Command} (hone : command.OneSeparator)
    {call : SubcommandCall} (hcall : call.Fits command.keywords command.config.subcommands)
    {c : Cursor} {past left : List Token}
    (h : Shows command.separator c past (call.tokens ++ left))
    (hleft : ∀ token, left.head? = some token → ∃ name, token = .text name ∧
      name ∉ call.subcommand.options.flatMap Entry.aliases) :
    ∃ next past', call.subcommand.fill command.separator command.keywords c =
        ⟨next, call.entry.2, none⟩ ∧ Shows command.separator next past' left := by
  have hseparator := hone.subcommands _ hcall.listed
  have houter : call.subcommand.entry.separatorOr command.separator = command.separator := by
    rw [Entry.separatorOr, hseparator]; rfl
  rw [SubcommandCall.tokens, List.cons_append, List.append_assoc] at h
  obtain ⟨next, past', hfill, hnext⟩ := entry_fill_arguments hseparator hcall.args h
  obtain ⟨last, past'', hoptions, hlast⟩ :=
    fillOptions_calls (hone.suboptions _ hcall.listed) hcall.options hnext hleft .empty
  refine ⟨last, past'', ?_, hlast⟩
  rw [Subcommand.fill, hfill]
  dsimp only
  rw [houter, hoptions]
  rfl

/-- The option or nested command that the name in front calls. -/
theorem member_called {command : Command} {c : Cursor} {past left : List Token} {name : String}
    (h : Shows command.separator c past (.text name :: left)) {member : Member}
    (hmember : member ∈ command.config.members) (hname : name ∈ member.entry.aliases) :
    command.called? c = some member := by
  rw [Command.called?, h.peek]
  simp only [List.head?_cons, Option.map_some, Cursor.readToken_self, Option.bind_some,
    Token.asText?]
  exact callee?_of_alias command.distinct hmember hname

/-- The loop over options and nested commands takes all blocks. -/
theorem fillMembers_blocks {command : Command} (hone : command.OneSeparator) {blocks : List Block}
    (hblocks : ∀ block ∈ blocks, block.Fits command) (hapart : Blocks.Apart blocks) {c : Cursor}
    {past : List Token} (h : Shows command.separator c past (blocks.flatMap Block.tokens))
    (options : NameMap SlotValues) (subcommands : NameMap SubcommandValues) :
    ∃ next past', command.fillMembers command.keywords c options subcommands =
        ⟨next, (blocks.filterMap Block.optionEntry?).foldl (fun m e => m.insert e.1 e.2) options,
          (blocks.filterMap Block.subcommandEntry?).foldl (fun m e => m.insert e.1 e.2) subcommands,
          none⟩ ∧
      Shows command.separator next past' [] := by
  induction blocks generalizing c past options subcommands with
  | nil =>
    refine ⟨c, past, ?_, h⟩
    exact fillMembers_end (by rw [Command.called?, h.peek]; rfl) _ _ _
  | cons block rest ih =>
    have hlater : ∀ b ∈ rest, b.Fits command := fun b hb => hblocks b (List.mem_cons_of_mem _ hb)
    have hlaterApart : Blocks.Apart rest := by
      cases rest with
      | nil => trivial
      | cons next rest => exact hapart.2
    have hblock := hblocks block List.mem_cons_self
    rw [List.flatMap_cons] at h
    cases block with
    | option call =>
      obtain ⟨hlisted, hnamed, hargs⟩ := hblock
      rw [Block.tokens, OptionCall.tokens, List.cons_append] at h
      have hcalled : command.called? c = some (.option call.option) :=
        member_called h (by simp [CommandConfig.members, hlisted]) hnamed
      obtain ⟨next, past', hfill, hnext⟩ :=
        entry_fill_arguments (hone.options _ hlisted) hargs h
      obtain ⟨last, past'', hmembers, hlast⟩ :=
        ih hlater hlaterApart hnext
          (options.insert call.option.name (argumentValues call.args)) subcommands
      refine ⟨last, past'', ?_, hlast⟩
      rw [fillMembers_option hcalled, hfill]
      exact hmembers
    | subcommand call =>
      have hleft : ∀ token, (rest.flatMap Block.tokens).head? = some token →
          ∃ name, token = .text name ∧ name ∉ call.subcommand.options.flatMap Entry.aliases := by
        cases rest with
        | nil =>
          intro token htoken
          cases htoken
        | cons next rest =>
          intro token htoken
          refine ⟨next.name, ?_, hapart.1⟩
          cases next <;> exact (Option.some.inj htoken).symm
      rw [Block.tokens] at h
      have hcalled : command.called? c = some (.subcommand call.subcommand) :=
        member_called h (by simp [CommandConfig.members, hblock.listed]) hblock.named
      obtain ⟨next, past', hfill, hnext⟩ := subcommand_fill_call hone hblock h hleft
      obtain ⟨last, past'', hmembers, hlast⟩ :=
        ih hlater hlaterApart hnext options (subcommands.insert call.entry.1 call.entry.2)
      refine ⟨last, past'', ?_, hlast⟩
      rw [fillMembers_subcommand hcalled, hfill]
      exact hmembers

/-- The header takes the tokens it accepts. -/
theorem read_header {h : Header} {tokens : List Token} {value : Value}
    (hvalue : h.accept? tokens = some value) {separator : String} {c : Cursor}
    {past left : List Token} (hshows : Shows separator c past (tokens ++ left)) :
    ∃ next past', h.read separator c = .ok (value, next) ∧ Shows separator next past' left := by
  unfold Header.accept? at hvalue
  split at hvalue
  · rename_i name
    split at hvalue
    · cases hvalue
    · rename_i hled
      obtain ⟨next, hfetch, hnext, -⟩ := hshows.fetch_self
      refine ⟨next, _, ?_, hnext⟩
      rw [Header.read, hfetch]
      simp only [hled, Bool.false_eq_true, if_false, hvalue]
  · rename_i lead name
    split at hvalue
    · rename_i hlead
      obtain ⟨hled, hlead⟩ := Bool.and_eq_true_iff.mp hlead
      obtain ⟨next, hfetch, hnext, -⟩ := hshows.fetch_self
      obtain ⟨last, hname, hlast, -⟩ := hnext.fetch_self
      refine ⟨last, _, ?_, hlast⟩
      rw [Header.read, hfetch]
      simp only [hled, hlead, if_true, hname, hvalue]
    · cases hvalue
  · cases hvalue

/-- Tokens that stay whole are the tokens that are read. -/
theorem chainSegments_whole {command : Command} {tokens : List Token}
    (h : ∀ token ∈ tokens, token.StaysWhole command) (refuse : Bool) :
    ∃ segments, Cursor.chainSegments command.separator command.config.excluded refuse tokens =
        .ok segments ∧ segments.flatMap Segment.tokens = tokens := by
  induction tokens with
  | nil => exact ⟨[], rfl, rfl⟩
  | cons token rest ih =>
    obtain ⟨others, hothers, htokens⟩ := ih fun t ht => h t (List.mem_cons_of_mem _ ht)
    have hwhole := h token List.mem_cons_self
    cases token with
    | unit u =>
      refine ⟨.unit u :: others, ?_, by rw [List.flatMap_cons, htokens]; rfl⟩
      rw [Cursor.chainSegments, if_neg (fun hmem => hwhole (List.contains_iff_mem.mp hmem)), hothers]
      rfl
    | text text =>
      obtain ⟨hpiece, hblank⟩ := hwhole
      refine ⟨(Cursor.textSegment? text command.separator).toList ++ others, ?_, ?_⟩
      · rw [Cursor.chainSegments, hothers]
        rfl
      · rw [List.flatMap_append, Cursor.textSegment?_tokens, trimFront_eq_self hblank,
          split_piece hpiece, htokens]
        rfl

/-- A cursor starts in front of tokens that stay whole. -/
theorem tokenize_whole {command : Command} {tokens : List Token} (hne : tokens ≠ [])
    (h : ∀ token ∈ tokens, token.StaysWhole command) (refuse : Bool) :
    ∃ c, Cursor.tokenize (.chain tokens) command.separator command.config.excluded refuse = .ok c ∧
      Shows command.separator c [] tokens := by
  obtain ⟨segments, hsegments, htokens⟩ := chainSegments_whole h refuse
  have hinput : Cursor.inputSegments command.separator command.config.excluded refuse
      (.chain tokens) = .ok segments := hsegments
  have hsome : segments.isEmpty = false := by
    cases segments with
    | nil => exact absurd htokens.symm hne
    | cons s rest => rfl
  have htokenize : Cursor.tokenize (.chain tokens) command.separator command.config.excluded
      refuse = .ok (.ofSegments segments) := by
    rw [Cursor.tokenize, hinput]
    simp only [hsome, Bool.false_eq_true, if_false]
  obtain ⟨found, hfound, hshows⟩ := Cursor.tokenize_shows htokenize
  cases hinput.symm.trans hfound
  exact ⟨_, htokenize, htokens ▸ hshows⟩

/-- At the end nothing is left. -/
theorem rest_eq_nil {own : String} {c : Cursor} {past : List Token} (h : Shows own c past []) :
    c.rest = [] := by
  rcases h.cases with ⟨hsegment, -⟩ | ⟨_, _, _, -, -, hleft⟩ | ⟨_, _, _, _, _, -, -, hleft⟩
  · simp [Cursor.rest, Cursor.ahead, hsegment]
  · cases hleft
  · cases hleft

/-- The tokens of a sentence are matched as they are meant, and nothing is left of them. This
covers required slots as well as those that have a default or may stay empty. -/
theorem analyse_sentence {command : Command} (hone : command.OneSeparator) {s : Sentence}
    (hfits : s.Fits command) (hwhole : ∀ token ∈ s.tokens, token.StaysWhole command) :
    command.analyse (.chain s.tokens) = .ok s.result ∧ s.result.matched = true ∧
      s.result.remainder = [] := by
  refine ⟨?_, rfl, rfl⟩
  have hne : s.tokens ≠ [] := by
    intro hnil
    have hheader : s.header = [] := (List.append_eq_nil_iff.mp hnil).1
    have haccept := hfits.header
    rw [hheader] at haccept
    cases haccept
  obtain ⟨c, htokenize, hstart⟩ := tokenize_whole hne hwhole command.config.raises
  obtain ⟨body, _, hread, hbody⟩ := read_header hfits.header hstart
  obtain ⟨main, _, hmain, hafter⟩ := fill_arguments hfits.args hbody
  obtain ⟨last, past, hmembers, hlast⟩ :=
    fillMembers_blocks hone hfits.blocks hfits.apart hafter .empty .empty
  have hrest : last.rest = [] := rest_eq_nil hlast
  have hrun : command.run (.chain s.tokens) = s.result := by
    rw [Command.run, htokenize]
    dsimp only
    rw [Command.runTokens, hread]
    dsimp only
    rw [Command.runBody, hmain]
    dsimp only
    rw [hmembers, hrest]
    rfl
  rw [Command.analyse, hrun]
  rfl

/-- A slot for a name in small letters. -/
def nameSlot : Slot :=
  ⟨"for", .pattern ((Pattern.make? "[a-z]+" .direct none).get (by decide +kernel)), none, false⟩

/-- A slot for any token. -/
def itemSlot : Slot := ⟨"item", .any, none, false⟩

/-- An option that takes a name. -/
def giftOption : Entry where
  name := "--gift"
  others := ["-g"]
  args := ⟨[nameSlot], by decide, by decide⟩
  separator := none
  help := ""
  named := by decide
  distinct := by decide
  separates := by decide

/-- An option without arguments. -/
def laterOption : Entry where
  name := "--later"
  others := []
  args := .empty
  separator := none
  help := ""
  named := by decide
  distinct := by decide
  separates := by decide

/-- A nested command with an option of its own. -/
def payCommand : Subcommand where
  entry := { laterOption with name := "pay", named := by decide, distinct := by decide }
  options := [laterOption]
  distinct := by decide

/-- A command with an argument, an option and a nested command. -/
def orderCommand : Command :=
  (Command.ofConfig { CommandConfig.ofName "order" with
    args := ⟨[itemSlot], by decide, by decide⟩
    options := [giftOption]
    subcommands := [payCommand] }).toOption.get (by decide +kernel)

/-- An order of a unit, paid later, for the second of two names. -/
def orderSentence : Sentence where
  header := [.text "order"]
  headerValue := .bool true
  args := [⟨itemSlot, .unit ⟨"isbn", .null⟩, .unit ⟨"isbn", .null⟩⟩]
  blocks :=
    [.option ⟨"-g", giftOption, [⟨nameSlot, .text "anna", .string "anna"⟩]⟩,
      .subcommand ⟨"pay", payCommand, [], [⟨"--later", laterOption, []⟩]⟩,
      .option ⟨"--gift", giftOption, [⟨nameSlot, .text "bert", .string "bert"⟩]⟩]

/-- The order is matched as it is meant. -/
theorem analyse_sentence_order :
    orderCommand.OneSeparator ∧ orderSentence.Fits orderCommand ∧
      (∀ token ∈ orderSentence.tokens, token.StaysWhole orderCommand) ∧
      orderCommand.analyse (.chain orderSentence.tokens) = .ok orderSentence.result ∧
      orderSentence.result.matched = true ∧ orderSentence.result.remainder = [] := by
  have hone : orderCommand.OneSeparator := by
    constructor
    · intro e he
      cases List.mem_singleton.mp he
      rfl
    · intro s hs
      cases List.mem_singleton.mp hs
      rfl
    · intro s hs e he
      cases List.mem_singleton.mp hs
      cases List.mem_singleton.mp he
      rfl
  have hgift : ∀ text ∈ ["anna", "bert"], FitSlots orderCommand.keywords giftOption.args
      [⟨nameSlot, .text text, .string text⟩] := by
    intro text htext
    refine ⟨rfl, fun a ha => ?_⟩
    cases List.mem_singleton.mp ha
    simp only [List.mem_cons, List.not_mem_nil, or_false] at htext
    rcases htext with rfl | rfl
    · exact ⟨by rfl, fun text h => by cases h; decide +kernel⟩
    · exact ⟨by rfl, fun text h => by cases h; decide +kernel⟩
  have hfits : orderSentence.Fits orderCommand := by
    refine ⟨by rfl, ⟨by rfl, fun a ha => ?_⟩, fun block hblock => ?_, ?_⟩
    · cases List.mem_singleton.mp ha
      exact ⟨rfl, fun text h => by cases h⟩
    · simp only [orderSentence, List.mem_cons, List.not_mem_nil, or_false] at hblock
      rcases hblock with rfl | rfl | rfl
      · exact ⟨List.mem_singleton.mpr rfl, by decide, hgift _ (by simp)⟩
      · refine ⟨List.mem_singleton.mpr rfl, by decide, ⟨rfl, by simp⟩, fun option h => ?_⟩
        cases List.mem_singleton.mp h
        exact ⟨List.mem_singleton.mpr rfl, by decide, ⟨rfl, by simp⟩⟩
      · exact ⟨List.mem_singleton.mpr rfl, by decide, hgift _ (by simp)⟩
    · have hlater : "--gift" ∉ payCommand.options.flatMap Entry.aliases := by decide
      exact ⟨trivial, hlater, trivial⟩
  have hwhole : ∀ token ∈ orderSentence.tokens, token.StaysWhole orderCommand := by
    decide +kernel
  exact ⟨hone, hfits, hwhole, analyse_sentence hone hfits hwhole⟩

end CommandGrammar
