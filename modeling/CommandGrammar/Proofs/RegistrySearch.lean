import CommandGrammar.Proofs.ExcludedUnits
import CommandGrammar.Proofs.FaultPlace
import CommandGrammar.Registry

/-!
# The command that a registry answers with

A registry runs its enabled commands one after the other and answers with the first result that did
not miss the header, or with the last. A command can fail in another way before its header is tried:
there may be no token under its separator, or a unit that it refuses. Such a command ends the search
as well, though it does not recognise the input.

`analyse_search` says on which command the search ends, and that it is the first one that recognises
the input where every command before it reads the input. `search_ends_unread` is a registry where a
command refuses a unit and a later one that matches the input is never tried.
-/

namespace CommandGrammar

/-- Whether a command cuts an input into tokens, so that its header is tried. -/
def Command.reads (command : Command) (input : Input) : Bool :=
  match Cursor.tokenize input command.separator command.config.excluded command.config.raises with
  | .ok _ => true
  | .error _ => false

/-- Whether the header of a result is not the boolean false. -/
def MatchResult.headerMatched (r : MatchResult) : Bool :=
  match r.header with
  | .bool false => false
  | _ => true

/-- Whether an input matches a command, or its header at least. -/
def Command.recognises (command : Command) (input : Input) : Bool :=
  (command.run input).matched || (command.run input).headerMatched

/-- A header is taken for matched unless its value is false. -/
theorem headerMatched_of_ne {r : MatchResult} (h : r.header ≠ .bool false) :
    r.headerMatched = true := by
  unfold MatchResult.headerMatched
  split
  · rename_i hfalse
    exact absurd hfalse h
  · rfl

/-- What follows the header has no fault about the header. -/
theorem runBody_missedHeader (command : Command) (header : Value) {own : String} {c : Cursor}
    (hc : c.Valid own) : (command.runBody header c).missedHeader = false := by
  obtain ⟨d, hends⟩ := runBody_ends command header hc
  unfold MatchResult.missedHeader
  split
  · rename_i found hfault
    exact absurd (hends.arises _ hfault) id
  · rfl

/-- The header is missed by a command that reads the input but does not recognise it. -/
theorem missedHeader_run (command : Command) (input : Input) :
    (command.run input).missedHeader =
      (command.reads input && !command.recognises input) := by
  cases hstart : Cursor.tokenize input command.separator command.config.excluded
      command.config.raises with
  | error error =>
    have hreads : command.reads input = false := by rw [Command.reads, hstart]
    have hrun : command.run input = .failedEarly error.fault [] := by rw [Command.run, hstart]
    rw [hrun, hreads]
    cases error <;> rfl
  | ok start =>
    have hreads : command.reads input = true := by rw [Command.reads, hstart]
    have hrun : command.run input = command.runTokens start := by rw [Command.run, hstart]
    rw [hreads, Command.recognises, hrun]
    unfold Command.runTokens
    split
    · rfl
    · rename_i value body hread
      obtain ⟨name, past, hwalk⟩ := walk_read (List.mem_singleton.mpr rfl) hread
      have hbody : body.Valid command.separator := hwalk.valid ⟨_, _, tokenize_tokens hstart⟩
      have hmatched : (command.runBody value body).headerMatched = true := by
        refine headerMatched_of_ne ?_
        rw [runBody_header]
        exact read_value hread
      rw [runBody_missedHeader command value hbody, hmatched]
      simp

/-- An input does not match a command whose header it misses. -/
theorem not_matched_of_missedHeader {command : Command} {input : Input}
    (h : (command.run input).missedHeader = true) : (command.run input).matched = false := by
  refine Bool.eq_false_iff.mpr fun hmatched => ?_
  have hnone : (command.run input).fault = none := (command.run_agrees input).matched_iff.mp hmatched
  rw [MatchResult.missedHeader, hnone] at h
  cases h

/-- A search ends with the first command that does not miss its header, or with the last. -/
theorem firstRecognised?_eq (input : Input) (commands : List Command) :
    firstRecognised? input commands =
      ((commands.find? fun command => !(command.run input).missedHeader).or
        commands.getLast?).map (·.run input) := by
  induction commands with
  | nil => rfl
  | cons command rest ih =>
    unfold firstRecognised?
    dsimp only
    cases hmissed : (command.run input).missedHeader with
    | false => simp [hmissed]
    | true =>
      have hmatched : (command.run input).matched = false := not_matched_of_missedHeader hmissed
      rw [hmatched, Bool.not_true, Bool.or_self, if_neg Bool.false_ne_true, ih, List.find?_cons,
        hmissed]
      cases rest with
      | nil => rfl
      | cons next rest =>
        have hlast : (command :: next :: rest).getLast? = (next :: rest).getLast? :=
          List.getLast?_cons_cons
        rw [hlast]
        cases hfound : (next :: rest).find? fun command => !(command.run input).missedHeader with
        | some found => simp
        | none => simp [List.getLast?_cons]

/-- A second test changes nothing if no item before the first that passes the other one passes
it. -/
theorem find?_or_of_takeWhile {α : Type} {test other : α → Bool} {items : List α}
    (h : ∀ x ∈ items.takeWhile (fun x => !test x), other x = false) :
    items.find? (fun x => test x || other x) = items.find? test := by
  induction items with
  | nil => rfl
  | cons first rest ih =>
    rw [List.find?_cons, List.find?_cons]
    cases hfirst : test first with
    | true => rfl
    | false =>
      rw [List.takeWhile_cons, hfirst] at h
      have hother : other first = false := h first List.mem_cons_self
      have hrest := ih fun x hx => h x (List.mem_cons_of_mem _ hx)
      rw [hother]
      exact hrest

/-- A registry answers with the result of the first enabled command that recognises the input or
does not read it, or else of the last one. Where every command before the first that recognises the
input reads it, the answer is the result of that command, or of the last one if there is none. -/
theorem analyse_search (r : Registry) (input : Input) :
    (r.analyse input =
      ((r.enabledCommands.find? fun command =>
          command.recognises input || !command.reads input).or
        r.enabledCommands.getLast?).map (·.run input)) ∧
    ((∀ command ∈ r.enabledCommands.takeWhile (fun command => !command.recognises input),
        command.reads input = true) →
      r.analyse input =
        ((r.enabledCommands.find? fun command => command.recognises input).or
          r.enabledCommands.getLast?).map (·.run input)) := by
  have hends : ∀ command : Command, (!(command.run input).missedHeader) =
      (command.recognises input || !command.reads input) := by
    intro command
    rw [missedHeader_run]
    cases command.reads input <;> cases command.recognises input <;> rfl
  have hsearch : r.analyse input =
      ((r.enabledCommands.find? fun command =>
          command.recognises input || !command.reads input).or
        r.enabledCommands.getLast?).map (·.run input) := by
    rw [Registry.analyse, firstRecognised?_eq]
    simp only [hends]
  refine ⟨hsearch, fun hread => ?_⟩
  rw [hsearch, find?_or_of_takeWhile]
  intro command hcommand
  rw [hread command hcommand]
  rfl

/-- A command that refuses images. -/
def strictCommand : Command :=
  (Command.ofConfig { pingConfig with name := "strict", raises := true }).toOption.get
    (by decide +kernel)

/-- A command that refuses nothing. -/
def showCommand : Command :=
  (Command.ofConfig (CommandConfig.ofName "show")).toOption.get (by decide +kernel)

/-- A registry of both commands, the one that refuses images first. -/
def imageRegistry : Registry := ((Registry.empty.insert strictCommand).1.insert showCommand).1

/-- Both commands are enabled. -/
theorem enabledCommands_imageRegistry :
    imageRegistry.enabledCommands = [strictCommand, showCommand] := by rfl

/-- The second command recognises its name after the first one read it. -/
theorem analyse_search_show :
    let input : Input := .text "show"
    (∀ command ∈ imageRegistry.enabledCommands.takeWhile (fun command => !command.recognises input),
        command.reads input = true) ∧
      imageRegistry.analyse input = some (showCommand.run input) := by
  intro input
  have hstrict : strictCommand.recognises input = false := by rfl
  have hshow : showCommand.recognises input = true := by
    have hheader : (showCommand.run input).headerMatched = true := by rfl
    rw [Command.recognises, hheader, Bool.or_true]
  have hread : ∀ command ∈
      imageRegistry.enabledCommands.takeWhile (fun command => !command.recognises input),
      command.reads input = true := by
    rw [enabledCommands_imageRegistry, List.takeWhile_cons, hstrict, List.takeWhile_cons, hshow]
    intro command hcommand
    cases List.mem_singleton.mp hcommand
    rfl
  refine ⟨hread, ?_⟩
  rw [(analyse_search imageRegistry input).2 hread, enabledCommands_imageRegistry, List.find?_cons,
    hstrict, List.find?_cons, hshow]
  rfl

/-- An image after the name of the second command is refused by the first one, and this is the
answer though the second command matches the input. -/
theorem search_ends_unread :
    let input : Input := .chain [.text "show", .unit ⟨"image", .null⟩]
    imageRegistry.enabledCommands = [strictCommand, showCommand] ∧
      strictCommand.recognises input = false ∧ showCommand.recognises input = true ∧
      (showCommand.run input).matched = true ∧
      imageRegistry.analyse input = some (strictCommand.run input) ∧
      imageRegistry.analyse input ≠ some (showCommand.run input) := by
  intro input
  let segments : List Segment := [.text ["show"] " ", .unit ⟨"image", .null⟩]
  have hstrict : strictCommand.recognises input = false := by rfl
  have hmatched : (showCommand.run input).matched = true := by
    have hbody : showCommand.run input = showCommand.runBody (.bool true) ⟨segments, 1, 0⟩ := by rfl
    rw [hbody, Command.runBody_uncalled (.bool true) (by rfl) (by rfl)]
    rfl
  have hshow : showCommand.recognises input = true := by
    rw [Command.recognises, hmatched, Bool.true_or]
  have hanswer : imageRegistry.analyse input = some (strictCommand.run input) := by rfl
  refine ⟨enabledCommands_imageRegistry, hstrict, hshow, hmatched, hanswer, fun hsame => ?_⟩
  have hrun : strictCommand.run input = showCommand.run input :=
    Option.some.inj (hanswer.symm.trans hsame)
  rw [← hrun] at hmatched
  cases hmatched

end CommandGrammar
