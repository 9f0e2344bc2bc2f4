import CommandGrammar.Matching.OptionLoop

/-!
# Matching an input against a command

The header comes first, then the slots of the command, then options and nested commands. The
first fault ends the matching; what was captured before it stays in the result, and what was
not consumed is the remainder.
-/

namespace CommandGrammar

/-- Read the leading tokens of a command: the value of the header and the cursor after it, or
the token found in its place and the cursor where it was. -/
def Header.read (h : Header) (separator : String) (c : Cursor) :
    Except (Option Token × Cursor) (Value × Cursor) :=
  match c.fetch separator with
  | none => .error (none, c)
  | some (first, next) =>
    if h.isLed then
      if h.isLead first then
        match next.fetch separator with
        | none => .error (some first, next.pushBack first)
        | some (name, last) =>
          match name.asText?.bind h.capture? with
          | some value => .ok (value, last)
          | none => .error (some first, (last.pushBack name).pushBack first)
      else .error (some first, next.pushBack first)
    else
      match first.asText?.bind h.capture? with
      | some value => .ok (value, next)
      | none => .error (some first, next.pushBack first)

/-- The fault for an input that has no tokens to match. -/
def TokenizeError.fault : TokenizeError → MatchFault
  | emptyInput => .emptyInput
  | excludedUnit kind => .excludedUnit kind

namespace MatchResult

/-- The result of an input that failed before its header matched. -/
def failedEarly (fault : MatchFault) (remainder : List Token) : MatchResult :=
  .conclude (.bool false) .empty .empty .empty remainder (some fault)

end MatchResult

namespace Command

/-- Match what follows the header. -/
def runBody (command : Command) (header : Value) (c : Cursor) : MatchResult :=
  let keywords := command.keywords
  let main := command.config.args.fill command.separator keywords c
  match main.fault with
  | some fault => .conclude header main.values .empty .empty main.cursor.rest (some fault)
  | none =>
    let members := command.fillMembers keywords main.cursor .empty .empty
    .conclude header main.values members.options members.subcommands members.cursor.rest
      members.fault

/-- Where nothing is called behind the slots after the header, they are all that is matched. -/
theorem runBody_uncalled {command : Command} {c : Cursor} (header : Value)
    (hfault : (command.config.args.fill command.separator command.keywords c).fault = none)
    (hcalled : command.called?
      (command.config.args.fill command.separator command.keywords c).cursor = none) :
    let main := command.config.args.fill command.separator command.keywords c
    command.runBody header c =
      .conclude header main.values .empty .empty main.cursor.rest none := by
  intro main
  unfold runBody
  simp only [hfault, fillMembers_end hcalled, main]

/-- Match tokens. -/
def runTokens (command : Command) (c : Cursor) : MatchResult :=
  match command.header.read command.separator c with
  | .error (found, c) =>
    .failedEarly (.headerMismatch ((found.map Token.display).getD "")) c.rest
  | .ok (header, c) => command.runBody header c

/-- Match an input; a fault is part of the result. -/
def run (command : Command) (input : Input) : MatchResult :=
  match Cursor.tokenize input command.separator command.config.excluded command.config.raises with
  | .error error => .failedEarly error.fault []
  | .ok c => command.runTokens c

/-- The parts of a result agree after the header. -/
theorem runBody_agrees (command : Command) (header : Value) (c : Cursor) :
    (command.runBody header c).Agrees := by
  unfold runBody
  dsimp only
  split
  · exact MatchResult.conclude_agrees ..
  · exact MatchResult.conclude_agrees ..

/-- The parts of every result agree. -/
theorem run_agrees (command : Command) (input : Input) : (command.run input).Agrees := by
  unfold run runTokens
  split
  · exact MatchResult.conclude_agrees ..
  · split
    · exact MatchResult.conclude_agrees ..
    · exact runBody_agrees ..

/-- Match an input; a fault is raised when the command says so. -/
def analyse (command : Command) (input : Input) : Except MatchError MatchResult :=
  let result := command.run input
  match result.error? with
  | some error => if command.config.raises then .error error else .ok result
  | none => .ok result

/-- A command that does not raise failures answers with the result that reports them. -/
theorem analyse_of_reports {command : Command} (h : command.config.raises = false)
    (input : Input) : command.analyse input = .ok (command.run input) := by
  unfold analyse
  rw [h]
  dsimp only
  split <;> rfl

/-- A command that raises failures raises the error of its result, or answers with the result if
there is none. -/
theorem analyse_of_raises {command : Command} (h : command.config.raises = true)
    (input : Input) :
    (∀ error, command.analyse input = .error error ↔
      (command.run input).error? = some error) ∧
      ((command.run input).error? = none → command.analyse input = .ok (command.run input)) := by
  unfold analyse
  rw [h]
  dsimp only
  cases (command.run input).error? with
  | none => simp
  | some found => simp

end Command

end CommandGrammar
