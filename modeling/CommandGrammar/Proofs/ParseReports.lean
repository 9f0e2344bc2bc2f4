import CommandGrammar.CommandLine.Run
import CommandGrammar.Proofs.ExcludedUnits
import CommandGrammar.Proofs.PrintedTrees
import CommandGrammar.Proofs.SortedTrees
import Mathlib.Data.List.Forall2

/-!
# Reports of matching texts

The task that matches texts against a grammar writes one array, with an entry for each text in
order. An entry has the text and says whether it matches; where it does not, the entry has the error
that matching this text alone ends with. A command that raises its errors answers with an error
where another one answers with a result that has it, and the two are written in different ways, but
what is said of the error is the same.

`StandFor` says which texts the operands stand for, and `Reports` what an entry says of a text. What
is printed is a text of the array of the entries, as `Json.WrittenAs` has it.
-/

namespace CommandGrammar

/-! ### Matching a text alone -/

namespace Command

/-- Whether a text matches: there is a result without an error. -/
def Matches (command : Command) (text : String) : Prop :=
  ∃ result, command.analyse (.text text) = .ok result ∧ result.error? = none

/-- Whether a text does not match, because of an error: it is raised or part of the result. -/
def FailsWith (command : Command) (text : String) (error : MatchError) : Prop :=
  command.analyse (.text text) = .error error ∨
    ∃ result, command.analyse (.text text) = .ok result ∧ result.error? = some error

/-- An input is answered with its result, or with the error of that result. -/
theorem analyse_cases (command : Command) (input : Input) :
    command.analyse input = .ok (command.run input) ∨
      ∃ error, (command.run input).error? = some error ∧ command.analyse input = .error error := by
  cases hraises : command.config.raises with
  | false => exact .inl (analyse_of_reports hraises input)
  | true =>
    obtain ⟨hraised, hanswered⟩ := analyse_of_raises hraises input
    cases herror : (command.run input).error? with
    | none => exact .inl (hanswered herror)
    | some error => exact .inr ⟨error, rfl, (hraised error).mpr herror⟩

/-- A text that matches has a result without an error in either mode. -/
theorem matches_iff (command : Command) (text : String) :
    command.Matches text ↔ (command.run (.text text)).error? = none := by
  unfold Matches
  rcases command.analyse_cases (.text text) with hanswer | ⟨error, herror, hanswer⟩
  · simp [hanswer]
  · simp [hanswer, herror]

/-- A text that does not match has the error of its result in either mode. -/
theorem failsWith_iff (command : Command) (text : String) (error : MatchError) :
    command.FailsWith text error ↔ (command.run (.text text)).error? = some error := by
  unfold FailsWith
  rcases command.analyse_cases (.text text) with hanswer | ⟨found, hfound, hanswer⟩
  · simp [hanswer]
  · simp [hanswer, hfound]

/-- Whether failures are raised makes no difference to what matching a text gives. -/
theorem run_text_congr {command other : Command}
    (hconfig : other.config = { command.config with raises := other.config.raises })
    (text : String) : other.run (.text text) = command.run (.text text) := by
  refine run_congr ?_ (runTokens_congr hconfig)
  have hseparator : other.separator = command.separator := by
    rw [separator, separator, hconfig]
  rw [hseparator]
  rfl

/-- Of every command there is one that raises failures, and one that does not. -/
theorem exists_withRaises (command : Command) (raises : Bool) :
    ∃ other, Command.ofConfig (command.config.withRaises raises) = .ok other :=
  ⟨_, ofConfig_config ⟨command.config.withRaises raises, command.header, command.named,
    command.separates, command.header_eq, command.distinct⟩⟩

end Command

/-! ### Looking into trees -/

/-- What a path of names leads to in a tree. -/
def Json.at? : Json → List String → Option Json
  | tree, [] => some tree
  | object fields, name :: rest => (findEntry name fields).bind fun tree => tree.at? rest
  | _, _ :: _ => none

/-- Where fields have different names, a path leads to the same place after sorting. -/
theorem Json.at_sortFields {fields : List (String × Json)} (h : (fields.map Prod.fst).Nodup)
    (name : String) (rest : List String) :
    (object fields).sortFields.at? (name :: rest) =
      (findEntry name fields).bind fun tree => tree.sortFields.at? rest := by
  rw [sortFields, at?, sortEntries_keepsLast.find, findEntry_reverse_of_nodup h, Option.bind_map]
  rfl

namespace CommandLine

/-! ### Operands -/

/-- The texts that operands stand for. Each stands for itself but the first hyphen, which stands for
the lines on standard input that are not blank; any further one finds no line left. -/
inductive StandFor (input : Except ReadFault String) (operands : List String) : List String → Prop
  /-- Without a hyphen. -/
  | texts (plain : "-" ∉ operands) : StandFor input operands operands
  /-- With the first hyphen between other operands. -/
  | lines {front back : List String} {text : String} (split : operands = front ++ "-" :: back)
      (first : "-" ∉ front) (given : input = .ok text) :
      StandFor input operands (front ++
        (textLines text).filter (fun line => line.toList.any fun c => !isBlank c) ++
          back.filter (· ≠ "-"))

/-- Operands in front of the first hyphen are sources themselves. -/
theorem sourcesOf_append {ε : Type} (input : Except ε String) {front : List String}
    (h : "-" ∉ front) (back : List String) :
    sourcesOf input (front ++ back) = (sourcesOf input back).map (front ++ ·) := by
  induction front with
  | nil =>
    rw [List.nil_append]
    cases sourcesOf input back <;> rfl
  | cons operand rest ih =>
    obtain ⟨hne, hrest⟩ := List.ne_and_not_mem_of_not_mem_cons h
    have hplain : ¬ operand = standardInput := Ne.symm hne
    rw [List.cons_append, sourcesOf, if_neg hplain, ih hrest]
    cases sourcesOf input back <;> rfl

/-- Where no line is left a hyphen stands for nothing. -/
theorem sourcesOf_used {ε : Type} (operands : List String) :
    sourcesOf (.ok "" : Except ε String) operands = .ok (operands.filter (· ≠ "-")) := by
  induction operands with
  | nil => rfl
  | cons operand rest ih =>
    rw [sourcesOf]
    split
    · rename_i hinput
      rw [ih, List.filter_cons_of_neg (by simp [hinput, standardInput])]
      rfl
    · rename_i hinput
      rw [ih, List.filter_cons_of_pos (by simpa [standardInput] using hinput)]
      rfl

/-- The sources of operands are the texts that they stand for. -/
theorem sourcesOf_eq {input : Except ReadFault String} {operands texts : List String}
    (h : StandFor input operands texts) : sourcesOf input operands = .ok texts := by
  cases h with
  | texts plain =>
    have hall := sourcesOf_append input plain []
    rw [List.append_nil] at hall
    rw [hall, sourcesOf]
    exact congrArg Except.ok (List.append_nil _)
  | @lines front back text split first given =>
    subst split given
    have hblank : ∀ line : String, (!isBlankText line) = line.toList.any fun c => !isBlank c :=
      fun line => List.not_all_eq_any_not
    have hhyphen : "-" = standardInput := rfl
    rw [sourcesOf_append _ first, sourcesOf, if_pos hhyphen, sourcesOf_used, List.append_assoc,
      ← funext hblank]
    rfl

/-- Operands stand for texts if standard input can be read, should it be asked for. -/
theorem exists_standFor {input : Except ReadFault String} {operands : List String}
    (h : "-" ∈ operands → ∃ text, input = .ok text) : ∃ texts, StandFor input operands texts := by
  by_cases hmem : "-" ∈ operands
  · obtain ⟨text, htext⟩ := h hmem
    obtain ⟨front, back, hsplit, hfirst⟩ := List.eq_append_cons_of_mem hmem
    exact ⟨_, .lines hsplit hfirst htext⟩
  · exact ⟨_, .texts hmem⟩

/-! ### Entries -/

/-- What the entry of a report says of an error: that there is no match, the code of the error, its
sort with what it carries, and the tokens that were left. -/
structure ReportsError (error : MatchError) (entry : Json) : Prop where
  /-- There is no match. -/
  unmatched : entry.at? ["result", "matched"] = some (.bool false)
  /-- The code. -/
  code : entry.at? ["result", "error", "code"] = some (.string error.fault.code.id)
  /-- The sort of the error, with what it carries. -/
  kind : entry.at? ["result", "error", "kind"] = some error.fault.toJson.sortFields
  /-- The tokens that were left. -/
  remainder : entry.at? ["result", "error", "remainder"] =
    some (Json.array (error.remainder.map Token.toJson)).sortFields

/-- What the entry of a report says of a text: the text itself, that it matches exactly when it
does, and otherwise the error that it does not match for. -/
structure Reports (command : Command) (text : String) (entry : Json) : Prop where
  /-- The text. -/
  input : entry.at? ["input"] = some (.string text)
  /-- It is said to match exactly when it does. -/
  matched : entry.at? ["result", "matched"] = some (.bool true) ↔ command.Matches text
  /-- Otherwise there is an error, and this is the one that is reported. -/
  failed : ¬ command.Matches text →
    ∃ error, command.FailsWith text error ∧ ReportsError error entry

/-- What an error is written as has its code, its sort and the tokens that were left. -/
theorem error_at (error : MatchError) :
    error.toJson.sortFields.at? ["code"] = some (.string error.fault.code.id) ∧
      error.toJson.sortFields.at? ["kind"] = some error.fault.toJson.sortFields ∧
      error.toJson.sortFields.at? ["remainder"] =
        some (Json.array (error.remainder.map Token.toJson)).sortFields := by
  have hfield : ∀ name, error.toJson.sortFields.at? [name] = _ :=
    fun name => Json.at_sortFields (by simp) name []
  exact ⟨hfield "code", hfield "kind", hfield "remainder"⟩

/-- What a result is written as says whether it is a match, and has its error if it is not. -/
theorem result_at {result : MatchResult} (h : result.Agrees) :
    result.toJson.sortFields.at? ["matched"] = some (.bool result.error?.isNone) ∧
      ∀ error, result.error? = some error → ∀ path,
        result.toJson.sortFields.at? ("error" :: path) = error.toJson.sortFields.at? path := by
  have hmatched : result.matched = result.error?.isNone := by
    rw [Bool.eq_iff_iff, h.matched, Option.isNone_iff_eq_none]
  unfold MatchResult.toJson
  rw [hmatched]
  cases result.error? with
  | none =>
    refine ⟨?_, fun error herror => nomatch herror⟩
    rw [Json.at_sortFields (by simp)]
    rfl
  | some found =>
    refine ⟨?_, fun error herror path => ?_⟩
    · rw [Json.at_sortFields (by simp)]
      rfl
    · cases herror
      rw [Json.at_sortFields (by simp)]
      rfl

/-- What a trial is written as has its text, whether it matches, and its error if it does not. -/
theorem trial_at {trial : Trial} (h : ∀ result, trial.outcome = .ok result → result.Agrees) :
    trial.toJson.at? ["input"] = some (.string trial.source) ∧
      trial.toJson.at? ["result", "matched"] = some (.bool trial.isMatch) ∧
      ∀ error, trial.error? = some error → ∀ path,
        trial.toJson.at? ("result" :: "error" :: path) = error.toJson.sortFields.at? path := by
  have hfield : ∀ name path, trial.toJson.at? (name :: path) = _ :=
    fun name path => Json.at_sortFields (by simp) name path
  have hresult : ∀ path, trial.toJson.at? ("result" :: path) =
      trial.resultJson.sortFields.at? path := hfield "result"
  refine ⟨hfield "input" [], ?_, fun error herror path => ?_⟩
  · rw [hresult, Trial.isMatch, Trial.error?, Trial.resultJson]
    cases houtcome : trial.outcome with
    | ok result => exact (result_at (h result houtcome)).1
    | error raised => exact Json.at_sortFields (by simp) _ _
  · rw [hresult, Trial.resultJson]
    rw [Trial.error?] at herror
    cases houtcome : trial.outcome with
    | ok result =>
      rw [houtcome] at herror
      exact (result_at (h result houtcome)).2 error herror path
    | error raised =>
      rw [houtcome] at herror
      cases herror
      exact Json.at_sortFields (by simp) _ _

/-- The trial of a text by itself. -/
def trialOf (command : Command) (text : String) : Trial := ⟨text, command.analyse (.text text)⟩

/-- The error of a trial is that of its text. -/
theorem trialOf_error (command : Command) (text : String) :
    (trialOf command text).error? = (command.run (.text text)).error? := by
  unfold Trial.error? trialOf
  dsimp only
  rcases command.analyse_cases (.text text) with hanswer | ⟨error, herror, hanswer⟩
  · rw [hanswer]
  · rw [hanswer, herror]

/-- The result of a trial of a text is that of matching it, so its parts agree. -/
theorem trialOf_agrees (command : Command) (text : String) (result : MatchResult)
    (h : (trialOf command text).outcome = .ok result) : result.Agrees := by
  unfold trialOf at h
  dsimp only at h
  rcases command.analyse_cases (.text text) with hanswer | ⟨error, -, hanswer⟩
  · rw [hanswer] at h
    rw [← Except.ok.inj h]
    exact command.run_agrees (.text text)
  · rw [hanswer] at h
    cases h

/-- The entry of a text reports what matching it alone gives, by the command itself or by one that
differs in raising failures only. -/
theorem reports_trialOf {command other : Command}
    (hconfig : other.config = { command.config with raises := other.config.raises })
    (text : String) : Reports other text (trialOf command text).toJson := by
  obtain ⟨hinput, hmatched, hpath⟩ := trial_at (trialOf_agrees command text)
  have herror : (trialOf command text).error? = (other.run (.text text)).error? := by
    rw [trialOf_error, Command.run_text_congr hconfig]
  rw [Trial.isMatch, herror] at hmatched
  rw [herror] at hpath
  refine ⟨hinput, ?_, fun hfails => ?_⟩
  · rw [hmatched, other.matches_iff]
    simp
  · rw [other.matches_iff] at hfails
    obtain ⟨error, hfound⟩ := Option.ne_none_iff_exists'.mp hfails
    obtain ⟨hcode, hkind, hremainder⟩ := error_at error
    refine ⟨error, (other.failsWith_iff text error).mpr hfound, ?_⟩
    constructor
    · rw [hmatched, hfound]
      rfl
    · exact (hpath error hfound _).trans hcode
    · exact (hpath error hfound _).trans hkind
    · exact (hpath error hfound _).trans hremainder

/-! ### The whole report -/

/-- Every text has its trial, and none is left unread. -/
theorem trialsOf_texts (command : Command) (texts : List String) :
    trialsOf command false texts = (texts.map (trialOf command), none) := by
  induction texts with
  | nil => rfl
  | cons text rest ih =>
    rw [trialsOf]
    dsimp only [readSource]
    rw [ih]
    rfl

/-- The entries of texts in a report. -/
def entriesOf (command : Command) (texts : List String) : List Json :=
  (texts.map (trialOf command)).map Trial.toJson

/-- The status is one exactly when some entry is not said to match, and else zero. -/
theorem statusOf_entries (command : Command) (texts : List String) :
    (statusOf (texts.map (trialOf command)) = 1 ↔ ∃ entry ∈ entriesOf command texts,
      entry.at? ["result", "matched"] ≠ some (.bool true)) ∧
    (statusOf (texts.map (trialOf command)) = 0 ↔ ∀ entry ∈ entriesOf command texts,
      entry.at? ["result", "matched"] = some (.bool true)) := by
  have hentry : ∀ text, (trialOf command text).toJson.at? ["result", "matched"] =
      some (.bool true) ↔ (trialOf command text).isMatch = true := by
    intro text
    rw [(trial_at (trialOf_agrees command text)).2.1]
    simp
  have hall : (∀ entry ∈ entriesOf command texts,
      entry.at? ["result", "matched"] = some (.bool true)) ↔
        (texts.map (trialOf command)).all Trial.isMatch = true := by
    simp only [entriesOf, List.forall_mem_map, hentry, List.all_eq_true]
  have hsome : (∃ entry ∈ entriesOf command texts,
      entry.at? ["result", "matched"] ≠ some (.bool true)) ↔
        ¬ (texts.map (trialOf command)).all Trial.isMatch = true := by
    rw [← hall]
    simp only [not_forall, exists_prop, ne_eq]
  rw [hall, hsome, statusOf]
  split <;> simp [*]

/-- One line is ended by a line break. -/
theorem joinLines_single (line : String) : joinLines [line] = line ++ "\n" := by
  simp [joinLines, String.join]

/-- The document of a command that takes a number and raises its errors. -/
def strictDocument : String :=
  "\x7b\"name\": \"strict\", \"raise_on_failure\": true, " ++
    "\"args\": [\x7b\"name\": \"n\", \"pattern\": \"int\"\x7d]\x7d"

/-- A folder with this document, and three lines on standard input, one of them blank. -/
def strictSources : Sources where
  file path := if path = "strict.json" then .ok strictDocument else .error .notFound
  input := .ok "strict x\n \nstrict 2\n"

end CommandLine

end CommandGrammar
