import CommandGrammar.Proofs.MatchingDependence

/-!
# Excluded units and raised failures

A command either reports a failure in its result or raises it. The choice is looked at twice: when
the input is cut, where a unit of an excluded kind is refused or left out, and at the end. In
between nothing depends on it, so two commands that differ in it only match the same tokens alike.

`analyse_excluded` compares two such commands on every input. Units of excluded kinds leave no trace
in what the one that reports gives, and for the one that raises the first of them is the failure.
-/

namespace CommandGrammar

/-- The kind of a token, if it is a unit of an excluded kind. -/
def Token.excludedKind? (excluded : List String) : Token → Option String
  | text _ => none
  | unit u => if excluded.contains u.kind then some u.kind else none

/-- An input without its units of excluded kinds. -/
def Input.without (excluded : List String) : Input → Input
  | text whole => text whole
  | chain parts => chain (parts.filter fun part => (part.excludedKind? excluded).isNone)

/-- The kind of the first unit of an input that is excluded. -/
def Input.firstExcluded? (excluded : List String) : Input → Option String
  | text _ => none
  | chain parts => parts.findSome? (Token.excludedKind? excluded)

section Cutting

variable (separator : String) (excluded : List String)

/-- Where excluded units are left out first, nothing is refused and what is cut is the same. -/
theorem chainSegments_without (refuse : Bool) (parts : List Token) :
    Cursor.chainSegments separator excluded refuse
        (parts.filter fun part => (part.excludedKind? excluded).isNone) =
      Cursor.chainSegments separator excluded false parts := by
  induction parts with
  | nil => rfl
  | cons part rest ih =>
    cases part with
    | text whole =>
      rw [List.filter_cons_of_pos (by rfl), Cursor.chainSegments, Cursor.chainSegments, ih]
    | unit u =>
      by_cases hexcluded : excluded.contains u.kind = true
      · have hout : ¬ ((Token.unit u).excludedKind? excluded).isNone = true := by
          rw [Token.excludedKind?, if_pos hexcluded]
          exact Bool.noConfusion
        rw [List.filter_cons, if_neg hout, ih, Cursor.chainSegments, if_pos hexcluded]
        rfl
      · have hin : ((Token.unit u).excludedKind? excluded).isNone = true := by
          rw [Token.excludedKind?, if_neg hexcluded]
          rfl
        rw [List.filter_cons, if_pos hin, Cursor.chainSegments, Cursor.chainSegments,
          if_neg hexcluded, if_neg hexcluded, ih]

/-- The first unit of an excluded kind is the one that is refused. -/
theorem chainSegments_refused {parts : List Token} {kind : String}
    (h : parts.findSome? (Token.excludedKind? excluded) = some kind) :
    Cursor.chainSegments separator excluded true parts = .error (.excludedUnit kind) := by
  induction parts with
  | nil => cases h
  | cons part rest ih =>
    rw [List.findSome?_cons] at h
    cases part with
    | text whole =>
      have hrest := ih h
      rw [Cursor.chainSegments, hrest]
      rfl
    | unit u =>
      by_cases hexcluded : excluded.contains u.kind = true
      · have hkind : (Token.unit u).excludedKind? excluded = some u.kind := if_pos hexcluded
        rw [hkind] at h
        cases h
        rw [Cursor.chainSegments, if_pos hexcluded, if_pos rfl]
      · have hkind : (Token.unit u).excludedKind? excluded = none := if_neg hexcluded
        rw [hkind] at h
        have hrest := ih h
        rw [Cursor.chainSegments, if_neg hexcluded, hrest]
        rfl

/-- Without a unit of an excluded kind nothing is left out. -/
theorem without_eq_self {input : Input} (h : input.firstExcluded? excluded = none) :
    input.without excluded = input := by
  cases input with
  | text whole => rfl
  | chain parts =>
    have hnone : ∀ part ∈ parts, part.excludedKind? excluded = none :=
      List.findSome?_eq_none_iff.mp h
    have hall : parts.filter (fun part => (part.excludedKind? excluded).isNone) = parts :=
      List.filter_eq_self.mpr fun part hpart => by rw [hnone part hpart]; rfl
    rw [Input.without, hall]

/-- An input without its excluded units is read like the input itself when they are left out. -/
theorem tokenize_without (refuse : Bool) (input : Input) :
    Cursor.tokenize (input.without excluded) separator excluded refuse =
      Cursor.tokenize input separator excluded false := by
  cases input with
  | text whole => rfl
  | chain parts =>
    simp only [Cursor.tokenize, Input.without, Cursor.inputSegments]
    rw [chainSegments_without]

/-- Without excluded units it makes no difference whether they are refused. -/
theorem tokenize_of_none {input : Input} (h : input.firstExcluded? excluded = none) :
    Cursor.tokenize input separator excluded true =
      Cursor.tokenize input separator excluded false := by
  have hread := tokenize_without separator excluded true input
  rwa [without_eq_self excluded h] at hread

/-- An input with an excluded unit is refused for the first of them. -/
theorem tokenize_refused {input : Input} {kind : String}
    (h : input.firstExcluded? excluded = some kind) :
    Cursor.tokenize input separator excluded true = .error (.excludedUnit kind) := by
  cases input with
  | text whole => cases h
  | chain parts =>
    have hsegments := chainSegments_refused separator excluded h
    simp only [Cursor.tokenize, Cursor.inputSegments, hsegments]

end Cutting

/-! ### Commands that differ in raising only -/

/-- Two commands of descriptions that differ in raising only match tokens alike. -/
theorem runTokens_congr {a b : Command}
    (hconfig : b.config = { a.config with raises := b.config.raises }) (c : Cursor) :
    b.runTokens c = a.runTokens c := by
  have hmembers : b.members = a.members := by rw [Command.members, hconfig]; rfl
  have hlike : b.MatchesLike a :=
    { header := header_eq_of_config (by rw [hconfig]) (by rw [hconfig])
      separator := by rw [Command.separator, hconfig]; rfl
      args := by rw [hconfig]
      resolve := fun text => by rw [Command.resolve?, Command.resolve?, hmembers]
      keywords := fun word => by rw [Command.keywords, Command.keywords, hmembers] }
  exact hlike.runTokens_eq c

/-- Two commands of one description, one of which raises failures while the other reports them, are
compared on every input. The one that reports gives the same result without the excluded units. The
other raises the fault of this result, or gives the same one, unless there is an excluded unit: then
it raises the first of them, with nothing left. -/
theorem analyse_excluded {config : CommandConfig} {quiet loud : Command}
    (hquiet : Command.ofConfig { config with raises := false } = .ok quiet)
    (hloud : Command.ofConfig { config with raises := true } = .ok loud) (input : Input) :
    ∃ result, quiet.analyse input = .ok result ∧
      quiet.analyse (input.without config.excluded) = .ok result ∧
      (input.firstExcluded? config.excluded = none →
        (∀ error, loud.analyse input = .error error ↔ result.error? = some error) ∧
        (result.error? = none → loud.analyse input = .ok result)) ∧
      ∀ kind, input.firstExcluded? config.excluded = some kind →
        loud.analyse input = .error ⟨.excludedUnit kind, []⟩ := by
  have hquietConfig := config_of_ofConfig hquiet
  have hloudConfig := config_of_ofConfig hloud
  have hreports : quiet.config.raises = false := by rw [hquietConfig]
  have hraises : loud.config.raises = true := by rw [hloudConfig]
  have hquietTokens : ∀ input, Cursor.tokenize input quiet.separator quiet.config.excluded
      quiet.config.raises = Cursor.tokenize input config.separator config.excluded false := by
    intro input
    rw [Command.separator, hquietConfig]
  have hloudTokens : Cursor.tokenize input loud.separator loud.config.excluded
      loud.config.raises = Cursor.tokenize input config.separator config.excluded true := by
    rw [Command.separator, hloudConfig]
  refine ⟨quiet.run input, Command.analyse_of_reports hreports input, ?_, fun hnone => ?_,
    fun kind hkind => ?_⟩
  · have hwithout : quiet.run (input.without config.excluded) = quiet.run input := by
      refine run_congr ?_ fun c => rfl
      rw [hquietTokens, hquietTokens, tokenize_without]
    rw [Command.analyse_of_reports hreports, hwithout]
  · have hsame : loud.run input = quiet.run input := by
      refine run_congr ?_ (runTokens_congr (by rw [hquietConfig, hloudConfig]))
      rw [hloudTokens, hquietTokens, tokenize_of_none config.separator config.excluded hnone]
    rw [← hsame]
    exact Command.analyse_of_raises hraises input
  · have hrefused : loud.run input = .failedEarly (.excludedUnit kind) [] := by
      rw [Command.run, hloudTokens, tokenize_refused config.separator config.excluded hkind]
      rfl
    refine ((Command.analyse_of_raises hraises input).1 _).mpr ?_
    rw [hrefused]
    rfl

/-- A command that has no place for images. -/
def pingConfig : CommandConfig := { CommandConfig.ofName "ping" with excluded := ["image"] }

/-- An image leaves no trace where failures are reported, and is the failure where they are
raised. -/
theorem analyse_excluded_ping :
    let input : Input := .chain [.text "ping", .unit ⟨"image", .null⟩, .text "now"]
    ∃ quiet loud, Command.ofConfig { pingConfig with raises := false } = .ok quiet ∧
      Command.ofConfig { pingConfig with raises := true } = .ok loud ∧
      ∃ result, quiet.analyse input = .ok result ∧
        quiet.analyse (.chain [.text "ping", .text "now"]) = .ok result ∧
        loud.analyse input = .error ⟨.excludedUnit "image", []⟩ := by
  intro input
  obtain ⟨quiet, hquiet⟩ : ∃ quiet, Command.ofConfig { pingConfig with raises := false } = .ok quiet :=
    exists_of_isOk (by decide +kernel)
  obtain ⟨loud, hloud⟩ : ∃ loud, Command.ofConfig { pingConfig with raises := true } = .ok loud :=
    exists_of_isOk (by decide +kernel)
  obtain ⟨result, hresult, hwithout, -, hrefused⟩ := analyse_excluded hquiet hloud input
  have hkind : input.firstExcluded? pingConfig.excluded = some "image" := by decide +kernel
  exact ⟨quiet, loud, hquiet, hloud, result, hresult, hwithout, hrefused "image" hkind⟩

end CommandGrammar
