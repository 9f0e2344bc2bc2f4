import CommandGrammar.Proofs.FaultPlace
import CommandGrammar.Proofs.Sentences

/-!
# No token is lost

A command whose options and nested commands have no separators of their own never cuts a token, so
a walk reads the tokens of the input one after the other and puts back those it read last. What is
left of a run is then the input without its first tokens, glued into texts that split into the same
tokens again.

`run_drops_tokens` says so for every run, and what stands in front of the rest.
-/

namespace CommandGrammar

open Cursor (Shows)

/-- The texts of an input. -/
def Input.texts : Input → List String
  | text whole => [whole]
  | chain parts => parts.filterMap Token.asText?

/-- A text without quotes is cut into single pieces. -/
theorem isPlain_of_mem_cut {separator : String} {excluded : List String} {part token : Token}
    (hquote : ∀ whole, part = .text whole → ∀ c ∈ whole.toList, isQuote c = false)
    (h : token ∈ part.cut separator excluded) : token.IsPlain separator := by
  cases part with
  | text whole =>
    obtain ⟨piece, hpiece, rfl⟩ := List.mem_map.mp h
    refine plainPiece_of_mem_split (fun c hc hq => ?_) hpiece
    rw [trimFront, String.toList_ofList] at hc
    have := hquote whole rfl c ((List.dropWhile_suffix _).mem hc)
    simp [this] at hq
  | unit u =>
    simp only [Token.cut] at h
    split at h
    · cases h
    · cases List.mem_singleton.mp h
      trivial

/-- The tokens of an input without quotes are single pieces. -/
theorem isPlain_of_mem_tokens {input : Input} {separator : String} {excluded : List String}
    (hquote : ∀ text ∈ input.texts, ∀ c ∈ text.toList, isQuote c = false) {token : Token}
    (h : token ∈ input.tokens separator excluded) : token.IsPlain separator := by
  cases input with
  | text whole =>
    refine @isPlain_of_mem_cut separator excluded (.text whole) token (fun found hfound => ?_) h
    cases hfound
    exact hquote whole (List.mem_singleton.mpr rfl)
  | chain parts =>
    obtain ⟨part, hpart, htoken⟩ := List.mem_flatMap.mp h
    refine isPlain_of_mem_cut (fun whole hwhole => ?_) htoken
    subst hwhole
    exact hquote whole (List.mem_filterMap.mpr ⟨_, hpart, rfl⟩)

/-- Without separators of their own all entries are read with the separator of the command. -/
theorem eq_of_mem_separators {command : Command} (hone : command.OneSeparator) {separator : String}
    (h : separator ∈ command.separators) : separator = command.separator := by
  rcases List.mem_cons.mp h with rfl | h
  · rfl
  · rcases List.mem_append.mp h with h | h
    · obtain ⟨e, he, rfl⟩ := List.mem_map.mp h
      rw [Entry.separatorOr, hone.options e he, Option.getD_none]
    · obtain ⟨s, hs, h⟩ := List.mem_flatMap.mp h
      have hentry : s.entry.separatorOr command.separator = command.separator := by
        rw [Entry.separatorOr, hone.subcommands s hs, Option.getD_none]
      rcases List.mem_cons.mp h with rfl | h
      · exact hentry
      · obtain ⟨e, he, rfl⟩ := List.mem_map.mp h
        rw [Entry.separatorOr, hone.suboptions s hs e he, Option.getD_none, hentry]

/-- Where nothing is called, a text that stands there calls nothing. -/
theorem resolve_of_not_called {command : Command} {c : Cursor} {past left : List Token}
    (hshows : Shows command.separator c past left) (h : command.called? c = none) {text : String}
    (hleft : left.head? = some (.text text)) : command.resolve? text = none := by
  rw [Command.called?, hshows.peek, hleft] at h
  simpa [Token.asText?] using h

/-- Behind the header the tokens of the input are left without the first ones. Without a fault the
next one calls nothing, and a fault is none of the header. -/
theorem runBody_drops {command : Command} (hone : command.OneSeparator) {start body : Cursor}
    {past tokens : List Token} (hshows : Shows command.separator start [] tokens)
    (hplain : ∀ token ∈ tokens, token.IsPlain command.separator)
    (hheader : Walk command.separators start past body) (value : Value) :
    let result := command.runBody value body
    ∃ k ≤ tokens.length,
      splitTokens command.separator result.remainder = tokens.drop k ∧
      (∀ found, result.fault ≠ some (.headerMismatch found)) ∧
      (result.fault = none → ∀ text, tokens[k]? = some (.text text) →
        command.resolve? text = none) := by
  intro result
  obtain ⟨last, hends⟩ := runBody_ends command value (hheader.valid ⟨_, _, hshows⟩)
  obtain ⟨more, hwalk⟩ := hends.walk
  obtain ⟨left, hlast, htokens⟩ := (hheader.trans hwalk).shows_whole hshows
    fun separator => eq_of_mem_separators hone
  generalize more ++ past = read at hlast htokens
  rw [List.append_nil] at hlast
  have hdrop : tokens.drop read.length = left := by
    rw [← htokens, List.drop_left' (List.length_reverse ..)]
  refine ⟨read.length, ?_, ?_, fun found hfound => hends.arises _ hfound,
    fun hnone text htext => ?_⟩
  · rw [← htokens, List.length_append, List.length_reverse]
    exact Nat.le_add_right _ _
  · rw [hends.remainder, hdrop]
    refine splitTokens_rest command.separates hlast fun token htoken => hplain token ?_
    rw [← htokens]
    simpa using htoken
  · refine resolve_of_not_called hlast (hends.settled hnone) ?_
    rw [← hdrop, List.head?_drop, htext]

/-- The remainder of a run lists the tokens of the input without the first ones. None is missing
where the header was refused, and where the input matched the next one calls nothing. -/
theorem run_drops_tokens {command : Command} (hone : command.OneSeparator) {input : Input}
    {start : Cursor}
    (hstart : Cursor.tokenize input command.separator command.config.excluded
      command.config.raises = .ok start)
    (hquote : ∀ text ∈ input.texts, ∀ c ∈ text.toList, isQuote c = false) :
    let result := command.run input
    let tokens := input.tokens command.separator command.config.excluded
    ∃ k ≤ tokens.length,
      splitTokens command.separator result.remainder = tokens.drop k ∧
      (∀ found, result.fault = some (.headerMismatch found) → k = 0) ∧
      (result.matched = true → ∀ text, tokens[k]? = some (.text text) →
        command.resolve? text = none) := by
  intro result tokens
  have hshows : Shows command.separator start [] tokens := tokenize_tokens hstart
  have hplain : ∀ token ∈ tokens, token.IsPlain command.separator :=
    fun token => isPlain_of_mem_tokens hquote
  have hresult : result = command.runTokens start := by
    simp only [result, Command.run, hstart]
  obtain ⟨first, others, hfirst⟩ := tokenize_first hstart
  unfold Command.runTokens at hresult
  split at hresult
  · rename_i found c hread
    obtain ⟨rfl, -⟩ := read_refused hfirst hread
    refine ⟨0, Nat.zero_le _, ?_, fun _ _ => rfl, fun hmatched => ?_⟩
    · rw [hresult]
      exact splitTokens_rest command.separates hshows hplain
    · rw [hresult] at hmatched
      cases hmatched
  · rename_i value body hread
    have hlisted : command.separator ∈ command.separators := List.mem_cons_self
    obtain ⟨name, past, hheader⟩ := walk_read hlisted hread
    obtain ⟨k, hle, hremainder, hfault, hnext⟩ := runBody_drops hone hshows hplain hheader value
    rw [← hresult] at hremainder hfault hnext
    exact ⟨k, hle, hremainder, fun found hfound => absurd hfound (hfault found),
      fun hmatched => hnext ((command.run_agrees input).matched_iff.mp hmatched)⟩

/-- No entry of the order command has a separator of its own. -/
theorem oneSeparator_orderCommand : orderCommand.OneSeparator where
  options e he := by
    cases List.mem_singleton.mp he
    rfl
  subcommands s hs := by
    cases List.mem_singleton.mp hs
    rfl
  suboptions s hs e he := by
    cases List.mem_singleton.mp hs
    cases List.mem_singleton.mp he
    rfl

/-- An order with a word after it that calls nothing. -/
theorem run_drops_tokens_order :
    let input : Input := .chain [.text "order", .unit ⟨"isbn", .null⟩, .text "pay --later soon"]
    let result := orderCommand.run input
    let tokens := input.tokens orderCommand.separator orderCommand.config.excluded
    (∀ text ∈ input.texts, ∀ c ∈ text.toList, isQuote c = false) ∧
      ∃ k ≤ tokens.length,
        splitTokens orderCommand.separator result.remainder = tokens.drop k ∧
        (∀ found, result.fault = some (.headerMismatch found) → k = 0) ∧
        (result.matched = true → ∀ text, tokens[k]? = some (.text text) →
          orderCommand.resolve? text = none) := by
  intro input result tokens
  have hquote : ∀ text ∈ input.texts, ∀ c ∈ text.toList, isQuote c = false := by
    have hall : ∀ text ∈ input.texts, text.toList.any isQuote = false := by decide
    exact fun text htext c hc => Bool.eq_false_iff.mpr (List.any_eq_false.mp (hall text htext) c hc)
  have hstart : Cursor.tokenize input orderCommand.separator orderCommand.config.excluded
      orderCommand.config.raises = .ok ⟨[.text ["order"] " ", .unit ⟨"isbn", .null⟩,
        .text ["pay", "--later", "soon"] " "], 0, 0⟩ := by
    rfl
  exact ⟨hquote, run_drops_tokens oneSeparator_orderCommand hstart hquote⟩

end CommandGrammar
