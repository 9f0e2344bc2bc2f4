import CommandGrammar.Proofs.FaultPlace
import CommandGrammar.Proofs.QuotedExpressions
import CommandGrammar.Proofs.Sentences

/-!
# The leading tokens of a command

Where the name of a command is a plain word, the expressions of its header spell just that word,
with one of the literals in front where they are glued to it. So the header takes the name alone or
glued to a literal, or the name behind a unit of one of the kinds or a literal, and nothing else.

`header_language` says this for every list of triggers, and that a header which takes its tokens
has the value true and steps over just these, while one which takes none leaves the cursor where it
was.
-/

namespace CommandGrammar

open Cursor (Shows)
open Regex (Builds Builder Denotes SpellsWhole)

/-- Whether a name has only ASCII letters and digits, hyphens and underscores. -/
def IsPlainName (name : String) : Prop :=
  ∀ c ∈ name.toList, c.isAlphanum = true ∨ c = '-' ∨ c = '_'

/-- The leading tokens that a name with triggers is to match. -/
inductive LeadingTokens (name : String) (triggers : List Trigger) : List Token → Prop
  /-- Without kinds of units, the name. -/
  | bare (units : Trigger.kinds triggers = []) : LeadingTokens name triggers [.text name]
  /-- Without kinds of units, the name glued to a literal. -/
  | glued {literal : String} (units : Trigger.kinds triggers = [])
      (listed : literal ∈ Trigger.literals triggers) :
      LeadingTokens name triggers [.text (literal ++ name)]
  /-- The name behind a unit of one of the kinds. -/
  | afterUnit {u : OpaqueUnit} (listed : u.kind ∈ Trigger.kinds triggers) :
      LeadingTokens name triggers [.unit u, .text name]
  /-- With kinds of units, the name behind a literal. -/
  | afterLiteral {literal : String} (units : Trigger.kinds triggers ≠ [])
      (listed : literal ∈ Trigger.literals triggers) :
      LeadingTokens name triggers [.text literal, .text name]

/-- Letters and digits have no meaning of their own. -/
theorem not_isAlphanum_of_isMeta {c : Char} (h : Regex.isMeta c = true) : c.isAlphanum = false := by
  have hall : ("\\.+*?()|[]\x7b\x7d^$#&-~".toList.all fun d => !d.isAlphanum) = true := by decide
  simpa using List.all_eq_true.mp hall c (List.contains_iff_mem.mp h)

/-- A character of a plain name has no meaning of its own, or is a hyphen. -/
theorem plain_of_nameChar {c : Char} (h : c.isAlphanum = true ∨ c = '-' ∨ c = '_') :
    Regex.isMeta c = false ∨ c = '-' := by
  rcases h with h | rfl | rfl
  · refine .inl (Bool.eq_false_iff.mpr fun hmeta => ?_)
    rw [not_isAlphanum_of_isMeta hmeta] at h
    cases h
  · exact .inr rfl
  · exact .inl (by decide)

/-- A plain name is read as the expression for it. -/
theorem denotes_name {name : String} (h : IsPlainName name) :
    Denotes name.toList (Regex.literal name.toList) := by
  have hword := @Regex.denotes_word (fun c => [c]) name.toList
    fun c hc b hflags => Regex.builds_plain hflags (plain_of_nameChar (h c hc))
  simpa using hword

/-- A character as a quoted text has it. -/
def quotedChar (c : Char) : List Char := if Regex.isMeta c then ['\\', c] else [c]

/-- A quoted character is read as itself. -/
theorem builds_quotedChar (c : Char) (b : Builder) (hflags : b.flags = .start) :
    Builds b (quotedChar c) (b.withWord [c]) := by
  unfold quotedChar
  split
  · rename_i hmeta
    exact Regex.builds_quoted hflags hmeta
  · rename_i hmeta
    exact Regex.builds_plain hflags (.inl (Bool.eq_false_iff.mpr hmeta))

/-- Quoted literals with bars between them are read as the expression for any of them. -/
theorem denotes_anyLiteral {literals : List String} (h : literals ≠ []) :
    Denotes (Header.anyLiteral literals).toList
      (Regex.choice ((literals.map String.toList).map Regex.literal)) := by
  have hwords := Regex.denotes_words builds_quotedChar
    (show literals.map String.toList ≠ [] by simpa using h)
  have htext : (Header.anyLiteral literals).toList =
      ['|'].intercalate ((literals.map String.toList).map (List.flatMap quotedChar)) := by
    rw [Header.anyLiteral, String.toList_intercalate, List.map_map, List.map_map]
    refine congrArg _ (List.map_congr_left fun text _ => ?_)
    simp only [Function.comp_apply, Regex.quote, String.toList_ofList]
    rfl
  rw [htext]
  exact hwords

/-- The program of a header is that of an expression. -/
theorem exists_of_program {written named : String} {p : Program}
    (h : Header.program written named = .ok p) :
    ∃ r, Regex.ofText? written.toList = some r ∧ p = .ofRegex r := by
  unfold Header.program Program.ofText? at h
  split at h
  · rename_i found hfound
    cases h
    obtain ⟨r, hr, rfl⟩ := Option.map_eq_some_iff.mp hfound
    exact ⟨r, hr, rfl⟩
  · cases h

/-- The expression of a plain name spells just the name. -/
theorem spellsWhole_bare {name named : String} (hname : IsPlainName name) {p : Program}
    (h : Header.program ("^(?:" ++ name ++ ")$") named = .ok p) :
    ∃ r, p = .ofRegex r ∧ r.SpellsWhole (· = name.toList) := by
  obtain ⟨r, hr, rfl⟩ := exists_of_program h
  have hbody := Regex.ofText?_anchored (denotes_name hname) (r := r) (by simpa using hr)
  exact ⟨r, rfl, hbody ▸ Regex.spellsWhole_anchored (Regex.spells_literal _)⟩

/-- The expression for the literals spells just these. -/
theorem spellsWhole_lead {literals : List String} (hne : literals ≠ []) {named : String}
    {p : Program} (h : Header.program ("^(?:" ++ Header.anyLiteral literals ++ ")$") named = .ok p) :
    ∃ r, p = .ofRegex r ∧ r.SpellsWhole (· ∈ literals.map String.toList) := by
  obtain ⟨r, hr, rfl⟩ := exists_of_program h
  have hbody := Regex.ofText?_anchored (denotes_anyLiteral hne) (r := r) (by simpa using hr)
  exact ⟨r, rfl, hbody ▸ Regex.spellsWhole_anchored (Regex.spells_choice (by simpa using hne))⟩

/-- The expression of a plain name with optional literals spells the name, alone or glued to one of
them. -/
theorem spellsWhole_glued {name named : String} (hname : IsPlainName name) {literals : List String}
    (hne : literals ≠ []) {p : Program}
    (h : Header.program ("^(?:" ++ Header.anyLiteral literals ++ ")?(?:" ++ name ++ ")$") named =
      .ok p) :
    ∃ r, p = .ofRegex r ∧ r.SpellsWhole fun word =>
      word = name.toList ∨ ∃ literal ∈ literals, word = literal.toList ++ name.toList := by
  obtain ⟨r, hr, rfl⟩ := exists_of_program h
  have hbody := Regex.ofText?_optional (denotes_anyLiteral hne) (denotes_name hname) (r := r)
    (by simpa using hr)
  have hlead := Regex.spells_choice (show literals.map String.toList ≠ [] by simpa using hne)
  have hboth := (hlead.optional true).seq (Regex.spells_literal name.toList)
  refine ⟨r, rfl, fun s t => ?_⟩
  rw [hbody, Regex.spellsWhole_pair hboth s t]
  simp

/-- Where the program of the name spells texts, just these are taken as the name, with the value
true. -/
theorem capture?_eq {h : Header} {r : Regex} (hprogram : h.nameProgram = .ofRegex r)
    {words : List Char → Prop} (hr : r.SpellsWhole words) {text : String} {value : Value} :
    h.capture? text = some value ↔ words text.toList ∧ value = .bool true := by
  rw [← hr.search_isSome_iff, Header.capture?, hprogram]
  cases hm : (Program.ofRegex r).search text.toList with
  | none => simp
  | some m => simp [RegexMatch.group?, hr.groups_eq_nil hm, eq_comm]

/-- A text is taken as the name if the program spells it. -/
theorem asText_capture?_eq {h : Header} {r : Regex} (hprogram : h.nameProgram = .ofRegex r)
    {words : List Char → Prop} (hr : r.SpellsWhole words) {token : Token} {value : Value} :
    token.asText?.bind h.capture? = some value ↔
      (∃ text, token = .text text ∧ words text.toList) ∧ value = .bool true := by
  cases token with
  | unit u => simp [Token.asText?]
  | text text => simp [Token.asText?, capture?_eq hprogram hr]

/-- A header of one token accepts the texts that its program spells. -/
theorem accept?_single {p : Program} {r : Regex} (hprogram : p = .ofRegex r)
    {words : List Char → Prop} (hr : r.SpellsWhole words) {tokens : List Token} {value : Value} :
    (Header.single p).accept? tokens = some value ↔
      (∃ text, tokens = [.text text] ∧ words text.toList) ∧ value = .bool true := by
  have hcapture := fun token =>
    @asText_capture?_eq (.single p) r hprogram words hr token value
  unfold Header.accept?
  split
  · rename_i token
    simp only [Header.isLed, Bool.false_eq_true, if_false, hcapture, List.cons.injEq, and_true]
  · simp [Header.isLed]
  · rename_i hone _
    constructor
    · intro h
      cases h
    · rintro ⟨⟨text, rfl, -⟩, -⟩
      exact absurd rfl (hone (.text text))

/-- A header of two tokens accepts the name behind a token that may stand before it. -/
theorem accept?_led {h : Header} {r : Regex} (hprogram : h.nameProgram = .ofRegex r)
    {name : String} (hr : r.SpellsWhole (· = name.toList)) (hled : h.isLed = true)
    {tokens : List Token} {value : Value} :
    h.accept? tokens = some value ↔
      (∃ lead, tokens = [lead, .text name] ∧ h.isLead lead = true) ∧ value = .bool true := by
  have hcapture := fun token => @asText_capture?_eq h r hprogram _ hr token value
  unfold Header.accept?
  split
  · simp [hled]
  · rename_i lead token
    rw [hled, Bool.true_and]
    split
    · rename_i hlead
      rw [hcapture]
      simp [hlead, String.toList_inj]
    · rename_i hlead
      simp [hlead]
  · rename_i htwo
    constructor
    · intro h
      cases h
    · rintro ⟨⟨lead, rfl, -⟩, -⟩
      exact absurd rfl (htwo lead (.text name))

/-- Without kinds of units the leading token is the name, alone or glued to a literal. -/
theorem leadingTokens_of_no_units {name : String} {triggers : List Trigger}
    (h : Trigger.kinds triggers = []) {tokens : List Token} :
    LeadingTokens name triggers tokens ↔
      ∃ text, tokens = [.text text] ∧
        (text = name ∨ ∃ literal ∈ Trigger.literals triggers, text = literal ++ name) := by
  constructor
  · intro htokens
    cases htokens with
    | bare _ => exact ⟨name, rfl, .inl rfl⟩
    | @glued literal _ listed => exact ⟨_, rfl, .inr ⟨literal, listed, rfl⟩⟩
    | afterUnit listed => simp [h] at listed
    | afterLiteral units _ => exact absurd h units
  · rintro ⟨_, rfl, rfl | ⟨literal, listed, rfl⟩⟩
    · exact .bare h
    · exact .glued h listed

/-- With kinds of units the name is the second token, behind a unit of one of them or a literal. -/
theorem leadingTokens_of_units {name : String} {triggers : List Trigger}
    (h : Trigger.kinds triggers ≠ []) {tokens : List Token} :
    LeadingTokens name triggers tokens ↔
      ∃ lead, tokens = [lead, .text name] ∧
        ((∃ u, lead = .unit u ∧ u.kind ∈ Trigger.kinds triggers) ∨
          ∃ literal ∈ Trigger.literals triggers, lead = .text literal) := by
  constructor
  · intro htokens
    cases htokens with
    | bare units => exact absurd units h
    | glued units _ => exact absurd units h
    | @afterUnit u listed => exact ⟨_, rfl, .inl ⟨u, rfl, listed⟩⟩
    | @afterLiteral literal _ listed => exact ⟨_, rfl, .inr ⟨literal, listed, rfl⟩⟩
  · rintro ⟨_, rfl, ⟨u, rfl, listed⟩ | ⟨literal, listed, rfl⟩⟩
    · exact .afterUnit listed
    · exact .afterLiteral h listed

/-- What is made from a result that is accepted comes from an accepted one. -/
theorem exists_of_map {ε α β : Type} {f : α → β} {result : Except ε α} {made : β}
    (h : result.map f = .ok made) : ∃ found, result = .ok found ∧ made = f found := by
  cases result with
  | error _ => cases h
  | ok found =>
    cases h
    exact ⟨found, rfl, rfl⟩

/-- What follows a result that is accepted follows an accepted one. -/
theorem ok_of_bind {ε α β : Type} {result : Except ε α} {f : α → Except ε β} {made : β}
    (h : (result >>= f) = .ok made) : ∃ found, result = .ok found ∧ f found = .ok made := by
  cases result with
  | error _ => cases h
  | ok found => exact ⟨found, rfl, h⟩

/-- A header of a plain name accepts the leading tokens that its triggers ask for, with the value
true. -/
theorem accept?_ofTriggers {name : String} (hname : IsPlainName name) {triggers : List Trigger}
    {header : Header} (h : Header.ofTriggers name triggers = .ok header) {tokens : List Token}
    {value : Value} :
    header.accept? tokens = some value ↔
      LeadingTokens name triggers tokens ∧ value = .bool true := by
  unfold Header.ofTriggers at h
  dsimp only at h
  split at h <;> rename_i hkinds
  · rw [leadingTokens_of_no_units (List.isEmpty_iff.mp hkinds)]
    split at h <;> rename_i hliterals
    · obtain ⟨p, hp, rfl⟩ := exists_of_map h
      obtain ⟨r, hprogram, hr⟩ := spellsWhole_bare hname hp
      rw [accept?_single hprogram hr]
      simp [List.isEmpty_iff.mp hliterals, String.toList_inj]
    · obtain ⟨p, hp, rfl⟩ := exists_of_map h
      have hne : Trigger.literals triggers ≠ [] := by simpa using hliterals
      obtain ⟨r, hprogram, hr⟩ := spellsWhole_glued hname hne hp
      rw [accept?_single hprogram hr]
      simp only [String.toList_inj, ← String.toList_append]
  · have hunits : Trigger.kinds triggers ≠ [] := by simpa using hkinds
    rw [leadingTokens_of_units hunits]
    split at h <;> rename_i hliterals
    · obtain ⟨p, hp, rfl⟩ := exists_of_map h
      obtain ⟨r, hprogram, hr⟩ := spellsWhole_bare hname hp
      rw [@accept?_led (.afterUnit _ p) r hprogram name hr rfl]
      refine and_congr_left' (exists_congr fun lead => and_congr_right' ?_)
      cases lead <;> simp [Header.isLead, List.isEmpty_iff.mp hliterals]
    · have hne : Trigger.literals triggers ≠ [] := by simpa using hliterals
      obtain ⟨leadProgram, hlead, h⟩ := ok_of_bind h
      obtain ⟨nameProgram, hbare, h⟩ := ok_of_bind h
      cases h
      obtain ⟨r, hprogram, hr⟩ := spellsWhole_bare hname hbare
      obtain ⟨s, rfl, hs⟩ := spellsWhole_lead hne hlead
      rw [@accept?_led (.afterLead _ _ nameProgram) r hprogram name hr rfl]
      refine and_congr_left' (exists_congr fun lead => and_congr_right' ?_)
      cases lead <;> simp [Header.isLead, hs.search_isSome_iff, String.toList_inj]

/-- A header that takes its tokens steps over the ones it accepts, and changes no segment. -/
theorem accept?_of_read {header : Header} {separator : String} {c next : Cursor} {value : Value}
    {past tokens : List Token} (hshows : Shows separator c past tokens)
    (h : header.read separator c = .ok (value, next)) :
    ∃ lead rest, tokens = lead ++ rest ∧ header.accept? lead = some value ∧
      Shows separator next (lead.reverse ++ past) rest ∧ next.segments = c.segments := by
  unfold Header.read at h
  cases tokens with
  | nil =>
    rw [hshows.fetch_nil] at h
    cases h
  | cons first rest =>
    obtain ⟨after, hfetch, hafter, hsame⟩ := hshows.fetch_self
    rw [hfetch] at h
    dsimp only at h
    split at h <;> rename_i hled
    · split at h <;> rename_i hlead
      · cases rest with
        | nil =>
          rw [hafter.fetch_nil] at h
          cases h
        | cons name rest =>
          obtain ⟨last, hname, hlast, hkept⟩ := hafter.fetch_self
          rw [hname] at h
          dsimp only at h
          split at h
          · rename_i found hvalue
            cases h
            refine ⟨[first, name], rest, rfl, ?_, hlast, hkept.trans hsame⟩
            simp [Header.accept?, hled, hlead, hvalue]
          · cases h
      · cases h
    · split at h
      · rename_i found hvalue
        cases h
        refine ⟨[first], rest, rfl, ?_, hafter, hsame⟩
        simp [Header.accept?, hled, hvalue]
      · cases h

end CommandGrammar
