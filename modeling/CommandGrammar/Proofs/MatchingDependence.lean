import CommandGrammar.Matching.Analysis

/-!
# What matching depends on

A slot looks at the keywords only to ask whether a text is one of them, and the loops look at the
options and nested commands only to ask which of them a text calls. The order in which keywords are
listed makes no difference, and neither does the order of options where it does not change what is
called.

`MatchesLike` lists what two commands have to agree on, and `MatchesLike.runTokens_eq` says that
they then match the same tokens alike. Cutting the input comes before and is compared by itself, in
`run_congr`.
-/

namespace CommandGrammar

section Keywords

variable {first second : List String} (hwords : ∀ word, word ∈ first ↔ word ∈ second)
include hwords

/-- A token is a keyword of both lists or of none. -/
theorem isKeyword_congr (separator : String) (laterRequired : Nat) (token : Token) :
    (SlotContext.mk separator first laterRequired).isKeyword token =
      (SlotContext.mk separator second laterRequired).isKeyword token := by
  have hcontains : first.contains = second.contains := by
    funext word
    rw [Bool.eq_iff_iff, List.contains_iff_mem, List.contains_iff_mem, hwords]
  simp only [SlotContext.isKeyword, hcontains]

/-- A slot for one token asks only whether the token is a keyword. -/
theorem fillOne_congr (slot : Slot) (separator : String) (laterRequired : Nat) (c : Cursor) :
    slot.fillOne ⟨separator, first, laterRequired⟩ c =
      slot.fillOne ⟨separator, second, laterRequired⟩ c := by
  simp only [Slot.fillOne_cases, isKeyword_congr hwords]

/-- A run asks of each token whether it is a keyword. -/
theorem gather_congr {α : Type} (separator : String) (laterRequired : Nat)
    (collect? : String → Option α) (budget : Nat) (c : Cursor) :
    gather ⟨separator, first, laterRequired⟩ collect? budget c =
      gather ⟨separator, second, laterRequired⟩ collect? budget c := by
  induction budget generalizing c with
  | zero =>
    unfold gather
    rfl
  | succ budget ih =>
    unfold gather
    simp only [isKeyword_congr hwords, ih]

/-- A run ends at the same place and keeps the same items. -/
theorem gatherRun_congr {α : Type} (separator : String) (laterRequired : Nat)
    (collect? : String → Option α) (c : Cursor) :
    gatherRun ⟨separator, first, laterRequired⟩ collect? c =
      gatherRun ⟨separator, second, laterRequired⟩ collect? c := by
  simp only [gatherRun, gather_congr hwords]

/-- What happens to a slot depends on which texts are keywords. -/
theorem slot_fill_congr (slot : Slot) (separator : String) (laterRequired : Nat) (c : Cursor) :
    slot.fill ⟨separator, first, laterRequired⟩ c =
      slot.fill ⟨separator, second, laterRequired⟩ c := by
  unfold Slot.fill
  split
  · simp only [Slot.fillRun, gatherRun_congr hwords]
  · rfl
  · exact fillOne_congr hwords slot separator laterRequired c

/-- What slots are filled with depends on which texts are keywords. -/
theorem fillFrom_congr (separator : String) (slots : List Slot) (c : Cursor)
    (values : SlotValues) :
    SlotList.fillFrom separator first slots c values =
      SlotList.fillFrom separator second slots c values := by
  induction slots generalizing c values with
  | nil => rfl
  | cons slot rest ih =>
    simp only [SlotList.fillFrom, Slot.fillInto, slot_fill_congr hwords, ih]

/-- The same holds of the slots of an entry. -/
theorem entry_fill_congr (e : Entry) (outer : String) (c : Cursor) :
    e.fill outer first c = e.fill outer second c := by
  simp only [Entry.fill, SlotList.fill, fillFrom_congr hwords]

/-- The loop over the options of a nested command depends on which texts are keywords. -/
theorem fillOptions_congr (s : Subcommand) (separator : String) (c : Cursor)
    (options : NameMap SlotValues) :
    s.fillOptions separator first c options = s.fillOptions separator second c options := by
  fun_induction Subcommand.fillOptions s separator first c options with
  | case1 c options hcalled => exact (fillOptions_end hcalled _ _).symm
  | case2 c options e hcalled filling inserted fault hfault =>
    simp only [filling, inserted, entry_fill_congr hwords] at hfault ⊢
    rw [fillOptions_called hcalled]
    simp only [hfault]
  | case3 c options e hcalled filling inserted hfault ih =>
    simp only [filling, inserted, entry_fill_congr hwords] at hfault ih ⊢
    rw [fillOptions_called hcalled]
    simp only [hfault, ih]

/-- What a nested command gives depends on which texts are keywords. -/
theorem subcommand_fill_congr (s : Subcommand) (outer : String) (c : Cursor) :
    s.fill outer first c = s.fill outer second c := by
  simp only [Subcommand.fill, entry_fill_congr hwords, fillOptions_congr hwords]

/-- The loop over options and nested commands depends on the separator, on what each text calls and
on which texts are keywords. -/
theorem fillMembers_congr {a b : Command} (hseparator : a.separator = b.separator)
    (hresolve : ∀ text, a.resolve? text = b.resolve? text) (c : Cursor)
    (options : NameMap SlotValues) (subcommands : NameMap SubcommandValues) :
    a.fillMembers first c options subcommands = b.fillMembers second c options subcommands := by
  have hcalled : ∀ c, a.called? c = b.called? c := by
    intro c
    rw [Command.called?, Command.called?, hseparator, funext hresolve]
  fun_induction Command.fillMembers a first c options subcommands with
  | case1 c options subcommands h =>
    rw [hcalled] at h
    exact (fillMembers_end h _ _ _).symm
  | case2 c options subcommands e h filling inserted fault hfault =>
    rw [hcalled] at h
    simp only [filling, inserted, hseparator, entry_fill_congr hwords] at hfault ⊢
    rw [fillMembers_option h]
    simp only [hfault]
  | case3 c options subcommands e h filling inserted hfault ih =>
    rw [hcalled] at h
    simp only [filling, inserted, hseparator, entry_fill_congr hwords] at hfault ih ⊢
    rw [fillMembers_option h]
    simp only [hfault, ih]
  | case4 c options subcommands s h filling inserted fault hfault =>
    rw [hcalled] at h
    simp only [filling, inserted, hseparator, subcommand_fill_congr hwords] at hfault ⊢
    rw [fillMembers_subcommand h]
    simp only [hfault]
  | case5 c options subcommands s h filling inserted hfault ih =>
    rw [hcalled] at h
    simp only [filling, inserted, hseparator, subcommand_fill_congr hwords] at hfault ih ⊢
    rw [fillMembers_subcommand h]
    simp only [hfault, ih]

end Keywords

/-- The header belongs to the name and the triggers. -/
theorem header_eq_of_config {a b : Command} (hname : a.config.name = b.config.name)
    (htriggers : a.config.triggers = b.config.triggers) : a.header = b.header := by
  have hown := a.header_eq
  rw [hname, htriggers] at hown
  exact Except.ok.inj (hown.symm.trans b.header_eq)

namespace Command

/-- What two commands agree on that match the same tokens alike. -/
structure MatchesLike (a b : Command) : Prop where
  /-- The leading tokens. -/
  header : a.header = b.header
  /-- The characters that split texts. -/
  separator : a.separator = b.separator
  /-- The arguments after the name. -/
  args : a.config.args = b.config.args
  /-- What each text calls. -/
  resolve : ∀ text, a.resolve? text = b.resolve? text
  /-- Which texts are no arguments. -/
  keywords : ∀ word, word ∈ a.keywords ↔ word ∈ b.keywords

variable {a b : Command}

/-- What follows the header is matched alike. -/
theorem MatchesLike.runBody_eq (h : a.MatchesLike b) (header : Value) (c : Cursor) :
    a.runBody header c = b.runBody header c := by
  have hmain : ∀ c, a.config.args.fill a.separator a.keywords c =
      b.config.args.fill b.separator b.keywords c := by
    intro c
    simp only [SlotList.fill, h.args, h.separator, fillFrom_congr h.keywords]
  unfold Command.runBody
  simp only [hmain, fillMembers_congr h.keywords h.separator h.resolve]

/-- The same tokens are matched alike. -/
theorem MatchesLike.runTokens_eq (h : a.MatchesLike b) (c : Cursor) :
    a.runTokens c = b.runTokens c := by
  unfold Command.runTokens
  simp only [h.separator, h.header, h.runBody_eq]

end Command

/-- Commands that cut two inputs into the same tokens and match tokens alike give the same
result. -/
theorem run_congr {a b : Command} {input other : Input}
    (htokens : Cursor.tokenize input a.separator a.config.excluded a.config.raises =
      Cursor.tokenize other b.separator b.config.excluded b.config.raises)
    (hmatch : ∀ c, a.runTokens c = b.runTokens c) : a.run input = b.run other := by
  unfold Command.run
  rw [htokens]
  simp only [hmatch]

end CommandGrammar
