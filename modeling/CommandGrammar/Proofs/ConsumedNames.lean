import CommandGrammar.Proofs.CursorWalks
import CommandGrammar.Proofs.PlainTexts
import CommandGrammar.Proofs.SegmentBoundaries

/-!
# The name that is read and the name that is called

What is called is found by the text that the loop sees with its own separator; its name is then
read with the separator of the entry. The two are the same name where the entry has no separator,
and where the loop sees whole pieces, the entry cuts them by another separator, and no name of the
entry holds a character of it.

`called_by_name` says so for every cursor of a run. `suboption_read_beyond_name` is a run where the
loop reads with a separator of its own: an argument is read together with the name and lost.
-/

namespace CommandGrammar

/-- A piece without separator characters is read whole. -/
theorem readPiece_of_uncut {piece own separator : String}
    (h : ∀ c ∈ piece.toList, c ∉ separator.toList) :
    Cursor.readPiece piece own separator = (piece, "") := by
  have hnone : piece.toList.any separator.toList.contains = false :=
    List.any_eq_false.mpr fun c hc hsep => h c hc (List.contains_iff_mem.mp hsep)
  simp [Cursor.readPiece, recut?, hnone]

/-- A piece with a separator character is cut by a separator other than its own, if there is something
in front of the cut. -/
theorem readPiece_of_separated {piece own separator : String} (hown : own ≠ separator)
    (hsep : ∃ c ∈ piece.toList, c ∈ separator.toList) (hhead : (splitOnce piece separator).1 ≠ "") :
    Cursor.readPiece piece own separator = splitOnce piece separator := by
  obtain ⟨c, hc, hmem⟩ := hsep
  have hsome : piece.toList.any separator.toList.contains = true :=
    List.any_eq_true.mpr ⟨c, hc, List.contains_iff_mem.mpr hmem⟩
  simp [Cursor.readPiece, recut?, hown, hsome, hhead]

/-- A piece that a separator other than its own leaves two parts of is cut into them. -/
theorem readPiece_of_cut {piece own separator : String} (hown : own ≠ separator)
    (hhead : (splitOnce piece separator).1 ≠ "") (hrest : (splitOnce piece separator).2 ≠ "") :
    Cursor.readPiece piece own separator = splitOnce piece separator :=
  readPiece_of_separated hown (exists_separator_of_splitOnce hrest) hhead

/-- What a text calls has it as a name, or as a name with a glued argument. -/
theorem answers_of_callee {α : Type} {entry : α → Entry} {candidates : List α} {text : String}
    {item : α} (h : callee? entry candidates text = some item) :
    text ∈ (entry item).aliases ∨ (entry item).answersGlued text = true := by
  rcases Option.or_eq_some_iff.mp h with h | ⟨-, h⟩
  · have hname := List.find?_some h
    exact .inl (List.contains_iff_mem.mp hname)
  · have hglued := List.find?_some h
    exact .inr hglued

/-- Whether an entry reads as its name what a loop finds it by, where texts were split on `own`: it
has no separator, or the loop sees whole pieces and the separator of the entry is another one that
has no character in common with its names. -/
def Entry.ReadsItsName (e : Entry) (loop own : String) : Prop :=
  e.separator = none ∨ (loop = own ∧ ∀ separator, e.separator = some separator →
    own ≠ separator ∧ ∀ name ∈ e.aliases, ∀ c ∈ name.toList, c ∉ separator.toList)

/-- Whether the token that an entry reads as its name is one of its names. -/
def Entry.NamedBy (e : Entry) (loop : String) (c : Cursor) : Prop :=
  ∃ name next, c.fetch (e.separatorOr loop) = some (.text name, next) ∧ name ∈ e.aliases

/-- The piece that an entry is found by begins with one of its names, the way the entry reads
it. -/
theorem name_of_answers {e : Entry} {loop own piece : String} (hreads : e.ReadsItsName loop own)
    (h : (Cursor.readPiece piece own loop).1 ∈ e.aliases ∨
      e.answersGlued (Cursor.readPiece piece own loop).1 = true) :
    (Cursor.readPiece piece own (e.separatorOr loop)).1 ∈ e.aliases := by
  cases hseparator : e.separator with
  | none =>
    -- The name is read with the separator of the loop, and no argument is glued to it.
    rw [Entry.separatorOr, hseparator, Option.getD_none]
    rcases h with hname | hglued
    · exact hname
    · rw [Entry.answersGlued, hseparator] at hglued
      cases hglued
  | some separator =>
    rcases hreads with hnone | ⟨rfl, hapart⟩
    · cases hseparator.symm.trans hnone
    obtain ⟨hown, hnames⟩ := hapart separator hseparator
    have hwhole : Cursor.readPiece piece loop loop = (piece, "") := by simp [Cursor.readPiece]
    rw [hwhole] at h
    rw [Entry.separatorOr, hseparator, Option.getD_some]
    rcases h with hname | hglued
    · rw [readPiece_of_uncut (hnames piece hname)]
      exact hname
    · simp only [Entry.answersGlued, hseparator, Bool.and_eq_true, bne_iff_ne] at hglued
      obtain ⟨hmem, hrest⟩ := hglued
      have hhead := List.contains_iff_mem.mp hmem
      rw [readPiece_of_cut hown (e.named _ hhead) hrest]
      exact hhead

/-- What is found by the text that a loop sees reads one of its names. -/
theorem namedBy_of_callee {α : Type} {entry : α → Entry} {candidates : List α} {item : α}
    {own loop seen : String} {c : Cursor} (hc : c.Valid own)
    (hpeek : c.peek loop = some (.text seen)) (hcallee : callee? entry candidates seen = some item)
    (hreads : (entry item).ReadsItsName loop own) : (entry item).NamedBy loop c := by
  obtain ⟨past, left, hshows⟩ := hc
  rw [hshows.peek] at hpeek
  obtain ⟨token, hfirst, hseen⟩ := Option.map_eq_some_iff.mp hpeek
  obtain ⟨rest, rfl⟩ := List.head?_eq_some_iff.mp hfirst
  cases token with
  | unit u => cases hseen
  | text piece =>
    cases hseen
    obtain ⟨next, hfetch, -⟩ := hshows.fetch ((entry item).separatorOr loop)
    exact ⟨_, next, hfetch, name_of_answers hreads (answers_of_callee hcallee)⟩

/-- At every cursor of a run, what is called reads one of its names, if it keeps its separator
apart from its names and from the separator of the texts. This holds of an option of a nested
command too, where the loop over it reads with the separator of the texts or the option has no
separator of its own. -/
theorem called_by_name {command : Command} {input : Input} {start : Cursor}
    (hstart : Cursor.tokenize input command.separator command.config.excluded
      command.config.raises = .ok start)
    {separators : List String} {past : List Token} {c : Cursor}
    (hwalk : Walk separators start past c) :
    (∀ member, command.called? c = some member →
      member.entry.ReadsItsName command.separator command.separator →
      member.entry.NamedBy command.separator c) ∧
    ∀ s ∈ command.config.subcommands, ∀ e,
      let loop := s.entry.separatorOr command.separator
      s.called? loop c = some e → e.ReadsItsName loop command.separator → e.NamedBy loop c := by
  have hc : c.Valid command.separator := hwalk.valid ⟨_, _, tokenize_tokens hstart⟩
  constructor
  · intro member hcalled hreads
    obtain ⟨-, seen, hpeek, hresolve⟩ := member_of_called hcalled
    exact namedBy_of_callee hc hpeek hresolve hreads
  · intro s _ e loop hcalled hreads
    obtain ⟨-, seen, hpeek, hresolve⟩ := suboption_of_called hcalled
    exact @namedBy_of_callee _ id _ _ _ _ _ _ hc hpeek hresolve hreads

/-- The receiver stands after the name of its option, glued to it by the separator of the
option. -/
theorem called_by_name_say :
    let segments : List Segment := [.text ["say", "hello", "--to=me"] " "]
    Cursor.tokenize (.text "say hello --to=me") sayCommand.separator sayCommand.config.excluded
        sayCommand.config.raises = .ok ⟨segments, 0, 0⟩ ∧
      Walk [" "] ⟨segments, 0, 0⟩ [.text "hello", .text "say"] ⟨segments, 0, 2⟩ ∧
      sayCommand.called? ⟨segments, 0, 2⟩ = some (.option receiverOption) ∧
      receiverOption.ReadsItsName " " " " ∧ receiverOption.NamedBy " " ⟨segments, 0, 2⟩ := by
  intro segments
  have hstart : Cursor.tokenize (.text "say hello --to=me") sayCommand.separator
      sayCommand.config.excluded sayCommand.config.raises = .ok ⟨segments, 0, 0⟩ := by rfl
  have hfirst : Walk [" "] ⟨segments, 0, 0⟩ [.text "say"] ⟨segments, 0, 1⟩ :=
    Walk.here.read (List.mem_singleton.mpr rfl) (by rfl)
  have hwalk : Walk [" "] ⟨segments, 0, 0⟩ [.text "hello", .text "say"] ⟨segments, 0, 2⟩ :=
    hfirst.read (List.mem_singleton.mpr rfl) (by rfl)
  have hcalled : sayCommand.called? ⟨segments, 0, 2⟩ = some (.option receiverOption) := by rfl
  have hreads : receiverOption.ReadsItsName " " " " := by
    refine .inr ⟨rfl, fun separator hseparator => ?_⟩
    cases hseparator
    have hfree : ∀ name ∈ receiverOption.aliases,
        name.toList.any "=".toList.contains = false := by decide
    exact ⟨by decide, fun name hname c hc hsep =>
      List.any_eq_false.mp (hfree name hname) c hc (List.contains_iff_mem.mpr hsep)⟩
  exact ⟨hstart, hwalk, hcalled, hreads, (called_by_name hstart hwalk).1 _ hcalled hreads⟩

/-- An option without slots that is read with an equals sign, as the one for the receiver is. -/
def flagOption : Entry :=
  { receiverOption with
    name := "-f", others := [], args := .empty, named := by decide, distinct := by decide }

/-- A nested command whose options are found between commas. -/
def setCommand : Subcommand where
  entry := { flagOption with
    name := "set", separator := some ",", named := by decide, distinct := by decide,
    separates := by decide }
  options := [flagOption]
  distinct := by decide

/-- A command with the nested command. -/
def goCommand : Command :=
  (Command.ofConfig { CommandConfig.ofName "go" with
    subcommands := [setCommand] }).toOption.get (by decide +kernel)

/-- The option is found in front of the comma and read with what follows it: what is read as its
name is none of its names, and though the option has no slots nothing is left after it. -/
theorem suboption_read_beyond_name :
    let segments : List Segment := [.text ["go", "set", "-f,x"] " "]
    let c : Cursor := ⟨segments, 0, 2⟩
    Cursor.tokenize (.text "go set -f,x") goCommand.separator goCommand.config.excluded
        goCommand.config.raises = .ok ⟨segments, 0, 0⟩ ∧
      Walk goCommand.separators ⟨segments, 0, 0⟩ [.text "set", .text "go"] c ∧
      setCommand ∈ goCommand.config.subcommands ∧
      setCommand.entry.separatorOr goCommand.separator = "," ∧
      setCommand.called? "," c = some flagOption ∧ ¬ flagOption.NamedBy "," c ∧
      (setCommand.fillOptions "," goCommand.keywords c .empty).fault = none ∧
      (setCommand.fillOptions "," goCommand.keywords c .empty).cursor.rest = [] := by
  intro segments c
  have hfirst : Walk goCommand.separators ⟨segments, 0, 0⟩ [.text "go"] ⟨segments, 0, 1⟩ :=
    Walk.here.read List.mem_cons_self (by rfl)
  have hsecond : Walk goCommand.separators ⟨segments, 0, 0⟩ [.text "set", .text "go"] c :=
    hfirst.read (List.mem_cons_of_mem _ List.mem_cons_self) (by rfl)
  have hcalled : setCommand.called? "," c = some flagOption := by rfl
  have hunnamed : ¬ flagOption.NamedBy "," c := by
    have hfetch : c.fetch "=" = some (.text "-f,x", ⟨segments, 1, 0⟩) := by rfl
    rintro ⟨name, next, hname, hlisted⟩
    cases hfetch.symm.trans hname
    revert hlisted
    decide
  have hloop : setCommand.fillOptions "," goCommand.keywords c .empty =
      ⟨⟨segments, 1, 0⟩, NameMap.empty.insert "-f" .empty, none⟩ := by
    rw [fillOptions_called hcalled]
    exact fillOptions_end (by rfl) _ _
  refine ⟨by rfl, hsecond, List.mem_singleton.mpr rfl, by rfl, hcalled, hunnamed, ?_, ?_⟩
  · rw [hloop]
  · rw [hloop]
    rfl

end CommandGrammar
