import CommandGrammar.Matching.FailureSpan
import CommandGrammar.Proofs.BytePlaces
import CommandGrammar.Proofs.LeftoverTokens

/-!
# What the span of a failure shows

The span of a failure is searched for from the end of the source. It ends no later than the source
and begins at a character; where nothing of the text left is found it is empty and stands at the
end.

The search takes the whole text left, the size is that of its first run of characters which do not
separate. So the span shows this run unless the text left begins with a separator character and is
found as a whole: then the span begins in front of the run, and it may end inside a character.
`MatchError.shownBy_spanIn_iff` says so of every error, and `error_span_shows` of the error of a
run, where only a quoted token of the source can be left like that.
-/

namespace CommandGrammar

open Cursor (Shows)

/-- A text that stands in another is found at its last place. -/
theorem length_le_of_lastBefore? {needle text front other : List Char}
    (h : lastBefore? needle text = some front) (hother : other ++ needle <+: text) :
    other.length ≤ front.length := by
  induction text generalizing front other with
  | nil =>
    have hnil : other = [] := (List.append_eq_nil_iff.mp (List.prefix_nil.mp hother)).1
    simp [hnil]
  | cons c rest ih =>
    cases other with
    | nil => exact Nat.zero_le _
    | cons d other =>
      obtain ⟨rfl, hrest⟩ := List.cons_prefix_cons.mp hother
      cases hlast : lastBefore? needle rest with
      | none =>
        have hoccurs : needle <:+: rest := (List.suffix_append _ _).isInfix.trans hrest.isInfix
        exact absurd hoccurs (lastBefore?_eq_none hlast)
      | some found =>
        have hfound := ih hlast hrest
        simp only [lastBefore?, hlast, Option.some.injEq] at h
        rw [← h, List.length_cons, List.length_cons]
        omega

/-- What is found is the last of the places where a text stands in another. -/
theorem lastBefore?_eq_some_iff {needle text front : List Char} :
    lastBefore? needle text = some front ↔
      front ++ needle <+: text ∧
        ∀ other, other ++ needle <+: text → other.length ≤ front.length := by
  refine ⟨fun h => ⟨lastBefore?_eq_some h, fun other => length_le_of_lastBefore? h⟩, ?_⟩
  rintro ⟨hstands, hlast⟩
  cases hfound : lastBefore? needle text with
  | none =>
    have hoccurs : needle <:+: text := (List.suffix_append _ _).isInfix.trans hstands.isInfix
    exact absurd hoccurs (lastBefore?_eq_none hfound)
  | some found =>
    -- Both are fronts of the text, and neither is longer than the other.
    have hle := hlast found (lastBefore?_eq_some hfound)
    have hge := length_le_of_lastBefore? hfound hstands
    have hfront : front <+: text := (List.prefix_append _ _).trans hstands
    have hother : found <+: text := (List.prefix_append _ _).trans (lastBefore?_eq_some hfound)
    rw [List.prefix_iff_eq_take.mp hfront, List.prefix_iff_eq_take.mp hother,
      Nat.le_antisymm hle hge]

/-- The characters of a text in a span, if it begins and ends between characters. -/
def slice? (text : List Char) (span : ByteSpan) : Option (List Char) :=
  (cutAtByte? span.start text).bind fun (_, ahead) => (cutAtByte? span.size ahead).map Prod.fst

/-- A slice is shown exactly where it stands. -/
theorem slice?_eq_some_iff {text shown : List Char} {span : ByteSpan} :
    slice? text span = some shown ↔
      ∃ front, front ++ shown <+: text ∧ byteSize front = span.start ∧
        byteSize shown = span.size := by
  unfold slice?
  constructor
  · intro h
    obtain ⟨⟨front, ahead⟩, hstart, hcut⟩ := Option.bind_eq_some_iff.mp h
    obtain ⟨⟨found, back⟩, hsize, rfl⟩ := Option.map_eq_some_iff.mp hcut
    obtain ⟨rfl, hfront⟩ := cutAtByte?_eq_some_iff.mp hstart
    obtain ⟨rfl, hfound⟩ := cutAtByte?_eq_some_iff.mp hsize
    exact ⟨front, ⟨back, List.append_assoc ..⟩, hfront, hfound⟩
  · rintro ⟨front, ⟨back, rfl⟩, hfront, hshown⟩
    have hstart : cutAtByte? span.start (front ++ shown ++ back) = some (front, shown ++ back) :=
      cutAtByte?_eq_some_iff.mpr ⟨List.append_assoc .., hfront⟩
    have hsize : cutAtByte? span.size (shown ++ back) = some (shown, back) :=
      cutAtByte?_eq_some_iff.mpr ⟨rfl, hshown⟩
    rw [hstart, Option.bind_some]
    dsimp only
    rw [hsize, Option.map_some]

/-- Whether a text is the first run of characters of another that do not separate. -/
structure IsFirstRun (separators text run : List Char) : Prop where
  /-- The run has a character. -/
  filled : run ≠ []
  /-- None of its characters separates. -/
  kept : ∀ c ∈ run, c ∉ separators
  /-- In front of it are separator characters, and behind it comes one or the end. -/
  stands : ∃ front back, text = front ++ run ++ back ∧ (∀ c ∈ front, c ∈ separators) ∧
    ∀ c ∈ back.head?, c ∈ separators

/-- The leading piece of a text is its first run, or the whole text if all of it separates. -/
theorem leadingPiece_cases (separators text : List Char) :
    IsFirstRun separators text (leadingPiece separators text) ∨
      (leadingPiece separators text = text ∧ ∀ c ∈ text, c ∈ separators) := by
  have hfront : ∀ c ∈ text.takeWhile separators.contains, c ∈ separators := fun c hc => by
    simpa using List.all_eq_true.mp List.all_takeWhile c hc
  cases hahead : text.dropWhile separators.contains with
  | nil =>
    have htext : text.takeWhile separators.contains = text := by
      simpa [hahead] using List.takeWhile_append_dropWhile (p := separators.contains) (l := text)
    exact .inr ⟨by simp [leadingPiece, hahead], htext ▸ hfront⟩
  | cons c rest =>
    have hc : c ∉ separators := by
      have hhead := List.head_dropWhile_not separators.contains (l := text) (by simp [hahead])
      simpa [hahead] using hhead
    have hpiece : leadingPiece separators text =
        (c :: rest).takeWhile fun c => !separators.contains c := by
      simp [leadingPiece, hahead, hc]
    refine .inl ⟨by simp [hpiece, hc], fun d hd => ?_, text.takeWhile separators.contains,
      (c :: rest).dropWhile fun c => !separators.contains c, ?_, hfront, fun d hd => ?_⟩
    · rw [hpiece] at hd
      simpa using List.all_eq_true.mp List.all_takeWhile d hd
    · rw [hpiece, List.append_assoc, List.takeWhile_append_dropWhile, ← hahead,
        List.takeWhile_append_dropWhile]
    · have hback := List.head?_dropWhile_not (fun c => !separators.contains c) (c :: rest)
      rw [Option.mem_def.mp hd] at hback
      simpa using hback

/-- The leading piece of a text has no more bytes than the text. -/
theorem byteSize_leadingPiece_le (separators text : List Char) :
    byteSize (leadingPiece separators text) ≤ byteSize text := by
  rcases leadingPiece_cases separators text with ⟨-, -, front, back, htext, -⟩ | ⟨hwhole, -⟩
  · have hsize := congrArg byteSize htext
    simp only [byteSize_append] at hsize
    omega
  · exact Nat.le_of_eq (congrArg byteSize hwhole)

/-- A text without the blank characters at its back is a front of it. -/
theorem trimBack_prefix (source : String) : (trimBack source).toList <+: source.toList := by
  have hsuffix := List.dropWhile_suffix (l := source.toList.reverse) isBlank
  simpa [trimBack] using List.reverse_prefix.mpr hsuffix

namespace MatchError

/-- Whether a span of the source shows nothing, or the first run of the first text left. -/
def ShownBy (e : MatchError) (source separator : String) (span : ByteSpan) : Prop :=
  ∃ shown, slice? source.toList span = some shown ∧
    (shown = [] ∨ ∃ text others, e.remainder = .text text :: others ∧
      IsFirstRun separator.toList text.toList shown)

/-- Whether the first text left begins with a separator character, and is found in the source as a
whole. -/
def IsLed (e : MatchError) (source separator : String) : Prop :=
  ∃ text others, e.remainder = .text text :: others ∧
    (∃ c ∈ text.toList.head?, c ∈ separator.toList) ∧ text.toList <:+: source.toList

/-- A span stands at the last place of the first text left, else at the last place of its leading
piece, else it is empty and stands at the end of the source. -/
theorem spanIn_cases (e : MatchError) (source separator : String) :
    (∃ text others, e.remainder = .text text :: others ∧
      ∃ front, e.spanIn source separator =
          ⟨byteSize front, byteSize (leadingPiece separator.toList text.toList)⟩ ∧
        (lastBefore? text.toList source.toList = some front ∨
          (lastBefore? text.toList source.toList = none ∧
            lastBefore? (leadingPiece separator.toList text.toList) source.toList = some front))) ∨
    ((∀ text others, e.remainder = .text text :: others →
        lastBefore? text.toList source.toList = none) ∧
      e.spanIn source separator = ⟨byteSize (trimBack source).toList, 0⟩) := by
  unfold spanIn
  split
  · rename_i text others hremainder
    cases hplace : placeOf? source.toList text.toList
        (leadingPiece separator.toList text.toList) with
    | none =>
      obtain ⟨hwhole, -⟩ := Option.or_eq_none_iff.mp hplace
      refine .inr ⟨fun found rest hfound => ?_, by simp [hplace]⟩
      cases hremainder.symm.trans hfound
      exact hwhole
    | some front =>
      exact .inl ⟨text, others, hremainder, front, by simp [hplace], Option.or_eq_some_iff.mp hplace⟩
  · rename_i hno
    exact .inr ⟨fun text others htext => absurd htext (hno text others), rfl⟩

/-- A span ends no later than the source, and begins where a character does or the source ends. -/
theorem spanIn_inside (e : MatchError) (source separator : String) :
    (e.spanIn source separator).stop ≤ byteSize source.toList ∧
      (cutAtByte? (e.spanIn source separator).start source.toList).isSome := by
  have hplace : ∀ front, front <+: source.toList →
      (cutAtByte? (byteSize front) source.toList).isSome := by
    rintro front ⟨back, hback⟩
    rw [← hback, cutAtByte?_append]
    rfl
  rcases e.spanIn_cases source separator with
    ⟨text, others, -, front, hspan, hwhole | ⟨-, hpiece⟩⟩ | ⟨-, hspan⟩
  · have hstands := lastBefore?_eq_some hwhole
    have hsize := byteSize_le_of_front hstands
    have hle := byteSize_leadingPiece_le separator.toList text.toList
    rw [byteSize_append] at hsize
    simp only [hspan, ByteSpan.stop]
    exact ⟨by omega, hplace _ ((List.prefix_append _ _).trans hstands)⟩
  · have hstands := lastBefore?_eq_some hpiece
    have hsize := byteSize_le_of_front hstands
    rw [byteSize_append] at hsize
    simp only [hspan, ByteSpan.stop]
    exact ⟨by omega, hplace _ ((List.prefix_append _ _).trans hstands)⟩
  · have hprefix := trimBack_prefix source
    simp only [hspan, ByteSpan.stop, Nat.add_zero]
    exact ⟨byteSize_le_of_front hprefix, hplace _ hprefix⟩

/-- A span at the place of its own text shows it. -/
theorem slice?_of_stands {text front shown : List Char} (h : front ++ shown <+: text) :
    slice? text ⟨byteSize front, byteSize shown⟩ = some shown :=
  slice?_eq_some_iff.mpr ⟨front, h, rfl, rfl⟩

/-- Where a text stands, a span which is no larger than it shows a front of it. -/
theorem prefix_of_slice? {source front text shown : List Char} {size : Nat}
    (hstands : front ++ text <+: source) (hsize : size ≤ byteSize text)
    (hshown : slice? source ⟨byteSize front, size⟩ = some shown) : shown <+: text := by
  obtain ⟨other, hother, hstart, hbytes⟩ := slice?_eq_some_iff.mp hshown
  have hfront : front <+: source := (List.prefix_append _ _).trans hstands
  obtain rfl := eq_of_byteSize_eq ((List.prefix_append _ _).trans hother) hfront hstart
  rcases List.prefix_or_prefix_of_prefix hother hstands with h | h
  · exact (List.prefix_append_right_inj _).mp h
  · -- The text is no longer than what is shown, and has as many bytes.
    have hle := (List.prefix_append_right_inj _).mp h
    have hbytes' : byteSize text = byteSize shown :=
      Nat.le_antisymm (byteSize_le_of_front hle) (hbytes.symm ▸ hsize)
    exact (eq_of_byteSize_eq hle (List.prefix_refl _) hbytes') ▸ List.prefix_refl _

/-- The leading piece of a text that does not begin with a separator character is its first run and
stands at its front, unless the text is empty. -/
theorem leadingPiece_of_not_led {separators text : List Char}
    (h : ¬ ∃ c ∈ text.head?, c ∈ separators) :
    leadingPiece separators text <+: text ∧
      (leadingPiece separators text = [] ∨
        IsFirstRun separators text (leadingPiece separators text)) := by
  rcases leadingPiece_cases separators text with hrun | ⟨hwhole, hall⟩
  · obtain ⟨front, back, htext, hfront, -⟩ := hrun.stands
    have hnil : front = [] := by
      cases front with
      | nil => rfl
      | cons c front =>
        rw [htext] at h
        exact absurd ⟨c, rfl, hfront c List.mem_cons_self⟩ h
    refine ⟨⟨back, ?_⟩, .inr hrun⟩
    simpa [hnil] using htext.symm
  · cases text with
    | nil => exact ⟨hwhole ▸ List.prefix_refl _, .inl hwhole⟩
    | cons c rest => exact absurd ⟨c, rfl, hall c List.mem_cons_self⟩ h

/-- The leading piece of a text with characters has one. -/
theorem leadingPiece_ne_nil {separators text : List Char} (h : text ≠ []) :
    leadingPiece separators text ≠ [] := by
  rcases leadingPiece_cases separators text with hrun | ⟨hwhole, -⟩
  · exact hrun.filled
  · rwa [hwhole]

/-- A span shows the first run of the text left unless that begins with a separator character and
is found as a whole. -/
theorem shownBy_spanIn_iff (e : MatchError) (source separator : String) :
    e.ShownBy source separator (e.spanIn source separator) ↔ ¬ e.IsLed source separator := by
  rcases e.spanIn_cases source separator with
    ⟨text, others, hremainder, front, hspan, hwhole | ⟨hwhole, hpiece⟩⟩ | ⟨hnone, hspan⟩ <;>
    rw [hspan]
  · have hstands := lastBefore?_eq_some hwhole
    have hoccurs : text.toList <:+: source.toList :=
      (List.suffix_append _ _).isInfix.trans hstands.isInfix
    constructor
    · -- What is shown begins with the first character of the text, so that does not separate.
      rintro ⟨shown, hshown, hrun⟩ ⟨found, rest, hfound, ⟨c, hc, hsep⟩, -⟩
      cases hremainder.symm.trans hfound
      obtain ⟨back, hback⟩ :=
        prefix_of_slice? hstands (byteSize_leadingPiece_le separator.toList text.toList) hshown
      obtain ⟨-, -, -, hbytes⟩ := slice?_eq_some_iff.mp hshown
      have hfilled : leadingPiece separator.toList text.toList ≠ [] :=
        leadingPiece_ne_nil fun hnil => by simp [hnil] at hc
      cases shown with
      | nil => exact hfilled (byteSize_eq_zero.mp hbytes.symm)
      | cons d shown =>
        obtain ⟨_, _, hsame, hrun⟩ := hrun.resolve_left (List.cons_ne_nil _ _)
        rw [← hback, Option.mem_def, List.cons_append, List.head?_cons] at hc
        cases hc
        exact hrun.kept c List.mem_cons_self hsep
    · intro hled
      have hhead : ¬ ∃ c ∈ text.toList.head?, c ∈ separator.toList :=
        fun h => hled ⟨text, others, hremainder, h, hoccurs⟩
      obtain ⟨hfront, hrun⟩ := leadingPiece_of_not_led hhead
      have hshown := ((List.prefix_append_right_inj front).mpr hfront).trans hstands
      exact ⟨_, slice?_of_stands hshown, hrun.imp_right fun h => ⟨text, others, hremainder, h⟩⟩
  · refine iff_of_true ?_ ?_
    · refine ⟨_, slice?_of_stands (lastBefore?_eq_some hpiece), ?_⟩
      rcases leadingPiece_cases separator.toList text.toList with hrun | ⟨hsame, -⟩
      · exact .inr ⟨text, others, hremainder, hrun⟩
      · rw [hsame, hwhole] at hpiece
        cases hpiece
    · rintro ⟨found, rest, hfound, -, hoccurs⟩
      cases hremainder.symm.trans hfound
      exact lastBefore?_eq_none hwhole hoccurs
  · refine iff_of_true ?_ ?_
    · refine ⟨[], slice?_eq_some_iff.mpr ⟨_, ?_, rfl, rfl⟩, .inl rfl⟩
      rw [List.append_nil]
      exact trimBack_prefix source
    · rintro ⟨text, others, hremainder, -, hoccurs⟩
      exact lastBefore?_eq_none (hnone text others hremainder) hoccurs

end MatchError

/-- Along a walk over single pieces the tokens stay single pieces. -/
theorem Walk.plain {separators : List String} {start c : Cursor} {read before left : List Token}
    {own : String} (walk : Walk separators start read c) (h : Shows own start before left)
    (hplain : ∀ token ∈ before ++ left, token.IsPlain own) :
    ∃ past rest, Shows own c past rest ∧ ∀ token ∈ past ++ rest, token.IsPlain own := by
  suffices hread : ∃ rest, Shows own c (read ++ before) rest ∧
      ∀ token ∈ (read ++ before) ++ rest, token.IsPlain own from ⟨_, hread⟩
  induction walk with
  | here => exact ⟨left, h, hplain⟩
  | @read past c next separator token _ _ fetch ih =>
    obtain ⟨rest, hrest, hall⟩ := ih
    cases rest with
    | nil => cases (hrest.fetch_nil separator).symm.trans fetch
    | cons first rest =>
      obtain ⟨found, hfetch, hfound⟩ := hrest.fetch separator
      cases hfetch.symm.trans fetch
      -- The parts of the token that was read are single pieces as it was.
      obtain ⟨hhead, hparts⟩ := readToken_isPlain (hall first (by simp)) separator
      refine ⟨_, hfound, fun token htoken => ?_⟩
      simp only [List.cons_append, List.mem_cons, List.mem_append] at htoken
      rcases htoken with rfl | htoken | htoken | htoken
      · exact hhead
      · exact hall token (List.mem_append_left _ (by simpa using htoken))
      · exact hparts token htoken
      · exact hall token (by simp [htoken])
  | back _ ih =>
    obtain ⟨rest, hrest, hall⟩ := ih
    exact ⟨_, hrest.pushBack, fun token htoken => hall token (by simpa [or_left_comm] using htoken)⟩

/-- A run leaves nothing, or what is ahead of a cursor that went a walk over the tokens of the
input. -/
theorem run_remainder (command : Command) (input : Input) :
    (command.run input).remainder = [] ∨
      ∃ start past c, Cursor.tokenize input command.separator command.config.excluded
          command.config.raises = .ok start ∧
        Walk command.separators start past c ∧ (command.run input).remainder = c.rest := by
  unfold Command.run
  split
  · exact .inl rfl
  · rename_i start hstart
    obtain ⟨token, rest, hshows⟩ := tokenize_first hstart
    unfold Command.runTokens
    split
    · rename_i found c hread
      obtain ⟨rfl, -⟩ := read_refused hshows hread
      exact .inr ⟨c, [], c, hstart, .here, rfl⟩
    · rename_i value c hread
      have hlisted : command.separator ∈ command.separators := List.mem_cons_self
      obtain ⟨name, past, hheader⟩ := walk_read hlisted hread
      obtain ⟨d, hends⟩ := runBody_ends command value (hheader.valid ⟨_, _, hshows⟩)
      obtain ⟨more, hbody⟩ := hends.walk
      exact .inr ⟨start, _, d, hstart, hheader.trans hbody, hends.remainder⟩

/-- Where the tokens of the input are single pieces, no text left begins with a separator
character. -/
theorem not_led_of_plain {command : Command} {input : Input}
    (hplain : ∀ token ∈ input.tokens command.separator command.config.excluded,
      token.IsPlain command.separator) {text : String} {others : List Token}
    (h : (command.run input).remainder = .text text :: others) :
    ¬ ∃ c ∈ text.toList.head?, c ∈ command.separator.toList := by
  rcases run_remainder command input with hnil | ⟨start, read, c, hstart, hwalk, hrest⟩
  · rw [hnil] at h
    cases h
  · obtain ⟨past, left, hshows, hall⟩ := hwalk.plain (tokenize_tokens hstart) (by simpa using hplain)
    rw [hrest] at h
    cases left with
    | nil =>
      rw [rest_nil hshows] at h
      cases h
    | cons token left =>
      obtain ⟨first, more, hfirst, hfronts⟩ := rest_first hshows
      cases h.symm.trans hfirst
      have htoken := hall token (by simp)
      cases token with
      | unit u => cases hfronts
      | text piece =>
        -- The text begins with a piece, so with a character that does not separate.
        obtain ⟨whole, hwhole, back, hback⟩ := hfronts
        cases hwhole
        obtain ⟨hne, hpiece⟩ := htoken
        rintro ⟨d, hd, hsep⟩
        cases hchars : piece.toList with
        | nil => exact hne (String.toList_inj.mp hchars)
        | cons head rest =>
          rw [← hback, hchars, Option.mem_def, List.cons_append, List.head?_cons] at hd
          cases hd
          exact (hpiece d (by simp [hchars])).1 hsep

/-- The span of the error of a run ends no later than the source and begins between characters. It
shows the first run of the text left, or nothing, unless that text begins with a separator
character and is found as a whole; this takes a quoted token. -/
theorem error_span_shows {command : Command} {source : String} {e : MatchError}
    (h : (command.run (.text source)).error? = some e) :
    let span := e.spanIn source command.separator
    span.start ≤ span.stop ∧ span.stop ≤ byteSize source.toList ∧
      (cutAtByte? span.start source.toList).isSome ∧
      (e.ShownBy source command.separator span ↔ ¬ e.IsLed source command.separator) ∧
      (e.IsLed source command.separator → ∃ c ∈ source.toList, isQuote c = true) := by
  intro span
  obtain ⟨hstop, hstart⟩ := e.spanIn_inside source command.separator
  refine ⟨Nat.le_add_right _ _, hstop, hstart, e.shownBy_spanIn_iff source command.separator, ?_⟩
  rintro ⟨text, others, hleft, hhead, -⟩
  have hremainder := ((command.run_agrees _).remainder e h).symm.trans hleft
  refine Decidable.byContradiction fun hnone => not_led_of_plain (fun token => ?_) hremainder hhead
  refine isPlain_of_mem_tokens fun whole hwhole c hc => ?_
  cases List.mem_singleton.mp hwhole
  exact Bool.eq_false_iff.mpr fun hquote => hnone ⟨c, hc, hquote⟩

/-- The error of a run is its fault with its remainder. -/
theorem run_error_of_parts {command : Command} {input : Input} {fault : MatchFault}
    {remainder : List Token} (hfault : (command.run input).fault = some fault)
    (hremainder : (command.run input).remainder = remainder) :
    (command.run input).error? = some ⟨fault, remainder⟩ := by
  rw [(command.run_agrees input).error_eq, hfault, hremainder]
  rfl

/-- A command that has a name only. -/
def bareCommand : Command :=
  (Command.ofConfig (CommandConfig.ofName "go")).toOption.get (by decide +kernel)

/-- A source without quotes whose first token is another name. -/
theorem error_span_shows_umlaut :
    let source := "gö now"
    let e : MatchError := ⟨.headerMismatch "gö", [.text "gö now"]⟩
    let span := e.spanIn source bareCommand.separator
    (bareCommand.run (.text source)).error? = some e ∧
      span.start ≤ span.stop ∧ span.stop ≤ byteSize source.toList ∧
      (cutAtByte? span.start source.toList).isSome ∧
      (e.ShownBy source bareCommand.separator span ↔ ¬ e.IsLed source bareCommand.separator) ∧
      (e.IsLed source bareCommand.separator → ∃ c ∈ source.toList, isQuote c = true) := by
  intro source e span
  have hfault : (bareCommand.run (.text source)).fault = some e.fault := by decide +kernel
  have hremainder : (bareCommand.run (.text "gö now")).remainder = [.text "gö now"] := by rfl
  have herror : (bareCommand.run (.text source)).error? = some e :=
    run_error_of_parts hfault hremainder
  exact ⟨herror, error_span_shows herror⟩

/-- A quoted token that begins with a separator character: the span begins in front of that and
ends inside the character behind it, so it shows nothing at all. -/
theorem quoted_blank_span :
    let source := "\" é\""
    let e : MatchError := ⟨.headerMismatch " é", [.text " é"]⟩
    let span := e.spanIn source bareCommand.separator
    (bareCommand.run (.text source)).error? = some e ∧
      span = ⟨1, 2⟩ ∧ cutAtByte? span.stop source.toList = none ∧
      slice? source.toList span = none ∧ slice? source.toList ⟨2, 2⟩ = some ['é'] := by
  intro source e span
  have hfault : (bareCommand.run (.text source)).fault = some e.fault := by decide +kernel
  have hremainder : (bareCommand.run (.text "\" é\"")).remainder = [.text " é"] := by rfl
  have herror : (bareCommand.run (.text source)).error? = some e :=
    run_error_of_parts hfault hremainder
  exact ⟨herror, by decide +kernel, by decide +kernel, by decide +kernel, by decide +kernel⟩

end CommandGrammar
