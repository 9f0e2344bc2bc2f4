import CommandGrammar.Proofs.DeliveredTokens

/-!
# Texts in quotes

A text that lacks one of the quote characters is written between two of them. Such texts, joined by
runs of separator characters, make an input whose tokens are the texts again: separators, blanks and
the other quote between two quotes are characters like any others.

`JoinsQuoted` relates texts to every input that is made of them so, and `quoting_undone` says that
reading the input on delivers just these texts. `exists_joinsQuoted_iff` says which texts can be
written in this way at all.
-/

namespace CommandGrammar

open Cursor (Shows)

/-! ### Quoting -/

/-- A text with the quote character that it is enclosed in. -/
structure QuotedText where
  /-- The text. -/
  text : String
  /-- The quote character. -/
  quote : Char
  /-- The text has a character. -/
  filled : text ≠ ""
  /-- The quote character is one of the two. -/
  quotes : isQuote quote = true
  /-- The quote character does not occur in the text. -/
  lacks : quote ∉ text.toList

namespace QuotedText

/-- The text between two of its quote characters. -/
def spelled (q : QuotedText) : String := String.ofList (q.quote :: (q.text.toList ++ [q.quote]))

/-- A text is quoted in double quotes or in single ones. -/
theorem quote_eq (q : QuotedText) : q.quote = '"' ∨ q.quote = '\'' := by
  simpa [isQuote] using q.quotes

/-- A text can be quoted when it has a character and lacks one of the quote characters. -/
theorem exists_iff {text : String} :
    (∃ q : QuotedText, q.text = text) ↔
      text ≠ "" ∧ ('"' ∉ text.toList ∨ '\'' ∉ text.toList) := by
  constructor
  · rintro ⟨q, rfl⟩
    refine ⟨q.filled, q.quote_eq.imp (fun hdouble => ?_) fun hsingle => ?_⟩
    · exact hdouble ▸ q.lacks
    · exact hsingle ▸ q.lacks
  · rintro ⟨hfilled, hdouble | hsingle⟩
    · exact ⟨⟨text, '"', hfilled, by decide, hdouble⟩, rfl⟩
    · exact ⟨⟨text, '\'', hfilled, by decide, hsingle⟩, rfl⟩

end QuotedText

/-- Whether an input is made of texts in quotes, with a run of separator characters between each two
of them. -/
inductive JoinsQuoted (separators : String) : List QuotedText → String → Prop
  /-- One text in quotes. -/
  | single (q : QuotedText) : JoinsQuoted separators [q] q.spelled
  /-- A text in quotes in front of others. -/
  | join {q : QuotedText} {others : List QuotedText} {back : String} (run : String)
      (filled : run ≠ "")
      (separates : ∀ c ∈ run.toList, c ∈ separators.toList)
      (joined : JoinsQuoted separators others back) :
      JoinsQuoted separators (q :: others) (q.spelled ++ run ++ back)

/-- With a separator character, all lists of texts that can be quoted can be joined. -/
theorem exists_joinsQuoted_iff {separators : String} (h : separators ≠ "") (texts : List String) :
    (∃ quoted input, quoted.map QuotedText.text = texts ∧ JoinsQuoted separators quoted input) ↔
      texts ≠ [] ∧ ∀ text ∈ texts, text ≠ "" ∧ ('"' ∉ text.toList ∨ '\'' ∉ text.toList) := by
  constructor
  · rintro ⟨quoted, input, rfl, hjoins⟩
    refine ⟨by cases hjoins <;> simp, fun text htext => ?_⟩
    obtain ⟨q, -, hq⟩ := List.mem_map.mp htext
    exact QuotedText.exists_iff.mp ⟨q, hq⟩
  · rintro ⟨hsome, htexts⟩
    induction texts with
    | nil => exact absurd rfl hsome
    | cons text rest ih =>
      obtain ⟨q, rfl⟩ := QuotedText.exists_iff.mpr (htexts text List.mem_cons_self)
      cases rest with
      | nil => exact ⟨[q], _, rfl, .single q⟩
      | cons next rest =>
        obtain ⟨quoted, back, hquoted, hjoins⟩ :=
          ih (List.cons_ne_nil _ _) fun t ht => htexts t (List.mem_cons_of_mem _ ht)
        exact ⟨q :: quoted, _, by rw [List.map_cons, hquoted], .join separators h (fun _ hc => hc) hjoins⟩

/-! ### Splitting -/

namespace Split

/-- A quote that is closed adds what it encloses to the piece under way. -/
theorem pieces_enclosed {inner : List Char} {q : Char} (h : q ∉ inner) (separators : List Char)
    (fresh : Bool) (held rest : List Char) :
    pieces separators (some q) fresh held (inner ++ q :: rest) =
      pieces separators none false (inner.reverse ++ held) rest := by
  induction inner generalizing fresh held with
  | nil =>
    rw [List.nil_append, pieces, if_pos rfl]
    rfl
  | cons c inner ih =>
    obtain ⟨hc, hrest⟩ := not_or.mp (mt List.mem_cons.mpr h)
    rw [List.cons_append, pieces, if_neg (Ne.symm hc), ih hrest]
    simp

/-- A text in quotes at the start of a piece is held without its quotes. -/
theorem pieces_spelled {separators : List Char} (h : ∀ c ∈ separators, isQuote c = false)
    (q : QuotedText) (rest : List Char) :
    pieces separators none true [] (q.spelled.toList ++ rest) =
      pieces separators none false q.text.toList.reverse rest := by
  have hkept : ¬ separators.contains q.quote = true := by
    intro hsep
    cases (h _ (List.contains_iff_mem.mp hsep)).symm.trans q.quotes
  have hopens : (true && isQuote q.quote) = true := by rw [q.quotes]; rfl
  rw [QuotedText.spelled, String.toList_ofList, List.cons_append, pieces, if_neg hkept,
    if_pos hopens, List.append_assoc, List.singleton_append, pieces_enclosed q.lacks,
    List.append_nil]

/-- The pieces of texts in quotes are the texts. -/
theorem pieces_joinsQuoted {separators input : String} {quoted : List QuotedText}
    (hfree : ∀ c ∈ separators.toList, isQuote c = false) (h : JoinsQuoted separators quoted input) :
    pieces separators.toList none true [] input.toList = quoted.map fun q => q.text.toList := by
  have hemit : ∀ (q : QuotedText) (others : List (List Char)),
      emit q.text.toList.reverse.reverse others = q.text.toList :: others := by
    intro q others
    have hsome : q.text.toList.isEmpty = false := by simpa using q.filled
    rw [List.reverse_reverse, emit, hsome]
    rfl
  induction h with
  | single q =>
    have hlast := pieces_spelled hfree q []
    rw [List.append_nil] at hlast
    rw [hlast]
    exact hemit q []
  | @join q others back run filled separates joined ih =>
    rw [String.toList_append, String.toList_append, List.append_assoc, pieces_spelled hfree]
    cases hrun : run.toList with
    | nil => exact absurd (String.toList_inj.mp hrun) filled
    | cons g more =>
      rw [hrun] at separates
      -- The first separator character ends the text, and those behind it make no piece.
      have hskip : pieces separators.toList none true [] (more ++ back.toList) =
          pieces separators.toList none true [] back.toList := by
        rw [← pieces_dropWhile, List.dropWhile_append_of_pos, pieces_dropWhile]
        exact fun c hc => List.contains_iff_mem.mpr (separates c (List.mem_cons_of_mem _ hc))
      rw [List.cons_append, pieces_end (separates g List.mem_cons_self), hskip, ih, hemit]
      rfl

end Split

/-- Texts in quotes split into the texts. -/
theorem split_joinsQuoted {separators input : String} {quoted : List QuotedText}
    (hfree : ∀ c ∈ separators.toList, isQuote c = false) (h : JoinsQuoted separators quoted input) :
    split input separators = quoted.map QuotedText.text := by
  rw [split, Split.pieces_joinsQuoted hfree h, List.map_map]
  exact List.map_congr_left fun q _ => String.ofList_toList

/-- Texts in quotes begin with a quote, which is no blank. -/
theorem startsBlank_joinsQuoted {separators input : String} {quoted : List QuotedText}
    (h : JoinsQuoted separators quoted input) : startsBlank input = false := by
  have hquote : ∀ q : QuotedText, isBlank q.quote = false := by
    intro q
    rcases q.quote_eq with heq | heq <;> rw [heq] <;> decide
  cases h with
  | single q => simp [startsBlank, QuotedText.spelled, hquote]
  | @join q => simp [startsBlank, QuotedText.spelled, hquote]

/-! ### Reading -/

/-- Reading on with the separator of the texts delivers the tokens that are left, and then
nothing. -/
theorem Cursor.Shows.delivers {own : String} {c : Cursor} {past left : List Token}
    (h : Shows own c past left) :
    ∃ last, c.Delivers own left last ∧ last.fetch own = none := by
  induction left generalizing c past with
  | nil => exact ⟨c, .nil c, h.fetch_nil own⟩
  | cons token left ih =>
    obtain ⟨next, hfetch, hnext, -⟩ := h.fetch_self
    obtain ⟨last, hothers, hend⟩ := ih hnext
    exact ⟨last, .cons hfetch hothers, hend⟩

/-- A text that has a piece is tokenized. -/
theorem tokenize_of_pieces {text separator : String} (h : split (trimFront text) separator ≠ [])
    (excluded : List String) (refuse : Bool) :
    ∃ start, Cursor.tokenize (.text text) separator excluded refuse = .ok start := by
  cases hpieces : split (trimFront text) separator with
  | nil => exact absurd hpieces h
  | cons piece pieces =>
    exact ⟨_, by simp [Cursor.tokenize, Cursor.inputSegments, Cursor.textSegment?, hpieces]; rfl⟩

/-- Where no quote separates, an input that is made of texts in quotes, whatever stands in them and
however long the runs of separator characters between them are, delivers these texts one after the
other, and then nothing. -/
theorem quoting_undone {separator input : String} {quoted : List QuotedText}
    (hfree : ∀ c ∈ separator.toList, isQuote c = false) (h : JoinsQuoted separator quoted input)
    (excluded : List String) (refuse : Bool) :
    ∃ start last, Cursor.tokenize (.text input) separator excluded refuse = .ok start ∧
      start.Delivers separator (quoted.map fun q => .text q.text) last ∧
      last.fetch separator = none := by
  have htrim : trimFront input = input := trimFront_eq_self (startsBlank_joinsQuoted h)
  have hsplit : split (trimFront input) separator = quoted.map QuotedText.text := by
    rw [htrim, split_joinsQuoted hfree h]
  have hsome : split (trimFront input) separator ≠ [] := by
    rw [hsplit]
    cases h <;> simp
  obtain ⟨start, hstart⟩ := tokenize_of_pieces hsome excluded refuse
  have htokens : Input.tokens separator excluded (.text input) =
      quoted.map fun q => .text q.text := by
    rw [Input.tokens, Token.cut, hsplit, List.map_map]
    rfl
  obtain ⟨last, hdelivers, hend⟩ := (htokens ▸ tokenize_tokens hstart).delivers
  exact ⟨start, last, hstart, hdelivers, hend⟩

/-- Separators, blanks and the other quote come back from between quotes, also where a text begins
with one of them. -/
theorem quoting_undone_words :
    let quoted : List QuotedText :=
      [⟨" a, b", '\'', by decide, by decide, by decide⟩,
        ⟨"it's", '"', by decide, by decide, by decide⟩,
        ⟨"\"\" ,", '\'', by decide, by decide, by decide⟩]
    let input := "' a, b',\"it's\" ,, '\"\" ,'"
    (∀ c ∈ " ,".toList, isQuote c = false) ∧ JoinsQuoted " ," quoted input ∧
      ∃ start last, Cursor.tokenize (.text input) " ," [] false = .ok start ∧
        start.Delivers " ," [.text " a, b", .text "it's", .text "\"\" ,"] last ∧
        last.fetch " ," = none := by
  intro quoted input
  have hfree : ∀ c ∈ " ,".toList, isQuote c = false := by simp [isQuote]
  have hjoins : JoinsQuoted " ," quoted input :=
    .join "," (by decide) (by simp) (.join " ,, " (by decide) (by simp) (.single _))
  exact ⟨hfree, hjoins, quoting_undone hfree hjoins [] false⟩

end CommandGrammar
