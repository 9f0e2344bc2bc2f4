import CommandGrammar.Proofs.PlainTexts

/-!
# Splitting a text part by part

Cutting off the first part of a text, then the first part of what is left, and so on, gives the
pieces that the text is split into. Only an empty quoted run, and a text without a piece, make a
first part that is no piece. `split_agrees_splitOnce` is one such step, and `split_eq_firstParts`
all of them.

A text is its own first part when nothing in it separates, and also when it opens with a quote that
is never closed: no character behind such a quote separates, and the quote stays.
-/

namespace CommandGrammar

namespace Split

/-- Separator characters in front of a text make no piece. -/
theorem pieces_dropWhile (separators text : List Char) :
    pieces separators none true [] (text.dropWhile separators.contains) =
      pieces separators none true [] text := by
  induction text with
  | nil => rfl
  | cons c text ih =>
    by_cases hsep : separators.contains c = true
    · rw [List.dropWhile_cons_of_pos hsep, ih, pieces_end (List.contains_iff_mem.mp hsep)]
      rfl
    · rw [List.dropWhile_cons_of_neg hsep]

/-- The pieces of the text ahead are its first piece and those of what follows it. -/
theorem pieces_eq_first (separators : List Char) (quote : Option Char) (fresh : Bool)
    (held ahead : List Char) :
    pieces separators quote fresh held ahead =
      emit (first separators quote fresh held ahead).1
        (pieces separators none true [] (first separators quote fresh held ahead).2) := by
  fun_induction first separators quote fresh held ahead with
  | case1 quote fresh held => rw [pieces]; rfl
  | case2 fresh held rest q ih => rw [pieces, if_pos rfl, ih]
  | case3 fresh held rest q c hne ih => rw [pieces, if_neg hne, ih]
  | case4 fresh held c rest hsep =>
    rw [pieces_dropWhile, pieces_end (List.contains_iff_mem.mp hsep)]
  | case5 fresh held c rest hsep hquote ih => rw [pieces, if_neg hsep, if_pos hquote, ih]
  | case6 fresh held c rest hsep hquote ih => rw [pieces, if_neg hsep, if_neg hquote, ih]

/-- What follows the first piece is a back of the text ahead. -/
theorem first_suffix (separators : List Char) (quote : Option Char) (fresh : Bool)
    (held ahead : List Char) : (first separators quote fresh held ahead).2 <:+ ahead := by
  fun_induction first separators quote fresh held ahead with
  | case1 => exact List.nil_suffix
  | case2 fresh held rest q ih => exact ih.trans (List.suffix_cons ..)
  | case3 fresh held rest q c hne ih => exact ih.trans (List.suffix_cons ..)
  | case4 fresh held c rest hsep =>
    exact (List.dropWhile_suffix _).trans (List.suffix_cons ..)
  | case5 fresh held c rest hsep hquote ih => exact ih.trans (List.suffix_cons ..)
  | case6 fresh held c rest hsep hquote ih => exact ih.trans (List.suffix_cons ..)

/-- A quote that is never closed takes all that follows, and stays in front of it. -/
theorem first_unclosed {separators ahead : List Char} {q : Char} (h : q ∉ ahead) (fresh : Bool)
    (held : List Char) :
    first separators (some q) fresh held ahead = (q :: (held.reverse ++ ahead), []) := by
  induction ahead generalizing fresh held with
  | nil => simp [first, close]
  | cons c ahead ih =>
    obtain ⟨hc, hrest⟩ := not_or.mp (mt List.mem_cons.mpr h)
    rw [first, if_neg (Ne.symm hc), ih hrest]
    simp

/-- A quote that is closed is left out: the first piece is shorter than what was held and ahead. -/
theorem first_closed_length {ahead : List Char} {q : Char} (h : q ∈ ahead)
    (separators : List Char) (fresh : Bool) (held : List Char) :
    (first separators (some q) fresh held ahead).1.length < held.length + ahead.length := by
  induction ahead generalizing fresh held with
  | nil => cases h
  | cons c ahead ih =>
    by_cases hc : c = q
    · have hlength := first_length separators none false held ahead
      simp only [Option.toList_none, List.length_nil] at hlength
      rw [first, if_pos hc, List.length_cons]
      omega
    · have hrest := ih ((List.mem_cons.mp h).resolve_left (Ne.symm hc)) false (c :: held)
      rw [first, if_neg hc, List.length_cons]
      rw [List.length_cons] at hrest
      omega

/-- Inside a piece that opened without a quote a separator character ends it. -/
theorem first_ended_length {separators ahead : List Char}
    (h : ∃ c ∈ ahead, c ∈ separators) (held : List Char) :
    (first separators none false held ahead).1.length < held.length + ahead.length := by
  induction ahead generalizing held with
  | nil =>
    obtain ⟨c, hc, -⟩ := h
    cases hc
  | cons c ahead ih =>
    by_cases hsep : separators.contains c = true
    · rw [first, if_pos hsep, List.length_reverse, List.length_cons]
      omega
    · have hfree : c ∉ separators := fun hmem => hsep (List.contains_iff_mem.mpr hmem)
      have hrest : ∃ d ∈ ahead, d ∈ separators := by simpa [hfree] using h
      have hlength := ih hrest (c :: held)
      rw [first, if_neg hsep, if_neg (by simp), List.length_cons]
      rw [List.length_cons] at hlength
      omega

/-- A separator character in front is left out of the first piece. -/
theorem first_skipped_length {separators : List Char} {c : Char} (h : c ∈ separators)
    (rest : List Char) :
    (first separators none true [] ((c :: rest).dropWhile separators.contains)).1.length <
      (c :: rest).length := by
  have hdrop := (List.dropWhile_suffix (l := rest) separators.contains).length_le
  have hlength := first_length separators none true [] (rest.dropWhile separators.contains)
  simp only [Option.toList_none, List.length_nil] at hlength
  rw [List.dropWhile_cons_of_pos (List.contains_iff_mem.mpr h), List.length_cons]
  omega

end Split

/-- The pieces of a text are its first part, unless that is empty, and the pieces of what is
left. -/
theorem split_eq_splitOnce (text separators : String) :
    split text separators =
      (if (splitOnce text separators).1 = "" then [] else [(splitOnce text separators).1]) ++
        split (splitOnce text separators).2 separators := by
  let cut := Split.first separators.toList none true []
    (text.toList.dropWhile separators.toList.contains)
  have hcut : splitOnce text separators = (String.ofList cut.1, String.ofList cut.2) := rfl
  have hsplit : split text separators = (Split.emit cut.1
      (Split.pieces separators.toList none true [] cut.2)).map String.ofList := by
    rw [split, ← Split.pieces_dropWhile, Split.pieces_eq_first]
  rw [hsplit, hcut, split, String.toList_ofList, Split.emit_eq_append, List.map_append]
  congr 1
  unfold Split.emit
  cases cut.1 <;> simp

/-- Where the first part is not empty it is the first piece. -/
theorem split_of_head {text separators : String} (h : (splitOnce text separators).1 ≠ "") :
    split text separators =
      (splitOnce text separators).1 :: split (splitOnce text separators).2 separators := by
  rw [split_eq_splitOnce, if_neg h, List.singleton_append]

/-- What is left after the first part is the back of the text. -/
theorem splitOnce_suffix (text separators : String) :
    (splitOnce text separators).2.toList <:+ text.toList := by
  rw [splitOnce, String.toList_ofList]
  exact (Split.first_suffix ..).trans (List.dropWhile_suffix _)

/-- What is left after the first part is nothing, or less than the text. -/
theorem splitOnce_shorter (text separators : String) :
    (splitOnce text separators).2 = "" ∨ (splitOnce text separators).2.length < text.length := by
  have hlength := splitOnce_length text separators
  by_cases hrest : (splitOnce text separators).2 = ""
  · exact .inl hrest
  · rw [if_neg hrest] at hlength
    exact .inr (by omega)

/-- A text splits into its first part, unless that is empty, and what the rest splits into. The rest
is nothing, or a back of the text that is shorter than it. -/
theorem split_agrees_splitOnce (text separators : String) :
    let head := (splitOnce text separators).1
    let rest := (splitOnce text separators).2
    split text separators = (if head = "" then [] else [head]) ++ split rest separators ∧
      (rest = "" ∨ rest.length < text.length ∧ ∃ front, text = front ++ rest) := by
  intro head rest
  obtain ⟨front, hfront⟩ := splitOnce_suffix text separators
  have hback : text = String.ofList front ++ rest := by
    rw [← String.toList_inj, String.toList_append, String.toList_ofList, hfront]
  exact ⟨split_eq_splitOnce text separators,
    (splitOnce_shorter text separators).imp_right fun hlength => ⟨hlength, _, hback⟩⟩

/-- The first parts of a text that are cut off one after the other, until nothing is left. -/
def firstParts (separators text : String) : List String :=
  let cut := splitOnce text separators
  if _hrest : cut.2 = "" then [cut.1] else cut.1 :: firstParts separators cut.2
termination_by text.length
decreasing_by exact (splitOnce_shorter text separators).resolve_left _hrest

/-- A text splits into the first parts that have a character. -/
theorem split_eq_firstParts (text separators : String) :
    split text separators = (firstParts separators text).filter fun part => part ≠ "" := by
  induction text using firstParts.induct separators with
  | case1 text cut hrest =>
    have hnone : split cut.2 separators = [] := by
      rw [hrest]
      rfl
    rw [split_eq_splitOnce, firstParts, dif_pos hrest, hnone, List.append_nil]
    by_cases hhead : cut.1 = "" <;> simp [cut, hhead]
  | case2 text cut hrest ih =>
    rw [split_eq_splitOnce, firstParts, dif_neg hrest, ih]
    by_cases hhead : cut.1 = "" <;> simp [cut, hhead]

/-- Whether a text opens with a quote that is never closed, and that is no separator. -/
def OpensQuote (separators text : String) : Prop :=
  ∃ q rest, text.toList = q :: rest ∧ isQuote q = true ∧ q ∉ separators.toList ∧ q ∉ rest

/-- A text with a separator character is its own first part exactly when it opens with a quote that
is never closed. -/
theorem splitOnce_eq_self_iff {text separators : String}
    (h : ∃ c ∈ text.toList, c ∈ separators.toList) :
    (splitOnce text separators).1 = text ↔ OpensQuote separators text := by
  rw [← String.toList_inj, splitOnce, String.toList_ofList, OpensQuote]
  cases hchars : text.toList with
  | nil =>
    rw [hchars] at h
    obtain ⟨c, hc, -⟩ := h
    cases hc
  | cons c rest =>
    rw [hchars] at h
    by_cases hsep : c ∈ separators.toList
    · constructor
      · intro heq
        have hlength := Split.first_skipped_length hsep rest
        rw [heq] at hlength
        exact absurd hlength (Nat.lt_irrefl _)
      · rintro ⟨q, _, hq, -, hfree, -⟩
        cases hq
        exact absurd hsep hfree
    · have hkept : ¬ separators.toList.contains c = true := mt List.contains_iff_mem.mp hsep
      rw [List.dropWhile_cons_of_neg hkept, Split.first, if_neg hkept, Bool.true_and]
      by_cases hquote : isQuote c = true
      · rw [if_pos hquote]
        constructor
        · intro heq
          refine ⟨c, rest, rfl, hquote, hsep, fun hclosed => ?_⟩
          have hlength := Split.first_closed_length hclosed separators.toList false []
          rw [heq, List.length_cons, List.length_nil] at hlength
          omega
        · rintro ⟨q, others, heq, -, -, hopen⟩
          cases heq
          rw [Split.first_unclosed hopen]
          rfl
      · rw [if_neg hquote]
        constructor
        · intro heq
          have hrest : ∃ d ∈ rest, d ∈ separators.toList := by simpa [hsep] using h
          have hlength := Split.first_ended_length hrest [c]
          rw [heq, List.length_cons, List.length_cons, List.length_nil] at hlength
          omega
        · rintro ⟨q, _, hq, hquoted, -, -⟩
          cases hq
          exact absurd hquoted hquote

end CommandGrammar
