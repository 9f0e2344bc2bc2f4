import CommandGrammar.Text.Blank
import CommandGrammar.Text.Split

/-!
# Splitting texts without quotes

Where no quote opens a piece, splitting looks at one character at a time. Texts glued by a
separator character then split into the pieces of each of them, a piece splits into itself, and
pieces glued together split into the same pieces again.
-/

namespace CommandGrammar

/-- Whether no quote of a text can open a piece: the quote characters in it separate. -/
def Unquoted (separators text : List Char) : Prop :=
  ∀ c ∈ text, isQuote c = true → c ∈ separators

/-- Whether no character of a text separates or quotes. -/
def Plain (separators text : List Char) : Prop :=
  ∀ c ∈ text, c ∉ separators ∧ isQuote c = false

/-- Whether a text is one piece: it has a character, and none that separates or quotes. -/
def PlainPiece (separators text : String) : Prop :=
  text ≠ "" ∧ Plain separators.toList text.toList

/-- Whether a text is one piece can be decided. -/
instance (separators text : String) : Decidable (PlainPiece separators text) :=
  decidable_of_iff (text ≠ "" ∧
      (text.toList.all fun c => !separators.toList.contains c && !isQuote c) = true)
    (by simp [PlainPiece, Plain])

/-- The first character of a separator, which texts are glued by. -/
def glue (separators : String) : String := String.ofList (separators.toList.take 1)

/-- The glue of a separator that has a character is one of its characters. -/
theorem exists_glue {separators : String} (h : separators ≠ "") :
    ∃ g ∈ separators.toList, (glue separators).toList = [g] := by
  cases hchars : separators.toList with
  | nil => exact absurd (String.toList_inj.mp hchars) h
  | cons g rest => exact ⟨g, List.mem_cons_self, by simp [glue, hchars]⟩

namespace Split

/-- A piece in front of others is emitted apart from them. -/
theorem emit_eq_append (piece : List Char) (others : List (List Char)) :
    emit piece others = emit piece [] ++ others := by
  unfold emit
  split <;> rfl

/-- A separator character ends the piece under way. -/
theorem pieces_end {separators : List Char} {g : Char} (hg : g ∈ separators) (fresh : Bool)
    (held rest : List Char) :
    pieces separators none fresh held (g :: rest) =
      emit held.reverse (pieces separators none true [] rest) := by
  rw [pieces, if_pos (List.contains_iff_mem.mpr hg)]

/-- A character that neither separates nor quotes is added to the piece under way. -/
theorem pieces_hold {separators : List Char} {c : Char} (hc : c ∉ separators)
    (hquote : isQuote c = false) (fresh : Bool) (held rest : List Char) :
    pieces separators none fresh held (c :: rest) =
      pieces separators none false (c :: held) rest := by
  rw [pieces, if_neg (fun h => hc (List.contains_iff_mem.mp h)), hquote, Bool.and_false]
  rfl

/-- A text without quotes begins with a separator character, or with one that is plain. -/
theorem Unquoted.head {separators text : List Char} {c : Char}
    (h : Unquoted separators (c :: text)) :
    (c ∈ separators ∨ (c ∉ separators ∧ isQuote c = false)) ∧ Unquoted separators text := by
  refine ⟨?_, fun d hd => h d (List.mem_cons_of_mem _ hd)⟩
  by_cases hsep : c ∈ separators
  · exact .inl hsep
  · exact .inr ⟨hsep, Bool.eq_false_iff.mpr fun hquote => hsep (h c List.mem_cons_self hquote)⟩

/-- A separator character ends the pieces in front of it. -/
theorem pieces_append {separators front : List Char} (hfront : Unquoted separators front)
    {g : Char} (hg : g ∈ separators) (fresh : Bool) (held back : List Char) :
    pieces separators none fresh held (front ++ g :: back) =
      pieces separators none fresh held front ++ pieces separators none true [] back := by
  induction front generalizing fresh held with
  | nil =>
    rw [List.nil_append, pieces_end hg, emit_eq_append]
    rfl
  | cons c front ih =>
    rw [List.cons_append]
    rcases Unquoted.head hfront with ⟨hsep | ⟨hsep, hquote⟩, hrest⟩
    · rw [pieces_end hsep, pieces_end hsep, ih hrest, emit_eq_append, ← List.append_assoc,
        ← emit_eq_append]
    · rw [pieces_hold hsep hquote, pieces_hold hsep hquote, ih hrest]

/-- Characters that neither separate nor quote are one piece. -/
theorem pieces_plain {separators text : List Char} (h : Plain separators text) (fresh : Bool)
    (held : List Char) :
    pieces separators none fresh held text = emit (held.reverse ++ text) [] := by
  induction text generalizing fresh held with
  | nil => simp [pieces, close]
  | cons c text ih =>
    obtain ⟨hsep, hquote⟩ := h c List.mem_cons_self
    rw [pieces_hold hsep hquote, ih fun d hd => h d (List.mem_cons_of_mem _ hd)]
    simp

/-- A piece is emitted only if it has a character. -/
theorem mem_emit {piece new : List Char} {others : List (List Char)}
    (h : piece ∈ emit new others) : (piece = new ∧ new ≠ []) ∨ piece ∈ others := by
  unfold emit at h
  split at h
  · exact .inr h
  · rename_i hnew
    rcases List.mem_cons.mp h with rfl | h
    · exact .inl ⟨rfl, by simpa using hnew⟩
    · exact .inr h

/-- The pieces of a text without quotes have a character, and none that separates or quotes. -/
theorem pieces_are_plain {separators text : List Char} (htext : Unquoted separators text)
    {fresh : Bool} {held piece : List Char} (hheld : Plain separators held)
    (h : piece ∈ pieces separators none fresh held text) :
    piece ≠ [] ∧ Plain separators piece := by
  have hreverse : ∀ {held : List Char}, Plain separators held → Plain separators held.reverse :=
    fun hheld c hc => hheld c (List.mem_reverse.mp hc)
  induction text generalizing fresh held with
  | nil =>
    rcases mem_emit h with ⟨rfl, hne⟩ | h
    · exact ⟨hne, hreverse hheld⟩
    · cases h
  | cons c text ih =>
    rcases Unquoted.head htext with ⟨hsep | ⟨hsep, hquote⟩, hrest⟩
    · rw [pieces_end hsep] at h
      rcases mem_emit h with ⟨rfl, hne⟩ | h
      · exact ⟨hne, hreverse hheld⟩
      · exact ih hrest (by simp [Plain]) h
    · rw [pieces_hold hsep hquote] at h
      refine ih hrest (fun d hd => ?_) h
      rcases List.mem_cons.mp hd with rfl | hd
      · exact ⟨hsep, hquote⟩
      · exact hheld d hd

/-- A first piece and its rest have no characters but those of the text. -/
theorem mem_first {separators : List Char} {quote : Option Char} {fresh : Bool}
    {held ahead : List Char} {c : Char}
    (h : c ∈ (first separators quote fresh held ahead).1 ∨
      c ∈ (first separators quote fresh held ahead).2) :
    quote = some c ∨ c ∈ held ∨ c ∈ ahead := by
  fun_induction first separators quote fresh held ahead with
  | case1 quote fresh held => simpa [close, or_assoc] using h
  | case2 fresh held rest q ih =>
    have := ih h
    grind
  | case3 fresh held rest q d hne ih =>
    have := ih h
    grind
  | case4 fresh held d rest hsep =>
    rcases h with h | h
    · exact .inr (.inl (List.mem_reverse.mp h))
    · exact .inr (.inr (List.mem_cons_of_mem _ ((List.dropWhile_suffix _).mem h)))
  | case5 fresh held d rest hsep hquote ih =>
    have := ih h
    grind
  | case6 fresh held d rest hsep hquote ih =>
    have := ih h
    grind

/-- Characters that leave a rest behind a first piece have a separator among them. -/
theorem exists_separator_of_first {separators : List Char} {quote : Option Char} {fresh : Bool}
    {held ahead : List Char} (h : (first separators quote fresh held ahead).2 ≠ []) :
    ∃ c ∈ ahead, c ∈ separators := by
  fun_induction first separators quote fresh held ahead with
  | case1 => exact absurd rfl h
  | case2 fresh held rest q ih =>
    obtain ⟨c, hc, hsep⟩ := ih h
    exact ⟨c, List.mem_cons_of_mem _ hc, hsep⟩
  | case3 fresh held rest q d hne ih =>
    obtain ⟨c, hc, hsep⟩ := ih h
    exact ⟨c, List.mem_cons_of_mem _ hc, hsep⟩
  | case4 fresh held d rest hsep =>
    exact ⟨d, List.mem_cons_self, List.contains_iff_mem.mp hsep⟩
  | case5 fresh held d rest hsep hquote ih =>
    obtain ⟨c, hc, hfound⟩ := ih h
    exact ⟨c, List.mem_cons_of_mem _ hc, hfound⟩
  | case6 fresh held d rest hsep hquote ih =>
    obtain ⟨c, hc, hfound⟩ := ih h
    exact ⟨c, List.mem_cons_of_mem _ hc, hfound⟩

end Split

/-- Whether the first character of a text is blank. -/
def startsBlank (text : String) : Bool := text.toList.head?.any isBlank

/-- A text that does not start blank has nothing to be trimmed. -/
theorem trimFront_eq_self {text : String} (h : startsBlank text = false) :
    trimFront text = text := by
  rw [← String.toList_inj, trimFront, String.toList_ofList]
  unfold startsBlank at h
  cases hchars : text.toList with
  | nil => rfl
  | cons c rest =>
    rw [hchars] at h
    exact List.dropWhile_cons_of_neg (by simpa using h)

/-- A separator character splits a text in two. -/
theorem split_glued {separators front : String} (hsep : separators ≠ "")
    (hfront : Unquoted separators.toList front.toList) (back : String) :
    split (front ++ glue separators ++ back) separators =
      split front separators ++ split back separators := by
  obtain ⟨g, hg, hglue⟩ := exists_glue hsep
  unfold split
  rw [← List.map_append, ← Split.pieces_append hfront hg]
  simp [hglue]

/-- Texts glued together split into the pieces of each of them. -/
theorem split_intercalate {separators : String} {texts : List String} (hsep : separators ≠ "")
    (h : ∀ text ∈ texts, Unquoted separators.toList text.toList) :
    split ((glue separators).intercalate texts) separators =
      texts.flatMap fun text => split text separators := by
  induction texts with
  | nil => simp [split, Split.pieces, Split.close, Split.emit]
  | cons text rest ih =>
    cases rest with
    | nil => simp
    | cons next rest =>
      rw [String.intercalate_cons_cons, split_glued hsep (h text List.mem_cons_self),
        ih fun t ht => h t (List.mem_cons_of_mem _ ht)]
      rfl

/-- Blank characters in front of glued texts that do not start blank are glue, and make no
piece. -/
theorem split_trimFront_intercalate {separators : String} {texts : List String}
    (hsep : separators ≠ "") (hblank : ∀ text ∈ texts, startsBlank text = false) :
    split (trimFront ((glue separators).intercalate texts)) separators =
      split ((glue separators).intercalate texts) separators := by
  obtain ⟨g, -, hglue⟩ := exists_glue hsep
  induction texts with
  | nil => rfl
  | cons text rest ih =>
    cases rest with
    | nil => rw [String.intercalate_singleton, trimFront_eq_self (hblank text List.mem_cons_self)]
    | cons next rest =>
      rw [String.intercalate_cons_cons]
      generalize (glue separators).intercalate (next :: rest) = back at ih ⊢
      have hback := ih fun t ht => hblank t (List.mem_cons_of_mem _ ht)
      by_cases hempty : text = ""
      · -- The text in front is empty, so the glue after it stands in front.
        subst hempty
        have hskip := @split_glued _ "" hsep (by simp [Unquoted]) back
        rw [String.empty_append] at hskip ⊢
        by_cases hg : isBlank g = true
        · have htrim : trimFront (glue separators ++ back) = trimFront back := by
            simp [trimFront, hglue, List.dropWhile_cons_of_pos hg]
          rw [htrim, hback, hskip]
          rfl
        · rw [trimFront_eq_self]
          simpa [startsBlank, hglue] using hg
      · rw [trimFront_eq_self]
        have := hblank text List.mem_cons_self
        unfold startsBlank at this ⊢
        cases hchars : text.toList with
        | nil => exact absurd (String.toList_inj.mp hchars) hempty
        | cons c chars => simpa [hchars] using this

/-- A single piece splits into itself. -/
theorem split_piece {separators text : String} (h : PlainPiece separators text) :
    split text separators = [text] := by
  unfold split
  rw [Split.pieces_plain h.2]
  simp [Split.emit, h.1]

/-- The pieces of a text without quotes are single pieces. -/
theorem plainPiece_of_mem_split {separators text piece : String}
    (htext : Unquoted separators.toList text.toList) (h : piece ∈ split text separators) :
    PlainPiece separators piece := by
  obtain ⟨chars, hchars, rfl⟩ := List.mem_map.mp h
  obtain ⟨hne, hplain⟩ := Split.pieces_are_plain htext (by simp [Plain]) hchars
  exact ⟨by simpa using hne, by simpa using hplain⟩

/-- Single pieces glued together split into the same pieces. -/
theorem split_intercalate_pieces {separators : String} {pieces : List String}
    (hsep : separators ≠ "") (h : ∀ piece ∈ pieces, PlainPiece separators piece) :
    split ((glue separators).intercalate pieces) separators = pieces := by
  rw [split_intercalate hsep fun piece hpiece c hc hquote => by
    simp [((h piece hpiece).2 c hc).2] at hquote]
  induction pieces with
  | nil => rfl
  | cons piece rest ih =>
    rw [List.flatMap_cons, split_piece (h piece List.mem_cons_self),
      ih fun p hp => h p (List.mem_cons_of_mem _ hp)]
    rfl

/-- Both parts of a text that is cut have no characters but those of the text. -/
theorem mem_splitOnce {text separators : String} {c : Char}
    (h : c ∈ (splitOnce text separators).1.toList ∨ c ∈ (splitOnce text separators).2.toList) :
    c ∈ text.toList := by
  simp only [splitOnce, String.toList_ofList] at h
  rcases Split.mem_first h with h | h | h
  · cases h
  · cases h
  · exact (List.dropWhile_suffix _).mem h

/-- A text that is cut with something left has a separator character. -/
theorem exists_separator_of_splitOnce {text separators : String}
    (h : (splitOnce text separators).2 ≠ "") : ∃ c ∈ text.toList, c ∈ separators.toList := by
  have hfirst : (Split.first separators.toList none true []
      (text.toList.dropWhile separators.toList.contains)).2 ≠ [] := by
    simpa [splitOnce] using h
  obtain ⟨c, hc, hsep⟩ := Split.exists_separator_of_first hfirst
  exact ⟨c, (List.dropWhile_suffix _).mem hc, hsep⟩

end CommandGrammar
