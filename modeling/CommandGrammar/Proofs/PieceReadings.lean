import CommandGrammar.Proofs.ConsumedNames
import CommandGrammar.Proofs.CursorStates
import CommandGrammar.Proofs.SplitParts
import Mathlib.Logic.Relation

/-!
# Reading pieces with another separator

A piece that is read with a separator other than its own gives its first part, and what is left of
it is read after that. The number of tokens left is counted ahead of time by splitting the pieces
instead.

Both come to the same number unless reading comes to an empty quoted run: a text that begins with
one has no first part, so it is read as one token however many pieces it has, and such a run at the
end of a text is a token though it is no piece. `remaining_eq_fetched_iff` says so for every cursor
that is attained from an input. `remaining_beyond_fetched` is an input where two tokens are counted
and one is read.
-/

namespace CommandGrammar

open Cursor (Shows Attained readPiece readToken cutParts tokenCount)
open Relation (ReflTransGen)

/-- What is left of a piece that is cut is shorter than the piece. -/
theorem readPiece_rest_length {piece own separator : String}
    (h : (readPiece piece own separator).2 ≠ "") :
    (readPiece piece own separator).2.length < piece.length := by
  have hweight := readPiece_weight piece own separator
  rw [cutParts, if_neg h] at hweight
  simp only [List.map_cons, List.map_nil, sumOf_cons, sumOf_nil] at hweight
  omega

/-- The parts that a piece is read as, one after the other. -/
def pieceReadings (own separator : String) (piece : String) : List String :=
  let cut := readPiece piece own separator
  cut.1 :: if _h : cut.2 = "" then [] else pieceReadings own separator cut.2
termination_by piece.length
decreasing_by exact readPiece_rest_length _h

/-- The tokens that a token is read as. -/
def Token.readings (own separator : String) : Token → List Token
  | text piece => (pieceReadings own separator piece).map text
  | unit u => [unit u]

/-- The first token is the one that is read; the part that stays in its place gives the others. -/
theorem readings_eq (own separator : String) (token : Token) :
    token.readings own separator = (readToken own separator token).1 ::
      (readToken own separator token).2.flatMap (Token.readings own separator) := by
  cases token with
  | unit u => rfl
  | text piece =>
    rw [Token.readings, pieceReadings, readToken]
    dsimp only
    split
    · rfl
    · simp [Token.readings]

/-- Reading all tokens gives what each token that is left is read as. -/
theorem fetchAll_shows {own : String} {c : Cursor} {past left : List Token}
    (h : Shows own c past left) (separator : String) :
    (c.fetchAll separator).1 = left.flatMap (Token.readings own separator) := by
  fun_induction Cursor.fetchAll separator c generalizing past left with
  | case1 c hnone =>
    cases left with
    | nil => rfl
    | cons token rest =>
      obtain ⟨next, hfetch, -⟩ := h.fetch separator
      cases hnone.symm.trans hfetch
  | case2 c token next hsome tokens last hlast ih =>
    cases left with
    | nil => cases (h.fetch_nil separator).symm.trans hsome
    | cons first rest =>
      obtain ⟨found, hfetch, hnext⟩ := h.fetch separator
      cases hsome.symm.trans hfetch
      have htokens := ih hnext
      rw [hlast] at htokens
      rw [List.flatMap_cons, readings_eq, List.cons_append, ← List.flatMap_append]
      exact congrArg ((readToken own separator first).1 :: ·) htokens

/-- A text that a separator other than its own does not cut has no separator character, or nothing
in front of the first. -/
theorem uncut_cases {piece own separator : String} (hown : own ≠ separator)
    (h : readPiece piece own separator = (piece, "")) :
    (splitOnce piece separator).2 = "" ∨ (splitOnce piece separator).1 = "" := by
  by_cases hrest : (splitOnce piece separator).2 = ""
  · exact .inl hrest
  · refine .inr (Decidable.byContradiction fun hhead => ?_)
    rw [readPiece_of_cut hown hhead hrest] at h
    exact hrest (congrArg Prod.snd h)

/-- Whether reading a text part by part gives as many tokens as the text has pieces: no first part
is empty, unless one piece is all that the text has from there on. -/
inductive EvenlyCut (separator : String) : String → Prop
  /-- The first part is all there is. -/
  | last {text : String} (hhead : (splitOnce text separator).1 ≠ "")
      (hrest : (splitOnce text separator).2 = "") : EvenlyCut separator text
  /-- What is left after the first part is cut evenly. -/
  | more {text : String} (hhead : (splitOnce text separator).1 ≠ "")
      (hrest : EvenlyCut separator (splitOnce text separator).2) : EvenlyCut separator text
  /-- The first part is empty, and there is one piece. -/
  | single {text : String} (hhead : (splitOnce text separator).1 = "")
      (hone : (split text separator).length = 1) : EvenlyCut separator text

/-- A text without a first part is cut evenly if it has one piece. -/
theorem evenlyCut_of_empty {separator text : String} (hhead : (splitOnce text separator).1 = "") :
    EvenlyCut separator text ↔ (split text separator).length = 1 := by
  refine ⟨fun h => ?_, .single hhead⟩
  cases h with
  | last hne _ => exact absurd hhead hne
  | more hne _ => exact absurd hhead hne
  | single _ hone => exact hone

/-- A text with a first part and a rest is cut evenly if the rest is. -/
theorem evenlyCut_of_more {separator text : String} (hhead : (splitOnce text separator).1 ≠ "")
    (hrest : (splitOnce text separator).2 ≠ "") :
    EvenlyCut separator text ↔ EvenlyCut separator (splitOnce text separator).2 := by
  refine ⟨fun h => ?_, .more hhead⟩
  cases h with
  | last _ hnone => exact absurd hnone hrest
  | more _ hmore => exact hmore
  | single hempty _ => exact absurd hempty hhead

/-- A piece is read as its first part and what the rest of it is read as. -/
theorem length_pieceReadings (own separator piece : String) :
    (pieceReadings own separator piece).length =
      if (readPiece piece own separator).2 = "" then 1
      else (pieceReadings own separator (readPiece piece own separator).2).length + 1 := by
  rw [pieceReadings]
  split <;> simp

/-- A text is read as many tokens as it has pieces when it is cut evenly, and not otherwise. -/
theorem length_pieceReadings_iff {own separator : String} (hown : own ≠ separator)
    (text : String) :
    (pieceReadings own separator text).length = (split text separator).length ↔
      EvenlyCut separator text := by
  induction text using pieceReadings.induct own separator with
  | case1 text cut ih =>
    rw [length_pieceReadings]
    rcases Cursor.readPiece_cases text own separator with hwhole | ⟨-, hcut, hhead⟩
    · rw [hwhole, if_pos rfl]
      by_cases hhead : (splitOnce text separator).1 = ""
      · rw [evenlyCut_of_empty hhead, eq_comm]
      · have hrest := (uncut_cases hown hwhole).resolve_right hhead
        rw [split_of_head hhead, hrest]
        exact ⟨fun _ => .last hhead hrest, fun _ => rfl⟩
    · rw [split_of_head hhead, hcut]
      by_cases hrest : (splitOnce text separator).2 = ""
      · rw [if_pos hrest, hrest]
        exact ⟨fun _ => .last hhead hrest, fun _ => rfl⟩
      · simp only [show cut = splitOnce text separator from hcut] at ih
        rw [if_neg hrest, List.length_cons, Nat.add_right_cancel_iff, ih hrest,
          evenlyCut_of_more hhead hrest]

/-- Whether a token counts for as many as it is read as. -/
def CountsRight (own separator : String) (token : Token) : Prop :=
  (token.readings own separator).length = tokenCount own separator token

/-- A unit counts for itself. -/
theorem countsRight_unit (own separator : String) (u : OpaqueUnit) :
    CountsRight own separator (.unit u) := rfl

/-- A text read with its own separator counts for itself. -/
theorem countsRight_self (own : String) (token : Token) : CountsRight own own token := by
  cases token with
  | unit u => rfl
  | text piece =>
    have hwhole : readPiece piece own own = (piece, "") := by simp [readPiece]
    simp [CountsRight, Token.readings, length_pieceReadings, hwhole, tokenCount]

/-- A text read with another separator counts for as many as it is read as when it has no piece or
is cut evenly. -/
theorem countsRight_text {own separator : String} (hown : own ≠ separator) (piece : String) :
    CountsRight own separator (.text piece) ↔
      split piece separator = [] ∨ EvenlyCut separator piece := by
  have hlength : (Token.readings own separator (.text piece)).length =
      (pieceReadings own separator piece).length := List.length_map ..
  rw [CountsRight, hlength, tokenCount, if_neg hown]
  by_cases hnone : split piece separator = []
  · have hwhole : (readPiece piece own separator).2 = "" := by
      rcases Cursor.readPiece_cases piece own separator with hwhole | ⟨-, -, hhead⟩
      · rw [hwhole]
      · rw [split_of_head hhead] at hnone
        cases hnone
    rw [length_pieceReadings, if_pos hwhole, hnone]
    exact ⟨fun _ => .inl rfl, fun _ => rfl⟩
  · have hpos := List.length_pos_iff.mpr hnone
    rw [Nat.max_eq_right hpos, length_pieceReadings_iff hown, or_iff_right hnone]

/-- The rest of a text that counts for as many as it is read as does so too. -/
theorem countsRight_rest {own separator : String} {token : Token}
    (h : CountsRight own separator token) :
    ∀ rest ∈ (readToken own separator token).2, CountsRight own separator rest := by
  cases token with
  | unit u => exact fun rest hrest => by cases hrest
  | text piece =>
    intro rest hrest
    rcases Cursor.readPiece_cases piece own separator with hwhole | ⟨hown, hcut, hhead⟩
    · simp [readToken, hwhole] at hrest
    · by_cases hempty : (splitOnce piece separator).2 = ""
      · simp [readToken, hcut, hempty] at hrest
      · have heq : rest = .text (splitOnce piece separator).2 := by
          simpa [readToken, hcut, hempty] using hrest
        have hsome : split piece separator ≠ [] := by
          rw [split_of_head hhead]
          exact List.cons_ne_nil _ _
        have heven := ((countsRight_text hown piece).mp h).resolve_left hsome
        rw [heq, countsRight_text hown]
        exact .inr ((evenlyCut_of_more hhead hempty).mp heven)

/-- Whether one cursor leads to another by reading tokens with a separator. -/
def ReadsTo (separator : String) : Cursor → Cursor → Prop :=
  ReflTransGen fun c next => ∃ token, c.fetch separator = some (token, next)

/-- Whether as many tokens are counted as are read. -/
def Cursor.CountsFetched (separator : String) (c : Cursor) : Prop :=
  c.remaining separator = (c.fetchAll separator).1.length

/-- Tokens that each count for as many as they are read as do so together. -/
theorem length_flatMap_readings {own separator : String} {tokens : List Token}
    (h : ∀ token ∈ tokens, CountsRight own separator token) :
    sumOf (tokens.map (tokenCount own separator)) =
      (tokens.flatMap (Token.readings own separator)).length := by
  induction tokens with
  | nil => rfl
  | cons token rest ih =>
    rw [List.map_cons, sumOf_cons, List.flatMap_cons, List.length_append,
      ih fun other hother => h other (List.mem_cons_of_mem _ hother), h token List.mem_cons_self]

/-- Reading on leaves tokens that count for as many as they are read as. -/
theorem countsRight_of_readsTo {own separator : String} {c d : Cursor} (h : ReadsTo separator c d)
    {past left : List Token} (hc : Shows own c past left)
    (hleft : ∀ token ∈ left, CountsRight own separator token) :
    ∃ past left, Shows own d past left ∧ ∀ token ∈ left, CountsRight own separator token := by
  induction h with
  | refl => exact ⟨past, left, hc, hleft⟩
  | tail _ hstep ih =>
    obtain ⟨token, hfetch⟩ := hstep
    obtain ⟨past, left, hshows, hleft⟩ := ih
    cases left with
    | nil => cases (hshows.fetch_nil separator).symm.trans hfetch
    | cons first rest =>
      obtain ⟨next, hfound, hnext⟩ := hshows.fetch separator
      cases hfound.symm.trans hfetch
      refine ⟨_, _, hnext, fun other hother => ?_⟩
      rcases List.mem_append.mp hother with hother | hother
      · exact countsRight_rest (hleft first List.mem_cons_self) other hother
      · exact hleft other (List.mem_cons_of_mem _ hother)

/-- If as many tokens are counted as are read wherever reading leads, each token that is left counts
for as many as it is read as. -/
theorem countsRight_of_countsFetched {own separator : String} {c : Cursor} {past left : List Token}
    (hc : Shows own c past left)
    (h : ∀ d, ReadsTo separator c d → d.CountsFetched separator) :
    ∀ token ∈ left, CountsRight own separator token := by
  fun_induction Cursor.fetchAll separator c generalizing past left with
  | case1 c hnone =>
    cases left with
    | nil => exact fun token htoken => by cases htoken
    | cons first rest =>
      obtain ⟨next, hfetch, -⟩ := hc.fetch separator
      cases hnone.symm.trans hfetch
  | case2 c token next hsome _ _ _ ih =>
    cases left with
    | nil => cases (hc.fetch_nil separator).symm.trans hsome
    | cons first rest =>
      obtain ⟨found, hfetch, hnext⟩ := hc.fetch separator
      cases hsome.symm.trans hfetch
      have hlater := ih hnext fun d hd => h d (.head ⟨_, hsome⟩ hd)
      have hrest : ∀ other ∈ rest, CountsRight own separator other := fun other hother =>
        hlater other (List.mem_append_right _ hother)
      have hcounted := h c .refl
      rw [Cursor.CountsFetched, hc.remaining, fetchAll_shows hc, List.map_cons, sumOf_cons,
        List.flatMap_cons, List.length_append, length_flatMap_readings hrest] at hcounted
      intro other hother
      rcases List.mem_cons.mp hother with rfl | hother
      · exact (Nat.add_right_cancel hcounted).symm
      · exact hrest other hother

/-- From every cursor that is attained from an input, as many tokens are counted as are read with a
separator, wherever reading leads, exactly when it is the separator of the input, or each piece that
is left has no piece under it or is cut evenly by it. -/
theorem remaining_eq_fetched_iff {input : Input} {own : String} {excluded : List String}
    {refuse : Bool} {start c : Cursor}
    (hstart : Cursor.tokenize input own excluded refuse = .ok start) (hc : Attained start c)
    (separator : String) :
    (∀ d, ReadsTo separator c d → d.remaining separator = (d.fetchAll separator).1.length) ↔
      own = separator ∨ ∀ piece, .text piece ∈ c.left →
        split piece separator = [] ∨ EvenlyCut separator piece := by
  obtain ⟨hsound, howned⟩ := hc.valid hstart
  obtain ⟨past, hshows⟩ := hsound.shows howned
  have hright : (∀ token ∈ c.left, CountsRight own separator token) ↔
      own = separator ∨ ∀ piece, .text piece ∈ c.left →
        split piece separator = [] ∨ EvenlyCut separator piece := by
    by_cases hown : own = separator
    · subst hown
      exact ⟨fun _ => .inl rfl, fun _ token _ => countsRight_self own token⟩
    · rw [or_iff_right hown]
      refine ⟨fun h piece hpiece => (countsRight_text hown piece).mp (h _ hpiece),
        fun h token htoken => ?_⟩
      cases token with
      | unit u => exact countsRight_unit own separator u
      | text piece => exact (countsRight_text hown piece).mpr (h piece htoken)
  rw [← hright]
  refine ⟨countsRight_of_countsFetched hshows, fun h d hd => ?_⟩
  obtain ⟨_, left, hlast, hleft⟩ := countsRight_of_readsTo hd hshows h
  rw [hlast.remaining, fetchAll_shows hlast, length_flatMap_readings hleft]

/-- Behind the first word a quoted piece is read as it is counted, though its quotes are gone after
the first of the two tokens. -/
theorem remaining_eq_fetched_quoted :
    let segments : List Segment := [.text ["d", "\"a,b\",c"] " "]
    Cursor.tokenize (.text "d '\"a,b\",c'") " " [] false = .ok ⟨segments, 0, 0⟩ ∧
      Attained ⟨segments, 0, 0⟩ ⟨segments, 0, 1⟩ ∧
      ∀ d, ReadsTo "," ⟨segments, 0, 1⟩ d → d.remaining "," = (d.fetchAll ",").1.length := by
  intro segments
  have hstart : Cursor.tokenize (.text "d '\"a,b\",c'") " " [] false =
      .ok ⟨segments, 0, 0⟩ := by rfl
  have hread : Cursor.fetch ⟨segments, 0, 0⟩ " " = some (.text "d", ⟨segments, 0, 1⟩) := by rfl
  have hcut : EvenlyCut "," "\"a,b\",c" :=
    .more (by decide +kernel) (.last (by decide +kernel) (by decide +kernel))
  have heven : ∀ piece, Token.text piece ∈ Cursor.left ⟨segments, 0, 1⟩ →
      split piece "," = [] ∨ EvenlyCut "," piece := by
    intro piece hpiece
    cases List.mem_singleton.mp hpiece
    exact .inr hcut
  have hattained := Attained.fetch .start hread
  exact ⟨hstart, hattained, (remaining_eq_fetched_iff hstart hattained ",").mpr (.inr heven)⟩

/-- A text that begins with an empty quoted run has two pieces and is read as one token. -/
theorem remaining_beyond_fetched :
    let start : Cursor := ⟨[.text ["\"\",x,y"] " "], 0, 0⟩
    Cursor.tokenize (.text "'\"\",x,y'") " " [] false = .ok start ∧ Attained start start ∧
      start.remaining "," = 2 ∧ (start.fetchAll ",").1 = [.text "\"\",x,y"] := by
  intro start
  have hread : start.fetch "," = some (.text "\"\",x,y", ⟨start.segments, 1, 0⟩) := by rfl
  have hend : Cursor.fetch ⟨start.segments, 1, 0⟩ "," = none := by rfl
  refine ⟨by rfl, .start, by decide +kernel, ?_⟩
  rw [Cursor.fetchAll_of_some hread, Cursor.fetchAll_of_none hend]

end CommandGrammar
