import CommandGrammar.Proofs.ConsumedInput
import CommandGrammar.Proofs.PieceReadings

/-!
# The tokens that a piece delivers

Reading on with one separator delivers tokens one after the other. A piece that was split on another
separator delivers its first part, then the first part of what is left of it, and so on. Each first
part is delivered without the quotes that enclose it, as splitting the piece would give it, but what
is left in the end stands as it is if no character of it separates, its quotes included.

`delivered_eq_split_iff` says for every piece of an input whether the tokens that it delivers are
those that it is split into, and which arguments in quotes lose them. `quotes_delivered` is an
option whose quoted argument keeps its quotes.
-/

namespace CommandGrammar

open Cursor (Shows Attained readPiece readToken)

/-! ### Reading on -/

/-- Whether reading on with a separator delivers tokens and leads to a cursor. -/
inductive Cursor.Delivers (separator : String) : Cursor → List Token → Cursor → Prop
  /-- Nothing is read. -/
  | nil (c : Cursor) : Delivers separator c [] c
  /-- The next token is read, and the others after it. -/
  | cons {c next last : Cursor} {token : Token} {tokens : List Token}
      (fetch : c.fetch separator = some (token, next))
      (others : Delivers separator next tokens last) : Delivers separator c (token :: tokens) last

namespace Cursor.Delivers

variable {separator : String} {c d : Cursor} {tokens : List Token}

/-- Reading on is a walk that never steps back. -/
theorem walk (h : Delivers separator c tokens d) : Walk [separator] c tokens.reverse d := by
  induction h with
  | nil => exact .here
  | cons fetch _ ih =>
    rw [List.reverse_cons]
    exact (Walk.here.read List.mem_cons_self fetch).trans ih

/-- What is delivered first and what is read after it are all tokens that are read. -/
theorem fetchAll_eq (h : Delivers separator c tokens d) :
    (c.fetchAll separator).1 = tokens ++ (d.fetchAll separator).1 := by
  induction h with
  | nil => rfl
  | cons fetch _ ih => rw [Cursor.fetchAll_of_some fetch, ih, List.cons_append]

end Cursor.Delivers

/-- A piece delivers what it is read as, and the tokens behind it are left. -/
theorem delivers_readings {own : String} (separator : String) {c : Cursor} {past left : List Token}
    {piece : String} (h : Shows own c past (.text piece :: left)) :
    ∃ d, c.Delivers separator ((pieceReadings own separator piece).map .text) d ∧
      ∃ before, Shows own d before left := by
  induction piece using pieceReadings.induct own separator generalizing c past with
  | case1 piece cut =>
    rename_i ih
    obtain ⟨next, hfetch, hnext⟩ := h.fetch separator
    rw [pieceReadings, List.map_cons]
    by_cases hrest : (readPiece piece own separator).2 = ""
    · rw [dif_pos hrest]
      rw [readToken, if_pos hrest] at hnext
      exact ⟨next, .cons hfetch (.nil next), _, hnext⟩
    · rw [dif_neg hrest]
      rw [readToken, if_neg hrest] at hnext
      obtain ⟨d, hothers, hlast⟩ := ih hrest hnext
      exact ⟨d, .cons hfetch hothers, hlast⟩

/-- Whether reading on delivers some texts until the given tokens are left. -/
def Cursor.DeliversUntil (separator : String) (c : Cursor) (texts : List String)
    (rest : List Token) : Prop :=
  ∃ d, c.Delivers separator (texts.map .text) d ∧ d.left = rest

/-- The texts delivered until the tokens behind a piece are left are those that it is read as. -/
theorem deliversUntil_iff {own separator piece : String} {c : Cursor} {past rest : List Token}
    (h : Shows own c past (.text piece :: rest)) (texts : List String) :
    c.DeliversUntil separator texts rest ↔ texts = pieceReadings own separator piece := by
  constructor
  · rintro ⟨d, hdelivers, hleft⟩
    obtain ⟨left, hd⟩ := hdelivers.walk.shows h
    rw [hd.left_eq] at hleft
    have htokens := hdelivers.fetchAll_eq
    rw [fetchAll_shows h, fetchAll_shows hd, hleft, List.flatMap_cons] at htokens
    have hmap := List.append_cancel_right htokens
    exact (List.map_inj_right fun _ _ => Token.text.inj).mp hmap.symm
  · rintro rfl
    obtain ⟨d, hdelivers, _, hd⟩ := delivers_readings separator h
    exact ⟨d, hdelivers, hd.left_eq⟩

/-! ### Pieces in quotes -/

namespace Split

/-- Characters behind a piece that opened without a quote are added to it if none separates. -/
theorem first_free {separators ahead : List Char} (h : ∀ c ∈ ahead, c ∉ separators)
    (held : List Char) : first separators none false held ahead = (held.reverse ++ ahead, []) := by
  induction ahead generalizing held with
  | nil => simp [first, close]
  | cons c ahead ih =>
    have hkept : ¬ separators.contains c = true :=
      mt List.contains_iff_mem.mp (h c List.mem_cons_self)
    rw [first, if_neg hkept, if_neg (by simp), ih fun d hd => h d (List.mem_cons_of_mem _ hd)]
    simp

/-- A quote is closed by the next one of its kind, whatever stands between them. -/
theorem first_enclosed {inner : List Char} {q : Char} (h : q ∉ inner) (separators : List Char)
    (fresh : Bool) (held : List Char) :
    first separators (some q) fresh held (inner ++ [q]) = (held.reverse ++ inner, []) := by
  induction inner generalizing fresh held with
  | nil => simp [first, close]
  | cons c inner ih =>
    obtain ⟨hc, hrest⟩ := not_or.mp (mt List.mem_cons.mpr h)
    rw [List.cons_append, first, if_neg (Ne.symm hc), ih hrest]
    simp

end Split

/-- Whether a text opens with a quote that is closed. -/
def OpensClosedQuote (text : String) : Prop :=
  ∃ q rest, text.toList = q :: rest ∧ isQuote q = true ∧ q ∈ rest

/-- A text that no character separates is its own first part unless it opens with a quote that is
closed. -/
theorem splitOnce_free_iff {text separators : String}
    (h : ∀ c ∈ text.toList, c ∉ separators.toList) :
    (splitOnce text separators).1 = text ↔ ¬ OpensClosedQuote text := by
  rw [← String.toList_inj, splitOnce, String.toList_ofList, OpensClosedQuote]
  cases hchars : text.toList with
  | nil => simp [Split.first, Split.close]
  | cons c rest =>
    rw [hchars] at h
    have hkept : ¬ separators.toList.contains c = true :=
      mt List.contains_iff_mem.mp (h c List.mem_cons_self)
    have hrest : ∀ d ∈ rest, d ∉ separators.toList := fun d hd => h d (List.mem_cons_of_mem _ hd)
    rw [List.dropWhile_cons_of_neg hkept, Split.first, if_neg hkept, Bool.true_and]
    by_cases hquote : isQuote c = true
    · rw [if_pos hquote]
      by_cases hclosed : c ∈ rest
      · refine iff_of_false (fun heq => ?_) (not_not_intro ⟨c, rest, rfl, hquote, hclosed⟩)
        have hlength := Split.first_closed_length hclosed separators.toList false []
        rw [heq, List.length_cons, List.length_nil] at hlength
        omega
      · refine iff_of_true ?_ ?_
        · rw [Split.first_unclosed hclosed]
          rfl
        · rintro ⟨q, others, heq, -, hmem⟩
          cases heq
          exact hclosed hmem
    · rw [if_neg hquote, Split.first_free hrest]
      refine iff_of_true rfl ?_
      rintro ⟨q, others, heq, hquoted, -⟩
      cases heq
      exact hquote hquoted

/-- A text in quotes is one part, without the quotes. -/
theorem splitOnce_enclosed {text separators : String} {q : Char} {inner : List Char}
    (hquote : isQuote q = true) (hsep : q ∉ separators.toList) (hinner : q ∉ inner)
    (htext : text.toList = q :: (inner ++ [q])) :
    splitOnce text separators = (String.ofList inner, "") := by
  have hkept : ¬ separators.toList.contains q = true := mt List.contains_iff_mem.mp hsep
  have hfirst : Split.first separators.toList none true [] (q :: (inner ++ [q])) =
      (inner, []) := by
    rw [Split.first, if_neg hkept, Bool.true_and, if_pos hquote, Split.first_enclosed hinner]
    rfl
  rw [splitOnce, htext, List.dropWhile_cons_of_neg hkept, hfirst]

/-! ### Pieces that deliver what they are split into -/

/-- Whether a text is read, part by part, as the pieces that it is split into: no first part is
empty, and what is left in the end has a separator character, or no quote in front that is
closed. -/
inductive CutAsSplit (separator : String) : String → Prop
  /-- The first part is all there is. -/
  | last {text : String} (head : (splitOnce text separator).1 ≠ "")
      (none : (splitOnce text separator).2 = "")
      (bare : (∃ c ∈ text.toList, c ∈ separator.toList) ∨ ¬ OpensClosedQuote text) :
      CutAsSplit separator text
  /-- What is left after the first part is read as its pieces. -/
  | more {text : String} (head : (splitOnce text separator).1 ≠ "")
      (some : (splitOnce text separator).2 ≠ "")
      (others : CutAsSplit separator (splitOnce text separator).2) : CutAsSplit separator text

/-- A text without a rest behind its first part is read as its piece unless it keeps its quotes. -/
theorem cutAsSplit_of_last {separator text : String} (hhead : (splitOnce text separator).1 ≠ "")
    (hrest : (splitOnce text separator).2 = "") :
    CutAsSplit separator text ↔
      (∃ c ∈ text.toList, c ∈ separator.toList) ∨ ¬ OpensClosedQuote text := by
  refine ⟨fun h => ?_, .last hhead hrest⟩
  cases h with
  | last _ _ bare => exact bare
  | more _ some _ => exact absurd hrest some

/-- A text with a rest behind its first part is read as its pieces if the rest is. -/
theorem cutAsSplit_of_more {separator text : String} (hhead : (splitOnce text separator).1 ≠ "")
    (hrest : (splitOnce text separator).2 ≠ "") :
    CutAsSplit separator text ↔ CutAsSplit separator (splitOnce text separator).2 := by
  refine ⟨fun h => ?_, .more hhead hrest⟩
  cases h with
  | last _ none _ => exact absurd none hrest
  | more _ _ others => exact others

/-- A text without a first part is not its own only piece. -/
theorem split_ne_whole {text separator : String} (hhead : (splitOnce text separator).1 = "") :
    split text separator ≠ [text] := by
  intro h
  rw [split_eq_splitOnce, if_pos hhead, List.nil_append] at h
  have hlength := splitOnce_length text separator
  have hle := (split_filled (splitOnce text separator).2 separator).2
  rw [h] at hle
  by_cases hrest : (splitOnce text separator).2 = ""
  · rw [hrest] at h
    cases h
  · rw [if_neg hrest] at hlength
    simp only [List.map_cons, List.map_nil, extentOf_cons, extentOf_nil, Token.extent] at hle
    omega

/-- A piece is read as the pieces that another separator splits it into when it is cut so, and not
otherwise. -/
theorem pieceReadings_eq_split_iff {own separator : String} (hown : own ≠ separator)
    (piece : String) :
    pieceReadings own separator piece = split piece separator ↔ CutAsSplit separator piece := by
  induction piece using pieceReadings.induct own separator with
  | case1 text cut ih =>
    by_cases hhead : (splitOnce text separator).1 = ""
    · have hwhole : readPiece text own separator = (text, "") := by
        rcases Cursor.readPiece_cases text own separator with hwhole | ⟨-, -, hne⟩
        · exact hwhole
        · exact absurd hhead hne
      have hread : pieceReadings own separator text = [text] := by
        rw [pieceReadings, hwhole]
        rfl
      rw [hread]
      refine iff_of_false (fun h => split_ne_whole hhead h.symm) fun h => ?_
      cases h with
      | last head _ _ => exact head hhead
      | more head _ _ => exact head hhead
    · rw [split_of_head hhead]
      by_cases hrest : (splitOnce text separator).2 = ""
      · rw [cutAsSplit_of_last hhead hrest, hrest]
        by_cases hsep : ∃ c ∈ text.toList, c ∈ separator.toList
        · refine iff_of_true ?_ (.inl hsep)
          rw [pieceReadings, readPiece_of_separated hown hsep hhead, hrest]
          rfl
        · have hfree : ∀ c ∈ text.toList, c ∉ separator.toList := by simpa using hsep
          have hread : pieceReadings own separator text = [text] := by
            rw [pieceReadings, readPiece_of_uncut hfree]
            rfl
          have hnone : split "" separator = [] := rfl
          rw [hread, hnone, List.singleton_inj, or_iff_right hsep, ← splitOnce_free_iff hfree,
            eq_comm]
      · have hcut := readPiece_of_cut hown hhead hrest
        simp only [show cut = splitOnce text separator from hcut] at ih
        rw [pieceReadings, cutAsSplit_of_more hhead hrest, ← ih hrest, hcut]
        simp [hrest]

/-- The pieces of a text, or the text itself if it has none. -/
def piecesOrWhole (text separator : String) : List String :=
  if split text separator = [] then [text] else split text separator

/-- A piece is read as the pieces that it is split into, or as itself without any, when it has none
or is cut so, and not otherwise. -/
theorem pieceReadings_eq_piecesOrWhole_iff {own separator : String} (hown : own ≠ separator)
    (piece : String) :
    pieceReadings own separator piece = piecesOrWhole piece separator ↔
      split piece separator = [] ∨ CutAsSplit separator piece := by
  unfold piecesOrWhole
  by_cases hnone : split piece separator = []
  · rw [if_pos hnone]
    refine iff_of_true ?_ (.inl hnone)
    have hwhole : readPiece piece own separator = (piece, "") := by
      rcases Cursor.readPiece_cases piece own separator with hwhole | ⟨-, -, hhead⟩
      · exact hwhole
      · rw [split_of_head hhead] at hnone
        cases hnone
    rw [pieceReadings, hwhole]
    rfl
  · rw [if_neg hnone, or_iff_right hnone, pieceReadings_eq_split_iff hown]

/-- A text in quotes is read without them when a character in it separates, and not otherwise. -/
theorem pieceReadings_enclosed_iff {own separator piece : String} {q : Char} {inner : List Char}
    (hown : own ≠ separator) (hquote : isQuote q = true) (hsep : q ∉ separator.toList)
    (hinner : q ∉ inner) (hsome : inner ≠ []) (hpiece : piece.toList = q :: (inner ++ [q])) :
    pieceReadings own separator piece = [String.ofList inner] ↔
      ∃ c ∈ inner, c ∈ separator.toList := by
  have hcut := splitOnce_enclosed hquote hsep hinner hpiece
  have hhead : (splitOnce piece separator).1 ≠ "" := by simpa [hcut] using hsome
  have hrest : (splitOnce piece separator).2 = "" := by rw [hcut]
  have hsplit : split piece separator = [String.ofList inner] := by
    rw [split_of_head hhead, hcut]
    rfl
  have hclosed : OpensClosedQuote piece := ⟨q, inner ++ [q], hpiece, hquote, by simp⟩
  rw [← hsplit, pieceReadings_eq_split_iff hown, cutAsSplit_of_last hhead hrest,
    or_iff_left (not_not_intro hclosed), hpiece]
  simp [hsep]

/-- At every piece that a cursor comes to in an input, and for every separator other than that of
the input, the tokens that reading on delivers for the piece are those that it is split into, or the
piece itself where it is split into none, exactly when it is split into none or cut so. An argument
in quotes is delivered without them exactly when a character in it separates. -/
theorem delivered_eq_split_iff {input : Input} {own : String} {excluded : List String}
    {refuse : Bool} {start c : Cursor} {separator piece : String} {rest : List Token}
    (hstart : Cursor.tokenize input own excluded refuse = .ok start) (hc : Attained start c)
    (hnext : c.left = .text piece :: rest) (hown : own ≠ separator) :
    (c.DeliversUntil separator (piecesOrWhole piece separator) rest ↔
      split piece separator = [] ∨ CutAsSplit separator piece) ∧
    ∀ q inner, isQuote q = true → q ∉ separator.toList → q ∉ inner → inner ≠ [] →
      piece.toList = q :: (inner ++ [q]) →
      (c.DeliversUntil separator [String.ofList inner] rest ↔
        ∃ d ∈ inner, d ∈ separator.toList) := by
  obtain ⟨hsound, howned⟩ := hc.valid hstart
  obtain ⟨past, hshows⟩ := hsound.shows howned
  rw [hnext] at hshows
  constructor
  · rw [deliversUntil_iff hshows, eq_comm, pieceReadings_eq_piecesOrWhole_iff hown]
  · intro q inner hquote hsep hinner hsome hpiece
    rw [deliversUntil_iff hshows, eq_comm,
      pieceReadings_enclosed_iff hown hquote hsep hinner hsome hpiece]

/-- Behind the name of an option an argument in quotes is delivered without them, as there is an
equals sign in it. -/
theorem delivered_eq_split_name :
    let start : Cursor := ⟨[.text ["--name='a=b'"] " "], 0, 0⟩
    let next : Cursor := ⟨[.text ["--name", "'a=b'"] " "], 0, 1⟩
    Cursor.tokenize (.text "--name='a=b'") " " [] false = .ok start ∧ Attained start next ∧
      next.left = [.text "'a=b'"] ∧ " " ≠ "=" ∧
      next.DeliversUntil "=" (piecesOrWhole "'a=b'" "=") [] ∧
      next.DeliversUntil "=" ["a=b"] [] := by
  intro start next
  have hstart : Cursor.tokenize (.text "--name='a=b'") " " [] false = .ok start := by rfl
  have hread : start.fetch "=" = some (.text "--name", next) := by rfl
  have hattained : Attained start next := .fetch .start hread
  have hleft : next.left = [.text "'a=b'"] := by rfl
  have hown : " " ≠ "=" := by decide
  obtain ⟨hsplit, hquoted⟩ := delivered_eq_split_iff hstart hattained hleft hown
  have hcut : CutAsSplit "=" "'a=b'" :=
    .last (by decide +kernel) (by decide +kernel) (.inl (by simp))
  have hname := hquoted '\'' ['a', '=', 'b'] rfl (by decide) (by decide) (by decide) rfl
  exact ⟨hstart, hattained, hleft, hown, hsplit.mpr (.inr hcut), hname.mpr ⟨'=', by simp⟩⟩

/-- Behind the name of an option an argument in quotes is delivered with them, as no character in it
separates, though the piece is split into the name and the argument without its quotes. -/
theorem quotes_delivered :
    let start : Cursor := ⟨[.text ["--name='Bob'"] " "], 0, 0⟩
    Cursor.tokenize (.text "--name='Bob'") " " [] false = .ok start ∧
      start.left = [.text "--name='Bob'"] ∧ split "--name='Bob'" "=" = ["--name", "Bob"] ∧
      start.DeliversUntil "=" ["--name", "'Bob'"] [] ∧
      ¬ start.DeliversUntil "=" (piecesOrWhole "--name='Bob'" "=") [] := by
  intro start
  have hstart : Cursor.tokenize (.text "--name='Bob'") " " [] false = .ok start := by rfl
  have hshows : Shows " " start [] [.text "--name='Bob'"] := tokenize_tokens hstart
  have hsplit : split "--name='Bob'" "=" = ["--name", "Bob"] := by decide +kernel
  have hname : start.fetch "=" =
      some (.text "--name", ⟨[.text ["--name", "'Bob'"] " "], 0, 1⟩) := by rfl
  have hvalue : Cursor.fetch ⟨[.text ["--name", "'Bob'"] " "], 0, 1⟩ "=" =
      some (.text "'Bob'", ⟨[.text ["--name", "'Bob'"] " "], 1, 0⟩) := by rfl
  have hdelivers : start.DeliversUntil "=" ["--name", "'Bob'"] [] :=
    ⟨_, .cons hname (.cons hvalue (.nil _)), by rfl⟩
  refine ⟨hstart, by rfl, hsplit, hdelivers, fun h => ?_⟩
  have hread := (deliversUntil_iff hshows _).mp hdelivers
  have hpieces := (deliversUntil_iff hshows _).mp h
  rw [← hread, piecesOrWhole, hsplit] at hpieces
  simp at hpieces

end CommandGrammar
