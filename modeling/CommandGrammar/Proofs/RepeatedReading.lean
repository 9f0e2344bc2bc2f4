import CommandGrammar.Proofs.ConsumedNames
import CommandGrammar.Proofs.CursorStates
import CommandGrammar.Proofs.SplitParts

/-!
# Reading a token again

Reading a piece with a separator other than its own leaves the parts of it in its place, without
the quotes that were closed. Stepping back only moves the place, so the first part is what is read
next: it stands for itself if the same separator leaves it whole.

`fetch_pushBack_fetch_iff` says for every cursor that is attained from an input when a token that
was read and stepped back over is read again as before. `fetch_after_quotes` is an input where the
separator stood in quotes, and cuts the token when it is read again.
-/

namespace CommandGrammar

open Cursor (Shows Attained readPiece readToken)

/-- Whether a token is left whole by a separator that its text was not split on. A text is if it has
no separator character, nothing in front of one, or a quote in front that is never closed. -/
def Token.UncutBy (separator : String) : Token → Prop
  | text t => (∀ c ∈ t.toList, c ∉ separator.toList) ∨ (splitOnce t separator).1 = "" ∨
      OpensQuote separator t
  | unit _ => True

/-- Nothing is left of a text that is its own first part. -/
theorem splitOnce_eq_whole_iff {text separator : String} :
    splitOnce text separator = (text, "") ↔ (splitOnce text separator).1 = text := by
  refine ⟨congrArg Prod.fst, fun hhead => Prod.ext hhead ?_⟩
  refine Decidable.byContradiction fun hrest => ?_
  have hlength := splitOnce_length text separator
  rw [hhead, if_neg hrest] at hlength
  omega

/-- A text is read whole with its own separator, and with every other that leaves it whole. -/
theorem readPiece_whole_iff (piece own separator : String) :
    readPiece piece own separator = (piece, "") ↔
      own = separator ∨ (Token.text piece).UncutBy separator := by
  by_cases hown : own = separator
  · simp [readPiece, hown]
  rw [or_iff_right hown, Token.UncutBy]
  by_cases hfree : ∀ c ∈ piece.toList, c ∉ separator.toList
  · exact ⟨fun _ => .inl hfree, fun _ => readPiece_of_uncut hfree⟩
  rw [or_iff_right hfree]
  have hsome : ∃ c ∈ piece.toList, c ∈ separator.toList := by
    simpa using hfree
  have hcut : readPiece piece own separator =
      if (splitOnce piece separator).1 = "" then (piece, "") else splitOnce piece separator := by
    have hany : piece.toList.any separator.toList.contains = true := by
      obtain ⟨c, hc, hsep⟩ := hsome
      exact List.any_eq_true.mpr ⟨c, hc, List.contains_iff_mem.mpr hsep⟩
    simp only [readPiece, if_neg hown, recut?, if_pos hany]
    split <;> rfl
  rw [hcut]
  by_cases hhead : (splitOnce piece separator).1 = ""
  · rw [if_pos hhead]
    exact ⟨fun _ => .inl hhead, fun _ => rfl⟩
  · rw [if_neg hhead, or_iff_right hhead, splitOnce_eq_whole_iff, splitOnce_eq_self_iff hsome]

/-- A token is read whole with its own separator, and with every other that leaves it whole. -/
theorem readToken_whole_iff (own separator : String) (token : Token) :
    readToken own separator token = (token, []) ↔ own = separator ∨ token.UncutBy separator := by
  cases token with
  | unit u => exact ⟨fun _ => .inr trivial, fun _ => rfl⟩
  | text piece =>
    rw [← readPiece_whole_iff, readToken, Prod.ext_iff, Prod.ext_iff]
    by_cases hrest : (readPiece piece own separator).2 = "" <;> simp [hrest]

/-- A token that is read whole is read as with its own separator. -/
theorem Cursor.Shows.fetch_whole {own separator : String} {c : Cursor} {past left : List Token}
    {token : Token} (h : Shows own c past (token :: left))
    (hwhole : readToken own separator token = (token, [])) : c.fetch separator = c.fetch own := by
  rcases h.cases with ⟨-, -, -, hleft⟩ | ⟨before, u, after, rfl, -, hleft⟩ |
      ⟨before, front, piece, back, after, rfl, -, hleft⟩
  · cases hleft
  · simp [Cursor.fetch]
  · obtain ⟨rfl, -⟩ := List.cons.inj hleft
    have hpiece : readPiece piece own separator = readPiece piece own own := by
      rw [(readPiece_whole_iff _ _ _).mpr ((readToken_whole_iff _ _ _).mp hwhole)]
      simp [readPiece]
    simp [Cursor.fetch, hpiece]

/-- From every cursor that is attained from an input, a token that was read and stepped back over is
read again, and the cursor is left as the first time, exactly when the separator is that of the
input or leaves the token whole. -/
theorem fetch_pushBack_fetch_iff {input : Input} {own : String} {excluded : List String}
    {refuse : Bool} {start c next : Cursor} {separator : String} {token : Token}
    (hstart : Cursor.tokenize input own excluded refuse = .ok start) (hc : Attained start c)
    (h : c.fetch separator = some (token, next)) :
    (next.pushBack token).fetch separator = some (token, next) ↔
      own = separator ∨ token.UncutBy separator := by
  rw [← readToken_whole_iff]
  obtain ⟨hsound, howned⟩ := hc.valid hstart
  obtain ⟨past, hshows⟩ := hsound.shows howned
  cases hleft : c.left with
  | nil =>
    rw [hleft] at hshows
    cases (hshows.fetch_nil separator).symm.trans h
  | cons first rest =>
    rw [hleft] at hshows
    obtain ⟨_, hfound, hnext⟩ := hshows.fetch separator
    cases hfound.symm.trans h
    have hback := hnext.pushBack
    constructor
    · intro hsame
      obtain ⟨again, hagain, hshown⟩ := hback.fetch separator
      obtain ⟨htoken, hcursor⟩ := Prod.mk.inj (Option.some.inj (hagain.symm.trans hsame))
      rw [hcursor] at hshown
      -- The same tokens are left behind both, so no part stays in place of the token.
      have htokens := hshown.left_eq.symm.trans hnext.left_eq
      exact Prod.ext htoken (List.append_left_eq_self.mp htokens)
    · intro hwhole
      obtain ⟨again, hagain, hshown, hsegments⟩ := hback.fetch_self
      have hsame : again = next := by
        have hplaces := hsegments.trans (Cursor.pushBack_segments next _)
        exact hshown.sound.eq_of_offset hnext.sound hplaces (hshown.offset.trans hnext.offset.symm)
      rw [hback.fetch_whole hwhole, hagain, hsame]

/-- A quoted piece with a space is read in front of the semicolon, and is left whole by it when it
is read again without the quotes. -/
theorem fetch_pushBack_fetch_quoted :
    let first : List Segment := [.text ["say", "\"a b\";c"] " "]
    let cut : List Segment := [.text ["say", "a b", "c"] " "]
    Cursor.tokenize (.text "say '\"a b\";c'") " " [] false = .ok ⟨first, 0, 0⟩ ∧
      Attained ⟨first, 0, 0⟩ ⟨first, 0, 1⟩ ∧
      Cursor.fetch ⟨first, 0, 1⟩ ";" = some (.text "a b", ⟨cut, 0, 2⟩) ∧
      (Cursor.pushBack ⟨cut, 0, 2⟩ (.text "a b")).fetch ";" = some (.text "a b", ⟨cut, 0, 2⟩) := by
  intro first cut
  have hstart : Cursor.tokenize (.text "say '\"a b\";c'") " " [] false = .ok ⟨first, 0, 0⟩ := by
    rfl
  have hsay : Cursor.fetch ⟨first, 0, 0⟩ " " = some (.text "say", ⟨first, 0, 1⟩) := by rfl
  have hread : Cursor.fetch ⟨first, 0, 1⟩ ";" = some (.text "a b", ⟨cut, 0, 2⟩) := by rfl
  have hwhole : (Token.text "a b").UncutBy ";" := .inl (by simp)
  have hattained := Attained.fetch .start hsay
  exact ⟨hstart, hattained, hread,
    (fetch_pushBack_fetch_iff hstart hattained hread).mpr (.inr hwhole)⟩

/-- The comma in quotes is part of the token that is read first, and cuts it when it is read
again. -/
theorem fetch_after_quotes :
    let start : Cursor := ⟨[.text ["\"a,b\",c"] " "], 0, 0⟩
    let next : Cursor := ⟨[.text ["a,b", "c"] " "], 0, 1⟩
    Cursor.tokenize (.text "'\"a,b\",c'") " " [] false = .ok start ∧ Attained start start ∧
      start.fetch "," = some (.text "a,b", next) ∧
      (next.pushBack (.text "a,b")).fetch "," =
        some (.text "a", ⟨[.text ["a", "b", "c"] " "], 0, 1⟩) :=
  ⟨by rfl, .start, by rfl, by rfl⟩

end CommandGrammar
