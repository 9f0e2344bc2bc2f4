import CommandGrammar.Proofs.TokenSequence

/-!
# States of a cursor

A cursor over tokenized input is moved by reading a token with some separator, by stepping back
over any token, and by consuming all that is left. However it is moved, it stands at a piece of a
segment or at the end, and all texts remain split on the separator of the input.

`Attained.valid` says this of every cursor that is attained from the start. `startOf` counts the
tokens in front of a segment, which tells where stepping back leads: over a text to the token
before, over a unit to the first token of the segment before.
-/

namespace CommandGrammar

namespace Cursor

/-- Where a segment begins: the number of tokens in the segments before it. -/
def startOf (segments : List Segment) (segment : Nat) : Nat :=
  ((segments.take segment).flatMap Segment.tokens).length

/-- A segment ends where the next one begins. -/
theorem startOf_succ {segments : List Segment} {i : Nat} {s : Segment}
    (h : segments[i]? = some s) : startOf segments (i + 1) = startOf segments i + s.size := by
  simp [startOf, List.take_add_one, h]

/-- The first segment of several moves the others by its size. -/
theorem startOf_cons (s : Segment) (rest : List Segment) (i : Nat) :
    startOf (s :: rest) (i + 1) = s.size + startOf rest i := by
  simp [startOf]

/-- Later segments do not begin earlier. -/
theorem startOf_le {segments : List Segment} {i j : Nat} (h : i ≤ j) :
    startOf segments i ≤ startOf segments j := by
  obtain ⟨extra, rfl⟩ := Nat.exists_eq_add_of_le h
  unfold startOf
  rw [List.take_add, List.flatMap_append, List.length_append]
  exact Nat.le_add_right _ _

/-- A unit among the tokens is a segment of its own. -/
theorem unit_begins_segment {segments : List Segment} {place : Nat} {u : OpaqueUnit}
    (h : (segments.flatMap Segment.tokens)[place]? = some (.unit u)) :
    ∃ i, segments[i]? = some (.unit u) ∧ startOf segments i = place := by
  induction segments generalizing place with
  | nil => simp at h
  | cons s rest ih =>
    rw [List.flatMap_cons, List.getElem?_append] at h
    split at h
    · cases s with
      | text pieces own =>
        obtain ⟨piece, -, hpiece⟩ := List.mem_map.mp (List.mem_of_getElem? h)
        cases hpiece
      | unit found =>
        rename_i hlt
        have hzero : place = 0 := by simpa [Segment.size] using hlt
        subst hzero
        exact ⟨0, by simpa [Segment.tokens] using h, rfl⟩
    · rename_i hle
      obtain ⟨i, hi, hstart⟩ := ih h
      refine ⟨i + 1, hi, ?_⟩
      rw [startOf_cons, hstart]
      rw [Segment.length_tokens] at hle ⊢
      omega

/-- The place of a cursor is the beginning of its segment and the pieces consumed there. -/
theorem offset_eq (c : Cursor) : c.offset = startOf c.segments c.segment + c.piece := rfl

/-- A cursor stands in front of every segment after its own. -/
theorem Sound.offset_lt_startOf {c : Cursor} (h : c.Sound) {i : Nat} (hlt : c.segment < i)
    (hle : i ≤ c.segments.length) : c.offset < startOf c.segments i := by
  have hs : c.segments[c.segment]? = some c.segments[c.segment] := List.getElem?_eq_getElem _
  have hinside := h.inside _ hs
  have hnext : startOf c.segments (c.segment + 1) ≤ startOf c.segments i := startOf_le hlt
  rw [startOf_succ hs] at hnext
  rw [offset_eq]
  omega

/-- Sound cursors with the same place in the same segments are the same. -/
theorem Sound.eq_of_offset {c d : Cursor} (hc : c.Sound) (hd : d.Sound)
    (hsegments : c.segments = d.segments) (hoffset : c.offset = d.offset) : c = d := by
  have hbegins : ∀ e : Cursor, startOf e.segments e.segment ≤ e.offset := fun e =>
    Nat.le_add_right _ _
  have hsegment : c.segment = d.segment := by
    rcases Nat.lt_trichotomy c.segment d.segment with hlt | heq | hgt
    · have hbefore := hc.offset_lt_startOf hlt (hsegments ▸ hd.segment_le)
      rw [hoffset, hsegments] at hbefore
      exact absurd (hbegins d) (Nat.not_le.mpr hbefore)
    · exact heq
    · have hbefore := hd.offset_lt_startOf hgt (hsegments ▸ hc.segment_le)
      rw [← hoffset, ← hsegments] at hbefore
      exact absurd (hbegins c) (Nat.not_le.mpr hbefore)
  rw [offset_eq, offset_eq, hsegments, hsegment] at hoffset
  have hpiece : c.piece = d.piece := Nat.add_left_cancel hoffset
  obtain ⟨segments, segment, piece⟩ := c
  obtain ⟨others, other, place⟩ := d
  cases hsegments
  cases hsegment
  cases hpiece
  rfl

/-- A unit that was consumed stands no later than the segment before the one of the cursor. -/
theorem Sound.unit_before {c : Cursor} (h : c.Sound) {place : Nat} {u : OpaqueUnit}
    (hu : (c.segments.flatMap Segment.tokens)[place]? = some (.unit u))
    (hplace : place < c.offset) :
    place ≤ startOf c.segments (c.segment - 1) := by
  obtain ⟨i, hi, rfl⟩ := unit_begins_segment hu
  suffices hbefore : i < c.segment from startOf_le (by omega)
  refine Nat.lt_of_not_le fun hle => ?_
  rcases Nat.eq_or_lt_of_le hle with heq | hlt
  · -- At the unit itself no piece of the segment was consumed.
    have hpiece : c.piece < 1 := h.inside (.unit u) (heq ▸ hi)
    rw [offset_eq, heq] at hplace
    omega
  · obtain ⟨hlength, -⟩ := List.getElem?_eq_some_iff.mp hi
    have hfront := h.offset_lt_startOf hlt (Nat.le_of_lt hlength)
    omega

/-- Stepping back over any token leads to a piece of a segment or to the end. -/
theorem Sound.pushBack {c : Cursor} (h : c.Sound) (token : Token) : (c.pushBack token).Sound := by
  have hle := h.segment_le
  cases token with
  | text text =>
    by_cases hpiece : c.piece = 0
    · have hback : c.pushBack (.text text) = { c with
          segment := c.segment - 1
          piece := (c.segments[c.segment - 1]?.map Segment.size).getD 0 - 1 } := by
        simp [Cursor.pushBack, hpiece]
      rw [hback]
      refine ⟨h.filled, by dsimp only; omega, fun s hs => ?_, fun hnone => ?_⟩
      · have hsize := h.filled s (List.mem_of_getElem? hs)
        dsimp only at hs ⊢
        rw [hs, Option.map_some, Option.getD_some]
        omega
      · dsimp only at hnone ⊢
        rw [hnone]
        rfl
    · have hback : c.pushBack (.text text) = { c with piece := c.piece - 1 } := by
        simp [Cursor.pushBack, hpiece]
      rw [hback]
      refine ⟨h.filled, hle, fun s hs => ?_, fun hnone => absurd (h.outside hnone) hpiece⟩
      have hinside := h.inside s hs
      dsimp only
      omega
  | unit u =>
    refine ⟨h.filled, by dsimp only [Cursor.pushBack]; omega, fun s hs => ?_, fun _ => rfl⟩
    exact Nat.pos_of_ne_zero (h.filled s (List.mem_of_getElem? hs))

/-- Stepping back over a text leads to the token before, whatever that is. -/
theorem Sound.offset_pushBack_text {c : Cursor} (h : c.Sound) (hpos : 0 < c.offset)
    (text : String) : (c.pushBack (.text text)).offset = c.offset - 1 := by
  rw [offset_eq] at hpos
  rw [offset_eq, offset_eq, pushBack_segments]
  by_cases hpiece : c.piece = 0
  · have hsegment : c.segment ≠ 0 := fun hzero => by simp [hzero, hpiece, startOf] at hpos
    have hle := h.segment_le
    obtain ⟨s, hs⟩ : ∃ s, c.segments[c.segment - 1]? = some s :=
      ⟨_, List.getElem?_eq_getElem (by omega)⟩
    have hsize := h.filled s (List.mem_of_getElem? hs)
    have hend := startOf_succ hs
    rw [Nat.sub_add_cancel (Nat.pos_of_ne_zero hsegment)] at hend
    simp only [Cursor.pushBack, hpiece, if_true, hs, Option.map_some, Option.getD_some]
    omega
  · simp only [Cursor.pushBack, hpiece, if_false]
    omega

/-- The end is a place to stand at. -/
theorem Sound.atEnd {c : Cursor} (h : c.Sound) : c.atEnd.Sound :=
  ⟨h.filled, Nat.le_refl _, fun s hs => by simp [Cursor.atEnd] at hs, fun _ => rfl⟩

/-- At the end all tokens were consumed. -/
theorem offset_atEnd (c : Cursor) :
    c.atEnd.offset = (c.segments.flatMap Segment.tokens).length := by
  simp [Cursor.atEnd, Cursor.offset]

/-- The cursors that are attained from one by reading tokens with any separators, stepping back
over any tokens, and consuming all that is left. -/
inductive Attained (start : Cursor) : Cursor → Prop
  /-- Nothing was done. -/
  | start : Attained start start
  /-- The next token is read. -/
  | fetch {c next : Cursor} {separator : String} {token : Token} (h : Attained start c)
      (hfetch : c.fetch separator = some (token, next)) : Attained start next
  /-- A token is stepped back over. -/
  | pushBack {c : Cursor} (h : Attained start c) (token : Token) : Attained start (c.pushBack token)
  /-- All that is left is consumed. -/
  | atEnd {c : Cursor} (h : Attained start c) : Attained start c.atEnd

/-- What is read from a sound cursor over texts split on one separator leads to such a cursor. -/
theorem Sound.fetch {own separator : String} {c next : Cursor} {token : Token} (h : c.Sound)
    (howned : c.OwnedBy own) (hfetch : c.fetch separator = some (token, next)) :
    next.Sound ∧ next.OwnedBy own := by
  obtain ⟨past, hshows⟩ := h.shows howned
  cases hleft : c.left with
  | nil =>
    rw [hleft] at hshows
    cases (hshows.fetch_nil separator).symm.trans hfetch
  | cons first rest =>
    rw [hleft] at hshows
    obtain ⟨found, hfound, hnext⟩ := hshows.fetch separator
    cases hfound.symm.trans hfetch
    exact ⟨hnext.sound, hnext.owned⟩

/-- Every cursor that is attained from the start of an input is sound, and all its texts are split
on the separator of the input. -/
theorem Attained.valid {input : Input} {own : String} {excluded : List String} {refuse : Bool}
    {start c : Cursor} (hstart : tokenize input own excluded refuse = .ok start)
    (h : Attained start c) : c.Sound ∧ c.OwnedBy own := by
  induction h with
  | start =>
    have hshows := tokenize_tokens hstart
    exact ⟨hshows.sound, hshows.owned⟩
  | fetch _ hfetch ih => exact ih.1.fetch ih.2 hfetch
  | pushBack _ token ih =>
    refine ⟨ih.1.pushBack token, fun s hs => ih.2 s ?_⟩
    rwa [pushBack_segments] at hs
  | atEnd _ ih => exact ⟨ih.1.atEnd, ih.2⟩

end Cursor

end CommandGrammar
