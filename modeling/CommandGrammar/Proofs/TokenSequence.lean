import CommandGrammar.Matching.Filling

/-!
# A cursor as a sequence of tokens with a mark

Segments are a way to store one sequence of tokens. A sound cursor whose texts were all split
on one separator shows this sequence with a mark in it: the tokens before the mark were read,
those after it are left. Reading moves the mark over one token, or over the first part of one
that is cut, and stepping back moves it back over the token read last.

`Shows.fetch` and `Shows.pushBack` say this for single steps with any separator. Every
statement about the handlers is derived from them without looking at segments again.
-/

namespace CommandGrammar

namespace Segment

/-- The tokens of a segment as it stands. -/
def tokens : Segment → List Token
  | text pieces _ => pieces.map .text
  | unit u => [.unit u]

/-- Whether a text was split on a separator; a unit suits any. -/
def OwnedBy (separator : String) : Segment → Prop
  | text _ own => own = separator
  | unit _ => True

/-- A segment has as many tokens as its size says. -/
@[simp] theorem length_tokens (s : Segment) : s.tokens.length = s.size := by
  cases s <;> simp [tokens, size]

end Segment

namespace Cursor

/-- No segment is empty, and the place is a piece of a segment or the end. -/
structure Sound (c : Cursor) : Prop where
  /-- Every segment has a token. -/
  filled : ∀ s ∈ c.segments, s.size ≠ 0
  /-- The segment is one of the input, or the end. -/
  segment_le : c.segment ≤ c.segments.length
  /-- The piece is one of the segment. -/
  inside : ∀ s, c.segments[c.segment]? = some s → c.piece < s.size
  /-- There is only one place at the end. -/
  outside : c.segments[c.segment]? = none → c.piece = 0

/-- How many tokens were consumed. -/
def offset (c : Cursor) : Nat :=
  ((c.segments.take c.segment).flatMap Segment.tokens).length + c.piece

/-- The tokens not yet consumed, as they stand. -/
def left (c : Cursor) : List Token := c.ahead.flatMap Segment.tokens

/-- Whether all texts were split on a separator. -/
def OwnedBy (separator : String) (c : Cursor) : Prop := ∀ s ∈ c.segments, s.OwnedBy separator

/-- The cursor stands between the tokens of `past`, the latest of which is first, and those
of `left`. -/
structure Shows (own : String) (c : Cursor) (past left : List Token) : Prop where
  /-- The cursor is sound. -/
  sound : c.Sound
  /-- All texts were split on the one separator. -/
  owned : c.OwnedBy own
  /-- The segments store both parts. -/
  tokens : c.segments.flatMap Segment.tokens = past.reverse ++ left
  /-- The mark is behind the first part. -/
  offset : c.offset = past.length

/-- A sound cursor is at the end, at a unit, or at a piece of a text. -/
theorem Sound.cases {c : Cursor} (h : c.Sound) :
    (c.segment = c.segments.length ∧ c.piece = 0) ∨
    (∃ before u after, c = ⟨before ++ .unit u :: after, before.length, 0⟩) ∨
    (∃ before front piece back own after,
      c = ⟨before ++ .text (front ++ piece :: back) own :: after, before.length, front.length⟩) := by
  obtain ⟨segments, segment, place⟩ := c
  have hin := h.inside
  have hout := h.outside
  have hle := h.segment_le
  dsimp only at hin hout hle ⊢
  cases hget : segments[segment]? with
  | none =>
    have := List.getElem?_eq_none_iff.mp hget
    exact .inl ⟨by omega, hout hget⟩
  | some s =>
    obtain ⟨hlt, -⟩ := List.getElem?_eq_some_iff.mp hget
    have hsplit := eq_take_cons_drop hget
    have hlen : (segments.take segment).length = segment := by simp; omega
    have hplace := hin s hget
    cases s with
    | unit u =>
      have hzero : place = 0 := by simpa [Segment.size] using hplace
      refine .inr (.inl ⟨segments.take segment, u, segments.drop (segment + 1), ?_⟩)
      rw [hzero, hlen, ← hsplit]
    | text pieces own =>
      have hp : place < pieces.length := hplace
      refine .inr (.inr ⟨segments.take segment, pieces.take place, pieces[place],
        pieces.drop (place + 1), own, segments.drop (segment + 1), ?_⟩)
      rw [← eq_take_cons_drop (List.getElem?_eq_getElem hp), ← hsplit, hlen]
      simp only [List.length_take, Cursor.mk.injEq, true_and]
      omega

/-- Where a cursor that shows a sequence stands: at its end, at a unit, or at a text. -/
theorem Shows.cases {own : String} {c : Cursor} {past left : List Token}
    (h : Shows own c past left) :
    (c.segment = c.segments.length ∧ c.piece = 0 ∧
      past.reverse = c.segments.flatMap Segment.tokens ∧ left = []) ∨
    (∃ before u after, c = ⟨before ++ .unit u :: after, before.length, 0⟩ ∧
      past.reverse = before.flatMap Segment.tokens ∧
      left = .unit u :: after.flatMap Segment.tokens) ∨
    (∃ before front piece back after,
      c = ⟨before ++ .text (front ++ piece :: back) own :: after, before.length, front.length⟩ ∧
      past.reverse = before.flatMap Segment.tokens ++ front.map .text ∧
      left = .text piece :: (back.map .text ++ after.flatMap Segment.tokens)) := by
  have htokens := h.tokens
  have hoffset := h.offset
  rcases h.sound.cases with ⟨hsegment, hpiece⟩ | ⟨before, u, after, rfl⟩ |
      ⟨before, front, piece, back, found, after, rfl⟩
  · rw [Cursor.offset, hsegment, hpiece, List.take_length] at hoffset
    have := List.append_inj (htokens.symm.trans (List.append_nil _).symm) (by simp [← hoffset])
    exact .inl ⟨hsegment, hpiece, this⟩
  · refine .inr (.inl ⟨before, u, after, rfl, ?_⟩)
    simp only [Cursor.offset, List.take_left, Nat.add_zero] at hoffset
    simp only [List.flatMap_append, List.flatMap_cons, Segment.tokens] at htokens
    exact List.append_inj htokens.symm (by simp [← hoffset])
  · have hfound : found = own := h.owned (.text (front ++ piece :: back) found) (by simp)
    subst hfound
    refine .inr (.inr ⟨before, front, piece, back, after, rfl, ?_⟩)
    simp only [Cursor.offset, List.take_left] at hoffset
    simp only [List.flatMap_append, List.flatMap_cons, Segment.tokens, List.map_append,
      List.map_cons] at htokens
    exact List.append_inj (by simp [← htokens]) (by simp [← hoffset])

/-- Stepping over a token of the segment moves the mark over it. -/
theorem Shows.advance {own : String} {c : Cursor} {past left : List Token} {s : Segment}
    {token : Token} (h : Shows own c past (token :: left))
    (hs : c.segments[c.segment]? = some s) :
    Shows own (c.advance s.size) (token :: past) left := by
  have hin := h.sound.inside s hs
  have hoffset := h.offset
  obtain ⟨hlt, -⟩ := List.getElem?_eq_some_iff.mp hs
  have htokens : c.segments.flatMap Segment.tokens = (token :: past).reverse ++ left := by
    simp [h.tokens]
  unfold Cursor.advance
  split
  · rename_i hinside
    refine ⟨⟨h.sound.filled, h.sound.segment_le, fun s' hs' => ?_, fun hnone => ?_⟩, h.owned,
      htokens, ?_⟩
    · rw [show s' = s from Option.some.inj (hs'.symm.trans hs)]
      exact hinside
    · simp [hs] at hnone
    · simp only [Cursor.offset, List.length_cons] at hoffset ⊢
      omega
  · refine ⟨⟨h.sound.filled, hlt, fun s' hs' => ?_, fun _ => rfl⟩, h.owned, htokens, ?_⟩
    · exact Nat.pos_of_ne_zero (h.sound.filled s' (List.mem_of_getElem? hs'))
    · have htake : c.segments.take (c.segment + 1) = c.segments.take c.segment ++ [s] := by
        rw [List.take_add_one, hs, Option.toList_some]
      simp only [Cursor.offset, htake, List.flatMap_append, List.flatMap_cons, List.flatMap_nil,
        List.append_nil, List.length_append, Segment.length_tokens, List.length_cons] at hoffset ⊢
      omega

/-- Cutting the piece that is next leaves the mark in front of its parts. -/
theorem Shows.cut {own : String} {before after : List Segment} {front parts back : List String}
    {piece : String} {past left : List Token}
    (h : Shows own ⟨before ++ .text (front ++ piece :: back) own :: after, before.length,
      front.length⟩ past (.text piece :: left)) (hparts : parts ≠ []) :
    Shows own ⟨before ++ .text (front ++ parts ++ back) own :: after, before.length,
      front.length⟩ past (parts.map .text ++ left) := by
  have hsound := h.sound
  have hlength : 0 < parts.length := List.length_pos_iff.mpr hparts
  have htokens := h.tokens
  have hoffset := h.offset
  refine ⟨⟨fun s hs => ?_, ?_, fun s hs => ?_, fun hnone => ?_⟩, fun s hs => ?_, ?_, ?_⟩
  · have := hsound.filled s
    simp only [List.mem_append, List.mem_cons] at hs this
    rcases hs with hs | rfl | hs
    · exact this (.inl hs)
    · simp only [Segment.size, List.length_append]
      omega
    · exact this (.inr (.inr hs))
  · simp
  · simp only [List.getElem?_append_right (Nat.le_refl _), Nat.sub_self, List.getElem?_cons_zero,
      Option.some.injEq] at hs
    subst hs
    simp only [Segment.size, List.length_append]
    omega
  · simp at hnone
  · have := h.owned s
    simp only [List.mem_append, List.mem_cons] at hs this
    rcases hs with hs | rfl | hs
    · exact this (.inl hs)
    · rfl
    · exact this (.inr (.inr hs))
  · simp only [Cursor.offset, List.take_left] at hoffset
    simp only [List.flatMap_append, List.flatMap_cons, Segment.tokens, List.map_append,
      List.map_cons, List.append_assoc, List.cons_append] at htokens ⊢
    rw [← List.append_assoc] at htokens
    obtain ⟨hpast, hleft⟩ := List.append_inj htokens (by simp [← hoffset])
    obtain ⟨-, hleft⟩ := List.cons.inj hleft
    rw [← hpast, ← hleft, List.append_assoc]
  · simpa only [Cursor.offset, List.take_left] using hoffset

/-- A piece is read whole, or it is cut by a separator other than its own, with something in
front of the cut. -/
theorem readPiece_cases (piece own separator : String) :
    readPiece piece own separator = (piece, "") ∨
      (own ≠ separator ∧ readPiece piece own separator = splitOnce piece separator ∧
        (splitOnce piece separator).1 ≠ "") := by
  unfold readPiece
  split
  · exact .inl rfl
  · rename_i hown
    unfold recut?
    split
    · dsimp only
      split
      · exact .inl rfl
      · rename_i hhead
        exact .inr ⟨hown, rfl, hhead⟩
    · exact .inl rfl

/-- What a token gives when it is read with a separator: its first part, and the part that
stays in its place. -/
def readToken (own separator : String) : Token → Token × List Token
  | .text piece =>
    let cut := readPiece piece own separator
    (.text cut.1, if cut.2 = "" then [] else [.text cut.2])
  | .unit u => (.unit u, [])

/-- A token read with the separator its text was split on is taken as it stands. -/
@[simp] theorem readToken_self (own : String) (token : Token) :
    readToken own own token = (token, []) := by
  cases token <;> simp [readToken, readPiece]

/-- At the end there is no token to read. -/
theorem Shows.fetch_nil {own : String} {c : Cursor} {past : List Token}
    (h : Shows own c past []) (separator : String) : c.fetch separator = none := by
  rcases h.cases with ⟨hsegment, -⟩ | ⟨_, _, _, -, -, hleft⟩ | ⟨_, _, _, _, _, -, -, hleft⟩
  · simp [Cursor.fetch, hsegment]
  · cases hleft
  · cases hleft

/-- Reading a token moves the mark over its first part. -/
theorem Shows.fetch {own : String} {c : Cursor} {past left : List Token} {token : Token}
    (h : Shows own c past (token :: left)) (separator : String) :
    ∃ next, c.fetch separator = some ((readToken own separator token).1, next) ∧
      Shows own next ((readToken own separator token).1 :: past)
        ((readToken own separator token).2 ++ left) := by
  rcases h.cases with ⟨-, -, -, hleft⟩ | ⟨before, u, after, rfl, -, hleft⟩ |
      ⟨before, front, piece, back, after, rfl, -, hleft⟩
  · cases hleft
  · obtain ⟨rfl, -⟩ := List.cons.inj hleft
    refine ⟨_, by simp [Cursor.fetch, readToken]; rfl, ?_⟩
    exact h.advance (s := .unit u) (by simp)
  · obtain ⟨rfl, -⟩ := List.cons.inj hleft
    generalize hcut : readPiece piece own separator = cut
    have hparts : (cutParts cut).map Token.text ++ left =
        .text cut.1 :: ((if cut.2 = "" then [] else [.text cut.2]) ++ left) := by
      unfold cutParts
      split <;> simp
    have hshows := h.cut (show cutParts cut ≠ [] by simp [cutParts])
    rw [hparts] at hshows
    refine ⟨_, ?_, hcut ▸ hshows.advance (s := .text (front ++ cutParts cut ++ back) own) (by simp)⟩
    simp [Cursor.fetch, readToken, hcut, putParts, Segment.size]

/-- A text read with the separator it was split on stays as it is. -/
theorem fetch_segments_self {own : String} {c next : Cursor} {token : Token}
    (howned : c.OwnedBy own) (h : c.fetch own = some (token, next)) :
    next.segments = c.segments := by
  rcases fetch_eq_some h with ⟨u, -, -, rfl⟩ |
      ⟨pieces, found, piece, hsegment, hpiece, -, parts, rfl, rfl⟩
  · exact (c.advance_place 1).2
  · have hfound : found = own := howned (.text pieces found) (List.mem_of_getElem? hsegment)
    have hput : putParts pieces c.piece [piece] = pieces := by
      rw [putParts, List.append_assoc, List.singleton_append, ← eq_take_cons_drop hpiece]
    obtain ⟨hlt, hs⟩ := List.getElem?_eq_some_iff.mp hsegment
    rw [(advance_place _ _).2, hfound]
    simp only [readPiece, if_true, cutParts, hput, ← hfound, ← hs, List.set_getElem_self]

/-- Reading with the separator of the texts moves the mark over a whole token. -/
theorem Shows.fetch_self {own : String} {c : Cursor} {past left : List Token} {token : Token}
    (h : Shows own c past (token :: left)) :
    ∃ next, c.fetch own = some (token, next) ∧ Shows own next (token :: past) left ∧
      next.segments = c.segments := by
  obtain ⟨next, hfetch, hnext⟩ := h.fetch own
  rw [readToken_self] at hfetch hnext
  exact ⟨next, hfetch, hnext, fetch_segments_self h.owned hfetch⟩

/-- Stepping back changes no segment. -/
@[simp] theorem pushBack_segments (c : Cursor) (token : Token) :
    (c.pushBack token).segments = c.segments := by
  unfold Cursor.pushBack
  split
  · split <;> rfl
  · rfl

/-- The place before a token decides where the mark is after stepping back to it. -/
theorem Shows.stepBack {own : String} {c d : Cursor} {past left : List Token} {token : Token}
    {s : Segment} (h : Shows own c (token :: past) left) (hsegments : d.segments = c.segments)
    (hs : c.segments[d.segment]? = some s) (hpiece : d.piece < s.size)
    (hoffset : d.offset + 1 = c.offset) : Shows own d past (token :: left) := by
  obtain ⟨hlt, -⟩ := List.getElem?_eq_some_iff.mp hs
  refine ⟨⟨?_, ?_, fun s' hs' => ?_, fun hnone => ?_⟩, ?_, ?_, ?_⟩
  · rw [hsegments]
    exact h.sound.filled
  · rw [hsegments]
    exact Nat.le_of_lt hlt
  · rw [hsegments, hs] at hs'
    exact Option.some.inj hs' ▸ hpiece
  · rw [hsegments, hs] at hnone
    cases hnone
  · unfold Cursor.OwnedBy
    rw [hsegments]
    exact h.owned
  · simp [hsegments, h.tokens]
  · have := h.offset
    simp only [List.length_cons] at this
    omega

/-- Stepping back over the token read last moves the mark back over it. -/
theorem Shows.pushBack {own : String} {c : Cursor} {past left : List Token} {token : Token}
    (h : Shows own c (token :: past) left) :
    Shows own (c.pushBack token) past (token :: left) := by
  have hoffset := h.offset
  rw [Cursor.offset, List.length_cons] at hoffset
  by_cases hpiece : c.piece = 0
  · -- The token is the last one of the segment before.
    have hpos : 0 < c.segment := by
      refine Nat.pos_of_ne_zero fun hzero => ?_
      simp [hzero, hpiece] at hoffset
    have hle := h.sound.segment_le
    obtain ⟨s, hs⟩ : ∃ s, c.segments[c.segment - 1]? = some s :=
      ⟨_, List.getElem?_eq_getElem (by omega)⟩
    have htake : c.segments.take c.segment = c.segments.take (c.segment - 1) ++ [s] := by
      have := List.take_add_one (l := c.segments) (i := c.segment - 1)
      rwa [Nat.sub_add_cancel hpos, hs, Option.toList_some] at this
    have htokens := h.tokens
    rw [← List.take_append_drop c.segment c.segments, List.flatMap_append] at htokens
    obtain ⟨hpast, -⟩ := List.append_inj htokens (by
      simp only [List.length_reverse, List.length_cons]
      omega)
    simp only [htake, List.flatMap_append, List.flatMap_cons, List.flatMap_nil, List.append_nil,
      List.reverse_cons] at hpast
    have hsize := h.sound.filled s (List.mem_of_getElem? hs)
    have hplace : (c.pushBack token).segment = c.segment - 1 ∧
        (c.pushBack token).piece = s.size - 1 := by
      have hlast := congrArg List.getLast? hpast
      cases s with
      | unit u =>
        simp only [Segment.tokens, List.getLast?_concat, Option.some.injEq] at hlast
        subst hlast
        exact ⟨rfl, rfl⟩
      | text pieces _ =>
        rcases List.eq_nil_or_concat pieces with rfl | ⟨front, piece, rfl⟩
        · exact absurd rfl hsize
        · simp only [Segment.tokens, List.concat_eq_append, List.map_append, List.map_cons,
            List.map_nil, ← List.append_assoc, List.getLast?_concat, Option.some.injEq] at hlast
          subst hlast
          simp [Cursor.pushBack, hpiece, hs]
    refine h.stepBack (pushBack_segments c token) (hplace.1 ▸ hs) (by omega) ?_
    rw [Cursor.offset, Cursor.offset, pushBack_segments, hplace.1, hplace.2, htake, hpiece]
    simp only [List.flatMap_append, List.flatMap_cons, List.flatMap_nil, List.append_nil,
      List.length_append, Segment.length_tokens]
    omega
  · -- The token is the piece before in the same text.
    rcases h.cases with ⟨-, hzero, -⟩ | ⟨_, _, _, rfl, -⟩ |
        ⟨before, front, piece, back, after, rfl, hpast, -⟩
    · exact absurd hzero hpiece
    · exact absurd rfl hpiece
    · rcases List.eq_nil_or_concat front with rfl | ⟨front, previous, rfl⟩
      · exact absurd rfl hpiece
      · have hlast := congrArg List.getLast? hpast
        simp only [List.concat_eq_append, List.map_append, List.map_cons, List.map_nil,
          List.reverse_cons, ← List.append_assoc, List.getLast?_concat, Option.some.injEq] at hlast
        subst hlast
        refine h.stepBack (pushBack_segments _ _)
          (s := .text (front ++ previous :: piece :: back) own) ?_ ?_ ?_
        · simp [Cursor.pushBack]
        · simp [Cursor.pushBack, Segment.size]
        · simp [Cursor.pushBack, Cursor.offset]
          omega

/-- Stepping back over several tokens changes no segment. -/
@[simp] theorem pushBackAll_segments (c : Cursor) (tokens : List Token) :
    (c.pushBackAll tokens).segments = c.segments := by
  induction tokens with
  | nil => rfl
  | cons token tokens ih => rw [pushBackAll_cons, pushBack_segments, ih]

/-- Stepping back over several tokens moves the mark in front of them. -/
theorem Shows.pushBackAll {own : String} {c : Cursor} {past left tokens : List Token}
    (h : Shows own c (tokens.reverse ++ past) left) :
    Shows own (c.pushBackAll tokens) past (tokens ++ left) := by
  induction tokens generalizing past with
  | nil => exact h
  | cons token tokens ih =>
    rw [List.reverse_cons, List.append_assoc] at h
    exact (ih h).pushBack

/-- The tokens behind the mark are those not yet consumed. -/
theorem Shows.left_eq {own : String} {c : Cursor} {past left : List Token}
    (h : Shows own c past left) : c.left = left := by
  rcases h.cases with ⟨hsegment, -, -, rfl⟩ | ⟨before, u, after, rfl, -, rfl⟩ |
      ⟨before, front, piece, back, after, rfl, -, rfl⟩
  · simp [Cursor.left, Cursor.ahead, hsegment]
  · simp [Cursor.left, Cursor.ahead, Segment.dropPieces, Segment.tokens]
  · simp [Cursor.left, Cursor.ahead, Segment.dropPieces, Segment.tokens]

/-- A sound cursor over texts split on one separator shows the tokens not yet consumed. -/
theorem Sound.shows {own : String} {c : Cursor} (h : c.Sound) (howned : c.OwnedBy own) :
    ∃ past, Shows own c past c.left := by
  have htokens := List.take_append_drop c.offset (c.segments.flatMap Segment.tokens)
  refine ⟨((c.segments.flatMap Segment.tokens).take c.offset).reverse, ?_⟩
  suffices hshows : Shows own c ((c.segments.flatMap Segment.tokens).take c.offset).reverse
      ((c.segments.flatMap Segment.tokens).drop c.offset) by
    rwa [hshows.left_eq]
  refine ⟨h, howned, by simp, ?_⟩
  simp only [List.length_reverse, List.length_take]
  refine (Nat.min_eq_left ?_).symm
  rcases h.cases with ⟨hsegment, hpiece⟩ | ⟨before, u, after, rfl⟩ |
      ⟨before, front, piece, back, found, after, rfl⟩
  · simp [Cursor.offset, hsegment, hpiece]
  · simp [Cursor.offset]
  · simp [Cursor.offset, Segment.size]
    omega

/-- The token that can be seen is the one that would be read. -/
theorem Shows.peek {own : String} {c : Cursor} {past left : List Token}
    (h : Shows own c past left) (separator : String) :
    c.peek separator = left.head?.map fun token => (readToken own separator token).1 := by
  rcases h.cases with ⟨hsegment, -, -, rfl⟩ | ⟨before, u, after, rfl, -, rfl⟩ |
      ⟨before, front, piece, back, after, rfl, -, rfl⟩
  · simp [Cursor.peek, hsegment]
  · simp [Cursor.peek, readToken]
  · simp [Cursor.peek, readToken]

/-- Everything was consumed when no token is left. -/
theorem Shows.isExhausted {own : String} {c : Cursor} {past left : List Token}
    (h : Shows own c past left) : c.isExhausted = left.isEmpty := by
  rcases h.cases with ⟨hsegment, -, -, rfl⟩ | ⟨before, u, after, rfl, -, rfl⟩ |
      ⟨before, front, piece, back, after, rfl, -, rfl⟩
  · simp [Cursor.isExhausted, hsegment]
  · simp [Cursor.isExhausted]
  · simp [Cursor.isExhausted]

/-- How many tokens a token counts for when it is read with a separator. -/
def tokenCount (own separator : String) : Token → Nat
  | .text piece => if own = separator then 1 else max 1 (split piece separator).length
  | .unit _ => 1

/-- A segment yields as many tokens as its own tokens count for. -/
theorem countWith_eq {own : String} {s : Segment} (h : s.OwnedBy own) (separator : String) :
    s.countWith separator = sumOf (s.tokens.map (tokenCount own separator)) := by
  cases s with
  | text pieces found =>
    rw [show found = own from h]
    simp only [Segment.countWith, Segment.tokens, List.map_map]
    rfl
  | unit u => rfl

/-- The segments ahead were split on the separator of all. -/
theorem ownedBy_ahead {own : String} {c : Cursor} (h : c.OwnedBy own) :
    ∀ s ∈ c.ahead, s.OwnedBy own := by
  intro s hs
  unfold Cursor.ahead at hs
  split at hs
  · cases hs
  · rename_i first rest hdrop
    have hmem : ∀ t ∈ first :: rest, t.OwnedBy own := fun t ht =>
      h t (List.mem_of_mem_drop (hdrop ▸ ht))
    rcases List.mem_cons.mp hs with rfl | hs
    · have := hmem first List.mem_cons_self
      cases first <;> exact this
    · exact hmem s (List.mem_cons_of_mem _ hs)

/-- The number of tokens left counts what each of them yields. -/
theorem Shows.remaining {own : String} {c : Cursor} {past left : List Token}
    (h : Shows own c past left) (separator : String) :
    c.remaining separator = sumOf (left.map (tokenCount own separator)) := by
  rw [← h.left_eq, Cursor.remaining, Cursor.left]
  have howned := ownedBy_ahead h.owned
  generalize c.ahead = ahead at howned
  induction ahead with
  | nil => rfl
  | cons s rest ih =>
    simp only [List.map_cons, sumOf_cons, List.flatMap_cons, List.map_append, sumOf_append]
    rw [countWith_eq (howned s List.mem_cons_self), ih fun t ht =>
      howned t (List.mem_cons_of_mem _ ht)]

/-- With the separator the texts were split on every token counts once. -/
theorem Shows.remaining_self {own : String} {c : Cursor} {past left : List Token}
    (h : Shows own c past left) : c.remaining own = left.length := by
  rw [h.remaining]
  clear h
  induction left with
  | nil => rfl
  | cons token left ih =>
    have hone : tokenCount own own token = 1 := by cases token <;> simp [tokenCount]
    rw [List.map_cons, sumOf_cons, ih, hone, List.length_cons]
    omega

/-- The cursor at the start of segments shows all their tokens. -/
theorem shows_ofSegments {own : String} {segments : List Segment}
    (howned : ∀ s ∈ segments, s.OwnedBy own) (hfilled : ∀ s ∈ segments, s.size ≠ 0) :
    Shows own (ofSegments segments) [] (segments.flatMap Segment.tokens) := by
  have hfilter : segments.filter (fun s => s.size != 0) = segments :=
    List.filter_eq_self.mpr fun s hs => by simpa using hfilled s hs
  unfold ofSegments
  rw [hfilter]
  refine ⟨⟨hfilled, Nat.zero_le _, fun s hs => ?_, fun _ => rfl⟩, howned, rfl, rfl⟩
  exact Nat.pos_of_ne_zero (hfilled s (List.mem_of_getElem? hs))

/-- The segment of a text holds the pieces of the text. -/
theorem textSegment?_tokens (text separator : String) :
    (textSegment? text separator).toList.flatMap Segment.tokens =
      (split (trimFront text) separator).map .text := by
  unfold textSegment?
  split <;> simp_all [Segment.tokens]

/-- The segment of a text is not empty and belongs to the separator. -/
theorem textSegment?_sound {text separator : String} {s : Segment}
    (h : s ∈ (textSegment? text separator).toList) : s.OwnedBy separator ∧ s.size ≠ 0 := by
  unfold textSegment? at h
  split at h
  · simp at h
  · rename_i pieces hne
    have hs : s = .text (split (trimFront text) separator) separator := by simpa using h
    subst hs
    exact ⟨rfl, fun hzero => hne (List.eq_nil_of_length_eq_zero hzero)⟩

/-- The segments of a chain are not empty and belong to the separator. -/
theorem chainSegments_sound {separator : String} {excluded : List String} {refuse : Bool}
    {tokens : List Token} {segments : List Segment}
    (h : chainSegments separator excluded refuse tokens = .ok segments) :
    ∀ s ∈ segments, s.OwnedBy separator ∧ s.size ≠ 0 := by
  induction tokens generalizing segments with
  | nil =>
    cases h
    simp
  | cons token rest ih =>
    cases token with
    | text text =>
      cases hrest : chainSegments separator excluded refuse rest with
      | error fault => simp [chainSegments, hrest, bind, Except.bind] at h
      | ok others =>
        simp only [chainSegments, hrest, bind, Except.bind, Except.ok.injEq] at h
        subst h
        intro s hs
        rcases List.mem_append.mp hs with hs | hs
        · exact textSegment?_sound hs
        · exact ih hrest s hs
    | unit u =>
      unfold chainSegments at h
      split at h
      · split at h
        · cases h
        · exact ih h
      · cases hrest : chainSegments separator excluded refuse rest with
        | error fault => simp [hrest, bind, Except.bind] at h
        | ok others =>
          simp only [hrest, bind, Except.bind, Except.ok.injEq] at h
          subst h
          intro s hs
          rcases List.mem_cons.mp hs with rfl | hs
          · exact ⟨trivial, Nat.one_ne_zero⟩
          · exact ih hrest s hs

/-- The segments of an input are not empty and belong to the separator. -/
theorem inputSegments_sound {separator : String} {excluded : List String} {refuse : Bool}
    {input : Input} {segments : List Segment}
    (h : inputSegments separator excluded refuse input = .ok segments) :
    ∀ s ∈ segments, s.OwnedBy separator ∧ s.size ≠ 0 := by
  cases input with
  | text text =>
    cases h
    exact fun s hs => textSegment?_sound hs
  | chain tokens => exact chainSegments_sound h

/-- The cursor at the start of an input shows the tokens of its segments. -/
theorem tokenize_shows {input : Input} {separator : String} {excluded : List String}
    {refuse : Bool} {c : Cursor} (h : tokenize input separator excluded refuse = .ok c) :
    ∃ segments, inputSegments separator excluded refuse input = .ok segments ∧
      Shows separator c [] (segments.flatMap Segment.tokens) := by
  unfold tokenize at h
  split at h
  · cases h
  · rename_i segments hsegments
    split at h
    · cases h
    · cases h
      have hsound := inputSegments_sound hsegments
      exact ⟨segments, hsegments, shows_ofSegments (fun s hs => (hsound s hs).1)
        fun s hs => (hsound s hs).2⟩

end Cursor

/-- The tokens that an element of a chain is read as. Blank characters at the front of a text are
left out, and so are units of excluded kinds. -/
def Token.cut (separator : String) (excluded : List String) : Token → List Token
  | text whole => (split (trimFront whole) separator).map text
  | unit u => if excluded.contains u.kind then [] else [unit u]

/-- The tokens that an input is read as. -/
def Input.tokens (separator : String) (excluded : List String) : Input → List Token
  | text whole => Token.cut separator excluded (.text whole)
  | chain parts => parts.flatMap (Token.cut separator excluded)

/-- The segments of a chain store its tokens. -/
theorem chainSegments_tokens {separator : String} {excluded : List String} {refuse : Bool}
    {parts : List Token} {segments : List Segment}
    (h : Cursor.chainSegments separator excluded refuse parts = .ok segments) :
    segments.flatMap Segment.tokens = parts.flatMap (Token.cut separator excluded) := by
  induction parts generalizing segments with
  | nil =>
    cases h
    rfl
  | cons part rest ih =>
    rw [List.flatMap_cons]
    cases part with
    | text whole =>
      cases hrest : Cursor.chainSegments separator excluded refuse rest with
      | error fault => simp [Cursor.chainSegments, hrest, bind, Except.bind] at h
      | ok others =>
        simp only [Cursor.chainSegments, hrest, bind, Except.bind, Except.ok.injEq] at h
        rw [← h, List.flatMap_append, Cursor.textSegment?_tokens, ih hrest]
        rfl
    | unit u =>
      unfold Cursor.chainSegments at h
      split at h
      · rename_i hexcluded
        split at h
        · cases h
        · rw [ih h, Token.cut, if_pos hexcluded]
          rfl
      · rename_i hexcluded
        cases hrest : Cursor.chainSegments separator excluded refuse rest with
        | error fault => simp [hrest, bind, Except.bind] at h
        | ok others =>
          simp only [hrest, bind, Except.bind, Except.ok.injEq] at h
          rw [← h, List.flatMap_cons, ih hrest, Token.cut, if_neg hexcluded]
          rfl

/-- A cursor starts in front of the tokens of the input. -/
theorem tokenize_tokens {input : Input} {separator : String} {excluded : List String}
    {refuse : Bool} {start : Cursor}
    (h : Cursor.tokenize input separator excluded refuse = .ok start) :
    Cursor.Shows separator start [] (input.tokens separator excluded) := by
  obtain ⟨segments, hsegments, hshows⟩ := Cursor.tokenize_shows h
  suffices htokens : segments.flatMap Segment.tokens = input.tokens separator excluded from
    htokens ▸ hshows
  cases input with
  | text whole =>
    cases hsegments
    exact Cursor.textSegment?_tokens whole separator
  | chain parts => exact chainSegments_tokens hsegments

end CommandGrammar
