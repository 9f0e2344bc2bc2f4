import CommandGrammar.Proofs.BytePlaces
import CommandGrammar.Proofs.CursorStates
import CommandGrammar.Proofs.PlainTexts

/-!
# Every index of a cursor is in range

What a cursor is asked reads lists at indices and texts at bytes. The checked forms of reading,
looking, counting and consuming fault where an index is none of the list, where a slice begins
behind its end, and where a text is cut inside a character.

A cursor may be made of any segments, split on any separators, and any tokens may be stepped back
over, whether they were read or not. `built_in_range` says that it always stands at a piece of a
segment or at the end, and that no checked form ever faults: each answers as the plain one does.
-/

namespace CommandGrammar

/-- An index or a slice that is out of range. -/
inductive RangeFault where
  /-- There is no item at an index. -/
  | noItem (index size : Nat)
  /-- An item or a slice was asked for behind the end. -/
  | behindEnd (index size : Nat)
  /-- No character of a text begins at a byte. -/
  | insideCharacter (byte : Nat)
  deriving DecidableEq, Repr

section Checked

variable {α : Type}

/-- The item at an index. -/
def itemAt (items : List α) (index : Nat) : Except RangeFault α :=
  match items[index]? with
  | some item => .ok item
  | none => .error (.noItem index items.length)

/-- The items with the one at an index replaced. -/
def replaceAt (items : List α) (index : Nat) (item : α) : Except RangeFault (List α) :=
  if index < items.length then .ok (items.set index item)
  else .error (.noItem index items.length)

/-- The items with one more in front of the one at an index, or behind the last. -/
def insertAt (items : List α) (index : Nat) (item : α) : Except RangeFault (List α) :=
  if index ≤ items.length then .ok (items.take index ++ item :: items.drop index)
  else .error (.behindEnd index items.length)

/-- The items from an index on. -/
def itemsFrom (items : List α) (index : Nat) : Except RangeFault (List α) :=
  if index ≤ items.length then .ok (items.drop index)
  else .error (.behindEnd index items.length)

/-- The text from a byte on. -/
def textFrom (text : List Char) (byte : Nat) : Except RangeFault (List Char) :=
  match cutAtByte? byte text with
  | some (_, back) => .ok back
  | none => .error (.insideCharacter byte)

end Checked

/-- The first piece of the text ahead and what follows the separators after it, which is taken from
the whole text at the byte where the first of them stands. -/
def Split.firstChecked (separators text : List Char) :
    Option Char → Bool → List Char → (byte : Nat) → List Char →
      Except RangeFault (List Char × List Char)
  | quote, _, held, _, [] => .ok (close quote held, [])
  | some q, _, held, byte, c :: rest =>
    if c = q then firstChecked separators text none false held (byte + c.utf8Size) rest
    else firstChecked separators text (some q) false (c :: held) (byte + c.utf8Size) rest
  | none, fresh, held, byte, c :: rest =>
    if separators.contains c then do
      let behind ← textFrom text byte
      .ok (held.reverse, behind.dropWhile separators.contains)
    else if fresh && isQuote c then
      firstChecked separators text (some c) false held (byte + c.utf8Size) rest
    else firstChecked separators text none false (c :: held) (byte + c.utf8Size) rest

/-- Cut a piece that was split on another separator. -/
def recutChecked (piece separator : String) : Except RangeFault (Option (String × String)) :=
  if piece.toList.any separator.toList.contains then do
    let text := piece.toList.dropWhile separator.toList.contains
    let (head, rest) ← Split.firstChecked separator.toList text none true [] 0 text
    .ok (if head = [] then none else some (String.ofList head, String.ofList rest))
  else .ok none

namespace Cursor

/-- Step over one piece of the current segment. -/
def advanceChecked (c : Cursor) : Except RangeFault Cursor := do
  let s ← itemAt c.segments c.segment
  .ok (c.advance s.size)

/-- The pieces of a text with the one at an index cut, if a separator other than their own cuts
it. -/
def cutPieceChecked (pieces : List String) (index : Nat) (own separator : String) :
    Except RangeFault (List String) :=
  if own = separator then .ok pieces
  else do
    let piece ← itemAt pieces index
    match ← recutChecked piece separator with
    | none => .ok pieces
    | some (head, rest) => do
      let pieces ← replaceAt pieces index head
      if rest = "" then .ok pieces else insertAt pieces (index + 1) rest

/-- Read the next token with a separator and step over it. -/
def fetchChecked (c : Cursor) (separator : String) :
    Except RangeFault (Option (Token × Cursor)) :=
  match c.segments[c.segment]? with
  | none => .ok none
  | some (.unit u) => do
    let next ← c.advanceChecked
    .ok (some (.unit u, next))
  | some (.text pieces own) => do
    let pieces ← cutPieceChecked pieces c.piece own separator
    let first ← itemAt pieces c.piece
    let next ← advanceChecked { c with segments := c.segments.set c.segment (.text pieces own) }
    .ok (some (.text first, next))

/-- The next token with a separator. -/
def peekChecked (c : Cursor) (separator : String) : Except RangeFault (Option Token) :=
  match c.segments[c.segment]? with
  | none => .ok none
  | some (.unit u) => .ok (some (.unit u))
  | some (.text pieces own) => do
    let piece ← itemAt pieces c.piece
    if own = separator then .ok (some (.text piece))
    else match ← recutChecked piece separator with
      | none => .ok (some (.text piece))
      | some (head, _) => .ok (some (.text head))

/-- Segments that begin with the one at an index, that of the cursor from its piece on. -/
def slicesChecked (c : Cursor) : (index : Nat) → List Segment → Except RangeFault (List Segment)
  | _, [] => .ok []
  | index, .unit u :: rest => do
    let others ← slicesChecked c (index + 1) rest
    .ok (.unit u :: others)
  | index, .text pieces own :: rest => do
    let left ← itemsFrom pieces (if index = c.segment then c.piece else 0)
    let others ← slicesChecked c (index + 1) rest
    .ok (.text left own :: others)

/-- The segments not yet consumed, the first one without its consumed pieces. -/
def aheadChecked (c : Cursor) : Except RangeFault (List Segment) :=
  c.slicesChecked c.segment (c.segments.drop c.segment)

end Cursor

/-- What is asked of a cursor. -/
inductive CursorRequest where
  /-- Read the next token with a separator. -/
  | fetch (separator : String)
  /-- Look at the next token with a separator. -/
  | peek (separator : String)
  /-- Step back over a token, whether it was read or not. -/
  | pushBack (token : Token)
  /-- Count the tokens left for a separator. -/
  | remaining (separator : String)
  /-- Consume all that is left. -/
  | drain

/-- What a cursor replies. -/
inductive CursorReply where
  /-- A token, or none at the end. -/
  | token (token : Option Token)
  /-- A number of tokens. -/
  | count (n : Nat)
  /-- The tokens left. -/
  | tokens (tokens : List Token)
  /-- The request only moves the cursor. -/
  | done

namespace Cursor

/-- The reply to a request, and where it leads. -/
def serve (c : Cursor) : CursorRequest → CursorReply × Cursor
  | .fetch separator =>
    match c.fetch separator with
    | none => (.token none, c)
    | some (token, next) => (.token (some token), next)
  | .peek separator => (.token (c.peek separator), c)
  | .pushBack token => (.done, c.pushBack token)
  | .remaining separator => (.count (c.remaining separator), c)
  | .drain => (.tokens c.rest, c.atEnd)

/-- The reply to a request with every index checked, and where it leads. -/
def serveChecked (c : Cursor) : CursorRequest → Except RangeFault (CursorReply × Cursor)
  | .fetch separator => do
    match ← c.fetchChecked separator with
    | none => .ok (.token none, c)
    | some (token, next) => .ok (.token (some token), next)
  | .peek separator => do
    let token ← c.peekChecked separator
    .ok (.token token, c)
  | .pushBack token => .ok (.done, c.pushBack token)
  | .remaining separator => do
    let ahead ← c.aheadChecked
    .ok (.count (sumOf (ahead.map (Segment.countWith separator))), c)
  | .drain => do
    let ahead ← c.aheadChecked
    .ok (.tokens (ahead.map Segment.rejoin), c.atEnd)

/-- The replies to several requests, and where they lead. -/
def serveAll : Cursor → List CursorRequest → List CursorReply × Cursor
  | c, [] => ([], c)
  | c, request :: others =>
    let (reply, next) := c.serve request
    let (replies, last) := serveAll next others
    (reply :: replies, last)

/-- The replies to several requests with every index checked, and where they lead. -/
def serveAllChecked : Cursor → List CursorRequest →
    Except RangeFault (List CursorReply × Cursor)
  | c, [] => .ok ([], c)
  | c, request :: others => do
    let (reply, next) ← c.serveChecked request
    let (replies, last) ← serveAllChecked next others
    .ok (reply :: replies, last)

end Cursor

section Checked

variable {α β : Type} {items : List α} {index : Nat} {item : α}

/-- What did not fault goes on. -/
theorem ok_bind (a : α) (f : α → Except RangeFault β) : (Except.ok a >>= f) = f a := rfl

/-- An item that is there is found. -/
theorem itemAt_eq (h : items[index]? = some item) : itemAt items index = .ok item := by
  unfold itemAt
  rw [h]

end Checked

/-- Cutting off the first piece takes the rest of the text where a character begins. -/
theorem Split.firstChecked_eq {separators text front : List Char} {quote : Option Char}
    {fresh : Bool} {held ahead : List Char} (h : text = front ++ ahead) :
    firstChecked separators text quote fresh held (byteSize front) ahead =
      .ok (first separators quote fresh held ahead) := by
  -- Each character that was looked at adds its bytes to those of the text in front.
  have hnext : ∀ {front rest : List Char} (c : Char), text = front ++ c :: rest →
      text = front ++ [c] ++ rest := fun c h => by simpa using h
  have hbytes : ∀ (front : List Char) (c : Char),
      byteSize front + c.utf8Size = byteSize (front ++ [c]) := by simp
  fun_induction first separators quote fresh held ahead generalizing front with
  | case1 quote fresh held => rfl
  | case2 fresh held q rest ih => rw [firstChecked, if_pos rfl, hbytes, ih (hnext q h)]
  | case3 fresh held q c rest hne ih => rw [firstChecked, if_neg hne, hbytes, ih (hnext c h)]
  | case4 fresh held c rest hsep =>
    rw [firstChecked, if_pos hsep, textFrom, h, cutAtByte?_append, ok_bind,
      List.dropWhile_cons_of_pos hsep]
  | case5 fresh held c rest hsep hquote ih =>
    rw [firstChecked, if_neg hsep, if_pos hquote, hbytes, ih (hnext c h)]
  | case6 fresh held c rest hsep hquote ih =>
    rw [firstChecked, if_neg hsep, if_neg hquote, hbytes, ih (hnext c h)]

/-- Cutting a piece never goes out of range. -/
theorem recutChecked_eq (piece separator : String) :
    recutChecked piece separator = .ok (recut? piece separator) := by
  unfold recutChecked recut?
  split
  · have htext := (List.nil_append (piece.toList.dropWhile separator.toList.contains)).symm
    have hfirst := @Split.firstChecked_eq separator.toList _ _ none true [] _ htext
    rw [byteSize_nil] at hfirst
    dsimp only
    rw [hfirst, ok_bind]
    simp [splitOnce]
  · rfl

namespace Cursor

/-- Cutting the piece at an index puts its parts in its place. -/
theorem cutPieceChecked_eq {pieces : List String} {index : Nat} {piece : String}
    (h : pieces[index]? = some piece) (own separator : String) :
    cutPieceChecked pieces index own separator =
      .ok (putParts pieces index (cutParts (readPiece piece own separator))) := by
  have hwhole : pieces = putParts pieces index [piece] := by
    simpa [putParts] using eq_take_cons_drop h
  obtain ⟨hlt, -⟩ := List.getElem?_eq_some_iff.mp h
  unfold cutPieceChecked readPiece
  split
  · simpa [cutParts] using hwhole
  · simp only [itemAt_eq h, recutChecked_eq, ok_bind]
    cases hcut : recut? piece separator with
    | none => simpa [cutParts] using hwhole
    | some cut =>
      obtain ⟨head, rest⟩ := cut
      have hset : pieces.set index head = pieces.take index ++ head :: pieces.drop (index + 1) :=
        List.set_eq_take_append_cons_drop.trans (if_pos hlt)
      have hfront : (pieces.take index ++ [head]).length = index + 1 := by simp; omega
      simp only [replaceAt, if_pos hlt, ok_bind, Option.getD_some, cutParts]
      split
      · simp [putParts, hset]
      · rw [insertAt, if_pos (by rw [List.length_set]; exact hlt), hset,
          ← List.singleton_append, ← List.append_assoc, List.take_left' hfront,
          List.drop_left' hfront]
        simp [putParts]

/-- The piece that was read stands where it was cut. -/
theorem getElem?_putParts {pieces : List String} {index : Nat} (h : index < pieces.length)
    (first : String) (others : List String) :
    (putParts pieces index (first :: others))[index]? = some first := by
  simp [putParts, Nat.le_of_lt h]

/-- Stepping over a piece of a segment that is there never goes out of range. -/
theorem advanceChecked_eq {c : Cursor} {s : Segment} (h : c.segments[c.segment]? = some s) :
    c.advanceChecked = .ok (c.advance s.size) := by
  rw [advanceChecked, itemAt_eq h, ok_bind]

/-- Stepping over a piece of a segment that was replaced never goes out of range. -/
theorem advanceChecked_set {c : Cursor} (h : c.segment < c.segments.length) (s : Segment) :
    advanceChecked { c with segments := c.segments.set c.segment s } =
      .ok (Cursor.advance { c with segments := c.segments.set c.segment s } s.size) :=
  advanceChecked_eq (List.getElem?_set_self h)

/-- Inside a text there is a piece to be read. -/
theorem Sound.piece {c : Cursor} (h : c.Sound) {pieces : List String} {own : String}
    (hs : c.segments[c.segment]? = some (.text pieces own)) :
    ∃ piece, pieces[c.piece]? = some piece :=
  ⟨_, List.getElem?_eq_getElem (h.inside _ hs)⟩

/-- Reading a token never goes out of range. -/
theorem fetchChecked_eq {c : Cursor} (h : c.Sound) (separator : String) :
    c.fetchChecked separator = .ok (c.fetch separator) := by
  cases hs : c.segments[c.segment]? with
  | none => simp only [fetchChecked, fetch, hs]
  | some s =>
    obtain ⟨hsegment, -⟩ := List.getElem?_eq_some_iff.mp hs
    cases s with
    | unit u =>
      simp only [fetchChecked, fetch, hs, advanceChecked_eq hs, ok_bind]
      rfl
    | text pieces own =>
      obtain ⟨piece, hpiece⟩ := h.piece hs
      obtain ⟨hlt, -⟩ := List.getElem?_eq_some_iff.mp hpiece
      have hcut := cutPieceChecked_eq hpiece own separator
      have hfirst : (putParts pieces c.piece (cutParts (readPiece piece own separator)))[c.piece]? =
          some (readPiece piece own separator).1 := getElem?_putParts hlt ..
      simp only [fetchChecked, fetch, hs, hpiece, hcut, itemAt_eq hfirst, ok_bind,
        advanceChecked_set hsegment]
      rfl

/-- Looking at the next token never goes out of range. -/
theorem peekChecked_eq {c : Cursor} (h : c.Sound) (separator : String) :
    c.peekChecked separator = .ok (c.peek separator) := by
  cases hs : c.segments[c.segment]? with
  | none => simp only [peekChecked, peek, hs]
  | some s =>
    cases s with
    | unit u => simp only [peekChecked, peek, hs]
    | text pieces own =>
      obtain ⟨piece, hpiece⟩ := h.piece hs
      simp only [peekChecked, peek, hs, hpiece, itemAt_eq hpiece, recutChecked_eq, ok_bind,
        Option.map_some, readPiece]
      split
      · rfl
      · cases recut? piece separator <;> rfl

/-- Segments behind the one of the cursor are sliced from their start. -/
theorem slicesChecked_behind (c : Cursor) {index : Nat} (h : c.segment < index)
    (segments : List Segment) : c.slicesChecked index segments = .ok segments := by
  induction segments generalizing index with
  | nil => rfl
  | cons s rest ih =>
    have hrest := ih (Nat.lt_succ_of_lt h)
    cases s with
    | unit u => rw [slicesChecked, hrest, ok_bind]
    | text pieces own =>
      rw [slicesChecked, if_neg (Nat.ne_of_gt h), itemsFrom, if_pos (Nat.zero_le _), ok_bind, hrest,
        ok_bind, List.drop_zero]

/-- Slicing what is left never goes out of range. -/
theorem aheadChecked_eq {c : Cursor} (h : c.Sound) : c.aheadChecked = .ok c.ahead := by
  unfold aheadChecked ahead
  cases hleft : c.segments.drop c.segment with
  | nil => rfl
  | cons s rest =>
    have hs : c.segments[c.segment]? = some s := by
      rw [← List.head?_drop, hleft]
      rfl
    have hrest := c.slicesChecked_behind (Nat.lt_succ_self _) rest
    cases s with
    | unit u => rw [slicesChecked, hrest, ok_bind]; rfl
    | text pieces own =>
      have hle : c.piece ≤ pieces.length := Nat.le_of_lt (h.inside _ hs)
      rw [slicesChecked, if_pos rfl, itemsFrom, if_pos hle, ok_bind, hrest, ok_bind]
      rfl

/-- No request goes out of range. -/
theorem serveChecked_eq {c : Cursor} (h : c.Sound) (request : CursorRequest) :
    c.serveChecked request = .ok (c.serve request) := by
  cases request with
  | fetch separator =>
    rw [serveChecked, fetchChecked_eq h, ok_bind, serve]
    cases c.fetch separator <;> rfl
  | peek separator => rw [serveChecked, peekChecked_eq h, ok_bind, serve]
  | pushBack token => rfl
  | remaining separator => rw [serveChecked, aheadChecked_eq h, ok_bind]; rfl
  | drain => rw [serveChecked, aheadChecked_eq h, ok_bind]; rfl

/-- Stepping over a piece of a segment leads to a piece of a segment or to the end. -/
theorem Sound.advance {c : Cursor} (h : c.Sound) {s : Segment}
    (hs : c.segments[c.segment]? = some s) : (c.advance s.size).Sound := by
  obtain ⟨hlt, -⟩ := List.getElem?_eq_some_iff.mp hs
  unfold Cursor.advance
  split
  · rename_i hinside
    refine ⟨h.filled, h.segment_le, fun found hfound => ?_, fun hnone => ?_⟩
    · cases hs.symm.trans hfound
      exact hinside
    · cases hs.symm.trans hnone
  · exact ⟨h.filled, hlt,
      fun found hfound => Nat.pos_of_ne_zero (h.filled found (List.mem_of_getElem? hfound)),
      fun _ => rfl⟩

/-- A text may be cut into more pieces behind the place of a cursor. -/
theorem Sound.cut {c : Cursor} (h : c.Sound) {s longer : Segment}
    (hs : c.segments[c.segment]? = some s) (hsize : s.size ≤ longer.size) :
    Sound { c with segments := c.segments.set c.segment longer } := by
  obtain ⟨hlt, -⟩ := List.getElem?_eq_some_iff.mp hs
  have hself : (c.segments.set c.segment longer)[c.segment]? = some longer :=
    List.getElem?_set_self hlt
  have hinside := h.inside s hs
  refine ⟨fun found hfound => ?_, ?_, fun found hfound => ?_, fun hnone => ?_⟩
  · rcases List.mem_or_eq_of_mem_set hfound with hmem | rfl
    · exact h.filled found hmem
    · omega
  · rw [List.length_set]
    exact h.segment_le
  · cases hself.symm.trans hfound
    exact Nat.lt_of_lt_of_le hinside hsize
  · cases hself.symm.trans hnone

/-- Putting at least one part in the place of a piece leaves no fewer pieces. -/
theorem length_le_putParts {pieces : List String} {index : Nat} (h : index < pieces.length)
    {parts : List String} (hparts : parts ≠ []) :
    pieces.length ≤ (putParts pieces index parts).length := by
  have hpos := List.length_pos_iff.mpr hparts
  simp only [putParts, List.length_append, List.length_take, List.length_drop]
  omega

/-- What is read leads to a piece of a segment or to the end, whatever separators the texts were
split on. -/
theorem Sound.afterFetch {separator : String} {c next : Cursor} {token : Token} (h : c.Sound)
    (hfetch : c.fetch separator = some (token, next)) : next.Sound := by
  rcases fetch_eq_some hfetch with ⟨u, hs, -, rfl⟩ |
      ⟨pieces, own, piece, hs, hpiece, -, parts, hparts, rfl⟩
  · exact h.advance hs
  · obtain ⟨hlt, -⟩ := List.getElem?_eq_some_iff.mp hpiece
    obtain ⟨hsegment, -⟩ := List.getElem?_eq_some_iff.mp hs
    have hne : parts ≠ [] := by simp [hparts, cutParts]
    have hcut := @Sound.cut c h _ (.text (putParts pieces c.piece parts) own) hs
      (length_le_putParts hlt hne)
    exact hcut.advance (List.getElem?_set_self hsegment)

/-- Every request leads to a piece of a segment or to the end. -/
theorem Sound.serve {c : Cursor} (h : c.Sound) (request : CursorRequest) :
    (c.serve request).2.Sound := by
  cases request with
  | fetch separator =>
    cases hfetch : c.fetch separator with
    | none => simpa only [Cursor.serve, hfetch] using h
    | some read => simpa only [Cursor.serve, hfetch] using h.afterFetch hfetch
  | peek separator => exact h
  | pushBack token => exact h.pushBack token
  | remaining separator => exact h
  | drain => exact h.atEnd

/-- Several requests lead to a piece of a segment or to the end, and none goes out of range. -/
theorem Sound.serveAll {c : Cursor} (h : c.Sound) (requests : List CursorRequest) :
    (c.serveAll requests).2.Sound ∧ c.serveAllChecked requests = .ok (c.serveAll requests) := by
  induction requests generalizing c with
  | nil => exact ⟨h, rfl⟩
  | cons request others ih =>
    obtain ⟨hlast, hothers⟩ := ih (h.serve request)
    refine ⟨hlast, ?_⟩
    rw [serveAllChecked, serveChecked_eq h, ok_bind]
    dsimp only
    rw [hothers, ok_bind]
    rfl

/-- The cursors that can be made: the one over no input, those over any segments, and those over
any input that has a token. -/
inductive Built : Cursor → Prop
  /-- The cursor over no input. -/
  | empty : Built empty
  /-- A cursor over segments, which may have been split on any separators. -/
  | segments (segments : List Segment) : Built (ofSegments segments)
  /-- The cursor over an input. -/
  | input {input : Input} {separator : String} {excluded : List String} {refuse : Bool}
      {c : Cursor} (h : tokenize input separator excluded refuse = .ok c) : Built c

/-- A cursor over segments begins at the first piece of the first one that is not empty. -/
theorem sound_ofSegments (segments : List Segment) : (ofSegments segments).Sound := by
  have hfilled : ∀ s ∈ (ofSegments segments).segments, s.size ≠ 0 := fun s hs => by
    simpa using (List.mem_filter.mp hs).2
  exact ⟨hfilled, Nat.zero_le _,
    fun s hs => Nat.pos_of_ne_zero (hfilled s (List.mem_of_getElem? hs)), fun _ => rfl⟩

/-- However a cursor is made, it begins at a piece of a segment or at the end. -/
theorem Built.sound {c : Cursor} (h : c.Built) : c.Sound := by
  cases h with
  | empty => exact sound_ofSegments []
  | segments segments => exact sound_ofSegments segments
  | input h => exact (tokenize_tokens h).sound

/-- However a cursor was made and whatever is asked of it, with any separators and over any tokens
that are stepped back over, no segment is empty, it stands at a piece of a segment or at the end,
and no index or slice goes out of range. -/
theorem built_in_range {start : Cursor} (h : start.Built) (requests : List CursorRequest) :
    let last := (start.serveAll requests).2
    (∀ s ∈ last.segments, s.size ≠ 0) ∧
      last.segment ≤ last.segments.length ∧
      (∀ s, last.segments[last.segment]? = some s → last.piece < s.size) ∧
      (last.segments[last.segment]? = none → last.piece = 0) ∧
      start.serveAllChecked requests = .ok (start.serveAll requests) := by
  intro last
  obtain ⟨hlast, hchecked⟩ := h.sound.serveAll requests
  exact ⟨hlast.filled, hlast.segment_le, hlast.inside, hlast.outside, hchecked⟩

/-- Two texts, split on different separators and the first without a piece, and a unit. Tokens are
stepped back over before any was read and more often than they were read. -/
theorem built_in_range_misused :
    let start := ofSegments [.text [] ",", .text ["a=b", "c"] " ", .unit ⟨"image", .null⟩]
    let requests : List CursorRequest := [.pushBack (.text "x"),
      .pushBack (.unit ⟨"image", .null⟩), .fetch "=", .peek "=", .pushBack (.text "x"),
      .pushBack (.text "x"), .remaining "=", .drain, .pushBack (.text "x"), .pushBack (.text "x")]
    let last := (start.serveAll requests).2
    start.Built ∧
      (∀ s ∈ last.segments, s.size ≠ 0) ∧
      last.segment ≤ last.segments.length ∧
      (∀ s, last.segments[last.segment]? = some s → last.piece < s.size) ∧
      (last.segments[last.segment]? = none → last.piece = 0) ∧
      start.serveAllChecked requests = .ok (start.serveAll requests) ∧
      (last.segment, last.piece) = (0, 2) := by
  intro start requests last
  have hbuilt : start.Built := .segments _
  obtain ⟨hfilled, hsegment, hinside, houtside, hchecked⟩ := built_in_range hbuilt requests
  exact ⟨hbuilt, hfilled, hsegment, hinside, houtside, hchecked, by rfl⟩

end Cursor

end CommandGrammar
