import CommandGrammar.Numeral.Sum
import CommandGrammar.Text.Blank
import CommandGrammar.Text.Split
import CommandGrammar.Token

/-!
# A cursor over tokenized input

Input is cut into segments: the pieces of one text, or one unit. The cursor stands at a piece
of a segment, or past the last one. A token read with a separator other than the one its
text was split on is cut once more: the first part is returned and the rest stays in place as
the next piece. Tokens are handed back by stepping to the piece before.

`ahead` is the view that every other notion is stated on: the segments not yet consumed, the
first one without its consumed pieces. `fetch_unconsumed` says that each token read lowers
the amount of unconsumed input, counted as the characters of its pieces plus one for each
piece and each unit.
-/

namespace CommandGrammar

/-- Why a text could not be turned into tokens. -/
inductive TokenizeError where
  /-- There is no token at all. -/
  | emptyInput
  /-- A unit of an excluded kind was met. -/
  | excludedUnit (kind : String)
  deriving DecidableEq, Repr

/-- A stretch of the input. -/
inductive Segment where
  /-- The pieces of one text and the separator it was split on. -/
  | text (pieces : List String) (separator : String)
  /-- One opaque unit. -/
  | unit (u : OpaqueUnit)
  deriving Inhabited

namespace Segment

/-- How many tokens the segment holds as it stands. -/
def size : Segment → Nat
  | text pieces _ => pieces.length
  | unit _ => 1

/-- The segment without its first pieces. -/
def dropPieces (count : Nat) : Segment → Segment
  | text pieces separator => text (pieces.drop count) separator
  | unit u => unit u

/-- The segment as one token: its pieces glued by the first character of the separator. -/
def rejoin : Segment → Token
  | text pieces separator =>
    .text ((String.ofList (separator.toList.take 1)).intercalate pieces)
  | unit u => .unit u

/-- How many tokens the segment yields when it is read with a separator. -/
def countWith (separator : String) : Segment → Nat
  | text pieces own =>
    sumOf (pieces.map fun piece =>
      if own = separator then 1 else max 1 (split piece separator).length)
  | unit _ => 1

/-- The characters of the segment, plus one for each piece; one for a unit. -/
def weight : Segment → Nat
  | text pieces _ => sumOf (pieces.map fun piece => piece.length + 1)
  | unit _ => 1

end Segment

/-- A position in tokenized input. -/
structure Cursor where
  /-- The input, none of its segments empty. -/
  segments : List Segment
  /-- The segment that is read next. -/
  segment : Nat
  /-- The piece of that segment that is read next. -/
  piece : Nat
  deriving Inhabited

/-- Cut a piece that was split on another separator: its first part and the rest, unless it
has no separator character or nothing in front of one. -/
def recut? (piece separator : String) : Option (String × String) :=
  if piece.toList.any separator.toList.contains then
    let (head, rest) := splitOnce piece separator
    if head = "" then none else some (head, rest)
  else none

namespace Cursor

/-- The cursor over no input. -/
def empty : Cursor := ⟨[], 0, 0⟩

/-- The cursor at the start of the segments that are not empty. -/
def ofSegments (segments : List Segment) : Cursor :=
  ⟨segments.filter fun s => s.size != 0, 0, 0⟩

/-- The segment of a text, unless it has no piece. Blank characters at its front are left
out before it is split. -/
def textSegment? (text separator : String) : Option Segment :=
  match split (trimFront text) separator with
  | [] => none
  | pieces => some (.text pieces separator)

/-- The segments of a chain. Units of excluded kinds are refused when `refuse` holds and left
out otherwise. -/
def chainSegments (separator : String) (excluded : List String) (refuse : Bool) :
    List Token → Except TokenizeError (List Segment)
  | [] => .ok []
  | .text text :: rest => do
    let others ← chainSegments separator excluded refuse rest
    .ok ((textSegment? text separator).toList ++ others)
  | .unit u :: rest =>
    if excluded.contains u.kind then
      if refuse then .error (.excludedUnit u.kind)
      else chainSegments separator excluded refuse rest
    else do
      let others ← chainSegments separator excluded refuse rest
      .ok (.unit u :: others)

/-- The segments of an input. -/
def inputSegments (separator : String) (excluded : List String) (refuse : Bool) :
    Input → Except TokenizeError (List Segment)
  | .text text => .ok (textSegment? text separator).toList
  | .chain tokens => chainSegments separator excluded refuse tokens

/-- The cursor at the start of an input. Input without any token is refused. -/
def tokenize (input : Input) (separator : String) (excluded : List String) (refuse : Bool) :
    Except TokenizeError Cursor :=
  match inputSegments separator excluded refuse input with
  | .error error => .error error
  | .ok segments => if segments.isEmpty then .error .emptyInput else .ok (ofSegments segments)

/-- Whether everything was consumed. -/
def isExhausted (c : Cursor) : Bool := decide (c.segments.length ≤ c.segment)

/-- The segments not yet consumed, the first one without its consumed pieces. -/
def ahead (c : Cursor) : List Segment :=
  match c.segments.drop c.segment with
  | [] => []
  | first :: rest => first.dropPieces c.piece :: rest

/-- Step over one piece of a segment of the given size. -/
def advance (c : Cursor) (size : Nat) : Cursor :=
  if c.piece + 1 < size then { c with piece := c.piece + 1 }
  else { c with segment := c.segment + 1, piece := 0 }

/-- The next text as a separator sees it: its piece, cut once more if the separator is not
the segment's own. The rest of a cut piece is the second part. -/
def readPiece (piece own separator : String) : String × String :=
  if own = separator then (piece, "")
  else (recut? piece separator).getD (piece, "")

/-- The parts of a piece that was cut. An empty rest is no part. -/
def cutParts (cut : String × String) : List String :=
  cut.1 :: if cut.2 = "" then [] else [cut.2]

/-- Pieces with one of them replaced by the parts it was cut into. -/
def putParts (pieces : List String) (place : Nat) (parts : List String) : List String :=
  pieces.take place ++ parts ++ pieces.drop (place + 1)

/-- Read the next token with a separator and step over it. -/
def fetch (c : Cursor) (separator : String) : Option (Token × Cursor) :=
  match c.segments[c.segment]? with
  | none => none
  | some (.unit u) => some (.unit u, c.advance 1)
  | some (.text pieces own) =>
    match pieces[c.piece]? with
    | none => none
    | some piece =>
      let cut := readPiece piece own separator
      let pieces := putParts pieces c.piece (cutParts cut)
      let segments := c.segments.set c.segment (.text pieces own)
      some (.text cut.1, { c with segments := segments }.advance pieces.length)

/-- The next token with a separator; the cursor stays where it is. -/
def peek (c : Cursor) (separator : String) : Option Token :=
  match c.segments[c.segment]? with
  | none => none
  | some (.unit u) => some (.unit u)
  | some (.text pieces own) =>
    pieces[c.piece]?.map fun piece => .text (readPiece piece own separator).1

/-- Step back over a token. A text steps to the piece before, or to the last piece of the
segment before; a unit steps to the segment before. -/
def pushBack (c : Cursor) : Token → Cursor
  | .text _ =>
    if c.piece = 0 then
      let segment := c.segment - 1
      let size := (c.segments[segment]?.map Segment.size).getD 0
      { c with segment := segment, piece := size - 1 }
    else { c with piece := c.piece - 1 }
  | .unit _ => { c with segment := c.segment - 1, piece := 0 }

/-- Step back over tokens in the order they were read, the last one first. -/
def pushBackAll (c : Cursor) (tokens : List Token) : Cursor :=
  tokens.foldr (fun token c => c.pushBack token) c

/-- How many tokens are left for a separator. -/
def remaining (c : Cursor) (separator : String) : Nat :=
  sumOf (c.ahead.map (Segment.countWith separator))

/-- Everything not yet consumed, each text glued back together. -/
def rest (c : Cursor) : List Token := c.ahead.map Segment.rejoin

/-- The cursor past the last token. -/
def atEnd (c : Cursor) : Cursor := { c with segment := c.segments.length, piece := 0 }

/-- The amount of input not yet consumed. -/
def unconsumed (c : Cursor) : Nat := sumOf (c.ahead.map Segment.weight)

end Cursor

/-- A piece that is cut weighs no less than its parts. -/
theorem readPiece_weight (piece own separator : String) :
    sumOf ((Cursor.cutParts (Cursor.readPiece piece own separator)).map fun part =>
      part.length + 1) ≤ piece.length + 1 := by
  unfold Cursor.readPiece
  split
  · simp [Cursor.cutParts]
  · unfold recut?
    have := splitOnce_length piece separator
    split
    · by_cases hhead : (splitOnce piece separator).1 = ""
      · simp [hhead, Cursor.cutParts]
      · simp only [hhead, if_false, Option.getD_some, Cursor.cutParts]
        split
        · simp_all
        · simp_all
          omega
    · simp [Cursor.cutParts]

/-- What is left of a list from the place of an item begins with the item. -/
theorem drop_eq_cons {α : Type} {xs : List α} {place : Nat} {x : α} (h : xs[place]? = some x) :
    xs.drop place = x :: xs.drop (place + 1) := by
  obtain ⟨hlt, hget⟩ := List.getElem?_eq_some_iff.mp h
  rw [List.drop_eq_getElem_cons hlt, hget]

/-- A list is what stands in front of an item, the item, and what follows it. -/
theorem eq_take_cons_drop {α : Type} {xs : List α} {place : Nat} {x : α}
    (h : xs[place]? = some x) : xs = xs.take place ++ x :: xs.drop (place + 1) := by
  rw [← drop_eq_cons h, List.take_append_drop]

/-- Dropping no piece changes nothing. -/
theorem Segment.dropPieces_zero (s : Segment) : s.dropPieces 0 = s := by
  cases s <;> rfl

namespace Cursor

/-- At the start of a segment everything from it on is ahead. -/
theorem ahead_eq_drop (segments : List Segment) (segment : Nat) :
    ahead ⟨segments, segment, 0⟩ = segments.drop segment := by
  unfold ahead
  split <;> simp_all [Segment.dropPieces_zero]

/-- Stepping back over no token. -/
@[simp] theorem pushBackAll_nil (c : Cursor) : c.pushBackAll [] = c := rfl

/-- Stepping back over tokens ends with the first of them. -/
@[simp] theorem pushBackAll_cons (c : Cursor) (token : Token) (tokens : List Token) :
    c.pushBackAll (token :: tokens) = (c.pushBackAll tokens).pushBack token := rfl

/-- What is ahead inside a text segment. -/
theorem ahead_of_text {c : Cursor} {pieces : List String} {own : String}
    (h : c.segments[c.segment]? = some (.text pieces own)) :
    c.ahead = .text (pieces.drop c.piece) own :: c.segments.drop (c.segment + 1) := by
  rw [ahead, drop_eq_cons h]
  rfl

/-- What is ahead at a unit. -/
theorem ahead_of_unit {c : Cursor} {u : OpaqueUnit}
    (h : c.segments[c.segment]? = some (.unit u)) :
    c.ahead = .unit u :: c.segments.drop (c.segment + 1) := by
  rw [ahead, drop_eq_cons h]
  rfl

/-- The amount ahead inside a text segment is that of the pieces left there and of the
segments after it. -/
theorem unconsumed_of_text {c : Cursor} {pieces : List String} {own : String}
    (h : c.segments[c.segment]? = some (.text pieces own)) :
    c.unconsumed = sumOf ((pieces.drop c.piece).map fun piece => piece.length + 1) +
      sumOf ((c.segments.drop (c.segment + 1)).map Segment.weight) := by
  simp [unconsumed, ahead_of_text h, Segment.weight]

/-- Stepping over a piece of a text segment leaves the pieces after it. -/
theorem unconsumed_advance {c : Cursor} {pieces : List String} {own : String}
    (h : c.segments[c.segment]? = some (.text pieces own)) :
    (c.advance pieces.length).unconsumed =
      sumOf ((pieces.drop (c.piece + 1)).map fun piece => piece.length + 1) +
      sumOf ((c.segments.drop (c.segment + 1)).map Segment.weight) := by
  unfold advance
  split
  · exact unconsumed_of_text h
  · rw [List.drop_eq_nil_of_le (by omega : pieces.length ≤ c.piece + 1)]
    simp [unconsumed, ahead_eq_drop]

/-- A token that was read is the unit or the first part of the piece the cursor stands at. A
text segment keeps all parts of that piece. -/
theorem fetch_eq_some {c next : Cursor} {separator : String} {token : Token}
    (h : c.fetch separator = some (token, next)) :
    (∃ u, c.segments[c.segment]? = some (.unit u) ∧ token = .unit u ∧ next = c.advance 1) ∨
    (∃ pieces own piece, c.segments[c.segment]? = some (.text pieces own) ∧
      pieces[c.piece]? = some piece ∧ token = .text (readPiece piece own separator).1 ∧
      ∃ parts, parts = cutParts (readPiece piece own separator) ∧
        next = Cursor.advance ⟨c.segments.set c.segment (.text (putParts pieces c.piece parts) own),
          c.segment, c.piece⟩ (putParts pieces c.piece parts).length) := by
  unfold fetch at h
  split at h
  · contradiction
  · rename_i u hsegment
    cases h
    exact .inl ⟨u, hsegment, rfl, rfl⟩
  · rename_i pieces own hsegment
    split at h
    · contradiction
    · rename_i piece hpiece
      cases h
      exact .inr ⟨pieces, own, piece, hsegment, hpiece, rfl, _, rfl, rfl⟩

/-- Past the place of a cut come its further parts and the pieces after it. -/
theorem drop_putParts {pieces : List String} {place : Nat} (h : place ≤ pieces.length)
    (first : String) (others : List String) :
    (putParts pieces place (first :: others)).drop (place + 1) =
      others ++ pieces.drop (place + 1) := by
  unfold putParts
  rw [List.append_assoc, List.drop_append, List.drop_eq_nil_of_le (by rw [List.length_take]; omega)]
  simp [Nat.min_eq_left h]

/-- Each token read lowers the amount of unconsumed input. -/
theorem fetch_unconsumed {c next : Cursor} {separator : String} {token : Token}
    (h : c.fetch separator = some (token, next)) : next.unconsumed < c.unconsumed := by
  rcases fetch_eq_some h with ⟨u, hsegment, -, rfl⟩ | ⟨pieces, own, piece, hsegment, hpiece, -, h⟩
  · simp [advance, unconsumed, ahead_eq_drop, ahead_of_unit hsegment, Segment.weight]
  · obtain ⟨parts, hparts, rfl⟩ := h
    obtain ⟨hlt, -⟩ := List.getElem?_eq_some_iff.mp hsegment
    obtain ⟨hp, -⟩ := List.getElem?_eq_some_iff.mp hpiece
    have hweight := readPiece_weight piece own separator
    rw [← hparts] at hweight
    rw [@unconsumed_advance _ _ own (by simp [hlt]), unconsumed_of_text hsegment,
      drop_eq_cons hpiece, hparts, cutParts, drop_putParts (Nat.le_of_lt hp),
      List.drop_set_of_lt (Nat.lt_add_one _)]
    rw [hparts, cutParts] at hweight
    simp only [List.map_append, sumOf_append, List.map_cons, sumOf_cons] at hweight ⊢
    omega

/-- Read all tokens that are left with a separator, and step over them. -/
def fetchAll (separator : String) (c : Cursor) : List Token × Cursor :=
  match _h : c.fetch separator with
  | none => ([], c)
  | some (token, next) =>
    let (tokens, last) := fetchAll separator next
    (token :: tokens, last)
termination_by c.unconsumed
decreasing_by exact fetch_unconsumed _h

/-- At the end there is nothing left to read. -/
theorem fetchAll_of_none {c : Cursor} {separator : String} (h : c.fetch separator = none) :
    fetchAll separator c = ([], c) := by
  rw [fetchAll]
  split
  · rfl
  · rename_i hsome
    cases h.symm.trans hsome

/-- What is left begins with the next token. -/
theorem fetchAll_of_some {c next : Cursor} {separator : String} {token : Token}
    (h : c.fetch separator = some (token, next)) :
    fetchAll separator c =
      (token :: (fetchAll separator next).1, (fetchAll separator next).2) := by
  rw [fetchAll]
  split
  · rename_i hnone
    cases h.symm.trans hnone
  · rename_i hsome
    cases h.symm.trans hsome
    rfl

end Cursor

end CommandGrammar
