import CommandGrammar.Proofs.CursorStates

/-!
# A cursor as a list of tokens with an index

Read with the separator of its texts alone, a cursor is a list of tokens that never changes and an
index into it. What is asked of the cursor is listed as calls: `undo` steps back over the token
that was read last and was not stepped back over yet, and `drain` consumes all that is left.

`session_follows_tokens` compares the answers to any number of calls, and the places they lead to.
Stepping back moves the index by one, except over a unit once all was consumed by `drain`: the
place it leads to is then the beginning of the segment before. `undo_after_drain` is an input where
that is not the token before.
-/

namespace CommandGrammar

open Cursor (Shows)

/-- What is asked of a cursor. -/
inductive CursorCall where
  /-- Read the next token. -/
  | fetch
  /-- Step back over the token that was read last and not stepped back over yet. -/
  | undo
  /-- Look at the next token. -/
  | peek
  /-- Count the tokens left. -/
  | remaining
  /-- Ask whether all tokens were consumed. -/
  | isExhausted
  /-- Consume all that is left. -/
  | drain

/-- What a call is answered. -/
inductive CursorAnswer where
  /-- A token, or none at the end. -/
  | token (token : Option Token)
  /-- A number of tokens. -/
  | count (n : Nat)
  /-- Yes or no. -/
  | flag (b : Bool)
  /-- The call only moves. -/
  | done

/-- A cursor with the tokens that were read from it and not stepped back over, the latest first. -/
structure Session where
  /-- The cursor. -/
  cursor : Cursor
  /-- The tokens that can be stepped back over. -/
  read : List Token

namespace Session

/-- The session at the start of a cursor. -/
def start (c : Cursor) : Session := ⟨c, []⟩

variable (separator : String)

/-- What a cursor answers to a call. -/
def answer (s : Session) : CursorCall → CursorAnswer
  | .fetch => .token ((s.cursor.fetch separator).map Prod.fst)
  | .peek => .token (s.cursor.peek separator)
  | .remaining => .count (s.cursor.remaining separator)
  | .isExhausted => .flag s.cursor.isExhausted
  | .undo | .drain => .done

/-- Where a call leads. Without a token to step back over `undo` does nothing. -/
def step (s : Session) : CursorCall → Session
  | .fetch =>
    match s.cursor.fetch separator with
    | none => s
    | some (token, next) => ⟨next, token :: s.read⟩
  | .undo =>
    match s.read with
    | [] => s
    | token :: older => ⟨s.cursor.pushBack token, older⟩
  | .drain => { s with cursor := s.cursor.atEnd }
  | .peek | .remaining | .isExhausted => s

/-- Where several calls lead. -/
def after (s : Session) (calls : List CursorCall) : Session := calls.foldl (step separator) s

/-- The answers to several calls. -/
def answers : Session → List CursorCall → List CursorAnswer
  | _, [] => []
  | s, call :: rest => s.answer separator call :: answers (s.step separator call) rest

end Session

/-- Tokens with an index, and the tokens that were read from there and not stepped back over, the
latest first. -/
structure IndexedTokens where
  /-- The tokens, those of one segment together. -/
  blocks : List (List Token)
  /-- How many tokens are in front of the place. -/
  index : Nat
  /-- The tokens that can be stepped back over. -/
  read : List Token
  /-- Whether all that was left was consumed at some time. -/
  drained : Bool

namespace IndexedTokens

/-- The tokens, with the index in front of the first of them. -/
def start (blocks : List (List Token)) : IndexedTokens := ⟨blocks, 0, [], false⟩

/-- All tokens in order. -/
def tokens (l : IndexedTokens) : List Token := l.blocks.flatten

/-- What the tokens answer to a call. -/
def answer (l : IndexedTokens) : CursorCall → CursorAnswer
  | .fetch | .peek => .token l.tokens[l.index]?
  | .remaining => .count (l.tokens.length - l.index)
  | .isExhausted => .flag (decide (l.index = l.tokens.length))
  | .undo | .drain => .done

/-- How many blocks end in front of an index. -/
def blocksBehind : List (List Token) → Nat → Nat
  | [], _ => 0
  | block :: rest, index =>
    if block.length ≤ index then blocksBehind rest (index - block.length) + 1 else 0

/-- The index of the first token of the block before the one that an index is in. -/
def blockBefore (blocks : List (List Token)) (index : Nat) : Nat :=
  (blocks.take (blocksBehind blocks index - 1)).flatten.length

/-- Stepping back to the token before. -/
def oneBack (l : IndexedTokens) (_ : Token) : Nat := l.index - 1

/-- Stepping back to the token before, or over a unit to the beginning of the block before once all
that was left was consumed. -/
def backOver (l : IndexedTokens) : Token → Nat
  | .text _ => l.index - 1
  | .unit _ => if l.drained then blockBefore l.blocks l.index else l.index - 1

variable (back : IndexedTokens → Token → Nat)

/-- Where a call leads, with the index that stepping back over a token leads to. -/
def step (l : IndexedTokens) : CursorCall → IndexedTokens
  | .fetch =>
    match l.tokens[l.index]? with
    | none => l
    | some token => { l with index := l.index + 1, read := token :: l.read }
  | .undo =>
    match l.read with
    | [] => l
    | token :: older => { l with index := back l token, read := older }
  | .drain => { l with index := l.tokens.length, drained := true }
  | .peek | .remaining | .isExhausted => l

/-- Where several calls lead. -/
def after (l : IndexedTokens) (calls : List CursorCall) : IndexedTokens :=
  calls.foldl (step back) l

/-- The answers to several calls. -/
def answers : IndexedTokens → List CursorCall → List CursorAnswer
  | _, [] => []
  | l, call :: rest => l.answer call :: answers (l.step back call) rest

end IndexedTokens

open IndexedTokens (blocksBehind blockBefore backOver oneBack)

/-- The blocks that end in front of the place of a cursor are the segments before its own. -/
theorem blocksBehind_startOf {segments : List Segment} {segment piece : Nat}
    (hle : segment ≤ segments.length)
    (hinside : ∀ s, segments[segment]? = some s → piece < s.size) :
    blocksBehind (segments.map Segment.tokens) (Cursor.startOf segments segment + piece) =
      segment := by
  induction segments generalizing segment with
  | nil => exact (Nat.le_zero.mp hle).symm
  | cons s rest ih =>
    cases segment with
    | zero =>
      have hlt : piece < s.size := hinside s rfl
      have hstart : Cursor.startOf (s :: rest) 0 = 0 := rfl
      rw [hstart, Nat.zero_add, List.map_cons, blocksBehind, Segment.length_tokens,
        if_neg (Nat.not_le.mpr hlt)]
    | succ segment =>
      rw [Cursor.startOf_cons, Nat.add_assoc, List.map_cons, blocksBehind, Segment.length_tokens,
        if_pos (Nat.le_add_right _ _), Nat.add_sub_cancel_left,
        ih (Nat.le_of_succ_le_succ hle) hinside]

/-- The block before the one of a cursor begins where the segment before its own does. -/
theorem blockBefore_offset {c : Cursor} (h : c.Sound) :
    blockBefore (c.segments.map Segment.tokens) c.offset =
      Cursor.startOf c.segments (c.segment - 1) := by
  rw [blockBefore, Cursor.offset_eq, blocksBehind_startOf h.segment_le h.inside, ← List.map_take,
    Cursor.startOf, List.flatMap_def]

/-- Whether tokens stand in a list in front of an index, the first of them last. -/
def StandBefore (tokens : List Token) : List Token → Nat → Prop
  | [], _ => True
  | token :: older, index =>
    ∃ place < index, tokens[place]? = some token ∧ StandBefore tokens older place

/-- What stands in front of an index stands in front of later ones. -/
theorem StandBefore.mono {tokens read : List Token} {index later : Nat}
    (h : StandBefore tokens read index) (hle : index ≤ later) : StandBefore tokens read later := by
  cases read with
  | nil => trivial
  | cons token older =>
    obtain ⟨place, hplace, hrest⟩ := h
    exact ⟨place, Nat.lt_of_lt_of_le hplace hle, hrest⟩

/-- Whether a session over some segments stands where an index into their tokens does. -/
structure Follows (separator : String) (stored : List Segment) (s : Session)
    (l : IndexedTokens) : Prop where
  /-- The cursor is sound. -/
  sound : s.cursor.Sound
  /-- The segments are as they were. -/
  segments : s.cursor.segments = stored
  /-- All texts were split on the separator. -/
  owned : s.cursor.OwnedBy separator
  /-- The tokens are those of the segments. -/
  blocks : l.blocks = stored.map Segment.tokens
  /-- The places are the same. -/
  index : s.cursor.offset = l.index
  /-- The same tokens can be stepped back over. -/
  read : s.read = l.read
  /-- These tokens stand in front of the place. -/
  before : StandBefore l.tokens l.read l.index
  /-- They are all the tokens there as long as nothing was consumed but by reading. -/
  whole : l.drained = false → l.read.reverse = l.tokens.take l.index

namespace Follows

variable {separator : String} {stored : List Segment} {s : Session} {l : IndexedTokens}

/-- The tokens are those that the segments store. -/
theorem tokens_eq (h : Follows separator stored s l) :
    l.tokens = s.cursor.segments.flatMap Segment.tokens := by
  rw [IndexedTokens.tokens, h.blocks, h.segments, List.flatMap_def]

/-- The cursor shows the tokens with a mark at the index. -/
theorem shows (h : Follows separator stored s l) :
    Shows separator s.cursor (l.tokens.take l.index).reverse (l.tokens.drop l.index) := by
  obtain ⟨past, hshows⟩ := h.sound.shows h.owned
  have hindex : l.index = past.reverse.length := by
    rw [← h.index, hshows.offset, List.length_reverse]
  rw [h.tokens_eq, hshows.tokens, hindex, List.take_left, List.drop_left, List.reverse_reverse]
  exact hshows

/-- The index is not behind the last token. -/
theorem index_le (h : Follows separator stored s l) : l.index ≤ l.tokens.length := by
  have hoffset := h.shows.offset
  rw [h.index, List.length_reverse, List.length_take] at hoffset
  omega

/-- The answers are the same. -/
theorem answer_eq (h : Follows separator stored s l) (call : CursorCall) :
    s.answer separator call = l.answer call := by
  have hshows := h.shows
  have hnext : (l.tokens.drop l.index).head? = l.tokens[l.index]? := List.head?_drop ..
  cases call with
  | fetch =>
    rw [Session.answer, IndexedTokens.answer, ← hnext]
    cases hleft : l.tokens.drop l.index with
    | nil =>
      rw [hleft] at hshows
      rw [hshows.fetch_nil separator]
      rfl
    | cons token rest =>
      rw [hleft] at hshows
      obtain ⟨next, hfetch, -⟩ := hshows.fetch_self
      rw [hfetch]
      rfl
  | peek =>
    rw [Session.answer, IndexedTokens.answer, ← hnext, hshows.peek separator]
    simp
  | remaining =>
    rw [Session.answer, IndexedTokens.answer, hshows.remaining_self, List.length_drop]
  | isExhausted =>
    have hle := h.index_le
    have hiff : (l.tokens.drop l.index).isEmpty = true ↔ l.index = l.tokens.length := by
      rw [List.isEmpty_iff, List.drop_eq_nil_iff]
      omega
    have hflag : (l.tokens.drop l.index).isEmpty = decide (l.index = l.tokens.length) := by
      rw [Bool.eq_iff_iff, hiff, decide_eq_true_iff]
    rw [Session.answer, IndexedTokens.answer, hshows.isExhausted, hflag]
  | undo => rfl
  | drain => rfl

/-- Reading a token leads to the same place. -/
theorem step_fetch (h : Follows separator stored s l) :
    Follows separator stored (s.step separator .fetch) (l.step backOver .fetch) := by
  have hshows := h.shows
  have hnext : (l.tokens.drop l.index).head? = l.tokens[l.index]? := List.head?_drop ..
  cases hleft : l.tokens.drop l.index with
  | nil =>
    rw [hleft] at hshows hnext
    have hnone : l.tokens[l.index]? = none := hnext.symm
    have hsession : s.step separator .fetch = s := by
      simp only [Session.step, hshows.fetch_nil separator]
    have htokens : l.step backOver .fetch = l := by simp only [IndexedTokens.step, hnone]
    rwa [hsession, htokens]
  | cons token rest =>
    rw [hleft] at hshows hnext
    have htoken : l.tokens[l.index]? = some token := hnext.symm
    obtain ⟨next, hfetch, hread, hsegments⟩ := hshows.fetch_self
    have hsession : s.step separator .fetch = ⟨next, token :: s.read⟩ := by
      simp only [Session.step, hfetch]
    have htokens : l.step backOver .fetch =
        { l with index := l.index + 1, read := token :: l.read } := by
      simp only [IndexedTokens.step, htoken]
    rw [hsession, htokens]
    refine ⟨hread.sound, hsegments.trans h.segments, hread.owned, h.blocks, ?_, ?_, ?_, ?_⟩
    · have hoffset := hread.offset
      rw [List.length_cons, ← hshows.offset, h.index] at hoffset
      exact hoffset
    · exact congrArg (token :: ·) h.read
    · exact ⟨l.index, Nat.lt_succ_self _, htoken, h.before⟩
    · intro hdrained
      have hwhole := h.whole hdrained
      dsimp only [IndexedTokens.tokens] at hwhole htoken ⊢
      rw [List.reverse_cons, hwhole, List.take_add_one, htoken, Option.toList_some]

/-- While nothing was consumed but by reading, the token read last is the one in front of the index,
and the others are those before it. -/
theorem pushBack_last (h : Follows separator stored s l) {token : Token} {older : List Token}
    (hread : l.read = token :: older) (hdrained : l.drained = false) :
    (s.cursor.pushBack token).offset = l.index - 1 ∧
      older.reverse = l.tokens.take (l.index - 1) := by
  have hwhole := h.whole hdrained
  rw [hread, List.reverse_cons] at hwhole
  have hshows := h.shows
  rw [← hwhole, List.reverse_append, List.reverse_cons, List.reverse_nil, List.nil_append,
    List.singleton_append, List.reverse_reverse] at hshows
  have hlength : older.reverse.length = l.index - 1 := by
    have hoffset := hshows.offset
    have hindex := h.index
    rw [List.length_cons] at hoffset
    rw [List.length_reverse]
    omega
  refine ⟨by rw [hshows.pushBack.offset, ← hlength, List.length_reverse], ?_⟩
  have hfirst := congrArg (List.take (l.index - 1)) hwhole
  rwa [List.take_left' hlength, List.take_take, Nat.min_eq_left (Nat.sub_le _ _)] at hfirst

/-- Stepping back leads to the same place, and to one that is not in front of the token that is
stepped back over. -/
theorem pushBack_index (h : Follows separator stored s l) {token : Token} {older : List Token}
    (hread : l.read = token :: older) {place : Nat} (hplace : place < l.index)
    (htoken : l.tokens[place]? = some token) :
    (s.cursor.pushBack token).offset = backOver l token ∧ place ≤ backOver l token := by
  have hindex := h.index
  cases token with
  | text text =>
    rw [h.sound.offset_pushBack_text (by omega), h.index]
    exact ⟨rfl, Nat.le_sub_one_of_lt hplace⟩
  | unit u =>
    unfold backOver
    cases hdrained : l.drained with
    | false => exact ⟨(h.pushBack_last hread hdrained).1, Nat.le_sub_one_of_lt hplace⟩
    | true =>
      have hbefore := blockBefore_offset h.sound
      rw [h.segments, ← h.blocks, h.index, ← h.segments] at hbefore
      rw [h.tokens_eq] at htoken
      rw [if_pos rfl, hbefore]
      refine ⟨?_, h.sound.unit_before htoken (h.index ▸ hplace)⟩
      simp [Cursor.offset_eq, Cursor.pushBack]

/-- Stepping back leads to the same place. -/
theorem step_undo (h : Follows separator stored s l) :
    Follows separator stored (s.step separator .undo) (l.step backOver .undo) := by
  cases hread : l.read with
  | nil =>
    have hsession : s.step separator .undo = s := by simp only [Session.step, h.read, hread]
    have htokens : l.step backOver .undo = l := by simp only [IndexedTokens.step, hread]
    rwa [hsession, htokens]
  | cons token older =>
    obtain ⟨place, hplace, htoken, holder⟩ : StandBefore l.tokens (token :: older) l.index :=
      hread ▸ h.before
    obtain ⟨hoffset, hback⟩ := h.pushBack_index hread hplace htoken
    have hsession : s.step separator .undo = ⟨s.cursor.pushBack token, older⟩ := by
      simp only [Session.step, h.read, hread]
    have htokens : l.step backOver .undo = { l with index := backOver l token, read := older } := by
      simp only [IndexedTokens.step, hread]
    rw [hsession, htokens]
    refine ⟨h.sound.pushBack token, ?_, fun s hs => h.owned s ?_, h.blocks, hoffset, rfl,
      holder.mono hback, fun hdrained => ?_⟩
    · rw [Cursor.pushBack_segments, h.segments]
    · rwa [Cursor.pushBack_segments] at hs
    · obtain ⟨hone, hrest⟩ := h.pushBack_last hread hdrained
      dsimp only
      rw [← hoffset, hone]
      exact hrest

/-- Consuming all that is left leads to the same place. -/
theorem step_drain (h : Follows separator stored s l) :
    Follows separator stored (s.step separator .drain) (l.step backOver .drain) := by
  refine ⟨h.sound.atEnd, h.segments, h.owned, h.blocks, ?_, h.read, ?_, fun h => by cases h⟩
  · rw [Session.step, Cursor.offset_atEnd, ← h.tokens_eq]
    rfl
  · exact h.before.mono h.index_le

/-- Every call leads to the same place. -/
theorem step (h : Follows separator stored s l) (call : CursorCall) :
    Follows separator stored (s.step separator call) (l.step backOver call) := by
  cases call with
  | fetch => exact h.step_fetch
  | undo => exact h.step_undo
  | drain => exact h.step_drain
  | peek => exact h
  | remaining => exact h
  | isExhausted => exact h

/-- Several calls are answered the same, and lead to the same place. -/
theorem after (h : Follows separator stored s l) (calls : List CursorCall) :
    s.answers separator calls = l.answers backOver calls ∧
      Follows separator stored (s.after separator calls) (l.after backOver calls) := by
  induction calls generalizing s l with
  | nil => exact ⟨rfl, h⟩
  | cons call rest ih =>
    obtain ⟨hanswers, hafter⟩ := ih (h.step call)
    refine ⟨?_, hafter⟩
    rw [Session.answers, IndexedTokens.answers, h.answer_eq, hanswers]

end Follows

/-- Whatever is asked of a cursor over tokenized input with the separator of the input, it answers
as the tokens of the input with an index do. The segments never change, and the cursor stands where
the index does. -/
theorem session_follows_tokens {input : Input} {separator : String} {excluded : List String}
    {refuse : Bool} {start : Cursor}
    (h : Cursor.tokenize input separator excluded refuse = .ok start) (calls : List CursorCall) :
    let list := IndexedTokens.start (start.segments.map Segment.tokens)
    let session := Session.start start
    list.tokens = input.tokens separator excluded ∧
      session.answers separator calls = list.answers backOver calls ∧
      (session.after separator calls).cursor.segments = start.segments ∧
      (session.after separator calls).cursor.offset = (list.after backOver calls).index := by
  intro list session
  have hshows := tokenize_tokens h
  have hstart : Follows separator start.segments session list :=
    ⟨hshows.sound, rfl, hshows.owned, rfl, hshows.offset, rfl, trivial, fun _ => rfl⟩
  obtain ⟨hanswers, hafter⟩ := hstart.after calls
  exact ⟨hstart.tokens_eq.trans hshows.tokens, hanswers, hafter.segments, hafter.index⟩

/-- A unit between two texts. -/
def imageBetween : Input := .chain [.text "a b", .unit ⟨"image", .null⟩, .text "c"]

/-- Stepping back from the text behind the unit to the second word of the text in front of it leaves
three tokens. -/
theorem session_follows_tokens_image :
    let start : Cursor := ⟨[.text ["a", "b"] " ", .unit ⟨"image", .null⟩, .text ["c"] " "], 0, 0⟩
    let list := IndexedTokens.start (start.segments.map Segment.tokens)
    let session := Session.start start
    let calls : List CursorCall := [.fetch, .fetch, .fetch, .fetch, .undo, .undo, .undo, .remaining]
    Cursor.tokenize imageBetween " " [] false = .ok start ∧
      list.tokens = imageBetween.tokens " " [] ∧
      session.answers " " calls = list.answers backOver calls ∧
      (session.after " " calls).cursor.segments = start.segments ∧
      (session.after " " calls).cursor.offset = (list.after backOver calls).index ∧
      (list.after backOver calls).index = 1 := by
  intro start list session calls
  have hstart : Cursor.tokenize imageBetween " " [] false = .ok start := by rfl
  obtain ⟨htokens, hanswers, hsegments, hindex⟩ := session_follows_tokens hstart calls
  exact ⟨hstart, htokens, hanswers, hsegments, hindex, by rfl⟩

/-- A unit in front of a text. -/
def imageFirst : Input := .chain [.unit ⟨"image", .null⟩, .text "a b"]

/-- Once all was consumed, stepping back over the unit that was read leads to the beginning of the
text behind it: the first word is read again, where one step back leads to the second. -/
theorem undo_after_drain :
    let start : Cursor := ⟨[.unit ⟨"image", .null⟩, .text ["a", "b"] " "], 0, 0⟩
    let list := IndexedTokens.start (start.segments.map Segment.tokens)
    let session := Session.start start
    let calls : List CursorCall := [.fetch, .drain, .undo, .fetch]
    Cursor.tokenize imageFirst " " [] false = .ok start ∧
      session.answers " " calls =
        [.token (some (.unit ⟨"image", .null⟩)), .done, .done, .token (some (.text "a"))] ∧
      list.answers oneBack calls =
        [.token (some (.unit ⟨"image", .null⟩)), .done, .done, .token (some (.text "b"))] ∧
      session.answers " " calls ≠ list.answers oneBack calls := by
  intro start list session calls
  have hsession : session.answers " " calls =
      [.token (some (.unit ⟨"image", .null⟩)), .done, .done, .token (some (.text "a"))] := by rfl
  have hlist : list.answers oneBack calls =
      [.token (some (.unit ⟨"image", .null⟩)), .done, .done, .token (some (.text "b"))] := by rfl
  refine ⟨by rfl, hsession, hlist, ?_⟩
  rw [hsession, hlist]
  simp

end CommandGrammar
