import CommandGrammar.Proofs.CursorWalks
import CommandGrammar.Proofs.IndexedTokens

/-!
# Round trips of a cursor

Tokens are read with any separators, each its own, and stepped back over in any order that fits: the
token read last is stepped back over first. Reading may cut a piece, so that more pieces are stored
than before, and a text is stepped back over by the number of pieces that its segment has then.

`Stacked` keeps the cursor at which each token was read that was not stepped back over yet. Stepping
back leads to the place of the one on top, however the pieces after it were cut meanwhile. So
`round_trip_returns` holds: once all tokens were stepped back over, the cursor stands where it
started, what it passed to get there is as it was, and no fewer tokens are left.
-/

namespace CommandGrammar

open Cursor (Shows Attained Returned)

/-! ### Places -/

/-- The first pieces of a segment. -/
def Segment.takePieces (count : Nat) : Segment → Segment
  | text pieces separator => text (pieces.take count) separator
  | unit u => unit u

/-- What a cursor passed: the segments in front of its own, and the pieces of its own in front of
the place. -/
def Cursor.passed (c : Cursor) : List Segment :=
  c.segments.take c.segment ++
    if c.piece = 0 then [] else (c.segments[c.segment]?.map (Segment.takePieces c.piece)).toList

/-- Whether a cursor stands where another does, having passed the same. -/
structure Cursor.SamePlace (c d : Cursor) : Prop where
  /-- The segments are the same. -/
  segment : d.segment = c.segment
  /-- The pieces are the same. -/
  piece : d.piece = c.piece
  /-- The same was passed. -/
  passed : d.passed = c.passed

/-- A cursor that was led on and back again passed the same, if the same tokens were read. -/
theorem Cursor.Returned.samePlace {own : String} {c d : Cursor} {past left rest : List Token}
    (h : Returned c d) (hc : Shows own c past left) (hd : Shows own d past rest) :
    c.SamePlace d := by
  refine ⟨h.segment, h.piece, ?_⟩
  have hkept : d.segments.take d.segment = c.segments.take c.segment := by
    rw [h.segment]
    exact h.reaches.kept
  by_cases hpiece : c.piece = 0
  · simp only [Cursor.passed, hkept, h.piece, hpiece, if_true]
  · -- Inside a text the tokens that were read end with the pieces passed there.
    rcases hc.cases with ⟨-, hzero, -⟩ | ⟨_, _, _, rfl, -⟩ | ⟨before, front, _, _, _, rfl, hpast, -⟩
    · exact absurd hzero hpiece
    · exact absurd rfl hpiece
    rcases hd.cases with ⟨-, hzero, -⟩ | ⟨_, _, _, rfl, -⟩ | ⟨other, start, _, _, _, rfl, hread, -⟩
    · exact absurd (h.piece.symm.trans hzero) hpiece
    · exact absurd h.piece.symm hpiece
    have hbefore : other = before := by simpa using hkept
    subst hbefore
    rw [hpast] at hread
    have hfront : front = start :=
      (List.map_inj_right fun _ _ => Token.text.inj).mp (List.append_cancel_left hread)
    simp [Cursor.passed, Segment.takePieces, hfront]

/-! ### What stays read -/

/-- A cursor that was led on and back twice was led on and back. -/
theorem Cursor.Returned.trans {c d e : Cursor} (hcd : Returned c d) (hde : Returned d e) :
    Returned c e :=
  ⟨hcd.reaches.trans hde.reaches, hde.segment.trans hcd.segment, hde.piece.trans hcd.piece⟩

/-- The tokens that stay read on the way from a cursor, the latest first. Each was read at a cursor
at which those before it stay read, and what was read after it was stepped back over. -/
inductive Stacked (start : Cursor) : List Token → Cursor → Prop
  /-- No token stays read. -/
  | bottom {c : Cursor} (returned : Returned start c) : Stacked start [] c
  /-- A token was read, and the cursor was led on from there and back. -/
  | above {past : List Token} {c next d : Cursor} {separator : String} {token : Token}
      (below : Stacked start past c) (fetch : c.fetch separator = some (token, next))
      (returned : Returned next d) : Stacked start (token :: past) d

namespace Stacked

variable {start c d : Cursor} {past : List Token}

/-- Leading the cursor on and back leaves the tokens that stay read. -/
theorem returned (h : Stacked start past c) (hcd : Returned c d) : Stacked start past d := by
  cases h with
  | bottom hstart => exact .bottom (hstart.trans hcd)
  | above below fetch hnext => exact .above below fetch (hnext.trans hcd)

/-- From a good place only good places are come to. -/
theorem placed (h : Stacked start past c) (hstart : start.WellPlaced) : c.WellPlaced := by
  cases h with
  | bottom hreturned => exact hreturned.reaches.placed hstart
  | above _ fetch hnext => exact hnext.reaches.placed (Cursor.fetch_wellPlaced fetch)

/-- Stepping back over the token that was read last leads back to where it was read. -/
theorem pushBack {token : Token} (hstart : start.WellPlaced) (h : Stacked start (token :: past) d) :
    Stacked start past (d.pushBack token) := by
  cases h with
  | above below fetch hnext => exact below.returned (hnext.pushBack (below.placed hstart) fetch)

end Stacked

/-- Every token that a walk leaves read was read at some cursor. -/
theorem Walk.stacked {separators : List String} {start c : Cursor} {past : List Token}
    (hstart : start.WellPlaced) (walk : Walk separators start past c) : Stacked start past c := by
  induction walk with
  | here => exact .bottom (.refl start)
  | read _ _ fetch ih => exact .above ih fetch (.refl _)
  | back _ ih => exact ih.pushBack hstart

/-- A sound cursor stands in front of the units that it stands at. -/
theorem Cursor.Sound.wellPlaced {c : Cursor} (h : c.Sound) : c.WellPlaced := by
  intro u hu
  have hinside : c.piece < 1 := h.inside (.unit u) hu
  omega

/-- A walk that leaves no token read ends where it starts, and passed the same to get there. -/
theorem Walk.samePlace {separators : List String} {own : String} {start c : Cursor}
    (hstart : start.Valid own) (walk : Walk separators start [] c) : start.SamePlace c := by
  obtain ⟨past, left, hshows⟩ := hstart
  obtain ⟨rest, hlast⟩ := walk.shows hshows
  cases walk.stacked hshows.sound.wellPlaced with
  | bottom hreturned => exact hreturned.samePlace hshows hlast

/-! ### How many tokens are left -/

/-- Along a walk no token is lost: those that stay read and those that are left are no fewer than
those left at the start. -/
theorem Walk.left_le {separators : List String} {own : String} {start c : Cursor}
    {before left past : List Token} (h : Shows own start before left)
    (walk : Walk separators start past c) :
    ∃ rest, Shows own c (past ++ before) rest ∧ left.length ≤ past.length + rest.length := by
  induction walk with
  | here => exact ⟨left, h, by simp⟩
  | @read past c next separator token _ _ fetch ih =>
    obtain ⟨rest, hrest, hle⟩ := ih
    cases rest with
    | nil => cases (hrest.fetch_nil separator).symm.trans fetch
    | cons first rest =>
      obtain ⟨found, hfetch, hfound⟩ := hrest.fetch separator
      cases hfetch.symm.trans fetch
      refine ⟨_, hfound, ?_⟩
      simp only [List.length_cons, List.length_append] at hle ⊢
      omega
  | back _ ih =>
    obtain ⟨rest, hrest, hle⟩ := ih
    refine ⟨_, hrest.pushBack, ?_⟩
    simp only [List.length_cons] at hle ⊢
    omega

/-- A walk that leaves no token read leaves no fewer tokens than before, counted as they are
stored. -/
theorem Walk.remaining_le {separators : List String} {own : String} {start c : Cursor}
    (hstart : start.Valid own) (walk : Walk separators start [] c) :
    start.remaining own ≤ c.remaining own := by
  obtain ⟨past, left, hshows⟩ := hstart
  obtain ⟨rest, hlast, hle⟩ := walk.left_le hshows
  rw [hshows.remaining_self, hlast.remaining_self]
  simpa using hle

/-! ### Sessions with many separators -/

namespace Session

/-- Where several calls lead, each with a separator of its own. -/
def afterEach (s : Session) (calls : List (String × CursorCall)) : Session :=
  calls.foldl (fun s call => s.step call.1 call.2) s

variable {separators : List String} {c : Cursor} {s : Session}

/-- No call but the one that consumes all that is left departs from a walk. -/
theorem walk_step (h : Walk separators c s.read s.cursor) {separator : String}
    (hlisted : separator ∈ separators) {call : CursorCall} (hcall : call ≠ .drain) :
    Walk separators c (s.step separator call).read (s.step separator call).cursor := by
  cases call with
  | fetch =>
    simp only [step]
    split
    · exact h
    · rename_i hfetch
      exact h.read hlisted hfetch
  | undo =>
    simp only [step]
    split
    · exact h
    · rename_i hread
      rw [hread] at h
      exact h.back
  | drain => exact absurd rfl hcall
  | peek => exact h
  | remaining => exact h
  | isExhausted => exact h

/-- Calls that do not consume all that is left go a walk. -/
theorem walk_afterEach {calls : List (String × CursorCall)}
    (h : Walk separators c s.read s.cursor) (hlisted : ∀ call ∈ calls, call.1 ∈ separators)
    (hcalls : ∀ call ∈ calls, call.2 ≠ .drain) :
    Walk separators c (s.afterEach calls).read (s.afterEach calls).cursor := by
  induction calls generalizing s with
  | nil => exact h
  | cons call rest ih =>
    have hstep := walk_step h (hlisted call List.mem_cons_self) (hcalls call List.mem_cons_self)
    exact ih hstep (fun call hcall => hlisted call (List.mem_cons_of_mem _ hcall))
      fun call hcall => hcalls call (List.mem_cons_of_mem _ hcall)

end Session

/-- From every cursor that is attained from an input, tokens are read with any separators and
stepped back over, the one read last first. When none stays read, the cursor stands where it
started, what it passed is as it was, and with the separator of the input no fewer tokens are
left. -/
theorem round_trip_returns {input : Input} {own : String} {excluded : List String}
    {refuse : Bool} {start c : Cursor}
    (hstart : Cursor.tokenize input own excluded refuse = .ok start) (hc : Attained start c)
    {calls : List (String × CursorCall)} (hcalls : ∀ call ∈ calls, call.2 ≠ .drain)
    (hread : ((Session.start c).afterEach calls).read = []) :
    let last := ((Session.start c).afterEach calls).cursor
    last.segment = c.segment ∧ last.piece = c.piece ∧ last.passed = c.passed ∧
      c.remaining own ≤ last.remaining own := by
  intro last
  obtain ⟨hsound, howned⟩ := hc.valid hstart
  have hvalid : c.Valid own := hsound.valid howned
  have hwalk : Walk (calls.map Prod.fst) c [] last := by
    have hhere : Walk (calls.map Prod.fst) c (Session.start c).read (Session.start c).cursor :=
      .here
    have := Session.walk_afterEach hhere (fun call hcall => List.mem_map_of_mem hcall) hcalls
    rwa [hread] at this
  have hplace := hwalk.samePlace hvalid
  exact ⟨hplace.segment, hplace.piece, hplace.passed, hwalk.remaining_le hvalid⟩

/-- An assignment and a unit behind a word. -/
def assignmentAndImage : Input := .chain [.text "x a=b,c", .unit ⟨"image", .null⟩, .text "d"]

/-- From the assignment the cursor is led over the unit with four separators, and back: the
assignment was cut into three pieces, all of which are left. -/
theorem round_trip_returns_assignment :
    let image : Segment := .unit ⟨"image", .null⟩
    let start : Cursor := ⟨[.text ["x", "a=b,c"] " ", image, .text ["d"] " "], 0, 0⟩
    let c : Cursor := ⟨start.segments, 0, 1⟩
    let calls : List (String × CursorCall) := [("=", .fetch), (",", .fetch), (",", .undo),
      (" ", .fetch), (" ", .fetch), (":", .fetch), (":", .undo), (" ", .undo), (" ", .undo),
      ("=", .undo)]
    let last := ((Session.start c).afterEach calls).cursor
    Cursor.tokenize assignmentAndImage " " [] false = .ok start ∧ Attained start c ∧
      (∀ call ∈ calls, call.2 ≠ .drain) ∧ ((Session.start c).afterEach calls).read = [] ∧
      c.remaining " " = 3 ∧ last.remaining " " = 5 ∧ last.segment = c.segment ∧
      last.piece = c.piece ∧ last.passed = c.passed ∧ c.remaining " " ≤ last.remaining " " := by
  intro image start c calls last
  have hstart : Cursor.tokenize assignmentAndImage " " [] false = .ok start := by rfl
  have hword : start.fetch " " = some (.text "x", c) := by rfl
  have hattained : Attained start c := .fetch .start hword
  have hcalls : ∀ call ∈ calls, call.2 ≠ .drain := by simp [calls]
  have hread : ((Session.start c).afterEach calls).read = [] := by
    have hempty : ((Session.start c).afterEach calls).read.isEmpty = true := by decide +kernel
    exact List.isEmpty_iff.mp hempty
  exact ⟨hstart, hattained, hcalls, hread, by decide +kernel, by decide +kernel,
    round_trip_returns hstart hattained hcalls hread⟩

end CommandGrammar
