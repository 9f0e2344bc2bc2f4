import CommandGrammar.Proofs.CursorWalks
import CommandGrammar.Proofs.SegmentBoundaries

/-!
# What a fault leaves

A slot that fails steps back over the token that it refuses, so the cursor stands in front of that
token, or at a keyword or the end when there was nothing to refuse. The loops around the slot pass
the fault on and leave the cursor there. A header that is refused leaves the cursor at the start.

`run_leaves_fault` says for every run what its fault tells of the remainder.
-/

namespace CommandGrammar

open Cursor (Shows)

/-- Whether a fault of a slot is about the token a cursor stands at: the slot refuses it, or it is
missing one and there is a keyword or nothing. -/
def MatchFault.ArisesAt (keywords : List String) (c : Cursor) : MatchFault → Prop
  | .unmatched _ found => ∃ token rest, c.left = token :: rest ∧ token.display = found
  | .missing _ => ∀ token rest, c.left = token :: rest → ∃ word ∈ keywords, token = .text word
  | _ => False

/-- A slot that takes nothing misses a token, or refuses the one it is given. -/
theorem unfilled_failed {slot : Slot} {refused : Option Token} {fault : MatchFault}
    (h : slot.unfilled refused = .failed fault) :
    (refused = none ∧ fault = .missing slot.name) ∨
      ∃ token, refused = some token ∧ fault = .unmatched slot.name token.display := by
  unfold Slot.unfilled at h
  split at h
  · cases h
  · split at h
    · cases h
    · split at h
      · cases h
        exact .inr ⟨_, rfl, rfl⟩
      · cases h
        exact .inl ⟨rfl, rfl⟩

/-- A keyword is a text. -/
theorem text_of_isKeyword {ctx : SlotContext} {token : Token} (h : ctx.isKeyword token = true) :
    ∃ word ∈ ctx.keywords, token = .text word := by
  cases token with
  | unit u => cases h
  | text word => exact ⟨word, by simpa [SlotContext.isKeyword, Token.asText?] using h, rfl⟩

/-- A slot for one token fails at the token it refuses. -/
theorem arisesAt_fillOne {slot : Slot} {ctx : SlotContext} {own : String} {c d : Cursor}
    (hc : c.Valid own) {fault : MatchFault} (h : slot.fillOne ctx c = (d, .failed fault)) :
    fault.ArisesAt ctx.keywords d := by
  obtain ⟨past, left, hshows⟩ := hc
  rw [Slot.fillOne_cases] at h
  cases left with
  | nil =>
    rw [hshows.fetch_nil] at h
    obtain ⟨rfl, hfailed⟩ := Prod.mk.inj h
    obtain ⟨-, rfl⟩ | ⟨token, hnone, -⟩ := unfilled_failed hfailed
    · intro token rest hleft
      cases hshows.left_eq.symm.trans hleft
    · cases hnone
  | cons token left =>
    obtain ⟨next, hfetch, hnext⟩ := hshows.fetch ctx.separator
    have hback := hnext.pushBack.left_eq
    rw [hfetch] at h
    generalize (Cursor.readToken own ctx.separator token).1 = found at h hback
    dsimp only at h
    split at h
    · rename_i hkeyword
      obtain ⟨rfl, hfailed⟩ := Prod.mk.inj h
      obtain ⟨-, rfl⟩ | ⟨token, hnone, -⟩ := unfilled_failed hfailed
      · intro token rest hleft
        cases hback.symm.trans hleft
        exact text_of_isKeyword hkeyword
      · cases hnone
    · split at h
      · cases h
      · obtain ⟨rfl, hfailed⟩ := Prod.mk.inj h
        obtain ⟨hsome, -⟩ | ⟨refused, hrefused, rfl⟩ := unfilled_failed hfailed
        · cases hsome
        · cases hrefused
          exact ⟨found, _, hback, rfl⟩

/-- A slot fails at the token it refuses. A run and a slot for all that is left never fail. -/
theorem arisesAt_slot_fill {slot : Slot} {ctx : SlotContext} {own : String} {c d : Cursor}
    (hc : c.Valid own) {fault : MatchFault} (h : slot.fill ctx c = (d, .failed fault)) :
    fault.ArisesAt ctx.keywords d := by
  unfold Slot.fill at h
  split at h
  · unfold Slot.fillRun at h
    split at h <;> cases h
  · cases h
  · exact arisesAt_fillOne hc h

/-- Slots in order stop at the token that one of them refuses. -/
theorem arisesAt_fillFrom {separator : String} {keywords : List String} {slots : List Slot}
    {own : String} {c : Cursor} (hc : c.Valid own) {values : SlotValues} {fault : MatchFault}
    (h : (SlotList.fillFrom separator keywords slots c values).fault = some fault) :
    fault.ArisesAt keywords (SlotList.fillFrom separator keywords slots c values).cursor := by
  induction slots generalizing c values with
  | nil => cases h
  | cons slot rest ih =>
    obtain ⟨past, hwalk⟩ := walk_slot_fill slot
      ⟨separator, keywords, rest.countP Slot.isRequired⟩ c (List.mem_singleton.mpr rfl)
    rw [SlotList.fillFrom_cons] at h ⊢
    split at h <;> rename_i hfill <;> rw [hfill] at hwalk
    · exact ih (hwalk.valid hc) h
    · exact ih (hwalk.valid hc) h
    · cases h
      exact arisesAt_slot_fill hc hfill

/-- A list of slots stops at the token that one of them refuses. -/
theorem arisesAt_fill {l : SlotList} {separator : String} {keywords : List String} {own : String}
    {c : Cursor} (hc : c.Valid own) {fault : MatchFault}
    (h : (l.fill separator keywords c).fault = some fault) :
    fault.ArisesAt keywords (l.fill separator keywords c).cursor := by
  unfold SlotList.fill at h ⊢
  split at h
  · cases h
  · rename_i hneeds
    rw [if_neg hneeds]
    exact arisesAt_fillFrom hc h

section Entries

variable {outer separator own : String} {keywords : List String} {c : Cursor} {fault : MatchFault}

/-- Filling an entry leads on to a cursor over the same texts. -/
theorem valid_entry_fill (e : Entry) (outer : String) (keywords : List String)
    (hc : c.Valid own) : (e.fill outer keywords c).cursor.Valid own := by
  have hlisted : e.separatorOr outer ∈ [e.separatorOr outer] := List.mem_cons_self
  obtain ⟨past, hwalk⟩ := walk_entry e hlisted keywords c
  exact hwalk.valid hc

/-- A called entry stops at the token that one of its slots refuses. -/
theorem arisesAt_entry {e : Entry} (hc : c.Valid own)
    (h : (e.fill outer keywords c).fault = some fault) :
    fault.ArisesAt keywords (e.fill outer keywords c).cursor := by
  obtain ⟨past, hwalk⟩ := walk_stepOverName e outer c
  exact arisesAt_fill (hwalk.valid hc) h

/-- The loop over options stops where one of them does. -/
theorem arisesAt_fillOptions {s : Subcommand} (hc : c.Valid own) {options : NameMap SlotValues}
    (h : (s.fillOptions separator keywords c options).fault = some fault) :
    fault.ArisesAt keywords (s.fillOptions separator keywords c options).cursor := by
  fun_induction Subcommand.fillOptions s separator keywords c options with
  | case1 => cases h
  | case2 c options e hcalled filling inserted found hfault =>
    cases h
    exact arisesAt_entry hc hfault
  | case3 c options e hcalled filling inserted hfault ih =>
    exact ih (valid_entry_fill e separator keywords hc) h

/-- A called nested command stops where its slots or its options do. -/
theorem arisesAt_subcommand {s : Subcommand} (hc : c.Valid own)
    (h : (s.fill outer keywords c).fault = some fault) :
    fault.ArisesAt keywords (s.fill outer keywords c).cursor := by
  unfold Subcommand.fill at h ⊢
  dsimp only at h ⊢
  split at h
  · rename_i hown
    cases h
    exact arisesAt_entry hc hown
  · exact arisesAt_fillOptions (valid_entry_fill s.entry outer keywords hc) h

/-- Filling a nested command leads on to a cursor over the same texts. -/
theorem valid_subcommand_fill (s : Subcommand) (outer : String) (keywords : List String)
    (hc : c.Valid own) : (s.fill outer keywords c).cursor.Valid own := by
  have hentry := valid_entry_fill s.entry outer keywords hc
  unfold Subcommand.fill
  dsimp only
  split
  · exact hentry
  · obtain ⟨past, hwalk⟩ := walk_fillOptions s outer keywords (s.entry.fill outer keywords c).cursor
      .empty
    exact hwalk.valid hentry

/-- The loop over options and nested commands stops where one of them does. -/
theorem arisesAt_fillMembers {command : Command} (hc : c.Valid own)
    {options : NameMap SlotValues} {subcommands : NameMap SubcommandValues}
    (h : (command.fillMembers keywords c options subcommands).fault = some fault) :
    fault.ArisesAt keywords (command.fillMembers keywords c options subcommands).cursor := by
  fun_induction Command.fillMembers command keywords c options subcommands with
  | case1 => cases h
  | case2 c options subcommands e hcalled filling inserted found hfault =>
    cases h
    exact arisesAt_entry hc hfault
  | case3 c options subcommands e hcalled filling inserted hfault ih =>
    exact ih (valid_entry_fill e _ keywords hc) h
  | case4 c options subcommands s hcalled filling inserted found hfault =>
    cases h
    exact arisesAt_subcommand hc hfault
  | case5 c options subcommands s hcalled filling inserted hfault ih =>
    exact ih (valid_subcommand_fill s _ keywords hc) h

end Entries

/-- Whether a token is a unit named like what was found, or a text with what was found at its
front. -/
def Token.BeginsWith (found : String) : Token → Prop
  | unit u => (unit u).display = found
  | text whole => found.toList <+: whole.toList

/-- Whether a token of the remainder shows another at its front: it is the same unit, or a text
that begins with the text of the other. -/
def Token.Fronts (first : Token) : Token → Prop
  | unit u => first = unit u
  | text piece => ∃ whole, first = text whole ∧ piece.toList <+: whole.toList

/-- The first token of what is left shows the token the cursor stands at. -/
theorem rest_first {own : String} {c : Cursor} {past left : List Token} {token : Token}
    (h : Shows own c past (token :: left)) :
    ∃ first others, c.rest = first :: others ∧ first.Fronts token := by
  rcases h.cases with ⟨-, -, -, hleft⟩ | ⟨before, u, after, rfl, -, hleft⟩ |
      ⟨before, front, piece, back, after, rfl, -, hleft⟩
  · cases hleft
  · obtain ⟨rfl, -⟩ := List.cons.inj hleft
    refine ⟨.unit u, after.map Segment.rejoin, ?_, rfl⟩
    simp [Cursor.rest, Cursor.ahead, Segment.dropPieces, Segment.rejoin]
  · obtain ⟨rfl, -⟩ := List.cons.inj hleft
    refine ⟨(Segment.text (piece :: back) own).rejoin, after.map Segment.rejoin, ?_, _, rfl, ?_⟩
    · simp [Cursor.rest, Cursor.ahead, Segment.dropPieces]
    · cases back with
      | nil => simp
      | cons next back =>
        rw [String.intercalate_cons_cons, String.toList_append, String.toList_append,
          List.append_assoc]
        exact List.prefix_append _ _

/-- A token that is shown first begins with its own text or name. -/
theorem rest_beginsWith {own : String} {c : Cursor} {past left : List Token} {token : Token}
    (h : Shows own c past (token :: left)) :
    ∃ first others, c.rest = first :: others ∧ first.BeginsWith token.display := by
  obtain ⟨first, others, hrest, hfirst⟩ := rest_first h
  refine ⟨first, others, hrest, ?_⟩
  cases token with
  | unit u =>
    cases hfirst
    rfl
  | text piece =>
    obtain ⟨text, rfl, hprefix⟩ := hfirst
    exact hprefix

/-- At the end nothing is left over. -/
theorem rest_nil {own : String} {c : Cursor} {past : List Token} (h : Shows own c past []) :
    c.rest = [] := by
  rcases h.cases with ⟨hsegment, -⟩ | ⟨_, _, _, -, -, hleft⟩ | ⟨_, _, _, _, _, -, -, hleft⟩
  · simp [Cursor.rest, Cursor.ahead, hsegment]
  · cases hleft
  · cases hleft

/-- What a fault tells of the tokens that are left. -/
def MatchFault.Leaves (command : Command) (input : Input) (remainder : List Token) :
    MatchFault → Prop
  | .unmatched _ found => ∃ first others, remainder = first :: others ∧ first.BeginsWith found
  | .missing _ => remainder = [] ∨ ∃ text others, remainder = .text text :: others ∧
      ∃ word ∈ command.keywords, word.toList <+: text.toList
  | .headerMismatch found => ∃ start, Cursor.tokenize input command.separator
        command.config.excluded command.config.raises = .ok start ∧
      remainder = start.rest ∧ ∃ first others, remainder = first :: others ∧
        first.BeginsWith found
  | .emptyInput => remainder = []
  | .excludedUnit _ => remainder = []

/-- A fault that arises at a cursor tells what is left there, and it is one of a slot. -/
theorem leaves_of_arisesAt {command : Command} {own : String} {c : Cursor} (hc : c.Valid own)
    {fault : MatchFault} (h : fault.ArisesAt command.keywords c) (input : Input) :
    fault.Leaves command input c.rest ∧
      ((∃ name found, fault = .unmatched name found) ∨ ∃ name, fault = .missing name) := by
  obtain ⟨past, left, hshows⟩ := hc
  cases fault with
  | unmatched name found =>
    obtain ⟨token, rest, hleft, rfl⟩ := h
    cases hshows.left_eq.symm.trans hleft
    exact ⟨rest_beginsWith hshows, .inl ⟨_, _, rfl⟩⟩
  | missing name =>
    refine ⟨?_, .inr ⟨_, rfl⟩⟩
    cases left with
    | nil => exact .inl (rest_nil hshows)
    | cons token rest =>
      obtain ⟨word, hword, rfl⟩ := h token rest hshows.left_eq
      obtain ⟨first, others, hrest, text, rfl, hprefix⟩ := rest_first hshows
      exact .inr ⟨text, others, hrest, word, hword, hprefix⟩
  | emptyInput => cases h
  | excludedUnit kind => cases h
  | headerMismatch found => cases h

/-- A refused header leaves the cursor where it was, and names the token that stands there. -/
theorem read_refused {own : String} {header : Header} {c d : Cursor} {past left : List Token}
    {token : Token} (h : Shows own c past (token :: left)) {found : Option Token}
    (hread : header.read own c = .error (found, d)) : d = c ∧ found = some token := by
  have hplaced : c.WellPlaced := fun u hu => by
    have := h.sound.inside _ hu
    simp only [Segment.size] at this
    omega
  have heq : ∀ {d : Cursor}, Cursor.Returned c d → d.segments = c.segments → d = c := by
    rintro d ⟨-, hsegment, hpiece⟩ hsegments
    cases c
    cases d
    simp_all
  obtain ⟨next, hfirst, hnext, hsame⟩ := h.fetch_self
  have hback : next.pushBack token = c :=
    heq ((Cursor.Returned.refl next).pushBack hplaced hfirst)
      (by rw [Cursor.pushBack_segments, hsame])
  unfold Header.read at hread
  rw [hfirst] at hread
  dsimp only at hread
  split at hread
  · split at hread
    · split at hread
      · cases hread
        exact ⟨hback, rfl⟩
      · rename_i name last hname
        split at hread
        · cases hread
        · cases hread
          have hlast := (Cursor.Returned.refl last).pushBack (Cursor.fetch_wellPlaced hfirst) hname
          refine ⟨heq (hlast.pushBack hplaced hfirst) ?_, rfl⟩
          rw [Cursor.pushBack_segments, Cursor.pushBack_segments,
            Cursor.fetch_segments_self hnext.owned hname, hsame]
    · cases hread
      exact ⟨hback, rfl⟩
  · split at hread
    · cases hread
    · cases hread
      exact ⟨hback, rfl⟩

/-- The value of a header that matches is not false. -/
theorem read_value {header : Header} {separator : String} {c next : Cursor} {value : Value}
    (h : header.read separator c = .ok (value, next)) : value ≠ .bool false := by
  have hcapture : ∀ {token : Token}, token.asText?.bind header.capture? = some value →
      value ≠ .bool false := by
    intro token htoken
    obtain ⟨text, -, hvalue⟩ := Option.bind_eq_some_iff.mp htoken
    obtain ⟨m, -, rfl⟩ := Option.map_eq_some_iff.mp hvalue
    split <;> simp
  unfold Header.read at h
  split at h
  · cases h
  · split at h
    · split at h
      · split at h
        · cases h
        · split at h
          · rename_i hvalue
            cases h
            exact hcapture hvalue
          · cases h
      · cases h
    · split at h
      · rename_i hvalue
        cases h
        exact hcapture hvalue
      · cases h

/-- A loop over options and nested commands without a fault ends where nothing is called. -/
theorem fillMembers_settled {command : Command} {keywords : List String} {c : Cursor}
    {options : NameMap SlotValues} {subcommands : NameMap SubcommandValues}
    (h : (command.fillMembers keywords c options subcommands).fault = none) :
    command.called? (command.fillMembers keywords c options subcommands).cursor = none := by
  fun_induction Command.fillMembers command keywords c options subcommands with
  | case1 c options subcommands hend => exact hend
  | case2 => cases h
  | case3 c options subcommands e hcalled filling inserted hfault ih => exact ih h
  | case4 => cases h
  | case5 c options subcommands s hcalled filling inserted hfault ih => exact ih h

/-- Where matching what follows the header ends, and what stands there. -/
structure MatchResult.EndsAt (command : Command) (start c : Cursor) (result : MatchResult) :
    Prop where
  /-- The cursor went a walk. -/
  walk : ∃ past, Walk command.separators start past c
  /-- What is ahead of it is the remainder. -/
  remainder : result.remainder = c.rest
  /-- Without a fault nothing is called there. -/
  settled : result.fault = none → command.called? c = none
  /-- A fault is about the token that stands there. -/
  arises : ∀ fault, result.fault = some fault → fault.ArisesAt command.keywords c

/-- Matching what follows the header leaves its value. -/
theorem runBody_header (command : Command) (header : Value) (c : Cursor) :
    (command.runBody header c).header = header := by
  unfold Command.runBody
  dsimp only
  split <;> rfl

/-- Matching what follows the header ends at a cursor. -/
theorem runBody_ends (command : Command) (header : Value) {own : String} {c : Cursor}
    (hc : c.Valid own) : ∃ d, (command.runBody header c).EndsAt command c d := by
  have hlisted : command.separator ∈ command.separators := List.mem_cons_self
  obtain ⟨past, hmain⟩ := walk_fill command.config.args hlisted command.keywords c
  unfold Command.runBody
  dsimp only
  split
  · rename_i hfault
    refine ⟨_, ⟨past, hmain⟩, rfl, fun hnone => ?_, fun fault hsome => ?_⟩
    · cases hnone
    · cases hsome
      exact arisesAt_fill hc hfault
  · obtain ⟨more, hmembers⟩ := walk_fillMembers command.keywords .empty .empty
    refine ⟨_, ⟨_, hmain.trans hmembers⟩, rfl, ?_, ?_⟩
    · rw [MatchResult.conclude_fault]
      exact fillMembers_settled
    · rw [MatchResult.conclude_fault]
      exact fun fault => arisesAt_fillMembers (hmain.valid hc)

/-- An input that is read begins with a token. -/
theorem tokenize_first {input : Input} {separator : String} {excluded : List String}
    {refuse : Bool} {c : Cursor} (h : Cursor.tokenize input separator excluded refuse = .ok c) :
    ∃ token rest, Shows separator c [] (token :: rest) := by
  obtain ⟨segments, hsegments, hshows⟩ := Cursor.tokenize_shows h
  have hempty := isEmpty_segments fun s hs => (Cursor.inputSegments_sound hsegments s hs).2
  cases htokens : segments.flatMap Segment.tokens with
  | cons token rest => exact ⟨token, rest, htokens ▸ hshows⟩
  | nil =>
    rw [htokens] at hempty
    simp [Cursor.tokenize, hsegments, hempty] at h

/-- Whether a fault comes before the header is matched. -/
def MatchFault.IsEarly : MatchFault → Prop
  | .emptyInput => True
  | .excludedUnit _ => True
  | .headerMismatch _ => True
  | .unmatched _ _ => False
  | .missing _ => False

/-- The fault of a run tells what is left, and the header is false where it came early. -/
theorem run_fault (command : Command) (input : Input) :
    (∀ fault, (command.run input).fault = some fault →
      fault.Leaves command input (command.run input).remainder) ∧
    ((command.run input).header = .bool false ↔
      ∃ fault, (command.run input).fault = some fault ∧ fault.IsEarly) := by
  unfold Command.run
  split
  · rename_i error _
    cases error <;> simp [MatchResult.failedEarly, TokenizeError.fault, MatchFault.Leaves,
      MatchFault.IsEarly]
  · rename_i start hstart
    obtain ⟨token, rest, hshows⟩ := tokenize_first hstart
    unfold Command.runTokens
    split
    · rename_i found c hread
      obtain ⟨rfl, rfl⟩ := read_refused hshows hread
      refine ⟨fun fault hfault => ?_, fun _ => ⟨_, rfl, trivial⟩, fun _ => rfl⟩
      cases hfault
      exact ⟨c, hstart, rfl, rest_beginsWith hshows⟩
    · rename_i value c hread
      have hlisted : command.separator ∈ command.separators := List.mem_cons_self
      obtain ⟨name, past, hwalk⟩ := walk_read hlisted hread
      have hc := hwalk.valid ⟨_, _, hshows⟩
      obtain ⟨d, hends⟩ := runBody_ends command value hc
      obtain ⟨more, hbody⟩ := hends.walk
      have hleaves := fun fault hfault =>
        leaves_of_arisesAt (hbody.valid hc) (hends.arises fault hfault) input
      refine ⟨fun fault hfault => hends.remainder ▸ (hleaves fault hfault).1, fun hfalse => ?_, ?_⟩
      · have hvalue : (command.runBody value c).header = value := runBody_header ..
        exact absurd (hvalue.symm.trans hfalse) (read_value hread)
      · rintro ⟨fault, hfault, hearly⟩
        rcases (hleaves fault hfault).2 with ⟨_, _, rfl⟩ | ⟨_, rfl⟩ <;> cases hearly

/-- Every fault agrees with the remainder: a refused token stands at its front, in front of a
missing one there is a keyword or nothing, and a refused header leaves the whole input. The header
is false exactly where the fault came before it was matched. -/
theorem run_leaves_fault (command : Command) (input : Input) :
    let result := command.run input
    (result.matched = true ↔ result.error? = none) ∧
    (∀ error, result.error? = some error → error.remainder = result.remainder ∧
      error.fault.Leaves command input result.remainder) ∧
    (result.header = .bool false ↔
      ∃ error, result.error? = some error ∧ error.fault.IsEarly) := by
  intro result
  obtain ⟨hleaves, hheader⟩ := run_fault command input
  obtain ⟨hmatched, hremainder⟩ := command.run_agrees input
  refine ⟨hmatched, fun error herror => ⟨hremainder error herror, ?_⟩, ?_⟩
  · exact hleaves _ (MatchResult.fault_eq_some_iff.mpr ⟨error, herror, rfl⟩)
  · rw [hheader]
    constructor
    · rintro ⟨fault, hfault, hearly⟩
      obtain ⟨error, herror, rfl⟩ := MatchResult.fault_eq_some_iff.mp hfault
      exact ⟨error, herror, hearly⟩
    · rintro ⟨error, herror, hearly⟩
      exact ⟨_, MatchResult.fault_eq_some_iff.mpr ⟨error, herror, rfl⟩, hearly⟩

end CommandGrammar
