import CommandGrammar.Matching.Cursor

/-!
# Progress of a cursor

A cursor reaches another when that one stands no earlier and its pieces are those of the
first or cuts of them, none of which adds weight. Reading tokens and stepping back to a place
not before the start both lead to cursors that are reached, and the amount of unconsumed input
never grows on the way. This is what bounds every loop that reads tokens.
-/

namespace CommandGrammar

/-- The weight of the input from a place on. -/
def aheadWeight (segments : List Segment) (segment piece : Nat) : Nat :=
  match segments.drop segment with
  | [] => 0
  | first :: rest => (first.dropPieces piece).weight + sumOf (rest.map Segment.weight)

/-- Whether one place is not after another. -/
def NotAfter (segment piece segment' piece' : Nat) : Prop :=
  segment < segment' ∨ (segment = segment' ∧ piece ≤ piece')

/-- Dropping more pieces leaves no more weight. -/
theorem dropPieces_weight_le (s : Segment) {count more : Nat} (h : count ≤ more) :
    (s.dropPieces more).weight ≤ (s.dropPieces count).weight := by
  cases s with
  | unit u => simp [Segment.dropPieces]
  | text pieces separator =>
    obtain ⟨extra, rfl⟩ := Nat.exists_eq_add_of_le h
    simp only [Segment.dropPieces, Segment.weight]
    rw [← List.drop_drop]
    have := (List.take_append_drop extra (pieces.drop count))
    conv => rhs; rw [← this]
    simp only [List.map_append, sumOf_append]
    exact Nat.le_add_left _ _

/-- The weight ahead of a later place is no more. -/
theorem aheadWeight_le_of_notAfter (segments : List Segment) {s p s' p' : Nat}
    (h : NotAfter s p s' p') : aheadWeight segments s' p' ≤ aheadWeight segments s p := by
  unfold aheadWeight
  rcases h with hlt | ⟨rfl, hle⟩
  · obtain ⟨extra, rfl⟩ := Nat.exists_eq_add_of_lt hlt
    cases hdrop : segments.drop s with
    | nil =>
      have : segments.length ≤ s := by simpa using hdrop
      have hnil : segments.drop (s + extra + 1) = [] := List.drop_eq_nil_of_le (by omega)
      simp [hnil]
    | cons first rest =>
      have hrest : segments.drop (s + extra + 1) = rest.drop extra := by
        rw [show s + extra + 1 = s + (extra + 1) by omega, ← List.drop_drop, hdrop]
        rfl
      rw [hrest]
      cases hextra : rest.drop extra with
      | nil => simp
      | cons first' rest' =>
        have hsum : sumOf (rest.map Segment.weight) =
            sumOf ((rest.take extra).map Segment.weight) +
              (first'.weight + sumOf (rest'.map Segment.weight)) := by
          conv => lhs; rw [← List.take_append_drop extra rest, hextra]
          simp
        have := dropPieces_weight_le first' (Nat.zero_le p')
        rw [Segment.dropPieces_zero] at this
        simp only
        omega
  · cases segments.drop s with
    | nil => simp
    | cons first rest => exact Nat.add_le_add_right (dropPieces_weight_le first hle) _

/-- Exchanging a segment for one that weighs no more leaves no more weight in all. -/
theorem sumOf_weight_set_le {segments : List Segment} {i : Nat} {old new : Segment}
    (h : segments[i]? = some old) (hweight : new.weight ≤ old.weight) :
    sumOf ((segments.set i new).map Segment.weight) ≤ sumOf (segments.map Segment.weight) := by
  induction segments generalizing i with
  | nil => simp
  | cons first rest ih =>
    cases i with
    | zero =>
      simp only [List.getElem?_cons_zero, Option.some.injEq] at h
      subst h
      simpa using hweight
    | succ i =>
      simp only [List.getElem?_cons_succ] at h
      simpa using ih h

/-- Exchanging a segment leaves no more weight ahead of a place that is not after it, when
the new segment weighs no more from there on. -/
theorem aheadWeight_set_le {segments : List Segment} {i piece s p : Nat} {old new : Segment}
    (h : segments[i]? = some old)
    (hweight : ∀ count ≤ piece, (new.dropPieces count).weight ≤ (old.dropPieces count).weight)
    (hplace : NotAfter s p i piece) :
    aheadWeight (segments.set i new) s p ≤ aheadWeight segments s p := by
  unfold aheadWeight
  rcases hplace with hlt | ⟨rfl, hle⟩
  · rw [List.drop_set, if_neg (by omega)]
    cases hdrop : segments.drop s with
    | nil => simp
    | cons first rest =>
      obtain ⟨offset, hoffset⟩ := Nat.exists_eq_add_of_lt hlt
      have hget : rest[offset]? = some old := by
        have : (segments.drop s)[offset + 1]? = some old := by
          rw [List.getElem?_drop, ← h]
          congr 1
          omega
        rwa [hdrop, List.getElem?_cons_succ] at this
      rw [show i - s = offset + 1 by omega, List.set_cons_succ]
      have hzero := hweight 0 (Nat.zero_le _)
      rw [Segment.dropPieces_zero, Segment.dropPieces_zero] at hzero
      exact Nat.add_le_add_left (sumOf_weight_set_le hget hzero) _
  · rw [List.drop_set, if_neg (Nat.lt_irrefl _), Nat.sub_self, drop_eq_cons h,
      List.set_cons_zero]
    exact Nat.add_le_add_right (hweight p hle) _

namespace Cursor

/-- The amount of unconsumed input is the weight ahead of the place of the cursor. -/
theorem unconsumed_eq (c : Cursor) : c.unconsumed = aheadWeight c.segments c.segment c.piece := by
  unfold unconsumed ahead aheadWeight
  cases c.segments.drop c.segment <;> simp

/-- At a unit there is no piece to stand at but the first. -/
def WellPlaced (c : Cursor) : Prop :=
  ∀ u, c.segments[c.segment]? = some (.unit u) → c.piece = 0

/-- A piece of a text segment, or the front of any segment, is a place to stand at. -/
theorem advance_wellPlaced {c : Cursor} {size : Nat}
    (h : ∀ u, c.segments[c.segment]? ≠ some (.unit u) ∨ size = 1) :
    (c.advance size).WellPlaced := by
  intro u hu
  unfold advance at hu ⊢
  split at hu
  · rcases h u with h | h
    · exact absurd hu h
    · omega
  · rename_i hlast
    rw [if_neg hlast]

/-- After reading a token a cursor is well placed. -/
theorem fetch_wellPlaced {c next : Cursor} {separator : String} {token : Token}
    (h : c.fetch separator = some (token, next)) : next.WellPlaced := by
  rcases fetch_eq_some h with ⟨u, -, -, rfl⟩ | ⟨pieces, own, piece, hsegment, -, -, h⟩
  · exact advance_wellPlaced fun _ => .inr rfl
  · obtain ⟨parts, -, rfl⟩ := h
    obtain ⟨hlt, -⟩ := List.getElem?_eq_some_iff.mp hsegment
    exact advance_wellPlaced fun _ => .inl (by simp [hlt])

/-- A cursor that stands no earlier, over the same input or cuts of it. -/
structure Reaches (c d : Cursor) : Prop where
  /-- The place is not before. -/
  place : NotAfter c.segment c.piece d.segment d.piece
  /-- No place up to the start has more weight ahead. -/
  weight : ∀ s p, NotAfter s p c.segment c.piece →
    aheadWeight d.segments s p ≤ aheadWeight c.segments s p
  /-- The segments before the start are as they were. -/
  kept : d.segments.take c.segment = c.segments.take c.segment
  /-- A unit was a unit before. -/
  units : ∀ (i : Nat) (u : OpaqueUnit),
    d.segments[i]? = some (.unit u) → c.segments[i]? = some (.unit u)
  /-- A good place leads to good places only. -/
  placed : c.WellPlaced → d.WellPlaced

namespace Reaches

/-- A cursor reaches itself. -/
theorem refl (c : Cursor) : Reaches c c :=
  ⟨.inr ⟨rfl, Nat.le_refl _⟩, fun _ _ _ => Nat.le_refl _, rfl, fun _ _ h => h, id⟩

/-- What is reached in two steps is reached. -/
theorem trans {c d e : Cursor} (hcd : Reaches c d) (hde : Reaches d e) : Reaches c e where
  place := by
    have := hcd.place
    have := hde.place
    unfold NotAfter at *
    omega
  weight s p h := by
    refine Nat.le_trans (hde.weight s p ?_) (hcd.weight s p h)
    have := hcd.place
    unfold NotAfter at *
    omega
  kept := by
    have hle : c.segment ≤ d.segment := by
      have := hcd.place
      unfold NotAfter at this
      omega
    have hprefix := congrArg (List.take c.segment) hde.kept
    simp only [List.take_take, Nat.min_eq_left hle] at hprefix
    exact hprefix.trans hcd.kept
  units i u h := hcd.units i u (hde.units i u h)
  placed := hde.placed ∘ hcd.placed

/-- No input is gained on the way. -/
theorem unconsumed_le {c d : Cursor} (h : Reaches c d) : d.unconsumed ≤ c.unconsumed := by
  rw [unconsumed_eq, unconsumed_eq]
  exact Nat.le_trans (aheadWeight_le_of_notAfter _ h.place) (h.weight _ _ (refl c).place)

end Reaches

/-- A piece that is cut leaves no more weight behind any earlier place. -/
theorem cut_weight_le {pieces : List String} {own separator piece : String} {k count : Nat}
    (h : pieces[k]? = some piece) (hcount : count ≤ k) :
    ((Segment.text (putParts pieces k (cutParts (readPiece piece own separator))) own).dropPieces
        count).weight ≤ ((Segment.text pieces own).dropPieces count).weight := by
  have hweight := readPiece_weight piece own separator
  obtain ⟨hlt, -⟩ := List.getElem?_eq_some_iff.mp h
  have hlen : (pieces.take k).length = k := by simp; omega
  have hpieces := eq_take_cons_drop h
  simp only [Segment.dropPieces, Segment.weight, putParts]
  conv => rhs; rw [hpieces]
  rw [List.append_assoc, List.drop_append_of_le_length (by omega),
    List.drop_append_of_le_length (by omega)]
  simp only [List.map_append, sumOf_append, List.map_cons, sumOf_cons]
  omega

/-- Stepping over a piece leads to a later place over the same input. -/
theorem advance_place (c : Cursor) (size : Nat) :
    NotAfter c.segment c.piece (c.advance size).segment (c.advance size).piece ∧
      (c.advance size).segments = c.segments := by
  unfold advance NotAfter
  split <;> simp

/-- Reading a token leads to a cursor that is reached. -/
theorem reaches_fetch {c d : Cursor} {separator : String} {token : Token}
    (h : c.fetch separator = some (token, d)) : Reaches c d := by
  have hplaced := fetch_wellPlaced h
  rcases fetch_eq_some h with ⟨u, -, -, rfl⟩ | ⟨pieces, own, piece, hsegment, hpiece, -, h⟩
  · obtain ⟨hplace, hsegments⟩ := c.advance_place 1
    exact ⟨hplace, fun s p _ => Nat.le_of_eq (by rw [hsegments]), by rw [hsegments],
      fun i u h => by rwa [hsegments] at h, fun _ => hplaced⟩
  · obtain ⟨parts, rfl, rfl⟩ := h
    generalize List.length _ = size at *
    obtain ⟨hplace, hsegments⟩ := advance_place ⟨c.segments.set c.segment (.text (putParts pieces
      c.piece (cutParts (readPiece piece own separator))) own), c.segment, c.piece⟩ size
    refine ⟨hplace, fun s p hsp => ?_, ?_, fun i u h => ?_, fun _ => hplaced⟩
    · rw [hsegments]
      exact aheadWeight_set_le hsegment (fun count hcount => cut_weight_le hpiece hcount) hsp
    · rw [hsegments]
      exact List.take_set_of_le (Nat.le_refl _)
    · rw [hsegments, List.getElem?_set] at h
      split at h
      · split at h <;> simp at h
      · exact h

/-- A cursor that was led on and back again: it stands at the start, over the same input or
cuts of it. -/
structure Returned (c d : Cursor) : Prop where
  /-- It was led on from the start only. -/
  reaches : Reaches c d
  /-- It stands at the segment it started from. -/
  segment : d.segment = c.segment
  /-- It stands at the piece it started from. -/
  piece : d.piece = c.piece

/-- A cursor is where it started. -/
theorem Returned.refl (c : Cursor) : Returned c c := ⟨.refl c, rfl, rfl⟩

/-- Stepping back over the token that was read leads back to where it was read, also after
other tokens were read and stepped back over. -/
theorem Returned.pushBack {c next d : Cursor} {separator : String} {token : Token}
    (hc : c.WellPlaced) (h : c.fetch separator = some (token, next)) (hd : Returned next d) :
    Returned c (d.pushBack token) := by
  have hreach := (reaches_fetch h).trans hd.reaches
  have hplace : (d.pushBack token).segments = d.segments ∧
      (d.pushBack token).segment = c.segment ∧ (d.pushBack token).piece = c.piece := by
    rcases fetch_eq_some h with ⟨u, hu, rfl, rfl⟩ |
        ⟨pieces, own, piece, hsegment, hpiece, rfl, parts, hparts, hnext⟩
    · have hseg : d.segment = c.segment + 1 := by simpa [advance] using hd.segment
      exact ⟨rfl, by simp only [Cursor.pushBack, hseg, Nat.add_sub_cancel], (hc u hu).symm⟩
    · obtain ⟨hlt, -⟩ := List.getElem?_eq_some_iff.mp hsegment
      obtain ⟨hp, -⟩ := List.getElem?_eq_some_iff.mp hpiece
      have hsize : c.piece < (putParts pieces c.piece parts).length := by
        rw [hparts, putParts, cutParts]
        simp only [List.length_append, List.length_take, List.length_cons]
        omega
      have hseg := hd.segment
      have hpie := hd.piece
      have hkept := hd.reaches.kept
      rw [hnext] at hseg hpie hkept
      unfold advance at hseg hpie hkept
      split at hseg
      · rename_i hinside
        simp only [if_pos hinside] at hpie
        simp only [Cursor.pushBack, hpie, Nat.add_eq_zero_iff, Nat.one_ne_zero, and_false,
          if_false, Nat.add_sub_cancel]
        exact ⟨trivial, hseg, trivial⟩
      · rename_i hlast
        simp only [if_neg hlast] at hpie hkept
        dsimp only at hlast
        have hbefore : d.segments[c.segment]? = some (.text (putParts pieces c.piece parts) own) := by
          have := congrArg (fun l => l[c.segment]?) hkept
          simpa [List.getElem?_take, hlt] using this
        simp only [Cursor.pushBack, hpie, hseg, if_true, Nat.add_sub_cancel, hbefore,
          Option.map_some, Option.getD_some, Segment.size]
        exact ⟨trivial, trivial, by omega⟩
  obtain ⟨hsegments, hseg, hpie⟩ := hplace
  refine ⟨⟨.inr ⟨hseg.symm, Nat.le_of_eq hpie.symm⟩, ?_, ?_, ?_, fun _ u hu => ?_⟩, hseg, hpie⟩
  · rw [hsegments]
    exact hreach.weight
  · rw [hsegments]
    exact hreach.kept
  · rw [hsegments]
    exact hreach.units
  · rw [hsegments, hseg] at hu
    rw [hpie]
    exact hc u (hreach.units _ u hu)

/-- Reading all tokens leads to a cursor that is reached. -/
theorem reaches_fetchAll (c : Cursor) (separator : String) :
    Reaches c (fetchAll separator c).2 := by
  fun_induction fetchAll separator c with
  | case1 c h => exact .refl c
  | case2 c token next h tokens last hlast ih =>
    exact (reaches_fetch h).trans (by simpa [hlast] using ih)

/-- A token can be read where one can be seen, with any separator. -/
theorem exists_fetch_of_peek {c : Cursor} {separator : String} {token : Token}
    (h : c.peek separator = some token) (other : String) :
    ∃ found next, c.fetch other = some (found, next) := by
  unfold peek at h
  unfold fetch
  split at h
  · contradiction
  · exact ⟨_, _, rfl⟩
  · rename_i pieces own hsegment
    cases hpiece : pieces[c.piece]? with
    | none => simp [hpiece] at h
    | some piece => exact ⟨_, _, rfl⟩

end Cursor

end CommandGrammar
