import CommandGrammar.Text.Occurrence

/-!
# Places in a text counted in bytes

A number of bytes is a place in a text where a character begins or the text ends; inside a
character there is none. `cutAtByte?` cuts a text at a place, and finds none where there is none.
-/

namespace CommandGrammar

/-- The empty text has no bytes. -/
@[simp] theorem byteSize_nil : byteSize [] = 0 := rfl

/-- A character in front adds its own bytes. -/
@[simp] theorem byteSize_cons (c : Char) (text : List Char) :
    byteSize (c :: text) = c.utf8Size + byteSize text := by
  simp [byteSize]

/-- The bytes of two texts add up. -/
@[simp] theorem byteSize_append (front back : List Char) :
    byteSize (front ++ back) = byteSize front + byteSize back := by
  simp [byteSize]

/-- Only the empty text has no bytes. -/
theorem byteSize_eq_zero {text : List Char} : byteSize text = 0 ↔ text = [] := by
  cases text with
  | nil => simp
  | cons c rest =>
    have hpos := c.utf8Size_pos
    simp only [byteSize_cons, reduceCtorEq, iff_false]
    omega

/-- A front of a text has no more bytes than the text. -/
theorem byteSize_le_of_front {front text : List Char} (h : front <+: text) :
    byteSize front ≤ byteSize text := by
  obtain ⟨back, rfl⟩ := h
  simp

/-- Two fronts of a text with as many bytes are the same. -/
theorem eq_of_byteSize_eq {text front other : List Char} (hfront : front <+: text)
    (hother : other <+: text) (h : byteSize front = byteSize other) : front = other := by
  rcases List.prefix_or_prefix_of_prefix hfront hother with ⟨more, rfl⟩ | ⟨more, rfl⟩
  · have hmore : more = [] := byteSize_eq_zero.mp (by simpa using h)
    simp [hmore]
  · have hmore : more = [] := byteSize_eq_zero.mp (by simpa using h)
    simp [hmore]

/-- A text cut behind a number of bytes, if a character begins there or the text ends. -/
def cutAtByte? : (bytes : Nat) → List Char → Option (List Char × List Char)
  | 0, text => some ([], text)
  | _ + 1, [] => none
  | bytes + 1, c :: rest =>
    if c.utf8Size ≤ bytes + 1 then
      (cutAtByte? (bytes + 1 - c.utf8Size) rest).map fun (front, back) => (c :: front, back)
    else none

/-- Between two parts of a text there is a place. -/
theorem cutAtByte?_append (front back : List Char) :
    cutAtByte? (byteSize front) (front ++ back) = some (front, back) := by
  induction front with
  | nil => simp [cutAtByte?]
  | cons c front ih =>
    obtain ⟨bytes, hbytes⟩ : ∃ bytes, byteSize (c :: front) = bytes + 1 :=
      Nat.exists_eq_add_one_of_ne_zero (mt byteSize_eq_zero.mp (List.cons_ne_nil _ _))
    have hrest : bytes + 1 - c.utf8Size = byteSize front := by
      rw [← hbytes, byteSize_cons, Nat.add_sub_cancel_left]
    have hle : c.utf8Size ≤ bytes + 1 := by
      rw [← hbytes, byteSize_cons]
      exact Nat.le_add_right _ _
    rw [hbytes, List.cons_append, cutAtByte?, if_pos hle, hrest, ih]
    rfl

/-- What is cut are two parts of the text, the first with the bytes asked for. -/
theorem parts_of_cutAtByte? {bytes : Nat} {text front back : List Char}
    (h : cutAtByte? bytes text = some (front, back)) :
    text = front ++ back ∧ byteSize front = bytes := by
  fun_induction cutAtByte? bytes text generalizing front with
  | case1 text =>
    cases h
    exact ⟨rfl, rfl⟩
  | case2 => cases h
  | case3 bytes c rest hle ih =>
    obtain ⟨⟨inner, _⟩, hcut, heq⟩ := Option.map_eq_some_iff.mp h
    cases heq
    obtain ⟨rfl, hinner⟩ := ih hcut
    refine ⟨rfl, ?_⟩
    rw [byteSize_cons, hinner]
    omega
  | case4 => cases h

/-- A text is cut at a place exactly into the two parts around it. -/
theorem cutAtByte?_eq_some_iff {bytes : Nat} {text front back : List Char} :
    cutAtByte? bytes text = some (front, back) ↔ text = front ++ back ∧ byteSize front = bytes := by
  refine ⟨parts_of_cutAtByte?, ?_⟩
  rintro ⟨rfl, rfl⟩
  exact cutAtByte?_append front back

end CommandGrammar
