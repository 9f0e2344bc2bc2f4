import CommandGrammar.Numeral.Sum

/-!
# Occurrences of a text in another

The last place where one text stands in another, given by what is in front of it, and the
size of texts in bytes. `lastBefore?_eq_some` says that the text does stand there, and
`lastBefore?_eq_none` that nothing is found only where there is nothing.
-/

namespace CommandGrammar

/-- The number of bytes of characters in UTF-8. -/
def byteSize (text : List Char) : Nat := sumOf (text.map Char.utf8Size)

/-- What stands in front of the last occurrence of a text in another, if it occurs. -/
def lastBefore? (needle : List Char) : List Char → Option (List Char)
  | [] => if needle.isEmpty then some [] else none
  | c :: rest =>
    match lastBefore? needle rest with
    | some front => some (c :: front)
    | none => if needle.isPrefixOf (c :: rest) then some [] else none

/-- A text stands where its last occurrence was found. -/
theorem lastBefore?_eq_some {needle text front : List Char}
    (h : lastBefore? needle text = some front) : front ++ needle <+: text := by
  induction text generalizing front with
  | nil => simp_all [lastBefore?]
  | cons c rest ih =>
    cases hrest : lastBefore? needle rest with
    | some front' =>
      simp only [lastBefore?, hrest, Option.some.injEq] at h
      subst h
      simpa using ih hrest
    | none =>
      simp only [lastBefore?, hrest] at h
      split at h
      · next hp =>
        cases h
        simpa using List.isPrefixOf_iff_prefix.mp hp
      · cases h

/-- A text that is not found does not occur. -/
theorem lastBefore?_eq_none {needle text : List Char} (h : lastBefore? needle text = none) :
    ¬ needle <:+: text := by
  induction text with
  | nil => simp_all [lastBefore?]
  | cons c rest ih =>
    cases hrest : lastBefore? needle rest with
    | some front => simp [lastBefore?, hrest] at h
    | none =>
      simp only [lastBefore?, hrest, List.isPrefixOf_iff_prefix] at h
      rw [List.infix_cons_iff]
      simp_all

end CommandGrammar
