/-!
# Splitting text on separators with quotes

Every character of a separator text separates. A piece that starts with a quote character
runs to the next one of the same kind, separators included, and both quotes are left out; a
quote that is never closed stays, at the front of its piece. Empty pieces are dropped.

`split` cuts a whole text into pieces, `splitOnce` cuts off the first piece and keeps the
rest as it is.
-/

namespace CommandGrammar

/-- The two quote characters. -/
def isQuote (c : Char) : Bool := c == '"' || c == '\''

namespace Split

/-- The piece held when it ends: its characters were collected in reverse, and a quote still
open goes to its front. -/
def close (quote : Option Char) (held : List Char) : List Char :=
  quote.toList ++ held.reverse

/-- Add a piece in front of the others unless it is empty. -/
def emit (piece : List Char) (others : List (List Char)) : List (List Char) :=
  if piece.isEmpty then others else piece :: others

/-- The pieces of the text ahead, with the piece under way given by its open quote, whether
nothing of it has been read yet, and the characters held. -/
def pieces (separators : List Char) :
    Option Char → Bool → List Char → List Char → List (List Char)
  | quote, _, held, [] => emit (close quote held) []
  | some q, _, held, c :: rest =>
    if c = q then pieces separators none false held rest
    else pieces separators (some q) false (c :: held) rest
  | none, fresh, held, c :: rest =>
    if separators.contains c then emit held.reverse (pieces separators none true [] rest)
    else if fresh && isQuote c then pieces separators (some c) false held rest
    else pieces separators none false (c :: held) rest

/-- The first piece of the text ahead and what follows the separators after it. -/
def first (separators : List Char) :
    Option Char → Bool → List Char → List Char → List Char × List Char
  | quote, _, held, [] => (close quote held, [])
  | some q, _, held, c :: rest =>
    if c = q then first separators none false held rest
    else first separators (some q) false (c :: held) rest
  | none, fresh, held, c :: rest =>
    if separators.contains c then (held.reverse, rest.dropWhile separators.contains)
    else if fresh && isQuote c then first separators (some c) false held rest
    else first separators none false (c :: held) rest

/-- A first piece and its rest have no more characters than what was held and ahead, and one
less when there is a rest: the separator between them. -/
theorem first_length (separators : List Char) (quote : Option Char) (fresh : Bool)
    (held ahead : List Char) :
    let result := first separators quote fresh held ahead
    result.1.length + result.2.length + (if result.2 = [] then 0 else 1) ≤
      quote.toList.length + held.length + ahead.length := by
  fun_induction first separators quote fresh held ahead with
  | case1 quote fresh held => simp [close]
  | case2 => simp_all; omega
  | case3 => simp_all; omega
  | case4 fresh held c rest hsep =>
    have := (List.dropWhile_suffix (l := rest) separators.contains).length_le
    simp only [Option.toList_none, List.length_nil, List.length_reverse, List.length_cons]
    split <;> omega
  | case5 => simp_all; omega
  | case6 => simp_all; omega

end Split

/-- The pieces of a text between separator characters. -/
def split (text separators : String) : List String :=
  (Split.pieces separators.toList none true [] text.toList).map String.ofList

/-- The first piece of a text and the rest after it; separators in front of the piece and
between it and the rest are left out. -/
def splitOnce (text separators : String) : String × String :=
  let ahead := text.toList.dropWhile separators.toList.contains
  let (head, rest) := Split.first separators.toList none true [] ahead
  (String.ofList head, String.ofList rest)

/-- The characters before and after the first of a kind. -/
def Split.around? (mark : Char) : List Char → Option (List Char × List Char)
  | [] => none
  | c :: rest =>
    if c = mark then some ([], rest)
    else (around? mark rest).map fun (front, back) => (c :: front, back)

/-- Characters are cut around a kind that is among them, where it stands first. -/
theorem Split.around?_eq_some_iff {mark : Char} {cs front back : List Char} :
    around? mark cs = some (front, back) ↔ mark ∉ front ∧ cs = front ++ mark :: back := by
  induction cs generalizing front with
  | nil => simp [around?]
  | cons c rest ih =>
    unfold around?
    by_cases hc : c = mark
    · subst hc
      cases front with
      | nil => simp
      | cons d front => simp +contextual [eq_comm]
    · rw [if_neg hc, Option.map_eq_some_iff]
      constructor
      · rintro ⟨⟨before, after⟩, hcut, heq⟩
        cases heq
        obtain ⟨hfree, rfl⟩ := ih.mp hcut
        exact ⟨by simp [hfree, Ne.symm hc], rfl⟩
      · rintro ⟨hfree, heq⟩
        cases front with
        | nil => exact absurd (List.cons.inj heq).1 hc
        | cons d before =>
          obtain ⟨rfl, rfl⟩ := List.cons.inj heq
          have hbefore : mark ∉ before := fun h => hfree (List.mem_cons_of_mem _ h)
          exact ⟨(before, back), ih.mpr ⟨hbefore, rfl⟩, rfl⟩

/-- Characters are not cut around a kind that is not among them. -/
theorem Split.around?_eq_none_iff {mark : Char} {cs : List Char} :
    around? mark cs = none ↔ mark ∉ cs := by
  induction cs with
  | nil => simp [around?]
  | cons c rest ih =>
    unfold around?
    by_cases hc : c = mark
    · simp [hc]
    · rw [if_neg hc, Option.map_eq_none_iff, ih]
      simp [Ne.symm hc]

/-- The parts of a text before and after the first of a kind of character. -/
def splitAround? (text : String) (mark : Char) : Option (String × String) :=
  (Split.around? mark text.toList).map fun (front, back) =>
    (String.ofList front, String.ofList back)

/-- A text is cut around a kind of character that is in it, where it stands first. -/
theorem splitAround?_eq_some_iff {text front back : String} {mark : Char} :
    splitAround? text mark = some (front, back) ↔
      mark ∉ front.toList ∧ text.toList = front.toList ++ mark :: back.toList := by
  rw [← Split.around?_eq_some_iff, splitAround?, Option.map_eq_some_iff]
  constructor
  · rintro ⟨⟨before, after⟩, hparts, heq⟩
    obtain ⟨rfl, rfl⟩ := Prod.mk.inj heq
    simpa using hparts
  · exact fun hparts => ⟨_, hparts, by simp⟩

/-- Cutting off the first piece loses a character when something is left. -/
theorem splitOnce_length (text separators : String) :
    (splitOnce text separators).1.length + (splitOnce text separators).2.length +
      (if (splitOnce text separators).2 = "" then 0 else 1) ≤ text.length := by
  have hfirst := Split.first_length separators.toList none true []
    (text.toList.dropWhile separators.toList.contains)
  have hdrop := (List.dropWhile_suffix (l := text.toList) separators.toList.contains).length_le
  simp only [splitOnce, ← String.length_toList, String.toList_ofList] at *
  simp only [Option.toList_none, List.length_nil, Nat.zero_add, String.ofList_eq_empty_iff] at *
  omega

end CommandGrammar
