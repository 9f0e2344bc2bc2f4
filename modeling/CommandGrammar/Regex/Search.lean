import CommandGrammar.Regex.Program

/-!
# Leftmost-first search

Matching follows threads: a thread is a way to have matched the text so far. Where a program
goes on from depends on its address and the place in the text alone, not on the thread. So of
the threads that come to an address at one place only the first is followed: if it had led to
a match, no other would have been asked for. This also ends repetitions of the empty text, and
it bounds a search by the size of the program times the length of the text.

The first thread that comes to the end of the program is the match it prefers. A search takes
the leftmost place from which there is a match at all.
-/

namespace CommandGrammar

/-- The text kept for a group. -/
structure GroupSpan where
  /-- The number of the group. -/
  index : Nat
  /-- How many characters are before it. -/
  start : Nat
  /-- How many characters are before its end. -/
  stop : Nat
  deriving DecidableEq, Repr

/-- A way to have matched the text so far. -/
structure Thread where
  /-- The characters still ahead. -/
  ahead : List Char
  /-- The character just before them. -/
  before : Option Char
  /-- How many characters are behind. -/
  position : Nat
  /-- Where the groups under way began, the innermost first. -/
  opened : List Nat
  /-- The groups that ended, the latest first. -/
  groups : List GroupSpan

namespace Thread

/-- A thread that has matched nothing yet. -/
def start (ahead : List Char) (before : Option Char) (position : Nat) : Thread :=
  ⟨ahead, before, position, [], []⟩

/-- Step over the next character if it is in a set. -/
def step? (chars : CharSet) (t : Thread) : Option Thread :=
  match t.ahead with
  | [] => none
  | c :: rest =>
    if chars.contains c then
      some { t with ahead := rest, before := some c, position := t.position + 1 }
    else none

/-- Whether a condition holds at the place of the thread. -/
def isAt (condition : Place) (t : Thread) : Bool := condition.holds t.before t.ahead.head?

/-- Begin a group. -/
def openGroup (t : Thread) : Thread := { t with opened := t.position :: t.opened }

/-- End the group that began last. -/
def closeGroup (index : Nat) (t : Thread) : Thread :=
  match t.opened with
  | [] => t
  | first :: rest =>
    { t with opened := rest, groups := ⟨index, first, t.position⟩ :: t.groups }

end Thread

/-- Where a thread goes on from an instruction, the preferred address first. -/
def Instruction.follow (t : Thread) : Instruction → List (Nat × Thread)
  | jump next => [(next, t)]
  | one chars next =>
    match t.step? chars with
    | some t => [(next, t)]
    | none => []
  | place condition next => if t.isAt condition then [(next, t)] else []
  | openGroup next => [(next, t.openGroup)]
  | closeGroup index next => [(next, t.closeGroup index)]
  | split first second => [(first, t), (second, t)]

/-- The addresses that threads have come to, at each place of the text. -/
structure Trail where
  /-- For each address its places, as the bits of a number. -/
  places : Array Nat

namespace Trail

/-- A trail of a program that no thread has entered. -/
def start (p : Program) : Trail := ⟨Array.replicate p.size 0⟩

/-- Whether a thread has come to an address at a place. -/
def has (trail : Trail) (address position : Nat) : Bool :=
  (trail.places[address]?.getD 0).testBit position

/-- Note that a thread has come to an address at a place. -/
def mark (trail : Trail) (address position : Nat) : Trail :=
  let before := trail.places[address]?.getD 0
  ⟨trail.places.setIfInBounds address (before ||| (1 <<< position))⟩

/-- A trail at its start has nothing. -/
theorem has_start (p : Program) (address position : Nat) :
    (start p).has address position = false := by
  simp only [has, start, Array.getElem?_replicate]
  split <;> simp

/-- What a trail has after a mark is what it had before and the mark. -/
theorem has_mark (trail : Trail) {address : Nat} (h : address < trail.places.size)
    (position other place : Nat) :
    (trail.mark address position).has other place =
      (trail.has other place || (other == address && place == position)) := by
  simp only [has, mark, Array.getElem?_setIfInBounds]
  by_cases hother : address = other
  · subst hother
    have hbit : Nat.testBit (1 <<< position) place = (place == position) := by
      rw [Nat.one_shiftLeft, Nat.testBit_two_pow]
      by_cases hplace : place = position
      · simp [hplace]
      · simp [hplace, Ne.symm hplace]
    simp [h, hbit]
  · have : (other == address) = false := by simp [Ne.symm hother]
    simp [hother, this]

end Trail

namespace Program

/-- The first of some threads at their addresses, or of those they lead to, that comes to the
end of the program. The budget is a number of threads to look at. -/
def followAll (p : Program) : Nat → Trail → List (Nat × Thread) → Option Thread × Trail
  | 0, trail, _ => (none, trail)
  | _ + 1, trail, [] => (none, trail)
  | budget + 1, trail, (address, t) :: others =>
    match p.instructions[address]? with
    | none => (some t, trail)
    | some instruction =>
      if trail.has address t.position then p.followAll budget trail others
      else
        p.followAll budget (trail.mark address t.position) (instruction.follow t ++ others)

/-- The preferred match at the leftmost place that has one, as the number of characters
before it and the thread at its end. The budget is for each place. Where threads from an
earlier place have been there is no match to be found, so the trail stays. -/
def searchFrom (p : Program) (budget : Nat) :
    Trail → List Char → Option Char → Nat → Option (Nat × Thread)
  | trail, [], before, position =>
    (p.followAll budget trail [(0, .start [] before position)]).1.map (position, ·)
  | trail, c :: rest, before, position =>
    match p.followAll budget trail [(0, .start (c :: rest) before position)] with
    | (some t, _) => some (position, t)
    | (none, trail) => p.searchFrom budget trail rest (some c) (position + 1)

/-- A budget that is enough for a text: each address is followed at most once at each place
and leads to at most two threads. -/
def budgetFor (p : Program) (text : List Char) : Nat := 2 * p.size * (text.length + 1) + 1

end Program

/-- A match in a text. -/
structure RegexMatch where
  /-- How many characters are before it. -/
  start : Nat
  /-- How many characters are before its end. -/
  stop : Nat
  /-- The groups that took part, the latest first. -/
  groups : List GroupSpan
  deriving Repr

/-- The characters of a text between two places. -/
def sliceText (text : List Char) (start stop : Nat) : String :=
  String.ofList ((text.take stop).drop start)

namespace RegexMatch

/-- The text of the whole match. -/
def whole (m : RegexMatch) (text : List Char) : String := sliceText text m.start m.stop

/-- The text of a group, if it took part. -/
def group? (m : RegexMatch) (index : Nat) (text : List Char) : Option String :=
  (m.groups.find? fun span => span.index == index).map fun span =>
    sliceText text span.start span.stop

end RegexMatch

/-- The leftmost match in a text, the preferred one among those that start there. -/
def Program.search (p : Program) (text : List Char) : Option RegexMatch :=
  (p.searchFrom (p.budgetFor text) (.start p) text none 0).map fun (start, t) =>
    ⟨start, t.position, t.groups⟩

end CommandGrammar
