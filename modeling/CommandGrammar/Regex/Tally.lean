/-!
# Room

An expression is refused when an automaton for it takes too much room. A tally counts the
states of the automaton and what they need beyond a fixed size. A charge adds a part of the
automaton to a tally, as long as the limit allows it.
-/

namespace CommandGrammar

/-- The room that an automaton takes so far. -/
structure Tally where
  /-- How many states it has. -/
  states : Nat
  /-- The bytes of lists in states. -/
  lists : Nat
  deriving DecidableEq, Repr

namespace Tally

/-- The bytes that every state takes. -/
def stateRoom : Nat := 32

/-- The bytes of a step in a list of steps over bytes. -/
def stepRoom : Nat := 8

/-- The bytes of a link in a list of links to states. -/
def linkRoom : Nat := 4

/-- The bytes that an automaton may take. -/
def limit : Nat := 10485760

/-- No room taken yet. -/
def start : Tally := ⟨0, 0⟩

/-- The bytes that the automaton takes. -/
def bytes (t : Tally) : Nat := t.states * stateRoom + t.lists

/-- The tally itself if it keeps to the limit. -/
def check? (t : Tally) : Option Tally := if t.bytes ≤ limit then some t else none

/-- Add bytes of lists. -/
def addLists? (t : Tally) (bytes : Nat) : Option Tally :=
  check? { t with lists := t.lists + bytes }

/-- Add a state with the bytes of its lists. -/
def addState? (t : Tally) (bytes : Nat) : Option Tally :=
  check? ⟨t.states + 1, t.lists + bytes⟩

/-- Do something to a tally a number of times. -/
def repeated? (round : Tally → Option Tally) : Nat → Tally → Option Tally
  | 0, t => some t
  | count + 1, t => match round t with
    | none => none
    | some t => repeated? round count t

end Tally

/-- What a part of an automaton adds to a tally. -/
structure Charge where
  /-- Add the room of the part, unless that is too much. -/
  add? : Tally → Option Tally
  /-- Whether the part ends in a list of links, which grows with what follows the part. -/
  endsInLinks : Bool

namespace Charge

/-- The bytes of the link from the end of a part to what follows. -/
def linkBytes (a : Charge) : Nat := if a.endsInLinks then Tally.linkRoom else 0

/-- A state with the bytes of its lists. -/
def state (bytes : Nat) : Charge := ⟨fun t => t.addState? bytes, false⟩

/-- A number of states without lists. -/
def states (count : Nat) : Charge := ⟨Tally.repeated? (fun t => t.addState? 0) count, false⟩

/-- One part linked to another after it. -/
def andThen (a b : Charge) : Charge :=
  ⟨fun t => ((a.add? t).bind fun t => t.addLists? a.linkBytes).bind b.add?, b.endsInLinks⟩

/-- Parts one after the other; without parts there is a state of its own. -/
def inTurn : List Charge → Charge
  | [] => state 0
  | first :: rest => rest.foldl andThen first

/-- A part with the link to what follows, a number of times. -/
def linkedCopies (a : Charge) (count : Nat) (t : Tally) : Option Tally :=
  t.repeated? (fun t => (a.add? t).bind fun t => t.addLists? a.linkBytes) count

/-- Copies of a part one after the other. -/
def copies (a : Charge) : Nat → Charge
  | 0 => state 0
  | count + 1 => ⟨fun t => (a.linkedCopies count t).bind a.add?, a.endsInLinks⟩

/-- A part or nothing. -/
def optional (a : Charge) : Charge :=
  ⟨fun t => ((t.addState? (2 * Tally.linkRoom)).bind (a.linkedCopies 1)).bind fun t =>
    t.addState? 0, false⟩

/-- A part any number of times. One that has characters in all its texts is entered and left
through the same state. -/
def star (consumes : Bool) (a : Charge) : Charge :=
  if consumes then
    ⟨fun t => (t.addState? Tally.linkRoom).bind (a.linkedCopies 1), true⟩
  else
    ⟨fun t => (((a.linkedCopies 1 t).bind fun t => t.addState? (2 * Tally.linkRoom)).bind fun t =>
      t.addState? (2 * Tally.linkRoom)).bind fun t => t.addState? 0, false⟩

/-- A part at least a number of times, which is not zero. -/
def atLeast (a : Charge) (least : Nat) : Charge :=
  ⟨fun t => (a.linkedCopies least t).bind fun t => t.addState? Tally.linkRoom, true⟩

/-- A part between two different numbers of times. -/
def between (a : Charge) (least most : Nat) : Charge :=
  let front := a.copies least
  let round (t : Tally) : Option Tally :=
    (t.addState? (2 * Tally.linkRoom)).bind (a.linkedCopies 1)
  ⟨fun t => ((front.linkedCopies 1 t).bind fun t => t.addState? 0).bind
    (Tally.repeated? round (most - least)), false⟩

/-- A part repeated between two counts. -/
def times (consumes : Bool) (a : Charge) : Nat → Option Nat → Charge
  | 0, none => a.star consumes
  | least, none => a.atLeast least
  | 0, some 1 => a.optional
  | least, some most => if least == most then a.copies least else a.between least most

/-- Any of some parts. -/
def anyOf : List Charge → Charge
  | first :: second :: rest =>
    let linked (t : Tally) (a : Charge) : Option Tally :=
      (a.add? t).bind fun t => t.addLists? (Tally.linkRoom + a.linkBytes)
    ⟨fun t =>
      ((([first, second].foldlM linked t).bind fun t => t.addState? 0).bind fun t =>
        t.addState? 0).bind (rest.foldlM linked), false⟩
  | [only] => only
  | [] => state 0

end Charge

end CommandGrammar
