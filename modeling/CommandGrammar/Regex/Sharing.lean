import CommandGrammar.Regex.Tally
import CommandGrammar.Unicode.ByteSequence
import Std.Data.TreeMap

/-!
# Shared states

An automaton reads the characters of a set through their byte sequences. Sequences that end
alike share states, read forwards, and so do those that begin alike, read backwards. States
are found again through a table with a fixed number of slots: a state takes over the slot that
its hash gives it, and the one before is forgotten. So the room of a set also depends on how
many states there were before it.
-/

namespace CommandGrammar

/-- The automaton under construction and the states to be shared. -/
structure Sharing (κ : Type) where
  /-- The room taken so far. -/
  tally : Tally
  /-- What each slot holds: what a state is known by, and its number. -/
  slots : Std.TreeMap Nat (κ × Nat)

namespace Sharing

/-- One step of the hash of a list of numbers. -/
def mixHash (hash : UInt64) (value : Nat) : UInt64 :=
  (hash ^^^ value.toUInt64) * 1099511628211

/-- The slot of a list of numbers, in a table with `size` slots. -/
def slotOf (size : Nat) (values : List Nat) : Nat :=
  (values.foldl mixHash 14695981039346656037).toNat % size

/-- The number of the state that is known by a key: one found again, or a new one with the
bytes of its lists. -/
def state? {κ : Type} [DecidableEq κ] (s : Sharing κ) (slot : Nat) (key : κ) (bytes : Nat) :
    Option (Nat × Sharing κ) :=
  let found := match s.slots[slot]? with
    | some (known, number) => if known = key then some number else none
    | none => none
  match found with
  | some number => some (number, s)
  | none =>
    let number := s.tally.states
    (s.tally.addState? bytes).map fun tally =>
      (number, ⟨tally, s.slots.insert slot (key, number)⟩)

end Sharing

/-- A step over a byte of a range to a state. -/
structure ByteStep where
  /-- The range of the byte. -/
  range : ByteRange
  /-- The number of the state after it. -/
  target : Nat
  deriving DecidableEq, Repr

/-- A state that can get further steps. -/
structure OpenState where
  /-- The steps whose targets are known. -/
  steps : List ByteStep
  /-- The range of the step whose target is still open. -/
  pending : Option ByteRange

namespace OpenState

/-- The steps when the open one leads to a target. -/
def close (state : OpenState) (target : Nat) : List ByteStep :=
  match state.pending with
  | some range => state.steps ++ [⟨range, target⟩]
  | none => state.steps

/-- A state with one step whose target is open. -/
def ofRange (range : ByteRange) : OpenState := ⟨[], some range⟩

end OpenState

/-- The slots for states of sets read forwards. -/
def forwardSlots : Nat := 10000

/-- The slots for states of sets read backwards. -/
def backwardSlots : Nat := 1000

/-- The number of the state with some steps. -/
def stepState? (steps : List ByteStep) (s : Sharing (List ByteStep)) :
    Option (Nat × Sharing (List ByteStep)) :=
  let values := steps.flatMap fun step => [step.range.1, step.range.2, step.target]
  s.state? (Sharing.slotOf forwardSlots values) steps (steps.length * Tally.stepRoom)

/-- Close open states, each of which leads to the one after it and the last one to a target.
The result has the number of the first. -/
def closeStates? (target : Nat) : List OpenState → Sharing (List ByteStep) →
    Option (Nat × Sharing (List ByteStep))
  | [], s => some (target, s)
  | state :: deeper, s =>
    match closeStates? target deeper s with
    | none => none
    | some (next, s) => stepState? (state.close next) s

/-- Add a sequence to the open states, which lead along the sequence added before. They stay
open as far as the two begin alike. -/
def addSequence? (target : Nat) : List ByteRange → List OpenState → Sharing (List ByteStep) →
    Option (List OpenState × Sharing (List ByteStep))
  | range :: ranges, state :: deeper, s =>
    if state.pending = some range then
      (addSequence? target ranges deeper s).map fun (deeper, s) => (state :: deeper, s)
    else
      match closeStates? target deeper s with
      | none => none
      | some (next, s) =>
        some (⟨state.close next, some range⟩ :: ranges.map OpenState.ofRange, s)
  | _, states, s => some (states, s)

/-- Add the states that read a character of a set forwards: a common last one, and those that
lead to it. -/
def addForwards? (sequences : List (List ByteRange)) (t : Tally) : Option Tally :=
  let target := t.states
  match t.addState? 0 with
  | none => none
  | some t =>
    let added := sequences.foldlM
      (fun (states, s) sequence => addSequence? target sequence states s)
      ([⟨[], none⟩], (⟨t, ∅⟩ : Sharing (List ByteStep)))
    (added.bind fun (states, s) => closeStates? target states s).map fun (_, s) => s.tally

/-- Add the states that read a character of a set backwards: a first one with a link for each
sequence, a last one, and those between them. -/
def addBackwards? (sequences : List (List ByteRange)) (t : Tally) : Option Tally :=
  let addRange (before : Nat × Sharing (Nat × ByteRange)) (range : ByteRange) :
      Option (Nat × Sharing (Nat × ByteRange)) :=
    let (target, s) := before
    s.state? (Sharing.slotOf backwardSlots [target, range.1, range.2]) (target, range) 0
  let target := t.states + 1
  match (t.addState? 0).bind fun t => t.addState? 0 with
  | none => none
  | some t =>
    let added := sequences.foldlM
      (fun s sequence =>
        match sequence.foldlM addRange (target, s) with
        | none => none
        | some (_, s) =>
          (s.tally.addLists? Tally.linkRoom).map fun tally => { s with tally := tally })
      (⟨t, ∅⟩ : Sharing (Nat × ByteRange))
    added.map Sharing.tally

/-- The charge of a set. The steps of a set of ASCII characters are in one state. -/
def Charge.ofSet (backwards : Bool) (chars : CharSet) : Charge :=
  if chars.isAscii then
    ⟨fun t => (t.addState? 0).bind fun t =>
      t.addState? (chars.ranges.length * Tally.stepRoom), false⟩
  else
    let sequences := chars.byteSequences
    if backwards then ⟨addBackwards? sequences, false⟩ else ⟨addForwards? sequences, false⟩

end CommandGrammar
