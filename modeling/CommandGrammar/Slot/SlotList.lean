import CommandGrammar.Slot.Strategy

/-!
# Slots

A slot is a named place for an argument. The slots of one owner stand in a list in which every
name is given and no two are equal.
-/

namespace CommandGrammar

/-- A named place for an argument. -/
structure Slot where
  /-- The name its value is kept under. -/
  name : String
  /-- Which tokens it takes. -/
  strategy : Strategy
  /-- The value when no token is taken; it may be an explicit null. -/
  default : Option Value
  /-- Whether it may stay without a value. -/
  optional : Bool

/-- A slot that has to be filled. -/
def Slot.ofStrategy (name : String) (strategy : Strategy) : Slot := ⟨name, strategy, none, false⟩

/-- The same slot with a default. -/
def Slot.withDefault (s : Slot) (value : Value) : Slot := { s with default := some value }

/-- The same slot, which may stay without a value. -/
def Slot.asOptional (s : Slot) : Slot := { s with optional := true }

/-- Whether a slot has to be filled from the input. -/
def Slot.isRequired (s : Slot) : Bool := s.default.isNone && !s.optional

/-- The first fault among the names of slots: a missing name, or one that stands in the list
before. -/
def slotNameFault? (seen : List String) : List Slot → Option GrammarFault
  | [] => none
  | slot :: rest =>
    if slot.name = "" then some .emptyName
    else if slot.name ∈ seen then some (.duplicateArgument slot.name)
    else slotNameFault? (slot.name :: seen) rest

/-- Without a fault names are given, and differ from each other and from those seen. -/
theorem slotNameFault?_eq_none {seen : List String} {slots : List Slot} :
    slotNameFault? seen slots = none ↔
      (∀ slot ∈ slots, slot.name ≠ "" ∧ slot.name ∉ seen) ∧ (slots.map Slot.name).Nodup := by
  induction slots generalizing seen with
  | nil => simp [slotNameFault?]
  | cons slot rest ih =>
    unfold slotNameFault?
    by_cases hname : slot.name = ""
    · simp [hname]
    · by_cases hseen : slot.name ∈ seen
      · simp [hname, hseen]
      · simp only [hname, hseen, if_false, ih, List.mem_cons, List.map_cons, List.nodup_cons,
          List.mem_map]
        grind

/-- The slots of one owner. -/
structure SlotList where
  /-- The slots in the order in which they are filled. -/
  slots : List Slot
  /-- Every slot has a name. -/
  named : ∀ slot ∈ slots, slot.name ≠ ""
  /-- No two slots share a name. -/
  distinct : (slots.map Slot.name).Nodup

namespace SlotList

/-- No slots. -/
def empty : SlotList := ⟨[], by simp, by simp⟩

/-- The empty list is the value at hand. -/
instance : Inhabited SlotList := ⟨empty⟩

/-- The list of some slots. -/
def ofSlots (slots : List Slot) : Except GrammarFault SlotList :=
  match h : slotNameFault? [] slots with
  | some fault => .error fault
  | none =>
    have names := slotNameFault?_eq_none.mp h
    .ok ⟨slots, fun slot hslot => (names.1 slot hslot).1, names.2⟩

/-- How many slots there are. -/
def size (l : SlotList) : Nat := l.slots.length

/-- Whether there is no slot. -/
def isEmpty (l : SlotList) : Bool := l.slots.isEmpty

/-- How many slots have a default. -/
def defaultCount (l : SlotList) : Nat := l.slots.countP fun slot => slot.default.isSome

/-- How many slots have none. -/
def requiredCount (l : SlotList) : Nat := l.size - l.defaultCount

/-- Whether a slot has to be filled from the input. -/
def needsInput (l : SlotList) : Bool := l.slots.any Slot.isRequired

end SlotList

end CommandGrammar
