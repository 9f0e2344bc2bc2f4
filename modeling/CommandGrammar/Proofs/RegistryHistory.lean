import CommandGrammar.Registry
import Mathlib.Data.List.Induction

/-!
# Registries after histories of calls

Commands are registered, removed, enabled and disabled in any order. What is registered in the end
depends on positions in the history of calls: a name is there if it was registered and not removed
since, its place is that of the latest call that registered it while it was absent, its command is
the one registered last, and it is disabled if it was disabled after it entered and after it was
last enabled.

One call is described by what it leaves under its own name (`RegistryCall.update`), as other names
keep what they have, and by the order of the names (`RegistryCall.order`). `Explains` relates a
history to what is found under one name, and every call keeps it. `after_follows` puts together what
a registry shows and answers after every history.
-/

namespace CommandGrammar

/-- A call that changes a registry. -/
inductive RegistryCall where
  /-- Register a command. -/
  | insert (command : Command)
  /-- Drop the command of a name. -/
  | remove (name : String)
  /-- Enable the command of a name. -/
  | enable (name : String)
  /-- Disable the command of a name. -/
  | disable (name : String)

/-- The name that a call is about. -/
def RegistryCall.name : RegistryCall → String
  | insert command => command.name
  | remove name => name
  | enable name => name
  | disable name => name

/-- The registration that a call leaves under its name, where there was one or none. -/
def RegistryCall.update : RegistryCall → Option Registration → Option Registration
  | insert command, old => some ⟨command, (old.map Registration.enabled).getD true⟩
  | remove _, _ => none
  | enable _, old => old.map fun entry => { entry with enabled := true }
  | disable _, old => old.map fun entry => { entry with enabled := false }

/-- The names after a call. A new name comes last. -/
def RegistryCall.order : RegistryCall → List String → List String
  | insert command, names => if command.name ∈ names then names else names ++ [command.name]
  | remove name, names => names.filter (· ≠ name)
  | enable _, names => names
  | disable _, names => names

namespace Registry

/-- The registry after a call. -/
def apply (r : Registry) : RegistryCall → Registry
  | .insert command => (r.insert command).1
  | .remove name => (r.remove name).1
  | .enable name => (r.setEnabled name true).1
  | .disable name => (r.setEnabled name false).1

/-- The registry after a history of calls, from the empty one on. -/
def after (calls : List RegistryCall) : Registry := calls.foldl apply empty

/-- A call comes after the history before it. -/
theorem after_snoc (calls : List RegistryCall) (call : RegistryCall) :
    after (calls ++ [call]) = (after calls).apply call := by
  rw [after, List.foldl_append]
  rfl

end Registry

/-! ### One call -/

/-- Nothing is altered exactly where the name is not listed. -/
theorem alterRegistration?_eq_none {name : String} {change : Registration → Option Registration}
    {entries : List Registration} :
    alterRegistration? name change entries = none ↔
      name ∉ entries.map fun entry => entry.command.name := by
  induction entries with
  | nil => simp [alterRegistration?]
  | cons first rest ih =>
    unfold alterRegistration?
    by_cases hname : first.command.name = name
    · simp [hname]
    · rw [if_neg hname, Option.map_eq_none_iff, ih]
      simp [Ne.symm hname]

/-- What is altered is the first registration of the name, in its place. -/
theorem alterRegistration?_eq_some {name : String} {change : Registration → Option Registration}
    {entries altered : List Registration} {old : Registration}
    (h : alterRegistration? name change entries = some (old, altered)) :
    old.command.name = name ∧ ∃ front back, entries = front ++ old :: back ∧
      altered = front ++ ((change old).toList ++ back) ∧
      name ∉ front.map fun entry => entry.command.name := by
  induction entries generalizing altered with
  | nil => cases h
  | cons first rest ih =>
    unfold alterRegistration? at h
    by_cases hname : first.command.name = name
    · rw [if_pos hname] at h
      cases h
      exact ⟨hname, [], rest, rfl, rfl, List.not_mem_nil⟩
    · rw [if_neg hname] at h
      obtain ⟨⟨found, others⟩, hrest, hpair⟩ := Option.map_eq_some_iff.mp h
      cases hpair
      obtain ⟨hfound, front, back, hsplit, haltered, hfront⟩ := ih hrest
      refine ⟨hfound, first :: front, back, by rw [hsplit]; rfl, by rw [haltered]; rfl, ?_⟩
      rw [List.map_cons, List.mem_cons]
      exact fun hmem => hmem.elim (fun heq => hname heq.symm) hfront

/-- Nothing is found under a name that is not listed. -/
theorem find?_eq_none_of_unlisted {name : String} {entries : List Registration}
    (h : name ∉ entries.map fun entry => entry.command.name) :
    entries.find? (fun entry => entry.command.name == name) = none :=
  List.find?_eq_none.mpr fun entry hentry hname =>
    h (List.mem_map.mpr ⟨entry, hentry, beq_iff_eq.mp hname⟩)

/-- The first registration of a name is found behind those of other names. -/
theorem find?_behind {name : String} {front back : List Registration} {entry : Registration}
    (hentry : entry.command.name = name)
    (hfront : name ∉ front.map fun entry => entry.command.name) :
    (front ++ entry :: back).find? (fun entry => entry.command.name == name) = some entry := by
  rw [List.find?_append, find?_eq_none_of_unlisted hfront, Option.none_or, List.find?_cons_of_pos]
  exact beq_iff_eq.mpr hentry

/-- The registrations after one was altered, or as they are if there is none of the name. -/
def alterIfListed (name : String) (change : Registration → Option Registration)
    (entries : List Registration) : List Registration :=
  match alterRegistration? name change entries with
  | some (_, altered) => altered
  | none => entries

section Altering

variable {name : String} {change : Registration → Option Registration}
  {entries : List Registration}

/-- Altering a registration decides what is found under its name, and nothing else. -/
theorem find?_alterIfListed (hdistinct : (entries.map fun entry => entry.command.name).Nodup)
    (hchange : ∀ old entry, old.command.name = name → change old = some entry →
      entry.command.name = name) (key : String) :
    (alterIfListed name change entries).find? (fun entry => entry.command.name == key) =
      if name = key then (entries.find? fun entry => entry.command.name == name).bind change
      else entries.find? fun entry => entry.command.name == key := by
  unfold alterIfListed
  split
  · rename_i old altered halter
    obtain ⟨hold, front, back, rfl, rfl, hfront⟩ := alterRegistration?_eq_some halter
    rw [find?_behind hold hfront, Option.bind_some]
    by_cases hkey : name = key
    · subst hkey
      rw [if_pos rfl]
      cases hnew : change old with
      | some entry => exact find?_behind (hchange old entry hold hnew) hfront
      | none =>
        -- No other registration has the name, so none is left.
        rw [List.map_append, List.map_cons, hold] at hdistinct
        have hback : name ∉ back.map fun entry => entry.command.name :=
          (List.nodup_cons.mp (List.nodup_append.mp hdistinct).2.1).1
        refine List.find?_eq_none.mpr fun other hother hname => ?_
        rcases List.mem_append.mp hother with hmem | hmem
        · exact hfront (List.mem_map.mpr ⟨other, hmem, beq_iff_eq.mp hname⟩)
        · exact hback (List.mem_map.mpr ⟨other, hmem, beq_iff_eq.mp hname⟩)
    · have hskip : ∀ entry : Registration, entry.command.name = name →
          (entry.command.name == key) = false := by
        intro entry hentry
        exact beq_eq_false_iff_ne.mpr fun hname => hkey (hentry.symm.trans hname)
      rw [if_neg hkey]
      simp only [List.find?_append, List.find?_cons, hskip old hold]
      cases hnew : change old with
      | none => rfl
      | some entry => simp [hskip entry (hchange old entry hold hnew)]
  · rename_i halter
    split
    · rename_i hkey
      subst hkey
      rw [find?_eq_none_of_unlisted (alterRegistration?_eq_none.mp halter)]
      rfl
    · rfl

/-- A change that keeps the name keeps the order. -/
theorem names_alterIfListed (hchange : ∀ old, old.command.name = name →
      ∃ entry, change old = some entry ∧ entry.command.name = name) :
    (alterIfListed name change entries).map (fun entry => entry.command.name) =
      entries.map fun entry => entry.command.name := by
  unfold alterIfListed
  split
  · rename_i old altered halter
    obtain ⟨hold, front, back, rfl, rfl, -⟩ := alterRegistration?_eq_some halter
    obtain ⟨entry, hnew, hentry⟩ := hchange old hold
    simp [hnew, hentry, hold]
  · rfl

/-- Where a registration is dropped, the other names keep their order. -/
theorem names_dropped (hdistinct : (entries.map fun entry => entry.command.name).Nodup) :
    (alterIfListed name (fun _ => none) entries).map (fun entry => entry.command.name) =
      (entries.map fun entry => entry.command.name).filter (· ≠ name) := by
  unfold alterIfListed
  split
  · rename_i old altered halter
    obtain ⟨hold, front, back, rfl, rfl, hfront⟩ := alterRegistration?_eq_some halter
    rw [List.map_append, List.map_cons, hold] at hdistinct
    have hback : name ∉ back.map fun entry => entry.command.name :=
      (List.nodup_cons.mp (List.nodup_append.mp hdistinct).2.1).1
    have hkeep : ∀ others : List Registration,
        name ∉ others.map (fun entry => entry.command.name) →
        (others.map fun entry => entry.command.name).filter (· ≠ name) =
          others.map fun entry => entry.command.name := fun others hothers =>
      List.filter_eq_self.mpr fun other hother => decide_eq_true fun heq => hothers (heq ▸ hother)
    simp only [List.map_append, List.map_cons, List.filter_append, List.filter_cons, hold,
      hkeep front hfront, hkeep back hback]
    simp
  · rename_i halter
    refine (List.filter_eq_self.mpr fun other hother => ?_).symm
    exact decide_eq_true fun heq => alterRegistration?_eq_none.mp halter (heq ▸ hother)

end Altering

namespace Registry

/-- A name is listed where something is registered under it. -/
theorem mem_names {r : Registry} {name : String} :
    name ∈ r.names ↔ (r.find? name).isSome = true := by
  rw [find?, List.find?_isSome, names, List.mem_map]
  simp

/-- Where no name is listed twice, a name is enabled exactly when its registration is. -/
theorem isEnabled_eq_find? {r : Registry} (hdistinct : r.names.Nodup) (name : String) :
    r.isEnabled name = (r.find? name).any (·.enabled) := by
  unfold isEnabled find?
  unfold names at hdistinct
  generalize r.registrations = entries at hdistinct
  induction entries with
  | nil => rfl
  | cons entry rest ih =>
    obtain ⟨hunlisted, hrest⟩ := List.nodup_cons.mp hdistinct
    rw [List.any_cons, List.find?_cons]
    by_cases hname : entry.command.name = name
    · -- The other registrations have other names.
      have hother : (rest.any fun other => other.enabled && other.command.name == name) = false := by
        refine List.any_eq_false.mpr fun other hmem hboth => hunlisted ?_
        obtain ⟨-, hsame⟩ := Bool.and_eq_true_iff.mp hboth
        exact List.mem_map.mpr ⟨other, hmem, (beq_iff_eq.mp hsame).trans hname.symm⟩
      simp [hname, hother]
    · have hunnamed : (entry.command.name == name) = false := beq_false_of_ne hname
      rw [ih hrest, hunnamed, Bool.and_false, Bool.false_or]

/-- Dropping a command alters its registration. -/
theorem remove_registrations (r : Registry) (name : String) :
    (r.remove name).1.registrations = alterIfListed name (fun _ => none) r.registrations := by
  unfold remove alterIfListed
  rcases alterRegistration? name _ r.registrations with _ | ⟨old, altered⟩ <;> rfl

/-- Enabling or disabling a command alters its registration. -/
theorem setEnabled_registrations (r : Registry) (name : String) (enabled : Bool) :
    (r.setEnabled name enabled).1.registrations =
      alterIfListed name (fun entry => some { entry with enabled }) r.registrations := by
  unfold setEnabled alterIfListed
  rcases alterRegistration? name _ r.registrations with _ | ⟨old, altered⟩ <;> rfl

/-- Registering a command alters the registration of its name, or adds one at the end. -/
theorem insert_registrations (r : Registry) (command : Command) :
    (r.insert command).1.registrations =
      alterIfListed command.name (fun entry => some { entry with command }) r.registrations ++
        if command.name ∈ r.names then [] else [⟨command, true⟩] := by
  unfold insert alterIfListed
  dsimp only
  rcases halter : alterRegistration? command.name _ r.registrations with _ | ⟨old, altered⟩
  · have hunlisted : command.name ∉ r.names := alterRegistration?_eq_none.mp halter
    simp [hunlisted]
  · obtain ⟨hold, front, back, hsplit, -, -⟩ := alterRegistration?_eq_some halter
    have hlisted : command.name ∈ r.names := by
      rw [names, hsplit]
      simp [hold]
    simp [hlisted]

/-- Enabling or disabling a command sets the flag under its name. -/
theorem find?_setEnabled {r : Registry} (hdistinct : r.names.Nodup) (key : String) (enabled : Bool)
    (name : String) : (r.setEnabled key enabled).1.find? name =
      if key = name then (r.find? name).map fun entry => { entry with enabled }
      else r.find? name := by
  rw [find?, setEnabled_registrations, find?_alterIfListed hdistinct fun old entry hold hnew => by
    cases hnew; exact hold]
  split
  · rename_i hkey
    subst hkey
    exact (Option.map_eq_bind ..).symm
  · rfl

/-- Registering a command puts it under its name. -/
theorem find?_insert {r : Registry} (hdistinct : r.names.Nodup) (command : Command)
    (name : String) : (r.insert command).1.find? name =
      if command.name = name then RegistryCall.update (.insert command) (r.find? name)
      else r.find? name := by
  rw [find?, insert_registrations, List.find?_append,
    find?_alterIfListed hdistinct fun old entry _ hnew => by cases hnew; rfl]
  split
  · rename_i hkey
    subst hkey
    cases hold : r.find? command.name with
    | some old =>
      rw [find?] at hold
      rw [hold]
      rfl
    | none =>
      have hunlisted : command.name ∉ r.names := by rw [mem_names, hold]; exact Bool.noConfusion
      rw [find?] at hold
      rw [hold, if_neg hunlisted]
      simp [RegistryCall.update]
  · rename_i hkey
    have hother : List.find? (fun entry => entry.command.name == name)
        (if command.name ∈ r.names then [] else [(⟨command, true⟩ : Registration)]) = none := by
      split <;> simp [hkey]
    rw [hother, Option.or_none]
    rfl

/-- What a call leaves under its name follows from what was there, and other names keep what they
have. -/
theorem find?_apply {r : Registry} (hdistinct : r.names.Nodup) (call : RegistryCall)
    (name : String) :
    (r.apply call).find? name =
      if call.name = name then call.update (r.find? name) else r.find? name := by
  cases call with
  | insert command => exact find?_insert hdistinct command name
  | remove key =>
    rw [apply, find?, remove_registrations,
      find?_alterIfListed hdistinct fun old entry _ hnew => by cases hnew]
    simp only [Option.bind_fun_none]
    rfl
  | enable key => exact find?_setEnabled hdistinct key true name
  | disable key => exact find?_setEnabled hdistinct key false name

/-- The names after a call follow from those before it. -/
theorem names_apply {r : Registry} (hdistinct : r.names.Nodup) (call : RegistryCall) :
    (r.apply call).names = call.order r.names := by
  cases call with
  | insert command =>
    rw [apply, names, insert_registrations, List.map_append, names_alterIfListed,
      RegistryCall.order]
    · split
      · exact List.append_nil _
      · rfl
    · exact fun old _ => ⟨_, rfl, rfl⟩
  | remove name =>
    rw [apply, names, remove_registrations, names_dropped hdistinct]
    rfl
  | enable name =>
    rw [apply, names, setEnabled_registrations, names_alterIfListed]
    · rfl
    · exact fun old hold => ⟨_, rfl, hold⟩
  | disable name =>
    rw [apply, names, setEnabled_registrations, names_alterIfListed]
    · rfl
    · exact fun old hold => ⟨_, rfl, hold⟩

end Registry

/-! ### Positions in a history -/

/-- Whether the call at a position of a history registers a command under a name. -/
def RegisteredAt (calls : List RegistryCall) (name : String) (command : Command) (i : Nat) : Prop :=
  calls[i]? = some (.insert command) ∧ command.name = name

/-- Whether a name is present after a history: it was registered and not removed since. -/
def PresentAfter (calls : List RegistryCall) (name : String) : Prop :=
  ∃ i command, RegisteredAt calls name command i ∧
    ∀ j, i < j → calls[j]? ≠ some (.remove name)

/-- The position of the latest call that registered a name while it was absent. -/
structure EnteredAt (calls : List RegistryCall) (name : String) (i : Nat) : Prop where
  /-- The call registers the name. -/
  registered : ∃ command, RegisteredAt calls name command i
  /-- The name was absent before it. -/
  absent : ¬ PresentAfter (calls.take i) name
  /-- Whenever the name is registered later, it is present. -/
  latest : ∀ j command, i < j → RegisteredAt calls name command j →
    PresentAfter (calls.take j) name

/-- The position of the last call that registered a name, which was not removed since, and its
command. -/
structure HeldSince (calls : List RegistryCall) (name : String) (command : Command) (i : Nat) :
    Prop where
  /-- The call registers the command under the name. -/
  registered : RegisteredAt calls name command i
  /-- No later call registers the name. -/
  last : ∀ j other, i < j → ¬ RegisteredAt calls name other j
  /-- No later call removes the name. -/
  kept : ∀ j, i < j → calls[j]? ≠ some (.remove name)

/-- Whether a name was disabled after a position and after it was last enabled. -/
def DisabledSince (calls : List RegistryCall) (name : String) (i : Nat) : Prop :=
  ∃ k, calls[k]? = some (.disable name) ∧ i < k ∧
    ∀ j, calls[j]? = some (.enable name) → j < k

/-- A position of a longer history is one of the history before or the last one. -/
theorem getElem?_snoc {α : Type} {items : List α} {last x : α} {i : Nat} :
    (items ++ [last])[i]? = some x ↔ items[i]? = some x ∨ (i = items.length ∧ last = x) := by
  rw [List.getElem?_append]
  split
  · rename_i hlt
    simp [Nat.ne_of_lt hlt]
  · rename_i hge
    rw [List.getElem?_eq_none (Nat.le_of_not_lt hge), List.getElem?_singleton]
    have : i - items.length = 0 ↔ i = items.length := by omega
    simp [this]

/-- A position that has a call is one of the history. -/
theorem lt_length_of_getElem? {α : Type} {items : List α} {x : α} {i : Nat}
    (h : items[i]? = some x) : i < items.length := by
  obtain ⟨hlt, -⟩ := List.getElem?_eq_some_iff.mp h
  exact hlt

/-- The positions of a longer history go up to the length of the one before. -/
theorem le_length_of_snoc {α : Type} {items : List α} {last x : α} {i : Nat}
    (h : (items ++ [last])[i]? = some x) : i ≤ items.length := by
  rcases getElem?_snoc.mp h with hbefore | ⟨rfl, -⟩
  · exact Nat.le_of_lt (lt_length_of_getElem? hbefore)
  · exact Nat.le_refl _

section Snoc

variable {calls : List RegistryCall} {call : RegistryCall} {name : String} {command : Command}
  {i : Nat}

/-- A call registers a name in a longer history if it did before or is the last one. -/
theorem registeredAt_snoc : RegisteredAt (calls ++ [call]) name command i ↔
    RegisteredAt calls name command i ∨
      (i = calls.length ∧ call = .insert command ∧ command.name = name) := by
  rw [RegisteredAt, getElem?_snoc, RegisteredAt]
  grind

/-- A name is present after a call that registers it, and after one that does not remove it if it
was present before. -/
theorem presentAfter_snoc : PresentAfter (calls ++ [call]) name ↔
    (∃ command, call = .insert command ∧ command.name = name) ∨
      (PresentAfter calls name ∧ call ≠ .remove name) := by
  constructor
  · rintro ⟨i, command, hregistered, hkept⟩
    rcases registeredAt_snoc.mp hregistered with hbefore | ⟨-, hcall, hname⟩
    · refine .inr ⟨⟨i, command, hbefore, fun j hj hremove => ?_⟩, fun hcall => ?_⟩
      · exact hkept j hj (getElem?_snoc.mpr (.inl hremove))
      · exact hkept calls.length (lt_length_of_getElem? hbefore.1)
          (getElem?_snoc.mpr (.inr ⟨rfl, hcall⟩))
    · exact .inl ⟨command, hcall, hname⟩
  · rintro (⟨command, hcall, hname⟩ | ⟨⟨i, command, hregistered, hkept⟩, hcall⟩)
    · refine ⟨calls.length, command, registeredAt_snoc.mpr (.inr ⟨rfl, hcall, hname⟩),
        fun j hj hremove => ?_⟩
      exact Nat.not_le_of_lt hj (le_length_of_snoc hremove)
    · refine ⟨i, command, registeredAt_snoc.mpr (.inl hregistered), fun j hj hremove => ?_⟩
      rcases getElem?_snoc.mp hremove with hbefore | ⟨-, hlast⟩
      · exact hkept j hj hbefore
      · exact hcall hlast

/-- A name that enters keeps its position, unless a call registers it while it is absent. -/
theorem EnteredAt.snoc (h : EnteredAt calls name i)
    (hcall : ∀ command, call = .insert command → command.name = name → PresentAfter calls name) :
    EnteredAt (calls ++ [call]) name i := by
  obtain ⟨command, hregistered⟩ := h.registered
  refine ⟨⟨command, registeredAt_snoc.mpr (.inl hregistered)⟩, ?_, fun j other hj hother => ?_⟩
  · rw [List.take_append_of_le_length (Nat.le_of_lt (lt_length_of_getElem? hregistered.1))]
    exact h.absent
  · rcases registeredAt_snoc.mp hother with hbefore | ⟨rfl, hinsert, hname⟩
    · rw [List.take_append_of_le_length (Nat.le_of_lt (lt_length_of_getElem? hbefore.1))]
      exact h.latest j other hj hbefore
    · rw [List.take_left']
      · exact hcall other hinsert hname
      · rfl

/-- A name that is registered while it is absent enters then. -/
theorem enteredAt_length (h : ¬ PresentAfter calls command.name) :
    EnteredAt (calls ++ [.insert command]) command.name calls.length := by
  refine ⟨⟨command, registeredAt_snoc.mpr (.inr ⟨rfl, rfl, rfl⟩)⟩, ?_, fun j other hj hother => ?_⟩
  · rw [List.take_left']
    · exact h
    · rfl
  · exact absurd (le_length_of_snoc hother.1) (Nat.not_le_of_lt hj)

/-- A command is held over a call that neither registers nor removes its name. -/
theorem HeldSince.snoc (h : HeldSince calls name command i)
    (hinsert : ∀ other, call = .insert other → other.name ≠ name) (hremove : call ≠ .remove name) :
    HeldSince (calls ++ [call]) name command i := by
  refine ⟨registeredAt_snoc.mpr (.inl h.registered), fun j other hj hother => ?_,
    fun j hj hcall => ?_⟩
  · rcases registeredAt_snoc.mp hother with hbefore | ⟨-, hcall, hname⟩
    · exact h.last j other hj hbefore
    · exact hinsert other hcall hname
  · rcases getElem?_snoc.mp hcall with hbefore | ⟨-, hlast⟩
    · exact h.kept j hj hbefore
    · exact hremove hlast

/-- A command is held from the call that registers it. -/
theorem heldSince_length :
    HeldSince (calls ++ [.insert command]) command.name command calls.length where
  registered := registeredAt_snoc.mpr (.inr ⟨rfl, rfl, rfl⟩)
  last _ _ hj hother := Nat.not_le_of_lt hj (le_length_of_snoc hother.1)
  kept _ hj hremove := Nat.not_le_of_lt hj (le_length_of_snoc hremove)

/-- A call that neither enables nor disables a name leaves it as it was. -/
theorem disabledSince_snoc (hi : i < calls.length) : DisabledSince (calls ++ [call]) name i ↔
    call = .disable name ∨ (DisabledSince calls name i ∧ call ≠ .enable name) := by
  constructor
  · rintro ⟨k, hdisable, hik, henable⟩
    rcases getElem?_snoc.mp hdisable with hbefore | ⟨-, hlast⟩
    · refine .inr ⟨⟨k, hbefore, hik, fun j hj => henable j (getElem?_snoc.mpr (.inl hj))⟩,
        fun hcall => ?_⟩
      have hlast := henable calls.length (getElem?_snoc.mpr (.inr ⟨rfl, hcall⟩))
      have := lt_length_of_getElem? hbefore
      omega
    · exact .inl hlast
  · rintro (rfl | ⟨⟨k, hdisable, hik, henable⟩, hcall⟩)
    · refine ⟨calls.length, getElem?_snoc.mpr (.inr ⟨rfl, rfl⟩), hi, fun j hj => ?_⟩
      rcases getElem?_snoc.mp hj with hbefore | ⟨-, hlast⟩
      · exact lt_length_of_getElem? hbefore
      · cases hlast
    · refine ⟨k, getElem?_snoc.mpr (.inl hdisable), hik, fun j hj => ?_⟩
      rcases getElem?_snoc.mp hj with hbefore | ⟨-, hlast⟩
      · exact henable j hbefore
      · exact absurd hlast hcall

end Snoc

/-! ### What a registry remembers of a history -/

/-- Whether a history explains what is registered under a name. -/
def Explains (calls : List RegistryCall) (name : String) : Option Registration → Prop
  | none => ¬ PresentAfter calls name
  | some entry => ∃ i j, EnteredAt calls name i ∧ HeldSince calls name entry.command j ∧
      (entry.enabled = true ↔ ¬ DisabledSince calls name i)

/-- A command that is held is present. -/
theorem HeldSince.present {calls : List RegistryCall} {name : String} {command : Command} {i : Nat}
    (h : HeldSince calls name command i) : PresentAfter calls name :=
  ⟨i, command, h.registered, h.kept⟩

/-- A name that is absent stays so until a call registers it. -/
theorem absent_snoc {calls : List RegistryCall} {call : RegistryCall} {name : String}
    (h : ¬ PresentAfter calls name)
    (hinsert : ∀ command, call = .insert command → command.name ≠ name) :
    ¬ PresentAfter (calls ++ [call]) name := by
  intro hpresent
  rcases presentAfter_snoc.mp hpresent with ⟨command, hcall, hname⟩ | ⟨hbefore, -⟩
  · exact hinsert command hcall hname
  · exact h hbefore

/-- A call that neither registers nor removes a name can only enable or disable it. -/
theorem explains_kept {calls : List RegistryCall} {name : String} {entry : Registration}
    (h : Explains calls name (some entry)) (call : RegistryCall)
    (hinsert : ∀ command, call = .insert command → command.name ≠ name)
    (hremove : call ≠ .remove name) {enabled : Bool}
    (henabled : enabled = true ↔
      call ≠ .disable name ∧ (entry.enabled = true ∨ call = .enable name)) :
    Explains (calls ++ [call]) name (some { entry with enabled }) := by
  obtain ⟨i, j, hentered, hheld, hbefore⟩ := h
  obtain ⟨_, hregistered⟩ := hentered.registered
  refine ⟨i, j, hentered.snoc fun command hcall hname => absurd hname (hinsert command hcall),
    hheld.snoc hinsert hremove, ?_⟩
  rw [disabledSince_snoc (lt_length_of_getElem? hregistered.1), henabled, hbefore]
  tauto

/-- A history with one more call explains what the call leaves. -/
theorem explains_snoc {calls : List RegistryCall} {name : String} {state : Option Registration}
    (h : Explains calls name state) (call : RegistryCall) :
    Explains (calls ++ [call]) name (if call.name = name then call.update state else state) := by
  split
  · rename_i hname
    subst hname
    cases call with
    | insert command =>
      cases state with
      | none =>
        refine ⟨calls.length, calls.length, enteredAt_length h, heldSince_length,
          iff_of_true rfl ?_⟩
        rintro ⟨k, hdisable, hk, -⟩
        exact Nat.not_le_of_lt hk (le_length_of_snoc hdisable)
      | some entry =>
        -- The place and the flag stay, and the command is the new one.
        obtain ⟨i, j, hentered, hheld, henabled⟩ := h
        obtain ⟨_, hregistered⟩ := hentered.registered
        refine ⟨i, calls.length, hentered.snoc fun _ _ _ => hheld.present, heldSince_length, ?_⟩
        rw [disabledSince_snoc (lt_length_of_getElem? hregistered.1)]
        simpa [RegistryCall.update] using henabled
    | remove key =>
      intro hpresent
      rcases presentAfter_snoc.mp hpresent with ⟨_, hcall, -⟩ | ⟨-, hcall⟩
      · cases hcall
      · exact hcall rfl
    | enable key =>
      cases state with
      | none => exact absent_snoc h fun _ hcall => nomatch hcall
      | some entry =>
        refine explains_kept h (.enable key) (fun _ hcall => nomatch hcall)
          (fun hcall => nomatch hcall) ?_
        simp [RegistryCall.name]
    | disable key =>
      cases state with
      | none => exact absent_snoc h fun _ hcall => nomatch hcall
      | some entry =>
        refine explains_kept h (.disable key) (fun _ hcall => nomatch hcall)
          (fun hcall => nomatch hcall) ?_
        simp [RegistryCall.name]
  · rename_i hname
    have hinsert : ∀ command, call = .insert command → command.name ≠ name := by
      rintro command rfl
      exact hname
    cases state with
    | none => exact absent_snoc h hinsert
    | some entry =>
      have hother : ∀ other : RegistryCall, other.name = name → call ≠ other := by
        rintro other hother rfl
        exact hname hother
      refine explains_kept h call hinsert (hother _ rfl) ?_
      simp [hother (.disable name) rfl, hother (.enable name) rfl]

/-- The names of a registry stay distinct. -/
theorem order_nodup {names : List String} (h : names.Nodup) (call : RegistryCall) :
    (call.order names).Nodup := by
  cases call with
  | insert command =>
    rw [RegistryCall.order]
    split
    · exact h
    · rename_i hnew
      refine List.nodup_append.mpr ⟨h, List.pairwise_singleton _ _, ?_⟩
      exact fun name hname other hother heq =>
        hnew (List.mem_singleton.mp hother ▸ heq ▸ hname)
  | remove name => exact h.filter _
  | enable name => exact h
  | disable name => exact h

/-- After every history the names are distinct. -/
theorem names_nodup (calls : List RegistryCall) : (Registry.after calls).names.Nodup := by
  induction calls using List.reverseRecOn with
  | nil => exact List.nodup_nil
  | append_singleton calls call ih =>
    rw [Registry.after_snoc, Registry.names_apply ih]
    exact order_nodup ih call

/-- Every history explains what is registered after it. -/
theorem explains_after (calls : List RegistryCall) (name : String) :
    Explains calls name ((Registry.after calls).find? name) := by
  induction calls using List.reverseRecOn with
  | nil =>
    rintro ⟨i, command, hregistered, -⟩
    exact absurd hregistered.1 (by simp)
  | append_singleton calls call ih =>
    rw [Registry.after_snoc, Registry.find?_apply (names_nodup calls)]
    exact explains_snoc ih call

/-- A name that was registered is present at the end of the history that explains it. -/
theorem present_iff_isSome {calls : List RegistryCall} {name : String}
    {state : Option Registration} (h : Explains calls name state) :
    PresentAfter calls name ↔ state.isSome = true := by
  cases state with
  | none => exact iff_of_false h Bool.noConfusion
  | some entry =>
    obtain ⟨_, _, -, hheld, -⟩ := h
    exact iff_of_true hheld.present rfl

/-- A name enters at one position only. -/
theorem EnteredAt.unique {calls : List RegistryCall} {name : String} {i j : Nat}
    (hi : EnteredAt calls name i) (hj : EnteredAt calls name j) : i = j := by
  obtain ⟨first, hfirst⟩ := hi.registered
  obtain ⟨second, hsecond⟩ := hj.registered
  rcases Nat.lt_trichotomy i j with hlt | heq | hgt
  · exact absurd (hi.latest j second hlt hsecond) hj.absent
  · exact heq
  · exact absurd (hj.latest i first hgt hfirst) hi.absent

/-- One command at most is held under a name. -/
theorem HeldSince.unique {calls : List RegistryCall} {name : String} {first second : Command}
    {i j : Nat} (hi : HeldSince calls name first i) (hj : HeldSince calls name second j) :
    first = second := by
  rcases Nat.lt_trichotomy i j with hlt | rfl | hgt
  · exact absurd hj.registered (hi.last j second hlt)
  · have hsame := hi.registered.1.symm.trans hj.registered.1
    cases hsame
    rfl
  · exact absurd hi.registered (hj.last i first hgt)

/-- Whether a name entered before another one. -/
def EnteredBefore (calls : List RegistryCall) (first second : String) : Prop :=
  ∃ i j, i < j ∧ EnteredAt calls first i ∧ EnteredAt calls second j

/-- A call keeps names in the order in which they entered. -/
theorem ordered_snoc {calls : List RegistryCall} {names : List String}
    (hordered : names.Pairwise (EnteredBefore calls))
    (hpresent : ∀ name, name ∈ names ↔ PresentAfter calls name)
    (hentered : ∀ name ∈ names, ∃ i, EnteredAt calls name i) (call : RegistryCall) :
    (call.order names).Pairwise (EnteredBefore (calls ++ [call])) := by
  have hold : names.Pairwise (EnteredBefore (calls ++ [call])) := by
    refine hordered.imp_of_mem fun {first second} hfirst hsecond hbefore => ?_
    obtain ⟨i, j, hlt, hi, hj⟩ := hbefore
    exact ⟨i, j, hlt, hi.snoc fun _ _ _ => (hpresent first).mp hfirst,
      hj.snoc fun _ _ _ => (hpresent second).mp hsecond⟩
  cases call with
  | insert command =>
    rw [RegistryCall.order]
    split
    · exact hold
    · rename_i hnew
      refine List.pairwise_append.mpr ⟨hold, List.pairwise_singleton _ _, ?_⟩
      intro first hfirst second hsecond
      cases List.mem_singleton.mp hsecond
      obtain ⟨i, hi⟩ := hentered first hfirst
      obtain ⟨_, hregistered⟩ := hi.registered
      exact ⟨i, calls.length, lt_length_of_getElem? hregistered.1,
        hi.snoc fun _ _ _ => (hpresent first).mp hfirst,
        enteredAt_length fun habsent => hnew ((hpresent _).mpr habsent)⟩
  | remove name => exact hold.filter _
  | enable name => exact hold
  | disable name => exact hold

/-- A name is listed exactly when the history leaves it present. -/
theorem mem_names_after (calls : List RegistryCall) (name : String) :
    name ∈ (Registry.after calls).names ↔ PresentAfter calls name :=
  Registry.mem_names.trans (present_iff_isSome (explains_after calls name)).symm

/-- After every history the names stand in the order in which they entered. -/
theorem names_ordered (calls : List RegistryCall) :
    (Registry.after calls).names.Pairwise (EnteredBefore calls) := by
  induction calls using List.reverseRecOn with
  | nil => exact List.Pairwise.nil
  | append_singleton calls call ih =>
    rw [Registry.after_snoc, Registry.names_apply (names_nodup calls)]
    refine ordered_snoc ih (mem_names_after calls) (fun name hname => ?_) call
    obtain ⟨entry, hentry⟩ := Option.isSome_iff_exists.mp (Registry.mem_names.mp hname)
    have hexplains := explains_after calls name
    rw [hentry] at hexplains
    obtain ⟨i, _, hentered, -⟩ := hexplains
    exact ⟨i, hentered⟩

/-- What a registry has to be after a history. -/
structure Registry.Follows (r : Registry) (calls : List RegistryCall) : Prop where
  /-- No two names are equal. -/
  distinct : r.names.Nodup
  /-- The names are those that were registered and not removed since. -/
  present : ∀ name, name ∈ r.names ↔ PresentAfter calls name
  /-- They stand in the order in which they were last registered while absent. -/
  ordered : r.names.Pairwise (EnteredBefore calls)
  /-- The command of a name is the one registered last, if it was not removed since. -/
  held : ∀ name command, r.get? name = some command ↔ ∃ i, HeldSince calls name command i
  /-- A name is enabled unless it was disabled after it entered and after it was last enabled. -/
  enabled : ∀ name, r.isEnabled name = true ↔
    PresentAfter calls name ∧ ∃ i, EnteredAt calls name i ∧ ¬ DisabledSince calls name i

/-- What a call leaves as it was. -/
structure Registry.Spares (r : Registry) (call : RegistryCall) : Prop where
  /-- Other names keep their commands. -/
  commands : ∀ name ≠ call.name, (r.apply call).get? name = r.get? name
  /-- Other names stay enabled or disabled. -/
  flags : ∀ name ≠ call.name, (r.apply call).isEnabled name = r.isEnabled name
  /-- Other names keep their order. -/
  order : (r.apply call).names.filter (· ≠ call.name) = r.names.filter (· ≠ call.name)

/-- What the calls answer. -/
structure Registry.Answers (r : Registry) : Prop where
  /-- A name has a command exactly when it is listed. -/
  found : ∀ name, (r.get? name).isSome = true ↔ name ∈ r.names
  /-- Registering a command answers with the one it replaces. -/
  inserted : ∀ command, (r.insert command).2 = r.get? command.name
  /-- Removing a name answers with the command it had. -/
  removed : ∀ name, (r.remove name).2 = r.get? name
  /-- Enabling and disabling a name answer whether it is listed. -/
  switched : ∀ name enabled, (r.setEnabled name enabled).2 = true ↔ name ∈ r.names
  /-- Where a name is not listed, enabling and disabling it change nothing. -/
  ignored : ∀ name enabled, name ∉ r.names → (r.setEnabled name enabled).1 = r

/-- A registry without repeated names spares the names that a call is not about. -/
theorem spares_of_nodup {r : Registry} (hdistinct : r.names.Nodup) (call : RegistryCall) :
    r.Spares call := by
  have hfind : ∀ name ≠ call.name, (r.apply call).find? name = r.find? name := by
    intro name hname
    rw [Registry.find?_apply hdistinct, if_neg hname.symm]
  refine ⟨fun name hname => ?_, fun name hname => ?_, ?_⟩
  · rw [Registry.get?, hfind name hname, Registry.get?]
  · have hafter : (r.apply call).names.Nodup := by
      rw [Registry.names_apply hdistinct]
      exact order_nodup hdistinct call
    rw [Registry.isEnabled_eq_find? hafter, hfind name hname, Registry.isEnabled_eq_find? hdistinct]
  · rw [Registry.names_apply hdistinct]
    cases call with
    | insert command =>
      rw [RegistryCall.order, RegistryCall.name]
      split
      · rfl
      · simp
    | remove name =>
      rw [RegistryCall.order, RegistryCall.name, List.filter_filter]
      simp only [Bool.and_self]
    | enable name => rfl
    | disable name => rfl

/-- Every registry answers by what is registered. -/
theorem answers (r : Registry) : r.Answers := by
  have hfind : ∀ {name change old altered},
      alterRegistration? name change r.registrations = some (old, altered) →
        name ∈ r.names ∧ r.get? name = some old.command := by
    intro name change old altered halter
    obtain ⟨hold, front, back, hsplit, -, hfront⟩ := alterRegistration?_eq_some halter
    constructor
    · rw [Registry.names, hsplit]
      simp [hold]
    · rw [Registry.get?, Registry.find?, hsplit, find?_behind hold hfront]
      rfl
  have hnone : ∀ {name change}, alterRegistration? name change r.registrations = none →
      name ∉ r.names ∧ r.get? name = none := by
    intro name change halter
    have hunlisted := alterRegistration?_eq_none.mp halter
    refine ⟨hunlisted, ?_⟩
    rw [Registry.get?, Registry.find?, find?_eq_none_of_unlisted hunlisted]
    rfl
  refine ⟨fun name => ?_, fun command => ?_, fun name => ?_, fun name enabled => ?_,
    fun name enabled hname => ?_⟩
  · rw [Registry.mem_names, Registry.get?, Option.isSome_map]
  · unfold Registry.insert
    dsimp only
    split <;> rename_i halter
    · exact (hfind halter).2.symm
    · exact (hnone halter).2.symm
  · unfold Registry.remove
    split <;> rename_i halter
    · exact (hfind halter).2.symm
    · exact (hnone halter).2.symm
  · unfold Registry.setEnabled
    split <;> rename_i halter
    · exact iff_of_true rfl (hfind halter).1
    · exact iff_of_false Bool.noConfusion (hnone halter).1
  · unfold Registry.setEnabled
    split <;> rename_i halter
    · exact absurd (hfind halter).1 hname
    · rfl

/-- After every history of calls a registry holds what the history says. One more call changes
nothing about other names, and answers by what was there. -/
theorem after_follows (calls : List RegistryCall) :
    (Registry.after calls).Follows calls ∧
      (∀ call, (Registry.after calls).Spares call) ∧ (Registry.after calls).Answers := by
  refine ⟨⟨names_nodup calls, mem_names_after calls, names_ordered calls, fun name command => ?_,
    fun name => ?_⟩, spares_of_nodup (names_nodup calls), answers _⟩
  · have hexplains := explains_after calls name
    rw [Registry.get?]
    cases hfound : (Registry.after calls).find? name with
    | none =>
      rw [hfound] at hexplains
      exact iff_of_false (fun h => nomatch h) fun ⟨i, hheld⟩ => hexplains hheld.present
    | some entry =>
      rw [hfound] at hexplains
      obtain ⟨_, j, -, hheld, -⟩ := hexplains
      rw [Option.map_some, Option.some.injEq]
      exact ⟨fun heq => ⟨j, heq ▸ hheld⟩, fun ⟨i, hother⟩ => hheld.unique hother⟩
  · have hexplains := explains_after calls name
    rw [Registry.isEnabled_eq_find? (names_nodup calls)]
    cases hfound : (Registry.after calls).find? name with
    | none =>
      rw [hfound] at hexplains
      exact iff_of_false (fun h => nomatch h) fun ⟨hpresent, _⟩ => hexplains hpresent
    | some entry =>
      rw [hfound] at hexplains
      obtain ⟨i, j, hentered, hheld, henabled⟩ := hexplains
      rw [Option.any_some, henabled]
      constructor
      · exact fun hdisabled => ⟨hheld.present, i, hentered, hdisabled⟩
      · rintro ⟨-, k, hk, hdisabled⟩
        rwa [hentered.unique hk]

end CommandGrammar
