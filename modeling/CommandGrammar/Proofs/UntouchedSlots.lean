import CommandGrammar.Matching.Analysis
import Mathlib.Data.List.Basic

/-!
# Slots that no token is left for

A list of slots without a required one is not filled slot by slot when all input was consumed:
each slot that has a default is given it as it stands. Filling the slots one by one would give a
run without tokens instead, which is the list of the default for a list of values, and an empty
list or map where there is no default.

`fill_eq_fillFrom_iff` says for which lists of slots the two ways agree: those whose runs all go
into maps and have a default. `bare_default` is a run of a command where they do not.
-/

namespace CommandGrammar

/-- The value that a slot has when it is filled without a token: that of a run without tokens, or
the default. -/
def Slot.untouched? (slot : Slot) : Option Value :=
  match slot.strategy with
  | .multi run => some (slot.emptyRun run.mode)
  | .all => some (slot.emptyRun .list)
  | _ => slot.default

/-- Whether filling a slot without a token gives its default as it stands: the slot takes one token
only, or a run into a map for which it has a default. -/
def Slot.KeepsDefault (slot : Slot) : Prop :=
  match slot.strategy with
  | .multi run => run.mode = .map ∧ slot.default.isSome = true
  | .all => False
  | _ => True

/-- No value is the list of itself alone. -/
theorem ne_list_singleton (value : Value) : value ≠ .list [value] := by
  intro h
  have hsize := congrArg sizeOf h
  simp only [Value.list.sizeOf_spec, List.cons.sizeOf_spec, List.nil.sizeOf_spec] at hsize
  omega

/-- A run into a list without tokens is never the default as it stands. -/
theorem emptyRun_list_ne (slot : Slot) : some (slot.emptyRun .list) ≠ slot.default := by
  unfold Slot.emptyRun
  cases slot.default with
  | none => simp
  | some value => exact fun h => ne_list_singleton value (Option.some.inj h).symm

/-- The value without a token is the default for the slots that keep it, and for no others. -/
theorem untouched_eq_default_iff (slot : Slot) :
    slot.untouched? = slot.default ↔ slot.KeepsDefault := by
  unfold Slot.untouched? Slot.KeepsDefault
  split
  · rename_i run _
    cases run.mode with
    | list => simpa using emptyRun_list_ne slot
    | map => cases hdefault : slot.default <;> simp [Slot.emptyRun, hdefault]
  · simpa using emptyRun_list_ne slot
  · simp

section Lookups

variable (given? : Slot → Option Value)

/-- The values of the slots that are given one, under their names. -/
def givenValues (slots : List Slot) : List (String × Value) :=
  slots.filterMap fun slot => (given? slot).map (slot.name, ·)

/-- Values stand under the names of slots. -/
theorem mem_names_givenValues {slots : List Slot} {name : String}
    (h : name ∈ (givenValues given? slots).map Prod.fst) : name ∈ slots.map Slot.name := by
  obtain ⟨entry, hentry, rfl⟩ := List.mem_map.mp h
  obtain ⟨slot, hslot, hgiven⟩ := List.mem_filterMap.mp hentry
  obtain ⟨value, -, rfl⟩ := Option.map_eq_some_iff.mp hgiven
  exact List.mem_map_of_mem hslot

/-- Where no two slots share a name, what is found under a name is what its slot is given. -/
theorem findEntry_givenValues {slots : List Slot} (hdistinct : (slots.map Slot.name).Nodup)
    {slot : Slot} (hslot : slot ∈ slots) :
    findEntry slot.name (givenValues given? slots).reverse = given? slot := by
  induction slots with
  | nil => cases hslot
  | cons first rest ih =>
    obtain ⟨hfirst, hrest⟩ := List.nodup_cons.mp hdistinct
    have hsplit : givenValues given? (first :: rest) =
        ((given? first).map (first.name, ·)).toList ++ givenValues given? rest := by
      unfold givenValues
      cases hgiven : given? first <;> simp [hgiven]
    rw [hsplit, List.reverse_append, findEntry_append]
    rcases List.mem_cons.mp hslot with rfl | hslot
    · have hnone : findEntry slot.name (givenValues given? rest).reverse = none := by
        rw [findEntry_eq_none, List.map_reverse, List.mem_reverse]
        exact fun hname => hfirst (mem_names_givenValues given? hname)
      rw [hnone, Option.none_or]
      cases given? slot <;> simp [findEntry]
    · have hother : first.name ≠ slot.name := fun heq =>
        hfirst (heq ▸ List.mem_map_of_mem hslot)
      rw [ih hrest hslot]
      cases given? first <;> simp [findEntry, hother]

/-- The map of what the slots are given has it under the name of each slot. -/
theorem get?_givenValues (l : SlotList) {slot : Slot} (hslot : slot ∈ l.slots) :
    (NameMap.ofList (givenValues given? l.slots)).get? slot.name = given? slot := by
  rw [NameMap.get?_ofList, findEntry_givenValues given? l.distinct hslot]

end Lookups

/-- Past the last token there is none to read. -/
theorem fetch_of_isExhausted {c : Cursor} (h : c.isExhausted = true) (separator : String) :
    c.fetch separator = none := by
  have hnone : c.segments[c.segment]? = none :=
    List.getElem?_eq_none (by simpa [Cursor.isExhausted] using h)
  simp [Cursor.fetch, hnone]

/-- Without a token a slot that needs none has the value for that, or stays empty. -/
theorem slot_fill_untouched {slot : Slot} (hfree : slot.isRequired = false) (ctx : SlotContext)
    {c : Cursor} (hend : c.fetch ctx.separator = none) :
    slot.fill ctx c = (c, slot.untouched?.elim .empty .filled) := by
  have hunfilled : slot.unfilled none = slot.default.elim .empty .filled := by
    unfold Slot.unfilled
    cases hdefault : slot.default with
    | none =>
      have hoptional : slot.optional = true := by simpa [Slot.isRequired, hdefault] using hfree
      simp [hoptional]
    | some value => rfl
  have hrun (run : Run) : slot.fillRun ctx run c = (c, .filled (slot.emptyRun run.mode)) := by
    unfold Slot.fillRun
    cases run.mode <;> simp [gatherRun, hend, Slot.outcomeOfRun]
  have hrest : slot.fillRest ctx c = (c, .filled (slot.emptyRun .list)) := by
    simp [Slot.fillRest, Cursor.fetchAll_of_none hend, Slot.outcomeOfRun]
  have hone : slot.fillOne ctx c = (c, slot.default.elim .empty .filled) := by
    simp [Slot.fillOne_cases, hend, hunfilled]
  unfold Slot.fill Slot.untouched?
  cases slot.strategy with
  | multi run => exact hrun run
  | all => exact hrest
  | _ => exact hone

/-- Without a token the slots are given the values for that, one after the other. -/
theorem fillFrom_untouched {slots : List Slot} (hfree : ∀ slot ∈ slots, slot.isRequired = false)
    {separator : String} {c : Cursor} (hend : c.fetch separator = none) (keywords : List String)
    (values : SlotValues) :
    SlotList.fillFrom separator keywords slots c values =
      ⟨c,
        (givenValues Slot.untouched? slots).foldl (fun m entry => m.insert entry.1 entry.2) values,
        none⟩ := by
  induction slots generalizing values with
  | nil => rfl
  | cons slot rest ih =>
    have hrest := ih fun other hother => hfree other (List.mem_cons_of_mem _ hother)
    have hslot := slot_fill_untouched (hfree slot List.mem_cons_self)
      ⟨separator, keywords, rest.countP Slot.isRequired⟩ hend
    rw [SlotList.fillFrom_cons, hslot]
    cases hvalue : slot.untouched? with
    | none => simpa [givenValues, hvalue] using hrest values
    | some value => simpa [givenValues, hvalue] using hrest (values.insert slot.name value)

/-- When all input was consumed and no slot is required, the slots have their defaults as they
stand. Filling them one by one gives each the value that it has without a token, and gives the same
exactly when every slot keeps its default. -/
theorem fill_eq_fillFrom_iff (l : SlotList) (hfree : l.needsInput = false) {c : Cursor}
    (hend : c.isExhausted = true) (separator : String) (keywords : List String) :
    (∀ slot ∈ l.slots,
      (l.fill separator keywords c).values.get? slot.name = slot.default ∧
      (SlotList.fillFrom separator keywords l.slots c .empty).values.get? slot.name =
        slot.untouched?) ∧
    (l.fill separator keywords c = SlotList.fillFrom separator keywords l.slots c .empty ↔
      ∀ slot ∈ l.slots, slot.KeepsDefault) := by
  have hslots : ∀ slot ∈ l.slots, slot.isRequired = false := by
    simpa [SlotList.needsInput] using hfree
  have hfill : l.fill separator keywords c =
      ⟨c, .ofList (givenValues Slot.default l.slots), none⟩ := by
    simp [SlotList.fill, hfree, hend, SlotList.defaults, givenValues]
  have hfillFrom : SlotList.fillFrom separator keywords l.slots c .empty =
      ⟨c, .ofList (givenValues Slot.untouched? l.slots), none⟩ :=
    fillFrom_untouched hslots (fetch_of_isExhausted hend separator) keywords .empty
  rw [hfill, hfillFrom]
  refine ⟨fun slot hslot => ⟨get?_givenValues _ l hslot, get?_givenValues _ l hslot⟩,
    fun h slot hslot => ?_, fun h => ?_⟩
  · rw [← untouched_eq_default_iff, ← get?_givenValues Slot.untouched? l hslot,
      ← get?_givenValues Slot.default l hslot]
    exact congrArg (fun filling : Filling => filling.values.get? slot.name) h.symm
  · have hsame : givenValues Slot.default l.slots = givenValues Slot.untouched? l.slots :=
      List.filterMap_congr fun slot hslot => by
        rw [(untouched_eq_default_iff slot).mpr (h slot hslot)]
    rw [hsame]

/-- The pattern of whole numbers. -/
def wholePattern : Pattern := (Pattern.common? "int").get (by decide +kernel)

/-- Slots that need no token: one with a default, one for settings, and one that may stay empty. -/
def settingSlots : SlotList :=
  (SlotList.ofSlots [
    ⟨"who", .any, some (.string "all"), false⟩,
    ⟨"settings", .multi ⟨wholePattern, .map⟩, some (.map []), false⟩,
    ⟨"limit", .pattern wholePattern, none, true⟩]).toOption.get (by decide +kernel)

/-- Without a token the settings are as the default has them, whichever way the slots are filled. -/
theorem fill_eq_fillFrom_settings :
    settingSlots.needsInput = false ∧ Cursor.empty.isExhausted = true ∧
      settingSlots.fill " " [] .empty =
        SlotList.fillFrom " " [] settingSlots.slots .empty .empty := by
  have hfree : settingSlots.needsInput = false := by decide +kernel
  have hend : Cursor.empty.isExhausted = true := by decide
  have hkeeps : ∀ slot ∈ settingSlots.slots, slot.KeepsDefault := by
    intro slot hslot
    rcases List.mem_cons.mp hslot with rfl | hslot
    · trivial
    · rcases List.mem_cons.mp hslot with rfl | hslot
      · exact ⟨rfl, rfl⟩
      · exact List.mem_singleton.mp hslot ▸ trivial
  exact ⟨hfree, hend, (fill_eq_fillFrom_iff settingSlots hfree hend " " []).2.mpr hkeeps⟩

/-- A command that takes some whole numbers, or none for the default. -/
def countCommand : Command :=
  (Command.ofConfig { CommandConfig.ofName "count" with
    args := (SlotList.ofSlots [
      ⟨"numbers", .multi ⟨wholePattern, .list⟩, some (.int 0), false⟩]).toOption.get
        (by decide +kernel) }).toOption.get (by decide +kernel)

/-- A run of a command that is given no number has the default as it stands, and not the list of
it that a run without tokens is. -/
theorem bare_default :
    let slots := countCommand.config.args
    let c : Cursor := ⟨[.text ["count"] " "], 1, 0⟩
    slots.needsInput = false ∧ c.isExhausted = true ∧
      (SlotList.fillFrom " " countCommand.keywords slots.slots c .empty).values.get? "numbers" =
        some (.list [.int 0]) ∧
      (slots.fill " " countCommand.keywords c).values.get? "numbers" = some (.int 0) ∧
      (countCommand.run (.text "count")).mainArgs.get? "numbers" = some (.int 0) :=
  ⟨by decide +kernel, by decide, by rfl, by rfl, by rfl⟩

end CommandGrammar
