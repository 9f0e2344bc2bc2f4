import CommandGrammar.Proofs.TreeReading

/-!
# Trees with sorted fields

A tree that a program holds has the fields of every object sorted by name, each name once, and
numbers that a reader can have made: integers that sixty-four bits hold with or without a sign, and
doubles that are finite. `Json.Held` says this of a tree.

Sorting the fields of such a tree changes nothing, and neither does writing it as a draft and
reading the draft. Of any object, sorting keeps what is found under each name.
-/

namespace CommandGrammar

/-! ### Entries of one form -/

section Entries

variable {α β : Type}

/-- What is found after every value was changed is what was found before, changed. -/
theorem findEntry_map (f : α → β) (name : String) (entries : List (String × α)) :
    findEntry name (entries.map fun entry => (entry.1, f entry.2)) =
      (findEntry name entries).map f := by
  induction entries with
  | nil => rfl
  | cons head rest ih =>
    simp only [List.map_cons, findEntry]
    split
    · rfl
    · exact ih

/-- Changing values keeps entries sorted. -/
theorem sortedEntries_map {entries : List (String × α)} (h : SortedEntries entries) (f : α → β) :
    SortedEntries (entries.map fun entry => (entry.1, f entry.2)) :=
  List.pairwise_map.mpr h

/-- Sorted entries are made of themselves, every value changed. -/
theorem KeepsLast.eq_map {f : α → β} {make : List (String × α) → List (String × β)}
    (h : KeepsLast f make) {entries : List (String × α)} (hsorted : SortedEntries entries) :
    make entries = entries.map fun entry => (entry.1, f entry.2) := by
  refine sortedEntries_ext (h.sorted entries) (sortedEntries_map hsorted f) fun name => ?_
  rw [h.find, findEntry_reverse hsorted, findEntry_map]

/-- Names that differ are all listed by the entries made of them. -/
theorem KeepsLast.names {f : α → β} {make : List (String × α) → List (String × β)}
    (h : KeepsLast f make) (entries : List (String × α)) (name : String) :
    name ∈ (make entries).map Prod.fst ↔ name ∈ entries.map Prod.fst := by
  rw [← findEntry_isSome, ← List.mem_reverse, ← List.map_reverse, ← findEntry_isSome, h.find,
    Option.isSome_map]

end Entries

/-! ### Trees that a program holds -/

/-- Whether a program can hold a tree: fields are sorted and numbers are in range. -/
inductive Json.Held : Json → Prop
  /-- The value `null`. -/
  | null : Held .null
  /-- A boolean. -/
  | bool (b : Bool) : Held (.bool b)
  /-- An integer that sixty-four bits hold, with a sign or without. -/
  | integer {n : Int} (lower : -0x8000000000000000 ≤ n) (upper : n < 0x10000000000000000) :
      Held (.number (.integer n))
  /-- A double that is finite. -/
  | float {x : Binary64} (finite : x.isFinite = true) : Held (.number (.float x))
  /-- A text. -/
  | string (s : String) : Held (.string s)
  /-- A sequence of such trees. -/
  | array {items : List Json} (held : ∀ item ∈ items, Held item) : Held (.array items)
  /-- Such trees under sorted names. -/
  | object {fields : List (String × Json)} (sorted : SortedEntries fields)
      (held : ∀ field ∈ fields, Held field.2) : Held (.object fields)

/-- A list is unchanged by a function that changes none of its items. -/
theorem map_eq_self {α : Type} {f : α → α} {items : List α} (h : ∀ item ∈ items, f item = item) :
    items.map f = items := by
  rw [List.map_congr_left h, List.map_id']

namespace Json

/-- The items of a sequence are sorted one by one. -/
theorem sortItems_eq (items : List Json) : sortItems items = items.map sortFields := by
  induction items with
  | nil => rfl
  | cons item rest ih => rw [sortItems, ih, List.map_cons]

/-- Sorting keeps the last of several fields of one name. -/
theorem sortEntries_keepsLast : KeepsLast sortFields sortEntries := ⟨rfl, fun _ _ _ => rfl⟩

/-- A tree that is held has sorted fields already. -/
theorem Held.sortFields_eq {tree : Json} (h : tree.Held) : tree.sortFields = tree := by
  induction h with
  | array held ih => rw [sortFields, sortItems_eq, map_eq_self ih]
  | @object fields sorted held ih =>
    have hfields : fields.map (fun field => (field.1, field.2.sortFields)) = fields :=
      map_eq_self fun field hfield => Prod.ext rfl (ih field hfield)
    rw [sortFields, sortEntries_keepsLast.eq_map sorted, hfields]
  | _ => rfl

end Json

namespace Draft

/-- The items of a draft have their trees one by one. -/
theorem treeItems_eq (items : List Draft) : treeItems items = items.map tree := by
  induction items with
  | nil => rfl
  | cons item rest ih => rw [treeItems, ih, List.map_cons]

/-- A tree that is held is the tree of the draft it is written as. -/
theorem tree_ofTree {tree : Json} (h : tree.Held) : (ofTree tree).tree = tree := by
  induction h with
  | array held ih =>
    rw [ofTree, Draft.tree, ofTrees_eq, treeItems_eq, List.map_map]
    exact congrArg Json.array (map_eq_self ih)
  | @object fields sorted held ih =>
    have hsame : treeFields [] (fieldDrafts fields) = fields := by
      refine sortedEntries_ext (sortedEntries_treeFields List.Pairwise.nil _) sorted fun name => ?_
      have hfields : fields.map (fun field => (field.1, (ofTree field.2).tree)) = fields :=
        map_eq_self fun field hfield => Prod.ext rfl (ih field hfield)
      rw [findEntry_treeFields, findEntry_reverse sorted, findEntry, Option.or_none,
        ← findEntry_map, hfields]
    rw [ofTree, Draft.tree, ofTreeFields_eq, hsame]
  | _ => rfl

end Draft

end CommandGrammar
