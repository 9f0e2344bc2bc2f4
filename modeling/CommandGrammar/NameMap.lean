/-!
# Maps keyed by names

A map is a list of entries in strictly increasing order of their names, code point by code
point, so two maps with the same content are equal and entries are listed in a fixed order.
The list operations are stated apart from the type because trees of values keep their
entries as plain lists.
-/

namespace CommandGrammar

/-- Put a value under a name into sorted entries, replacing the value the name had. -/
def insertEntry {α : Type} (name : String) (value : α) :
    List (String × α) → List (String × α)
  | [] => [(name, value)]
  | (n, v) :: rest =>
    if name < n then (name, value) :: (n, v) :: rest
    else if name = n then (name, value) :: rest
    else (n, v) :: insertEntry name value rest

/-- The first value listed under a name. -/
def findEntry {α : Type} (name : String) : List (String × α) → Option α
  | [] => none
  | (n, v) :: rest => if n = name then some v else findEntry name rest

/-- Entries in strictly increasing order of their names. -/
def SortedEntries {α : Type} (entries : List (String × α)) : Prop :=
  entries.Pairwise fun a b => a.1 < b.1

/-- Insertion brings in the new entry only. -/
theorem mem_insertEntry {α : Type} {name : String} {value : α} {entry : String × α}
    {entries : List (String × α)} (h : entry ∈ insertEntry name value entries) :
    entry = (name, value) ∨ entry ∈ entries := by
  induction entries with
  | nil => simpa [insertEntry] using h
  | cons head rest ih =>
    unfold insertEntry at h
    split at h
    · simpa using h
    · split at h
      · rcases List.mem_cons.mp h with h | h
        · exact .inl h
        · exact .inr (List.mem_cons_of_mem _ h)
      · rcases List.mem_cons.mp h with h | h
        · exact .inr (h ▸ List.mem_cons_self)
        · rcases ih h with h | h
          · exact .inl h
          · exact .inr (List.mem_cons_of_mem _ h)

/-- Names are linearly ordered. -/
theorem name_lt_of_not {a b : String} (hlt : ¬ a < b) (hne : ¬ a = b) : b < a :=
  String.not_le.mp fun h => hne (String.le_antisymm h (String.not_lt.mp hlt))

/-- Insertion keeps entries sorted. -/
theorem sortedEntries_insertEntry {α : Type} {entries : List (String × α)}
    (h : SortedEntries entries) (name : String) (value : α) :
    SortedEntries (insertEntry name value entries) := by
  induction entries with
  | nil => simp [insertEntry, SortedEntries]
  | cons head rest ih =>
    obtain ⟨hhead, hrest⟩ := List.pairwise_cons.mp h
    unfold insertEntry
    split
    · rename_i hlt
      refine List.pairwise_cons.mpr ⟨fun entry hentry => ?_, h⟩
      rcases List.mem_cons.mp hentry with heq | hmem
      · exact heq ▸ hlt
      · exact String.lt_trans hlt (hhead entry hmem)
    · split
      · rename_i _ heq
        refine List.pairwise_cons.mpr ⟨fun entry hentry => ?_, hrest⟩
        exact heq ▸ hhead entry hentry
      · rename_i hlt hne
        refine List.pairwise_cons.mpr ⟨fun entry hentry => ?_, ih hrest⟩
        rcases mem_insertEntry hentry with heq | hmem
        · exact heq ▸ name_lt_of_not hlt hne
        · exact hhead entry hmem

/-- Insertion decides what is found under the name, and nothing else. -/
theorem findEntry_insertEntry {α : Type} (name key : String) (value : α)
    (entries : List (String × α)) :
    findEntry key (insertEntry name value entries) =
      if name = key then some value else findEntry key entries := by
  induction entries with
  | nil => simp [insertEntry, findEntry]
  | cons head rest ih =>
    unfold insertEntry
    split
    · simp [findEntry]
    · split
      · rename_i _ heq
        simp only [findEntry, heq]
        split <;> rfl
      · rename_i _ hne
        simp only [findEntry, ih]
        split
        · rename_i hkey
          rw [if_neg fun h => hne (h.trans hkey.symm)]
        · rfl

/-- What is found in a list put together is found in its front, or else in its back. -/
theorem findEntry_append {α : Type} (key : String) (front back : List (String × α)) :
    findEntry key (front ++ back) = (findEntry key front).or (findEntry key back) := by
  induction front with
  | nil => rfl
  | cons head rest ih =>
    simp only [List.cons_append, findEntry]
    split
    · rfl
    · exact ih

/-- Something is found under the names that are listed. -/
theorem findEntry_isSome {α : Type} {key : String} {entries : List (String × α)} :
    (findEntry key entries).isSome ↔ key ∈ entries.map Prod.fst := by
  induction entries with
  | nil => simp [findEntry]
  | cons head rest ih =>
    simp only [findEntry, List.map_cons, List.mem_cons]
    split
    · rename_i heq
      simp [heq]
    · rename_i hne
      rw [ih]
      exact ⟨.inr, fun h => h.resolve_left fun heq => hne heq.symm⟩

/-- Nothing is found under a name that is not listed. -/
theorem findEntry_eq_none {α : Type} {key : String} {entries : List (String × α)} :
    findEntry key entries = none ↔ key ∉ entries.map Prod.fst := by
  rw [← findEntry_isSome, Option.not_isSome_iff_eq_none]

/-- What is found under a name is listed under it. -/
theorem mem_of_findEntry {α : Type} {name : String} {value : α} {entries : List (String × α)}
    (h : findEntry name entries = some value) : (name, value) ∈ entries := by
  induction entries with
  | nil => cases h
  | cons head rest ih =>
    unfold findEntry at h
    split at h
    · rename_i heq
      cases h
      exact heq ▸ List.mem_cons_self
    · exact List.mem_cons_of_mem _ (ih h)

/-- What is found under a name is the first entry under it. -/
theorem findEntry_eq_some_iff {α : Type} {name : String} {value : α}
    {entries : List (String × α)} : findEntry name entries = some value ↔
      ∃ front back, entries = front ++ (name, value) :: back ∧ ∀ entry ∈ front, entry.1 ≠ name := by
  constructor
  · intro h
    induction entries with
    | nil => cases h
    | cons head rest ih =>
      unfold findEntry at h
      split at h
      · rename_i heq
        cases h
        exact ⟨[], rest, by rw [← heq]; rfl, by simp⟩
      · rename_i hne
        obtain ⟨front, back, hsplit, hothers⟩ := ih h
        refine ⟨head :: front, back, by rw [hsplit]; rfl, ?_⟩
        exact List.forall_mem_cons.mpr ⟨hne, hothers⟩
  · rintro ⟨front, back, rfl, hothers⟩
    have hfront : findEntry name front = none := by
      rw [findEntry_eq_none]
      rintro hname
      obtain ⟨entry, hentry, heq⟩ := List.mem_map.mp hname
      exact hothers entry hentry heq
    rw [findEntry_append, hfront]
    exact if_pos rfl

/-- Every name that is found in sorted entries is the first name or stands behind it. -/
theorem not_lt_of_found {α : Type} {name : String} {head : String × α}
    {rest : List (String × α)} (h : SortedEntries (head :: rest))
    (hfound : (findEntry name (head :: rest)).isSome) : ¬ name < head.1 := by
  intro hlt
  obtain ⟨entry, hentry, rfl⟩ := List.mem_map.mp (findEntry_isSome.mp hfound)
  rcases List.mem_cons.mp hentry with rfl | hentry
  · exact String.lt_irrefl _ hlt
  · exact String.lt_irrefl _ (String.lt_trans hlt ((List.pairwise_cons.mp h).1 entry hentry))

/-- The first name of sorted entries is not found again behind it. -/
theorem findEntry_behind {α : Type} {head : String × α} {rest : List (String × α)}
    (h : SortedEntries (head :: rest)) : findEntry head.1 rest = none := by
  cases hfound : findEntry head.1 rest with
  | none => rfl
  | some value =>
    have hlt := (List.pairwise_cons.mp h).1 _ (mem_of_findEntry hfound)
    exact absurd hlt (String.lt_irrefl _)

/-- Sorted entries are known by what is found under each name. -/
theorem sortedEntries_ext {α : Type} {entries others : List (String × α)}
    (hentries : SortedEntries entries) (hothers : SortedEntries others)
    (h : ∀ name, findEntry name entries = findEntry name others) : entries = others := by
  have hfirst : ∀ (head : String × α) (rest : List (String × α)),
      findEntry head.1 (head :: rest) = some head.2 := fun head rest => if_pos rfl
  induction entries generalizing others with
  | nil =>
    cases others with
    | nil => rfl
    | cons other remaining => cases (h other.1).trans (hfirst other remaining)
  | cons head rest ih =>
    cases others with
    | nil => cases (h head.1).symm.trans (hfirst head rest)
    | cons other remaining =>
      have hname : head.1 = other.1 := by
        refine Decidable.byContradiction fun hne => ?_
        have hle : ¬ head.1 < other.1 := not_lt_of_found hothers (by rw [← h, hfirst]; rfl)
        exact not_lt_of_found hentries (by rw [h, hfirst]; rfl) (name_lt_of_not hle hne)
      have hvalue : head.2 = other.2 := by
        have hfound := h head.1
        rw [hfirst, hname, hfirst] at hfound
        exact Option.some.inj hfound
      obtain rfl : head = other := Prod.ext hname hvalue
      have hsame : ∀ name, findEntry name rest = findEntry name remaining := by
        intro name
        by_cases hkey : head.1 = name
        · subst hkey
          rw [findEntry_behind hentries, findEntry_behind hothers]
        · have hfound := h name
          rwa [findEntry, findEntry, if_neg hkey, if_neg hkey] at hfound
      rw [ih (List.pairwise_cons.mp hentries).2 (List.pairwise_cons.mp hothers).2 hsame]

/-- Every entry of sorted entries is found under its name. -/
theorem findEntry_of_mem {α : Type} {entries : List (String × α)} (h : SortedEntries entries)
    {entry : String × α} (hentry : entry ∈ entries) :
    findEntry entry.1 entries = some entry.2 := by
  obtain ⟨front, back, rfl⟩ := List.append_of_mem hentry
  refine findEntry_eq_some_iff.mpr ⟨front, back, rfl, fun other hother heq => ?_⟩
  have hlt := (List.pairwise_append.mp h).2.2 other hother entry List.mem_cons_self
  exact String.lt_irrefl _ (heq ▸ hlt)

/-- A map from names to values of one type. -/
structure NameMap (α : Type) where
  /-- The entries in order of their names. -/
  entries : List (String × α)
  /-- No name is listed twice or out of order. -/
  sorted : SortedEntries entries

namespace NameMap

variable {α β : Type}

/-- The map without entries. -/
def empty : NameMap α := ⟨[], List.Pairwise.nil⟩

/-- The empty map is the value at hand. -/
instance : Inhabited (NameMap α) := ⟨empty⟩

/-- Put a value under a name; a value already there is replaced. -/
def insert (m : NameMap α) (name : String) (value : α) : NameMap α :=
  ⟨insertEntry name value m.entries, sortedEntries_insertEntry m.sorted name value⟩

/-- The value under a name. -/
def get? (m : NameMap α) (name : String) : Option α := findEntry name m.entries

/-- Whether a name has a value. -/
def contains (m : NameMap α) (name : String) : Bool := (m.get? name).isSome

/-- The names in order. -/
def names (m : NameMap α) : List String := m.entries.map Prod.fst

/-- How many names have a value. -/
def size (m : NameMap α) : Nat := m.entries.length

/-- The map of a list of entries; the last of several values of one name stays. -/
def ofList (entries : List (String × α)) : NameMap α :=
  entries.foldl (fun m entry => m.insert entry.1 entry.2) empty

/-- Nothing is found in the empty map. -/
@[simp] theorem get?_empty (key : String) : (empty : NameMap α).get? key = none := rfl

/-- The value put last under a name is found there; other names keep theirs. -/
theorem get?_insert (m : NameMap α) (name key : String) (value : α) :
    (m.insert name value).get? key = if name = key then some value else m.get? key :=
  findEntry_insertEntry name key value m.entries

/-- What is found after a value is put under a name is this value or was there before. -/
theorem get_of_insert {m : NameMap α} {key name : String} {value found : α}
    (h : (m.insert key value).get? name = some found) :
    (key = name ∧ value = found) ∨ m.get? name = some found := by
  rw [NameMap.get?_insert] at h
  split at h
  · rename_i hkey
    exact .inl ⟨hkey, Option.some.inj h⟩
  · exact .inr h

/-- What is found after putting a list of entries into a map is the last of them under the
name, or else what the map had. -/
theorem get?_foldl_insert (m : NameMap α) (entries : List (String × α)) (key : String) :
    (entries.foldl (fun m entry => m.insert entry.1 entry.2) m).get? key =
      (findEntry key entries.reverse).or (m.get? key) := by
  induction entries generalizing m with
  | nil => rfl
  | cons entry rest ih =>
    rw [List.foldl_cons, ih, get?_insert, List.reverse_cons, findEntry_append, Option.or_assoc]
    congr 1
    simp only [findEntry]
    split <;> rfl

/-- The last of several values listed under a name is found. -/
theorem get?_ofList (entries : List (String × α)) (key : String) :
    (ofList entries).get? key = findEntry key entries.reverse := by
  rw [ofList, get?_foldl_insert, get?_empty, Option.or_none]

/-- The entries of a map that is made of a list are those with no later entry of their name. -/
theorem mem_entries_ofList {entries : List (String × α)} {entry : String × α} :
    entry ∈ (ofList entries).entries ↔
      ∃ front back, entries = front ++ entry :: back ∧ ∀ later ∈ back, later.1 ≠ entry.1 := by
  have hfound : entry ∈ (ofList entries).entries ↔
      findEntry entry.1 entries.reverse = some entry.2 := by
    rw [← get?_ofList]
    exact ⟨findEntry_of_mem (ofList entries).sorted, mem_of_findEntry⟩
  rw [hfound, findEntry_eq_some_iff]
  constructor
  · rintro ⟨back, front, hsplit, hothers⟩
    refine ⟨front.reverse, back.reverse, ?_, fun later hlater => ?_⟩
    · rw [← entries.reverse_reverse, hsplit]
      simp
    · exact hothers later (List.mem_reverse.mp hlater)
  · rintro ⟨front, back, rfl, hothers⟩
    refine ⟨back.reverse, front.reverse, by simp, fun later hlater => ?_⟩
    exact hothers later (List.mem_reverse.mp hlater)

/-- A name is listed when something is found under it. -/
theorem mem_names {m : NameMap α} {name : String} : name ∈ m.names ↔ (m.get? name).isSome :=
  findEntry_isSome.symm

/-- Two maps with the same entries are equal. -/
theorem eq_of_entries {m n : NameMap α} (h : m.entries = n.entries) : m = n := by
  cases m; cases n; cases h; rfl

end NameMap

end CommandGrammar
