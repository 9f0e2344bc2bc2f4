import CommandGrammar.Slot.SlotList
import CommandGrammar.Text.Split

/-!
# Entries

An entry is what a token can call by name: an option, or a sub-command with options of its
own. It answers to several names, the first of which is the one it is known by, and has slots
for what follows. An entry with a separator of its own also answers to a name with its first
argument glued to it.
-/

namespace CommandGrammar

/-- The parts of some characters between bars, the first one apart. -/
def cutAtBars : List Char → List Char × List (List Char)
  | [] => ([], [])
  | c :: rest =>
    let (first, others) := cutAtBars rest
    if c == '|' then ([], first :: others) else (c :: first, others)

/-- The parts of a text between bars. -/
def barParts (text : String) : List String :=
  let (first, others) := cutAtBars text.toList
  (first :: others).map String.ofList

/-- The names in a list without repetitions, each where it stands first. -/
def distinctNames (names : List String) : List String :=
  (names.foldl (fun seen name => if seen.contains name then seen else name :: seen) []).reverse

/-- Put a name in front of the first that is not longer in bytes. -/
def insertByLength (name : String) : List String → List String
  | [] => [name]
  | n :: rest =>
    if n.utf8ByteSize ≤ name.utf8ByteSize then name :: n :: rest
    else n :: insertByLength name rest

/-- Names by decreasing length in bytes; names of one length keep their order. -/
def longestFirst (names : List String) : List String := names.foldr insertByLength []

/-- What can be called by a name. -/
structure Entry where
  /-- The name it is known by. -/
  name : String
  /-- The further names it answers to. -/
  others : List String
  /-- The arguments that follow. -/
  args : SlotList
  /-- The separator of its own, if it has one. -/
  separator : Option String
  /-- The help text. -/
  help : String
  /-- No name is empty. -/
  named : ∀ n ∈ name :: others, n ≠ ""
  /-- No two names are equal. -/
  distinct : (name :: others).Nodup
  /-- A separator has a character. -/
  separates : separator ≠ some ""

/-- Collecting names keeps them distinct. -/
theorem collected_nodup {names seen : List String} (h : seen.Nodup) :
    (names.foldl (fun seen name => if seen.contains name then seen else name :: seen)
      seen).Nodup := by
  induction names generalizing seen with
  | nil => exact h
  | cons name rest ih =>
    rw [List.foldl_cons]
    by_cases hname : name ∈ seen
    · simpa [hname] using ih h
    · simpa [hname] using ih (List.nodup_cons.mpr ⟨hname, h⟩)

/-- Collecting names brings in those names only. -/
theorem mem_collected {names seen : List String} {x : String} :
    x ∈ names.foldl (fun seen name => if seen.contains name then seen else name :: seen) seen ↔
      x ∈ seen ∨ x ∈ names := by
  induction names generalizing seen with
  | nil => simp
  | cons name rest ih =>
    rw [List.foldl_cons, ih]
    by_cases hname : name ∈ seen <;> simp [hname] <;> grind

/-- The distinct names of a list differ. -/
theorem distinctNames_nodup (names : List String) : (distinctNames names).Nodup :=
  (List.reverse_perm _).nodup_iff.mpr (collected_nodup List.nodup_nil)

/-- The distinct names of a list are its names. -/
theorem mem_distinctNames {names : List String} {x : String} :
    x ∈ distinctNames names ↔ x ∈ names := by
  rw [distinctNames, List.mem_reverse, mem_collected]
  simp

/-- Insertion brings in the one name. -/
theorem insertByLength_perm (name : String) (names : List String) :
    (insertByLength name names).Perm (name :: names) := by
  induction names with
  | nil => exact List.Perm.refl _
  | cons n rest ih =>
    unfold insertByLength
    split
    · exact List.Perm.refl _
    · exact (ih.cons n).trans (List.Perm.swap _ _ _)

/-- Sorting names keeps them. -/
theorem longestFirst_perm (names : List String) : (longestFirst names).Perm names := by
  induction names with
  | nil => exact List.Perm.refl _
  | cons name rest ih => exact (insertByLength_perm _ _).trans (ih.cons name)

namespace Entry

/-- All names, the one it is known by first. -/
def aliases (e : Entry) : List String := e.name :: e.others

/-- The distinct names written between bars, the longest first. -/
def writtenNames (text : String) : List String :=
  longestFirst (distinctNames ((barParts text).filter (· != "")))

/-- An entry of the names written between bars, without slots. It is known by the first of
the longest. -/
def ofNames (text : String) : Except GrammarFault Entry :=
  match h : writtenNames text with
  | [] => .error .emptyName
  | name :: others =>
    have perm : (name :: others).Perm (distinctNames ((barParts text).filter (· != ""))) :=
      h ▸ longestFirst_perm _
    .ok
      { name, others, args := .empty, separator := none, help := "",
        named := fun n hn => by
          have := mem_distinctNames.mp (perm.mem_iff.mp hn)
          simpa using (List.mem_filter.mp this).2
        distinct := perm.nodup_iff.mpr (distinctNames_nodup _)
        separates := by simp }

/-- The same entry under one more name. The name it is known by stays. -/
def withAlias (e : Entry) (name : String) : Except GrammarFault Entry :=
  if hempty : name = "" then .error .emptyName
  else if hmem : name ∈ e.aliases then .ok e
  else
    have perm : (e.name :: longestFirst (e.others ++ [name])).Perm (name :: e.aliases) :=
      ((longestFirst_perm _).cons _).trans
        (((List.perm_append_comm : (e.others ++ [name]).Perm ([name] ++ e.others)).cons _).trans
          (List.Perm.swap _ _ _))
    .ok
      { e with
        others := longestFirst (e.others ++ [name])
        named := fun a ha => by
          rcases List.mem_cons.mp (perm.mem_iff.mp ha) with rfl | ha
          · exact hempty
          · exact e.named a ha
        distinct := perm.nodup_iff.mpr (List.nodup_cons.mpr ⟨hmem, e.distinct⟩) }

/-- The same entry with other slots. -/
def withArgs (e : Entry) (args : SlotList) : Entry := { e with args }

/-- The same entry with a separator of its own. -/
def withSeparator (e : Entry) (separator : String) : Except GrammarFault Entry :=
  if h : separator = "" then .error .emptySeparator
  else .ok { e with separator := some separator, separates := by simpa using h }

/-- The same entry with another help text. -/
def withHelp (e : Entry) (help : String) : Entry := { e with help }

/-- The separator in effect where the surroundings have the given one. -/
def separatorOr (e : Entry) (outer : String) : String := e.separator.getD outer

/-- Whether a text is one of the names with an argument glued to it. -/
def answersGlued (e : Entry) (text : String) : Bool :=
  match e.separator with
  | none => false
  | some separator =>
    let (head, rest) := splitOnce text separator
    e.aliases.contains head && rest != ""

end Entry

/-- The first of several entries that a text calls: one that has it as a name, else one that
has it as a name with a glued argument. -/
def callee? {α : Type} (entry : α → Entry) (candidates : List α) (text : String) : Option α :=
  (candidates.find? fun x => (entry x).aliases.contains text).or
    (candidates.find? fun x => (entry x).answersGlued text)

/-- Where no name is shared, the one that answers to a name is found by any test that holds of it
and of none without that name. -/
theorem find?_of_alias {α : Type} {entry : α → Entry} {items : List α}
    (hdistinct : (items.flatMap fun x => (entry x).aliases).Nodup) {item : α}
    (hitem : item ∈ items) {name : String} (hname : name ∈ (entry item).aliases)
    {test : α → Bool} (htest : test item = true)
    (honly : ∀ x, test x = true → name ∈ (entry x).aliases) :
    items.find? test = some item := by
  induction items with
  | nil => cases hitem
  | cons first rest ih =>
    rw [List.flatMap_cons, List.nodup_append] at hdistinct
    obtain ⟨-, hrest, hapart⟩ := hdistinct
    rw [List.find?_cons]
    rcases List.mem_cons.mp hitem with rfl | hmem
    · rw [htest]
    · cases hfirst : test first with
      | false => exact ih hrest hmem
      | true =>
        exact absurd rfl (hapart name (honly first hfirst) name
          (List.mem_flatMap.mpr ⟨item, hmem, hname⟩))

/-- What a text calls is one of the candidates. -/
theorem mem_of_callee {α : Type} {entry : α → Entry} {candidates : List α} {text : String}
    {item : α} (h : callee? entry candidates text = some item) : item ∈ candidates := by
  rcases Option.or_eq_some_iff.mp h with h | ⟨-, h⟩
  · exact List.mem_of_find?_eq_some h
  · exact List.mem_of_find?_eq_some h

/-- Where no name is shared, a name calls the one that answers to it. -/
theorem callee?_of_alias {α : Type} {entry : α → Entry} {candidates : List α}
    (hdistinct : (candidates.flatMap fun x => (entry x).aliases).Nodup) {item : α}
    (hitem : item ∈ candidates) {name : String} (hname : name ∈ (entry item).aliases) :
    callee? entry candidates name = some item := by
  have hfound : (candidates.find? fun x => (entry x).aliases.contains name) = some item :=
    find?_of_alias hdistinct hitem hname (List.contains_iff_mem.mpr hname)
      fun x => List.contains_iff_mem.mp
  rw [callee?, hfound]
  rfl

/-- Without separators of their own, candidates are called by their names only. -/
theorem callee?_eq_none {α : Type} {entry : α → Entry} {candidates : List α} {text : String}
    (hseparator : ∀ x ∈ candidates, (entry x).separator = none)
    (htext : text ∉ candidates.flatMap fun x => (entry x).aliases) :
    callee? entry candidates text = none := by
  rw [callee?, Option.or_eq_none_iff, List.find?_eq_none, List.find?_eq_none]
  constructor
  · intro x hx hname
    exact htext (List.mem_flatMap.mpr ⟨x, hx, List.contains_iff_mem.mp hname⟩)
  · intro x hx hglued
    rw [Entry.answersGlued, hseparator x hx] at hglued
    cases hglued

/-- A nested command. -/
structure Subcommand where
  /-- Its names, slots and separator. -/
  entry : Entry
  /-- Its options. -/
  options : List Entry
  /-- No two options share a name. -/
  distinct : (options.flatMap Entry.aliases).Nodup

namespace Subcommand

/-- The name it is known by. -/
def name (s : Subcommand) : String := s.entry.name

/-- A nested command of an entry and its options. -/
def ofOptions (entry : Entry) (options : List Entry) : Except GrammarFault Subcommand :=
  match h : firstRepeated? (options.flatMap Entry.aliases) with
  | some name => .error (.duplicateName name entry.name)
  | none => .ok ⟨entry, options, firstRepeated?_eq_none.mp h⟩

/-- The option that a text calls. -/
def resolve? (s : Subcommand) (text : String) : Option Entry := callee? id s.options text

end Subcommand

/-- What a command can be followed by. -/
inductive Member where
  /-- An option. -/
  | option (e : Entry)
  /-- A nested command. -/
  | subcommand (s : Subcommand)

namespace Member

/-- The names, slots and separator. -/
def entry : Member → Entry
  | option e => e
  | subcommand s => s.entry

/-- The names it answers to and, for a nested command, those of its options. -/
def keywords : Member → List String
  | option e => e.aliases
  | subcommand s => s.entry.aliases ++ s.options.flatMap Entry.aliases

end Member

end CommandGrammar
