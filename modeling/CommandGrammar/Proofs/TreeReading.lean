import CommandGrammar.Document.Grammar
import Mathlib.Data.List.Forall2

/-!
# Reading trees

A tree is read as the draft of a text that it is written as. A text allows so many levels only, and
`Access.Reads` says that a tree has no more of them; there is no other way in which a tree cannot be
read as a whole.

`ReadsAs` says of a reader what it makes of the trees that spell something, and there is one law for
each way to put readers together. Which of several faults is reported depends on the order in which
parts come, so what is compared is whether there is a result, and which one.

A tree that is kept as a value is written and read on the way. Names that come twice are then lost,
but the value has the last of them anyway.
-/

namespace CommandGrammar

/-! ### Results of parts -/

section Results

variable {ε α β : Type}

/-- A result of two steps is one of the first that the second goes on with. -/
theorem toOption_bind (first : Except ε α) (second : α → Except ε β) :
    (first >>= second).toOption = first.toOption.bind fun x => (second x).toOption := by
  cases first <;> rfl

/-- A result is changed by a function that never fails. -/
theorem toOption_map (f : α → β) (result : Except ε α) :
    (result.map f).toOption = result.toOption.map f := by
  cases result <;> rfl

/-- The results for the items of a list. -/
theorem toOption_mapM (f : α → Except ε β) (items : List α) :
    (items.mapM f).toOption = items.mapM fun x => (f x).toOption := by
  induction items with
  | nil => rfl
  | cons item rest ih =>
    rw [List.mapM_cons, List.mapM_cons, toOption_bind]
    refine Option.bind_congr fun x _ => ?_
    rw [toOption_bind, ih]
    rfl

/-- The result for what may be left out. -/
theorem toOption_mapM_option (f : α → Except ε β) (piece : Option α) :
    (piece.mapM f).toOption = piece.mapM fun x => (f x).toOption := by
  cases piece with
  | none => rfl
  | some x =>
    change ((f x).map some).toOption = (f x).toOption.map some
    exact toOption_map some (f x)

/-- What is built has the same result as a part of a document. -/
theorem toOption_built (result : Except GrammarFault α) :
    (built result).toOption = result.toOption := by
  cases result <;> rfl

/-- Items that stay as they are. -/
theorem mapM_some (items : List α) : items.mapM some = some items := by
  induction items with
  | nil => rfl
  | cons item rest ih =>
    rw [List.mapM_cons, ih]
    rfl

/-- Items that are each read as what they come from are read as the list of these. -/
theorem mapM_map_ok {f : β → Except ε α} {g : α → β} (h : ∀ x, f (g x) = .ok x)
    (items : List α) : (items.map g).mapM f = .ok items := by
  induction items with
  | nil => rfl
  | cons x rest ih =>
    rw [List.map_cons, List.mapM_cons, h, ih]
    rfl

/-- What may be left out stays as it is. -/
theorem mapM_some_option (piece : Option α) : piece.mapM some = some piece := by
  cases piece <;> rfl

/-- A result is what there is a result of. -/
theorem eq_ok_iff {result : Except ε α} {x : α} :
    result = .ok x ↔ result.toOption = some x := by
  cases result with
  | error fault => simp [Except.toOption]
  | ok y => simp [Except.toOption]

end Results

/-! ### Trees as drafts -/

/-- The items of a sequence are written one by one. -/
theorem ofTrees_eq (items : List Json) : Draft.ofTrees items = items.map Draft.ofTree := by
  induction items with
  | nil => rfl
  | cons item rest ih => rw [Draft.ofTrees, ih, List.map_cons]

/-- The fields of an object as they stand in a draft. -/
def fieldDrafts (fields : List (String × Json)) : List (Option String × Draft) :=
  fields.map fun field => (some field.1, Draft.ofTree field.2)

/-- The fields of an object are written one by one. -/
theorem ofTreeFields_eq (fields : List (String × Json)) :
    Draft.ofTreeFields fields = fieldDrafts fields := by
  induction fields with
  | nil => rfl
  | cons field rest ih =>
    rw [Draft.ofTreeFields, ih]
    rfl

namespace Access

/-- Whether a tree has no more levels than may be entered. -/
def Reads : Access → Json → Prop
  | direct depth, json => (Draft.ofTree json).hasValue depth = true
  | _, _ => True

/-- What was read ahead has all its levels. -/
theorem reads_ahead (json : Json) : ahead.Reads json := trivial

/-- A tree that is read is read ahead. -/
theorem Reads.readAhead {access : Access} {tree : Json} (h : access.Reads tree) :
    access.readAhead (Draft.ofTree tree) = .ok () := by
  cases access with
  | direct depth => exact if_pos h
  | ahead => rfl
  | tree => rfl

/-- The items of a sequence have values where the sequence has one. -/
theorem hasValue_of_items {depth : Nat} {items : List Json}
    (h : Draft.itemsHaveValue depth (Draft.ofTrees items) = true) {item : Json}
    (hitem : item ∈ items) : (Draft.ofTree item).hasValue depth = true := by
  induction items with
  | nil => cases hitem
  | cons first rest ih =>
    rw [Draft.ofTrees, Draft.itemsHaveValue, Bool.and_eq_true] at h
    rcases List.mem_cons.mp hitem with rfl | hrest
    · exact h.1
    · exact ih h.2 hrest

/-- The fields of an object have values where the object has one. -/
theorem hasValue_of_fields {depth : Nat} {fields : List (String × Json)}
    (h : Draft.fieldsHaveValue depth (Draft.ofTreeFields fields) = true) {field : String × Json}
    (hfield : field ∈ fields) : (Draft.ofTree field.2).hasValue depth = true := by
  induction fields with
  | nil => cases hfield
  | cons first rest ih =>
    rw [Draft.ofTreeFields, Draft.fieldsHaveValue, Bool.and_eq_true, Bool.and_eq_true] at h
    rcases List.mem_cons.mp hfield with rfl | hrest
    · exact h.1.2
    · exact ih h.2 hrest

/-- A sequence that is read is entered, and its items are read. -/
theorem Reads.enter_array {access : Access} {items : List Json} (h : access.Reads (.array items)) :
    ∃ inner, access.enter = .ok inner ∧ ∀ item ∈ items, inner.Reads item := by
  cases access with
  | direct depth =>
    obtain ⟨hdepth, hitems⟩ : 2 ≤ depth ∧
        Draft.itemsHaveValue (depth - 1) (Draft.ofTrees items) = true := by
      simpa [Reads, Draft.ofTree, Draft.hasValue] using h
    obtain ⟨levels, rfl⟩ : ∃ levels, depth = levels + 2 := ⟨depth - 2, by omega⟩
    exact ⟨.direct (levels + 1), rfl, fun item hitem => hasValue_of_items hitems hitem⟩
  | ahead => exact ⟨.ahead, rfl, fun _ _ => reads_ahead _⟩
  | tree => exact ⟨.tree, rfl, fun _ _ => trivial⟩

/-- An object that is read is entered, and its fields are read. -/
theorem Reads.enter_object {access : Access} {fields : List (String × Json)}
    (h : access.Reads (.object fields)) :
    ∃ inner, access.enter = .ok inner ∧ ∀ field ∈ fields, inner.Reads field.2 := by
  cases access with
  | direct depth =>
    obtain ⟨hdepth, hfields⟩ : 2 ≤ depth ∧
        Draft.fieldsHaveValue (depth - 1) (Draft.ofTreeFields fields) = true := by
      simpa [Reads, Draft.ofTree, Draft.hasValue] using h
    obtain ⟨levels, rfl⟩ : ∃ levels, depth = levels + 2 := ⟨depth - 2, by omega⟩
    exact ⟨.direct (levels + 1), rfl, fun field hfield => hasValue_of_fields hfields hfield⟩
  | ahead => exact ⟨.ahead, rfl, fun _ _ => reads_ahead _⟩
  | tree => exact ⟨.tree, rfl, fun _ _ => trivial⟩

end Access

/-! ### What readers make of trees -/

section Readers

variable {α β : Type}

/-- What a reader makes of every tree that spells something. -/
def ReadsAs (spells : β → Json → Prop) (read : Access → Draft → Except DocumentFault α)
    (make : β → Option α) : Prop :=
  ∀ (access : Access) (x : β) (tree : Json), spells x tree → access.Reads tree →
    (read access (Draft.ofTree tree)).toOption = make x

/-- A text is spelled by itself. -/
def SpellsText (text : String) (tree : Json) : Prop := tree = .string text

/-- A boolean is spelled by itself. -/
def SpellsBool (b : Bool) (tree : Json) : Prop := tree = .bool b

/-- A text that may be absent is spelled by itself or by `null`. -/
def SpellsTextOrNull : Option String → Json → Prop
  | none, tree => tree = .null
  | some text, tree => tree = .string text

/-- A list is spelled by a sequence of what spells its items. -/
def SpellsList (spells : β → Json → Prop) (items : List β) (tree : Json) : Prop :=
  ∃ trees, tree = .array trees ∧ List.Forall₂ spells items trees

/-- A text is read. -/
theorem readsAs_text : ReadsAs SpellsText (fun _ => Draft.readString) some := by
  rintro access text tree rfl -
  rfl

/-- A boolean is read. -/
theorem readsAs_bool : ReadsAs SpellsBool (fun _ => Draft.readBool) some := by
  rintro access b tree rfl -
  rfl

/-- A text that may be absent is read. -/
theorem readsAs_textOrNull :
    ReadsAs SpellsTextOrNull (fun _ => Draft.readOptional Draft.readString) some := by
  rintro access (_ | text) tree rfl -
  · rfl
  · rfl

/-- The items of a list are read one after the other. -/
theorem readsAs_list {spells : β → Json → Prop} {read : Access → Draft → Except DocumentFault α}
    {make : β → Option α} (h : ReadsAs spells read make) :
    ReadsAs (SpellsList spells) (Draft.readList read) (List.mapM make) := by
  rintro access items tree ⟨trees, rfl, hspells⟩ hreads
  obtain ⟨inner, henter, hitems⟩ := hreads.enter_array
  have hread : (Draft.readList read access (Draft.ofTree (.array trees))).toOption =
      (trees.map Draft.ofTree).mapM fun d => (read inner d).toOption := by
    rw [Draft.ofTree, ofTrees_eq, ← toOption_mapM, Draft.readList, henter]
    change ((trees.map Draft.ofTree).mapM (read inner) >>= fun values => .ok values).toOption = _
    rw [toOption_bind]
    exact Option.bind_fun_some _
  rw [hread]
  clear hread hreads
  induction hspells with
  | nil => rfl
  | cons hfirst _ ih =>
    rw [List.map_cons, List.mapM_cons, List.mapM_cons,
      h inner _ _ hfirst (hitems _ List.mem_cons_self),
      ih fun item hitem => hitems item (List.mem_cons_of_mem _ hitem)]

/-- The items of a list that are read as they are make the list. -/
theorem readsAs_items {spells : α → Json → Prop} {read : Access → Draft → Except DocumentFault α}
    (h : ReadsAs spells read some) : ReadsAs (SpellsList spells) (Draft.readList read) some := by
  intro access items tree hspells hreads
  rw [readsAs_list h access items tree hspells hreads, mapM_some]

/-- A list of texts is read. -/
theorem readsAs_texts : ReadsAs (SpellsList SpellsText) readStrings some :=
  readsAs_items readsAs_text

end Readers

/-! ### Trees as values -/

/-- The last of several values under a name is the only one where names differ. -/
theorem findEntry_reverse_of_nodup {α : Type} {entries : List (String × α)}
    (h : (entries.map Prod.fst).Nodup) (name : String) :
    findEntry name entries.reverse = findEntry name entries := by
  induction entries with
  | nil => rfl
  | cons head rest ih =>
    obtain ⟨first, value⟩ := head
    rw [List.map_cons, List.nodup_cons] at h
    rw [List.reverse_cons, findEntry_append, ih h.2]
    by_cases hname : first = name
    · have hbehind : findEntry name rest = none := findEntry_eq_none.mpr (hname ▸ h.1)
      simp [findEntry, hname, hbehind]
    · simp [findEntry, hname]

/-- The names of sorted entries differ. -/
theorem nodup_of_sortedEntries {α : Type} {entries : List (String × α)} (h : SortedEntries entries) :
    (entries.map Prod.fst).Nodup := by
  refine List.pairwise_map.mpr (h.imp fun {a b} hlt heq => ?_)
  rw [heq] at hlt
  exact String.lt_irrefl _ hlt

/-- In sorted entries the last value under a name is the first. -/
theorem findEntry_reverse {α : Type} {entries : List (String × α)} (h : SortedEntries entries)
    (name : String) : findEntry name entries.reverse = findEntry name entries :=
  findEntry_reverse_of_nodup (nodup_of_sortedEntries h) name

/-- Whether entries are made of fields from the last one on: each is put under its name, unless a
later field has the name. -/
structure KeepsLast {α β : Type} (f : α → β) (make : List (String × α) → List (String × β)) :
    Prop where
  /-- There are no entries without fields. -/
  nil : make [] = []
  /-- One more field in front of the others. -/
  cons : ∀ name x rest, make ((name, x) :: rest) =
    if (findEntry name (make rest)).isSome then make rest
    else insertEntry name (f x) (make rest)

namespace KeepsLast

variable {α β : Type} {f : α → β} {make : List (String × α) → List (String × β)}

/-- Entries that are made so are sorted. -/
theorem sorted (h : KeepsLast f make) (fields : List (String × α)) :
    SortedEntries (make fields) := by
  induction fields with
  | nil => exact h.nil ▸ List.Pairwise.nil
  | cons field rest ih =>
    rw [h.cons]
    split
    · exact ih
    · exact sortedEntries_insertEntry ih _ _

/-- The last field of a name is the one that is found under it. -/
theorem find (h : KeepsLast f make) (name : String) (fields : List (String × α)) :
    findEntry name (make fields) = (findEntry name fields.reverse).map f := by
  induction fields with
  | nil =>
    rw [h.nil]
    rfl
  | cons field rest ih =>
    have hsplit : (findEntry name (field :: rest).reverse).map f =
        (findEntry name (make rest)).or (if field.1 = name then some (f field.2) else none) := by
      rw [List.reverse_cons, findEntry_append, ih, findEntry, findEntry]
      cases findEntry name rest.reverse with
      | some tree => rfl
      | none => split <;> rfl
    rw [hsplit, h.cons]
    split
    · rename_i hlater
      split
      · rename_i hname
        rw [Option.or_of_isSome (hname ▸ hlater)]
      · rw [Option.or_none]
    · rename_i hlast
      rw [findEntry_insertEntry]
      split
      · rename_i hname
        rw [← hname, Option.not_isSome_iff_eq_none.mp hlast]
        rfl
      · rw [Option.or_none]

end KeepsLast

/-- A value has the last of several fields of one name. -/
theorem ofJsonFields_keepsLast : KeepsLast Value.ofJson Value.ofJsonFields :=
  ⟨rfl, fun _ _ _ => rfl⟩

/-- The fields of a value are sorted. -/
theorem sortedEntries_ofJsonFields (fields : List (String × Json)) :
    SortedEntries (Value.ofJsonFields fields) := ofJsonFields_keepsLast.sorted fields

/-- The last field of a name is the one that a value has. -/
theorem findEntry_ofJsonFields (name : String) (fields : List (String × Json)) :
    findEntry name (Value.ofJsonFields fields) =
      (findEntry name fields.reverse).map Value.ofJson := ofJsonFields_keepsLast.find name fields

/-- The fields of the tree of a draft are sorted. -/
theorem sortedEntries_treeFields {entries : List (String × Json)} (h : SortedEntries entries)
    (fields : List (Option String × Draft)) :
    SortedEntries (Draft.treeFields entries fields) := by
  induction fields generalizing entries with
  | nil => exact h
  | cons field rest ih => exact ih (sortedEntries_insertEntry h _ _)

/-- The last field of a name is the one that the tree of a draft has. -/
theorem findEntry_treeFields (name : String) (entries fields : List (String × Json)) :
    findEntry name (Draft.treeFields entries (fieldDrafts fields)) =
      ((findEntry name fields.reverse).map fun tree => (Draft.ofTree tree).tree).or
        (findEntry name entries) := by
  induction fields generalizing entries with
  | nil => rfl
  | cons field rest ih =>
    rw [fieldDrafts, List.map_cons, Draft.treeFields]
    refine (ih _).trans ?_
    rw [findEntry_insertEntry, List.reverse_cons, findEntry_append]
    cases findEntry name rest.reverse with
    | some tree => rfl
    | none => by_cases hname : field.1 = name <;> simp [findEntry, hname]

mutual

/-- A tree that is written and read again stands for the same value. -/
theorem ofJson_tree : ∀ tree : Json,
    Value.ofJson (Draft.ofTree tree).tree = Value.ofJson tree
  | .null => rfl
  | .bool _ => rfl
  | .number _ => rfl
  | .string _ => rfl
  | .array items => by
    rw [Draft.ofTree, Draft.tree, Value.ofJson, Value.ofJson, ofJson_treeItems items]
  | .object fields => by
    have hentry : ∀ name, ((findEntry name fields.reverse).map fun tree =>
        Value.ofJson (Draft.ofTree tree).tree) =
          (findEntry name fields.reverse).map Value.ofJson := by
      intro name
      refine Option.map_congr fun tree htree => ?_
      exact ofJson_treeField fields (List.mem_reverse.mp (mem_of_findEntry htree))
    have hsorted : SortedEntries (Draft.treeFields [] (fieldDrafts fields)) :=
      sortedEntries_treeFields List.Pairwise.nil _
    rw [Draft.ofTree, Draft.tree, Value.ofJson, Value.ofJson, ofTreeFields_eq]
    refine congrArg Value.map (sortedEntries_ext (sortedEntries_ofJsonFields _)
      (sortedEntries_ofJsonFields _) fun name => ?_)
    rw [findEntry_ofJsonFields, findEntry_ofJsonFields, findEntry_reverse hsorted,
      findEntry_treeFields, ← hentry]
    cases findEntry name fields.reverse <;> rfl

/-- The items of a sequence stand for the same values. -/
theorem ofJson_treeItems : ∀ items : List Json,
    Value.ofJsonItems (Draft.treeItems (Draft.ofTrees items)) = Value.ofJsonItems items
  | [] => rfl
  | item :: rest => by
    rw [Draft.ofTrees, Draft.treeItems, Value.ofJsonItems, Value.ofJsonItems, ofJson_tree item,
      ofJson_treeItems rest]

/-- Every field of an object stands for the same value. -/
theorem ofJson_treeField : ∀ (fields : List (String × Json)) {field : String × Json},
    field ∈ fields → Value.ofJson (Draft.ofTree field.2).tree = Value.ofJson field.2
  | [], _, h => nomatch h
  | (_, tree) :: rest, field, h => by
    rcases List.mem_cons.mp h with rfl | hrest
    · exact ofJson_tree tree
    · exact ofJson_treeField rest hrest

end

/-- A value is read from the tree that it is given by. -/
theorem readsAs_value : ReadsAs Eq Value.read fun tree => some (.ofJson tree) := by
  rintro access tree _ rfl hreads
  have hread : Value.read access (Draft.ofTree tree) =
      .ok (.ofJson (Draft.ofTree tree).tree) := by
    rw [Value.read, Draft.readTree, hreads.readAhead]
    rfl
  rw [hread, ofJson_tree]
  rfl

end CommandGrammar
