import CommandGrammar.Proofs.CommandOutlines

/-!
# The documents of outlines

Every outline has a document, a tree that spells it: an object with the fields that are given, in
the order in which they are declared. A nested command has its options in front of the fields of its
entry, all in one object.

That the document spells the outline is shown part by part. It comes down to one fact about the
fields of which there is something to say: what is found under a name is what was said of it.
-/

namespace CommandGrammar

/-! ### Fields that are given -/

section Documents

variable {β : Type}

/-- The fields of which there is something to say. -/
def givenFields (pieces : List (String × Option Json)) : List (String × Json) :=
  pieces.filterMap fun piece => piece.2.map fun tree => (piece.1, tree)

/-- The names of the fields are among the names of the pieces. -/
theorem givenFields_names (pieces : List (String × Option Json)) :
    ((givenFields pieces).map Prod.fst).Sublist (pieces.map Prod.fst) := by
  induction pieces with
  | nil => exact List.Sublist.refl _
  | cons piece rest ih =>
    obtain ⟨name, _ | tree⟩ := piece
    · exact ih.cons name
    · exact ih.cons_cons name

/-- Pieces of different names tell of nothing else. -/
theorem tellsAmong_given {names : List String} {pieces : List (String × Option Json)}
    (hnames : pieces.map Prod.fst = names) (hnodup : names.Nodup) :
    TellsAmong names (givenFields pieces) where
  once := (hnames ▸ hnodup).sublist (givenFields_names pieces)
  among _ hfield := hnames ▸ (givenFields_names pieces).subset (List.mem_map_of_mem hfield)

/-- What is said of a name is the piece of that name. -/
theorem findEntry_given {pieces : List (String × Option Json)}
    (hnodup : (pieces.map Prod.fst).Nodup) {name : String} {piece : Option Json}
    (hpiece : (name, piece) ∈ pieces) : findEntry name (givenFields pieces) = piece := by
  induction pieces with
  | nil => cases hpiece
  | cons first rest ih =>
    obtain ⟨hfirst, hrest⟩ := List.nodup_cons.mp hnodup
    have hbehind : findEntry first.1 (givenFields rest) = none :=
      findEntry_eq_none.mpr fun h => hfirst ((givenFields_names rest).subset h)
    rcases List.mem_cons.mp hpiece with rfl | hlater
    · cases piece with
      | none => exact hbehind
      | some tree => exact if_pos rfl
    · have hne : first.1 ≠ name := fun heq => hfirst (heq ▸ List.mem_map_of_mem hlater)
      obtain ⟨other, _ | tree⟩ := first
      · exact ih hrest hlater
      · exact (if_neg hne).trans (ih hrest hlater)

/-- A piece that is spelled tells of what it spells. -/
theorem tells_given {spells : β → Json → Prop} {write : β → Json} (hwrite : ∀ x, spells x (write x))
    {pieces : List (String × Option Json)} (hnodup : (pieces.map Prod.fst).Nodup) {name : String}
    {piece : Option β} (hpiece : (name, piece.map write) ∈ pieces) :
    Tells spells piece name (givenFields pieces) := by
  rw [Tells, findEntry_given hnodup hpiece]
  cases piece with
  | none => exact .none
  | some x => exact .some (hwrite x)

/-- The items of a list as a sequence. -/
def writeList (write : β → Json) (items : List β) : Json := .array (items.map write)

/-- A list is spelled by the sequence of what spells its items. -/
theorem spells_writeList {spells : β → Json → Prop} {write : β → Json}
    (hwrite : ∀ x, spells x (write x)) (items : List β) :
    SpellsList spells items (writeList write items) :=
  ⟨items.map write, rfl, List.forall₂_map_right_iff.mpr (List.forall₂_same.mpr fun x _ => hwrite x)⟩

end Documents

/-! ### The documents of the parts -/

/-- A text spells itself. -/
theorem spells_string (text : String) : SpellsText text (.string text) := rfl

/-- A boolean spells itself. -/
theorem spells_bool (b : Bool) : SpellsBool b (.bool b) := rfl

/-- Texts as a sequence. -/
def writeTexts : List String → Json := writeList .string

/-- A list of texts is spelled. -/
theorem spells_writeTexts (texts : List String) : SpellsList SpellsText texts (writeTexts texts) :=
  spells_writeList spells_string texts

/-- The word for the shape of a run. -/
def writeMode : RunMode → Json
  | .list => .string "list"
  | .map => .string "map"

/-- The word for the shape of a run spells it. -/
theorem spells_writeMode (mode : RunMode) : SpellsMode mode (writeMode mode) := by
  cases mode <;> rfl

/-- The document of a trigger. -/
def writeTrigger : Trigger → Json
  | .literal text => .string text
  | .unit kind => .object [("unit", .string kind)]

/-- The document of a trigger spells it. -/
theorem spells_writeTrigger (trigger : Trigger) : SpellsTrigger trigger (writeTrigger trigger) := by
  cases trigger <;> rfl

/-- A text that may be absent, or null. -/
def writeTextOrNull : Option String → Json
  | none => .null
  | some text => .string text

/-- A text that may be absent is spelled. -/
theorem spells_writeTextOrNull (text : Option String) :
    SpellsTextOrNull text (writeTextOrNull text) := by
  cases text <;> rfl

/-- The document of a strategy. -/
def StrategyOutline.document : StrategyOutline → Json
  | short text => .string text
  | union parts => .object [("union", .object (givenFields
      [("equals", parts.equals.map writeTexts), ("patterns", parts.patterns.map writeTexts),
      ("kinds", parts.kinds.map writeTexts), ("negated", parts.negated.map .bool)]))]
  | multi inner mode => .object (givenFields
      [("multi", (some inner).map .string), ("mode", mode.map writeMode)])

/-- The document of a strategy spells it. -/
theorem StrategyOutline.spells_document (o : StrategyOutline) : SpellsStrategy o o.document := by
  cases o with
  | short text => rfl
  | union parts =>
    refine ⟨_, rfl, _, rfl, tellsAmong_given rfl (by decide), ?_, ?_, ?_, ?_⟩
    · exact tells_given spells_writeTexts (by simp) (by simp)
    · exact tells_given spells_writeTexts (by simp) (by simp)
    · exact tells_given spells_writeTexts (by simp) (by simp)
    · exact tells_given spells_bool (by simp) (by simp)
  | multi inner mode =>
    refine ⟨_, rfl, tellsAmong_given rfl (by decide), ?_, ?_⟩
    · exact tells_given spells_string (by simp) (by simp)
    · exact tells_given spells_writeMode (by simp) (by simp)

/-- The document of a slot. -/
def SlotOutline.document (o : SlotOutline) : Json :=
  .object (givenFields
    [("name", (some o.name).map .string), ("pattern", (some o.strategy).map (·.document)),
    ("default", o.default.map id), ("optional", o.optional.map .bool)])

/-- The document of a slot spells it. -/
theorem SlotOutline.spells_document (o : SlotOutline) : SpellsSlot o o.document := by
  refine ⟨_, rfl, tellsAmong_given rfl (by decide), ?_, ?_, ?_, ?_⟩
  · exact tells_given spells_string (by simp) (by simp)
  · exact tells_given StrategyOutline.spells_document (by simp) (by simp)
  · exact tells_given (fun tree => Eq.refl tree) (by simp) (by simp)
  · exact tells_given spells_bool (by simp) (by simp)

/-- The document of some slots. -/
def writeSlots : List SlotOutline → Json := writeList SlotOutline.document

/-- What there is to say of an entry. -/
def EntryOutline.pieces (o : EntryOutline) : List (String × Option Json) :=
  [("name", (some o.name).map .string), ("aliases", o.aliases.map writeTexts),
  ("args", o.args.map writeSlots), ("separator", o.separator.map writeTextOrNull),
  ("help", o.help.map .string)]

/-- What there is to say of an entry tells of it, also where more is said. -/
theorem EntryOutline.tells_pieces (o : EntryOutline) {more : List (String × Option Json)}
    (hnodup : (more.map Prod.fst).Nodup) (hsub : ∀ piece ∈ o.pieces, piece ∈ more) :
    TellsEntry o (givenFields more) where
  name := tells_given spells_string hnodup (hsub _ (by simp [EntryOutline.pieces]))
  aliases := tells_given spells_writeTexts hnodup (hsub _ (by simp [EntryOutline.pieces]))
  args := tells_given (spells_writeList SlotOutline.spells_document) hnodup
    (hsub _ (by simp [EntryOutline.pieces, writeSlots]))
  separator := tells_given spells_writeTextOrNull hnodup (hsub _ (by simp [EntryOutline.pieces]))
  help := tells_given spells_string hnodup (hsub _ (by simp [EntryOutline.pieces]))

/-- The document of an entry. -/
def EntryOutline.document (o : EntryOutline) : Json := .object (givenFields o.pieces)

/-- The document of an entry spells it. -/
theorem EntryOutline.spells_document (o : EntryOutline) : SpellsEntry o o.document :=
  ⟨_, rfl, tellsAmong_given rfl (by decide), o.tells_pieces (by simp [pieces]) fun _ h => h⟩

/-- The document of a nested command. -/
def SubcommandOutline.document (o : SubcommandOutline) : Json :=
  .object (givenFields
    (("options", o.options.map (writeList EntryOutline.document)) :: o.entry.pieces))

/-- The document of a nested command spells it. -/
theorem SubcommandOutline.spells_document (o : SubcommandOutline) :
    SpellsSubcommand o o.document := by
  have hnodup : ((("options", o.options.map (writeList EntryOutline.document)) ::
      o.entry.pieces).map Prod.fst).Nodup := by simp [EntryOutline.pieces]
  exact ⟨_, rfl, tellsAmong_given rfl (by decide),
    o.entry.tells_pieces hnodup fun _ h => List.mem_cons_of_mem _ h,
    tells_given (spells_writeList EntryOutline.spells_document) hnodup List.mem_cons_self⟩

/-! ### The documents of commands -/

/-- What there is to say of a command. -/
def CommandOutline.pieces (o : CommandOutline) : List (String × Option Json) :=
  [("name", (some o.name).map .string), ("triggers", o.triggers.map (writeList writeTrigger)),
  ("separator", o.separator.map .string), ("raise_on_failure", o.raises.map .bool),
  ("args", o.args.map writeSlots), ("options", o.options.map (writeList EntryOutline.document)),
  ("subcommands", o.subcommands.map (writeList SubcommandOutline.document)),
  ("filter_out", o.excluded.map writeTexts), ("help", o.help.map .string)]

/-- The document of a command. -/
def CommandOutline.document (o : CommandOutline) : Json := .object (givenFields o.pieces)

/-- The document of a command spells it. -/
theorem CommandOutline.spells_document (o : CommandOutline) : SpellsCommand o o.document := by
  have hnodup : (o.pieces.map Prod.fst).Nodup := by simp [pieces]
  refine ⟨_, rfl, tellsAmong_given rfl (by decide), ?_⟩
  constructor
  · exact tells_given spells_string hnodup (by simp [pieces])
  · exact tells_given (spells_writeList spells_writeTrigger) hnodup (by simp [pieces])
  · exact tells_given spells_string hnodup (by simp [pieces])
  · exact tells_given spells_bool hnodup (by simp [pieces])
  · exact tells_given (spells_writeList SlotOutline.spells_document) hnodup
      (by simp [pieces, writeSlots])
  · exact tells_given (spells_writeList EntryOutline.spells_document) hnodup (by simp [pieces])
  · exact tells_given (spells_writeList SubcommandOutline.spells_document) hnodup
      (by simp [pieces])
  · exact tells_given spells_writeTexts hnodup (by simp [pieces])
  · exact tells_given spells_string hnodup (by simp [pieces])

end CommandGrammar
