import CommandGrammar.Proofs.CommandOutlines

/-!
# Reading outlines of commands

Every part of an outline is read as it is built: where one gives a result, so does the other, and
the same. The parts are taken in the order in which they contain each other, up to `readsAs_config`
for the description of a command.

A record is read in the order in which its fields are declared, and the outline is built in an order
of its own, as the parts are put together. What is read plainly is put in its place first, and the
parts that can fail are then compared one by one. A nested command differs: its options are read as
they come, and the rest of its fields afterwards as those of an entry.
-/

namespace CommandGrammar

/-! ### Reading strategies and slots -/

/-- The parts of alternatives are read apart from each other. -/
theorem alternativesRecord_lawful : alternativesRecord.Lawful where
  named := by decide
  apart := by
    simp only [alternativesRecord, List.pairwise_cons, List.forall_mem_cons, List.not_mem_nil,
      false_imp_iff, implies_true, List.Pairwise.nil, and_true]
    and_intros <;> exact Field.apart_of (fun _ _ _ => rfl) (fun _ _ => rfl) fun _ _ => rfl

/-- The pattern and the shape of a run are read apart from each other. -/
theorem multiRecord_lawful : multiRecord.Lawful where
  named := by decide
  apart := by
    simp only [multiRecord, List.pairwise_cons, List.forall_mem_cons, List.not_mem_nil,
      false_imp_iff, implies_true, List.Pairwise.nil, and_true]
    exact Field.apart_of (fun _ _ _ => rfl) (fun _ _ => rfl) fun _ _ => rfl

/-- The parts of a slot are read apart from each other. -/
theorem slotRecord_lawful : slotRecord.Lawful where
  named := by decide
  apart := by
    simp only [slotRecord, List.pairwise_cons, List.forall_mem_cons, List.not_mem_nil,
      false_imp_iff, implies_true, List.Pairwise.nil, and_true]
    and_intros <;> exact Field.apart_of (fun _ _ _ => rfl) (fun _ _ => rfl) fun _ _ => rfl

/-- The shape of a run is read. -/
theorem readsAs_mode : ReadsAs SpellsMode RunMode.read some := by
  rintro access mode tree rfl -
  cases mode <;> rfl

/-- Alternatives are read with all their parts. -/
theorem readsAs_alternatives : ReadsAs SpellsAlternatives
    (alternativesRecord.read ⟨none, none, none, none⟩) some := by
  rintro access parts tree ⟨fields, rfl, hamong, hequals, hpatterns, hkinds, hnegated⟩ hreads
  obtain ⟨inner, henter, hfields⟩ := hreads.enter_object
  have hsaid : readSaid inner (saidBy fields) alternativesRecord.fields
      ⟨none, none, none, none⟩ = some parts := by
    refine (readSaid_plain readsAs_texts hequals hfields
      (fun x => AlternativesParts.mk x none none none) rfl fun _ => rfl).trans ?_
    refine (readSaid_plain readsAs_texts hpatterns hfields
      (fun x => AlternativesParts.mk parts.equals x none none) rfl fun _ => rfl).trans ?_
    refine (readSaid_plain readsAs_texts hkinds hfields
      (fun x => AlternativesParts.mk parts.equals parts.patterns x none) rfl fun _ => rfl).trans ?_
    exact readSaid_plain readsAs_bool hnegated hfields
      (fun x => AlternativesParts.mk parts.equals parts.patterns parts.kinds x) rfl fun _ => rfl
  rw [read_object alternativesRecord_lawful henter hamong (by decide), hsaid]
  rfl

/-- The form that names alternatives has one part. -/
theorem unionRecord_lawful : unionRecord.Lawful where
  named := by decide
  apart := List.pairwise_singleton _ _

/-- Alternatives are read in the form that names them. -/
theorem form_of_union {parts : AlternativesParts} {inner : Json}
    (h : SpellsAlternatives parts inner) :
    StrategyForm.ofDraft? (Draft.ofTree (.object [("union", inner)])) = some (.union parts) := by
  have hamong : TellsAmong unionRecord.names [("union", inner)] :=
    ⟨by simp, fun field hfield => by
      rw [List.mem_singleton.mp hfield]
      exact List.mem_singleton.mpr rfl⟩
  have htells : Tells SpellsAlternatives (some parts) "union" [("union", inner)] := .some h
  have hsaid : readSaid .ahead (saidBy [("union", inner)]) unionRecord.fields none =
      some (some parts) :=
    readSaid_plain readsAs_alternatives htells (fun _ _ => Access.reads_ahead _) id rfl
      fun _ => rfl
  have hread : (unionRecord.read none .ahead
      (Draft.ofTree (.object [("union", inner)]))).toOption = some (some parts) := by
    rw [read_object unionRecord_lawful rfl hamong (by decide), hsaid]
    rfl
  rw [Draft.ofTree] at hread ⊢
  simp only [StrategyForm.ofDraft?, hread, Option.join_some]

/-- An object without alternatives is not read as some. -/
theorem read_union_none {fields : List (String × Json)} (h : ∀ field ∈ fields, field.1 ≠ "union") :
    (unionRecord.read none .ahead (Draft.ofTree (.object fields))).toOption = none := by
  have hunknown : ∀ field ∈ fields, field.1 ∉ unionRecord.names :=
    fun field hfield hunion => h field hfield (List.mem_singleton.mp hunion)
  rw [Draft.ofTree, ofTreeFields_eq]
  change (unionRecord.readFields .ahead (fieldDrafts fields) none >>= fun parts =>
    Record.checkGiven unionRecord.fields parts).toOption = none
  rw [readFields_unknown rfl hunknown]
  rfl

/-- A run is read in the form that names its pattern, after the form of alternatives was tried. -/
theorem form_of_multi {inner : String} {mode : Option RunMode} {fields : List (String × Json)}
    (hamong : TellsAmong multiRecord.names fields)
    (hinner : Tells SpellsText (some inner) "multi" fields)
    (hmode : Tells SpellsMode mode "mode" fields) :
    StrategyForm.ofDraft? (Draft.ofTree (.object fields)) =
      some (.multi inner (mode.getD .list)) := by
  have hother : (unionRecord.read none .ahead (Draft.ofTree (.object fields))).toOption = none :=
    read_union_none fun field hfield heq =>
      absurd (hamong.among field hfield) (by rw [heq]; decide)
  have hsaid : readSaid .ahead (saidBy fields) multiRecord.fields (none, none) =
      some (some inner, mode) := by
    refine (readSaid_plain readsAs_text hinner (fun _ _ => Access.reads_ahead _)
      (fun x => (x, none)) rfl fun _ => rfl).trans ?_
    exact readSaid_plain readsAs_mode hmode (fun _ _ => Access.reads_ahead _)
      (fun x => (some inner, x)) rfl fun _ => rfl
  have hread : (multiRecord.read (none, none) .ahead
      (Draft.ofTree (.object fields))).toOption = some (some inner, mode) := by
    rw [read_object multiRecord_lawful rfl hamong (by decide), hsaid]
    rfl
  rw [Draft.ofTree] at hother hread ⊢
  simp only [StrategyForm.ofDraft?, hother, hread, Option.join_none, Option.map_some]

/-- A strategy is read in the form that it is spelled in. -/
theorem form_of_spells {o : StrategyOutline} {tree : Json} (h : SpellsStrategy o tree) :
    ∃ form, StrategyForm.ofDraft? (Draft.ofTree tree) = some form ∧ form.build = o.build := by
  cases o with
  | short text =>
    obtain rfl : tree = .string text := h
    exact ⟨.short text, rfl, rfl⟩
  | union parts =>
    obtain ⟨inner, rfl, hinner⟩ := h
    exact ⟨.union parts, form_of_union hinner, rfl⟩
  | multi inner mode =>
    obtain ⟨fields, rfl, hamong, hinner, hmode⟩ := h
    exact ⟨.multi inner (mode.getD .list), form_of_multi hamong hinner hmode, rfl⟩

/-- Strategies are read as they are built. -/
theorem readsAs_strategy :
    ReadsAs SpellsStrategy Strategy.read fun o => o.build.toOption := by
  intro access o tree hspells hreads
  obtain ⟨form, hform, hbuild⟩ := form_of_spells hspells
  have hread : Strategy.read access (Draft.ofTree tree) = built form.build := by
    simp only [Strategy.read, hreads.readAhead, hform]
    rfl
  rw [hread, toOption_built, hbuild]

/-- A slot is built of its strategy, and of its default and whether it may stay empty as they are
given. -/
theorem toOption_build_slot (o : SlotOutline) :
    o.build.toOption = o.strategy.build.toOption.bind fun strategy =>
      some ⟨o.name, strategy, o.default.map .ofJson, o.optional.getD false⟩ := by
  obtain ⟨name, strategy, default, optional⟩ := o
  rw [SlotOutline.build, toOption_bind]
  refine Option.bind_congr fun strategy _ => ?_
  cases default <;> rcases optional with _ | (_ | _) <;> rfl

/-- Slots are read as they are built. -/
theorem readsAs_slot : ReadsAs SpellsSlot Slot.read fun o => o.build.toOption := by
  rintro access o tree ⟨fields, rfl, hamong, hname, hstrategy, hdefault, hoptional⟩ hreads
  obtain ⟨inner, henter, hfields⟩ := hreads.enter_object
  have hsaid : readSaid inner (saidBy fields) slotRecord.fields ⟨none, none, none, none⟩ =
      o.strategy.build.toOption.bind fun strategy =>
        some ⟨some o.name, some strategy, o.default.map .ofJson, o.optional⟩ := by
    refine (readSaid_plain readsAs_text hname hfields
      (fun x => SlotParts.mk x none none none) rfl fun _ => rfl).trans ?_
    refine (readSaid_of readsAs_strategy hstrategy hfields
      (fun x => SlotParts.mk (some o.name) x none none) rfl fun _ => rfl).trans ?_
    change (o.strategy.build.toOption.map some).bind _ = _
    rw [Option.bind_map]
    refine Option.bind_congr fun strategy _ => ?_
    have hvalue : o.default.mapM (fun tree => some (Value.ofJson tree)) =
        some (o.default.map .ofJson) := by cases o.default <;> rfl
    refine (readSaid_of readsAs_value hdefault hfields
      (fun x => SlotParts.mk (some o.name) (some strategy) x none) rfl fun _ => rfl).trans ?_
    rw [hvalue]
    exact readSaid_plain readsAs_bool hoptional hfields
      (fun x => SlotParts.mk (some o.name) (some strategy) (o.default.map .ofJson) x) rfl
      fun _ => rfl
  have hparts : (slotRecord.read ⟨none, none, none, none⟩ access
      (Draft.ofTree (.object fields))).toOption = o.strategy.build.toOption.bind fun strategy =>
        some ⟨some o.name, some strategy, o.default.map .ofJson, o.optional⟩ := by
    rw [read_object slotRecord_lawful henter hamong (by decide), hsaid, Option.bind_assoc]
    rfl
  rw [Slot.read, toOption_bind, hparts, Option.bind_assoc]
  exact (toOption_build_slot o).symm

/-- A list of slots is read as it is built. -/
theorem readsAs_slots :
    ReadsAs (SpellsList SpellsSlot) SlotList.read fun slots => (buildSlots slots).toOption := by
  intro access slots tree hspells hreads
  rw [SlotList.read, toOption_bind, readsAs_list readsAs_slot access slots tree hspells hreads]
  simp only [buildSlots, toOption_bind, toOption_mapM, toOption_built]

/-! ### Reading entries and nested commands -/

/-- The parts of an entry are read apart from each other. -/
theorem entryRecord_lawful : entryRecord.Lawful where
  named := by decide
  apart := by
    simp only [entryRecord, List.pairwise_cons, List.forall_mem_cons, List.not_mem_nil,
      false_imp_iff, implies_true, List.Pairwise.nil, and_true]
    and_intros <;> exact Field.apart_of (fun _ _ _ => rfl) (fun _ _ => rfl) fun _ _ => rfl

/-- What is read of an entry that is spelled. -/
def EntryOutline.parts (o : EntryOutline) : Option EntryParts := do
  let args ← o.args.mapM fun slots => (buildSlots slots).toOption
  some ⟨some o.name, o.aliases, args, o.separator, o.help⟩

/-- What is said of an entry is read. -/
theorem readSaid_entry {o : EntryOutline} {fields : List (String × Json)}
    (htells : TellsEntry o fields) {access : Access}
    (hreads : ∀ field ∈ fields, access.Reads field.2) :
    readSaid access (saidBy fields) entryRecord.fields .none = o.parts := by
  refine (readSaid_plain readsAs_text htells.name hreads
    (fun x => EntryParts.mk x none none none none) rfl fun _ => rfl).trans ?_
  refine (readSaid_plain readsAs_texts htells.aliases hreads
    (fun x => EntryParts.mk (some o.name) x none none none) rfl fun _ => rfl).trans ?_
  refine (readSaid_of readsAs_slots htells.args hreads
    (fun x => EntryParts.mk (some o.name) o.aliases x none none) rfl fun _ => rfl).trans ?_
  refine Option.bind_congr fun args _ => ?_
  refine (readSaid_plain readsAs_textOrNull htells.separator hreads
    (fun x => EntryParts.mk (some o.name) o.aliases args x none) rfl fun _ => rfl).trans ?_
  exact readSaid_plain readsAs_text htells.help hreads
    (fun x => EntryParts.mk (some o.name) o.aliases args o.separator x) rfl fun _ => rfl

/-- An entry of names has no slots and no help text yet. -/
theorem ofNames_plain {text : String} {e : Entry} (h : Entry.ofNames text = .ok e) :
    e.args = .empty ∧ e.help = "" := by
  unfold Entry.ofNames at h
  split at h
  · cases h
  · cases h
    exact ⟨rfl, rfl⟩

/-- An entry is built of the parts that are read as it is assembled. -/
theorem build_eq_assemble (o : EntryOutline) (args : Option SlotList) :
    EntryParts.build ⟨some o.name, o.aliases, args, o.separator, o.help⟩ = o.assemble args := by
  cases hnames : Entry.ofNames o.name with
  | error fault =>
    rw [EntryParts.build, EntryOutline.assemble, Option.getD_some, hnames]
    rfl
  | ok entry =>
    obtain ⟨hargs, hhelp⟩ := ofNames_plain hnames
    have hslots : args.elim entry entry.withArgs = entry.withArgs (args.getD .empty) := by
      cases args with
      | none =>
        rw [Option.getD_none, ← hargs]
        rfl
      | some slots => rfl
    have htext : ∀ e : Entry, e.help = "" →
        o.help.elim e e.withHelp = e.withHelp (o.help.getD "") := by
      intro e hplain
      cases o.help with
      | none =>
        rw [Option.getD_none, ← hplain]
        rfl
      | some text => rfl
    have hstart : o.help.elim (args.elim entry entry.withArgs)
          (args.elim entry entry.withArgs).withHelp =
        (entry.withArgs (args.getD .empty)).withHelp (o.help.getD "") := by
      rw [hslots]
      exact htext _ hhelp
    rw [EntryParts.build, EntryOutline.assemble, Option.getD_some, hnames]
    exact congrArg (fun e => (o.aliases.getD []).foldlM Entry.withAlias e >>= fun e =>
      e.withSeparator? o.separator.join) hstart.symm

/-- An entry is built of what is read of it, where nothing is missing. -/
theorem bind_parts (o : EntryOutline) :
    (o.parts.bind fun parts => (Record.checkGiven entryRecord.fields parts).toOption.bind
      fun parts => parts.build.toOption) = o.build.toOption := by
  simp only [EntryOutline.parts, EntryOutline.build, toOption_bind, toOption_mapM_option,
    Option.bind_eq_bind, Option.bind_assoc]
  refine Option.bind_congr fun args _ => ?_
  rw [← build_eq_assemble]
  rfl

/-- Entries are read as they are built. -/
theorem readsAs_entry : ReadsAs SpellsEntry Entry.read fun o => o.build.toOption := by
  rintro access o tree ⟨fields, rfl, hamong, htells⟩ hreads
  obtain ⟨inner, henter, hfields⟩ := hreads.enter_object
  have hparts : (entryRecord.read .none access (Draft.ofTree (.object fields))).toOption =
      o.parts.bind fun parts => (Record.checkGiven entryRecord.fields parts).toOption := by
    rw [read_object entryRecord_lawful henter hamong (by decide), readSaid_entry htells hfields]
  rw [Entry.read, toOption_bind, hparts, Option.bind_assoc]
  simp only [toOption_built]
  exact bind_parts o

/-- The options that the fields of a nested command give. -/
def readOptions (access : Access) (fields : List (String × Json)) :
    Option (Option (List Entry)) :=
  (findEntry "options" fields).mapM fun tree =>
    (Draft.readList Entry.read access (Draft.ofTree tree)).toOption

/-- The fields of a nested command that belong to its entry. -/
def entryFields (fields : List (String × Json)) : List (String × Json) :=
  fields.filter fun field => field.1 != "options"

/-- Options are read when they come. -/
theorem subcommandFields_options (access : Access) (d : Draft) (rest : List (Option String × Draft))
    {parts : SubcommandParts} (hnone : parts.options = none) :
    (SubcommandParts.readFields access ((some "options", d) :: rest) parts).toOption =
      (Draft.readList Entry.read access d).toOption.bind fun options =>
        (SubcommandParts.readFields access rest
          { parts with options := some options }).toOption := by
  rw [SubcommandParts.readFields, if_pos rfl, hnone]
  exact toOption_bind _ _

/-- A field of another name is kept. -/
theorem subcommandFields_other {access : Access} {name : String} (hname : name ≠ "options")
    {tree : Json} (hreads : access.Reads tree) (rest : List (Option String × Draft))
    (parts : SubcommandParts) :
    SubcommandParts.readFields access ((some name, Draft.ofTree tree) :: rest) parts =
      SubcommandParts.readFields access rest
        { parts with others := (some name, Draft.ofTree tree) :: parts.others } := by
  rw [SubcommandParts.readFields, if_neg hname, hreads.readAhead]
  rfl

/-- The options are read where they come, and the other fields are kept as they come. -/
theorem toOption_subcommandFields {access : Access} {fields : List (String × Json)}
    (honce : (fields.map Prod.fst).Nodup) (hreads : ∀ field ∈ fields, access.Reads field.2)
    {parts : SubcommandParts}
    (hfresh : "options" ∈ fields.map Prod.fst → parts.options = none) :
    (SubcommandParts.readFields access (fieldDrafts fields) parts).toOption =
      (readOptions access fields).map fun options =>
        ⟨options.or parts.options,
          (fieldDrafts (entryFields fields)).reverse ++ parts.others⟩ := by
  induction fields generalizing parts with
  | nil => rfl
  | cons first rest ih =>
    obtain ⟨name, tree⟩ := first
    obtain ⟨hfirst, hrest⟩ := List.nodup_cons.mp honce
    have hlater : ∀ field ∈ rest, access.Reads field.2 :=
      fun field hfield => hreads field (List.mem_cons_of_mem _ hfield)
    by_cases hname : name = "options"
    · subst hname
      have hnone : parts.options = none := hfresh List.mem_cons_self
      have hbehind : readOptions access rest = some none := by
        rw [readOptions, findEntry_eq_none.mpr hfirst]
        rfl
      have hhere : readOptions access (("options", tree) :: rest) =
          (Draft.readList Entry.read access (Draft.ofTree tree)).toOption.map some := rfl
      refine (subcommandFields_options access (Draft.ofTree tree) _ hnone).trans ?_
      rw [hhere, Option.map_map, Option.map_eq_bind]
      refine Option.bind_congr fun options _ => ?_
      rw [← fieldDrafts, ih hrest hlater fun h => absurd h hfirst, hbehind, hnone]
      rfl
    · have hhere : readOptions access ((name, tree) :: rest) = readOptions access rest := by
        rw [readOptions, findEntry, if_neg hname]
        rfl
      have hkept : entryFields ((name, tree) :: rest) = (name, tree) :: entryFields rest :=
        List.filter_cons_of_pos (bne_iff_ne.mpr hname)
      have hstep := subcommandFields_other hname (hreads (name, tree) List.mem_cons_self)
        (fieldDrafts rest) parts
      have hnext : "options" ∈ rest.map Prod.fst →
          { parts with others := (some name, Draft.ofTree tree) :: parts.others }.options = none :=
        fun h => hfresh (List.mem_cons_of_mem _ h)
      refine (congrArg Except.toOption hstep).trans ((ih hrest hlater hnext).trans ?_)
      rw [hhere, hkept]
      simp [fieldDrafts]

/-- What is found under another name is found among the fields of the entry. -/
theorem findEntry_entryFields {name : String} (hname : name ≠ "options")
    (fields : List (String × Json)) :
    findEntry name (entryFields fields) = findEntry name fields := by
  induction fields with
  | nil => rfl
  | cons first rest ih =>
    by_cases hfirst : first.1 = "options"
    · have hother : first.1 ≠ name := fun h => hname (h.symm.trans hfirst)
      rw [entryFields, List.filter_cons_of_neg (by simp [hfirst]), findEntry, if_neg hother]
      exact ih
    · rw [entryFields, List.filter_cons_of_pos (by simp [hfirst]), findEntry, findEntry]
      split
      · rfl
      · exact ih

/-- The fields that belong to the entry tell of it. -/
theorem tellsEntry_entryFields {o : EntryOutline} {fields : List (String × Json)}
    (h : TellsEntry o fields) : TellsEntry o (entryFields fields) := by
  have hfound : ∀ name, name ≠ "options" → findEntry name (entryFields fields) =
    findEntry name fields := fun name hname => findEntry_entryFields hname fields
  constructor
  · rw [Tells, hfound _ (by decide)]
    exact h.name
  · rw [Tells, hfound _ (by decide)]
    exact h.aliases
  · rw [Tells, hfound _ (by decide)]
    exact h.args
  · rw [Tells, hfound _ (by decide)]
    exact h.separator
  · rw [Tells, hfound _ (by decide)]
    exact h.help

/-- Nested commands are read as they are built. -/
theorem readsAs_subcommand :
    ReadsAs SpellsSubcommand Subcommand.read fun o => o.build.toOption := by
  rintro access o tree ⟨fields, rfl, hamong, htells, hoptions⟩ hreads
  obtain ⟨inner, henter, hfields⟩ := hreads.enter_object
  let lenient : Record EntryParts := { entryRecord with isStrict := false }
  have hlawful : lenient.Lawful := ⟨entryRecord_lawful.named, entryRecord_lawful.apart⟩
  have hkept : TellsAmong lenient.names (entryFields fields) := by
    refine ⟨hamong.once.sublist (List.filter_sublist.map _), fun field hfield => ?_⟩
    obtain ⟨hmem, hname⟩ := List.mem_filter.mp hfield
    exact (List.mem_cons.mp (hamong.among field hmem)).resolve_left (bne_iff_ne.mp hname)
  have hgiven : readOptions inner fields =
      o.options.mapM fun options => options.mapM fun e => e.build.toOption :=
    mapM_tells (readsAs_list readsAs_entry) hoptions hfields
  have hentry : ((lenient.readFields .ahead (fieldDrafts (entryFields fields))
      .none).toOption.bind fun parts => (Record.checkGiven entryRecord.fields parts).toOption.bind
        fun parts => parts.build.toOption) = o.entry.build.toOption := by
    rw [readFields_said hlawful hkept fun field hfield _ => ?_]
    · change ((readSaid .ahead (saidBy (entryFields fields)) entryRecord.fields .none).bind _) = _
      rw [readSaid_entry (tellsEntry_entryFields htells) fun _ _ => Access.reads_ahead _]
      exact bind_parts o.entry
    · exact (by decide : ∀ field ∈ entryRecord.fields, field.isGiven .none = false) field hfield
  have hread : (Subcommand.read access (Draft.ofTree (.object fields))).toOption =
      (SubcommandParts.readFields inner (fieldDrafts fields) ⟨none, []⟩).toOption.bind fun parts =>
        ((lenient.readFields .ahead parts.others.reverse .none).toOption.bind fun entryParts =>
          (Record.checkGiven entryRecord.fields entryParts).toOption.bind fun entryParts =>
            entryParts.build.toOption).bind fun entry =>
              (Subcommand.ofOptions entry (parts.options.getD [])).toOption := by
    rw [Draft.ofTree, ofTreeFields_eq, Subcommand.read, henter]
    change (SubcommandParts.readFields inner (fieldDrafts fields) ⟨none, []⟩ >>= fun parts =>
      lenient.readFields .ahead parts.others.reverse .none >>= fun entryParts =>
        Record.checkGiven entryRecord.fields entryParts >>= fun entryParts =>
          built entryParts.build >>= fun entry =>
            built (Subcommand.ofOptions entry (parts.options.getD []))).toOption = _
    simp only [toOption_bind, toOption_built, Option.bind_assoc]
  rw [hread, toOption_subcommandFields hamong.once hfields fun _ => rfl, hgiven, Option.bind_map]
  simp only [Function.comp_def, List.append_nil, List.reverse_reverse, Option.or_none, hentry]
  rw [Option.bind_comm]
  simp only [SubcommandOutline.build, toOption_bind, toOption_mapM_option, toOption_mapM]

/-! ### Reading commands -/

/-- Triggers are read. -/
theorem readsAs_trigger : ReadsAs SpellsTrigger Trigger.read some := by
  intro access trigger tree hspells hreads
  rw [Trigger.read, hreads.readAhead]
  cases trigger with
  | literal text =>
    obtain rfl : tree = .string text := hspells
    rfl
  | unit kind =>
    obtain rfl : tree = .object [("unit", .string kind)] := hspells
    rfl

/-- A list of triggers is read. -/
theorem readsAs_triggers :
    ReadsAs (SpellsList SpellsTrigger) (Draft.readList Trigger.read) some :=
  readsAs_items readsAs_trigger

/-- The parts of a command are read apart from each other. -/
theorem configRecord_lawful : configRecord.Lawful where
  named := by decide
  apart := by
    simp only [configRecord, List.pairwise_cons, List.forall_mem_cons, List.not_mem_nil,
      false_imp_iff, implies_true, List.Pairwise.nil, and_true]
    and_intros <;> exact Field.apart_of (fun _ _ _ => rfl) (fun _ _ => rfl) fun _ _ => rfl

/-- What is read of a command that is spelled. -/
def CommandOutline.parts (o : CommandOutline) : Option ConfigParts := do
  let args ← o.args.mapM fun slots => (buildSlots slots).toOption
  let options ← o.options.mapM fun options => options.mapM fun e => e.build.toOption
  let subs ← o.subcommands.mapM fun subs => subs.mapM fun s => s.build.toOption
  some ⟨some o.name, o.triggers, o.separator, o.raises, args, options, subs, o.excluded, o.help⟩

/-- What is said of a command is read. -/
theorem readSaid_config {o : CommandOutline} {fields : List (String × Json)}
    (htells : TellsCommand o fields) {access : Access}
    (hreads : ∀ field ∈ fields, access.Reads field.2) :
    readSaid access (saidBy fields) configRecord.fields
        ⟨none, none, none, none, none, none, none, none, none⟩ = o.parts := by
  refine (readSaid_plain readsAs_text htells.name hreads
    (fun x => ConfigParts.mk x none none none none none none none none) rfl fun _ => rfl).trans ?_
  refine (readSaid_plain readsAs_triggers htells.triggers hreads
    (fun x => ConfigParts.mk (some o.name) x none none none none none none none)
    rfl fun _ => rfl).trans ?_
  refine (readSaid_plain readsAs_text htells.separator hreads
    (fun x => ConfigParts.mk (some o.name) o.triggers x none none none none none none)
    rfl fun _ => rfl).trans ?_
  refine (readSaid_plain readsAs_bool htells.raises hreads
    (fun x => ConfigParts.mk (some o.name) o.triggers o.separator x none none none none none)
    rfl fun _ => rfl).trans ?_
  refine (readSaid_of readsAs_slots htells.args hreads
    (fun x => ConfigParts.mk (some o.name) o.triggers o.separator o.raises x none none none none)
    rfl fun _ => rfl).trans ?_
  refine Option.bind_congr fun args _ => ?_
  refine (readSaid_of (readsAs_list readsAs_entry) htells.options hreads
    (fun x => ConfigParts.mk (some o.name) o.triggers o.separator o.raises args x none none none)
    rfl fun _ => rfl).trans ?_
  refine Option.bind_congr fun options _ => ?_
  refine (readSaid_of (readsAs_list readsAs_subcommand) htells.subcommands hreads
    (fun x => ConfigParts.mk (some o.name) o.triggers o.separator o.raises args options x none none)
    rfl fun _ => rfl).trans ?_
  refine Option.bind_congr fun subs _ => ?_
  refine (readSaid_plain readsAs_texts htells.excluded hreads
    (fun x => ConfigParts.mk (some o.name) o.triggers o.separator o.raises args options subs x none)
    rfl fun _ => rfl).trans ?_
  exact readSaid_plain readsAs_text htells.help hreads
    (fun x => ConfigParts.mk (some o.name) o.triggers o.separator o.raises args options subs
      o.excluded x) rfl fun _ => rfl

/-- Items that are added one by one stand behind each other. -/
theorem foldl_snoc {σ α : Type} {add : σ → α → σ} (fill : List α → σ)
    (hadd : ∀ done x, add (fill done) x = fill (done ++ [x])) (done items : List α) :
    items.foldl add (fill done) = fill (done ++ items) := by
  induction items generalizing done with
  | nil => rw [List.append_nil, List.foldl_nil]
  | cons x rest ih => rw [List.foldl_cons, hadd, ih, List.append_assoc, List.singleton_append]

/-- What is given is put in the place of what stands there. -/
theorem elim_put {σ α : Type} (put : α → σ) (plain : α) (piece : Option α) :
    piece.elim (put plain) put = put (piece.getD plain) := by
  cases piece <;> rfl

/-- A description that is put together has the parts that are given. -/
theorem assemble_eq (o : CommandOutline) (args : Option SlotList) (options : Option (List Entry))
    (subs : Option (List Subcommand)) :
    o.assemble args options subs =
      ⟨o.name, o.triggers.getD [], o.separator.getD defaultSeparator, o.raises.getD false,
        args.getD .empty, options.getD [], subs.getD [], o.excluded.getD [], o.help.getD ""⟩ := by
  have htriggers (c : CommandConfig) (items : List Trigger) :
      items.foldl .addTrigger c = { c with triggers := c.triggers ++ items } :=
    foldl_snoc (fun done => { c with triggers := done }) (fun _ _ => rfl) _ items
  have hoptions (c : CommandConfig) (items : List Entry) :
      items.foldl .addOption c = { c with options := c.options ++ items } :=
    foldl_snoc (fun done => { c with options := done }) (fun _ _ => rfl) _ items
  have hsubs (c : CommandConfig) (items : List Subcommand) :
      items.foldl .addSubcommand c = { c with subcommands := c.subcommands ++ items } :=
    foldl_snoc (fun done => { c with subcommands := done }) (fun _ _ => rfl) _ items
  have hexcluded (c : CommandConfig) (items : List String) :
      items.foldl .addExcluded c = { c with excluded := c.excluded ++ items } :=
    foldl_snoc (fun done => { c with excluded := done }) (fun _ _ => rfl) _ items
  have hseparator (c : CommandConfig) (piece : Option String) :
      piece.elim c c.withSeparator = c.withSeparator (piece.getD c.separator) :=
    elim_put c.withSeparator c.separator piece
  have hraises (c : CommandConfig) (piece : Option Bool) :
      piece.elim c c.withRaises = c.withRaises (piece.getD c.raises) :=
    elim_put c.withRaises c.raises piece
  have hargs (c : CommandConfig) (piece : Option SlotList) :
      piece.elim c c.withArgs = c.withArgs (piece.getD c.args) :=
    elim_put c.withArgs c.args piece
  have hhelp (c : CommandConfig) (piece : Option String) :
      piece.elim c c.withHelp = c.withHelp (piece.getD c.help) :=
    elim_put c.withHelp c.help piece
  simp only [CommandOutline.assemble, htriggers, hoptions, hsubs, hexcluded, hseparator, hraises,
    hargs, hhelp]
  rfl

/-- Descriptions of commands are read as they are put together. -/
theorem readsAs_config :
    ReadsAs SpellsCommand CommandConfig.read fun o => o.config.toOption := by
  rintro access o tree ⟨fields, rfl, hamong, htells⟩ hreads
  obtain ⟨inner, henter, hfields⟩ := hreads.enter_object
  have hparts : (configRecord.read ⟨none, none, none, none, none, none, none, none, none⟩ access
      (Draft.ofTree (.object fields))).toOption = o.parts := by
    rw [read_object configRecord_lawful henter hamong (by decide), readSaid_config htells hfields]
    simp only [CommandOutline.parts, Option.bind_eq_bind, Option.bind_assoc]
    rfl
  rw [CommandConfig.read, toOption_bind, hparts]
  simp only [CommandOutline.config, CommandOutline.parts, Option.bind_eq_bind, toOption_bind,
    toOption_mapM_option, toOption_mapM, Option.bind_assoc, assemble_eq]
  rfl

end CommandGrammar
