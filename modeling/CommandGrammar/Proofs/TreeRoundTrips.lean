import CommandGrammar.Proofs.OutlineDocuments
import CommandGrammar.Proofs.SortedTrees
import Mathlib.Algebra.Group.Nat.Defs

/-!
# Trees that are written and read again

Units, tokens, inputs and diagnostics are written as trees, and every tree that one of them is
written as is read as what was written. The fields may be in the order in which they are written or
sorted by name, and it makes no difference whether a text stands between. `ReadsBack` says this.

A value is written as a tree that stands for it, unless it has a wildcard, a unit or a double that
is no number somewhere inside. In the other direction, a tree is written again with the integers
that are too large for a value as the doubles nearest to them; that these are finite is what a bound
on the code of a rounded integer shows.
-/

namespace CommandGrammar

/-! ### Integers as doubles -/

namespace Binary64

/-- A quotient is rounded up by one at most. -/
theorem roundQuotient_le (num den : Nat) : roundQuotient num den ≤ num / den + 1 := by
  unfold roundQuotient
  dsimp only
  split <;> omega

/-- A magnitude below infinity is finite with either sign. -/
theorem isFinite_ofCode (negative : Bool) {code : Nat} (h : code < infinityCode) :
    (ofCode negative code).isFinite = true := by
  have hcode : (ofCode negative code).code = code := by
    have hsmall : code < 0x7ff0000000000000 := h
    cases negative
    · simp only [ofCode, Binary64.code, signBit, Bool.false_eq_true, if_false, UInt64.toNat_ofNat']
      omega
    · simp only [ofCode, Binary64.code, signBit, if_true, UInt64.toNat_ofNat']
      omega
  rw [isFinite, hcode, decide_eq_true h]

/-- A natural below a power of two, scaled by another. -/
theorem scaled_lt {num bits : Nat} (h : num < 2 ^ bits) (scale : Nat) :
    num * Nat.pow 2 scale < 2 ^ (bits + scale) := by
  rw [Nat.pow_eq, Nat.pow_add]
  exact (Nat.mul_lt_mul_right (Nat.two_pow_pos _)).mpr h

/-- The code of a scaled number is bounded by its length: the scale keeps all bits but fifty-three,
and rounding the rest adds one at most. -/
theorem scaledCode_le {num bits : Nat} (h : num < 2 ^ bits) (scale : Nat) :
    ((num * Nat.pow 2 scale).log2 - 52) * hiddenBit + roundQuotient (num * Nat.pow 2 scale)
      (Nat.pow 2 ((num * Nat.pow 2 scale).log2 - 52)) ≤
        (bits + scale - 53) * hiddenBit + 2 * hiddenBit := by
  have hscaled := scaled_lt h scale
  generalize num * Nat.pow 2 scale = scaled at hscaled ⊢
  have hlog : scaled.log2 ≤ bits + scale - 1 := by
    by_cases hzero : scaled = 0
    · simp [hzero]
    · have hlt := (Nat.log2_lt hzero).mpr hscaled
      omega
  have hquotient : scaled / 2 ^ (scaled.log2 - 52) < 2 ^ 53 := by
    rw [Nat.div_lt_iff_lt_mul (Nat.two_pow_pos _), ← Nat.pow_add]
    exact Nat.lt_of_lt_of_le Nat.lt_log2_self (Nat.pow_le_pow_right (by decide) (by omega))
  have hround := roundQuotient_le scaled (2 ^ (scaled.log2 - 52))
  rw [Nat.pow_eq]
  unfold hiddenBit
  omega

/-- The code nearest to a natural is bounded by its length. -/
theorem nearestCode_le {num bits : Nat} (h : num < 2 ^ bits) :
    nearestCode num 1 ≤ (bits + 1074 - 53) * hiddenBit + 2 * hiddenBit := by
  rw [nearestCode, Nat.div_one, Nat.one_mul]
  -- Any scale will do, and the power that belongs to this one is better left alone.
  generalize 1074 = scale
  exact Nat.le_trans (Nat.min_le_left _ _) (scaledCode_le h scale)

/-- An integer of sixty-four bits is nearest to a finite double. -/
theorem isFinite_ofInt {n : Int} (h : n.natAbs < 2 ^ 64) : (ofInt n).isFinite = true :=
  isFinite_ofCode _ (Nat.lt_of_le_of_lt (nearestCode_le h) (by decide))

end Binary64

/-! ### Trees that spell something, sorted -/

section Spelling

variable {α β : Type}

/-- Whether a tree still spells the same when its fields are sorted. -/
def KeptBySorting (spells : β → Json → Prop) : Prop :=
  ∀ x tree, spells x tree → spells x tree.sortFields

/-- Sorting the fields of an object keeps what it tells. -/
theorem Tells.sortEntries {spells : β → Json → Prop} (hkept : KeptBySorting spells)
    {piece : Option β} {name : String} {fields : List (String × Json)}
    (hnodup : (fields.map Prod.fst).Nodup) (h : Tells spells piece name fields) :
    Tells spells piece name (Json.sortEntries fields) := by
  unfold Tells at h ⊢
  rw [Json.sortEntries_keepsLast.find, findEntry_reverse_of_nodup hnodup]
  generalize findEntry name fields = found at h
  cases h with
  | none => exact .none
  | some hspells => exact .some (hkept _ _ hspells)

/-- Sorting the fields of an object brings in no others. -/
theorem TellsAmong.sortEntries {names : List String} {fields : List (String × Json)}
    (h : TellsAmong names fields) : TellsAmong names (Json.sortEntries fields) where
  once := nodup_of_sortedEntries (Json.sortEntries_keepsLast.sorted fields)
  among field hfield := by
    have hname := (Json.sortEntries_keepsLast.names fields field.1).mp (List.mem_map_of_mem hfield)
    obtain ⟨other, hother, hsame⟩ := List.mem_map.mp hname
    exact hsame ▸ h.among other hother

/-- A text is spelled by itself only, which has no fields. -/
theorem keptBySorting_text : KeptBySorting SpellsText := by
  rintro text tree rfl
  rfl

/-- A list is still spelled when its items are. -/
theorem keptBySorting_list {spells : β → Json → Prop} (hkept : KeptBySorting spells) :
    KeptBySorting (SpellsList spells) := by
  rintro items tree ⟨trees, rfl, hspells⟩
  refine ⟨Json.sortItems trees, rfl, ?_⟩
  rw [Json.sortItems_eq, List.forall₂_map_right_iff]
  exact hspells.imp fun {x tree} h => hkept x tree h

/-- Whether what is written is read back: from the tree itself or from the tree with its fields
sorted, unless the tree has more levels than may be entered. A tree that no text stands behind has
no such limit. -/
def ReadsBack (read : Access → Draft → Except DocumentFault α) (write : α → Json) (x : α) : Prop :=
  ∀ (access : Access) (tree : Json), tree = write x ∨ tree = (write x).sortFields →
    access.Reads tree → read access (Draft.ofTree tree) = .ok x

/-- What spells what was written is read back. -/
theorem readsBack_of_spells {spells : α → Json → Prop}
    {read : Access → Draft → Except DocumentFault α} {write : α → Json} {x : α}
    (hread : ReadsAs spells read some) (hkept : KeptBySorting spells) (hwrite : spells x (write x)) :
    ReadsBack read write x := by
  rintro access tree (rfl | rfl) hreads
  · exact eq_ok_iff.mpr (hread access x _ hwrite hreads)
  · exact eq_ok_iff.mpr (hread access x _ (hkept x _ hwrite) hreads)

end Spelling

/-! ### Units, tokens and inputs -/

/-- A tree that is held is spelled by itself. -/
def SpellsHeld (held tree : Json) : Prop := held.Held ∧ tree = held

/-- A tree that is held is read as it is. -/
theorem readsAs_held : ReadsAs SpellsHeld Draft.readTree some := by
  rintro access held tree ⟨hheld, rfl⟩ hreads
  rw [Draft.readTree, hreads.readAhead]
  exact congrArg some (Draft.tree_ofTree hheld)

/-- A tree that is held is the same with its fields sorted. -/
theorem keptBySorting_held : KeptBySorting SpellsHeld := by
  rintro held tree ⟨hheld, rfl⟩
  exact ⟨hheld, hheld.sortFields_eq⟩

/-- The payload of a unit where there is one. -/
def OpaqueUnit.payload (u : OpaqueUnit) : Option Json := if u.data.isNull then none else some u.data

/-- A unit is spelled by an object with its kind, and with its payload unless there is none. -/
def SpellsUnit (u : OpaqueUnit) (tree : Json) : Prop :=
  ∃ fields, tree = .object fields ∧ TellsAmong unitRecord.names fields ∧
    Tells SpellsText (some u.kind) "kind" fields ∧ Tells SpellsHeld u.payload "data" fields

/-- The parts of a unit are read apart from each other. -/
theorem unitRecord_lawful : unitRecord.Lawful where
  named := by decide
  apart := by
    simp only [unitRecord, List.pairwise_cons, List.forall_mem_cons, List.not_mem_nil,
      false_imp_iff, implies_true, List.Pairwise.nil, and_true]
    exact Field.apart_of (fun _ _ _ => rfl) (fun _ _ => rfl) fun _ _ => rfl

/-- A payload that is left out is null. -/
theorem OpaqueUnit.payload_getD (u : OpaqueUnit) : u.payload.getD .null = u.data := by
  unfold payload
  cases u.data <;> rfl

/-- A unit is read. -/
theorem readsAs_unit : ReadsAs SpellsUnit OpaqueUnit.read some := by
  rintro access u tree ⟨fields, rfl, hamong, hkind, hdata⟩ hreads
  obtain ⟨inner, henter, hfields⟩ := hreads.enter_object
  have hsaid : readSaid inner (saidBy fields) unitRecord.fields ⟨none, none⟩ =
      some ⟨some u.kind, u.payload⟩ := by
    refine (readSaid_plain readsAs_text hkind hfields
      (fun x => UnitParts.mk x none) rfl fun _ => rfl).trans ?_
    exact readSaid_plain readsAs_held hdata hfields
      (fun x => UnitParts.mk (some u.kind) x) rfl fun _ => rfl
  have hread : (unitRecord.read ⟨none, none⟩ access (Draft.ofTree (.object fields))).toOption =
      some ⟨some u.kind, u.payload⟩ := by
    rw [read_object unitRecord_lawful henter hamong (by decide), hsaid]
    rfl
  rw [OpaqueUnit.read, toOption_bind, hread]
  exact congrArg (fun data => some (OpaqueUnit.mk u.kind data)) u.payload_getD

/-- A unit is still spelled when the fields are sorted. -/
theorem keptBySorting_unit : KeptBySorting SpellsUnit := by
  rintro u tree ⟨fields, rfl, hamong, hkind, hdata⟩
  exact ⟨Json.sortEntries fields, rfl, hamong.sortEntries,
    hkind.sortEntries keptBySorting_text hamong.once,
    hdata.sortEntries keptBySorting_held hamong.once⟩

/-- A unit with a payload that is held is spelled by what it is written as. -/
theorem spells_unit {u : OpaqueUnit} (h : u.data.Held) : SpellsUnit u u.toJson := by
  have hwritten : u.toJson = .object (givenFields
      [("kind", (some u.kind).map .string), ("data", u.payload)]) := by
    unfold OpaqueUnit.toJson OpaqueUnit.payload
    cases u.data.isNull <;> rfl
  have hdata : findEntry "data" (givenFields
      [("kind", (some u.kind).map .string), ("data", u.payload)]) = u.payload :=
    findEntry_given (by simp) (by simp)
  have hpayload : Option.Rel SpellsHeld u.payload u.payload := by
    unfold OpaqueUnit.payload
    split
    · exact .none
    · exact .some ⟨h, rfl⟩
  refine ⟨_, hwritten, tellsAmong_given rfl (by decide), ?_, ?_⟩
  · exact tells_given spells_string (by simp) (by simp)
  · rw [Tells, hdata]
    exact hpayload

/-- A text is spelled by itself, and a unit as a unit. -/
def SpellsToken : Token → Json → Prop
  | .text text => SpellsText text
  | .unit u => SpellsUnit u

/-- A token is read once it was read ahead. -/
theorem token_ofDraft {token : Token} {tree : Json} (h : SpellsToken token tree) :
    Token.ofDraft? (Draft.ofTree tree) = some token := by
  cases token with
  | text text =>
    obtain rfl : tree = .string text := h
    rfl
  | unit u =>
    have hread := readsAs_unit .ahead u tree h (Access.reads_ahead tree)
    obtain ⟨fields, rfl, -⟩ := h
    rw [Draft.ofTree] at hread ⊢
    rw [Token.ofDraft?, hread]
    · rfl
    · rintro text ⟨⟩

/-- A token is read. -/
theorem readsAs_token : ReadsAs SpellsToken Token.read some := by
  intro access token tree hspells hreads
  rw [Token.read, hreads.readAhead, token_ofDraft hspells]
  rfl

/-- A token is still spelled when the fields are sorted. -/
theorem keptBySorting_token : KeptBySorting SpellsToken := by
  rintro (text | u) tree hspells
  · exact keptBySorting_text text tree hspells
  · exact keptBySorting_unit u tree hspells

/-- Whether the payload of a token, if it has one, is held. -/
def Token.Held : Token → Prop
  | text _ => True
  | unit u => u.data.Held

/-- A token with a payload that is held is spelled by what it is written as. -/
theorem spells_token {token : Token} (h : token.Held) : SpellsToken token token.toJson := by
  cases token with
  | text text => rfl
  | unit u => exact spells_unit h

/-- A text is spelled by itself, and a chain by a sequence of its tokens. -/
def SpellsInput : Input → Json → Prop
  | .text text => SpellsText text
  | .chain tokens => SpellsList SpellsToken tokens

/-- The tokens of a chain are read once they were read ahead. -/
theorem tokens_ofDraft {tokens : List Token} {trees : List Json}
    (h : List.Forall₂ SpellsToken tokens trees) :
    (trees.map Draft.ofTree).mapM Token.ofDraft? = some tokens := by
  induction h with
  | nil => rfl
  | cons hfirst _ ih =>
    rw [List.map_cons, List.mapM_cons, token_ofDraft hfirst, ih]
    rfl

/-- An input is read. -/
theorem readsAs_input : ReadsAs SpellsInput Input.read some := by
  intro access input tree hspells hreads
  have hinput : Input.ofDraft? (Draft.ofTree tree) = some input := by
    cases input with
    | text text =>
      obtain rfl : tree = .string text := hspells
      rfl
    | chain tokens =>
      obtain ⟨trees, rfl, hspells⟩ := hspells
      rw [Draft.ofTree, Input.ofDraft?, ofTrees_eq, tokens_ofDraft hspells]
      rfl
  rw [Input.read, hreads.readAhead, hinput]
  rfl

/-- An input is still spelled when the fields are sorted. -/
theorem keptBySorting_input : KeptBySorting SpellsInput := by
  rintro (text | tokens) tree hspells
  · exact keptBySorting_text text tree hspells
  · exact keptBySorting_list keptBySorting_token tokens tree hspells

/-- Whether the payloads of the tokens of an input are held. -/
def Input.Held : Input → Prop
  | text _ => True
  | chain tokens => ∀ token ∈ tokens, token.Held

/-- An input with payloads that are held is spelled by what it is written as. -/
theorem spells_input {input : Input} (h : input.Held) : SpellsInput input input.toJson := by
  cases input with
  | text text => rfl
  | chain tokens =>
    exact ⟨_, rfl, List.forall₂_map_right_iff.mpr
      (List.forall₂_same.mpr fun token htoken => spells_token (h token htoken))⟩

/-! ### Diagnostics -/

/-- A severity is spelled by its name. -/
def SpellsSeverity (severity : Severity) (tree : Json) : Prop := tree = .string severity.name

/-- A severity is read. -/
theorem readsAs_severity : ReadsAs SpellsSeverity Severity.read some := by
  rintro access severity tree rfl -
  cases severity <;> rfl

/-- A severity is spelled by a text, which has no fields. -/
theorem keptBySorting_severity : KeptBySorting SpellsSeverity := by
  rintro severity tree rfl
  rfl

/-- The name of a severity as a tree. -/
def writeSeverity (severity : Severity) : Json := .string severity.name

/-- A severity is spelled by what it is written as. -/
theorem spells_writeSeverity (severity : Severity) :
    SpellsSeverity severity (writeSeverity severity) := rfl

/-- Texts by name as an object. -/
def writeContext (context : NameMap String) : Json :=
  .object (context.entries.map fun entry => (entry.1, .string entry.2))

/-- Texts by name are spelled by the object of them. -/
def SpellsContext (context : NameMap String) (tree : Json) : Prop := tree = writeContext context

/-- Texts by name are spelled by what they are written as. -/
theorem spells_writeContext (context : NameMap String) :
    SpellsContext context (writeContext context) := rfl

/-- A map is made of its own entries. -/
theorem NameMap.ofList_entries {α : Type} (m : NameMap α) : NameMap.ofList m.entries = m :=
  NameMap.eq_of_entries (sortedEntries_ext (NameMap.ofList m.entries).sorted m.sorted fun name =>
    (NameMap.get?_ofList m.entries name).trans (findEntry_reverse m.sorted name))

/-- The map of entries that are read one by one is read. -/
theorem readMap_entries {α : Type} {read : Access → Draft → Except DocumentFault α}
    {write : α → Json} (hread : ∀ access x, read access (Draft.ofTree (write x)) = .ok x)
    {access inner : Access} (henter : access.enter = .ok inner) (m : NameMap α) :
    Draft.readMap read access (Draft.ofTree (.object (m.entries.map fun entry =>
      (entry.1, write entry.2)))) = .ok m := by
  rw [Draft.ofTree, ofTreeFields_eq, fieldDrafts, List.map_map, Draft.readMap, henter]
  refine (congrArg (fun result => result >>= fun entries => Except.ok (NameMap.ofList entries))
    (mapM_map_ok ?_ m.entries)).trans (congrArg Except.ok m.ofList_entries)
  intro entry
  rw [Function.comp]
  dsimp only
  rw [hread]
  rfl

/-- Texts by name are read as they are. -/
theorem readsAs_context : ReadsAs SpellsContext
    (fun access => Draft.readOptional (Draft.readMap (fun _ => Draft.readString) access))
    fun context => some (some context) := by
  rintro access context tree rfl hreads
  obtain ⟨inner, henter, -⟩ := hreads.enter_object
  change ((Draft.readMap (fun _ => Draft.readString) access
    (Draft.ofTree (writeContext context))).map some).toOption = _
  rw [writeContext, readMap_entries (fun _ _ => rfl) henter]
  rfl

/-- Texts by name are sorted as they stand. -/
theorem keptBySorting_context : KeptBySorting SpellsContext := by
  rintro context tree rfl
  refine Json.Held.sortFields_eq (.object (sortedEntries_map context.sorted Json.string) ?_)
  intro field hfield
  obtain ⟨entry, -, rfl⟩ := List.mem_map.mp hfield
  exact .string entry.2

/-- A diagnostic is spelled by an object with its parts, and with its context unless there is
none. -/
def SpellsDiagnostic (d : Diagnostic) (tree : Json) : Prop :=
  ∃ fields, tree = .object fields ∧ TellsAmong diagnosticRecord.names fields ∧
    Tells SpellsText (some d.id) "id" fields ∧
    Tells SpellsSeverity (some d.severity) "severity" fields ∧
    Tells SpellsText (some d.message) "message" fields ∧
    Tells SpellsContext d.context "context" fields

/-- Whether a sequence has to reach a field has no part in reading objects. -/
theorem Field.Apart.inPlace {σ : Type} {f g : Field σ} (h : f.Apart g) (needed : Bool) :
    f.Apart { g with neededInPlace := needed } := ⟨h.comm, h.right, h.left⟩

/-- Nor has it a part in reading what is said. -/
theorem readSaid_inPlace {σ : Type} (access : Access) (said : String → Option Draft) (f : Field σ)
    (needed : Bool) (rest : List (Field σ)) (parts : σ) :
    readSaid access said ({ f with neededInPlace := needed } :: rest) parts =
      readSaid access said (f :: rest) parts := rfl

/-- The parts of a diagnostic are read apart from each other. -/
theorem diagnosticRecord_lawful : diagnosticRecord.Lawful where
  named := by decide
  apart := by
    simp only [diagnosticRecord, List.pairwise_cons, List.forall_mem_cons, List.not_mem_nil,
      false_imp_iff, implies_true, List.Pairwise.nil, and_true]
    refine ⟨⟨?_, ?_, .inPlace ?_ true⟩, ⟨?_, .inPlace ?_ true⟩, .inPlace ?_ true⟩ <;>
      exact Field.apart_of (fun _ _ _ => rfl) (fun _ _ => rfl) fun _ _ => rfl

/-- A diagnostic is read. -/
theorem readsAs_diagnostic : ReadsAs SpellsDiagnostic Diagnostic.read some := by
  rintro access d tree ⟨fields, rfl, hamong, hid, hseverity, hmessage, hcontext⟩ hreads
  obtain ⟨inner, henter, hfields⟩ := hreads.enter_object
  have hsaid : readSaid inner (saidBy fields) diagnosticRecord.fields ⟨none, none, none, none⟩ =
      some ⟨some d.id, some d.severity, some d.message, d.context.map some⟩ := by
    refine (readSaid_plain readsAs_text hid hfields
      (fun x => DiagnosticParts.mk x none none none) rfl fun _ => rfl).trans ?_
    refine (readSaid_plain readsAs_severity hseverity hfields
      (fun x => DiagnosticParts.mk (some d.id) x none none) rfl fun _ => rfl).trans ?_
    refine (readSaid_plain readsAs_text hmessage hfields
      (fun x => DiagnosticParts.mk (some d.id) (some d.severity) x none) rfl fun _ => rfl).trans ?_
    refine (readSaid_inPlace _ _ (.of "context" _ _ _ _) true _ _).trans ?_
    refine (readSaid_of readsAs_context hcontext hfields
      (fun x => DiagnosticParts.mk (some d.id) (some d.severity) (some d.message) x) rfl
      fun _ => rfl).trans ?_
    cases d.context <;> rfl
  have hread : (diagnosticRecord.read ⟨none, none, none, none⟩ access
      (Draft.ofTree (.object fields))).toOption =
        some ⟨some d.id, some d.severity, some d.message, d.context.map some⟩ := by
    rw [read_object diagnosticRecord_lawful henter hamong (by decide), hsaid]
    rfl
  rw [Diagnostic.read, toOption_bind, hread]
  obtain ⟨id, severity, message, _ | context⟩ := d
  · rfl
  · rfl

/-- A diagnostic is still spelled when the fields are sorted. -/
theorem keptBySorting_diagnostic : KeptBySorting SpellsDiagnostic := by
  rintro d tree ⟨fields, rfl, hamong, hid, hseverity, hmessage, hcontext⟩
  exact ⟨Json.sortEntries fields, rfl, hamong.sortEntries,
    hid.sortEntries keptBySorting_text hamong.once,
    hseverity.sortEntries keptBySorting_severity hamong.once,
    hmessage.sortEntries keptBySorting_text hamong.once,
    hcontext.sortEntries keptBySorting_context hamong.once⟩

/-- A diagnostic is spelled by what it is written as. -/
theorem spells_diagnostic (d : Diagnostic) : SpellsDiagnostic d d.toJson := by
  have hwritten : d.toJson = .object (givenFields
      [("id", (some d.id).map .string),
      ("severity", (some d.severity).map writeSeverity),
      ("message", (some d.message).map .string), ("context", d.context.map writeContext)]) := by
    obtain ⟨id, severity, message, _ | context⟩ := d
    · rfl
    · rfl
  refine ⟨_, hwritten, tellsAmong_given rfl (by decide), ?_, ?_, ?_, ?_⟩
  · exact tells_given spells_string (by simp) (by simp)
  · exact tells_given spells_writeSeverity (by simp) (by simp)
  · exact tells_given spells_string (by simp) (by simp)
  · exact tells_given spells_writeContext (by simp) (by simp)

/-! ### Values -/

namespace Value

/-- The items of a sequence stand for values one by one. -/
theorem ofJsonItems_eq (items : List Json) : ofJsonItems items = items.map ofJson := by
  induction items with
  | nil => rfl
  | cons item rest ih => rw [ofJsonItems, ih, List.map_cons]

/-- The values of a run are written one by one. -/
theorem toJsonItems_eq (items : List Value) : toJsonItems items = items.map toJson := by
  induction items with
  | nil => rfl
  | cons item rest ih => rw [toJsonItems, ih, List.map_cons]

/-- The entries of a map are written one by one. -/
theorem toJsonEntries_eq (entries : List (String × Value)) :
    toJsonEntries entries = entries.map fun entry => (entry.1, entry.2.toJson) := by
  induction entries with
  | nil => rfl
  | cons entry rest ih =>
    rw [toJsonEntries, ih, List.map_cons]

/-- Whether a value has no wildcard, no unit and no double but numbers at any depth. Its integers
are those of sixty-four bits, and the entries of its maps are sorted, as in every value. -/
inductive Plain : Value → Prop
  /-- The absence of a value. -/
  | null : Plain .null
  /-- A boolean. -/
  | bool (b : Bool) : Plain (.bool b)
  /-- An integer of sixty-four bits. -/
  | int {n : Int} (fits : fitsInt64 n = true) : Plain (.int n)
  /-- A double that is finite. -/
  | float {x : Binary64} (finite : x.isFinite = true) : Plain (.float x)
  /-- A text. -/
  | string (s : String) : Plain (.string s)
  /-- A run of such values. -/
  | list {items : List Value} (plain : ∀ item ∈ items, Plain item) : Plain (.list items)
  /-- Such values under sorted names. -/
  | map {entries : List (String × Value)} (sorted : SortedEntries entries)
      (plain : ∀ entry ∈ entries, Plain entry.2) : Plain (.map entries)

/-- A plain value is written as a tree that is held. -/
theorem Plain.held {v : Value} (h : v.Plain) : v.toJson.Held := by
  induction h with
  | null => exact .null
  | bool b => exact .bool b
  | @int n fits =>
    have hrange : -0x8000000000000000 ≤ n ∧ n < 0x8000000000000000 := by
      simpa [fitsInt64] using fits
    exact .integer hrange.1 (by omega)
  | float finite =>
    rw [toJson, if_pos finite]
    exact .float finite
  | string s => exact .string s
  | @list items plain ih =>
    rw [toJson, toJsonItems_eq]
    refine .array fun tree htree => ?_
    obtain ⟨item, hitem, rfl⟩ := List.mem_map.mp htree
    exact ih item hitem
  | @map entries sorted plain ih =>
    rw [toJson, toJsonEntries_eq]
    refine .object (sortedEntries_map sorted toJson) fun field hfield => ?_
    obtain ⟨entry, hentry, rfl⟩ := List.mem_map.mp hfield
    exact ih entry hentry

/-- A plain value is what the tree stands for that it is written as. -/
theorem ofJson_toJson {v : Value} (h : v.Plain) : ofJson v.toJson = v := by
  induction h with
  | int fits => exact if_pos fits
  | float finite =>
    rw [toJson, if_pos finite]
    rfl
  | list plain ih =>
    rw [toJson, ofJson, toJsonItems_eq, ofJsonItems_eq, List.map_map]
    exact congrArg Value.list (map_eq_self ih)
  | @map entries sorted plain ih =>
    have hsame : entries.map (fun entry => (entry.1, ofJson entry.2.toJson)) = entries :=
      map_eq_self fun entry hentry => Prod.ext rfl (ih entry hentry)
    rw [toJson, ofJson, toJsonEntries_eq,
      ofJsonFields_keepsLast.eq_map (sortedEntries_map sorted toJson), List.map_map]
    exact congrArg Value.map hsame
  | _ => rfl

/-- A plain value is read back. -/
theorem readsBack {v : Value} (h : v.Plain) : ReadsBack Value.read toJson v := by
  intro access tree htree hreads
  obtain rfl : tree = v.toJson := by rwa [h.held.sortFields_eq, or_self] at htree
  rw [eq_ok_iff, readsAs_value access _ _ rfl hreads]
  exact congrArg some (ofJson_toJson h)

end Value

/-! ### Trees of values -/

/-- The same number, an integer that is too large for a value as the double nearest to it. -/
def JsonNumber.narrowed : JsonNumber → JsonNumber
  | integer n => if fitsInt64 n then integer n else float (.ofInt n)
  | float x => float x

namespace Json

mutual

/-- The same tree with every number changed. -/
def mapNumbers (f : JsonNumber → JsonNumber) : Json → Json
  | number n => number (f n)
  | array items => array (mapItems f items)
  | object fields => object (mapFields f fields)
  | tree => tree

/-- `mapNumbers` on the items of an array. -/
def mapItems (f : JsonNumber → JsonNumber) : List Json → List Json
  | [] => []
  | item :: rest => item.mapNumbers f :: mapItems f rest

/-- `mapNumbers` on the fields of an object. -/
def mapFields (f : JsonNumber → JsonNumber) : List (String × Json) → List (String × Json)
  | [] => []
  | (name, tree) :: rest => (name, tree.mapNumbers f) :: mapFields f rest

end

/-- The items of a sequence are changed one by one. -/
theorem mapItems_eq (f : JsonNumber → JsonNumber) (items : List Json) :
    mapItems f items = items.map (mapNumbers f) := by
  induction items with
  | nil => rfl
  | cons item rest ih => rw [mapItems, ih, List.map_cons]

/-- The fields of an object are changed one by one. -/
theorem mapFields_eq (f : JsonNumber → JsonNumber) (fields : List (String × Json)) :
    mapFields f fields = fields.map fun field => (field.1, field.2.mapNumbers f) := by
  induction fields with
  | nil => rfl
  | cons field rest ih => rw [mapFields, ih, List.map_cons]

/-- The value of a tree is written as the tree, the integers in it narrowed. -/
theorem Held.toJson_ofJson {tree : Json} (h : tree.Held) :
    (Value.ofJson tree).toJson = tree.mapNumbers JsonNumber.narrowed := by
  induction h with
  | @integer n lower upper =>
    have hfinite : (Binary64.ofInt n).isFinite = true := Binary64.isFinite_ofInt (by omega)
    rw [Value.ofJson, Value.ofNumber, mapNumbers, JsonNumber.narrowed]
    cases fitsInt64 n with
    | true => rfl
    | false => exact if_pos hfinite
  | float finite => exact if_pos finite
  | array held ih =>
    rw [Value.ofJson, Value.toJson, Value.ofJsonItems_eq, Value.toJsonItems_eq, List.map_map,
      mapNumbers, mapItems_eq]
    exact congrArg Json.array (List.map_congr_left ih)
  | @object fields sorted held ih =>
    rw [Value.ofJson, Value.toJson, ofJsonFields_keepsLast.eq_map sorted, Value.toJsonEntries_eq,
      List.map_map, mapNumbers, mapFields_eq]
    exact congrArg Json.object (List.map_congr_left fun field hfield =>
      Prod.ext rfl (ih field hfield))
  | _ => rfl

end Json

/-! ### The round trips -/

/-- Units, tokens, inputs and diagnostics are read back from the trees that they are written as, and
so are plain values, which are what these trees stand for; and a tree is written again with its
integers narrowed when it went through a value. -/
theorem trees_read_back :
    (∀ u : OpaqueUnit, u.data.Held → ReadsBack OpaqueUnit.read OpaqueUnit.toJson u) ∧
    (∀ token : Token, token.Held → ReadsBack Token.read Token.toJson token) ∧
    (∀ input : Input, input.Held → ReadsBack Input.read Input.toJson input) ∧
    (∀ d : Diagnostic, ReadsBack Diagnostic.read Diagnostic.toJson d) ∧
    (∀ v : Value, v.Plain → Value.ofJson v.toJson = v ∧ ReadsBack Value.read Value.toJson v) ∧
    ∀ tree : Json, tree.Held →
      (Value.ofJson tree).toJson = tree.mapNumbers JsonNumber.narrowed := by
  refine ⟨?_, ?_, ?_, ?_, ?_, ?_⟩
  · intro u hheld
    exact readsBack_of_spells readsAs_unit keptBySorting_unit (spells_unit hheld)
  · intro token hheld
    exact readsBack_of_spells readsAs_token keptBySorting_token (spells_token hheld)
  · intro input hheld
    exact readsBack_of_spells readsAs_input keptBySorting_input (spells_input hheld)
  · intro d
    exact readsBack_of_spells readsAs_diagnostic keptBySorting_diagnostic (spells_diagnostic d)
  · intro v hplain
    exact ⟨Value.ofJson_toJson hplain, Value.readsBack hplain⟩
  · intro tree hheld
    exact hheld.toJson_ofJson

/-- A payload with a null and the largest integer that a tree can hold. -/
def largePayload : Json :=
  .object [("at", .array [.null, .bool true]), ("size", .number (.integer 0xffffffffffffffff))]

/-- The value of that payload. -/
def largeValue : Value :=
  .map [("at", .list [.null, .bool true]), ("size", .float ⟨0x43f0000000000000⟩)]

/-- A chain with a unit of that payload is read back, and the payload goes through a plain value
with its integer narrowed. -/
theorem trees_read_back_payload :
    largePayload.Held ∧ largeValue.Plain ∧
    Input.read .tree (Draft.ofTree
      (Input.chain [.text "put", .unit ⟨"image", largePayload⟩]).toJson.sortFields) =
        .ok (.chain [.text "put", .unit ⟨"image", largePayload⟩]) ∧
    Value.ofJson largeValue.toJson = largeValue ∧
    (Value.ofJson largePayload).toJson =
      .object [("at", .array [.null, .bool true]),
        ("size", .number (.float ⟨0x43f0000000000000⟩))] := by
  have hnames : "at" < "size" := by decide
  have hpayload : largePayload.Held := by
    refine .object (List.pairwise_pair.mpr hnames) fun field hfield => ?_
    simp only [List.mem_cons, List.not_mem_nil, or_false] at hfield
    rcases hfield with rfl | rfl
    · refine .array fun item hitem => ?_
      simp only [List.mem_cons, List.not_mem_nil, or_false] at hitem
      rcases hitem with rfl | rfl
      · exact .null
      · exact .bool true
    · exact .integer (by decide) (by decide)
  have hvalue : largeValue.Plain := by
    refine .map (List.pairwise_pair.mpr hnames) fun entry hentry => ?_
    simp only [List.mem_cons, List.not_mem_nil, or_false] at hentry
    rcases hentry with rfl | rfl
    · refine .list fun item hitem => ?_
      simp only [List.mem_cons, List.not_mem_nil, or_false] at hitem
      rcases hitem with rfl | rfl
      · exact .null
      · exact .bool true
    · exact .float (by decide)
  have hchain : Input.Held (.chain [.text "put", .unit ⟨"image", largePayload⟩]) := by
    intro token htoken
    simp only [List.mem_cons, List.not_mem_nil, or_false] at htoken
    rcases htoken with rfl | rfl
    · exact trivial
    · exact hpayload
  have hdouble : Binary64.ofInt 0xffffffffffffffff = ⟨0x43f0000000000000⟩ := by decide +kernel
  obtain ⟨-, -, hinputs, -, hvalues, htrees⟩ := trees_read_back
  refine ⟨hpayload, hvalue, hinputs _ hchain .tree _ (.inr rfl) trivial, (hvalues _ hvalue).1, ?_⟩
  rw [htrees _ hpayload, ← hdouble]
  rfl

end CommandGrammar
