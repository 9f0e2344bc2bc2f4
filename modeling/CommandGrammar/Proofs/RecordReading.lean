import CommandGrammar.Proofs.TreeReading

/-!
# Reading records in any order

An object says some fields of a record, each once. The fields are read as they come, but what one of
them is read into has nothing to do with the others, so the record could as well be read in the
order in which its fields are declared. `readSaid` does so: it is told what is said of each field.

`Field.Apart` is what two fields have to satisfy for this, and `Record.Lawful` says it of all fields
of a record. `read_object` then compares the two readings, and `readSaid_of` goes through the fields
one by one.
-/

namespace CommandGrammar

section Records

variable {σ α β γ : Type}

/-- Reading one of two fields leaves the other as it was, and both can be read in either order. -/
structure Field.Apart (f g : Field σ) : Prop where
  /-- The order makes no difference to the result. -/
  comm : ∀ (access : Access) (d e : Draft) (parts : σ),
    ((f.read access d parts).toOption.bind fun parts => (g.read access e parts).toOption) =
      (g.read access e parts).toOption.bind fun parts => (f.read access d parts).toOption
  /-- Reading the first does not give the second. -/
  right : ∀ {access : Access} {d : Draft} {parts after : σ},
    f.read access d parts = .ok after → g.isGiven after = g.isGiven parts
  /-- Reading the second does not give the first. -/
  left : ∀ {access : Access} {e : Draft} {parts after : σ},
    g.read access e parts = .ok after → f.isGiven after = f.isGiven parts

/-- Which of two fields comes first makes no difference. -/
theorem Field.Apart.symm {f g : Field σ} (h : f.Apart g) : g.Apart f where
  comm access d e parts := (h.comm access e d parts).symm
  right := h.left
  left := h.right

/-- A field that keeps what it reads gives the parts with it. -/
theorem toOption_read_of {name : String} {get : σ → Option α} {set : σ → α → σ}
    {read : Access → Draft → Except DocumentFault α} {needed : Bool} (access : Access) (d : Draft)
    (parts : σ) : ((Field.of name get set read needed).read access d parts).toOption =
      (read access d).toOption.map (set parts) :=
  toOption_map _ _

/-- Two fields that keep what they read in different parts are apart. -/
theorem Field.apart_of {name other : String} {get : σ → Option α} {set : σ → α → σ}
    {get' : σ → Option β} {set' : σ → β → σ} {read : Access → Draft → Except DocumentFault α}
    {read' : Access → Draft → Except DocumentFault β} {needed needed' : Bool}
    (hset : ∀ parts x y, set' (set parts x) y = set (set' parts y) x)
    (hright : ∀ parts x, get' (set parts x) = get' parts)
    (hleft : ∀ parts y, get (set' parts y) = get parts) :
    (Field.of name get set read needed).Apart (Field.of other get' set' read' needed') where
  comm access d e parts := by
    simp only [toOption_read_of]
    cases (read access d).toOption <;> cases (read' access e).toOption <;> simp [hset]
  right {access d parts after} h := by
    cases hread : read access d with
    | error fault => simp [Field.of, hread, Except.map] at h
    | ok x =>
      simp only [Field.of, hread, Except.map, Except.ok.injEq] at h ⊢
      rw [← h, hright]
  left {access e parts after} h := by
    cases hread : read' access e with
    | error fault => simp [Field.of, hread, Except.map] at h
    | ok y =>
      simp only [Field.of, hread, Except.map, Except.ok.injEq] at h ⊢
      rw [← h, hleft]

/-- The fields of a record have different names and are apart from each other. -/
structure Record.Lawful (r : Record σ) : Prop where
  /-- The names differ. -/
  named : r.names.Nodup
  /-- Any two fields are apart. -/
  apart : r.fields.Pairwise Field.Apart

/-- Read what is said of fields, in their order. -/
def readSaid (access : Access) (said : String → Option Draft) : List (Field σ) → σ → Option σ
  | [], parts => some parts
  | field :: rest, parts =>
    match said field.name with
    | none => readSaid access said rest parts
    | some d => (field.read access d parts).toOption.bind (readSaid access said rest)

/-- What an object says of a field. -/
def saidBy (fields : List (String × Json)) (name : String) : Option Draft :=
  (findEntry name fields).map Draft.ofTree

/-- Only what is said of the fields at hand matters. -/
theorem readSaid_congr {access : Access} {said other : String → Option Draft}
    {fields : List (Field σ)} (h : ∀ field ∈ fields, said field.name = other field.name)
    (parts : σ) : readSaid access said fields parts = readSaid access other fields parts := by
  induction fields generalizing parts with
  | nil => rfl
  | cons field rest ih =>
    have hrest := ih fun g hg => h g (List.mem_cons_of_mem _ hg)
    rw [readSaid, readSaid, h field List.mem_cons_self]
    split
    · exact hrest parts
    · exact Option.bind_congr fun after _ => hrest after

/-- Where nothing is said, the parts stay as they are. -/
theorem readSaid_nothing {access : Access} {said : String → Option Draft}
    {fields : List (Field σ)} (h : ∀ field ∈ fields, said field.name = none) (parts : σ) :
    readSaid access said fields parts = some parts := by
  induction fields with
  | nil => rfl
  | cons field rest ih =>
    rw [readSaid, h field List.mem_cons_self]
    exact ih fun g hg => h g (List.mem_cons_of_mem _ hg)

/-- What is said of one more field can be read first. -/
theorem readSaid_first {access : Access} {said more : String → Option Draft}
    {fields : List (Field σ)} (hnamed : (fields.map Field.name).Nodup)
    (happart : fields.Pairwise Field.Apart) {field : Field σ} (hfield : field ∈ fields) {d : Draft}
    (hsaid : said field.name = none) (hmore : more field.name = some d)
    (hothers : ∀ name, name ≠ field.name → more name = said name) (parts : σ) :
    readSaid access more fields parts =
      (field.read access d parts).toOption.bind (readSaid access said fields) := by
  induction fields generalizing parts with
  | nil => cases hfield
  | cons first rest ih =>
    rw [List.map_cons, List.nodup_cons] at hnamed
    obtain ⟨hbehind, happart⟩ := List.pairwise_cons.mp happart
    rcases List.mem_cons.mp hfield with rfl | hfield
    · have hrest : ∀ parts, readSaid access more rest parts = readSaid access said rest parts :=
        readSaid_congr fun g hg => hothers _ fun heq => hnamed.1 (heq ▸ List.mem_map_of_mem hg)
      rw [readSaid, hmore]
      refine Option.bind_congr fun after _ => ?_
      rw [readSaid, hsaid, hrest]
    · have hne : first.name ≠ field.name := fun heq =>
        hnamed.1 (heq ▸ List.mem_map_of_mem hfield)
      rw [readSaid, hothers _ hne]
      cases hfirst : said first.name with
      | none =>
        rw [ih hnamed.2 happart hfield]
        refine Option.bind_congr fun after _ => ?_
        rw [readSaid, hfirst]
      | some e =>
        have hcomm := (hbehind field hfield).comm access e d parts
        have hleft : ((first.read access e parts).toOption.bind (readSaid access more rest)) =
            ((first.read access e parts).toOption.bind fun parts =>
              (field.read access d parts).toOption).bind (readSaid access said rest) := by
          rw [Option.bind_assoc]
          exact Option.bind_congr fun after _ => ih hnamed.2 happart hfield after
        have hright : ((field.read access d parts).toOption.bind
              (readSaid access said (first :: rest))) =
            ((field.read access d parts).toOption.bind fun parts =>
              (first.read access e parts).toOption).bind (readSaid access said rest) := by
          rw [Option.bind_assoc]
          refine Option.bind_congr fun after _ => ?_
          rw [readSaid, hfirst]
        rw [hcomm] at hleft
        exact hleft.trans hright.symm

/-- The fields of an object are what may be said, each once. -/
structure TellsAmong (names : List String) (fields : List (String × Json)) : Prop where
  /-- No field is said twice. -/
  once : (fields.map Prod.fst).Nodup
  /-- Every field is one of those. -/
  among : ∀ field ∈ fields, field.1 ∈ names

/-- A field is found by its name. -/
theorem find?_by_name {fields : List (Field σ)} (hnamed : (fields.map Field.name).Nodup)
    {field : Field σ} (hfield : field ∈ fields) {name : String} (hname : field.name = name) :
    (fields.find? fun field => field.name == name) = some field := by
  induction fields with
  | nil => cases hfield
  | cons first rest ih =>
    rw [List.map_cons, List.nodup_cons] at hnamed
    rw [List.find?_cons]
    rcases List.mem_cons.mp hfield with rfl | hrest
    · simp [hname]
    · have hne : (first.name == name) = false := by
        rw [beq_eq_false_iff_ne, ← hname]
        exact fun heq => hnamed.1 (heq ▸ List.mem_map_of_mem hrest)
      rw [hne]
      exact ih hnamed.2 hrest

/-- Any two different fields of a list whose fields are apart are apart. -/
theorem apart_of_ne {fields : List (Field σ)} (happart : fields.Pairwise Field.Apart)
    {field other : Field σ} (hfield : field ∈ fields) (hother : other ∈ fields)
    (hne : field ≠ other) : field.Apart other := by
  induction fields with
  | nil => cases hfield
  | cons first rest ih =>
    obtain ⟨hbehind, hrest⟩ := List.pairwise_cons.mp happart
    rcases List.mem_cons.mp hfield with rfl | hlater
    · rcases List.mem_cons.mp hother with rfl | hother
      · exact absurd rfl hne
      · exact hbehind other hother
    · rcases List.mem_cons.mp hother with rfl | hother
      · exact (hbehind field hlater).symm
      · exact ih hrest hlater hother

/-- Reading fields as they come gives what reading them in the order of the record gives. -/
theorem readFields_said {r : Record σ} (hr : r.Lawful) {access : Access}
    {fields : List (String × Json)} (hfields : TellsAmong r.names fields) {parts : σ}
    (hfresh : ∀ field ∈ r.fields, field.name ∈ fields.map Prod.fst → field.isGiven parts = false) :
    (r.readFields access (fieldDrafts fields) parts).toOption =
      readSaid access (saidBy fields) r.fields parts := by
  induction fields generalizing parts with
  | nil =>
    rw [readSaid_nothing fun field _ => rfl]
    rfl
  | cons first rest ih =>
    obtain ⟨hfirst, honce⟩ := List.nodup_cons.mp hfields.once
    have hamong : TellsAmong r.names rest :=
      ⟨honce, fun field hfield => hfields.among field (List.mem_cons_of_mem _ hfield)⟩
    obtain ⟨field, hfield, hname⟩ := List.mem_map.mp (hfields.among first List.mem_cons_self)
    have hfind : (r.fields.find? fun field => field.name == first.1) = some field :=
      find?_by_name hr.named hfield hname
    have hgiven : field.isGiven parts = false := hfresh field hfield (by
      rw [hname]
      exact List.mem_cons_self)
    have hread : (r.readFields access (fieldDrafts (first :: rest)) parts).toOption =
        (field.read access (Draft.ofTree first.2) parts).toOption.bind fun parts =>
          (r.readFields access (fieldDrafts rest) parts).toOption := by
      rw [fieldDrafts, List.map_cons, Record.readFields, hfind]
      simp only [hgiven]
      exact toOption_bind _ _
    have hsaid : saidBy rest field.name = none := by
      rw [saidBy, Option.map_eq_none_iff, hname]
      exact findEntry_eq_none.mpr hfirst
    have hmore : saidBy (first :: rest) field.name = some (Draft.ofTree first.2) := by
      rw [saidBy, findEntry, if_pos hname.symm]
      rfl
    have hothers : ∀ name, name ≠ field.name → saidBy (first :: rest) name = saidBy rest name := by
      intro name hne
      have hfar : first.1 ≠ name := fun heq => hne (heq.symm.trans hname.symm)
      rw [saidBy, findEntry, if_neg hfar]
      rfl
    rw [hread, readSaid_first hr.named hr.apart hfield hsaid hmore hothers]
    refine Option.bind_congr fun after hafter => ?_
    refine ih hamong fun other hother hnext => ?_
    have hne : field ≠ other := fun heq => hfirst (by rwa [← hname, heq])
    have happart : field.Apart other := apart_of_ne hr.apart hfield hother hne
    rw [happart.right (eq_ok_iff.mpr hafter)]
    exact hfresh other hother (List.mem_cons_of_mem _ hnext)

/-- The record of an object is read by what is said of its fields. -/
theorem read_object {r : Record σ} (hr : r.Lawful) {access inner : Access}
    (henter : access.enter = .ok inner) {fields : List (String × Json)}
    (hfields : TellsAmong r.names fields) {start : σ}
    (hfresh : ∀ field ∈ r.fields, field.isGiven start = false) :
    (r.read start access (Draft.ofTree (.object fields))).toOption =
      (readSaid inner (saidBy fields) r.fields start).bind fun parts =>
        (Record.checkGiven r.fields parts).toOption := by
  rw [Draft.ofTree, ofTreeFields_eq, Record.read, henter,
    ← readFields_said hr hfields fun field hfield _ => hfresh field hfield]
  exact toOption_bind (r.readFields inner (fieldDrafts fields) start) fun parts =>
    Record.checkGiven r.fields parts

/-- Fields of other names are passed over where they are allowed. -/
theorem readFields_unknown {r : Record σ} (hlenient : r.isStrict = false)
    {fields : List (String × Json)} (h : ∀ field ∈ fields, field.1 ∉ r.names) (parts : σ) :
    r.readFields .ahead (fieldDrafts fields) parts = .ok parts := by
  induction fields with
  | nil => rfl
  | cons first rest ih =>
    have hfind : (r.fields.find? fun field => field.name == first.1) = none := by
      refine List.find?_eq_none.mpr fun field hfield hname => ?_
      exact h first List.mem_cons_self (beq_iff_eq.mp hname ▸ List.mem_map_of_mem hfield)
    rw [fieldDrafts, List.map_cons, Record.readFields, hfind, hlenient]
    exact ih fun field hfield => h field (List.mem_cons_of_mem _ hfield)

/-- What an object says of one name: nothing where there is nothing to say, or what spells it. -/
def Tells (spells : γ → Json → Prop) (piece : Option γ) (name : String)
    (fields : List (String × Json)) : Prop :=
  Option.Rel spells piece (findEntry name fields)

/-- What is said of a name is read as what it spells. -/
theorem mapM_tells {spells : γ → Json → Prop} {read : Access → Draft → Except DocumentFault α}
    {make : γ → Option α} (h : ReadsAs spells read make) {piece : Option γ} {name : String}
    {fields : List (String × Json)} (htells : Tells spells piece name fields) {access : Access}
    (hreads : ∀ field ∈ fields, access.Reads field.2) :
    ((findEntry name fields).mapM fun tree => (read access (Draft.ofTree tree)).toOption) =
      piece.mapM make := by
  unfold Tells at htells
  cases hfound : findEntry name fields with
  | none =>
    rw [hfound] at htells
    cases htells
    rfl
  | some tree =>
    rw [hfound] at htells
    cases htells with
    | some hspells =>
      rename_i x
      have hread := h access x tree hspells (hreads _ (mem_of_findEntry hfound))
      change (read access (Draft.ofTree tree)).toOption.map some = (make x).map some
      rw [hread]

/-- The next field is read from what is said of it, if anything is; `next` is the parts with what
was read in its place. -/
theorem readSaid_of {spells : γ → Json → Prop} {read : Access → Draft → Except DocumentFault α}
    {make : γ → Option α} (h : ReadsAs spells read make) {piece : Option γ} {name : String}
    {fields : List (String × Json)} (htells : Tells spells piece name fields) {access : Access}
    (hreads : ∀ field ∈ fields, access.Reads field.2) {get : σ → Option α} {set : σ → α → σ}
    {needed : Bool} {rest : List (Field σ)} {parts : σ} (next : Option α → σ)
    (hnone : next none = parts) (hsome : ∀ x, next (some x) = set parts x) :
    readSaid access (saidBy fields) (.of name get set read needed :: rest) parts =
      (piece.mapM make).bind fun x => readSaid access (saidBy fields) rest (next x) := by
  have hname : (Field.of name get set read needed).name = name := rfl
  rw [← mapM_tells h htells hreads, readSaid, hname, saidBy]
  cases findEntry name fields with
  | none =>
    rw [← hnone]
    rfl
  | some tree =>
    change ((Field.of name get set read needed).read access (Draft.ofTree tree) parts).toOption.bind
      _ = ((read access (Draft.ofTree tree)).toOption.map some).bind _
    rw [toOption_read_of, Option.bind_map, Option.bind_map]
    refine Option.bind_congr fun y _ => ?_
    rw [Function.comp_apply, Function.comp_apply, hsome]

/-- Where what is said of the next field is read as it is, it is put in its place. -/
theorem readSaid_plain {spells : α → Json → Prop}
    {read : Access → Draft → Except DocumentFault α} (h : ReadsAs spells read some)
    {piece : Option α} {name : String} {fields : List (String × Json)}
    (htells : Tells spells piece name fields) {access : Access}
    (hreads : ∀ field ∈ fields, access.Reads field.2) {get : σ → Option α} {set : σ → α → σ}
    {needed : Bool} {rest : List (Field σ)} {parts : σ} (next : Option α → σ)
    (hnone : next none = parts) (hsome : ∀ x, next (some x) = set parts x) :
    readSaid access (saidBy fields) (.of name get set read needed :: rest) parts =
      readSaid access (saidBy fields) rest (next piece) := by
  rw [readSaid_of h htells hreads next hnone hsome, mapM_some_option, Option.bind_some]

end Records

end CommandGrammar
