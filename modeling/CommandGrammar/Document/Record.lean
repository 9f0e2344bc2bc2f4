import CommandGrammar.Document.Fault
import CommandGrammar.Json.Draft
import CommandGrammar.Json.Printer
import CommandGrammar.Text.Quoted

/-!
# Reading the parts of documents

Parts are read from a draft from left to right, so the first fault in the order of the text
is the one reported. A part that was read ahead as a whole is known to be well formed, and
its nesting counts no more.

A record is read from an object, field by field, or from a sequence that gives the fields in
the order in which they are declared.
-/

namespace CommandGrammar

/-- How a draft is read. -/
inductive Access where
  /-- As it stands, with the number of levels that may still be entered plus one. -/
  | direct (depth : Nat)
  /-- After it was read ahead as a whole. -/
  | ahead
  /-- From a tree, which no text stands behind. -/
  | tree

namespace Access

/-- The way the parts of a sequence or object are read. -/
def enter : Access → Except DocumentFault Access
  | direct (depth + 2) => .ok (direct (depth + 1))
  | direct _ => .error .malformed
  | ahead => .ok ahead
  | tree => .ok tree

/-- Read a draft ahead as a whole. -/
def readAhead : Access → Draft → Except DocumentFault Unit
  | direct depth, d => if d.hasValue depth then .ok () else .error .malformed
  | _, _ => .ok ()

/-- Pass over a draft. -/
def pass : Access → Draft → Except DocumentFault Unit
  | direct _, d => if d.isWhole then .ok () else .error .malformed
  | _, _ => .ok ()

end Access

/-- Come to the end of a sequence or object. -/
def Ending.finish : Ending → Except DocumentFault Unit
  | closed => .ok ()
  | broken => .error .malformed

namespace Draft

/-- How a value is named where another sort is called for, if it is a value. -/
def sort? : Draft → Option String
  | null => some "null"
  | bool b => some (if b then "boolean `true`" else "boolean `false`")
  | number (.integer n) => some s!"integer `{n}`"
  | number (.float x) => some s!"floating point `{x.text .json}`"
  | string s => some ("string " ++ showQuoted s)
  | unusable => none
  | array _ _ => some "sequence"
  | object _ _ => some "map"
  | broken => none

/-- The fault of a value where another sort is called for. -/
def mismatch (d : Draft) (expected : String) : DocumentFault :=
  match d.sort? with
  | some found => .misfit (.wrongType found expected)
  | none => .malformed

/-- Read a text. -/
def readString (d : Draft) : Except DocumentFault String :=
  match d with
  | string s => .ok s
  | d => .error (d.mismatch "a string")

/-- Read a boolean. -/
def readBool (d : Draft) : Except DocumentFault Bool :=
  match d with
  | bool b => .ok b
  | d => .error (d.mismatch "a boolean")

/-- Read what `null` leaves out. -/
def readOptional {α : Type} (read : Draft → Except DocumentFault α) :
    Draft → Except DocumentFault (Option α)
  | null => .ok none
  | d => (read d).map some

/-- Read a sequence. -/
def readList {α : Type} (read : Access → Draft → Except DocumentFault α) (access : Access) :
    Draft → Except DocumentFault (List α)
  | array items ending => do
    let access ← access.enter
    let values ← items.mapM (read access)
    ending.finish
    .ok values
  | d => .error (d.mismatch "a sequence")

/-- Read an object with any names. -/
def readMap {α : Type} (read : Access → Draft → Except DocumentFault α) (access : Access) :
    Draft → Except DocumentFault (NameMap α)
  | object fields ending => do
    let access ← access.enter
    let entries ← fields.mapM fun (name, value) =>
      match name with
      | some name => do .ok (name, ← read access value)
      | none => .error .malformed
    ending.finish
    .ok (.ofList entries)
  | d => .error (d.mismatch "a map")

/-- Read any value as a tree. -/
def readTree (access : Access) (d : Draft) : Except DocumentFault Json := do
  access.readAhead d
  .ok d.tree

/-- Read one of some words, or an object that has the word as its only name with `null` under
it. -/
def readWord (access : Access) (words : List String) : Draft → Except DocumentFault String
  | string s => check s
  | object ((some name, value) :: rest) ending => do
    let _ ← access.enter
    let word ← check name
    match value with
    | null => if rest.isEmpty then do ending.finish; .ok word else .error .malformed
    | d => .error (d.mismatch "unit")
  | _ => .error .malformed
where
  /-- Check that a word is one of those allowed. -/
  check (word : String) : Except DocumentFault String :=
    if words.contains word then .ok word
    else .error (.misfit (.unknownVariant word words))

end Draft

/-- A field of a record that is read into parts. -/
structure Field (σ : Type) where
  /-- Its name in objects. -/
  name : String
  /-- Whether it was read. -/
  isGiven : σ → Bool
  /-- Read it into the parts. -/
  read : Access → Draft → σ → Except DocumentFault σ
  /-- Whether an object has to have it. -/
  needed : Bool
  /-- Whether a sequence has to reach it. -/
  neededInPlace : Bool

/-- A record that is read into parts. -/
structure Record (σ : Type) where
  /-- Its name. -/
  name : String
  /-- Its fields in the order in which they are declared. -/
  fields : List (Field σ)
  /-- Whether fields of other names are refused. -/
  isStrict : Bool

namespace Field

/-- A field that keeps what it reads under one part. -/
def of {σ α : Type} (name : String) (get : σ → Option α) (set : σ → α → σ)
    (read : Access → Draft → Except DocumentFault α) (needed : Bool) : Field σ :=
  { name, needed, neededInPlace := needed
    isGiven := fun parts => (get parts).isSome
    read := fun access d parts => (read access d).map (set parts) }

end Field

namespace Record

variable {σ : Type}

/-- The names of the fields. -/
def names (r : Record σ) : List String := r.fields.map Field.name

/-- The first field that has to be there and is not. -/
def checkGiven (fields : List (Field σ)) (parts : σ) : Except DocumentFault σ :=
  match fields.find? fun field => field.needed && !field.isGiven parts with
  | some field => .error (.misfit (.missingField field.name))
  | none => .ok parts

/-- Read fields by their names. -/
def readFields (r : Record σ) (access : Access) :
    List (Option String × Draft) → σ → Except DocumentFault σ
  | [], parts => .ok parts
  | (none, _) :: _, _ => .error .malformed
  | (some name, value) :: rest, parts =>
    match r.fields.find? fun field => field.name == name with
    | none =>
      if r.isStrict then .error (.misfit (.unknownField name r.names))
      else do
        access.pass value
        readFields r access rest parts
    | some field =>
      if field.isGiven parts then .error (.misfit (.duplicateField name))
      else do
        let parts ← field.read access value parts
        readFields r access rest parts

/-- The fault of a sequence that ends before a field. -/
def tooShort (r : Record σ) (count : Nat) : DocumentFault :=
  .misfit (.wrongLength count s!"struct {r.name} with {r.fields.length} elements")

/-- The fault of a sequence that goes on after the last field. -/
def tooLong (r : Record σ) (count : Nat) : Access → DocumentFault
  | .direct _ => .malformed
  | .ahead => .misfit (.wrongLength count s!"{r.fields.length} elements in sequence")
  | .tree => .misfit (.wrongLength count "fewer elements in array")

/-- Read fields by their places; `count` places were read before. -/
def readPlaces (r : Record σ) (access : Access) (ending : Ending) :
    List (Field σ) → List Draft → Nat → σ → Except DocumentFault σ
  | [], [], _, parts => do
    ending.finish
    .ok parts
  | [], items, count, _ => .error (r.tooLong (count + items.length) access)
  | fields, [], count, parts => do
    ending.finish
    match fields.findIdx? Field.neededInPlace with
    | some offset => .error (r.tooShort (count + offset))
    | none => .ok parts
  | field :: fields, item :: items, count, parts => do
    let parts ← field.read access item parts
    readPlaces r access ending fields items (count + 1) parts

/-- Read the parts of a record. -/
def read (r : Record σ) (start : σ) (access : Access) : Draft → Except DocumentFault σ
  | .object fields ending => do
    let access ← access.enter
    let parts ← r.readFields access fields start
    ending.finish
    checkGiven r.fields parts
  | .array items ending => do
    let access ← access.enter
    r.readPlaces access ending r.fields items 0 start
  | d => .error (d.mismatch ("struct " ++ r.name))

end Record

/-- Read a document, after which nothing may follow. -/
def readDocument {α : Type} (read : Access → Draft → Except DocumentFault α) (text : String) :
    Except DocumentFault α := do
  let (d, alone) := Draft.ofText text
  let value ← read (.direct Draft.depthLimit) d
  if alone then .ok value else .error .malformed

end CommandGrammar
