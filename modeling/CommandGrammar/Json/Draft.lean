import CommandGrammar.Json.Number

/-!
# Reading JSON texts

A draft is a JSON text as far as it can be read. Fields keep their order and repetitions, and
the place where the text stops making sense is kept too, because what a reader of the draft
asks for first decides which fault is reported. Every part that is open when the text breaks
off has a broken ending, so a part that is closed is whole.
-/

namespace CommandGrammar

/-- How a sequence or an object ends. -/
inductive Ending where
  /-- With its closing bracket. -/
  | closed
  /-- With something that cannot be read. -/
  | broken
  deriving DecidableEq, Repr

/-- A JSON text as far as it can be read. -/
inductive Draft where
  /-- The value `null`. -/
  | null
  /-- A boolean. -/
  | bool (b : Bool)
  /-- A number. -/
  | number (n : JsonNumber)
  /-- A text. -/
  | string (s : String)
  /-- A number out of range or a text with half of a surrogate pair: well formed, but without
  a value. -/
  | unusable
  /-- A sequence. -/
  | array (items : List Draft) (ending : Ending)
  /-- Named parts; a name can be without a value like a text. -/
  | object (fields : List (Option String × Draft)) (ending : Ending)
  /-- Nothing that can be read. -/
  | broken
  deriving Inhabited

namespace Draft

/-- Whether the draft was read to its end. -/
def isWhole : Draft → Bool
  | array _ ending => ending == .closed
  | object _ ending => ending == .closed
  | broken => false
  | _ => true

/-- Whether a character may stand between the parts of a JSON text. -/
def isSpace (c : Char) : Bool := c == ' ' || c == '\n' || c == '\t' || c == '\r'

/-- The value of four hexadecimal digits. -/
def hexUnit? (a b c d : Char) : Option Nat := readNat? 16 [a, b, c, d]

/-- Whether a code unit is the first half of a surrogate pair. -/
def isHighSurrogate (unit : Nat) : Bool := 0xd800 ≤ unit && unit ≤ 0xdbff

/-- Whether a code unit is the second half of a surrogate pair. -/
def isLowSurrogate (unit : Nat) : Bool := 0xdc00 ≤ unit && unit ≤ 0xdfff

/-- The character of an escape that is one letter. -/
def plainEscape? : Char → Option Char
  | '"' => some '"'
  | '\\' => some '\\'
  | '/' => some '/'
  | 'b' => some '\x08'
  | 'f' => some '\x0c'
  | 'n' => some '\n'
  | 'r' => some '\r'
  | 't' => some '\t'
  | _ => none

/-- A text from after its opening quote, with the characters read so far in reverse, and the
rest. The text has no value when a surrogate stands alone. -/
def readText : List Char → Bool → List Char → Option (Option String × List Char)
  | _, _, [] => none
  | held, usable, '"' :: rest =>
    some (if usable then some (String.ofList held.reverse) else none, rest)
  | held, usable, '\\' :: 'u' :: a :: b :: c :: d :: '\\' :: 'u' :: e :: f :: g :: h :: rest =>
    match hexUnit? a b c d, hexUnit? e f g h with
    | some high, some low =>
      if isHighSurrogate high && isLowSurrogate low then
        let point := 0x10000 + (high - 0xd800) * 0x400 + (low - 0xdc00)
        readText (Char.ofNat point :: held) usable rest
      else if isHighSurrogate high || isLowSurrogate high then
        readText held false ('\\' :: 'u' :: e :: f :: g :: h :: rest)
      else readText (Char.ofNat high :: held) usable ('\\' :: 'u' :: e :: f :: g :: h :: rest)
    | _, _ => none
  | held, usable, '\\' :: 'u' :: a :: b :: c :: d :: rest =>
    match hexUnit? a b c d with
    | some unit =>
      if isHighSurrogate unit || isLowSurrogate unit then readText held false rest
      else readText (Char.ofNat unit :: held) usable rest
    | none => none
  | held, usable, '\\' :: c :: rest =>
    match plainEscape? c with
    | some c => readText (c :: held) usable rest
    | none => none
  | held, usable, c :: rest =>
    if c.toNat < 32 then none else readText (c :: held) usable rest

/-- What stands where a value is expected. -/
inductive Opening where
  /-- A value without parts, and what follows it. -/
  | leaf (d : Draft) (rest : List Char)
  /-- The opening bracket of a sequence. -/
  | array (rest : List Char)
  /-- The opening bracket of an object. -/
  | object (rest : List Char)
  /-- Nothing that can be read. -/
  | none

/-- Read what stands where a value is expected. -/
def opening : List Char → Opening
  | '[' :: rest => .array rest
  | '\x7b' :: rest => .object rest
  | '"' :: rest =>
    match readText [] true rest with
    | some (some s, rest) => .leaf (.string s) rest
    | some (none, rest) => .leaf .unusable rest
    | none => .none
  | 'n' :: 'u' :: 'l' :: 'l' :: rest => .leaf .null rest
  | 't' :: 'r' :: 'u' :: 'e' :: rest => .leaf (.bool true) rest
  | 'f' :: 'a' :: 'l' :: 's' :: 'e' :: rest => .leaf (.bool false) rest
  | cs =>
    match WrittenNumber.take? cs with
    | some (w, rest) =>
      match w.value? with
      | some n => .leaf (.number n) rest
      | none => .leaf .unusable rest
    | none => .none

/-- A sequence or an object that has not ended, with its parts in reverse. -/
inductive Frame where
  /-- A sequence. -/
  | items (done : List Draft)
  /-- An object, with the name of the field under way. -/
  | fields (done : List (Option String × Draft)) (name : Option String)

/-- The draft of a text that breaks off after a last part inside some frames. -/
def breakOff : Draft → List Frame → Draft
  | d, [] => d
  | d, .items done :: frames => breakOff (.array (d :: done).reverse .broken) frames
  | d, .fields done name :: frames =>
    breakOff (.object ((name, d) :: done).reverse .broken) frames

/-- What stands where the name of a field is expected. -/
inductive FieldStart where
  /-- A name and a colon. -/
  | field (name : Option String) (rest : List Char)
  /-- A name without a colon. -/
  | nameOnly (name : Option String)
  /-- No name. -/
  | none

/-- Read the name of a field. -/
def fieldStart (cs : List Char) : FieldStart :=
  match cs.dropWhile isSpace with
  | '"' :: rest =>
    match readText [] true rest with
    | some (name, rest) =>
      match rest.dropWhile isSpace with
      | ':' :: rest => .field name rest
      | _ => .nameOnly name
    | none => .none
  | _ => .none

/-- What reading goes on with. -/
inductive Stage where
  /-- A value is expected inside the frames. -/
  | value (frames : List Frame)
  /-- A value was read inside the frames. -/
  | after (d : Draft) (frames : List Frame)
  /-- A field is expected in an object with some fields, inside the frames. -/
  | field (done : List (Option String × Draft)) (frames : List Frame)

/-- One step of reading, which takes a character at least: the next stage and the rest, or the
draft when reading ends. -/
def step : Stage → List Char → (Stage × List Char) ⊕ (Draft × List Char)
  | .value frames, cs =>
    match opening cs with
    | .leaf d rest => .inl (.after d frames, rest)
    | .array rest =>
      match rest.dropWhile isSpace with
      | ']' :: rest => .inl (.after (.array [] .closed) frames, rest)
      | rest => .inl (.value (.items [] :: frames), rest)
    | .object rest =>
      match rest.dropWhile isSpace with
      | '\x7d' :: rest => .inl (.after (.object [] .closed) frames, rest)
      | rest => .inl (.field [] frames, rest)
    | .none => .inr (breakOff .broken frames, cs)
  | .after d [], cs => .inr (d, cs)
  | .after d (.items done :: frames), cs =>
    match cs with
    | ',' :: rest => .inl (.value (.items (d :: done) :: frames), rest)
    | ']' :: rest => .inl (.after (.array (d :: done).reverse .closed) frames, rest)
    | _ => .inr (breakOff (.array (d :: done).reverse .broken) frames, cs)
  | .after d (.fields done name :: frames), cs =>
    match cs with
    | ',' :: rest => .inl (.field ((name, d) :: done) frames, rest)
    | '\x7d' :: rest => .inl (.after (.object ((name, d) :: done).reverse .closed) frames, rest)
    | _ => .inr (breakOff (.object ((name, d) :: done).reverse .broken) frames, cs)
  | .field done frames, cs =>
    match fieldStart cs with
    | .field name rest => .inl (.value (.fields done name :: frames), rest)
    | .nameOnly name =>
      .inr (breakOff (.object ((name, .broken) :: done).reverse .broken) frames, cs)
    | .none => .inr (breakOff (.object done.reverse .broken) frames, cs)

/-- Read on from a stage. The budget bounds the number of steps. -/
def readFrom : Nat → Stage → List Char → Draft × List Char
  | 0, _, cs => (.broken, cs)
  | budget + 1, stage, cs =>
    match step stage (cs.dropWhile isSpace) with
    | .inl (stage, rest) => readFrom budget stage rest
    | .inr result => result

/-- The draft of a text, and whether nothing but blanks follows it. -/
def ofText (text : String) : Draft × Bool :=
  let cs := text.toList
  let (d, rest) := readFrom (cs.length + 1) (.value []) cs
  (d, rest.all isSpace)

mutual

/-- The tree of a whole draft; the last of several fields of one name counts. -/
def tree : Draft → Json
  | null => .null
  | bool b => .bool b
  | number n => .number n
  | string s => .string s
  | unusable => .null
  | array items _ => .array (treeItems items)
  | object fields _ => .object (treeFields [] fields)
  | broken => .null

/-- `tree` on the items of a sequence. -/
def treeItems : List Draft → List Json
  | [] => []
  | item :: rest => item.tree :: treeItems rest

/-- Put the trees of fields under their names. -/
def treeFields : List (String × Json) → List (Option String × Draft) → List (String × Json)
  | entries, [] => entries
  | entries, (name, value) :: rest =>
    treeFields (insertEntry (name.getD "") value.tree entries) rest

end

mutual

/-- Whether the draft is whole, has a value throughout, and has no more than `depth - 1`
levels of sequences and objects. -/
def hasValue : Nat → Draft → Bool
  | _, unusable => false
  | _, broken => false
  | depth, array items ending =>
    decide (2 ≤ depth) && itemsHaveValue (depth - 1) items && ending == .closed
  | depth, object fields ending =>
    decide (2 ≤ depth) && fieldsHaveValue (depth - 1) fields && ending == .closed
  | _, _ => true

/-- `hasValue` on the items of a sequence. -/
def itemsHaveValue : Nat → List Draft → Bool
  | _, [] => true
  | depth, item :: rest => item.hasValue depth && itemsHaveValue depth rest

/-- `hasValue` on the fields of an object and their names. -/
def fieldsHaveValue : Nat → List (Option String × Draft) → Bool
  | _, [] => true
  | depth, (name, value) :: rest =>
    name.isSome && value.hasValue depth && fieldsHaveValue depth rest

end

mutual

/-- The draft of a text that a tree is written as. -/
def ofTree : Json → Draft
  | .null => null
  | .bool b => bool b
  | .number n => number n
  | .string s => string s
  | .array items => array (ofTrees items) .closed
  | .object fields => object (ofTreeFields fields) .closed

/-- `ofTree` on the items of a sequence. -/
def ofTrees : List Json → List Draft
  | [] => []
  | item :: rest => ofTree item :: ofTrees rest

/-- `ofTree` on the fields of an object. -/
def ofTreeFields : List (String × Json) → List (Option String × Draft)
  | [] => []
  | (name, value) :: rest => (some name, ofTree value) :: ofTreeFields rest

end

/-- How deep sequences and objects may be nested, plus one. -/
def depthLimit : Nat := 128

end Draft

/-- The tree of a JSON text. -/
def Json.ofText? (text : String) : Option Json :=
  let (d, alone) := Draft.ofText text
  if alone && d.hasValue Draft.depthLimit then some d.tree else none

end CommandGrammar
