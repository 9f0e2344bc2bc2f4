import CommandGrammar.Json.Printer
import CommandGrammar.Proofs.NumeralReading
import Mathlib.Data.List.Forall2

/-!
# Trees as texts

A text of a tree is a literal, a number, a text in quotes, or the texts of its parts between
brackets, in order, with a comma between each two and blanks where they do not matter.
`Json.WrittenAs` says so without asking how a text is laid out, and `written_pretty` that printing a
tree over several lines keeps to it.
-/

namespace CommandGrammar

/-! ### Texts in quotes -/

/-- How a character may be written in a text. -/
inductive EscapedAs : Char → List Char → Prop
  /-- As it is. -/
  | plain {c : Char} (visible : 32 ≤ c.toNat) (quote : c ≠ '"') (backslash : c ≠ '\\') :
      EscapedAs c [c]
  /-- Behind a backslash. -/
  | marked {c : Char} (listed : c = '"' ∨ c = '\\') : EscapedAs c ['\\', c]
  /-- By a letter behind a backslash. -/
  | lettered {c letter : Char}
      (listed : (c.toNat, letter) ∈ [(8, 'b'), (9, 't'), (10, 'n'), (12, 'f'), (13, 'r')]) :
      EscapedAs c ['\\', letter]
  /-- By its number in two hexadecimal digits. -/
  | numbered {c : Char} (control : c.toNat < 32) :
      EscapedAs c ['\\', 'u', '0', '0', Nat.digitChar (c.toNat / 16), Nat.digitChar (c.toNat % 16)]

/-- Whether characters are a text in quotes. -/
def QuotedAs (text : String) (cs : List Char) : Prop :=
  ∃ parts, List.Forall₂ EscapedAs text.toList parts ∧ cs = '"' :: parts.flatten ++ ['"']

/-- The four hexadecimal digits of a control character begin with two zeros. -/
theorem hexEscape_control {c : Char} (h : c.toNat < 32) :
    hexEscape c =
      ['\\', 'u', '0', '0', Nat.digitChar (c.toNat / 16), Nat.digitChar (c.toNat % 16)] := by
  have hdigits : ∀ n < 32, List.replicate (4 - (Nat.toDigits 16 n).length) '0' ++ Nat.toDigits 16 n =
      ['0', '0', Nat.digitChar (n / 16), Nat.digitChar (n % 16)] := by decide
  exact congrArg ('\\' :: 'u' :: ·) (hdigits c.toNat h)

/-- Every character is escaped in one of these ways. -/
theorem escapedAs_escapeChar (c : Char) : EscapedAs c (escapeChar c) := by
  simp only [escapeChar, beq_iff_eq]
  split_ifs with hquote hbackslash hline htab hreturn hback hfeed hcontrol
  · subst hquote
    exact .marked (.inl rfl)
  · subst hbackslash
    exact .marked (.inr rfl)
  · subst hline
    exact .lettered (by decide)
  · subst htab
    exact .lettered (by decide)
  · subst hreturn
    exact .lettered (by decide)
  · exact .lettered (by simp [hback])
  · exact .lettered (by simp [hfeed])
  · rw [hexEscape_control hcontrol]
    exact .numbered hcontrol
  · exact .plain (Nat.le_of_not_lt hcontrol) hquote hbackslash

/-- A text is put in quotes. -/
theorem quotedAs_quoteText (text : String) : QuotedAs text (quoteText text).toList := by
  refine ⟨text.toList.map escapeChar, ?_, ?_⟩
  · exact List.forall₂_map_right_iff.mpr (List.forall₂_same.mpr fun c _ => escapedAs_escapeChar c)
  · rw [quoteText, String.toList_ofList, List.flatMap_def]

/-! ### Numbers -/

/-- Whether characters are a text of a number. -/
inductive JsonNumber.WrittenAs : JsonNumber → List Char → Prop
  /-- An integer in base ten. -/
  | integer {n : Int} {cs : List Char} (written : DecimalInteger cs n) : WrittenAs (.integer n) cs
  /-- A double that is finite. -/
  | finite {x : Binary64} (finite : x.isFinite = true) :
      WrittenAs (.float x) (x.text .json).toList
  /-- The literal of the null value for any other double. -/
  | other {x : Binary64} (infinite : x.isFinite = false) :
      WrittenAs (.float x) ['n', 'u', 'l', 'l']

/-- A number is written as its text. -/
theorem JsonNumber.written_text (n : JsonNumber) : n.WrittenAs n.text.toList := by
  cases n with
  | integer n => exact .integer (decimalInteger_toString n)
  | float x =>
    cases hfinite : x.isFinite with
    | true => simpa [JsonNumber.text, hfinite] using JsonNumber.WrittenAs.finite hfinite
    | false => simpa [JsonNumber.text, hfinite] using JsonNumber.WrittenAs.other hfinite

/-! ### Parts between brackets -/

/-- Whether characters are blanks, which may stand around the parts of a tree. -/
def IsGap (cs : List Char) : Prop := ∀ c ∈ cs, c ∈ [' ', '\n', '\r', '\t']

/-- There need not be a blank. -/
theorem isGap_nil : IsGap [] := fun _ hc => nomatch hc

/-- Whether characters are texts in order, with blanks around each and a comma between each two. -/
inductive Listed : List (List Char) → List Char → Prop
  /-- No text. -/
  | nothing {gap : List Char} (blank : IsGap gap) : Listed [] gap
  /-- The last text. -/
  | last {text before after : List Char} (blankBefore : IsGap before) (blankAfter : IsGap after) :
      Listed [text] (before ++ text ++ after)
  /-- A text in front of others. -/
  | more {text next before after others : List Char} {texts : List (List Char)}
      (blankBefore : IsGap before) (blankAfter : IsGap after)
      (rest : Listed (next :: texts) others) :
      Listed (text :: next :: texts) (before ++ text ++ after ++ ',' :: others)

/-- Whether characters are a field: its name in quotes, a colon and a text of its tree. -/
inductive FieldAs (written : Json → List Char → Prop) : String × Json → List Char → Prop
  /-- The parts of the field, with blanks around the colon. -/
  | field {name : String} {tree : Json} {quoted before after text : List Char}
      (named : QuotedAs name quoted) (blankBefore : IsGap before) (blankAfter : IsGap after)
      (valued : written tree text) :
      FieldAs written (name, tree) (quoted ++ before ++ ':' :: after ++ text)

/-- Whether characters are a text of a tree. -/
inductive Json.WrittenAs : Json → List Char → Prop
  /-- The literal of the null value. -/
  | null : WrittenAs .null ['n', 'u', 'l', 'l']
  /-- The literal of what is true. -/
  | true : WrittenAs (.bool true) ['t', 'r', 'u', 'e']
  /-- The literal of what is false. -/
  | false : WrittenAs (.bool false) ['f', 'a', 'l', 's', 'e']
  /-- A number. -/
  | number {n : JsonNumber} {cs : List Char} (written : n.WrittenAs cs) : WrittenAs (.number n) cs
  /-- A text in quotes. -/
  | string {text : String} {cs : List Char} (quoted : QuotedAs text cs) :
      WrittenAs (.string text) cs
  /-- Texts of the items in order, between brackets. -/
  | array {items : List Json} {texts : List (List Char)} {body : List Char}
      (written : List.Forall₂ WrittenAs items texts) (listed : Listed texts body) :
      WrittenAs (.array items) ('[' :: body ++ [']'])
  /-- The fields in order, between braces. -/
  | object {fields : List (String × Json)} {texts : List (List Char)} {body : List Char}
      (written : List.Forall₂ (FieldAs WrittenAs) fields texts) (listed : Listed texts body) :
      WrittenAs (.object fields) ('\x7b' :: body ++ ['\x7d'])

/-! ### What is printed -/

/-- Texts with a blank in front of each and a blank behind the last are listed. -/
theorem listed_intercalate {before after : String} (hbefore : IsGap before.toList)
    (hafter : IsGap after.toList) (text : String) (texts : List String) :
    Listed ((text :: texts).map String.toList)
      (",".intercalate ((text :: texts).map (before ++ ·)) ++ after).toList := by
  induction texts generalizing text with
  | nil =>
    have hlast := @Listed.last text.toList _ _ hbefore hafter
    simpa using hlast
  | cons next rest ih =>
    have hmore := @Listed.more text.toList _ _ _ _ _ hbefore isGap_nil (ih next)
    simpa [String.intercalate_cons_cons] using hmore

namespace Json

/-- A new line is blank. -/
theorem isGap_lineBreak (level : Nat) : IsGap (lineBreak level).toList := by
  intro c hc
  rw [lineBreak, String.toList_ofList] at hc
  rcases List.mem_cons.mp hc with rfl | hblank
  · decide
  · rw [List.eq_of_mem_replicate hblank]
    decide

/-- The items of an array are printed one by one, each on new lines. -/
theorem prettyItems_eq (level : Nat) (items : List Json) :
    prettyItems level items = (items.map (prettyAt level)).map (lineBreak level ++ ·) := by
  induction items with
  | nil => rfl
  | cons item rest ih => rw [prettyItems, ih, List.map_cons, List.map_cons]

/-- A field as it is printed. -/
def fieldText (level : Nat) (field : String × Json) : String :=
  quoteText field.1 ++ ": " ++ field.2.prettyAt level

/-- The fields of an object are printed one by one, each on new lines. -/
theorem prettyFields_eq (level : Nat) (fields : List (String × Json)) :
    prettyFields level fields = (fields.map (fieldText level)).map (lineBreak level ++ ·) := by
  induction fields with
  | nil => rfl
  | cons field rest ih =>
    rw [prettyFields, ih, List.map_cons, List.map_cons, fieldText]
    simp only [String.append_assoc]

mutual

/-- What is printed over several lines is a text of the tree, whatever its level is. -/
theorem written_prettyAt (level : Nat) :
    ∀ tree : Json, tree.WrittenAs (tree.prettyAt level).toList
  | null => by simpa [prettyAt, leafText] using WrittenAs.null
  | bool true => by simpa [prettyAt, leafText] using WrittenAs.true
  | bool false => by simpa [prettyAt, leafText] using WrittenAs.false
  | number n => .number n.written_text
  | string s => .string (quotedAs_quoteText s)
  | array [] => by simpa [prettyAt, leafText] using WrittenAs.array .nil (.nothing isGap_nil)
  | array (item :: rest) => by
    have hlisted := listed_intercalate (isGap_lineBreak (level + 1)) (isGap_lineBreak level)
      (item.prettyAt (level + 1)) (rest.map (prettyAt (level + 1)))
    have hwritten := WrittenAs.array (written_items (level + 1) (item :: rest)) hlisted
    simpa [prettyAt, prettyItems_eq] using hwritten
  | object [] => by simpa [prettyAt, leafText] using WrittenAs.object .nil (.nothing isGap_nil)
  | object (field :: rest) => by
    have hlisted := listed_intercalate (isGap_lineBreak (level + 1)) (isGap_lineBreak level)
      (fieldText (level + 1) field) (rest.map (fieldText (level + 1)))
    have hwritten := WrittenAs.object (written_fields (level + 1) (field :: rest)) hlisted
    simpa [prettyAt, prettyFields_eq] using hwritten

/-- Every item is printed as a text of itself. -/
theorem written_items (level : Nat) : ∀ items : List Json,
    List.Forall₂ WrittenAs items ((items.map (prettyAt level)).map String.toList)
  | [] => .nil
  | item :: rest => .cons (written_prettyAt level item) (written_items level rest)

/-- Every field is printed as a text of itself. -/
theorem written_fields (level : Nat) : ∀ fields : List (String × Json),
    List.Forall₂ (FieldAs WrittenAs) fields ((fields.map (fieldText level)).map String.toList)
  | [] => .nil
  | (name, tree) :: rest => by
    have hfield : FieldAs WrittenAs (name, tree) (fieldText level (name, tree)).toList := by
      have hblank : IsGap [' '] := by simp [IsGap]
      have hparts := FieldAs.field (quotedAs_quoteText name) isGap_nil hblank
        (written_prettyAt level tree)
      simpa [fieldText] using hparts
    exact .cons hfield (written_fields level rest)

end

/-- What is printed for a tree is a text of it. -/
theorem written_pretty (tree : Json) : tree.WrittenAs tree.pretty.toList :=
  tree.written_prettyAt 0

end Json

end CommandGrammar
