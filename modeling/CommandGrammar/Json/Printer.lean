import CommandGrammar.Json.Tree
import CommandGrammar.Numeral.FloatText

/-!
# Writing JSON texts

A tree is written on one line without blanks, or over several lines with two blanks for each
level. Numbers that are not finite are written as `null`; in texts only the quote, the
backslash and the control characters below the blank are escaped.
-/

namespace CommandGrammar

/-- Four hexadecimal digits of a small code point. -/
def hexEscape (c : Char) : List Char :=
  let digits := Nat.toDigits 16 c.toNat
  '\\' :: 'u' :: List.replicate (4 - digits.length) '0' ++ digits

/-- One character inside a JSON text. -/
def escapeChar (c : Char) : List Char :=
  if c == '"' then ['\\', '"']
  else if c == '\\' then ['\\', '\\']
  else if c == '\n' then ['\\', 'n']
  else if c == '\t' then ['\\', 't']
  else if c == '\r' then ['\\', 'r']
  else if c.toNat == 8 then ['\\', 'b']
  else if c.toNat == 12 then ['\\', 'f']
  else if c.toNat < 32 then hexEscape c
  else [c]

/-- A text in quotes. -/
def quoteText (s : String) : String :=
  String.ofList ('"' :: s.toList.flatMap escapeChar ++ ['"'])

/-- A number as JSON text. -/
def JsonNumber.text : JsonNumber → String
  | integer n => toString n
  | float x => if x.isFinite then x.text .json else "null"

namespace Json

/-- A tree that has no parts, if it is one. -/
def leafText : Json → String
  | null => "null"
  | bool true => "true"
  | bool false => "false"
  | number n => n.text
  | string s => quoteText s
  | array _ => "[]"
  | object _ => "\x7b\x7d"

mutual

/-- The tree on one line. -/
def compact : Json → String
  | array items => "[" ++ ",".intercalate (compactItems items) ++ "]"
  | object fields => "\x7b" ++ ",".intercalate (compactFields fields) ++ "\x7d"
  | tree => tree.leafText

/-- The items of an array, each on one line. -/
def compactItems : List Json → List String
  | [] => []
  | item :: rest => item.compact :: compactItems rest

/-- The fields of an object, each on one line. -/
def compactFields : List (String × Json) → List String
  | [] => []
  | (name, tree) :: rest => (quoteText name ++ ":" ++ tree.compact) :: compactFields rest

end

/-- A new line at a level. -/
def lineBreak (level : Nat) : String :=
  String.ofList ('\n' :: List.replicate (2 * level) ' ')

mutual

/-- The tree over several lines, its own level given. -/
def prettyAt (level : Nat) : Json → String
  | array (item :: rest) =>
    "[" ++ ",".intercalate (prettyItems (level + 1) (item :: rest)) ++ lineBreak level ++ "]"
  | object (field :: rest) =>
    "\x7b" ++ ",".intercalate (prettyFields (level + 1) (field :: rest)) ++
      lineBreak level ++ "\x7d"
  | tree => tree.leafText

/-- The items of an array, each on lines of its own. -/
def prettyItems (level : Nat) : List Json → List String
  | [] => []
  | item :: rest => (lineBreak level ++ item.prettyAt level) :: prettyItems level rest

/-- The fields of an object, each on lines of its own. -/
def prettyFields (level : Nat) : List (String × Json) → List String
  | [] => []
  | (name, tree) :: rest =>
    (lineBreak level ++ quoteText name ++ ": " ++ tree.prettyAt level) ::
      prettyFields level rest

end

/-- The tree over several lines. -/
def pretty (tree : Json) : String := tree.prettyAt 0

end Json

end CommandGrammar
