import CommandGrammar.GrammarFault
import CommandGrammar.Regex.Parser
import CommandGrammar.Value

/-!
# Patterns

A pattern is a regular expression that a whole text is matched against, and a conversion of
what it captures. Its source is also its placeholder: capturing the source itself gives the
wildcard. Common patterns have names.
-/

namespace CommandGrammar

/-- The conversion of a captured text to a value. -/
inductive Transform where
  /-- The text itself. -/
  | direct
  /-- A decimal integer. -/
  | int
  /-- A floating-point number. -/
  | float
  /-- Whether the text is `true` in any case. -/
  | bool
  /-- A hexadecimal integer. -/
  | hex
  deriving DecidableEq, Repr

/-- Convert a text; fails where it does not stand for a value of the kind. -/
def Transform.apply : Transform → String → Option Value
  | direct, text => some (.string text)
  | int, text => (readInt64? 10 text.toList).map .int
  | float, text => (readBinary64? text.toList).map .float
  | bool, text => some (.bool (equalsIgnoringCase text.toList "true".toList))
  | hex, text => (readInt64? 16 text.toList).map .int

/-- An expression written so that it has to match a whole text. -/
def wholeText (source : String) : List Char := "^(?:".toList ++ source.toList ++ ")$".toList

/-- A pattern for whole texts. -/
structure Pattern where
  /-- The expression as it was written, which is also the placeholder. -/
  source : String
  /-- The conversion of captured texts. -/
  transform : Transform
  /-- The name of a common pattern. -/
  commonName : Option String
  /-- The program of the expression for whole texts. -/
  program : Program
  /-- The program belongs to the source. -/
  program_eq : Program.ofText? (wholeText source) = some program

namespace Pattern

/-- A pattern from its parts, if its source is an expression. -/
def make? (source : String) (transform : Transform) (commonName : Option String) : Option Pattern :=
  match h : Program.ofText? (wholeText source) with
  | some program => some ⟨source, transform, commonName, program, h⟩
  | none => none

/-- A pattern without conversion. -/
def ofSource (source : String) : Except GrammarFault Pattern :=
  match make? source .direct none with
  | some pattern => .ok pattern
  | none => .error (.invalidPattern source)

/-- The source and conversion of a common pattern. -/
def commonSpec? : String → Option (String × Transform)
  | "str" => some (".+", .direct)
  | "word" => some ("\\w+", .direct)
  | "int" => some ("-?\\d+", .int)
  | "float" => some ("-?\\d+\\.?\\d*", .float)
  | "bool" => some ("True|False|true|false", .bool)
  | "hex" => some ("0x([0-9a-fA-F]+)", .hex)
  | "email" => some ("[\\w.+-]+@[\\w-]+\\.[\\w.-]+", .direct)
  | "url" => some ("[a-zA-Z][a-zA-Z0-9+.-]*://\\S+", .direct)
  | "ip" => some ("(?:\\d\x7b1,3\x7d\\.)\x7b3\x7d\\d\x7b1,3\x7d(?::\\d\x7b1,5\x7d)?", .direct)
  | _ => none

/-- The common pattern of a name. -/
def common? (name : String) : Option Pattern :=
  (commonSpec? name).bind fun (source, transform) => make? source transform (some name)

/-- The common pattern of a name, or a text as an expression. -/
def parse (text : String) : Except GrammarFault Pattern :=
  match common? text with
  | some pattern => .ok pattern
  | none => ofSource text

/-- The same pattern with another conversion. -/
def withTransform (p : Pattern) (transform : Transform) : Pattern :=
  { p with transform := transform }

/-- What the pattern captures of a text: the first group if it took part in the match, else
the whole match. -/
def find? (p : Pattern) (text : String) : Option String :=
  let cs := text.toList
  (p.program.search cs).map fun m => (m.group? 1 cs).getD (m.whole cs)

/-- The value of a text: the wildcard for the placeholder, else what is captured, converted. -/
def capture? (p : Pattern) (text : String) : Option Value :=
  (p.find? text).bind fun found =>
    if found = p.source then some .wildcard else p.transform.apply found

/-- How a pattern is named in messages. -/
def display (p : Pattern) : String := p.commonName.getD p.source

/-- Whether two patterns match alike: the same source and conversion under any name. -/
def isLike (p q : Pattern) : Bool := p.source == q.source && p.transform == q.transform

end Pattern

end CommandGrammar
