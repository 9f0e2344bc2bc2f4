import CommandGrammar.Regex.Basic
import CommandGrammar.Text.Blank
import CommandGrammar.Unicode.Property

/-!
# Reading escapes

The smallest parts of a written expression: flags, blanks that a flag leaves out, numbers,
and what a backslash begins. Readers return what they read and the characters after it, and
`none` where the expression is not well formed.
-/

namespace CommandGrammar

/-- The switches that decide how the parts of an expression are meant. -/
structure RegexFlags where
  /-- Characters match up to case. -/
  ignoreCase : Bool
  /-- Line ends count where text ends do. -/
  multiLine : Bool
  /-- The dot takes line ends too. -/
  dotAll : Bool
  /-- Repetitions are greedy when marked as not and the other way round. -/
  swapGreed : Bool
  /-- Classes range over all characters, not over ASCII characters only. -/
  wide : Bool
  /-- Carriage returns end lines too. -/
  anyLine : Bool
  /-- Blanks and comments are left out. -/
  spaced : Bool
  deriving DecidableEq, Repr

namespace RegexFlags

/-- The switches at the start of an expression. -/
def start : RegexFlags := ⟨false, false, false, false, true, false, false⟩

/-- Turn the switch of a letter on or off, if there is one. -/
def set? (flags : RegexFlags) (letter : Char) (on : Bool) : Option RegexFlags :=
  match letter with
  | 'i' => some { flags with ignoreCase := on }
  | 'm' => some { flags with multiLine := on }
  | 's' => some { flags with dotAll := on }
  | 'U' => some { flags with swapGreed := on }
  | 'u' => some { flags with wide := on }
  | 'R' => some { flags with anyLine := on }
  | 'x' => some { flags with spaced := on }
  | _ => none

end RegexFlags

namespace Regex

/-- The characters with a meaning of their own. -/
def isMeta (c : Char) : Bool := "\\.+*?()|[]\x7b\x7d^$#&-~".toList.contains c

/-- A text as an expression for just that text. -/
def quote (text : String) : String :=
  String.ofList (text.toList.flatMap fun c => if isMeta c then ['\\', c] else [c])

/-- Leave out blanks and comments. A comment goes from a number sign to the end of its line. -/
def skipBlanks : Bool → List Char → List Char
  | _, [] => []
  | true, c :: rest =>
    if c == '\n' then skipBlanks false rest
    else skipBlanks true rest
  | false, c :: rest =>
    if isBlank c then skipBlanks false rest
    else if c == '#' then skipBlanks true rest
    else c :: rest

/-- Leave out blanks and comments where the flags say so. -/
def skip (flags : RegexFlags) (cs : List Char) : List Char :=
  if flags.spaced then skipBlanks false cs else cs

/-- The characters that pass a test as long as they come, blanks between them left out where
the flags say so. The first count bounds how many characters are looked at. -/
def takeSpaced (flags : RegexFlags) (test : Char → Bool) :
    Nat → List Char → List Char × List Char
  | _, [] => ([], [])
  | 0, cs => ([], cs)
  | budget + 1, c :: rest =>
    if test c then
      let (taken, rest) := takeSpaced flags test budget (skip flags rest)
      (c :: taken, rest)
    else ([], c :: rest)

/-- The largest count a repetition can be given. -/
def countLimit : Nat := 0x100000000

/-- A count in decimal digits, blanks allowed around it; the inner `none` means that there is
no digit. -/
def readCount (flags : RegexFlags) (cs : List Char) : Option (Option Nat × List Char) :=
  let cs := cs.dropWhile isBlank
  let (digits, rest) := takeSpaced flags Char.isDigit cs.length cs
  let rest := rest.dropWhile isBlank
  let value := digits.foldl (fun n c => n * 10 + (c.toNat - '0'.toNat)) 0
  if digits.isEmpty then some (none, rest)
  else if value < countLimit then some (some value, rest)
  else none

/-- The value of a hexadecimal digit. -/
def hexValue (c : Char) : Nat :=
  if c.isDigit then c.toNat - '0'.toNat else c.toLower.toNat - 'a'.toNat + 10

/-- Whether a character is a hexadecimal digit. -/
def isHex (c : Char) : Bool :=
  c.isDigit || ('a' ≤ c && c ≤ 'f') || ('A' ≤ c && c ≤ 'F')

/-- The character of a code point, unless there is none. -/
def charOf? (point : Nat) : Option Char :=
  if h : point.isValidChar then some (Char.ofNatAux point h) else none

/-- The character given by hexadecimal digits. -/
def hexChar? (digits : List Char) : Option Char :=
  charOf? (digits.foldl (fun n c => n * 16 + hexValue c) 0)

/-- What a written part of one character's length stands for. -/
inductive Atom where
  /-- A character. -/
  | literal (c : Char)
  /-- A set of characters. -/
  | chars (a : CharSet)
  /-- A condition on a place. -/
  | place (condition : Place)

/-- A character given by its code point in hexadecimal: a number of digits or any number of
them in braces. Only ASCII characters are given by two digits when the flags restrict classes
to ASCII. -/
def readHex (flags : RegexFlags) (count : Nat) (cs : List Char) : Option (Atom × List Char) :=
  match skip flags cs with
  | '\x7b' :: rest =>
    let rest := skip flags rest
    let (digits, rest) := takeSpaced flags isHex rest.length rest
    match rest with
    | '\x7d' :: rest =>
      if digits.isEmpty then none
      else (hexChar? digits).map fun c => (.literal c, skip flags rest)
    | _ => none
  | cs =>
    let (digits, rest) := takeSpaced flags isHex count cs
    if digits.length < count then none
    else match hexChar? digits with
      | none => none
      | some c =>
        if !flags.wide && count == 2 && 0x7f < c.toNat then none
        else some (.literal c, rest)

/-- The parts of a class name around the first place where a mark stands in it. -/
def cutAt (mark : List Char) : List Char → Option (List Char × List Char)
  | [] => none
  | c :: rest =>
    if mark.isPrefixOf (c :: rest) then some ([], (c :: rest).drop mark.length)
    else (cutAt mark rest).map fun (front, back) => (c :: front, back)

/-- The set that a name between braces stands for: of a property, or of a property and a value
with `!=`, `:` or `=` between them, which all mean the same. -/
def namedSet? (name : List Char) : Option CharSet :=
  let valued (parts : List Char × List Char) : Option CharSet :=
    propertyValueSet? (String.ofList parts.1) (String.ofList parts.2)
  match cutAt ['!', '='] name, cutAt [':'] name, cutAt ['='] name with
  | some parts, _, _ => valued parts
  | none, some parts, _ => valued parts
  | none, none, some parts => valued parts
  | none, none, none => propertySet? (String.ofList name)

/-- A set of characters by its name in braces or its one letter. -/
def readProperty (flags : RegexFlags) (negated : Bool) (cs : List Char) :
    Option (Atom × List Char) :=
  if !flags.wide then none
  else
    let atom (a : CharSet) : Atom :=
      .chars ((if flags.ignoreCase then a.foldCase true else a).negateIf negated)
    match skip flags cs with
    | [] => none
    | '\x7b' :: rest =>
      let rest := skip flags rest
      let (name, rest) := takeSpaced flags (· != '\x7d') rest.length rest
      match rest, namedSet? name with
      | _ :: rest, some a => some (atom a, rest)
      | _, _ => none
    | c :: rest =>
      if c == '\\' then none
      else (propertySet? (String.ofList [c])).map fun a => (atom a, skip flags rest)

/-- How a word lies by the name in braces after a word boundary. -/
def wordEdge? : String → Option WordEdge
  | "start" => some .start
  | "end" => some .stop
  | "start-half" => some .startHalf
  | "end-half" => some .stopHalf
  | _ => none

/-- What follows the letter of a word boundary: a name in braces, or nothing when the braces
hold a count. -/
def readBoundary (flags : RegexFlags) (cs : List Char) : Option (Atom × List Char) :=
  let named (c : Char) : Bool := c.isAlpha || c == '-'
  let edge (edge : WordEdge) : Atom := .place (.word flags.wide edge)
  match cs with
  | '\x7b' :: rest =>
    let rest := skip flags rest
    if rest.isEmpty then none
    else if !rest.head?.any named then some (edge .boundary, cs)
    else
      let (name, rest) := takeSpaced flags named rest.length rest
      match rest with
      | '\x7d' :: rest => (wordEdge? (String.ofList name)).map fun found => (edge found, rest)
      | _ => none
  | _ => some (edge .boundary, cs)

/-- One of the three classes written with a letter. The negated ones reach beyond ASCII and
need flags that do. -/
def readLetterClass (flags : RegexFlags) (a : Bool → CharSet) (negated : Bool)
    (cs : List Char) : Option (Atom × List Char) :=
  if negated && !flags.wide then none
  else some (.chars ((a flags.wide).negateIf negated), cs)

/-- What a backslash begins, from the character after it. -/
def readEscape (flags : RegexFlags) : List Char → Option (Atom × List Char)
  | [] => none
  | c :: rest =>
    let literal (c : Char) : Option (Atom × List Char) := some (.literal c, rest)
    if isMeta c then literal c
    else match c with
      | 'x' => readHex flags 2 rest
      | 'u' => readHex flags 4 rest
      | 'U' => readHex flags 8 rest
      | 'p' => readProperty flags false rest
      | 'P' => readProperty flags true rest
      | 'd' => readLetterClass flags .digit false rest
      | 'D' => readLetterClass flags .digit true rest
      | 's' => readLetterClass flags .blank false rest
      | 'S' => readLetterClass flags .blank true rest
      | 'w' => readLetterClass flags .word false rest
      | 'W' => readLetterClass flags .word true rest
      | 'a' => literal '\x07'
      | 'f' => literal '\x0c'
      | 't' => literal '\t'
      | 'n' => literal '\n'
      | 'r' => literal '\r'
      | 'v' => literal '\x0b'
      | 'A' => some (.place .textStart, rest)
      | 'z' => some (.place .textEnd, rest)
      | 'b' => readBoundary flags rest
      | 'B' => some (.place (.word flags.wide .interior), rest)
      | '<' => some (.place (.word flags.wide .start), rest)
      | '>' => some (.place (.word flags.wide .stop), rest)
      | c => if c.toNat < 128 && !c.isAlphanum then literal c else none

end Regex

end CommandGrammar
