import CommandGrammar.Regex.Bracket
import CommandGrammar.Regex.Room
import CommandGrammar.Regex.Search
import CommandGrammar.Unicode.LaterLetters

/-!
# Reading regular expressions

An expression is read from left to right into a builder: the parts of the sequence under way,
the alternatives before it, and a frame for each group that is still open. Flags hold from
where they are set to the end of their group, also across a bar.

Expressions that are nested too deep or would take too much room are refused, like those that
are not well formed.
-/

namespace CommandGrammar.Regex

/-- An expression with what limits depend on. -/
structure Part where
  /-- The expression. -/
  body : Regex
  /-- The form that its room is measured by. -/
  layout : Layout
  /-- How deep the parts it was written with are nested. -/
  nesting : Nat

namespace Part

/-- The deepest nesting among parts. -/
def deepest (parts : List Part) : Nat := (parts.map nesting).foldl max 0

/-- The empty text. -/
def empty : Part := ⟨.empty, .empty, 0⟩

/-- One character of a set. -/
def one (chars : CharSet) (nesting : Nat) : Part := ⟨.one chars, .ofSet chars, nesting⟩

/-- The empty text at a place where a condition holds. -/
def place (condition : Place) : Part := ⟨.place condition, .place condition, 0⟩

/-- Parts one after the other. -/
def sequence (parts : List Part) : Part :=
  ⟨.sequence (parts.map body), .inTurn (parts.map layout), deepest parts + 1⟩

/-- Any of some parts, earlier ones preferred. -/
def alternation (first : Part) (rest : List Part) : Part :=
  ⟨.alternation first.body (rest.map body), .anyOf ((first :: rest).map layout),
    deepest (first :: rest) + 1⟩

/-- A part repeated. Blank texts need not be repeated more than once. -/
def times (part : Part) (least : Nat) (most : Option Nat) (greedy : Bool) : Part :=
  let (least, most) :=
    if part.layout.isBlank then Layout.blankCounts least most else (least, most)
  ⟨.times part.body least most greedy, part.layout.repeated least most greedy,
    part.nesting + 1⟩

/-- A part as a group, numbered if its text is kept. -/
def grouped (part : Part) (index : Option Nat) : Part :=
  match index with
  | some index => ⟨.group index part.body, .group index part.layout, part.nesting + 1⟩
  | none => { part with nesting := part.nesting + 1 }

end Part

/-- An element of a sequence. -/
inductive Element where
  /-- A part that matches. -/
  | part (p : Part)
  /-- A setting of flags, which cannot be repeated. -/
  | setting

/-- The part of an element that matches. -/
def Element.part? : Element → Option Part
  | part p => some p
  | setting => none

/-- A group whose end has not been read yet. -/
structure GroupFrame where
  /-- The flags that hold after it. -/
  flags : RegexFlags
  /-- Its number, if its text is kept. -/
  index : Option Nat
  /-- The alternatives before the sequence it stands in, the latest first. -/
  alternatives : List Part
  /-- The elements before it in that sequence, the latest first. -/
  elements : List Element

/-- What has been read of an expression. -/
structure Builder where
  /-- The flags that hold. -/
  flags : RegexFlags
  /-- The alternatives before the sequence under way, the latest first. -/
  alternatives : List Part
  /-- The elements of the sequence under way, the latest first. -/
  elements : List Element
  /-- The groups that are open, the innermost first. -/
  frames : List GroupFrame
  /-- How many groups have been numbered. -/
  groups : Nat
  /-- The names given to groups. -/
  names : List (List Char)

namespace Builder

/-- Nothing read yet. -/
def start : Builder := ⟨.start, [], [], [], 0, []⟩

/-- Add an element to the sequence. -/
def push (b : Builder) (e : Element) : Builder := { b with elements := e :: b.elements }

/-- The sequence under way as one part. -/
def sequence (b : Builder) : Part :=
  let parts := b.elements.reverse.filterMap Element.part?
  match b.elements with
  | [] => .empty
  | [.part p] => p
  | [.setting] => .empty
  | _ => .sequence parts

/-- The alternatives and the sequence under way as one part. -/
def whole (b : Builder) : Part :=
  match b.alternatives.reverse ++ [b.sequence] with
  | [] => b.sequence
  | [only] => only
  | first :: rest => .alternation first rest

/-- End an alternative. -/
def bar (b : Builder) : Builder :=
  { b with alternatives := b.sequence :: b.alternatives, elements := [] }

/-- Begin a group with the flags that hold in it. -/
def openGroup (b : Builder) (index : Option Nat) (flags : RegexFlags) : Builder :=
  { b with
    flags := flags, alternatives := [], elements := [],
    frames := ⟨b.flags, index, b.alternatives, b.elements⟩ :: b.frames }

/-- End the innermost group. -/
def closeGroup? (b : Builder) : Option Builder :=
  match b.frames with
  | [] => none
  | frame :: frames => some
    { b with
      flags := frame.flags, alternatives := frame.alternatives,
      elements := .part (b.whole.grouped frame.index) :: frame.elements, frames := frames }

/-- Repeat the last element of the sequence, which must match something. -/
def repeatLast? (b : Builder) (least : Nat) (most : Option Nat) (lazy : Bool) :
    Option Builder :=
  match b.elements with
  | .part p :: rest =>
    let greedy := lazy == b.flags.swapGreed
    some { b with elements := .part (p.times least most greedy) :: rest }
  | _ => none

end Builder

/-- Whether a question mark follows, and what is after it. -/
def takeLazy : List Char → Bool × List Char
  | '?' :: rest => (true, rest)
  | cs => (false, cs)

/-- A repetition between counts, from after its opening brace. -/
def readCounted (b : Builder) (cs : List Char) : Option (Builder × List Char) :=
  let finish (least : Nat) (most : Option Nat) : List Char → Option (Builder × List Char)
    | '\x7d' :: rest =>
      let (lazy, rest) := takeLazy (skip b.flags rest)
      if most.any (· < least) then none
      else (b.repeatLast? least most lazy).map (·, rest)
    | _ => none
  match readCount b.flags (skip b.flags cs) with
  | some (some least, ',' :: rest) =>
    match skip b.flags rest with
    | '\x7d' :: rest => finish least none ('\x7d' :: rest)
    | rest => match readCount b.flags rest with
      | some (some most, rest) => finish least (some most) rest
      | _ => none
  | some (some count, rest) => finish count (some count) rest
  | _ => none

/-- Whether a character may stand in the name of a group. -/
def isNameChar (first : Bool) (c : Char) : Bool :=
  if first then c == '_' || isAlphabetic c
  else c == '_' || c == '.' || c == '[' || c == ']' || isAlphanumeric c

/-- A group with a name, from after the angle that opens its name. -/
def readNamedGroup (b : Builder) (cs : List Char) : Option (Builder × List Char) :=
  let name := cs.takeWhile (· != '>')
  match name, cs.drop name.length with
  | first :: others, _ :: rest =>
    if isNameChar true first && others.all (isNameChar false) && !b.names.contains name then
      let b := { b with groups := b.groups + 1, names := name :: b.names }
      some (b.openGroup (some b.groups) b.flags, rest)
    else none
  | _, _ => none

/-- Letters of flags up to a colon or closing parenthesis: the flags as they are set, the
letters seen, and the rest from the end mark on. Letters after a hyphen are turned off; no
letter and no hyphen stands twice, and a hyphen has a letter after it. -/
def readFlags : RegexFlags → (on : Bool) → (seen : List Char) → List Char →
    Option (RegexFlags × List Char × List Char)
  | _, _, _, [] => none
  | flags, on, seen, c :: rest =>
    if c == ':' || c == ')' then
      if seen.head? == some '-' then none else some (flags, seen, c :: rest)
    else if seen.contains c then none
    else if c == '-' then readFlags flags false (c :: seen) rest
    else match flags.set? c on with
      | some flags => readFlags flags on (c :: seen) rest
      | none => none

/-- What an opening parenthesis begins, from after it: a group, or a setting of flags. -/
def readGroup (b : Builder) (cs : List Char) : Option (Builder × List Char) :=
  match skip b.flags cs with
  | '?' :: '=' :: _ => none
  | '?' :: '!' :: _ => none
  | '?' :: '<' :: '=' :: _ => none
  | '?' :: '<' :: '!' :: _ => none
  | '?' :: 'P' :: '<' :: rest => readNamedGroup b rest
  | '?' :: '<' :: rest => readNamedGroup b rest
  | '?' :: rest =>
    match readFlags b.flags true [] rest with
    | some (flags, _, ':' :: rest) => some (b.openGroup none flags, rest)
    | some (flags, seen, _ :: rest) =>
      if seen.isEmpty then none else some ({ b with flags := flags }.push .setting, rest)
    | _ => none
  | rest =>
    let b := { b with groups := b.groups + 1 }
    some (b.openGroup (some b.groups) b.flags, rest)

/-- The characters that the dot takes. -/
def dotSet (flags : RegexFlags) : CharSet :=
  if flags.dotAll then .all
  else if flags.anyLine then (CharSet.ofPoints [0xa, 0xd]).complement
  else (CharSet.single '\n').complement

/-- A part of one character's length, as the flags mean it. -/
def Atom.toPart (flags : RegexFlags) : Atom → Part
  | .literal c =>
    let a := CharSet.single c
    .one (if flags.ignoreCase then a.foldCase flags.wide else a) 0
  | .chars a => .one a 0
  | .place condition => .place condition

/-- Read one element into the builder. -/
def buildStep (b : Builder) : List Char → Option (Builder × List Char)
  | [] => none
  | '(' :: rest => readGroup b rest
  | ')' :: rest => b.closeGroup?.map (·, rest)
  | '|' :: rest => some (b.bar, rest)
  | '[' :: rest =>
    (readClass b.flags ('[' :: rest)).map fun (part, rest) =>
      (b.push (.part (.one part.chars part.nesting)), rest)
  | '?' :: rest =>
    let (lazy, rest) := takeLazy rest
    (b.repeatLast? 0 (some 1) lazy).map (·, rest)
  | '*' :: rest =>
    let (lazy, rest) := takeLazy rest
    (b.repeatLast? 0 none lazy).map (·, rest)
  | '+' :: rest =>
    let (lazy, rest) := takeLazy rest
    (b.repeatLast? 1 none lazy).map (·, rest)
  | '\x7b' :: rest => readCounted b rest
  | '\\' :: rest =>
    (readEscape b.flags rest).map fun (atom, rest) => (b.push (.part (atom.toPart b.flags)), rest)
  | '.' :: rest =>
    if b.flags.wide then some (b.push (.part (.one (dotSet b.flags) 0)), rest) else none
  | '^' :: rest =>
    let condition : Place := if !b.flags.multiLine then .textStart
      else if b.flags.anyLine then .anyLineStart else .lineStart
    some (b.push (.part (.place condition)), rest)
  | '$' :: rest =>
    let condition : Place := if !b.flags.multiLine then .textEnd
      else if b.flags.anyLine then .anyLineEnd else .lineEnd
    some (b.push (.part (.place condition)), rest)
  | c :: rest => some (b.push (.part ((Atom.literal c).toPart b.flags)), rest)

/-- Read elements to the end of the expression. Every step reads a character, so a budget of
one step for each character is enough. -/
def buildFrom : Nat → Builder → List Char → Option Builder
  | budget, b, cs =>
    match skip b.flags cs with
    | [] => some b
    | cs => match budget with
      | 0 => none
      | budget + 1 => match buildStep b cs with
        | none => none
        | some (b, rest) => buildFrom budget b rest

/-- The deepest nesting that is accepted. -/
def nestingLimit : Nat := 250

/-- The expression that a text is, if it is well formed and keeps to the limits. -/
def ofText? (text : List Char) : Option Regex :=
  match buildFrom text.length .start text with
  | none => none
  | some b =>
    let part := b.whole
    if b.frames.isEmpty && decide (part.nesting ≤ nestingLimit) && part.layout.fits then
      some part.body
    else none

end CommandGrammar.Regex

namespace CommandGrammar

/-- The program of the expression that a text is. -/
def Program.ofText? (text : List Char) : Option Program := (Regex.ofText? text).map .ofRegex

end CommandGrammar
