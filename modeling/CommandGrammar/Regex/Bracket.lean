import CommandGrammar.Regex.Escape

/-!
# Reading classes in brackets

A class in brackets joins characters, ranges, named classes and further brackets, and can be
cut down by the operators for intersection, difference and symmetric difference, which have
one precedence and associate to the left. Brackets are read with a stack of what is still
open, one part at a time.
-/

namespace CommandGrammar.Regex

/-- A class with what a limit depends on. -/
structure ClassPart where
  /-- The characters. -/
  chars : CharSet
  /-- How deep the parts it was written with are nested. -/
  nesting : Nat

/-- The union of parts, which are listed in any order. -/
def ClassPart.union : List ClassPart → ClassPart
  | [] => ⟨.empty, 0⟩
  | [part] => part
  | parts =>
    ⟨.unions (parts.map ClassPart.chars), (parts.map ClassPart.nesting).foldl max 0 + 1⟩

/-- The operators between classes. -/
inductive ClassOperator where
  /-- The characters in both. -/
  | intersection
  /-- The characters in the first and not in the second. -/
  | difference
  /-- The characters in exactly one. -/
  | symmetricDifference

/-- The result of an operator. Both sides are folded first where case is ignored. -/
def ClassOperator.apply (operator : ClassOperator) (flags : RegexFlags) (left right : ClassPart) :
    ClassPart :=
  let fold (a : CharSet) : CharSet := if flags.ignoreCase then a.foldCase flags.wide else a
  let a := fold left.chars
  let b := fold right.chars
  let chars : CharSet := match operator with
    | .intersection => a.inter b
    | .difference => a.diff b
    | .symmetricDifference => a.symmDiff b
  ⟨chars, max left.nesting right.nesting + 1⟩

/-- A bracket or an operator whose end has not been read yet. -/
inductive ClassFrame where
  /-- An open bracket, with the parts of the class around it. -/
  | bracket (outer : List ClassPart) (negated : Bool)
  /-- An operator with its left side. -/
  | operator (kind : ClassOperator) (left : ClassPart)

/-- Apply the operator whose right side has ended, if there is one. -/
def endOperand (flags : RegexFlags) (right : ClassPart) :
    List ClassFrame → ClassPart × List ClassFrame
  | .operator kind left :: frames => (kind.apply flags left right, frames)
  | frames => (right, frames)

/-- What has been read of a class: the frames, the innermost first, and the latest parts. -/
structure ClassState where
  /-- The brackets and operators under way. -/
  frames : List ClassFrame
  /-- The parts read since the last of them. -/
  parts : List ClassPart

/-- The start of a bracket after its opening: whether it is negated, the literal hyphens and
closing bracket at its front, and the rest. -/
def openBracket (flags : RegexFlags) (cs : List Char) :
    Option (Bool × List ClassPart × List Char) :=
  let (negated, cs) := match skip flags cs with
    | '^' :: rest => (true, skip flags rest)
    | cs => (false, cs)
  let (hyphens, cs) := takeSpaced flags (· == '-') cs.length cs
  let literal (c : Char) : ClassPart := ⟨.single c, 0⟩
  if hyphens.isEmpty then
    match cs with
    | ']' :: rest =>
      match skip flags rest with
      | [] => none
      | rest => some (negated, [literal ']'], rest)
    | [] => none
    | cs => some (negated, [], cs)
  else if cs.isEmpty then none
  else some (negated, hyphens.map literal, cs)

/-- A POSIX class and whether it is negated, from after its opening bracket. What is not the
name of such a class begins a bracket of its own. -/
def readPosix? : List Char → Option (CharSet × Bool × List Char)
  | ':' :: rest =>
    let (negated, rest) := match rest with
      | '^' :: rest => (true, rest)
      | rest => (false, rest)
    let name := rest.takeWhile (· != ':')
    match rest.drop name.length, CharSet.posix? name with
    | ':' :: ']' :: rest, some a => some (a, negated, rest)
    | _, _ => none
  | _ => none

/-- One end of a range, or any other single part. -/
def readClassAtom (flags : RegexFlags) : List Char → Option (Atom × List Char)
  | [] => none
  | '\\' :: rest => readEscape flags rest
  | c :: rest => some (.literal c, rest)

/-- Whether a character may stand in a class; only ASCII characters may when the flags
restrict classes to ASCII. -/
def allowsLiteral (flags : RegexFlags) (c : Char) : Bool := flags.wide || decide (c.toNat < 128)

/-- A single part as a class; conditions on places are none. -/
def Atom.toClassPart? (flags : RegexFlags) : Atom → Option ClassPart
  | .literal c => if allowsLiteral flags c then some ⟨.single c, 0⟩ else none
  | .chars a => some ⟨a, 0⟩
  | .place _ => none

/-- The first character that is no blank and no number sign which opens a comment; what is in
the comment counts. -/
def firstVisible? : (inComment : Bool) → List Char → Option Char
  | _, [] => none
  | inComment, c :: rest =>
    if isBlank c then firstVisible? inComment rest
    else if c == '#' && !inComment then firstVisible? true rest
    else some c

/-- The character that decides whether a hyphen makes a range, given what is after it. Where
the flags leave out blanks, blanks are passed over unless nothing else is left. -/
def afterHyphen? (flags : RegexFlags) (cs : List Char) : Option Char :=
  if flags.spaced then (firstVisible? false cs).or cs.head? else cs.head?

/-- A single part or a range. A hyphen that is followed by the closing bracket or by another
hyphen makes no range. -/
def readClassRange (flags : RegexFlags) (cs : List Char) : Option (ClassPart × List Char) :=
  match readClassAtom flags cs with
  | none => none
  | some (first, rest) =>
    match skip flags rest with
    | '-' :: rest =>
      let next := afterHyphen? flags rest
      if next == some ']' || next == some '-' then
        (first.toClassPart? flags).map (·, '-' :: rest)
      else match first, readClassAtom flags (skip flags rest) with
        | .literal low, some (.literal high, rest) =>
          if allowsLiteral flags low && allowsLiteral flags high && decide (low ≤ high) then
            some (⟨.range low high, 0⟩, rest)
          else none
        | _, _ => none
    | rest => if rest.isEmpty then none else (first.toClassPart? flags).map (·, rest)

/-- The outcome of reading one part of a class. -/
inductive ClassStep where
  /-- The class goes on. -/
  | more (state : ClassState) (rest : List Char)
  /-- The outermost bracket was closed. -/
  | done (part : ClassPart) (rest : List Char)

/-- Put an operator after the parts read last. -/
def ClassState.operate (flags : RegexFlags) (kind : ClassOperator) (state : ClassState) :
    ClassState :=
  let (left, frames) := endOperand flags (.union state.parts) state.frames
  ⟨.operator kind left :: frames, []⟩

/-- Close the innermost bracket. A negated one needs flags that reach beyond ASCII. -/
def closeBracket (flags : RegexFlags) (state : ClassState) (rest : List Char) :
    Option ClassStep :=
  match endOperand flags (.union state.parts) state.frames with
  | (part, .bracket outer negated :: frames) =>
    if negated && !flags.wide then none
    else
      let a := if flags.ignoreCase then part.chars.foldCase flags.wide else part.chars
      let part : ClassPart := ⟨a.negateIf negated, part.nesting + 1⟩
      if frames.isEmpty then some (.done part rest)
      else some (.more ⟨frames, part :: outer⟩ rest)
  | _ => none

/-- Read one part of a class. -/
def classStep (flags : RegexFlags) (state : ClassState) : List Char → Option ClassStep
  | [] => none
  | '[' :: rest =>
    match if state.frames.isEmpty then none else readPosix? rest with
    | some (a, negated, rest) =>
      if negated && !flags.wide then none
      else
        let a := if flags.ignoreCase then a.foldCase flags.wide else a
        some (.more { state with parts := ⟨a.negateIf negated, 0⟩ :: state.parts } rest)
    | none =>
      (openBracket flags rest).map fun (negated, parts, rest) =>
        .more ⟨.bracket state.parts negated :: state.frames, parts⟩ rest
  | ']' :: rest => closeBracket flags state rest
  | '&' :: '&' :: rest => some (.more (state.operate flags .intersection) rest)
  | '-' :: '-' :: rest => some (.more (state.operate flags .difference) rest)
  | '~' :: '~' :: rest => some (.more (state.operate flags .symmetricDifference) rest)
  | cs =>
    (readClassRange flags cs).map fun (part, rest) =>
      .more { state with parts := part :: state.parts } rest

/-- Read a class to its end. Every step reads a character, so a budget of one step for each
character is enough. -/
def readClassFrom (flags : RegexFlags) : Nat → ClassState → List Char →
    Option (ClassPart × List Char)
  | 0, _, _ => none
  | budget + 1, state, cs =>
    match classStep flags state (skip flags cs) with
    | none => none
    | some (.done part rest) => some (part, rest)
    | some (.more state rest) => readClassFrom flags budget state rest

/-- A class in brackets, from its opening bracket on. -/
def readClass (flags : RegexFlags) (cs : List Char) : Option (ClassPart × List Char) :=
  readClassFrom flags cs.length ⟨[], []⟩ cs

end CommandGrammar.Regex
