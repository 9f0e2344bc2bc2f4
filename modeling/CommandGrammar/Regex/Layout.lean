import CommandGrammar.Regex.Place

/-!
# Layouts

A layout is the form of an expression that its room is measured by. Texts that follow each
other are one text, alternatives of single characters are one set, and what alternatives begin
with in common stands before them. The functions that put layouts together keep this form:
no part of a sequence is empty or a sequence, and no alternative is a list of alternatives.
-/

namespace CommandGrammar

/-- The form of an expression that its room is measured by. -/
inductive Layout where
  /-- The empty text. -/
  | empty
  /-- A text of at least one character. -/
  | text (chars : List Char)
  /-- One character of a set. -/
  | one (chars : CharSet)
  /-- The empty text at a place where a condition holds. -/
  | place (condition : Place)
  /-- A layout whose text is kept under a number. -/
  | group (index : Nat) (body : Layout)
  /-- Two or more layouts one after the other. -/
  | sequence (parts : List Layout)
  /-- Any of two or more layouts. -/
  | choice (parts : List Layout)
  /-- A layout repeated between two counts, or without an upper one. -/
  | times (body : Layout) (least : Nat) (most : Option Nat) (greedy : Bool)
  deriving Inhabited

namespace Layout

mutual

/-- Whether two layouts are the same. -/
def same : Layout → Layout → Bool
  | empty, empty => true
  | text a, text b => a == b
  | one a, one b => a == b
  | place a, place b => a == b
  | group i a, group j b => i == j && same a b
  | sequence a, sequence b => sameAll a b
  | choice a, choice b => sameAll a b
  | times a least most greedy, times b least' most' greedy' =>
    same a b && least == least' && most == most' && greedy == greedy'
  | _, _ => false

/-- Whether two lists of layouts are the same. -/
def sameAll : List Layout → List Layout → Bool
  | [], [] => true
  | a :: as, b :: bs => same a b && sameAll as bs
  | _, _ => false

end

mutual

/-- The number of parts that a layout is built from. -/
def weight : Layout → Nat
  | empty => 1
  | text _ => 1
  | one _ => 1
  | place _ => 1
  | group _ body => body.weight + 1
  | sequence parts => weightOfAll parts + 1
  | choice parts => weightOfAll parts + 1
  | times body _ _ _ => body.weight + 1

/-- The number of parts that some layouts are built from. -/
def weightOfAll : List Layout → Nat
  | [] => 0
  | part :: parts => part.weight + weightOfAll parts

end

mutual

/-- The least number of characters in a text of the layout, if it has texts at all. -/
def leastLength : Layout → Option Nat
  | empty => some 0
  | text chars => some chars.length
  | one chars => if chars.ranges.isEmpty then none else some 1
  | place _ => some 0
  | group _ body => body.leastLength
  | sequence parts => (leastLengths parts).map List.sum
  | choice parts => (leastLengths parts).bind List.min?
  | times body least _ _ => body.leastLength.map (· * least)

/-- The least lengths of some layouts, if they all have texts. -/
def leastLengths : List Layout → Option (List Nat)
  | [] => some []
  | part :: parts => match part.leastLength, leastLengths parts with
    | some length, some lengths => some (length :: lengths)
    | _, _ => none

end

mutual

/-- Whether all texts of the layout are empty; a layout without texts does not count. -/
def isBlank : Layout → Bool
  | empty => true
  | text _ => false
  | one _ => false
  | place _ => true
  | group _ body => body.isBlank
  | sequence parts => areBlank parts
  | choice parts => areBlank parts
  | times body _ most _ => match most with
    | none => false
    | some most => most == 0 || body.isBlank

/-- Whether all texts of some layouts are empty. -/
def areBlank : List Layout → Bool
  | [] => true
  | part :: parts => part.isBlank && areBlank parts

end

mutual

/-- Whether the layout matches at one end of the text only, which is its start or its end. -/
def isAnchored (atStart : Bool) : Layout → Bool
  | empty => false
  | text _ => false
  | one _ => false
  | place condition => condition == if atStart then .textStart else .textEnd
  | group _ body => body.isAnchored atStart
  | sequence parts => anchorsSequence atStart parts
  | choice parts => areAnchored atStart parts
  | times body least _ _ => least != 0 && body.isAnchored atStart

/-- Whether all of some layouts match at one end of the text only. -/
def areAnchored (atStart : Bool) : List Layout → Bool
  | [] => true
  | part :: parts => part.isAnchored atStart && areAnchored atStart parts

/-- Whether layouts one after the other match at one end of the text only: one of them does,
and those between it and that end are blank. -/
def anchorsSequence (atStart : Bool) : List Layout → Bool
  | [] => false
  | part :: parts =>
    if atStart then part.isAnchored atStart || (part.isBlank && anchorsSequence atStart parts)
    else anchorsSequence atStart parts || (areBlank parts && part.isAnchored atStart)

end

/-- One character of a set; of a set with one character, that character. -/
def ofSet (chars : CharSet) : Layout :=
  match chars.single? with
  | some c => text [c]
  | none => one chars

/-- The parts that a layout adds to a sequence. -/
def sequenceParts : Layout → List Layout
  | empty => []
  | sequence parts => parts
  | part => [part]

/-- Put a layout before others and join it with a text at their front if it is one. -/
def joinText (part : Layout) (parts : List Layout) : List Layout :=
  match part, parts with
  | text a, text b :: rest => text (a ++ b) :: rest
  | part, parts => part :: parts

/-- Layouts one after the other. -/
def inTurn (parts : List Layout) : Layout :=
  match (parts.flatMap sequenceParts).foldr joinText [] with
  | [] => empty
  | [part] => part
  | parts => sequence parts

/-- The alternatives that a layout adds to others. -/
def choiceParts : Layout → List Layout
  | choice parts => parts
  | part => [part]

/-- The character that is the whole text. -/
def character? : Layout → Option Char
  | text [c] => some c
  | _ => none

/-- The set of which one character is the text. -/
def set? : Layout → Option CharSet
  | one chars => some chars
  | _ => none

/-- The parts of a sequence. -/
def parts? : Layout → Option (List Layout)
  | sequence parts => some parts
  | _ => none

/-- What two lists begin with in common. -/
def commonFront : List Layout → List Layout → List Layout
  | a :: as, b :: bs => if same a b then a :: commonFront as bs else []
  | _, _ => []

/-- Any of some layouts. What they begin with in common is taken out, which can lead to
alternatives with more in common; every time fewer parts are left, so the budget need only be
their number. -/
def anyOfWithin : Nat → List Layout → Layout
  | budget, parts =>
    match parts.flatMap choiceParts with
    | [] => one .empty
    | [part] => part
    | first :: rest =>
      let parts := first :: rest
      match parts.mapM character?, parts.mapM set?, parts.mapM parts? with
      | some chars, _, _ => ofSet (.ofPoints (chars.map Char.toNat))
      | none, some sets, _ => ofSet (.unions sets)
      | none, none, some (first :: rest) =>
        let front := rest.foldl commonFront first
        match budget, front with
        | budget + 1, _ :: _ =>
          let rests := (first :: rest).map fun parts => inTurn (parts.drop front.length)
          inTurn (front ++ [anyOfWithin budget rests])
        | _, _ => choice parts
      | none, none, _ => choice parts

/-- Any of some layouts. -/
def anyOf (parts : List Layout) : Layout := anyOfWithin (weightOfAll parts) parts

/-- The counts of a repetition of blank texts, which more than one of do nothing new. -/
def blankCounts (least : Nat) (most : Option Nat) : Nat × Option Nat :=
  (min least 1, some (min (most.getD 1) 1))

/-- A layout repeated. -/
def repeated (body : Layout) (least : Nat) (most : Option Nat) (greedy : Bool) : Layout :=
  match least, most with
  | 0, some 0 => empty
  | 1, some 1 => body
  | least, most => times body least most greedy

end Layout

end CommandGrammar
