import CommandGrammar.Regex.Place

/-!
# Regular expressions

An expression is built from sets of characters and conditions on places between characters.
Alternatives and repetitions are ordered: an expression prefers its first alternative, and
more repetitions when it is greedy, fewer otherwise.
-/

namespace CommandGrammar

/-- A regular expression. -/
inductive Regex where
  /-- The empty text. -/
  | empty
  /-- One character of a set. -/
  | one (chars : CharSet)
  /-- The empty text at a place where a condition holds. -/
  | place (condition : Place)
  /-- An expression whose text is kept under a number. -/
  | group (index : Nat) (body : Regex)
  /-- One expression after the other. -/
  | seq (first second : Regex)
  /-- Either expression; the first is preferred. -/
  | alt (first second : Regex)
  /-- An expression repeated between two counts, or without an upper one. -/
  | times (body : Regex) (least : Nat) (most : Option Nat) (greedy : Bool)
  deriving DecidableEq, Repr, Inhabited

namespace Regex

/-- Whether every text of the expression has at least one character. -/
def consumes : Regex → Bool
  | empty => false
  | one _ => true
  | place _ => false
  | group _ body => body.consumes
  | seq first second => first.consumes || second.consumes
  | alt first second => first.consumes && second.consumes
  | times body least _ _ => least != 0 && body.consumes

/-- Expressions one after the other. -/
def sequence : List Regex → Regex
  | [] => empty
  | [last] => last
  | first :: rest => seq first (sequence rest)

/-- Any of some expressions, earlier ones preferred. -/
def alternation (first : Regex) : List Regex → Regex
  | [] => first
  | second :: rest => alt first (alternation second rest)

end Regex

end CommandGrammar
