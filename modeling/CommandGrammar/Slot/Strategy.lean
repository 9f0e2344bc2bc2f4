import CommandGrammar.Slot.Pattern

/-!
# Strategies

A strategy says which tokens a slot takes and what value they give.
-/

namespace CommandGrammar

/-- Alternatives among texts, patterns and kinds of tokens. Without `negated` they are what
a slot refuses, with it what a slot takes. -/
structure Alternatives where
  /-- Texts that hold by equality. -/
  equals : List String
  /-- Patterns, tried in order. -/
  patterns : List Pattern
  /-- Kinds of tokens. -/
  kinds : List String
  /-- Whether a slot takes what holds. -/
  negated : Bool

namespace Alternatives

/-- The value that the alternatives for texts give, equality before patterns. -/
def hitText? (a : Alternatives) (text : String) : Option Value :=
  if a.equals.contains text then some (.string text)
  else a.patterns.findSome? fun p => p.capture? text

/-- The value of the first alternative that holds of a token: equality, then patterns in
order, then kinds. -/
def hit? (a : Alternatives) (token : Token) : Option Value :=
  match token.asText?.bind a.hitText? with
  | some value => some value
  | none => if a.kinds.any token.isKind then some (.ofToken token) else none

/-- The value a slot with these alternatives takes from a token. -/
def accept? (a : Alternatives) (token : Token) : Option Value :=
  match a.hit? token, a.negated with
  | some value, true => some value
  | none, false => some (.ofToken token)
  | _, _ => none

end Alternatives

/-- The shape of the value of a run of tokens. -/
inductive RunMode where
  /-- A list of values. -/
  | list
  /-- Values under the keys in front of an equals sign. -/
  | map
  deriving DecidableEq, Repr

/-- A run of tokens. -/
structure Run where
  /-- What every value of the run has to match. -/
  inner : Pattern
  /-- The shape of the value. -/
  mode : RunMode

/-- Which tokens a slot takes. -/
inductive Strategy where
  /-- A text that a pattern captures. -/
  | pattern (p : Pattern)
  /-- Any token but a text that a pattern matches. -/
  | negated (p : Pattern)
  /-- A token that alternatives accept. -/
  | union (a : Alternatives)
  /-- A run of texts. -/
  | multi (r : Run)
  /-- Any one token. -/
  | any
  /-- All tokens that are left. -/
  | all

namespace Strategy

/-- Whether the strategy takes more than one token. -/
def isVariadic : Strategy → Bool
  | multi _ => true
  | all => true
  | _ => false

/-- The value that a strategy for one token gives to a token it accepts. -/
def accept? : Strategy → Token → Option Value
  | pattern p, token => token.asText?.bind p.capture?
  | negated p, token =>
    if token.asText?.any fun text => (p.find? text).isSome then none else some (.ofToken token)
  | union a, token => a.accept? token
  | any, token => some (.ofToken token)
  | multi _, _ => none
  | all, _ => none

/-- The strategy of a text: `any`, `all`, an exclamation mark and what is not to match, or a
pattern. -/
def parse (text : String) : Except GrammarFault Strategy :=
  if text = "any" then .ok any
  else if text = "all" then .ok all
  else match text.toList with
    | '!' :: c :: rest => (Pattern.parse (String.ofList (c :: rest))).map negated
    | _ => (Pattern.parse text).map pattern

end Strategy

end CommandGrammar
