import CommandGrammar.Json.Tree

/-!
# Tokens

Input is a single text or a chain of texts and opaque units. A unit carries a payload that is
never looked into; it is told apart by its kind.
-/

namespace CommandGrammar

/-- An element of the input that is not text. -/
structure OpaqueUnit where
  /-- What sort of element this is. -/
  kind : String
  /-- The payload, `null` when there is none. -/
  data : Json
  deriving Inhabited

/-- One element of the input. -/
inductive Token where
  /-- A piece of text. -/
  | text (s : String)
  /-- An opaque unit. -/
  | unit (u : OpaqueUnit)
  deriving Inhabited

/-- What is matched against a grammar. -/
inductive Input where
  /-- A text still to be split. -/
  | text (s : String)
  /-- Texts and units in order; each text is still to be split. -/
  | chain (tokens : List Token)
  deriving Inhabited

namespace Token

/-- The kind that stands for text tokens among the kinds of units. -/
def textKind : String := "text"

/-- The text of a text token. -/
def asText? : Token → Option String
  | text s => some s
  | unit _ => none

/-- Whether a token is a unit of a kind, or a text when the kind is the one of texts. -/
def isKind (token : Token) (kind : String) : Bool :=
  match token with
  | text _ => kind == textKind
  | unit u => u.kind == kind

/-- How a token is named in messages: a text as it is, a unit by its kind in brackets. -/
def display : Token → String
  | text s => s
  | unit u => "[" ++ u.kind ++ "]"

end Token

end CommandGrammar
