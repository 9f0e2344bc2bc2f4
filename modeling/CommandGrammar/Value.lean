import CommandGrammar.Token
import CommandGrammar.Numeral.FloatText
import CommandGrammar.Numeral.Reading

/-!
# Captured values

A value is what a slot holds after matching: a converted text, a run of values, a unit, or
the wildcard for a token that repeats the slot's own placeholder. Default values come from
JSON trees.
-/

namespace CommandGrammar

/-- A value captured for a slot. -/
inductive Value where
  /-- The explicit absence of a value. -/
  | null
  /-- The placeholder itself was given. -/
  | wildcard
  /-- A boolean. -/
  | bool (b : Bool)
  /-- An integer of sixty-four bits. -/
  | int (n : Int)
  /-- A double. -/
  | float (x : Binary64)
  /-- A text. -/
  | string (s : String)
  /-- A run of values. -/
  | list (items : List Value)
  /-- Values by name, sorted by name. -/
  | map (entries : List (String × Value))
  /-- A unit as it came. -/
  | unit (u : OpaqueUnit)
  deriving Inhabited

/-- The written form of the wildcard. -/
def wildcardText : String := "..."

namespace Value

/-- The value of a token taken as it is. -/
def ofToken : Token → Value
  | .text s => string s
  | .unit u => unit u

/-- The text, for a text. -/
def asText? : Value → Option String
  | string s => some s
  | _ => none

/-- The integer, for an integer. -/
def asInt? : Value → Option Int
  | int n => some n
  | _ => none

/-- The number as a double; integers are rounded to the nearest one. -/
def asFloat? : Value → Option Binary64
  | float x => some x
  | int n => some (.ofInt n)
  | _ => none

/-- The boolean, for a boolean. -/
def asBool? : Value → Option Bool
  | bool b => some b
  | _ => none

/-- The values of a run. -/
def asList? : Value → Option (List Value)
  | list items => some items
  | _ => none

/-- The entries of a map. -/
def asMap? : Value → Option (List (String × Value))
  | map entries => some entries
  | _ => none

/-- Whether the value is the wildcard. -/
def isWildcard : Value → Bool
  | wildcard => true
  | _ => false

/-- A number as a value: an integer where sixty-four bits with a sign hold it. -/
def ofNumber : JsonNumber → Value
  | .integer n => if fitsInt64 n then int n else float (.ofInt n)
  | .float x => float x

mutual

/-- The value that a JSON tree stands for. -/
def ofJson : Json → Value
  | .null => null
  | .bool b => bool b
  | .number n => ofNumber n
  | .string s => string s
  | .array items => list (ofJsonItems items)
  | .object fields => map (ofJsonFields fields)

/-- `ofJson` on the items of an array. -/
def ofJsonItems : List Json → List Value
  | [] => []
  | item :: rest => ofJson item :: ofJsonItems rest

/-- `ofJson` on the fields of an object; the last of several of one name stays. -/
def ofJsonFields : List (String × Json) → List (String × Value)
  | [] => []
  | (name, tree) :: rest =>
    let others := ofJsonFields rest
    if (findEntry name others).isSome then others
    else insertEntry name (ofJson tree) others

end

end Value

/-- A unit as a JSON tree; an absent payload is left out. -/
def OpaqueUnit.toJson (u : OpaqueUnit) : Json :=
  .object (("kind", .string u.kind) :: if u.data.isNull then [] else [("data", u.data)])

/-- A token as a JSON tree. -/
def Token.toJson : Token → Json
  | .text s => .string s
  | .unit u => u.toJson

/-- An input as a JSON tree. -/
def Input.toJson : Input → Json
  | .text s => .string s
  | .chain tokens => .array (tokens.map Token.toJson)

namespace Value

mutual

/-- The value as a JSON tree. -/
def toJson : Value → Json
  | null => .null
  | wildcard => .string wildcardText
  | bool b => .bool b
  | int n => .ofInt n
  | float x => if x.isFinite then .number (.float x) else .null
  | string s => .string s
  | list items => .array (toJsonItems items)
  | map entries => .object (toJsonEntries entries)
  | unit u => u.toJson

/-- `toJson` on the values of a run. -/
def toJsonItems : List Value → List Json
  | [] => []
  | item :: rest => item.toJson :: toJsonItems rest

/-- `toJson` on the entries of a map. -/
def toJsonEntries : List (String × Value) → List (String × Json)
  | [] => []
  | (name, value) :: rest => (name, value.toJson) :: toJsonEntries rest

end

mutual

/-- How a value is named in messages. -/
def display : Value → String
  | null => "null"
  | wildcard => wildcardText
  | bool true => "true"
  | bool false => "false"
  | int n => toString n
  | float x => x.text .plainest
  | string s => s
  | list items => "[" ++ ", ".intercalate (displayItems items) ++ "]"
  | map entries => "\x7b" ++ ", ".intercalate (displayEntries entries) ++ "\x7d"
  | unit u => (Token.unit u).display

/-- `display` on the values of a run. -/
def displayItems : List Value → List String
  | [] => []
  | item :: rest => item.display :: displayItems rest

/-- `display` on the entries of a map. -/
def displayEntries : List (String × Value) → List String
  | [] => []
  | (name, value) :: rest => (name ++ "=" ++ value.display) :: displayEntries rest

end

end Value

end CommandGrammar
