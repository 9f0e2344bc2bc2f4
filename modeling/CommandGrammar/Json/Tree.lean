import CommandGrammar.Numeral.Binary64
import CommandGrammar.NameMap

/-!
# JSON trees

A tree is what a JSON text stands for. Objects list their fields in the order in which they
are written out; a tree that was read from a text lists them sorted by name, each name once.
-/

namespace CommandGrammar

/-- A JSON number: written without fraction and exponent, or a double. -/
inductive JsonNumber where
  /-- An integer. -/
  | integer (n : Int)
  /-- Every other number. -/
  | float (x : Binary64)
  deriving DecidableEq, Repr

/-- A JSON tree. -/
inductive Json where
  /-- The value `null`. -/
  | null
  /-- A boolean. -/
  | bool (b : Bool)
  /-- A number. -/
  | number (n : JsonNumber)
  /-- A text. -/
  | string (s : String)
  /-- A sequence of trees. -/
  | array (items : List Json)
  /-- Named trees. -/
  | object (fields : List (String × Json))
  deriving Inhabited, BEq, Repr

namespace Json

/-- Whether the tree is `null`. -/
def isNull : Json → Bool
  | null => true
  | _ => false

/-- An integer as a tree. -/
def ofInt (n : Int) : Json := number (.integer n)

/-- A list of texts as a tree. -/
def ofTexts (texts : List String) : Json := array (texts.map string)

mutual

/-- The same tree with the fields of every object sorted by name. -/
def sortFields : Json → Json
  | array items => array (sortItems items)
  | object fields => object (sortEntries fields)
  | tree => tree

/-- `sortFields` on the items of an array. -/
def sortItems : List Json → List Json
  | [] => []
  | item :: rest => item.sortFields :: sortItems rest

/-- `sortFields` on the fields of an object; the last of several of one name stays. -/
def sortEntries : List (String × Json) → List (String × Json)
  | [] => []
  | (name, tree) :: rest =>
    let others := sortEntries rest
    if (findEntry name others).isSome then others
    else insertEntry name tree.sortFields others

end

end Json

end CommandGrammar
