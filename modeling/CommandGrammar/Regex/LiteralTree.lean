import CommandGrammar.Regex.Tally

/-!
# Trees of literals

Alternatives that are all texts are read through a tree of their bytes, in which texts that
begin alike share a path. Where one of the texts ends inside the tree, the texts that come
after it take paths of their own from there, since it is preferred to them.
-/

namespace CommandGrammar

/-- The room that a part of a tree takes. -/
structure TreeRoom where
  /-- The number of states. -/
  states : Nat
  /-- The bytes of lists in them. -/
  lists : Nat

namespace TreeRoom

/-- No room. -/
def none : TreeRoom := ⟨0, 0⟩

/-- The room of two parts. -/
def add (a b : TreeRoom) : TreeRoom := ⟨a.states + b.states, a.lists + b.lists⟩

end TreeRoom

/-- Put a text under its first byte, after the texts that are there. -/
def putUnder (first : Nat) (rest : List Nat) :
    List (Nat × List (List Nat)) → List (Nat × List (List Nat))
  | [] => [(first, [rest])]
  | (byte, rests) :: others =>
    if byte == first then (byte, rests ++ [rest]) :: others
    else (byte, rests) :: putUnder first rest others

/-- A node of a tree before its paths are followed. -/
structure TreeNode where
  /-- The paths since a text ended here, by their first byte. -/
  open_ : List (Nat × List (List Nat))
  /-- The paths before, in groups that ended texts divide. -/
  closed : List (List (Nat × List (List Nat)))

namespace TreeNode

/-- A node without paths. -/
def start : TreeNode := ⟨[], []⟩

/-- Add a text. One that ends here closes the paths so far, unless there never were any and
another one has ended here. -/
def addText (node : TreeNode) : List Nat → TreeNode
  | first :: rest => { node with open_ := putUnder first rest node.open_ }
  | [] =>
    if node.open_.isEmpty && node.closed.all List.isEmpty && !node.closed.isEmpty then node
    else ⟨[], node.open_ :: node.closed⟩

end TreeNode

/-- The room of the tree of some texts, which have at most `depth` bytes. A node takes a state
for each group of paths, and one with a link to each of them and to the end for each text that
ends before others. -/
def treeRoom : Nat → List (List Nat) → TreeRoom
  | 0, _ => .none
  | depth + 1, texts =>
    let node := texts.foldl TreeNode.addText .start
    let groups := node.open_ :: node.closed
    let taken := groups.filter fun group => !group.isEmpty
    let groupRoom (group : List (Nat × List (List Nat))) : TreeRoom :=
      let steps := if group.length == 1 then 0 else group.length * Tally.stepRoom
      group.foldl (fun room (_, rests) =>
        if rests.all List.isEmpty then room else room.add (treeRoom depth rests)) ⟨1, steps⟩
    let links := (taken.length + node.closed.length) * Tally.linkRoom
    taken.foldl (fun room group => room.add (groupRoom group)) ⟨1, links⟩

/-- The charge of texts as alternatives, which have one end in common. -/
def Charge.ofTexts (texts : List (List Nat)) : Charge :=
  let depth := (texts.map List.length).foldl max 0
  let room := treeRoom (depth + 1) texts
  ⟨fun t => Tally.check? ⟨t.states + 1 + room.states, t.lists + room.lists⟩, false⟩

end CommandGrammar
