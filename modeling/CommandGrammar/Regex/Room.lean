import CommandGrammar.Regex.Layout
import CommandGrammar.Regex.LiteralTree
import CommandGrammar.Regex.Sharing

/-!
# The room of a layout

Two automata are made for an expression: one reads a text forwards, the other backwards. Each
has to keep to the limit.
-/

namespace CommandGrammar

/-- The bytes of a text. -/
def textBytes (chars : List Char) : List Nat := chars.flatMap fun c => utf8Bytes c.toNat

namespace Layout

/-- The text of a layout that is one. -/
def text? : Layout → Option (List Char)
  | text chars => some chars
  | _ => none

mutual

/-- The charge of a layout. Backwards, the parts of a sequence come in the opposite order, and
groups are not kept. -/
def charge (backwards : Bool) : Layout → Charge
  | empty => .state 0
  | text chars => .states (textBytes chars).length
  | one chars => .ofSet backwards chars
  | place _ => .state 0
  | group _ body =>
    let inner := body.charge backwards
    if backwards then inner else .inTurn [.state 0, inner, .state 0]
  | sequence parts =>
    let inner := charges backwards parts
    .inTurn (if backwards then inner.reverse else inner)
  | choice parts =>
    match parts.mapM text? with
    | some texts =>
      let texts := texts.map textBytes
      .ofTexts (if backwards then texts.map List.reverse else texts)
    | none => .anyOf (charges backwards parts)
  | times body least most _ =>
    (body.charge backwards).times (body.leastLength.any (0 < ·)) least most

/-- The charges of some layouts. -/
def charges (backwards : Bool) : List Layout → List Charge
  | [] => []
  | part :: parts => part.charge backwards :: charges backwards parts

end

/-- The charge of a whole automaton. Unless the expression is anchored where the automaton
starts, it begins with a loop over any bytes. Forwards, the whole text is kept like a group. -/
def wholeCharge (backwards : Bool) (layout : Layout) : Charge :=
  let inner := layout.charge backwards
  let search : Charge :=
    if layout.isAnchored !backwards then .state 0
    else ⟨fun t => ((Charge.states 3).add? t).bind fun t =>
      t.addLists? (2 * Tally.linkRoom + Tally.stepRoom), false⟩
  if backwards then .inTurn [search, inner, .state 0]
  else .inTurn [search, .state 0, inner, .state 0, .state 0]

/-- Whether both automata of a layout keep to the limit. -/
def fits (layout : Layout) : Bool :=
  ((layout.wholeCharge false).add? .start).isSome && ((layout.wholeCharge true).add? .start).isSome

end Layout

end CommandGrammar
