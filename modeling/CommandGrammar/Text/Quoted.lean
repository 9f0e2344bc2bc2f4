import CommandGrammar.Unicode.LaterLetters

/-!
# Texts in quotes for messages

A message shows a text in double quotes. Characters that cannot be seen on their own are
written by their code points: those without a glyph, and those that join the character before
them.
-/

namespace CommandGrammar

/-- Whether a character joins the one before it. -/
def joinsPrevious (c : Char) : Bool := CharSet.joining.contains c

/-- Whether a character has a glyph; of the blanks only the plain one counts. -/
def hasGlyph (c : Char) : Bool :=
  if c.toNat < 128 then decide (32 ≤ c.toNat) && c.toNat != 127
  else !CharSet.unseen.contains c

/-- One character of a text in quotes. -/
def showChar (c : Char) : List Char :=
  if c == '"' then ['\\', '"']
  else if c == '\\' then ['\\', '\\']
  else if c == '\n' then ['\\', 'n']
  else if c == '\r' then ['\\', 'r']
  else if c == '\t' then ['\\', 't']
  else if c.toNat == 0 then ['\\', '0']
  else if c.toNat < 128 && hasGlyph c then [c]
  else if joinsPrevious c || !hasGlyph c then
    '\\' :: 'u' :: '\x7b' :: Nat.toDigits 16 c.toNat ++ ['\x7d']
  else [c]

/-- A text in quotes for a message. -/
def showQuoted (s : String) : String :=
  String.ofList ('"' :: s.toList.flatMap showChar ++ ['"'])

end CommandGrammar
