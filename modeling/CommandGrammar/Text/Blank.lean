/-!
# Blank characters

The characters of the White_Space property, and texts without the blank ones at an end.
-/

namespace CommandGrammar

/-- The characters that carry the White_Space property. -/
def isBlank (c : Char) : Bool :=
  let n := c.toNat
  (9 ≤ n && n ≤ 13) || n == 0x20 || n == 0x85 || n == 0xa0 || n == 0x1680 ||
    (0x2000 ≤ n && n ≤ 0x200a) || n == 0x2028 || n == 0x2029 || n == 0x202f ||
    n == 0x205f || n == 0x3000

/-- A text without the blank characters at its front. -/
def trimFront (text : String) : String :=
  String.ofList (text.toList.dropWhile isBlank)

/-- A text without the blank characters at its back. -/
def trimBack (text : String) : String :=
  String.ofList (text.toList.reverse.dropWhile isBlank).reverse

/-- Whether a text has blank characters only. -/
def isBlankText (text : String) : Bool := text.toList.all isBlank

end CommandGrammar
