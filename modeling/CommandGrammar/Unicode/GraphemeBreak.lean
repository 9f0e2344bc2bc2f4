import CommandGrammar.Unicode.Emoji
import CommandGrammar.Unicode.Marks

/-!
# Classes for the ends of graphemes

A grapheme is what a reader takes for one character. Where it ends depends on classes of
characters, one of which each character belongs to.
-/

namespace CommandGrammar.CharSet

/-- The tags that follow an emoji and name a region. -/
def tagCharacter : CharSet := .ofText "e0020-e007f"

/-- Marks that stand before the character they belong to. -/
def graphemePrepend : CharSet := .ofText
    "600-605 6dd 70f 890-891 8e2 d4e 110bd 110cd 111c2-111c3 113d1 1193f 11941 11a3a 11a84-11a89
    11d46 11f02"

/-- What joins the character before it. -/
def graphemeExtending : CharSet := graphemeExtend.union emojiModifier

/-- Marks with a width that do not join the character before them. -/
def graphemeDetached : CharSet := .ofText
    "102b-102c 1038 1062-1064 1067-106d 1083 1087-108c 108f 109a-109c 1a61 1a63-1a64 aa7b aa7d
    11720-11721"

/-- Marks with a width of their own. -/
def graphemeSpacingMark : CharSet :=
  (((categorySet ["Mc"]).diff graphemeExtend).union (.ofPoints [0xe33, 0xeb3])).diff
    graphemeDetached

/-- What stands alone because it is not shown. -/
def graphemeControl : CharSet :=
  let unshown := (categorySet ["Zl", "Zp", "Cc", "Cf"]).union
    ((categorySet ["Cn"]).inter defaultIgnorable)
  unshown.diff
    (unions [.ofPoints [0xd, 0xa], joinControl, prependedConcatenationMark, tagCharacter])

/-- How many syllables begin with the same two sounds. -/
def syllableRun : Nat := 28

/-- The syllables of two sounds. -/
def syllableOpen : CharSet :=
  .ofPoints ((List.range 399).map fun n => 0xac00 + n * syllableRun)

/-- The syllables of three sounds. -/
def syllableClosed : CharSet := (ofText "ac00-d7a3").diff syllableOpen

/-- The classes with their names in lower case and without separators. -/
def graphemeBreaks : List (List String × CharSet) :=
  [(["cr"], .ofPoints [0xd]),
   (["lf"], .ofPoints [0xa]),
   (["cn", "control"], graphemeControl),
   (["ex", "extend"], graphemeExtending),
   (["pp", "prepend"], graphemePrepend),
   (["sm", "spacingmark"], graphemeSpacingMark),
   (["l"], .ofText
    "1100-115f a960-a97c"),
   (["v"], .ofText
    "1160-11a7 d7b0-d7c6 16d63 16d67-16d6a"),
   (["t"], .ofText
    "11a8-11ff d7cb-d7fb"),
   (["lv"], syllableOpen),
   (["lvt"], syllableClosed),
   (["ri", "regionalindicator"], regionalIndicator),
   (["zwj"], .ofPoints [0x200d])]

end CommandGrammar.CharSet
