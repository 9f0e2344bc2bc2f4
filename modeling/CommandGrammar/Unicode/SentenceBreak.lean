import CommandGrammar.Unicode.Signs
import CommandGrammar.Unicode.WordBreak

/-!
# Classes for the ends of sentences

Where a sentence ends depends on classes of characters, one of which each character belongs to
unless it has no part in that.
-/

namespace CommandGrammar.CharSet

/-- The letters of Georgian in its two plain forms, which do not tell where a sentence
begins. -/
def georgianLower : CharSet := .ofText
    "10d0-10fa 10fd-10ff"

/-- The capitals of Georgian, which do not tell where a sentence begins either. -/
def georgianUpper : CharSet := .ofText "1c90-1cba 1cbd-1cbf"

/-- What ends a line of its own. -/
def sentenceSeparator : CharSet := .ofText
    "85 2028-2029"

/-- Marks of any sort and what else joins the character before it. -/
def sentenceExtend : CharSet :=
  unions [categorySet ["Mc"], graphemeExtend, .ofPoints [0x200d]]

/-- Format characters inside sentences. -/
def sentenceFormat : CharSet :=
  (categorySet ["Cf"]).diff (unions [numberFormat, joinControl, tagCharacter])

/-- Lower-case letters. -/
def sentenceLower : CharSet := lowercase.diff (graphemeExtend.union georgianLower)

/-- Upper-case letters, also those of which only the first part is. -/
def sentenceUpper : CharSet := (titlecase.union uppercase).diff georgianUpper

/-- The other letters. -/
def sentenceLetter : CharSet :=
  (alphabetic.diff (unions [sentenceLower, sentenceUpper, sentenceExtend])).union
    (.ofPoints [0x5f3])

/-- Signs that numbers are written with. -/
def sentenceNumeric : CharSet := wordNumeric.union (.ofPoints [0x66c])

/-- Full stops, which need not end a sentence. -/
def fullStop : CharSet := .ofText
    "2e 2024 fe52 ff0e"

/-- What may follow the end of a sentence: brackets and quotation marks. -/
def sentenceClose : CharSet :=
  let brackets := (categorySet ["Ps", "Pe", "Pi", "Pf"]).union quotationMark
  (brackets.union (.ofText
    "275b-2760 2e00-2e01 2e06-2e08 2e0b 1f676-1f678")).diff
    (.ofPoints [0xff02, 0xff07])

/-- What goes on with a sentence after a full stop. -/
def sentenceContinue : CharSet := .ofText
    "2c-2d 3a-3b 37e 55d 60c-60d 7f8 1802 1808 2013-2014 3001 fe10-fe11 fe13-fe14 fe31-fe32
    fe50-fe51 fe54-fe55 fe58 fe63 ff0c-ff0d ff1a-ff1b ff64"

/-- The classes with their names in lower case and without separators. -/
def sentenceBreaks : List (List String × CharSet) :=
  [(["cr"], .ofPoints [0xd]),
   (["lf"], .ofPoints [0xa]),
   (["se", "sep"], sentenceSeparator),
   (["ex", "extend"], sentenceExtend),
   (["fo", "format"], sentenceFormat),
   (["sp"], whiteSpace.diff (sentenceSeparator.union (.ofPoints [0xa, 0xd]))),
   (["lo", "lower"], sentenceLower),
   (["up", "upper"], sentenceUpper),
   (["le", "oletter"], sentenceLetter),
   (["nu", "numeric"], sentenceNumeric),
   (["at", "aterm"], fullStop),
   (["st", "sterm"], sentenceTerminal.diff fullStop),
   (["cl", "close"], sentenceClose),
   (["sc", "scontinue"], sentenceContinue)]

end CommandGrammar.CharSet
