import CommandGrammar.Unicode.GraphemeBreak
import CommandGrammar.Unicode.Letters
import CommandGrammar.Unicode.ScriptTable

/-!
# Classes for the ends of words

Where a word ends depends on classes of characters, one of which each character belongs to
unless nothing keeps it with its neighbours.
-/

namespace CommandGrammar.CharSet

/-- What can stand inside a word. -/
def midLetter : CharSet := .ofText
    "3a b7 387 55f 5f4 2027 fe13 fe55 ff1a"

/-- What can stand inside a number. -/
def midNumber : CharSet := .ofText
    "2c 3b 37e 589 60c-60d 66c 7f8 2044 fe50 fe54 ff0c ff1b"

/-- What can stand inside a word and inside a number. -/
def midNumberLetter : CharSet := .ofText
    "2e 2018-2019 2024 fe52 ff07 ff0e"

/-- The letters of the Hebrew script. -/
def hebrewLetter : CharSet := .ofText
    "5d0-5ea 5ef-5f2 fb1d fb1f-fb28 fb2a-fb36 fb38-fb3c fb3e fb40-fb41 fb43-fb44 fb46-fb4f"

/-- What joins words written in Katakana. -/
def wordKatakana : CharSet :=
  (scriptSet "Kana").union (.ofText "3031-3035 309b-309c 30a0 30fc ff70")

/-- What joins the character before it. -/
def wordExtend : CharSet := unions [mark, graphemeExtend, emojiModifier]

/-- Format characters that belong to numbers. -/
def numberFormat : CharSet := prependedConcatenationMark.diff (.ofPoints [0x70f])

/-- Format characters inside words. -/
def wordFormat : CharSet :=
  (categorySet ["Cf"]).diff
    (unions [.ofText "200b-200d", prependedConcatenationMark, tagCharacter])

/-- Signs besides decimal digits that numbers are written with. -/
def wordNumeric : CharSet :=
  unions [categorySet ["Nd"], numberFormat, .ofPoints [0x66b, 0x19da]]

/-- Signs that are part of words without being alphabetic. -/
def otherWordLetter : CharSet := .ofText
    "2c2-2c5 2d2-2d7 2de-2df 2e5-2eb 2ed 2ef-2ff 55a-55c 55e 58a 5f3 70f a708-a716 a720-a721
    a789-a78a ab5b"

/-- Letters of scripts whose words are not divided by blanks. -/
def undividedLetter : CharSet := .ofText
    "e01-e30 e32-e33 e40-e46 e81-e82 e84 e86-e8a e8c-ea3 ea5 ea7-eb0 eb2-eb3 ebd ec0-ec4 ec6
    edc-edf 1000-102a 103f 1050-1055 105a-105d 1061 1065-1066 106e-1070 1075-1081 108e 1780-17b3
    17d7 17dc 1950-196d 1970-1974 1980-19ab 19b0-19c9 1a20-1a54 1aa7 3041-3096 309d-309f
    a9e0-a9e4 a9e6-a9ef a9fa-a9fe aa60-aa76 aa7a aa7e-aaaf aab1 aab5-aab6 aab9-aabd aac0 aac2
    aadb-aadd 11700-1171a 11740-11746 1b001-1b11f 1b132 1b150-1b152"

/-- The letters of words. -/
def wordLetter : CharSet :=
  let others := unions [ideographic, wordKatakana, wordExtend, hebrewLetter, undividedLetter]
  (alphabetic.diff others).union otherWordLetter

/-- What joins words, numbers and itself. -/
def wordConnector : CharSet := .ofText
    "5f 202f 203f-2040 2054 fe33-fe34 fe4d-fe4f ff3f"

/-- The classes with their names in lower case and without separators. -/
def wordBreaks : List (List String × CharSet) :=
  [(["cr"], .ofPoints [0xd]),
   (["lf"], .ofPoints [0xa]),
   (["nl", "newline"], .ofText
    "b-c 85 2028-2029"),
   (["extend"], wordExtend),
   (["zwj"], .ofPoints [0x200d]),
   (["fo", "format"], wordFormat),
   (["ka", "katakana"], wordKatakana),
   (["hl", "hebrewletter"], hebrewLetter),
   (["le", "aletter"], wordLetter),
   (["sq", "singlequote"], .ofPoints [0x27]),
   (["dq", "doublequote"], .ofPoints [0x22]),
   (["mb", "midnumlet"], midNumberLetter),
   (["ml", "midletter"], midLetter),
   (["mn", "midnum"], midNumber),
   (["nu", "numeric"], wordNumeric),
   (["ex", "extendnumlet"], wordConnector),
   (["ri", "regionalindicator"], regionalIndicator),
   (["wsegspace"], .ofText
    "20 1680 2000-2006 2008-200a 205f 3000")]

end CommandGrammar.CharSet
