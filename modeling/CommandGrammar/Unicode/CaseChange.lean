import CommandGrammar.Unicode.CaseFolding
import CommandGrammar.Unicode.SentenceBreak

/-!
# Changes of case

What becomes something else when a text is brought to one case, and what is passed over when
the case of the letters around it is looked at. Characters that differ from others in case
only change; a few more change into several characters.
-/

namespace CommandGrammar.CharSet

/-- What is passed over where the case around it matters. -/
def caseIgnorable : CharSet :=
  unions [categorySet ["Mn", "Me", "Cf", "Lm", "Sk"], midLetter, midNumberLetter,
    .ofPoints [0x27]]

/-- What changes in lower case. -/
def changesWhenLowercased : CharSet :=
  (inCaseClass.inter (uppercase.union titlecase)).union (.ofPoints [0x130])

/-- What changes in upper case. -/
def changesWhenUppercased : CharSet :=
  (inCaseClass.inter (lowercase.union titlecase)).union (.ofText
    "131 149 1f0 587 1e96-1e9a 1f50 1f52 1f54 1f56 1fb2 1fb4 1fb6-1fb7 1fc2 1fc4 1fc6-1fc7 1fd2
    1fd6-1fd7 1fe2 1fe4 1fe6-1fe7 1ff2 1ff4 1ff6-1ff7 fb00-fb04 fb13-fb17")

/-- Pairs of letters written as one, in capitals. -/
def capitalPair : CharSet := .ofPoints [0x1c4, 0x1c7, 0x1ca, 0x1f1]

/-- What changes when only the first letter of a word is a capital. -/
def changesWhenTitlecased : CharSet :=
  ((changesWhenUppercased.diff titlecase).union capitalPair).diff georgianLower

/-- The capitals of Cherokee, to which its small letters fold. -/
def cherokeeUpper : CharSet := .ofText
    "13a0-13f5"

/-- What changes when case is folded. -/
def changesWhenCasefolded : CharSet :=
  (changesWhenLowercased.diff cherokeeUpper).union (.ofText
    "b5 df 149 17f 345 3c2 3d0-3d1 3d5-3d6 3f0-3f1 3f5 587 13f8-13fd 1c80-1c88 1e9a-1e9b
    1f80-1f87 1f90-1f97 1fa0-1fa7 1fb2-1fb4 1fb7 1fc2-1fc4 1fc7 1ff2-1ff4 1ff7 ab70-abbf
    fb00-fb06 fb13-fb17")

/-- What changes in one case or the other. -/
def changesWhenCasemapped : CharSet :=
  unions [changesWhenLowercased, changesWhenUppercased, changesWhenTitlecased]

end CommandGrammar.CharSet
