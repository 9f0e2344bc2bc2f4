import CommandGrammar.Unicode.AgeTable
import CommandGrammar.Unicode.BinaryProperty

/-!
# Classes of characters by name

A class is named by a property that holds or does not, by a general category, by a script, or
by a property and one of its values. Names are compared without regard to case, separators
and a leading `is`.
-/

namespace CommandGrammar

/-- A name in the form in which names are compared: ASCII letters in lower case, without
blanks, hyphens, underscores, other characters beyond ASCII, and without a leading `is`; the
name that is `isc` as a whole stays. -/
def propertyKey (name : String) : String :=
  let plain := name.toList.map Char.toLower
  let (leading, body) := match plain with
    | 'i' :: 's' :: rest => (true, rest)
    | rest => (false, rest)
  let key := body.filter fun c =>
    c != ' ' && c != '_' && c != '-' && c.toNat < 128
  String.ofList (if leading && key == ['c'] then ['i', 's', 'c'] else key)

/-- What belongs to a key among things with several names. -/
def namedValue? {α : Type} (key : String) (values : List (List String × α)) : Option α :=
  (values.find? fun entry => entry.1.contains key).map Prod.snd

/-- The general categories and their groups: names in lower case without separators, and the
codes they stand for. -/
def categoryNames : List (List String × List String) :=
  [(["l", "letter"], ["Lu", "Ll", "Lt", "Lm", "Lo"]),
   (["lc", "casedletter"], ["Lu", "Ll", "Lt"]),
   (["lu", "uppercaseletter"], ["Lu"]),
   (["ll", "lowercaseletter"], ["Ll"]),
   (["lt", "titlecaseletter"], ["Lt"]),
   (["lm", "modifierletter"], ["Lm"]),
   (["lo", "otherletter"], ["Lo"]),
   (["m", "mark", "combiningmark"], ["Mn", "Mc", "Me"]),
   (["mn", "nonspacingmark"], ["Mn"]),
   (["mc", "spacingmark"], ["Mc"]),
   (["me", "enclosingmark"], ["Me"]),
   (["n", "number"], ["Nd", "Nl", "No"]),
   (["nd", "decimalnumber", "digit"], ["Nd"]),
   (["nl", "letternumber"], ["Nl"]),
   (["no", "othernumber"], ["No"]),
   (["p", "punctuation", "punct"], ["Pc", "Pd", "Ps", "Pe", "Pi", "Pf", "Po"]),
   (["pc", "connectorpunctuation"], ["Pc"]),
   (["pd", "dashpunctuation"], ["Pd"]),
   (["ps", "openpunctuation"], ["Ps"]),
   (["pe", "closepunctuation"], ["Pe"]),
   (["pi", "initialpunctuation"], ["Pi"]),
   (["pf", "finalpunctuation"], ["Pf"]),
   (["po", "otherpunctuation"], ["Po"]),
   (["s", "symbol"], ["Sm", "Sc", "Sk", "So"]),
   (["sm", "mathsymbol"], ["Sm"]),
   (["sc", "currencysymbol"], ["Sc"]),
   (["sk", "modifiersymbol"], ["Sk"]),
   (["so", "othersymbol"], ["So"]),
   (["z", "separator"], ["Zs", "Zl", "Zp"]),
   (["zs", "spaceseparator"], ["Zs"]),
   (["zl", "lineseparator"], ["Zl"]),
   (["zp", "paragraphseparator"], ["Zp"]),
   (["c", "other"], ["Cc", "Cf", "Cn", "Co"]),
   (["cc", "control", "cntrl"], ["Cc"]),
   (["cf", "format"], ["Cf"]),
   (["cn", "unassigned"], ["Cn"]),
   (["co", "privateuse"], ["Co"])]

/-- The set of a general category or of one of the classes named like one. -/
def namedCategory? (key : String) : Option CharSet :=
  if key == "any" then some .all
  else if key == "ascii" then some (.range '\x00' '\x7f')
  else if key == "assigned" then some (categorySet ["Cn"]).complement
  else (namedValue? key categoryNames).map categorySet

/-- The code of a script. -/
def scriptCode? (key : String) : Option String :=
  (scriptNames.find? fun names =>
    names.any fun name => propertyKey name == key).bind List.head?

/-- The set that a class name stands for: of a property, a general category or a script. The
keys that are both a category and the short name of some property mean the category. -/
def propertySet? (name : String) : Option CharSet :=
  let key := propertyKey name
  let binary :=
    if key == "cf" || key == "sc" || key == "lc" then none
    else namedValue? key binaryProperties
  (binary.or (namedCategory? key)).or ((scriptCode? key).map scriptSet)

/-- The properties with values, with their names in lower case and without separators, and
the set of each of their values. -/
def valuedProperties : List (List String × (String → Option CharSet)) :=
  [(["gc", "generalcategory"], namedCategory?),
   (["sc", "script"], fun key => (scriptCode? key).map scriptSet),
   (["scx", "scriptextensions"], fun key => (scriptCode? key).map scriptExtensionSet),
   (["age"], editionSet?),
   (["gcb", "graphemeclusterbreak"], fun key => namedValue? key CharSet.graphemeBreaks),
   (["wb", "wordbreak"], fun key => namedValue? key CharSet.wordBreaks),
   (["sb", "sentencebreak"], fun key => namedValue? key CharSet.sentenceBreaks)]

/-- The set that a property and one of its values stand for. -/
def propertyValueSet? (property value : String) : Option CharSet :=
  (namedValue? (propertyKey property) valuedProperties).bind fun values =>
    values (propertyKey value)

end CommandGrammar
