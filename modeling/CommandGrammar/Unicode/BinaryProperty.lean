import CommandGrammar.Unicode.CaseChange
import CommandGrammar.Unicode.Identifiers

/-!
# Properties that hold or do not

Each property has names, in lower case and without separators, and the set of the characters
it holds of.
-/

namespace CommandGrammar

/-- The properties by their names. -/
def binaryProperties : List (List String × CharSet) :=
  [(["asciihexdigit", "ahex"], .asciiHexDigit),
   (["alphabetic", "alpha"], .alphabetic),
   (["bidicontrol", "bidic"], .bidiControl),
   (["bidimirrored", "bidim"], .bidiMirrored),
   (["caseignorable", "ci"], .caseIgnorable),
   (["cased"], .cased),
   (["changeswhencasefolded", "cwcf"], .changesWhenCasefolded),
   (["changeswhencasemapped", "cwcm"], .changesWhenCasemapped),
   (["changeswhenlowercased", "cwl"], .changesWhenLowercased),
   (["changeswhentitlecased", "cwt"], .changesWhenTitlecased),
   (["changeswhenuppercased", "cwu"], .changesWhenUppercased),
   (["dash"], .dash),
   (["defaultignorablecodepoint", "di"], .defaultIgnorable),
   (["deprecated", "dep"], .deprecated),
   (["diacritic", "dia"], .diacritic),
   (["emoji"], .emoji),
   (["emojicomponent", "ecomp"], .emojiComponent),
   (["emojimodifier", "emod"], .emojiModifier),
   (["emojimodifierbase", "ebase"], .emojiModifierBase),
   (["emojipresentation", "epres"], .emojiPresentation),
   (["extendedpictographic", "extpict"], .extendedPictographic),
   (["extender", "ext"], .extender),
   (["graphemebase", "grbase"], .graphemeBase),
   (["graphemeextend", "grext"], .graphemeExtend),
   (["graphemelink", "grlink"], .graphemeLink),
   (["hexdigit", "hex"], .hexDigit),
   (["hyphen"], .hyphen),
   (["idsbinaryoperator", "idsb"], .binaryDescriptionOperator),
   (["idstrinaryoperator", "idst"], .trinaryDescriptionOperator),
   (["idsunaryoperator", "idsu"], .unaryDescriptionOperator),
   (["idcompatmathcontinue"], .idCompatMathContinue),
   (["idcompatmathstart"], .idCompatMathStart),
   (["idcontinue", "idc"], .idContinue),
   (["idstart", "ids"], .idStart),
   (["ideographic", "ideo"], .ideographic),
   (["joincontrol", "joinc"], .joinControl),
   (["logicalorderexception", "loe"], .logicalOrderException),
   (["lowercase", "lower"], .lowercase),
   (["math"], .math),
   (["modifiercombiningmark", "mcm"], .modifierCombiningMark),
   (["noncharactercodepoint", "nchar"], .noncharacter),
   (["otheralphabetic", "oalpha"], .otherAlphabetic),
   (["otherdefaultignorablecodepoint", "odi"], .otherDefaultIgnorable),
   (["othergraphemeextend", "ogrext"], .otherGraphemeExtend),
   (["otheridcontinue", "oidc"], .otherIdContinue),
   (["otheridstart", "oids"], .otherIdStart),
   (["otherlowercase", "olower"], .otherLowercase),
   (["othermath", "omath"], .otherMath),
   (["otheruppercase", "oupper"], .otherUppercase),
   (["patternsyntax", "patsyn"], .patternSyntax),
   (["patternwhitespace", "patws"], .patternWhiteSpace),
   (["prependedconcatenationmark", "pcm"], .prependedConcatenationMark),
   (["quotationmark", "qmark"], .quotationMark),
   (["radical"], .radical),
   (["regionalindicator", "ri"], .regionalIndicator),
   (["sentenceterminal", "sterm"], .sentenceTerminal),
   (["softdotted", "sd"], .softDotted),
   (["terminalpunctuation", "term"], .terminalPunctuation),
   (["unifiedideograph", "uideo"], .unifiedIdeograph),
   (["uppercase", "upper"], .uppercase),
   (["variationselector", "vs"], .variationSelector),
   (["whitespace", "space", "wspace"], .whiteSpace),
   (["xidcontinue", "xidc"], .xidContinue),
   (["xidstart", "xids"], .xidStart)]

end CommandGrammar
