import CommandGrammar.Unicode.CategoryTable

/-!
# Marks and characters without a glyph

What joins the character before it, what steers how a text is shown, and the code points that
are kept out of use.
-/

namespace CommandGrammar.CharSet

/-- Blank characters. -/
def whiteSpace : CharSet := .ofText
    "9-d 20 85 a0 1680 2000-200a 2028-2029 202f 205f 3000"

/-- The marks of any sort. -/
def mark : CharSet := categorySet ["Mn", "Mc", "Me"]

/-- Code points that join the one before them and are neither marks without width nor
enclosing marks. -/
def otherGraphemeExtend : CharSet := .ofText
    "9be 9d7 b3e b57 bbe bd7 cc0 cc2 cc7-cc8 cca-ccb cd5-cd6 d3e d57 dcf ddf 1715 1734 1b35 1b3b
    1b3d 1b43-1b44 1baa 1bf2-1bf3 200c 302e-302f a953 a9c0 ff9e-ff9f 111c0 11235 1133e 1134d
    11357 113b8 113c2 113c5 113c7-113c9 113cf 114b0 114bd 115af 116b6 11930 1193d 11f41
    16ff0-16ff1 1d165-1d166 1d16d-1d172 e0020-e007f"

/-- What joins the character before it. -/
def graphemeExtend : CharSet := (categorySet ["Mn", "Me"]).union otherGraphemeExtend

/-- What stands for itself and can be joined. -/
def graphemeBase : CharSet :=
  ((categorySet ["Cc", "Cf", "Co", "Cn", "Zl", "Zp"]).union graphemeExtend).complement

/-- What links the characters around it. -/
def graphemeLink : CharSet := .ofText
    "94d 9cd a4d acd b4d bcd c4d ccd d3b-d3c d4d dca e3a eba f84 1039-103a 1714-1715 1734 17d2
    1a60 1b44 1baa-1bab 1bf2-1bf3 2d7f a806 a82c a8c4 a953 a9c0 aaf6 abed 10a3f 11046 11070
    1107f 110b9 11133-11134 111c0 11235 112ea 1134d 113ce-113d0 11442 114c2 115bf 1163f 116b6
    1172b 11839 1193d-1193e 119e0 11a34 11a47 11a99 11c3f 11d44-11d45 11d97 11f41-11f42 1612f"

/-- Marks that are put closer to the letter than others are. -/
def modifierCombiningMark : CharSet := .ofText
    "654-655 658 6dc 6e3 6e7-6e8 8ca-8cb 8cd-8cf 8d3 8f3"

/-- Marks before the numbers they are written with. -/
def prependedConcatenationMark : CharSet := .ofText
    "600-605 6dd 70f 890-891 8e2 110bd 110cd"

/-- What chooses a variant of the character before it. -/
def variationSelector : CharSet := .ofText
    "180b-180d 180f fe00-fe0f e0100-e01ef"

/-- What forbids or asks for a ligature. -/
def joinControl : CharSet := .ofText
    "200c-200d"

/-- What steers the direction of writing. -/
def bidiControl : CharSet := .ofText
    "61c 200e-200f 202a-202e 2066-2069"

/-- What is mirrored when the direction of writing is turned. -/
def bidiMirrored : CharSet := .ofText
    "28-29 3c 3e 5b 5d 7b 7d ab bb f3a-f3d 169b-169c 2039-203a 2045-2046 207d-207e 208d-208e 2140
    2201-2204 2208-220d 2211 2215-2216 221a-221d 221f-2222 2224 2226 222b-2233 2239 223b-224c
    2252-2255 225f-2260 2262 2264-226b 226d-228c 228f-2292 2298 22a2-22a3 22a6-22b8 22be-22bf
    22c9-22cd 22d0-22d1 22d6-22ed 22f0-22ff 2308-230b 2320-2321 2329-232a 2768-2775 27c0
    27c3-27c6 27c8-27c9 27cb-27cd 27d3-27d6 27dc-27de 27e2-27ef 2983-2998 299b-29a0 29a2-29af
    29b8 29c0-29c5 29c9 29ce-29d2 29d4-29d5 29d8-29dc 29e1 29e3-29e5 29e8-29e9 29f4-29f9
    29fc-29fd 2a0a-2a1c 2a1e-2a21 2a24 2a26 2a29 2a2b-2a2e 2a34-2a35 2a3c-2a3e 2a57-2a58
    2a64-2a65 2a6a-2a6d 2a6f-2a70 2a73-2a74 2a79-2aa3 2aa6-2aad 2aaf-2ad6 2adc 2ade 2ae2-2ae6
    2aec-2aee 2af3 2af7-2afb 2afd 2bfe 2e02-2e05 2e09-2e0a 2e0c-2e0d 2e1c-2e1d 2e20-2e29
    2e55-2e5c 3008-3011 3014-301b fe59-fe5e fe64-fe65 ff08-ff09 ff1c ff1e ff3b ff3d ff5b ff5d
    ff5f-ff60 ff62-ff63 1d6db 1d715 1d74f 1d789 1d7c3"

/-- Code points that may be ignored and are neither format characters nor variation
selectors. -/
def otherDefaultIgnorable : CharSet := .ofText
    "34f 115f-1160 17b4-17b5 2065 3164 ffa0 fff0-fff8 e0000 e0002-e001f e0080-e00ff e01f0-e0fff"

/-- Marks of annotations and the joiners of hieroglyphs, which are shown. -/
def shownFormat : CharSet := .ofText "fff9-fffb 13430-13440"

/-- What is left out by a display that does not know it. -/
def defaultIgnorable : CharSet :=
  (unions [otherDefaultIgnorable, categorySet ["Cf"], variationSelector]).diff
    (unions [whiteSpace, shownFormat, prependedConcatenationMark])

/-- What should not be used any more. -/
def deprecated : CharSet := .ofText
    "149 673 f77 f79 17a3-17a4 206a-206f 2329-232a e0001"

/-- Code points that will never be characters. -/
def noncharacter : CharSet := .ofText
    "fdd0-fdef fffe-ffff 1fffe-1ffff 2fffe-2ffff 3fffe-3ffff 4fffe-4ffff 5fffe-5ffff 6fffe-6ffff
    7fffe-7ffff 8fffe-8ffff 9fffe-9ffff afffe-affff bfffe-bffff cfffe-cffff dfffe-dffff
    efffe-effff ffffe-fffff 10fffe-10ffff"

/-- The halves of flags. -/
def regionalIndicator : CharSet := .ofText
    "1f1e6-1f1ff"

end CommandGrammar.CharSet
