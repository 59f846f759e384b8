import SurfaceBridge.Unicode.Age

set_option autoImplicit false

/-! # Classes of characters at boundaries

Where clusters, words and sentences end is told by classes of characters. There is one system of
classes for clusters, one for words and one for sentences, and no character is in two classes of a
system. Most classes are made of categories and properties; what cannot be told by these is listed.

The names of classes are in lower case without blanks, hyphens and underscores.
-/

namespace SurfaceBridge

namespace Unicode

/-- The characters with a property; none for other names. -/
def propertySet (name : String) : RangeTable := (agedProperty? name).getD #[]

/-- The characters of some general categories. -/
def categorySet (names : List String) : RangeTable :=
  RangeTable.ofRanges (names.flatMap fun name => (agedCategory name).toList)

/-- The characters of some sets. -/
def unions (sets : List RangeTable) : RangeTable :=
  RangeTable.ofRanges (sets.flatMap Array.toList)

/-- The character that joins its neighbours. -/
def joiner : RangeTable := .singleton 0x200D

/-- The ends of lines that are told apart from others. -/
def lineEnds : RangeTable := #[(0xA, 0xA), (0xD, 0xD)]

/-! ## Clusters -/

/-- What goes on with a cluster. -/
def clusterExtend : RangeTable := (unions [propertySet "grext", propertySet "emod"]).diff joiner

/-- What a cluster starts with in front of a letter. -/
def clusterPrepend : RangeTable :=
  unions [propertySet "pcm", #[(0xD4E, 0xD4E), (0x111C2, 0x111C3), (0x113D1, 0x113D1),
    (0x1193F, 0x1193F), (0x11941, 0x11941), (0x11A3A, 0x11A3A), (0x11A84, 0x11A89),
    (0x11D46, 0x11D46), (0x11F02, 0x11F02)]]

/-- What is a cluster on its own. Code points without a character are among them if they are to be
ignored. -/
def clusterControl : RangeTable :=
  let ignored := (categorySet ["Cn"]).inter (propertySet "di")
  (unions [categorySet ["Zl", "Zp", "Cc", "Cf"], ignored]).diff
    (unions [lineEnds, joiner, clusterExtend, propertySet "pcm"])

/-- Marks with a width of their own that go on with a cluster. -/
def clusterSpacing : RangeTable :=
  ((categorySet ["Mc"]).union #[(0xE33, 0xE33), (0xEB3, 0xEB3)]).diff
    (unions [clusterExtend, #[(0x102B, 0x102C), (0x1038, 0x1038), (0x1062, 0x1064),
      (0x1067, 0x106D), (0x1083, 0x1083), (0x1087, 0x108C), (0x108F, 0x108F), (0x109A, 0x109C),
      (0x1A61, 0x1A61), (0x1A63, 0x1A64), (0xAA7B, 0xAA7B), (0xAA7D, 0xAA7D),
      (0x11720, 0x11721)]])

/-- The syllables of Hangul. -/
def syllables : RangeTable := #[(0xAC00, 0xD7A3)]

/-- The syllables of Hangul without a final consonant: there are 28 for each beginning. -/
def openSyllables : RangeTable :=
  ((List.range 399).map fun n => (0xAC00 + 28 * n, 0xAC00 + 28 * n)).toArray

/-- The characters of a class of the system for clusters. -/
def clusterBreak? (value : String) : Option RangeTable :=
  match value with
  | "cr" => some (.singleton 0xD)
  | "lf" => some (.singleton 0xA)
  | "cn" | "control" => some clusterControl
  | "ex" | "extend" => some clusterExtend
  | "zwj" => some joiner
  | "ri" | "regionalindicator" => some (propertySet "ri")
  | "pp" | "prepend" => some clusterPrepend
  | "sm" | "spacingmark" => some clusterSpacing
  | "l" => some #[(0x1100, 0x115F), (0xA960, 0xA97C)]
  | "v" =>
    some #[(0x1160, 0x11A7), (0xD7B0, 0xD7C6), (0x16D63, 0x16D63), (0x16D67, 0x16D6A)]
  | "t" => some #[(0x11A8, 0x11FF), (0xD7CB, 0xD7FB)]
  | "lv" => some openSyllables
  | "lvt" => some (syllables.diff openSyllables)
  | _ => none

/-! ## Words -/

/-- What goes on with a word in whatever place. -/
def wordExtend : RangeTable :=
  (unions [propertySet "grext", categorySet ["Mc"], propertySet "emod"]).diff joiner

/-- Digits and what stands in front of numbers. -/
def numbers : RangeTable :=
  unions [categorySet ["Nd"], #[(0x66B, 0x66B)], (propertySet "pcm").diff (.singleton 0x70F)]

/-- The letters of Katakana, with marks that are used among them. -/
def katakana : RangeTable :=
  ((agedScript? "kana").getD #[]).union #[(0x3031, 0x3035), (0x309B, 0x309C), (0x30A0, 0x30A0),
    (0x30FC, 0x30FC), (0xFF70, 0xFF70)]

/-- The letters of Hebrew. -/
def hebrew : RangeTable := ((agedScript? "hebr").getD #[]).inter (categorySet ["Lo"])

/-- The ranges of scripts that are written without blanks between words. -/
def unspaced : RangeTable := #[(0xE01, 0xE3A), (0xE40, 0xE4E), (0xE81, 0xEDF), (0x1000, 0x109F),
  (0x1780, 0x17D3), (0x17D7, 0x17D7), (0x17DC, 0x17DD), (0x1950, 0x1974), (0x1980, 0x19DF),
  (0x1A20, 0x1AAD), (0xA9E0, 0xA9FE), (0xAA60, 0xAADF), (0x11700, 0x1173B), (0x1173F, 0x11746)]

/-- The letters of the other scripts whose words have blanks between them, with signs that are
used as letters. -/
def wordLetters : RangeTable :=
  ((propertySet "alpha").union #[(0x2C2, 0x2C5), (0x2D2, 0x2D7), (0x2DE, 0x2DF), (0x2E5, 0x2EB),
    (0x2ED, 0x2ED), (0x2EF, 0x2FF), (0x55A, 0x55C), (0x55E, 0x55E), (0x58A, 0x58A),
    (0x5F3, 0x5F3), (0x70F, 0x70F), (0xA708, 0xA716), (0xA720, 0xA721), (0xA789, 0xA78A),
    (0xAB5B, 0xAB5B)]).diff
    (unions [propertySet "ideo", katakana, (agedScript? "hira").getD #[], unspaced, wordExtend,
      hebrew])

/-- The characters of a class of the system for words. -/
def wordBreak? (value : String) : Option RangeTable :=
  match value with
  | "cr" => some (.singleton 0xD)
  | "lf" => some (.singleton 0xA)
  | "nl" | "newline" => some #[(0xB, 0xC), (0x85, 0x85), (0x2028, 0x2029)]
  | "extend" => some wordExtend
  | "zwj" => some joiner
  | "fo" | "format" =>
    some ((categorySet ["Cf"]).diff (unions [wordExtend, #[(0x200B, 0x200D)], propertySet "pcm"]))
  | "ri" | "regionalindicator" => some (propertySet "ri")
  | "ka" | "katakana" => some katakana
  | "hl" | "hebrewletter" => some hebrew
  | "le" | "aletter" => some wordLetters
  | "sq" | "singlequote" => some (.singleton 0x27)
  | "dq" | "doublequote" => some (.singleton 0x22)
  | "mb" | "midnumlet" =>
    some #[(0x2E, 0x2E), (0x2018, 0x2019), (0x2024, 0x2024), (0xFE52, 0xFE52), (0xFF07, 0xFF07),
      (0xFF0E, 0xFF0E)]
  | "ml" | "midletter" =>
    some #[(0x3A, 0x3A), (0xB7, 0xB7), (0x387, 0x387), (0x55F, 0x55F), (0x5F4, 0x5F4),
      (0x2027, 0x2027), (0xFE13, 0xFE13), (0xFE55, 0xFE55), (0xFF1A, 0xFF1A)]
  | "mn" | "midnum" =>
    some #[(0x2C, 0x2C), (0x3B, 0x3B), (0x37E, 0x37E), (0x589, 0x589), (0x60C, 0x60D),
      (0x66C, 0x66C), (0x7F8, 0x7F8), (0x2044, 0x2044), (0xFE10, 0xFE10), (0xFE14, 0xFE14),
      (0xFE50, 0xFE50), (0xFE54, 0xFE54), (0xFF0C, 0xFF0C), (0xFF1B, 0xFF1B)]
  | "nu" | "numeric" => some numbers
  | "ex" | "extendnumlet" => some ((categorySet ["Pc"]).union (.singleton 0x202F))
  | "wsegspace" =>
    some ((categorySet ["Zs"]).diff #[(0xA0, 0xA0), (0x2007, 0x2007), (0x202F, 0x202F)])
  | _ => none

/-! ## Sentences -/

/-- What goes on with a sentence in whatever place. -/
def sentenceExtend : RangeTable := unions [propertySet "grext", joiner, categorySet ["Mc"]]

/-- What separates sentences, apart from ends of lines that are told apart. -/
def separators : RangeTable := #[(0x85, 0x85), (0x2028, 0x2029)]

/-- Letters in lower case. Georgian is written in these without capitals. -/
def sentenceLower : RangeTable :=
  (propertySet "lower").diff (unions [propertySet "grext", #[(0x10D0, 0x10FA), (0x10FD, 0x10FF)]])

/-- Capitals, other than those of Georgian. -/
def sentenceUpper : RangeTable :=
  ((categorySet ["Lt"]).union (propertySet "upper")).diff #[(0x1C90, 0x1CBA), (0x1CBD, 0x1CBF)]

/-- The full stops, which do not always end a sentence. -/
def fullStops : RangeTable :=
  #[(0x2E, 0x2E), (0x2024, 0x2024), (0xFE52, 0xFE52), (0xFF0E, 0xFF0E)]

/-- Quotation marks that no category tells apart. -/
def quotationMarks : RangeTable :=
  #[(0x22, 0x22), (0x27, 0x27), (0x275B, 0x2760), (0x2E00, 0x2E01), (0x2E06, 0x2E08),
    (0x2E0B, 0x2E0B), (0x1F676, 0x1F678)]

/-- The characters of a class of the system for sentences. -/
def sentenceBreak? (value : String) : Option RangeTable :=
  match value with
  | "cr" => some (.singleton 0xD)
  | "lf" => some (.singleton 0xA)
  | "se" | "sep" => some separators
  | "ex" | "extend" => some sentenceExtend
  | "fo" | "format" =>
    some ((categorySet ["Cf"]).diff (unions [sentenceExtend, propertySet "pcm"]))
  | "sp" => some ((propertySet "wspace").diff (unions [separators, lineEnds]))
  | "lo" | "lower" => some sentenceLower
  | "up" | "upper" => some sentenceUpper
  | "le" | "oletter" =>
    some ((unions [propertySet "alpha", #[(0x5F3, 0x5F3), (0x70F, 0x70F)]]).diff
      (unions [sentenceLower, sentenceUpper, sentenceExtend]))
  | "nu" | "numeric" => some (numbers.union (.singleton 0x66C))
  | "at" | "aterm" => some fullStops
  | "sc" | "scontinue" =>
    some #[(0x2C, 0x2D), (0x3A, 0x3B), (0x37E, 0x37E), (0x55D, 0x55D), (0x60C, 0x60D),
      (0x7F8, 0x7F8), (0x1802, 0x1802), (0x1808, 0x1808), (0x2013, 0x2014), (0x3001, 0x3001),
      (0xFE10, 0xFE11), (0xFE13, 0xFE14), (0xFE31, 0xFE32), (0xFE50, 0xFE51), (0xFE54, 0xFE55),
      (0xFE58, 0xFE58), (0xFE63, 0xFE63), (0xFF0C, 0xFF0D), (0xFF1A, 0xFF1B), (0xFF64, 0xFF64)]
  | "st" | "sterm" => some ((propertySet "sterm").diff fullStops)
  | "cl" | "close" =>
    some ((unions [categorySet ["Ps", "Pe", "Pi", "Pf"], quotationMarks]).diff
      (unions [fullStops, propertySet "sterm"]))
  | _ => none

end Unicode

end SurfaceBridge
