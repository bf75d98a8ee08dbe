import ScriptSandbox.Unicode.Category
import ScriptSandbox.Unicode.Property
import ScriptSandbox.Unicode.Script

/-!
# Breaks in text

Rules for where a text may be cut sort the characters into kinds: one sorting for the places
between what a reader takes for characters, one for those between words and one for those between
sentences. Most kinds follow from other properties, and each character has at most one kind of
every sorting.
-/

namespace ScriptSandbox.Unicode

open ScriptSandbox.Text

/-- Some single code points. -/
def points (ns : List Nat) : CharSet := CharSet.ofRanges (ns.map fun n ↦ (n, n))

/-- The union of some sets. -/
def unionOf (sets : List CharSet) : CharSet :=
  CharSet.ofRanges (sets.flatMap (·.ranges.toList))

/-- The joiner of zero width. -/
def joiner : CharSet := points [0x200D]

/-- Characters that extend the one before them. -/
def extenders : CharSet := charsOf properties ["graphemeextend"]

/-- Marks that take up room of their own. -/
def spacingMarks : CharSet := charsOf categories ["mc"]

/-- Marks of a number or a word that stand before it. -/
def leadingMarks : CharSet := charsOf properties ["prependedconcatenationmark"]

/-! ### Between characters -/

/-- Characters that belong to the one after them. -/
def prepended : CharSet :=
  leadingMarks.union (CharSet.ofRanges
    [(0xD4E, 0xD4E), (0x111C2, 0x111C3), (0x113D1, 0x113D1), (0x1193F, 0x1193F),
      (0x11941, 0x11941), (0x11A3A, 0x11A3A), (0x11A84, 0x11A89), (0x11D46, 0x11D46),
      (0x11F02, 0x11F02)])

/-- Characters that extend a cluster of characters. -/
def clusterExtenders : CharSet :=
  (extenders.union (charsOf properties ["emojimodifier"])).diff joiner

/-- Spacing marks that do not extend a cluster. -/
def looseMarks : CharSet := CharSet.ofRanges
  [(0x102B, 0x102C), (0x1038, 0x1038), (0x1062, 0x1064), (0x1067, 0x106D), (0x1083, 0x1083),
    (0x1087, 0x108C), (0x108F, 0x108F), (0x109A, 0x109C), (0x1A61, 0x1A61), (0x1A63, 0x1A64),
    (0xAA7B, 0xAA7B), (0xAA7D, 0xAA7D), (0x11720, 0x11721)]

/-- Controls between clusters: format characters, and what may be ignored and is not assigned. -/
def clusterControls : CharSet :=
  let assigned := unionOf (categories.map (·.chars))
  let ignorable := (charsOf properties ["defaultignorablecodepoint"]).diff assigned
  let controls := (charsOf categories ["zl", "zp", "cc", "cf"]).union ignorable
  controls.diff (unionOf [points [10, 13, 0x200C, 0x200D], leadingMarks, clusterExtenders])

/-- The first code point of the composed syllables of Hangul. -/
def firstSyllable : Nat := 0xAC00

/-- The number of composed syllables with one beginning, and of those that only end differently. -/
def syllableEnds : Nat := 28

/-- The composed syllables without a final consonant. -/
def openSyllables : CharSet :=
  points ((List.range 399).map fun i ↦ firstSyllable + syllableEnds * i)

/-- The composed syllables with a final consonant. -/
def closedSyllables : CharSet :=
  CharSet.ofRanges ((List.range 399).map fun i ↦
    (firstSyllable + syllableEnds * i + 1, firstSyllable + syllableEnds * i + syllableEnds - 1))

/-- The characters of a kind, by its loose name, in the sorting for clusters of characters. -/
def graphemeBreak? (name : String) : Option CharSet :=
  match name with
  | "cr" => some (points [13])
  | "lf" => some (points [10])
  | "zwj" => some joiner
  | "ex" | "extend" => some clusterExtenders
  | "ri" | "regionalindicator" => some (charsOf properties ["regionalindicator"])
  | "pp" | "prepend" => some prepended
  | "cn" | "control" => some clusterControls
  | "sm" | "spacingmark" =>
    some ((spacingMarks.union (points [0xE33, 0xEB3])).diff (looseMarks.union clusterExtenders))
  | "l" => some (CharSet.ofRanges [(0x1100, 0x115F), (0xA960, 0xA97C)])
  | "v" => some (CharSet.ofRanges
    [(0x1160, 0x11A7), (0xD7B0, 0xD7C6), (0x16D63, 0x16D63), (0x16D67, 0x16D6A)])
  | "t" => some (CharSet.ofRanges [(0x11A8, 0x11FF), (0xD7CB, 0xD7FB)])
  | "lv" => some openSyllables
  | "lvt" => some closedSyllables
  | _ => none

/-! ### Between words -/

/-- Characters that extend a word or a sentence. -/
def textExtenders : CharSet := extenders.union spacingMarks

/-- Characters of numbers: digits, the marks before them and two separators. -/
def numeric : CharSet :=
  (unionOf [charsOf categories ["nd"], leadingMarks, points [0x66B, 0x66C, 0x19DA]]).diff
    (points [0x70F])

/-- Format characters that a text is not cut at. -/
def textFormats (excepted : CharSet) : CharSet :=
  (charsOf categories ["cf"]).diff (excepted.union textExtenders)

/-- Katakana and what is written with it. -/
def katakanaWord : CharSet := CharSet.ofRanges
  [(0x3031, 0x3035), (0x309B, 0x309C), (0x30A0, 0x30FA), (0x30FC, 0x30FF), (0x31F0, 0x31FF),
    (0x32D0, 0x32FE), (0x3300, 0x3357), (0xFF66, 0xFF9D), (0x1AFF0, 0x1AFF3), (0x1AFF5, 0x1AFFB),
    (0x1AFFD, 0x1AFFE), (0x1B000, 0x1B000), (0x1B120, 0x1B122), (0x1B155, 0x1B155),
    (0x1B164, 0x1B167)]

/-- The letters of Hebrew. -/
def hebrewLetters : CharSet := (charsOf scripts ["hebrew"]).inter (charsOf categories ["lo"])

/-- Scripts whose words are not set apart by blanks, so that it takes a dictionary to cut them. -/
def scriptsWithoutBlanks : List String :=
  ["thai", "lao", "myanmar", "khmer", "taile", "newtailue", "taitham", "taiviet", "ahom",
    "hiragana"]

/-- Symbols that count as letters of a word. -/
def symbolLetters : CharSet := CharSet.ofRanges
  [(0x2C2, 0x2C5), (0x2D2, 0x2D7), (0x2DE, 0x2DF), (0x2E5, 0x2EB), (0x2ED, 0x2ED), (0x2EF, 0x2FF),
    (0x55A, 0x55C), (0x55E, 0x55E), (0x58A, 0x58A), (0x5F3, 0x5F3), (0x70F, 0x70F),
    (0xA708, 0xA716), (0xA720, 0xA721), (0xA789, 0xA78A), (0xAB5B, 0xAB5B)]

/-- The letters of words. -/
def wordLetters : CharSet :=
  ((charsOf properties ["alphabetic"]).union symbolLetters).diff
    (unionOf [charsOf properties ["ideographic"], katakanaWord,
      charsOf scripts scriptsWithoutBlanks, textExtenders, hebrewLetters])

/-- The characters of a kind, by its loose name, in the sorting for words. -/
def wordBreak? (name : String) : Option CharSet :=
  match name with
  | "cr" => some (points [13])
  | "lf" => some (points [10])
  | "nl" | "newline" => some (points [0xB, 0xC, 0x85, 0x2028, 0x2029])
  | "zwj" => some joiner
  | "extend" =>
    some ((textExtenders.union (charsOf properties ["emojimodifier"])).diff joiner)
  | "ri" | "regionalindicator" => some (charsOf properties ["regionalindicator"])
  | "fo" | "format" => some (textFormats (prepended.union (points [0x200B, 0x200C, 0x200D])))
  | "ka" | "katakana" => some katakanaWord
  | "hl" | "hebrewletter" => some hebrewLetters
  | "le" | "aletter" => some wordLetters
  | "sq" | "singlequote" => some (points [0x27])
  | "dq" | "doublequote" => some (points [0x22])
  | "mb" | "midnumlet" => some (points [0x2E, 0x2018, 0x2019, 0x2024, 0xFE52, 0xFF07, 0xFF0E])
  | "ml" | "midletter" =>
    some (points [0x3A, 0xB7, 0x387, 0x55F, 0x5F4, 0x2027, 0xFE13, 0xFE55, 0xFF1A])
  | "mn" | "midnum" =>
    some (points [0x2C, 0x3B, 0x37E, 0x589, 0x60C, 0x60D, 0x66C, 0x7F8, 0x2044, 0xFE50, 0xFE54,
      0xFF0C, 0xFF1B])
  | "nu" | "numeric" => some (numeric.diff (points [0x66C]))
  | "ex" | "extendnumlet" =>
    some (points [0x5F, 0x202F, 0x203F, 0x2040, 0x2054, 0xFE33, 0xFE34, 0xFE4D, 0xFE4E, 0xFE4F,
      0xFF3F])
  | "wsegspace" => some ((charsOf categories ["zs"]).diff (points [0xA0, 0x2007, 0x202F]))
  | _ => none

/-! ### Between sentences -/

/-- Stops that may end a sentence or an abbreviation. -/
def ambiguousStops : CharSet := points [0x2E, 0x2024, 0xFE52, 0xFF0E]

/-- Stops that end a sentence. -/
def fullStops : CharSet := (charsOf properties ["sentenceterminal"]).diff ambiguousStops

/-- Quotation marks that are neither initial nor final. -/
def neutralQuotes : CharSet := CharSet.ofRanges
  [(0x22, 0x22), (0x27, 0x27), (0x275B, 0x2760), (0x2E00, 0x2E01), (0x2E06, 0x2E08),
    (0x2E0B, 0x2E0B), (0x1F676, 0x1F678)]

/-- Lower case where a sentence may go on. -/
def sentenceLower : CharSet :=
  (charsOf properties ["lowercase"]).diff
    (extenders.union (CharSet.ofRanges [(0x10D0, 0x10FA), (0x10FD, 0x10FF)]))

/-- Upper case where a sentence may begin. -/
def sentenceUpper : CharSet :=
  ((charsOf categories ["lt"]).union (charsOf properties ["uppercase"])).diff
    (CharSet.ofRanges [(0x1C90, 0x1CBA), (0x1CBD, 0x1CBF)])

/-- The characters of a kind, by its loose name, in the sorting for sentences. -/
def sentenceBreak? (name : String) : Option CharSet :=
  match name with
  | "cr" => some (points [13])
  | "lf" => some (points [10])
  | "se" | "sep" => some (points [0x85, 0x2028, 0x2029])
  | "ex" | "extend" => some (textExtenders.union joiner)
  | "fo" | "format" => some (textFormats (numeric.union (points [0x200C, 0x200D])))
  | "sp" =>
    some ((charsOf properties ["whitespace"]).diff (points [10, 13, 0x85, 0x2028, 0x2029]))
  | "lo" | "lower" => some sentenceLower
  | "up" | "upper" => some sentenceUpper
  | "le" | "oletter" =>
    some (((charsOf properties ["alphabetic"]).union (points [0x5F3])).diff
      (unionOf [sentenceLower, sentenceUpper, textExtenders]))
  | "nu" | "numeric" => some numeric
  | "at" | "aterm" => some ambiguousStops
  | "st" | "sterm" => some fullStops
  | "sc" | "scontinue" =>
    some (CharSet.ofRanges
      [(0x2C, 0x2D), (0x3A, 0x3B), (0x37E, 0x37E), (0x55D, 0x55D), (0x60C, 0x60D), (0x7F8, 0x7F8),
        (0x1802, 0x1802), (0x1808, 0x1808), (0x2013, 0x2014), (0x3001, 0x3001), (0xFE10, 0xFE11),
        (0xFE13, 0xFE14), (0xFE31, 0xFE32), (0xFE50, 0xFE51), (0xFE54, 0xFE55), (0xFE58, 0xFE58),
        (0xFE63, 0xFE63), (0xFF0C, 0xFF0D), (0xFF1A, 0xFF1B), (0xFF64, 0xFF64)])
  | "cl" | "close" =>
    some ((unionOf [charsOf categories ["ps", "pe", "pi", "pf"], neutralQuotes]).diff
      (ambiguousStops.union fullStops))
  | _ => none

end ScriptSandbox.Unicode
