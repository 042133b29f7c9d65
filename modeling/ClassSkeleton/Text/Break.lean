import ClassSkeleton.Text.Binary
import ClassSkeleton.Text.Script

/-
  ClassSkeleton.Text.Break — what characters are where text is cut, as of Unicode 16.0.

  Text is cut into graphemes, words and sentences; for each kind of cut every character is in one class,
  and those that matter for none are in no class here. The classes follow from other properties and a few
  lists.
-/

namespace ClassSkeleton.Text.Break

open CharSet

def return' : CharSet := single '\r'

def lineFeed : CharSet := single '\n'

/-- ZERO WIDTH JOINER. -/
def joiner : CharSet := ⟨[0x200d, 0x200e]⟩

/-! ### Graphemes -/

def control : CharSet :=
  (unionAll [Category.zl, Category.zp, Category.cc, Category.cf, Binary.defaultIgnorable.inter Category.cn]).diff
    (unionAll [return', lineFeed, Binary.joinControl, Binary.prependedConcatenationMark, Binary.graphemeExtend])

def prepend : CharSet :=
  Binary.prependedConcatenationMark.union ⟨[
    0xd4e, 0xd4f, 0x111c2, 0x111c4, 0x113d1, 0x113d2, 0x1193f, 0x11940, 0x11941, 0x11942, 0x11a3a, 0x11a3b,
    0x11a84, 0x11a8a, 0x11d46, 0x11d47, 0x11f02, 0x11f03]⟩

/-- The spacing marks that stand by themselves. -/
def separateMarks : CharSet := ⟨[
  0x102b, 0x102d, 0x1038, 0x1039, 0x1062, 0x1065, 0x1067, 0x106e, 0x1083, 0x1084, 0x1087, 0x108d, 0x108f,
  0x1090, 0x109a, 0x109d, 0x1a61, 0x1a62, 0x1a63, 0x1a65, 0xaa7b, 0xaa7c, 0xaa7d, 0xaa7e, 0x11720, 0x11722]⟩

def spacingMark : CharSet :=
  ((Category.mc.diff Binary.graphemeExtend).union ⟨[0xe33, 0xe34, 0xeb3, 0xeb4]⟩).diff separateMarks

/-- The syllables without a final consonant: one in 28. -/
def openSyllables : CharSet :=
  ⟨(List.range 399).flatMap fun i => [0xac00 + 28 * i, 0xac01 + 28 * i]⟩

def graphemes : CharSet.Table := [
  (["cn", "control"], control),
  (["cr"], return'),
  (["ex", "extend"], Binary.graphemeExtend.union Binary.emojiModifier),
  (["l"], ⟨[0x1100, 0x1160, 0xa960, 0xa97d]⟩),
  (["lf"], lineFeed),
  (["lv"], openSyllables),
  (["lvt"], diff ⟨[0xac00, 0xd7a4]⟩ openSyllables),
  (["pp", "prepend"], prepend),
  (["ri", "regionalindicator"], Binary.regionalIndicator),
  (["sm", "spacingmark"], spacingMark),
  (["t"], ⟨[0x11a8, 0x1200, 0xd7cb, 0xd7fc]⟩),
  (["v"], ⟨[0x1160, 0x11a8, 0xd7b0, 0xd7c7, 0x16d63, 0x16d64, 0x16d67, 0x16d6b]⟩),
  (["zwj"], joiner)]

/-! ### Words -/

def extend : CharSet := unionAll [Binary.graphemeExtend, Category.mc, Binary.emojiModifier]

/-- The digits, and the marks in front of numbers. -/
def digits : CharSet := Category.nd.union (Binary.prependedConcatenationMark.diff ⟨[0x70f, 0x710]⟩)

def katakana : CharSet :=
  Script.katakana.union ⟨[0x3031, 0x3036, 0x309b, 0x309d, 0x30a0, 0x30a1, 0x30fc, 0x30fd, 0xff70, 0xff71]⟩

def hebrewLetter : CharSet := Script.hebrew.inter Category.lo

/-- The scripts that do not part words by blanks. -/
def unparted : CharSet :=
  unionAll [Script.thai, Script.lao, Script.myanmar, Script.khmer, Script.taile, Script.newtailue, Script.taitham,
    Script.taiviet, Script.ahom]

def letter : CharSet :=
  (Binary.alphabetic.diff (unionAll [Binary.ideographic, katakana, unparted, Script.hiragana, extend, hebrewLetter])).union ⟨[
    0xb8, 0xb9, 0x2c2, 0x2c6, 0x2d2, 0x2d8, 0x2de, 0x2e0, 0x2e5, 0x2ec, 0x2ed, 0x2ee, 0x2ef, 0x300, 0x55a, 0x55d,
    0x55e, 0x55f, 0x58a, 0x58b, 0x5f3, 0x5f4, 0x70f, 0x710, 0xa708, 0xa717, 0xa720, 0xa722, 0xa789, 0xa78b,
    0xab5b, 0xab5c]⟩

def words : CharSet.Table := [
  (["cr"], return'),
  (["dq", "doublequote"], ⟨[0x22, 0x23]⟩),
  (["ex", "extendnumlet"], Category.pc.union ⟨[0x202f, 0x2030]⟩),
  (["extend"], extend),
  (["fo", "format"],
    Category.cf.diff (unionAll [⟨[0x200b, 0x200e]⟩, Binary.prependedConcatenationMark, extend])),
  (["hl", "hebrewletter"], hebrewLetter),
  (["ka", "katakana"], katakana),
  (["le", "aletter"], letter),
  (["lf"], lineFeed),
  (["mb", "midnumlet"], Binary.midNumLet),
  (["ml", "midletter"], Binary.midLetter),
  (["mn", "midnum"], ⟨[
    0x2c, 0x2d, 0x3b, 0x3c, 0x37e, 0x37f, 0x589, 0x58a, 0x60c, 0x60e, 0x66c, 0x66d, 0x7f8, 0x7f9, 0x2044,
    0x2045, 0xfe10, 0xfe11, 0xfe14, 0xfe15, 0xfe50, 0xfe51, 0xfe54, 0xfe55, 0xff0c, 0xff0d, 0xff1b, 0xff1c]⟩),
  (["nl", "newline"], ⟨[0xb, 0xd, 0x85, 0x86, 0x2028, 0x202a]⟩),
  (["nu", "numeric"], digits.union ⟨[0x66b, 0x66c]⟩),
  (["ri", "regionalindicator"], Binary.regionalIndicator),
  (["sq", "singlequote"], ⟨[0x27, 0x28]⟩),
  (["wsegspace"], Category.zs.diff ⟨[0xa0, 0xa1, 0x2007, 0x2008, 0x202f, 0x2030]⟩),
  (["zwj"], joiner)]

/-! ### Sentences -/

def separator : CharSet := ⟨[0x85, 0x86, 0x2028, 0x202a]⟩

def sentenceExtend : CharSet := unionAll [Binary.graphemeExtend, Category.mc, joiner]

/-- The Georgian letters, whose two cases are not used to tell where sentences start. -/
def georgian : CharSet := ⟨[0x10d0, 0x10fb, 0x10fd, 0x1100, 0x1c90, 0x1cbb, 0x1cbd, 0x1cc0]⟩

def lower : CharSet := Binary.lowercase.diff (Binary.graphemeExtend.union georgian)

def upper : CharSet := (Binary.uppercase.union Category.lt).diff georgian

/-- The full stops, which also end abbreviations. -/
def stops : CharSet := ⟨[0x2e, 0x2f, 0x2024, 0x2025, 0xfe52, 0xfe53, 0xff0e, 0xff0f]⟩

def sentenceDigits : CharSet := digits.union ⟨[0x66b, 0x66d]⟩

def sentences : CharSet.Table := [
  (["at", "aterm"], stops),
  (["cl", "close"],
    unionAll [Category.ps, Category.pe, Category.pi, Category.pf, ⟨[
      0x22, 0x23, 0x27, 0x28, 0x275b, 0x2761, 0x2e00, 0x2e02, 0x2e06, 0x2e09, 0x2e0b, 0x2e0c, 0x1f676, 0x1f679]⟩]),
  (["cr"], return'),
  (["ex", "extend"], sentenceExtend),
  (["fo", "format"], Category.cf.diff (unionAll [Binary.joinControl, sentenceExtend, sentenceDigits])),
  (["le", "oletter"],
    (Binary.alphabetic.diff (unionAll [lower, upper, sentenceExtend])).union ⟨[0x5f3, 0x5f4]⟩),
  (["lf"], lineFeed),
  (["lo", "lower"], lower),
  (["nu", "numeric"], sentenceDigits),
  (["sc", "scontinue"], ⟨[
    0x2c, 0x2e, 0x3a, 0x3c, 0x37e, 0x37f, 0x55d, 0x55e, 0x60c, 0x60e, 0x7f8, 0x7f9, 0x1802, 0x1803, 0x1808,
    0x1809, 0x2013, 0x2015, 0x3001, 0x3002, 0xfe10, 0xfe12, 0xfe13, 0xfe15, 0xfe31, 0xfe33, 0xfe50, 0xfe52,
    0xfe54, 0xfe56, 0xfe58, 0xfe59, 0xfe63, 0xfe64, 0xff0c, 0xff0e, 0xff1a, 0xff1c, 0xff64, 0xff65]⟩),
  (["se", "sep"], separator),
  (["sp"], blanks.diff (unionAll [return', lineFeed, separator])),
  (["st", "sterm"], Binary.sentenceTerminal.diff stops),
  (["up", "upper"], upper)]

end ClassSkeleton.Text.Break
