import Reshape.Regex.Property.Binary
import Reshape.Regex.Property.Script

namespace Reshape.Regex.Property

open Text (CodeRanges)

def carriageReturn : CodeRanges := .ofLines ["d"]

def lineFeed : CodeRanges := .ofLines ["a"]

def zeroWidthJoiner : CodeRanges := .ofLines ["200d"]

def leadingJamo : CodeRanges := .ofLines ["1100-115f a960-a97c"]

/-- Vowels of Hangul and of the scripts that compose them alike. -/
def vowelJamo : CodeRanges := .ofLines ["1160-11a7 d7b0-d7c6 16d63 16d67-16d6a"]

def trailingJamo : CodeRanges := .ofLines ["11a8-11ff d7cb-d7fb"]

/-- Syllables of Hangul without a trailing consonant. -/
def openSyllable : CodeRanges := .ofLines ["ac00-d788/1c"]

def syllable : CodeRanges := .ofLines ["ac00-d7a3"]

def prefixedConsonant : CodeRanges :=
  .ofLines ["d4e 111c2-111c3 113d1 1193f 11941 11a3a 11a84-11a89 11d46 11f02"]

/-- Vowels that stand apart but belong to the letter in front. -/
def spacingVowel : CodeRanges := .ofLines ["e33 eb3"]

/-- Marks that do not belong to the letter in front. -/
def looseMark : CodeRanges :=
  .ofLines [
    "102b-102c 1038 1062-1064 1067-106d 1083 1087-108c 108f 109a-109c 1a61 1a63-1a64 aa7b",
    "aa7d 11720-11721"]

/-- Line ends and joiners, which are no controls of graphemes. -/
def formatJoiner : CodeRanges := .ofLines ["a d 200c-200d"]

def graphemeExtender : CodeRanges :=
  graphemeExtend.union emojiModifier

/-- What ends a grapheme on both sides. -/
def graphemeControl : CodeRanges :=
  (CodeRanges.unions [lineSeparator, paragraphSeparator, control, format,
    unassigned.intersection defaultIgnorable]).difference
    (.unions [formatJoiner, prependedConcatenationMark, graphemeExtender])

def graphemePrepend : CodeRanges :=
  prependedConcatenationMark.union prefixedConsonant

/-- The marks with a width that belong to the grapheme in front. -/
def graphemeSpacingMark : CodeRanges :=
  (spacingMark.union spacingVowel).difference (graphemeExtender.union looseMark)

/-- The parts that characters play in graphemes. -/
def graphemeBreaks : List (List String × CodeRanges) :=
  [(["cn", "control"], graphemeControl),
    (["cr"], carriageReturn),
    (["ex", "extend"], graphemeExtender),
    (["l"], leadingJamo),
    (["lf"], lineFeed),
    (["lv"], openSyllable),
    (["lvt"], syllable.difference openSyllable),
    (["pp", "prepend"], graphemePrepend),
    (["ri", "regionalindicator"], regionalIndicator),
    (["sm", "spacingmark"], graphemeSpacingMark),
    (["t"], trailingJamo),
    (["v"], vowelJamo),
    (["zwj"], zeroWidthJoiner)]

/-- The code points that play a part in graphemes, by a name of it in lower case. -/
def graphemeBreak? (name : String) : Option CodeRanges :=
  named? graphemeBreaks name

def doubleQuote : CodeRanges := .ofLines ["22"]

def singleQuote : CodeRanges := .ofLines ["27"]

/-- What ends a line apart from the carriage return and the line feed. -/
def newline : CodeRanges := .ofLines ["b-c 85 2028-2029"]

def midLetter : CodeRanges := .ofLines ["3a b7 387 55f 5f4 2027 fe13 fe55 ff1a"]

def midNumber : CodeRanges :=
  .ofLines ["2c 3b 37e 589 60c-60d 66c 7f8 2044 fe10 fe14 fe50 fe54 ff0c ff1b"]

/-- What stands between letters and between digits. -/
def midBoth : CodeRanges := .ofLines ["2e 2018-2019 2024 fe52 ff07 ff0e"]

def katakanaSign : CodeRanges := .ofLines ["3031-3035 309b-309c 30a0 30fc ff70"]

def letterSign : CodeRanges :=
  .ofLines [
    "b8 2c2-2c5 2d2-2d7 2de-2df 2e5-2eb 2ed 2ef-2ff 55a-55c 55e 58a 5f3 70f a708-a716",
    "a720-a721 a789-a78a ab5b"]

/-- The mark in front of a Syriac abbreviation, which is no number. -/
def syriacAbbreviation : CodeRanges := .ofLines ["70f"]

/-- Letters of scripts that write no blanks between words. -/
def complexContext : CodeRanges :=
  .ofLines [
    "e01-e30 e32-e33 e40-e46 e81-e82 e84 e86-e8a e8c-ea3 ea5 ea7-eb0 eb2-eb3 ebd ec0-ec4 ec6",
    "edc-edf 1000-102a 103f 1050-1055 105a-105d 1061 1065-1066 106e-1070 1075-1081 108e",
    "1780-17b3 17d7 17dc 1950-196d 1970-1974 1980-19ab 19b0-19c9 1a20-1a54 1aa7 a9e0-a9e4",
    "a9e6-a9ef a9fa-a9fe aa60-aa76 aa7a aa7e-aaaf aab1 aab5-aab6 aab9-aabd aac0 aac2",
    "aadb-aadd 11700-1171a 11740-11746"]

def arabicSeparator : CodeRanges := .ofLines ["66b-66c"]

/-- The separator of thousands in numbers with Arabic digits. -/
def arabicThousands : CodeRanges := .ofLines ["66c"]

/-- Formats of no width that words do not take in. -/
def widthFormat : CodeRanges := .ofLines ["200b-200d"]

/-- The space that stands inside a number. -/
def underscoreSpace : CodeRanges := .ofLines ["202f"]

/-- Spaces that hold words together. -/
def fixedSpace : CodeRanges := .ofLines ["a0 2007 202f"]

/-- The members of a script, none if it has no such name. -/
def membersOf (script : String) : CodeRanges :=
  (script? script).getD ⟨[]⟩

def wordExtender : CodeRanges :=
  .unions [graphemeExtend, spacingMark, emojiModifier]

def numberMark : CodeRanges :=
  prependedConcatenationMark.difference syriacAbbreviation

def wordFormat : CodeRanges :=
  format.difference (.unions [widthFormat, prependedConcatenationMark, wordExtender])

def wordKatakana : CodeRanges :=
  ((membersOf "kana").union katakanaSign).difference wordExtender

def hebrewLetter : CodeRanges :=
  (membersOf "hebr").intersection otherLetter

def wordLetter : CodeRanges :=
  (alphabetic.union letterSign).difference
    (.unions [ideographic, wordKatakana, hebrewLetter, complexContext, membersOf "hira",
      wordExtender])

def wordNumeric : CodeRanges :=
  (CodeRanges.unions [decimalNumber, arabicSeparator, numberMark]).difference arabicThousands

/-- The parts that characters play in words. -/
def wordBreaks : List (List String × CodeRanges) :=
  [(["cr"], carriageReturn),
    (["dq", "doublequote"], doubleQuote),
    (["ex", "extendnumlet"], connectorPunctuation.union underscoreSpace),
    (["extend"], wordExtender),
    (["fo", "format"], wordFormat),
    (["hl", "hebrewletter"], hebrewLetter),
    (["ka", "katakana"], wordKatakana),
    (["le", "aletter"], wordLetter),
    (["lf"], lineFeed),
    (["mb", "midnumlet"], midBoth),
    (["ml", "midletter"], midLetter),
    (["mn", "midnum"], midNumber),
    (["newline", "nl"], newline),
    (["nu", "numeric"], wordNumeric),
    (["ri", "regionalindicator"], regionalIndicator),
    (["singlequote", "sq"], singleQuote),
    (["wsegspace"], spaceSeparator.difference fixedSpace),
    (["zwj"], zeroWidthJoiner)]

/-- The code points that play a part in words, by a name of it in lower case. -/
def wordBreak? (name : String) : Option CodeRanges :=
  named? wordBreaks name

/-- What may end a sentence or an abbreviation. -/
def unclearEnd : CodeRanges := .ofLines ["2e 2024 fe52 ff0e"]

def sentenceContinue : CodeRanges :=
  .ofLines [
    "2c-2d 3a-3b 37e 55d 60c-60d 7f8 1802 1808 2013-2014 3001 fe10-fe11 fe13-fe14 fe31-fe32",
    "fe50-fe51 fe54-fe55 fe58 fe63 ff0c-ff0d ff1a-ff1b ff64"]

/-- What ends a paragraph apart from the carriage return and the line feed. -/
def separatorLine : CodeRanges := .ofLines ["85 2028-2029"]

def lineEnd : CodeRanges := .ofLines ["a d 85 2028-2029"]

/-- Quotation marks that open or close. -/
def quotation : CodeRanges := .ofLines ["22 27 275b-2760 2e00-2e01 2e06-2e08 2e0b 1f676-1f678"]

def smallGeorgian : CodeRanges := .ofLines ["10d0-10fa 10fd-10ff"]

/-- Capital letters of Georgian, with which no sentence starts. -/
def capitalGeorgian : CodeRanges := .ofLines ["1c90-1cba 1cbd-1cbf"]

/-- The mark of Hebrew that counts as a letter. -/
def geresh : CodeRanges := .ofLines ["5f3"]

def joiners : CodeRanges := .ofLines ["200c-200d"]

def sentenceExtender : CodeRanges :=
  .unions [graphemeExtend, spacingMark, zeroWidthJoiner]

/-- The small letters with which no sentence starts. -/
def sentenceLower : CodeRanges :=
  lowercase.difference (sentenceExtender.union smallGeorgian)

/-- The capital letters with which a sentence starts. -/
def sentenceUpper : CodeRanges :=
  (titlecaseLetter.union uppercase).difference capitalGeorgian

def sentenceLetter : CodeRanges :=
  (alphabetic.union geresh).difference (.unions [sentenceLower, sentenceUpper, sentenceExtender])

def sentenceEnd : CodeRanges := sentenceTerminal.difference unclearEnd

def sentenceClose : CodeRanges :=
  (CodeRanges.unions [openPunctuation, closePunctuation, initialPunctuation, finalPunctuation,
    quotation]).difference (.unions [unclearEnd, sentenceEnd, geresh])

def sentenceFormat : CodeRanges :=
  format.difference (.unions [joiners, sentenceExtender, numberMark])

/-- The parts that characters play in sentences. -/
def sentenceBreaks : List (List String × CodeRanges) :=
  [(["at", "aterm"], unclearEnd),
    (["cl", "close"], sentenceClose),
    (["cr"], carriageReturn),
    (["ex", "extend"], sentenceExtender),
    (["fo", "format"], sentenceFormat),
    (["le", "oletter"], sentenceLetter),
    (["lf"], lineFeed),
    (["lo", "lower"], sentenceLower),
    (["nu", "numeric"], .unions [decimalNumber, arabicSeparator, numberMark]),
    (["sc", "scontinue"], sentenceContinue),
    (["se", "sep"], separatorLine),
    (["sp"], whiteSpace.difference lineEnd),
    (["st", "sterm"], sentenceEnd),
    (["up", "upper"], sentenceUpper)]

/-- The code points that play a part in sentences, by a name of it in lower case. -/
def sentenceBreak? (name : String) : Option CodeRanges :=
  named? sentenceBreaks name

end Reshape.Regex.Property
