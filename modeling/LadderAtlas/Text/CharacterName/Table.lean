import LadderAtlas.Text.CharacterName
import LadderAtlas.Text.Trim

/-! # Names of common characters

The names that the command line knows: those of Latin letters, Greek letters, punctuation and arrows. -/

namespace LadderAtlas.Text

/-- Names of characters that follow one another, with the code of the first. -/
def characterNameBlocks : List (Nat × String) := [
  (0x9, "CHARACTER TABULATION,LINE FEED,LINE TABULATION,FORM FEED,CARRIAGE RETURN"),
  (0x20,
    "SPACE,EXCLAMATION MARK,QUOTATION MARK,NUMBER SIGN,DOLLAR SIGN,PERCENT SIGN,AMPERSAND,APOSTROPHE," ++
    "LEFT PARENTHESIS,RIGHT PARENTHESIS,ASTERISK,PLUS SIGN,COMMA,HYPHEN-MINUS,FULL STOP,SOLIDUS," ++
    "DIGIT ZERO,DIGIT ONE,DIGIT TWO,DIGIT THREE,DIGIT FOUR,DIGIT FIVE,DIGIT SIX,DIGIT SEVEN,DIGIT EIGHT," ++
    "DIGIT NINE,COLON,SEMICOLON,LESS-THAN SIGN,EQUALS SIGN,GREATER-THAN SIGN,QUESTION MARK,COMMERCIAL AT," ++
    "LATIN CAPITAL LETTER A,LATIN CAPITAL LETTER B,LATIN CAPITAL LETTER C,LATIN CAPITAL LETTER D," ++
    "LATIN CAPITAL LETTER E,LATIN CAPITAL LETTER F,LATIN CAPITAL LETTER G,LATIN CAPITAL LETTER H," ++
    "LATIN CAPITAL LETTER I,LATIN CAPITAL LETTER J,LATIN CAPITAL LETTER K,LATIN CAPITAL LETTER L," ++
    "LATIN CAPITAL LETTER M,LATIN CAPITAL LETTER N,LATIN CAPITAL LETTER O,LATIN CAPITAL LETTER P," ++
    "LATIN CAPITAL LETTER Q,LATIN CAPITAL LETTER R,LATIN CAPITAL LETTER S,LATIN CAPITAL LETTER T," ++
    "LATIN CAPITAL LETTER U,LATIN CAPITAL LETTER V,LATIN CAPITAL LETTER W,LATIN CAPITAL LETTER X," ++
    "LATIN CAPITAL LETTER Y,LATIN CAPITAL LETTER Z,LEFT SQUARE BRACKET,REVERSE SOLIDUS," ++
    "RIGHT SQUARE BRACKET,CIRCUMFLEX ACCENT,LOW LINE,GRAVE ACCENT,LATIN SMALL LETTER A," ++
    "LATIN SMALL LETTER B,LATIN SMALL LETTER C,LATIN SMALL LETTER D,LATIN SMALL LETTER E," ++
    "LATIN SMALL LETTER F,LATIN SMALL LETTER G,LATIN SMALL LETTER H,LATIN SMALL LETTER I," ++
    "LATIN SMALL LETTER J,LATIN SMALL LETTER K,LATIN SMALL LETTER L,LATIN SMALL LETTER M," ++
    "LATIN SMALL LETTER N,LATIN SMALL LETTER O,LATIN SMALL LETTER P,LATIN SMALL LETTER Q," ++
    "LATIN SMALL LETTER R,LATIN SMALL LETTER S,LATIN SMALL LETTER T,LATIN SMALL LETTER U," ++
    "LATIN SMALL LETTER V,LATIN SMALL LETTER W,LATIN SMALL LETTER X,LATIN SMALL LETTER Y," ++
    "LATIN SMALL LETTER Z,LEFT CURLY BRACKET,VERTICAL LINE,RIGHT CURLY BRACKET,TILDE"),
  (0xA0,
    "NO-BREAK SPACE,INVERTED EXCLAMATION MARK,CENT SIGN,POUND SIGN,CURRENCY SIGN,YEN SIGN,BROKEN BAR," ++
    "SECTION SIGN,DIAERESIS,COPYRIGHT SIGN,FEMININE ORDINAL INDICATOR," ++
    "LEFT-POINTING DOUBLE ANGLE QUOTATION MARK,NOT SIGN,SOFT HYPHEN,REGISTERED SIGN,MACRON,DEGREE SIGN," ++
    "PLUS-MINUS SIGN,SUPERSCRIPT TWO,SUPERSCRIPT THREE,ACUTE ACCENT,MICRO SIGN,PILCROW SIGN,MIDDLE DOT," ++
    "CEDILLA,SUPERSCRIPT ONE,MASCULINE ORDINAL INDICATOR,RIGHT-POINTING DOUBLE ANGLE QUOTATION MARK," ++
    "VULGAR FRACTION ONE QUARTER,VULGAR FRACTION ONE HALF,VULGAR FRACTION THREE QUARTERS," ++
    "INVERTED QUESTION MARK,LATIN CAPITAL LETTER A WITH GRAVE,LATIN CAPITAL LETTER A WITH ACUTE," ++
    "LATIN CAPITAL LETTER A WITH CIRCUMFLEX,LATIN CAPITAL LETTER A WITH TILDE," ++
    "LATIN CAPITAL LETTER A WITH DIAERESIS,LATIN CAPITAL LETTER A WITH RING ABOVE," ++
    "LATIN CAPITAL LETTER AE,LATIN CAPITAL LETTER C WITH CEDILLA,LATIN CAPITAL LETTER E WITH GRAVE," ++
    "LATIN CAPITAL LETTER E WITH ACUTE,LATIN CAPITAL LETTER E WITH CIRCUMFLEX," ++
    "LATIN CAPITAL LETTER E WITH DIAERESIS,LATIN CAPITAL LETTER I WITH GRAVE," ++
    "LATIN CAPITAL LETTER I WITH ACUTE,LATIN CAPITAL LETTER I WITH CIRCUMFLEX," ++
    "LATIN CAPITAL LETTER I WITH DIAERESIS,LATIN CAPITAL LETTER ETH,LATIN CAPITAL LETTER N WITH TILDE," ++
    "LATIN CAPITAL LETTER O WITH GRAVE,LATIN CAPITAL LETTER O WITH ACUTE," ++
    "LATIN CAPITAL LETTER O WITH CIRCUMFLEX,LATIN CAPITAL LETTER O WITH TILDE," ++
    "LATIN CAPITAL LETTER O WITH DIAERESIS,MULTIPLICATION SIGN,LATIN CAPITAL LETTER O WITH STROKE," ++
    "LATIN CAPITAL LETTER U WITH GRAVE,LATIN CAPITAL LETTER U WITH ACUTE," ++
    "LATIN CAPITAL LETTER U WITH CIRCUMFLEX,LATIN CAPITAL LETTER U WITH DIAERESIS," ++
    "LATIN CAPITAL LETTER Y WITH ACUTE,LATIN CAPITAL LETTER THORN,LATIN SMALL LETTER SHARP S," ++
    "LATIN SMALL LETTER A WITH GRAVE,LATIN SMALL LETTER A WITH ACUTE," ++
    "LATIN SMALL LETTER A WITH CIRCUMFLEX,LATIN SMALL LETTER A WITH TILDE," ++
    "LATIN SMALL LETTER A WITH DIAERESIS,LATIN SMALL LETTER A WITH RING ABOVE,LATIN SMALL LETTER AE," ++
    "LATIN SMALL LETTER C WITH CEDILLA,LATIN SMALL LETTER E WITH GRAVE,LATIN SMALL LETTER E WITH ACUTE," ++
    "LATIN SMALL LETTER E WITH CIRCUMFLEX,LATIN SMALL LETTER E WITH DIAERESIS," ++
    "LATIN SMALL LETTER I WITH GRAVE,LATIN SMALL LETTER I WITH ACUTE," ++
    "LATIN SMALL LETTER I WITH CIRCUMFLEX,LATIN SMALL LETTER I WITH DIAERESIS,LATIN SMALL LETTER ETH," ++
    "LATIN SMALL LETTER N WITH TILDE,LATIN SMALL LETTER O WITH GRAVE,LATIN SMALL LETTER O WITH ACUTE," ++
    "LATIN SMALL LETTER O WITH CIRCUMFLEX,LATIN SMALL LETTER O WITH TILDE," ++
    "LATIN SMALL LETTER O WITH DIAERESIS,DIVISION SIGN,LATIN SMALL LETTER O WITH STROKE," ++
    "LATIN SMALL LETTER U WITH GRAVE,LATIN SMALL LETTER U WITH ACUTE," ++
    "LATIN SMALL LETTER U WITH CIRCUMFLEX,LATIN SMALL LETTER U WITH DIAERESIS," ++
    "LATIN SMALL LETTER Y WITH ACUTE,LATIN SMALL LETTER THORN,LATIN SMALL LETTER Y WITH DIAERESIS"),
  (0x391,
    "GREEK CAPITAL LETTER ALPHA,GREEK CAPITAL LETTER BETA,GREEK CAPITAL LETTER GAMMA," ++
    "GREEK CAPITAL LETTER DELTA,GREEK CAPITAL LETTER EPSILON,GREEK CAPITAL LETTER ZETA," ++
    "GREEK CAPITAL LETTER ETA,GREEK CAPITAL LETTER THETA,GREEK CAPITAL LETTER IOTA," ++
    "GREEK CAPITAL LETTER KAPPA,GREEK CAPITAL LETTER LAMDA,GREEK CAPITAL LETTER MU," ++
    "GREEK CAPITAL LETTER NU,GREEK CAPITAL LETTER XI,GREEK CAPITAL LETTER OMICRON," ++
    "GREEK CAPITAL LETTER PI,GREEK CAPITAL LETTER RHO"),
  (0x3A3,
    "GREEK CAPITAL LETTER SIGMA,GREEK CAPITAL LETTER TAU,GREEK CAPITAL LETTER UPSILON," ++
    "GREEK CAPITAL LETTER PHI,GREEK CAPITAL LETTER CHI,GREEK CAPITAL LETTER PSI," ++
    "GREEK CAPITAL LETTER OMEGA"),
  (0x3B1,
    "GREEK SMALL LETTER ALPHA,GREEK SMALL LETTER BETA,GREEK SMALL LETTER GAMMA,GREEK SMALL LETTER DELTA," ++
    "GREEK SMALL LETTER EPSILON,GREEK SMALL LETTER ZETA,GREEK SMALL LETTER ETA,GREEK SMALL LETTER THETA," ++
    "GREEK SMALL LETTER IOTA,GREEK SMALL LETTER KAPPA,GREEK SMALL LETTER LAMDA,GREEK SMALL LETTER MU," ++
    "GREEK SMALL LETTER NU,GREEK SMALL LETTER XI,GREEK SMALL LETTER OMICRON,GREEK SMALL LETTER PI," ++
    "GREEK SMALL LETTER RHO,GREEK SMALL LETTER FINAL SIGMA,GREEK SMALL LETTER SIGMA," ++
    "GREEK SMALL LETTER TAU,GREEK SMALL LETTER UPSILON,GREEK SMALL LETTER PHI,GREEK SMALL LETTER CHI," ++
    "GREEK SMALL LETTER PSI,GREEK SMALL LETTER OMEGA"),
  (0x2010,
    "HYPHEN,NON-BREAKING HYPHEN,FIGURE DASH,EN DASH,EM DASH,HORIZONTAL BAR,DOUBLE VERTICAL LINE," ++
    "DOUBLE LOW LINE,LEFT SINGLE QUOTATION MARK,RIGHT SINGLE QUOTATION MARK,SINGLE LOW-9 QUOTATION MARK," ++
    "SINGLE HIGH-REVERSED-9 QUOTATION MARK,LEFT DOUBLE QUOTATION MARK,RIGHT DOUBLE QUOTATION MARK," ++
    "DOUBLE LOW-9 QUOTATION MARK,DOUBLE HIGH-REVERSED-9 QUOTATION MARK,DAGGER,DOUBLE DAGGER,BULLET," ++
    "TRIANGULAR BULLET,ONE DOT LEADER,TWO DOT LEADER,HORIZONTAL ELLIPSIS,HYPHENATION POINT"),
  (0x2030,
    "PER MILLE SIGN,PER TEN THOUSAND SIGN,PRIME,DOUBLE PRIME,TRIPLE PRIME,REVERSED PRIME," ++
    "REVERSED DOUBLE PRIME,REVERSED TRIPLE PRIME,CARET,SINGLE LEFT-POINTING ANGLE QUOTATION MARK," ++
    "SINGLE RIGHT-POINTING ANGLE QUOTATION MARK"),
  (0x2190,
    "LEFTWARDS ARROW,UPWARDS ARROW,RIGHTWARDS ARROW,DOWNWARDS ARROW,LEFT RIGHT ARROW,UP DOWN ARROW," ++
    "NORTH WEST ARROW,NORTH EAST ARROW,SOUTH EAST ARROW,SOUTH WEST ARROW"),
  (0x20AC, "EURO SIGN")]

/-- The code of a character by its name in capitals. -/
def codeOfName? (name : List Char) : List (Nat × String) → Option Nat
  | [] => none
  | (first, names) :: blocks =>
    match (splitOn (· = ',') names.toList).idxOf? name with
    | some i => some (first + i)
    | none => codeOfName? name blocks

instance : CharacterNames where
  character? name := (codeOfName? (name.toList.map Char.toUpper) characterNameBlocks).map Char.ofNat

end LadderAtlas.Text
