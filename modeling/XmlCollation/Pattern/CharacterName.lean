/-!
Contract: characters by name.

Owns: the names of the characters of European scripts, of general punctuation,
currency signs and arrows, in runs of consecutive codes, and the names of control
characters.  Names are read without regard to letter case.

Does not own: the names of other characters, which are unknown here.
-/

namespace XmlCollation.Pattern

def nameRuns : List (Nat × String) :=
  [
    (32,
      "SPACE;EXCLAMATION MARK;QUOTATION MARK;NUMBER SIGN;DOLLAR SIGN;PERCENT SIGN;" ++
      "AMPERSAND;APOSTROPHE;LEFT PARENTHESIS;RIGHT PARENTHESIS;ASTERISK;PLUS SIGN;COMMA;" ++
      "HYPHEN-MINUS;FULL STOP;SOLIDUS;DIGIT ZERO;DIGIT ONE;DIGIT TWO;DIGIT THREE;" ++
      "DIGIT FOUR;DIGIT FIVE;DIGIT SIX;DIGIT SEVEN;DIGIT EIGHT;DIGIT NINE;COLON;SEMICOLON;" ++
      "LESS-THAN SIGN;EQUALS SIGN;GREATER-THAN SIGN;QUESTION MARK;COMMERCIAL AT;" ++
      "LATIN CAPITAL LETTER A;LATIN CAPITAL LETTER B;LATIN CAPITAL LETTER C;" ++
      "LATIN CAPITAL LETTER D;LATIN CAPITAL LETTER E;LATIN CAPITAL LETTER F;" ++
      "LATIN CAPITAL LETTER G;LATIN CAPITAL LETTER H;LATIN CAPITAL LETTER I;" ++
      "LATIN CAPITAL LETTER J;LATIN CAPITAL LETTER K;LATIN CAPITAL LETTER L;" ++
      "LATIN CAPITAL LETTER M;LATIN CAPITAL LETTER N;LATIN CAPITAL LETTER O;" ++
      "LATIN CAPITAL LETTER P;LATIN CAPITAL LETTER Q;LATIN CAPITAL LETTER R;" ++
      "LATIN CAPITAL LETTER S;LATIN CAPITAL LETTER T;LATIN CAPITAL LETTER U;" ++
      "LATIN CAPITAL LETTER V;LATIN CAPITAL LETTER W;LATIN CAPITAL LETTER X;" ++
      "LATIN CAPITAL LETTER Y;LATIN CAPITAL LETTER Z;LEFT SQUARE BRACKET;REVERSE SOLIDUS;" ++
      "RIGHT SQUARE BRACKET;CIRCUMFLEX ACCENT;LOW LINE;GRAVE ACCENT;LATIN SMALL LETTER A;" ++
      "LATIN SMALL LETTER B;LATIN SMALL LETTER C;LATIN SMALL LETTER D;LATIN SMALL LETTER E;" ++
      "LATIN SMALL LETTER F;LATIN SMALL LETTER G;LATIN SMALL LETTER H;LATIN SMALL LETTER I;" ++
      "LATIN SMALL LETTER J;LATIN SMALL LETTER K;LATIN SMALL LETTER L;LATIN SMALL LETTER M;" ++
      "LATIN SMALL LETTER N;LATIN SMALL LETTER O;LATIN SMALL LETTER P;LATIN SMALL LETTER Q;" ++
      "LATIN SMALL LETTER R;LATIN SMALL LETTER S;LATIN SMALL LETTER T;LATIN SMALL LETTER U;" ++
      "LATIN SMALL LETTER V;LATIN SMALL LETTER W;LATIN SMALL LETTER X;LATIN SMALL LETTER Y;" ++
      "LATIN SMALL LETTER Z;LEFT CURLY BRACKET;VERTICAL LINE;RIGHT CURLY BRACKET;TILDE"),
    (160,
      "NO-BREAK SPACE;INVERTED EXCLAMATION MARK;CENT SIGN;POUND SIGN;CURRENCY SIGN;" ++
      "YEN SIGN;BROKEN BAR;SECTION SIGN;DIAERESIS;COPYRIGHT SIGN;" ++
      "FEMININE ORDINAL INDICATOR;LEFT-POINTING DOUBLE ANGLE QUOTATION MARK;NOT SIGN;" ++
      "SOFT HYPHEN;REGISTERED SIGN;MACRON;DEGREE SIGN;PLUS-MINUS SIGN;SUPERSCRIPT TWO;" ++
      "SUPERSCRIPT THREE;ACUTE ACCENT;MICRO SIGN;PILCROW SIGN;MIDDLE DOT;CEDILLA;" ++
      "SUPERSCRIPT ONE;MASCULINE ORDINAL INDICATOR;" ++
      "RIGHT-POINTING DOUBLE ANGLE QUOTATION MARK;VULGAR FRACTION ONE QUARTER;" ++
      "VULGAR FRACTION ONE HALF;VULGAR FRACTION THREE QUARTERS;INVERTED QUESTION MARK;" ++
      "LATIN CAPITAL LETTER A WITH GRAVE;LATIN CAPITAL LETTER A WITH ACUTE;" ++
      "LATIN CAPITAL LETTER A WITH CIRCUMFLEX;LATIN CAPITAL LETTER A WITH TILDE;" ++
      "LATIN CAPITAL LETTER A WITH DIAERESIS;LATIN CAPITAL LETTER A WITH RING ABOVE;" ++
      "LATIN CAPITAL LETTER AE;LATIN CAPITAL LETTER C WITH CEDILLA;" ++
      "LATIN CAPITAL LETTER E WITH GRAVE;LATIN CAPITAL LETTER E WITH ACUTE;" ++
      "LATIN CAPITAL LETTER E WITH CIRCUMFLEX;LATIN CAPITAL LETTER E WITH DIAERESIS;" ++
      "LATIN CAPITAL LETTER I WITH GRAVE;LATIN CAPITAL LETTER I WITH ACUTE;" ++
      "LATIN CAPITAL LETTER I WITH CIRCUMFLEX;LATIN CAPITAL LETTER I WITH DIAERESIS;" ++
      "LATIN CAPITAL LETTER ETH;LATIN CAPITAL LETTER N WITH TILDE;" ++
      "LATIN CAPITAL LETTER O WITH GRAVE;LATIN CAPITAL LETTER O WITH ACUTE;" ++
      "LATIN CAPITAL LETTER O WITH CIRCUMFLEX;LATIN CAPITAL LETTER O WITH TILDE;" ++
      "LATIN CAPITAL LETTER O WITH DIAERESIS;MULTIPLICATION SIGN;" ++
      "LATIN CAPITAL LETTER O WITH STROKE;LATIN CAPITAL LETTER U WITH GRAVE;" ++
      "LATIN CAPITAL LETTER U WITH ACUTE;LATIN CAPITAL LETTER U WITH CIRCUMFLEX;" ++
      "LATIN CAPITAL LETTER U WITH DIAERESIS;LATIN CAPITAL LETTER Y WITH ACUTE;" ++
      "LATIN CAPITAL LETTER THORN;LATIN SMALL LETTER SHARP S;" ++
      "LATIN SMALL LETTER A WITH GRAVE;LATIN SMALL LETTER A WITH ACUTE;" ++
      "LATIN SMALL LETTER A WITH CIRCUMFLEX;LATIN SMALL LETTER A WITH TILDE;" ++
      "LATIN SMALL LETTER A WITH DIAERESIS;LATIN SMALL LETTER A WITH RING ABOVE;" ++
      "LATIN SMALL LETTER AE;LATIN SMALL LETTER C WITH CEDILLA;" ++
      "LATIN SMALL LETTER E WITH GRAVE;LATIN SMALL LETTER E WITH ACUTE;" ++
      "LATIN SMALL LETTER E WITH CIRCUMFLEX;LATIN SMALL LETTER E WITH DIAERESIS;" ++
      "LATIN SMALL LETTER I WITH GRAVE;LATIN SMALL LETTER I WITH ACUTE;" ++
      "LATIN SMALL LETTER I WITH CIRCUMFLEX;LATIN SMALL LETTER I WITH DIAERESIS;" ++
      "LATIN SMALL LETTER ETH;LATIN SMALL LETTER N WITH TILDE;" ++
      "LATIN SMALL LETTER O WITH GRAVE;LATIN SMALL LETTER O WITH ACUTE;" ++
      "LATIN SMALL LETTER O WITH CIRCUMFLEX;LATIN SMALL LETTER O WITH TILDE;" ++
      "LATIN SMALL LETTER O WITH DIAERESIS;DIVISION SIGN;LATIN SMALL LETTER O WITH STROKE;" ++
      "LATIN SMALL LETTER U WITH GRAVE;LATIN SMALL LETTER U WITH ACUTE;" ++
      "LATIN SMALL LETTER U WITH CIRCUMFLEX;LATIN SMALL LETTER U WITH DIAERESIS;" ++
      "LATIN SMALL LETTER Y WITH ACUTE;LATIN SMALL LETTER THORN;" ++
      "LATIN SMALL LETTER Y WITH DIAERESIS;LATIN CAPITAL LETTER A WITH MACRON;" ++
      "LATIN SMALL LETTER A WITH MACRON;LATIN CAPITAL LETTER A WITH BREVE;" ++
      "LATIN SMALL LETTER A WITH BREVE;LATIN CAPITAL LETTER A WITH OGONEK;" ++
      "LATIN SMALL LETTER A WITH OGONEK;LATIN CAPITAL LETTER C WITH ACUTE;" ++
      "LATIN SMALL LETTER C WITH ACUTE;LATIN CAPITAL LETTER C WITH CIRCUMFLEX;" ++
      "LATIN SMALL LETTER C WITH CIRCUMFLEX;LATIN CAPITAL LETTER C WITH DOT ABOVE;" ++
      "LATIN SMALL LETTER C WITH DOT ABOVE;LATIN CAPITAL LETTER C WITH CARON;" ++
      "LATIN SMALL LETTER C WITH CARON;LATIN CAPITAL LETTER D WITH CARON;" ++
      "LATIN SMALL LETTER D WITH CARON;LATIN CAPITAL LETTER D WITH STROKE;" ++
      "LATIN SMALL LETTER D WITH STROKE;LATIN CAPITAL LETTER E WITH MACRON;" ++
      "LATIN SMALL LETTER E WITH MACRON;LATIN CAPITAL LETTER E WITH BREVE;" ++
      "LATIN SMALL LETTER E WITH BREVE;LATIN CAPITAL LETTER E WITH DOT ABOVE;" ++
      "LATIN SMALL LETTER E WITH DOT ABOVE;LATIN CAPITAL LETTER E WITH OGONEK;" ++
      "LATIN SMALL LETTER E WITH OGONEK;LATIN CAPITAL LETTER E WITH CARON;" ++
      "LATIN SMALL LETTER E WITH CARON;LATIN CAPITAL LETTER G WITH CIRCUMFLEX;" ++
      "LATIN SMALL LETTER G WITH CIRCUMFLEX;LATIN CAPITAL LETTER G WITH BREVE;" ++
      "LATIN SMALL LETTER G WITH BREVE;LATIN CAPITAL LETTER G WITH DOT ABOVE;" ++
      "LATIN SMALL LETTER G WITH DOT ABOVE;LATIN CAPITAL LETTER G WITH CEDILLA;" ++
      "LATIN SMALL LETTER G WITH CEDILLA;LATIN CAPITAL LETTER H WITH CIRCUMFLEX;" ++
      "LATIN SMALL LETTER H WITH CIRCUMFLEX;LATIN CAPITAL LETTER H WITH STROKE;" ++
      "LATIN SMALL LETTER H WITH STROKE;LATIN CAPITAL LETTER I WITH TILDE;" ++
      "LATIN SMALL LETTER I WITH TILDE;LATIN CAPITAL LETTER I WITH MACRON;" ++
      "LATIN SMALL LETTER I WITH MACRON;LATIN CAPITAL LETTER I WITH BREVE;" ++
      "LATIN SMALL LETTER I WITH BREVE;LATIN CAPITAL LETTER I WITH OGONEK;" ++
      "LATIN SMALL LETTER I WITH OGONEK;LATIN CAPITAL LETTER I WITH DOT ABOVE;" ++
      "LATIN SMALL LETTER DOTLESS I;LATIN CAPITAL LIGATURE IJ;LATIN SMALL LIGATURE IJ;" ++
      "LATIN CAPITAL LETTER J WITH CIRCUMFLEX;LATIN SMALL LETTER J WITH CIRCUMFLEX;" ++
      "LATIN CAPITAL LETTER K WITH CEDILLA;LATIN SMALL LETTER K WITH CEDILLA;" ++
      "LATIN SMALL LETTER KRA;LATIN CAPITAL LETTER L WITH ACUTE;" ++
      "LATIN SMALL LETTER L WITH ACUTE;LATIN CAPITAL LETTER L WITH CEDILLA;" ++
      "LATIN SMALL LETTER L WITH CEDILLA;LATIN CAPITAL LETTER L WITH CARON;" ++
      "LATIN SMALL LETTER L WITH CARON;LATIN CAPITAL LETTER L WITH MIDDLE DOT;" ++
      "LATIN SMALL LETTER L WITH MIDDLE DOT;LATIN CAPITAL LETTER L WITH STROKE;" ++
      "LATIN SMALL LETTER L WITH STROKE;LATIN CAPITAL LETTER N WITH ACUTE;" ++
      "LATIN SMALL LETTER N WITH ACUTE;LATIN CAPITAL LETTER N WITH CEDILLA;" ++
      "LATIN SMALL LETTER N WITH CEDILLA;LATIN CAPITAL LETTER N WITH CARON;" ++
      "LATIN SMALL LETTER N WITH CARON;LATIN SMALL LETTER N PRECEDED BY APOSTROPHE;" ++
      "LATIN CAPITAL LETTER ENG;LATIN SMALL LETTER ENG;LATIN CAPITAL LETTER O WITH MACRON;" ++
      "LATIN SMALL LETTER O WITH MACRON;LATIN CAPITAL LETTER O WITH BREVE;" ++
      "LATIN SMALL LETTER O WITH BREVE;LATIN CAPITAL LETTER O WITH DOUBLE ACUTE;" ++
      "LATIN SMALL LETTER O WITH DOUBLE ACUTE;LATIN CAPITAL LIGATURE OE;" ++
      "LATIN SMALL LIGATURE OE;LATIN CAPITAL LETTER R WITH ACUTE;" ++
      "LATIN SMALL LETTER R WITH ACUTE;LATIN CAPITAL LETTER R WITH CEDILLA;" ++
      "LATIN SMALL LETTER R WITH CEDILLA;LATIN CAPITAL LETTER R WITH CARON;" ++
      "LATIN SMALL LETTER R WITH CARON;LATIN CAPITAL LETTER S WITH ACUTE;" ++
      "LATIN SMALL LETTER S WITH ACUTE;LATIN CAPITAL LETTER S WITH CIRCUMFLEX;" ++
      "LATIN SMALL LETTER S WITH CIRCUMFLEX;LATIN CAPITAL LETTER S WITH CEDILLA;" ++
      "LATIN SMALL LETTER S WITH CEDILLA;LATIN CAPITAL LETTER S WITH CARON;" ++
      "LATIN SMALL LETTER S WITH CARON;LATIN CAPITAL LETTER T WITH CEDILLA;" ++
      "LATIN SMALL LETTER T WITH CEDILLA;LATIN CAPITAL LETTER T WITH CARON;" ++
      "LATIN SMALL LETTER T WITH CARON;LATIN CAPITAL LETTER T WITH STROKE;" ++
      "LATIN SMALL LETTER T WITH STROKE;LATIN CAPITAL LETTER U WITH TILDE;" ++
      "LATIN SMALL LETTER U WITH TILDE;LATIN CAPITAL LETTER U WITH MACRON;" ++
      "LATIN SMALL LETTER U WITH MACRON;LATIN CAPITAL LETTER U WITH BREVE;" ++
      "LATIN SMALL LETTER U WITH BREVE;LATIN CAPITAL LETTER U WITH RING ABOVE;" ++
      "LATIN SMALL LETTER U WITH RING ABOVE;LATIN CAPITAL LETTER U WITH DOUBLE ACUTE;" ++
      "LATIN SMALL LETTER U WITH DOUBLE ACUTE;LATIN CAPITAL LETTER U WITH OGONEK;" ++
      "LATIN SMALL LETTER U WITH OGONEK;LATIN CAPITAL LETTER W WITH CIRCUMFLEX;" ++
      "LATIN SMALL LETTER W WITH CIRCUMFLEX;LATIN CAPITAL LETTER Y WITH CIRCUMFLEX;" ++
      "LATIN SMALL LETTER Y WITH CIRCUMFLEX;LATIN CAPITAL LETTER Y WITH DIAERESIS;" ++
      "LATIN CAPITAL LETTER Z WITH ACUTE;LATIN SMALL LETTER Z WITH ACUTE;" ++
      "LATIN CAPITAL LETTER Z WITH DOT ABOVE;LATIN SMALL LETTER Z WITH DOT ABOVE;" ++
      "LATIN CAPITAL LETTER Z WITH CARON;LATIN SMALL LETTER Z WITH CARON;" ++
      "LATIN SMALL LETTER LONG S"),
    (880,
      "GREEK CAPITAL LETTER HETA;GREEK SMALL LETTER HETA;" ++
      "GREEK CAPITAL LETTER ARCHAIC SAMPI;GREEK SMALL LETTER ARCHAIC SAMPI;" ++
      "GREEK NUMERAL SIGN;GREEK LOWER NUMERAL SIGN;GREEK CAPITAL LETTER PAMPHYLIAN DIGAMMA;" ++
      "GREEK SMALL LETTER PAMPHYLIAN DIGAMMA"),
    (890,
      "GREEK YPOGEGRAMMENI;GREEK SMALL REVERSED LUNATE SIGMA SYMBOL;" ++
      "GREEK SMALL DOTTED LUNATE SIGMA SYMBOL;" ++
      "GREEK SMALL REVERSED DOTTED LUNATE SIGMA SYMBOL;GREEK QUESTION MARK;" ++
      "GREEK CAPITAL LETTER YOT"),
    (900,
      "GREEK TONOS;GREEK DIALYTIKA TONOS;GREEK CAPITAL LETTER ALPHA WITH TONOS;" ++
      "GREEK ANO TELEIA;GREEK CAPITAL LETTER EPSILON WITH TONOS;" ++
      "GREEK CAPITAL LETTER ETA WITH TONOS;GREEK CAPITAL LETTER IOTA WITH TONOS"),
    (908,
      "GREEK CAPITAL LETTER OMICRON WITH TONOS"),
    (910,
      "GREEK CAPITAL LETTER UPSILON WITH TONOS;GREEK CAPITAL LETTER OMEGA WITH TONOS;" ++
      "GREEK SMALL LETTER IOTA WITH DIALYTIKA AND TONOS;GREEK CAPITAL LETTER ALPHA;" ++
      "GREEK CAPITAL LETTER BETA;GREEK CAPITAL LETTER GAMMA;GREEK CAPITAL LETTER DELTA;" ++
      "GREEK CAPITAL LETTER EPSILON;GREEK CAPITAL LETTER ZETA;GREEK CAPITAL LETTER ETA;" ++
      "GREEK CAPITAL LETTER THETA;GREEK CAPITAL LETTER IOTA;GREEK CAPITAL LETTER KAPPA;" ++
      "GREEK CAPITAL LETTER LAMDA;GREEK CAPITAL LETTER MU;GREEK CAPITAL LETTER NU;" ++
      "GREEK CAPITAL LETTER XI;GREEK CAPITAL LETTER OMICRON;GREEK CAPITAL LETTER PI;" ++
      "GREEK CAPITAL LETTER RHO"),
    (931,
      "GREEK CAPITAL LETTER SIGMA;GREEK CAPITAL LETTER TAU;GREEK CAPITAL LETTER UPSILON;" ++
      "GREEK CAPITAL LETTER PHI;GREEK CAPITAL LETTER CHI;GREEK CAPITAL LETTER PSI;" ++
      "GREEK CAPITAL LETTER OMEGA;GREEK CAPITAL LETTER IOTA WITH DIALYTIKA;" ++
      "GREEK CAPITAL LETTER UPSILON WITH DIALYTIKA;GREEK SMALL LETTER ALPHA WITH TONOS;" ++
      "GREEK SMALL LETTER EPSILON WITH TONOS;GREEK SMALL LETTER ETA WITH TONOS;" ++
      "GREEK SMALL LETTER IOTA WITH TONOS;" ++
      "GREEK SMALL LETTER UPSILON WITH DIALYTIKA AND TONOS;GREEK SMALL LETTER ALPHA;" ++
      "GREEK SMALL LETTER BETA;GREEK SMALL LETTER GAMMA;GREEK SMALL LETTER DELTA;" ++
      "GREEK SMALL LETTER EPSILON;GREEK SMALL LETTER ZETA;GREEK SMALL LETTER ETA;" ++
      "GREEK SMALL LETTER THETA;GREEK SMALL LETTER IOTA;GREEK SMALL LETTER KAPPA;" ++
      "GREEK SMALL LETTER LAMDA;GREEK SMALL LETTER MU;GREEK SMALL LETTER NU;" ++
      "GREEK SMALL LETTER XI;GREEK SMALL LETTER OMICRON;GREEK SMALL LETTER PI;" ++
      "GREEK SMALL LETTER RHO;GREEK SMALL LETTER FINAL SIGMA;GREEK SMALL LETTER SIGMA;" ++
      "GREEK SMALL LETTER TAU;GREEK SMALL LETTER UPSILON;GREEK SMALL LETTER PHI;" ++
      "GREEK SMALL LETTER CHI;GREEK SMALL LETTER PSI;GREEK SMALL LETTER OMEGA;" ++
      "GREEK SMALL LETTER IOTA WITH DIALYTIKA;GREEK SMALL LETTER UPSILON WITH DIALYTIKA;" ++
      "GREEK SMALL LETTER OMICRON WITH TONOS;GREEK SMALL LETTER UPSILON WITH TONOS;" ++
      "GREEK SMALL LETTER OMEGA WITH TONOS;GREEK CAPITAL KAI SYMBOL;GREEK BETA SYMBOL;" ++
      "GREEK THETA SYMBOL;GREEK UPSILON WITH HOOK SYMBOL;" ++
      "GREEK UPSILON WITH ACUTE AND HOOK SYMBOL;" ++
      "GREEK UPSILON WITH DIAERESIS AND HOOK SYMBOL;GREEK PHI SYMBOL;GREEK PI SYMBOL;" ++
      "GREEK KAI SYMBOL;GREEK LETTER ARCHAIC KOPPA;GREEK SMALL LETTER ARCHAIC KOPPA;" ++
      "GREEK LETTER STIGMA;GREEK SMALL LETTER STIGMA;GREEK LETTER DIGAMMA;" ++
      "GREEK SMALL LETTER DIGAMMA;GREEK LETTER KOPPA;GREEK SMALL LETTER KOPPA;" ++
      "GREEK LETTER SAMPI;GREEK SMALL LETTER SAMPI;COPTIC CAPITAL LETTER SHEI;" ++
      "COPTIC SMALL LETTER SHEI;COPTIC CAPITAL LETTER FEI;COPTIC SMALL LETTER FEI;" ++
      "COPTIC CAPITAL LETTER KHEI;COPTIC SMALL LETTER KHEI;COPTIC CAPITAL LETTER HORI;" ++
      "COPTIC SMALL LETTER HORI;COPTIC CAPITAL LETTER GANGIA;COPTIC SMALL LETTER GANGIA;" ++
      "COPTIC CAPITAL LETTER SHIMA;COPTIC SMALL LETTER SHIMA;COPTIC CAPITAL LETTER DEI;" ++
      "COPTIC SMALL LETTER DEI;GREEK KAPPA SYMBOL;GREEK RHO SYMBOL;" ++
      "GREEK LUNATE SIGMA SYMBOL;GREEK LETTER YOT;GREEK CAPITAL THETA SYMBOL;" ++
      "GREEK LUNATE EPSILON SYMBOL;GREEK REVERSED LUNATE EPSILON SYMBOL;" ++
      "GREEK CAPITAL LETTER SHO;GREEK SMALL LETTER SHO;GREEK CAPITAL LUNATE SIGMA SYMBOL;" ++
      "GREEK CAPITAL LETTER SAN;GREEK SMALL LETTER SAN;GREEK RHO WITH STROKE SYMBOL;" ++
      "GREEK CAPITAL REVERSED LUNATE SIGMA SYMBOL;GREEK CAPITAL DOTTED LUNATE SIGMA SYMBOL;" ++
      "GREEK CAPITAL REVERSED DOTTED LUNATE SIGMA SYMBOL"),
    (1024,
      "CYRILLIC CAPITAL LETTER IE WITH GRAVE;CYRILLIC CAPITAL LETTER IO;" ++
      "CYRILLIC CAPITAL LETTER DJE;CYRILLIC CAPITAL LETTER GJE;" ++
      "CYRILLIC CAPITAL LETTER UKRAINIAN IE;CYRILLIC CAPITAL LETTER DZE;" ++
      "CYRILLIC CAPITAL LETTER BYELORUSSIAN-UKRAINIAN I;CYRILLIC CAPITAL LETTER YI;" ++
      "CYRILLIC CAPITAL LETTER JE;CYRILLIC CAPITAL LETTER LJE;CYRILLIC CAPITAL LETTER NJE;" ++
      "CYRILLIC CAPITAL LETTER TSHE;CYRILLIC CAPITAL LETTER KJE;" ++
      "CYRILLIC CAPITAL LETTER I WITH GRAVE;CYRILLIC CAPITAL LETTER SHORT U;" ++
      "CYRILLIC CAPITAL LETTER DZHE;CYRILLIC CAPITAL LETTER A;CYRILLIC CAPITAL LETTER BE;" ++
      "CYRILLIC CAPITAL LETTER VE;CYRILLIC CAPITAL LETTER GHE;CYRILLIC CAPITAL LETTER DE;" ++
      "CYRILLIC CAPITAL LETTER IE;CYRILLIC CAPITAL LETTER ZHE;CYRILLIC CAPITAL LETTER ZE;" ++
      "CYRILLIC CAPITAL LETTER I;CYRILLIC CAPITAL LETTER SHORT I;" ++
      "CYRILLIC CAPITAL LETTER KA;CYRILLIC CAPITAL LETTER EL;CYRILLIC CAPITAL LETTER EM;" ++
      "CYRILLIC CAPITAL LETTER EN;CYRILLIC CAPITAL LETTER O;CYRILLIC CAPITAL LETTER PE;" ++
      "CYRILLIC CAPITAL LETTER ER;CYRILLIC CAPITAL LETTER ES;CYRILLIC CAPITAL LETTER TE;" ++
      "CYRILLIC CAPITAL LETTER U;CYRILLIC CAPITAL LETTER EF;CYRILLIC CAPITAL LETTER HA;" ++
      "CYRILLIC CAPITAL LETTER TSE;CYRILLIC CAPITAL LETTER CHE;CYRILLIC CAPITAL LETTER SHA;" ++
      "CYRILLIC CAPITAL LETTER SHCHA;CYRILLIC CAPITAL LETTER HARD SIGN;" ++
      "CYRILLIC CAPITAL LETTER YERU;CYRILLIC CAPITAL LETTER SOFT SIGN;" ++
      "CYRILLIC CAPITAL LETTER E;CYRILLIC CAPITAL LETTER YU;CYRILLIC CAPITAL LETTER YA;" ++
      "CYRILLIC SMALL LETTER A;CYRILLIC SMALL LETTER BE;CYRILLIC SMALL LETTER VE;" ++
      "CYRILLIC SMALL LETTER GHE;CYRILLIC SMALL LETTER DE;CYRILLIC SMALL LETTER IE;" ++
      "CYRILLIC SMALL LETTER ZHE;CYRILLIC SMALL LETTER ZE;CYRILLIC SMALL LETTER I;" ++
      "CYRILLIC SMALL LETTER SHORT I;CYRILLIC SMALL LETTER KA;CYRILLIC SMALL LETTER EL;" ++
      "CYRILLIC SMALL LETTER EM;CYRILLIC SMALL LETTER EN;CYRILLIC SMALL LETTER O;" ++
      "CYRILLIC SMALL LETTER PE;CYRILLIC SMALL LETTER ER;CYRILLIC SMALL LETTER ES;" ++
      "CYRILLIC SMALL LETTER TE;CYRILLIC SMALL LETTER U;CYRILLIC SMALL LETTER EF;" ++
      "CYRILLIC SMALL LETTER HA;CYRILLIC SMALL LETTER TSE;CYRILLIC SMALL LETTER CHE;" ++
      "CYRILLIC SMALL LETTER SHA;CYRILLIC SMALL LETTER SHCHA;" ++
      "CYRILLIC SMALL LETTER HARD SIGN;CYRILLIC SMALL LETTER YERU;" ++
      "CYRILLIC SMALL LETTER SOFT SIGN;CYRILLIC SMALL LETTER E;CYRILLIC SMALL LETTER YU;" ++
      "CYRILLIC SMALL LETTER YA;CYRILLIC SMALL LETTER IE WITH GRAVE;" ++
      "CYRILLIC SMALL LETTER IO;CYRILLIC SMALL LETTER DJE;CYRILLIC SMALL LETTER GJE;" ++
      "CYRILLIC SMALL LETTER UKRAINIAN IE;CYRILLIC SMALL LETTER DZE;" ++
      "CYRILLIC SMALL LETTER BYELORUSSIAN-UKRAINIAN I;CYRILLIC SMALL LETTER YI;" ++
      "CYRILLIC SMALL LETTER JE;CYRILLIC SMALL LETTER LJE;CYRILLIC SMALL LETTER NJE;" ++
      "CYRILLIC SMALL LETTER TSHE;CYRILLIC SMALL LETTER KJE;" ++
      "CYRILLIC SMALL LETTER I WITH GRAVE;CYRILLIC SMALL LETTER SHORT U;" ++
      "CYRILLIC SMALL LETTER DZHE"),
    (8192,
      "EN QUAD;EM QUAD;EN SPACE;EM SPACE;THREE-PER-EM SPACE;FOUR-PER-EM SPACE;" ++
      "SIX-PER-EM SPACE;FIGURE SPACE;PUNCTUATION SPACE;THIN SPACE;HAIR SPACE;" ++
      "ZERO WIDTH SPACE;ZERO WIDTH NON-JOINER;ZERO WIDTH JOINER;LEFT-TO-RIGHT MARK;" ++
      "RIGHT-TO-LEFT MARK;HYPHEN;NON-BREAKING HYPHEN;FIGURE DASH;EN DASH;EM DASH;" ++
      "HORIZONTAL BAR;DOUBLE VERTICAL LINE;DOUBLE LOW LINE;LEFT SINGLE QUOTATION MARK;" ++
      "RIGHT SINGLE QUOTATION MARK;SINGLE LOW-9 QUOTATION MARK;" ++
      "SINGLE HIGH-REVERSED-9 QUOTATION MARK;LEFT DOUBLE QUOTATION MARK;" ++
      "RIGHT DOUBLE QUOTATION MARK;DOUBLE LOW-9 QUOTATION MARK;" ++
      "DOUBLE HIGH-REVERSED-9 QUOTATION MARK;DAGGER;DOUBLE DAGGER;BULLET;TRIANGULAR BULLET;" ++
      "ONE DOT LEADER;TWO DOT LEADER;HORIZONTAL ELLIPSIS;HYPHENATION POINT;LINE SEPARATOR;" ++
      "PARAGRAPH SEPARATOR;LEFT-TO-RIGHT EMBEDDING;RIGHT-TO-LEFT EMBEDDING;" ++
      "POP DIRECTIONAL FORMATTING;LEFT-TO-RIGHT OVERRIDE;RIGHT-TO-LEFT OVERRIDE;" ++
      "NARROW NO-BREAK SPACE;PER MILLE SIGN;PER TEN THOUSAND SIGN;PRIME;DOUBLE PRIME;" ++
      "TRIPLE PRIME;REVERSED PRIME;REVERSED DOUBLE PRIME;REVERSED TRIPLE PRIME;CARET;" ++
      "SINGLE LEFT-POINTING ANGLE QUOTATION MARK;" ++
      "SINGLE RIGHT-POINTING ANGLE QUOTATION MARK;REFERENCE MARK;DOUBLE EXCLAMATION MARK;" ++
      "INTERROBANG;OVERLINE;UNDERTIE;CHARACTER TIE;CARET INSERTION POINT;ASTERISM;" ++
      "HYPHEN BULLET;FRACTION SLASH;LEFT SQUARE BRACKET WITH QUILL;" ++
      "RIGHT SQUARE BRACKET WITH QUILL;DOUBLE QUESTION MARK;QUESTION EXCLAMATION MARK;" ++
      "EXCLAMATION QUESTION MARK;TIRONIAN SIGN ET;REVERSED PILCROW SIGN;" ++
      "BLACK LEFTWARDS BULLET;BLACK RIGHTWARDS BULLET;LOW ASTERISK;REVERSED SEMICOLON;" ++
      "CLOSE UP;TWO ASTERISKS ALIGNED VERTICALLY;COMMERCIAL MINUS SIGN;SWUNG DASH;" ++
      "INVERTED UNDERTIE;FLOWER PUNCTUATION MARK;THREE DOT PUNCTUATION;QUADRUPLE PRIME;" ++
      "FOUR DOT PUNCTUATION;FIVE DOT PUNCTUATION;TWO DOT PUNCTUATION;FOUR DOT MARK;" ++
      "DOTTED CROSS;TRICOLON;VERTICAL FOUR DOTS;MEDIUM MATHEMATICAL SPACE;WORD JOINER;" ++
      "FUNCTION APPLICATION;INVISIBLE TIMES;INVISIBLE SEPARATOR;INVISIBLE PLUS"),
    (8352,
      "EURO-CURRENCY SIGN;COLON SIGN;CRUZEIRO SIGN;FRENCH FRANC SIGN;LIRA SIGN;MILL SIGN;" ++
      "NAIRA SIGN;PESETA SIGN;RUPEE SIGN;WON SIGN;NEW SHEQEL SIGN;DONG SIGN;EURO SIGN;" ++
      "KIP SIGN;TUGRIK SIGN;DRACHMA SIGN;GERMAN PENNY SIGN;PESO SIGN;GUARANI SIGN;" ++
      "AUSTRAL SIGN;HRYVNIA SIGN;CEDI SIGN;LIVRE TOURNOIS SIGN;SPESMILO SIGN;TENGE SIGN;" ++
      "INDIAN RUPEE SIGN;TURKISH LIRA SIGN;NORDIC MARK SIGN;MANAT SIGN;RUBLE SIGN;" ++
      "LARI SIGN;BITCOIN SIGN;SOM SIGN"),
    (8592,
      "LEFTWARDS ARROW;UPWARDS ARROW;RIGHTWARDS ARROW;DOWNWARDS ARROW;LEFT RIGHT ARROW;" ++
      "UP DOWN ARROW;NORTH WEST ARROW;NORTH EAST ARROW;SOUTH EAST ARROW;SOUTH WEST ARROW")]

/-- Names of control characters, and second names. -/
def nameAliases : List (String × Nat) :=
  [
    ("NULL", 0), ("START OF HEADING", 1), ("START OF TEXT", 2),
    ("END OF TEXT", 3), ("END OF TRANSMISSION", 4), ("ENQUIRY", 5),
    ("ACKNOWLEDGE", 6), ("ALERT", 7), ("BACKSPACE", 8),
    ("CHARACTER TABULATION", 9), ("HORIZONTAL TABULATION", 9), ("TAB", 9),
    ("LINE FEED", 10), ("NEW LINE", 10), ("END OF LINE", 10),
    ("LINE TABULATION", 11), ("VERTICAL TABULATION", 11), ("FORM FEED", 12),
    ("CARRIAGE RETURN", 13), ("ESCAPE", 27), ("SPACE", 32),
    ("DELETE", 127), ("NEXT LINE", 133), ("BYTE ORDER MARK", 65279),
    ("NUL", 0), ("HT", 9), ("LF", 10),
    ("NL", 10), ("EOL", 10), ("VT", 11),
    ("FF", 12), ("CR", 13), ("ESC", 27),
    ("SP", 32), ("DEL", 127), ("NEL", 133),
    ("NBSP", 160), ("SHY", 173), ("ZWSP", 8203),
    ("ZWNJ", 8204), ("ZWJ", 8205), ("BOM", 65279),
    ("ZWNBSP", 65279), ("ZERO WIDTH NO-BREAK SPACE", 65279), ("REPLACEMENT CHARACTER", 65533)]

def codeInRun? (name : String) (run : Nat × String) : Option Nat :=
  ((run.2.splitOn ";").findIdx? (· == name)).map (run.1 + ·)

def codeOfName? (name : List Char) : Option Nat :=
  let wanted := String.ofList (name.map Char.toUpper)
  (nameAliases.lookup wanted).orElse fun _ => nameRuns.findSome? (codeInRun? wanted)

end XmlCollation.Pattern
