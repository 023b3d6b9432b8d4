/-!
# Names of characters

The Unicode standard gives every character a name, by which an escape can ask for it. The names are
those of the printable characters of ASCII.

## Main definitions

* `asciiNames` : the printable characters of ASCII with their names.
* `asciiCharacter?` : the character with a name, in capital or small letters.
-/

namespace ElementQuery.Text

/-- The printable characters of ASCII with their names, by code point. -/
def asciiNames : List (String × Nat) :=
  [("SPACE", 0x20), ("EXCLAMATION MARK", 0x21), ("QUOTATION MARK", 0x22), ("NUMBER SIGN", 0x23),
   ("DOLLAR SIGN", 0x24), ("PERCENT SIGN", 0x25), ("AMPERSAND", 0x26), ("APOSTROPHE", 0x27),
   ("LEFT PARENTHESIS", 0x28), ("RIGHT PARENTHESIS", 0x29), ("ASTERISK", 0x2A), ("PLUS SIGN", 0x2B),
   ("COMMA", 0x2C), ("HYPHEN-MINUS", 0x2D), ("FULL STOP", 0x2E), ("SOLIDUS", 0x2F),
   ("DIGIT ZERO", 0x30), ("DIGIT ONE", 0x31), ("DIGIT TWO", 0x32), ("DIGIT THREE", 0x33),
   ("DIGIT FOUR", 0x34), ("DIGIT FIVE", 0x35), ("DIGIT SIX", 0x36), ("DIGIT SEVEN", 0x37),
   ("DIGIT EIGHT", 0x38), ("DIGIT NINE", 0x39), ("COLON", 0x3A), ("SEMICOLON", 0x3B),
   ("LESS-THAN SIGN", 0x3C), ("EQUALS SIGN", 0x3D), ("GREATER-THAN SIGN", 0x3E),
   ("QUESTION MARK", 0x3F), ("COMMERCIAL AT", 0x40), ("LATIN CAPITAL LETTER A", 0x41),
   ("LATIN CAPITAL LETTER B", 0x42), ("LATIN CAPITAL LETTER C", 0x43),
   ("LATIN CAPITAL LETTER D", 0x44), ("LATIN CAPITAL LETTER E", 0x45),
   ("LATIN CAPITAL LETTER F", 0x46), ("LATIN CAPITAL LETTER G", 0x47),
   ("LATIN CAPITAL LETTER H", 0x48), ("LATIN CAPITAL LETTER I", 0x49),
   ("LATIN CAPITAL LETTER J", 0x4A), ("LATIN CAPITAL LETTER K", 0x4B),
   ("LATIN CAPITAL LETTER L", 0x4C), ("LATIN CAPITAL LETTER M", 0x4D),
   ("LATIN CAPITAL LETTER N", 0x4E), ("LATIN CAPITAL LETTER O", 0x4F),
   ("LATIN CAPITAL LETTER P", 0x50), ("LATIN CAPITAL LETTER Q", 0x51),
   ("LATIN CAPITAL LETTER R", 0x52), ("LATIN CAPITAL LETTER S", 0x53),
   ("LATIN CAPITAL LETTER T", 0x54), ("LATIN CAPITAL LETTER U", 0x55),
   ("LATIN CAPITAL LETTER V", 0x56), ("LATIN CAPITAL LETTER W", 0x57),
   ("LATIN CAPITAL LETTER X", 0x58), ("LATIN CAPITAL LETTER Y", 0x59),
   ("LATIN CAPITAL LETTER Z", 0x5A), ("LEFT SQUARE BRACKET", 0x5B), ("REVERSE SOLIDUS", 0x5C),
   ("RIGHT SQUARE BRACKET", 0x5D), ("CIRCUMFLEX ACCENT", 0x5E), ("LOW LINE", 0x5F),
   ("GRAVE ACCENT", 0x60), ("LATIN SMALL LETTER A", 0x61), ("LATIN SMALL LETTER B", 0x62),
   ("LATIN SMALL LETTER C", 0x63), ("LATIN SMALL LETTER D", 0x64), ("LATIN SMALL LETTER E", 0x65),
   ("LATIN SMALL LETTER F", 0x66), ("LATIN SMALL LETTER G", 0x67), ("LATIN SMALL LETTER H", 0x68),
   ("LATIN SMALL LETTER I", 0x69), ("LATIN SMALL LETTER J", 0x6A), ("LATIN SMALL LETTER K", 0x6B),
   ("LATIN SMALL LETTER L", 0x6C), ("LATIN SMALL LETTER M", 0x6D), ("LATIN SMALL LETTER N", 0x6E),
   ("LATIN SMALL LETTER O", 0x6F), ("LATIN SMALL LETTER P", 0x70), ("LATIN SMALL LETTER Q", 0x71),
   ("LATIN SMALL LETTER R", 0x72), ("LATIN SMALL LETTER S", 0x73), ("LATIN SMALL LETTER T", 0x74),
   ("LATIN SMALL LETTER U", 0x75), ("LATIN SMALL LETTER V", 0x76), ("LATIN SMALL LETTER W", 0x77),
   ("LATIN SMALL LETTER X", 0x78), ("LATIN SMALL LETTER Y", 0x79), ("LATIN SMALL LETTER Z", 0x7A),
   ("LEFT CURLY BRACKET", 0x7B), ("VERTICAL LINE", 0x7C), ("RIGHT CURLY BRACKET", 0x7D),
   ("TILDE", 0x7E)]

/-- The printable character of ASCII with a name. -/
def asciiCharacter? (name : String) : Option Nat := asciiNames.lookup (name.map Char.toUpper)

end ElementQuery.Text
