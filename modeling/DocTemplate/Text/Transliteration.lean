/-!
# Transliteration

Latin letters with marks, punctuation and signs written in ASCII. A character is decomposed first,
so a marked letter becomes its base letter. Characters outside the table have no ASCII form.
-/

namespace DocTemplate.Text

/-- The ASCII forms of the characters from U+00A0 on that have one, by code point. -/
def asciiForms : List (Nat × String) := [
  (0xA0, " "), (0xA1, "!"), (0xA2, "C/"), (0xA3, "PS"), (0xA4, "$?"), (0xA5, "Y="),
  (0xA6, "|"), (0xA7, "SS"), (0xA8, " "), (0xA9, "(c)"), (0xAA, "a"), (0xAB, "<<"),
  (0xAC, "!"), (0xAD, ""), (0xAE, "(r)"), (0xAF, " "), (0xB0, "deg"), (0xB1, "+-"),
  (0xB2, "2"), (0xB3, "3"), (0xB4, " "), (0xB5, "m"), (0xB6, "P"), (0xB7, "*"), (0xB8, " "),
  (0xB9, "1"), (0xBA, "o"), (0xBB, ">>"), (0xBC, "1/4"), (0xBD, "1/2"), (0xBE, "3/4"),
  (0xBF, "?"), (0xC0, "A"), (0xC1, "A"), (0xC2, "A"), (0xC3, "A"), (0xC4, "A"), (0xC5, "A"),
  (0xC6, "AE"), (0xC7, "C"), (0xC8, "E"), (0xC9, "E"), (0xCA, "E"), (0xCB, "E"), (0xCC, "I"),
  (0xCD, "I"), (0xCE, "I"), (0xCF, "I"), (0xD0, "D"), (0xD1, "N"), (0xD2, "O"), (0xD3, "O"),
  (0xD4, "O"), (0xD5, "O"), (0xD6, "O"), (0xD7, "x"), (0xD8, "O"), (0xD9, "U"), (0xDA, "U"),
  (0xDB, "U"), (0xDC, "U"), (0xDD, "Y"), (0xDE, "Th"), (0xDF, "ss"), (0xE0, "a"), (0xE1, "a"),
  (0xE2, "a"), (0xE3, "a"), (0xE4, "a"), (0xE5, "a"), (0xE6, "ae"), (0xE7, "c"), (0xE8, "e"),
  (0xE9, "e"), (0xEA, "e"), (0xEB, "e"), (0xEC, "i"), (0xED, "i"), (0xEE, "i"), (0xEF, "i"),
  (0xF0, "d"), (0xF1, "n"), (0xF2, "o"), (0xF3, "o"), (0xF4, "o"), (0xF5, "o"), (0xF6, "o"),
  (0xF7, "/"), (0xF8, "o"), (0xF9, "u"), (0xFA, "u"), (0xFB, "u"), (0xFC, "u"), (0xFD, "y"),
  (0xFE, "th"), (0xFF, "y"), (0x100, "A"), (0x101, "a"), (0x102, "A"), (0x103, "a"),
  (0x104, "A"), (0x105, "a"), (0x106, "C"), (0x107, "c"), (0x108, "C"), (0x109, "c"),
  (0x10A, "C"), (0x10B, "c"), (0x10C, "C"), (0x10D, "c"), (0x10E, "D"), (0x10F, "d"),
  (0x110, "D"), (0x111, "d"), (0x112, "E"), (0x113, "e"), (0x114, "E"), (0x115, "e"),
  (0x116, "E"), (0x117, "e"), (0x118, "E"), (0x119, "e"), (0x11A, "E"), (0x11B, "e"),
  (0x11C, "G"), (0x11D, "g"), (0x11E, "G"), (0x11F, "g"), (0x120, "G"), (0x121, "g"),
  (0x122, "G"), (0x123, "g"), (0x124, "H"), (0x125, "h"), (0x126, "H"), (0x127, "h"),
  (0x128, "I"), (0x129, "i"), (0x12A, "I"), (0x12B, "i"), (0x12C, "I"), (0x12D, "i"),
  (0x12E, "I"), (0x12F, "i"), (0x130, "I"), (0x131, "i"), (0x132, "IJ"), (0x133, "ij"),
  (0x134, "J"), (0x135, "j"), (0x136, "K"), (0x137, "k"), (0x138, "k"), (0x139, "L"),
  (0x13A, "l"), (0x13B, "L"), (0x13C, "l"), (0x13D, "L"), (0x13E, "l"), (0x13F, "L*"),
  (0x140, "l*"), (0x141, "L"), (0x142, "l"), (0x143, "N"), (0x144, "n"), (0x145, "N"),
  (0x146, "n"), (0x147, "N"), (0x148, "n"), (0x149, "'n"), (0x14A, "ng"), (0x14B, "NG"),
  (0x14C, "O"), (0x14D, "o"), (0x14E, "O"), (0x14F, "o"), (0x150, "O"), (0x151, "o"),
  (0x152, "OE"), (0x153, "oe"), (0x154, "R"), (0x155, "r"), (0x156, "R"), (0x157, "r"),
  (0x158, "R"), (0x159, "r"), (0x15A, "S"), (0x15B, "s"), (0x15C, "S"), (0x15D, "s"),
  (0x15E, "S"), (0x15F, "s"), (0x160, "S"), (0x161, "s"), (0x162, "T"), (0x163, "t"),
  (0x164, "T"), (0x165, "t"), (0x166, "T"), (0x167, "t"), (0x168, "U"), (0x169, "u"),
  (0x16A, "U"), (0x16B, "u"), (0x16C, "U"), (0x16D, "u"), (0x16E, "U"), (0x16F, "u"),
  (0x170, "U"), (0x171, "u"), (0x172, "U"), (0x173, "u"), (0x174, "W"), (0x175, "w"),
  (0x176, "Y"), (0x177, "y"), (0x178, "Y"), (0x179, "Z"), (0x17A, "z"), (0x17B, "Z"),
  (0x17C, "z"), (0x17D, "Z"), (0x17E, "z"), (0x17F, "s"), (0x2010, "-"), (0x2011, "-"),
  (0x2012, "-"), (0x2013, "-"), (0x2014, "--"), (0x2015, "--"), (0x2016, "||"), (0x2017, " "),
  (0x2018, "'"), (0x2019, "'"), (0x201A, ","), (0x201B, "'"), (0x201C, "\""), (0x201D, "\""),
  (0x201E, ",,"), (0x201F, "\""), (0x2020, "+"), (0x2021, "++"), (0x2022, "*"), (0x2023, "*>"),
  (0x2024, "."), (0x2025, ".."), (0x2026, "..."), (0x2027, "."), (0x202A, ""), (0x202B, ""),
  (0x202C, ""), (0x202D, ""), (0x202E, ""), (0x202F, " "), (0x2030, "%0"), (0x2031, "%00"),
  (0x2032, "'"), (0x2033, "''"), (0x2034, "'''"), (0x2035, "`"), (0x2036, "``"),
  (0x2037, "```"), (0x2038, "^"), (0x2039, "<"), (0x203A, ">"), (0x203B, "*"), (0x203C, "!!"),
  (0x203D, "!?"), (0x203E, " "), (0x203F, "_"), (0x2040, "-"), (0x2041, "^"), (0x2042, "***"),
  (0x2043, "--"), (0x2044, "/"), (0x20AC, "EUR"), (0x2116, "No"), (0x2122, "TM")]

/-- The ASCII form of one character: ASCII is itself, other characters are looked up. -/
def asciiForm (c : Char) : List Char :=
  if c.toNat < 0x80 then [c] else ((asciiForms.lookup c.toNat).getD "").toList

/-- Text written in ASCII. -/
def transliterate (cs : List Char) : List Char := cs.flatMap asciiForm

example : transliterate ['Æ', '-', 'é'] = ['A', 'E', '-', 'e'] := by decide

end DocTemplate.Text
