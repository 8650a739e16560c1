/-!
# Compatibility decomposition

The characters beyond ASCII whose full compatibility decomposition (Unicode 14) holds an ASCII
character. Runs of styled letters and digits map to runs of plain ones; the others carry their text.
A character that is in neither table decomposes into characters beyond ASCII only.
-/

namespace DocTemplate.Text

/-- Runs of characters that decompose to one ASCII character each: first, last, image of first. -/
def plainRuns : List (Nat × Nat × Nat) := [
  (0xA0, 0xA0, 0x20), (0xAA, 0xAA, 0x61), (0xB2, 0xB3, 0x32), (0xB9, 0xB9, 0x31),
  (0xBA, 0xBA, 0x6F), (0x17F, 0x17F, 0x73), (0x2B0, 0x2B0, 0x68), (0x2B2, 0x2B2, 0x6A),
  (0x2B3, 0x2B3, 0x72), (0x2B7, 0x2B7, 0x77), (0x2B8, 0x2B8, 0x79), (0x2E1, 0x2E1, 0x6C),
  (0x2E2, 0x2E2, 0x73), (0x2E3, 0x2E3, 0x78), (0x37E, 0x37E, 0x3B), (0x1D2C, 0x1D2C, 0x41),
  (0x1D2E, 0x1D2E, 0x42), (0x1D30, 0x1D31, 0x44), (0x1D33, 0x1D3A, 0x47),
  (0x1D3C, 0x1D3C, 0x4F), (0x1D3E, 0x1D3E, 0x50), (0x1D3F, 0x1D3F, 0x52),
  (0x1D40, 0x1D41, 0x54), (0x1D42, 0x1D42, 0x57), (0x1D43, 0x1D43, 0x61),
  (0x1D47, 0x1D47, 0x62), (0x1D48, 0x1D49, 0x64), (0x1D4D, 0x1D4D, 0x67),
  (0x1D4F, 0x1D4F, 0x6B), (0x1D50, 0x1D50, 0x6D), (0x1D52, 0x1D52, 0x6F),
  (0x1D56, 0x1D56, 0x70), (0x1D57, 0x1D58, 0x74), (0x1D5B, 0x1D5B, 0x76),
  (0x1D62, 0x1D62, 0x69), (0x1D63, 0x1D63, 0x72), (0x1D64, 0x1D65, 0x75),
  (0x1D9C, 0x1D9C, 0x63), (0x1DA0, 0x1DA0, 0x66), (0x1DBB, 0x1DBB, 0x7A),
  (0x1FEF, 0x1FEF, 0x60), (0x2000, 0x2000, 0x20), (0x2001, 0x2001, 0x20),
  (0x2002, 0x2002, 0x20), (0x2003, 0x2003, 0x20), (0x2004, 0x2004, 0x20),
  (0x2005, 0x2005, 0x20), (0x2006, 0x2006, 0x20), (0x2007, 0x2007, 0x20),
  (0x2008, 0x2008, 0x20), (0x2009, 0x2009, 0x20), (0x200A, 0x200A, 0x20),
  (0x2024, 0x2024, 0x2E), (0x202F, 0x202F, 0x20), (0x205F, 0x205F, 0x20),
  (0x2070, 0x2070, 0x30), (0x2071, 0x2071, 0x69), (0x2074, 0x2079, 0x34),
  (0x207A, 0x207A, 0x2B), (0x207C, 0x207C, 0x3D), (0x207D, 0x207E, 0x28),
  (0x207F, 0x207F, 0x6E), (0x2080, 0x2089, 0x30), (0x208A, 0x208A, 0x2B),
  (0x208C, 0x208C, 0x3D), (0x208D, 0x208E, 0x28), (0x2090, 0x2090, 0x61),
  (0x2091, 0x2091, 0x65), (0x2092, 0x2092, 0x6F), (0x2093, 0x2093, 0x78),
  (0x2095, 0x2095, 0x68), (0x2096, 0x2099, 0x6B), (0x209A, 0x209A, 0x70),
  (0x209B, 0x209C, 0x73), (0x2102, 0x2102, 0x43), (0x210A, 0x210A, 0x67),
  (0x210B, 0x210B, 0x48), (0x210C, 0x210C, 0x48), (0x210D, 0x210D, 0x48),
  (0x210E, 0x210E, 0x68), (0x2110, 0x2110, 0x49), (0x2111, 0x2111, 0x49),
  (0x2112, 0x2112, 0x4C), (0x2113, 0x2113, 0x6C), (0x2115, 0x2115, 0x4E),
  (0x2119, 0x211B, 0x50), (0x211C, 0x211C, 0x52), (0x211D, 0x211D, 0x52),
  (0x2124, 0x2124, 0x5A), (0x2128, 0x2128, 0x5A), (0x212A, 0x212A, 0x4B),
  (0x212C, 0x212D, 0x42), (0x212F, 0x212F, 0x65), (0x2130, 0x2131, 0x45),
  (0x2133, 0x2133, 0x4D), (0x2134, 0x2134, 0x6F), (0x2139, 0x2139, 0x69),
  (0x2145, 0x2145, 0x44), (0x2146, 0x2147, 0x64), (0x2148, 0x2149, 0x69),
  (0x2160, 0x2160, 0x49), (0x2164, 0x2164, 0x56), (0x2169, 0x2169, 0x58),
  (0x216C, 0x216C, 0x4C), (0x216D, 0x216E, 0x43), (0x216F, 0x216F, 0x4D),
  (0x2170, 0x2170, 0x69), (0x2174, 0x2174, 0x76), (0x2179, 0x2179, 0x78),
  (0x217C, 0x217C, 0x6C), (0x217D, 0x217E, 0x63), (0x217F, 0x217F, 0x6D),
  (0x2460, 0x2468, 0x31), (0x24B6, 0x24CF, 0x41), (0x24D0, 0x24E9, 0x61),
  (0x24EA, 0x24EA, 0x30), (0x2C7C, 0x2C7C, 0x6A), (0x2C7D, 0x2C7D, 0x56),
  (0x3000, 0x3000, 0x20), (0xA7F2, 0xA7F2, 0x43), (0xA7F3, 0xA7F3, 0x46),
  (0xA7F4, 0xA7F4, 0x51), (0xFB29, 0xFB29, 0x2B), (0xFE10, 0xFE10, 0x2C),
  (0xFE13, 0xFE14, 0x3A), (0xFE15, 0xFE15, 0x21), (0xFE16, 0xFE16, 0x3F),
  (0xFE33, 0xFE33, 0x5F), (0xFE34, 0xFE34, 0x5F), (0xFE35, 0xFE36, 0x28),
  (0xFE37, 0xFE37, 0x7B), (0xFE38, 0xFE38, 0x7D), (0xFE47, 0xFE47, 0x5B),
  (0xFE48, 0xFE48, 0x5D), (0xFE4D, 0xFE4D, 0x5F), (0xFE4E, 0xFE4E, 0x5F),
  (0xFE4F, 0xFE4F, 0x5F), (0xFE50, 0xFE50, 0x2C), (0xFE52, 0xFE52, 0x2E),
  (0xFE54, 0xFE54, 0x3B), (0xFE55, 0xFE55, 0x3A), (0xFE56, 0xFE56, 0x3F),
  (0xFE57, 0xFE57, 0x21), (0xFE59, 0xFE5A, 0x28), (0xFE5B, 0xFE5B, 0x7B),
  (0xFE5C, 0xFE5C, 0x7D), (0xFE5F, 0xFE5F, 0x23), (0xFE60, 0xFE60, 0x26),
  (0xFE61, 0xFE62, 0x2A), (0xFE63, 0xFE63, 0x2D), (0xFE64, 0xFE64, 0x3C),
  (0xFE65, 0xFE65, 0x3E), (0xFE66, 0xFE66, 0x3D), (0xFE68, 0xFE68, 0x5C),
  (0xFE69, 0xFE6A, 0x24), (0xFE6B, 0xFE6B, 0x40), (0xFF01, 0xFF5E, 0x21),
  (0x107A5, 0x107A5, 0x71), (0x1D400, 0x1D419, 0x41), (0x1D41A, 0x1D433, 0x61),
  (0x1D434, 0x1D44D, 0x41), (0x1D44E, 0x1D454, 0x61), (0x1D456, 0x1D467, 0x69),
  (0x1D468, 0x1D481, 0x41), (0x1D482, 0x1D49B, 0x61), (0x1D49C, 0x1D49C, 0x41),
  (0x1D49E, 0x1D49F, 0x43), (0x1D4A2, 0x1D4A2, 0x47), (0x1D4A5, 0x1D4A6, 0x4A),
  (0x1D4A9, 0x1D4AC, 0x4E), (0x1D4AE, 0x1D4B5, 0x53), (0x1D4B6, 0x1D4B9, 0x61),
  (0x1D4BB, 0x1D4BB, 0x66), (0x1D4BD, 0x1D4C3, 0x68), (0x1D4C5, 0x1D4CF, 0x70),
  (0x1D4D0, 0x1D4E9, 0x41), (0x1D4EA, 0x1D503, 0x61), (0x1D504, 0x1D505, 0x41),
  (0x1D507, 0x1D50A, 0x44), (0x1D50D, 0x1D514, 0x4A), (0x1D516, 0x1D51C, 0x53),
  (0x1D51E, 0x1D537, 0x61), (0x1D538, 0x1D539, 0x41), (0x1D53B, 0x1D53E, 0x44),
  (0x1D540, 0x1D544, 0x49), (0x1D546, 0x1D546, 0x4F), (0x1D54A, 0x1D550, 0x53),
  (0x1D552, 0x1D56B, 0x61), (0x1D56C, 0x1D585, 0x41), (0x1D586, 0x1D59F, 0x61),
  (0x1D5A0, 0x1D5B9, 0x41), (0x1D5BA, 0x1D5D3, 0x61), (0x1D5D4, 0x1D5ED, 0x41),
  (0x1D5EE, 0x1D607, 0x61), (0x1D608, 0x1D621, 0x41), (0x1D622, 0x1D63B, 0x61),
  (0x1D63C, 0x1D655, 0x41), (0x1D656, 0x1D66F, 0x61), (0x1D670, 0x1D689, 0x41),
  (0x1D68A, 0x1D6A3, 0x61), (0x1D7CE, 0x1D7D7, 0x30), (0x1D7D8, 0x1D7E1, 0x30),
  (0x1D7E2, 0x1D7EB, 0x30), (0x1D7EC, 0x1D7F5, 0x30), (0x1D7F6, 0x1D7FF, 0x30),
  (0x1F12B, 0x1F12B, 0x43), (0x1F12C, 0x1F12C, 0x52), (0x1F130, 0x1F149, 0x41),
  (0x1FBF0, 0x1FBF9, 0x30)]

/-- Characters that decompose to more than one character. -/
def decompositions : List (Nat × String) := [
  (0xA8, " \u0308"), (0xAF, " \u0304"), (0xB4, " \u0301"), (0xB8, " \u0327"),
  (0xBC, "1\u20444"), (0xBD, "1\u20442"), (0xBE, "3\u20444"), (0xC0, "A\u0300"),
  (0xC1, "A\u0301"), (0xC2, "A\u0302"), (0xC3, "A\u0303"), (0xC4, "A\u0308"),
  (0xC5, "A\u030a"), (0xC7, "C\u0327"), (0xC8, "E\u0300"), (0xC9, "E\u0301"),
  (0xCA, "E\u0302"), (0xCB, "E\u0308"), (0xCC, "I\u0300"), (0xCD, "I\u0301"),
  (0xCE, "I\u0302"), (0xCF, "I\u0308"), (0xD1, "N\u0303"), (0xD2, "O\u0300"),
  (0xD3, "O\u0301"), (0xD4, "O\u0302"), (0xD5, "O\u0303"), (0xD6, "O\u0308"),
  (0xD9, "U\u0300"), (0xDA, "U\u0301"), (0xDB, "U\u0302"), (0xDC, "U\u0308"),
  (0xDD, "Y\u0301"), (0xE0, "a\u0300"), (0xE1, "a\u0301"), (0xE2, "a\u0302"),
  (0xE3, "a\u0303"), (0xE4, "a\u0308"), (0xE5, "a\u030a"), (0xE7, "c\u0327"),
  (0xE8, "e\u0300"), (0xE9, "e\u0301"), (0xEA, "e\u0302"), (0xEB, "e\u0308"),
  (0xEC, "i\u0300"), (0xED, "i\u0301"), (0xEE, "i\u0302"), (0xEF, "i\u0308"),
  (0xF1, "n\u0303"), (0xF2, "o\u0300"), (0xF3, "o\u0301"), (0xF4, "o\u0302"),
  (0xF5, "o\u0303"), (0xF6, "o\u0308"), (0xF9, "u\u0300"), (0xFA, "u\u0301"),
  (0xFB, "u\u0302"), (0xFC, "u\u0308"), (0xFD, "y\u0301"), (0xFF, "y\u0308"),
  (0x100, "A\u0304"), (0x101, "a\u0304"), (0x102, "A\u0306"), (0x103, "a\u0306"),
  (0x104, "A\u0328"), (0x105, "a\u0328"), (0x106, "C\u0301"), (0x107, "c\u0301"),
  (0x108, "C\u0302"), (0x109, "c\u0302"), (0x10A, "C\u0307"), (0x10B, "c\u0307"),
  (0x10C, "C\u030c"), (0x10D, "c\u030c"), (0x10E, "D\u030c"), (0x10F, "d\u030c"),
  (0x112, "E\u0304"), (0x113, "e\u0304"), (0x114, "E\u0306"), (0x115, "e\u0306"),
  (0x116, "E\u0307"), (0x117, "e\u0307"), (0x118, "E\u0328"), (0x119, "e\u0328"),
  (0x11A, "E\u030c"), (0x11B, "e\u030c"), (0x11C, "G\u0302"), (0x11D, "g\u0302"),
  (0x11E, "G\u0306"), (0x11F, "g\u0306"), (0x120, "G\u0307"), (0x121, "g\u0307"),
  (0x122, "G\u0327"), (0x123, "g\u0327"), (0x124, "H\u0302"), (0x125, "h\u0302"),
  (0x128, "I\u0303"), (0x129, "i\u0303"), (0x12A, "I\u0304"), (0x12B, "i\u0304"),
  (0x12C, "I\u0306"), (0x12D, "i\u0306"), (0x12E, "I\u0328"), (0x12F, "i\u0328"),
  (0x130, "I\u0307"), (0x132, "IJ"), (0x133, "ij"), (0x134, "J\u0302"), (0x135, "j\u0302"),
  (0x136, "K\u0327"), (0x137, "k\u0327"), (0x139, "L\u0301"), (0x13A, "l\u0301"),
  (0x13B, "L\u0327"), (0x13C, "l\u0327"), (0x13D, "L\u030c"), (0x13E, "l\u030c"),
  (0x13F, "L\u00b7"), (0x140, "l\u00b7"), (0x143, "N\u0301"), (0x144, "n\u0301"),
  (0x145, "N\u0327"), (0x146, "n\u0327"), (0x147, "N\u030c"), (0x148, "n\u030c"),
  (0x149, "\u02bcn"), (0x14C, "O\u0304"), (0x14D, "o\u0304"), (0x14E, "O\u0306"),
  (0x14F, "o\u0306"), (0x150, "O\u030b"), (0x151, "o\u030b"), (0x154, "R\u0301"),
  (0x155, "r\u0301"), (0x156, "R\u0327"), (0x157, "r\u0327"), (0x158, "R\u030c"),
  (0x159, "r\u030c"), (0x15A, "S\u0301"), (0x15B, "s\u0301"), (0x15C, "S\u0302"),
  (0x15D, "s\u0302"), (0x15E, "S\u0327"), (0x15F, "s\u0327"), (0x160, "S\u030c"),
  (0x161, "s\u030c"), (0x162, "T\u0327"), (0x163, "t\u0327"), (0x164, "T\u030c"),
  (0x165, "t\u030c"), (0x168, "U\u0303"), (0x169, "u\u0303"), (0x16A, "U\u0304"),
  (0x16B, "u\u0304"), (0x16C, "U\u0306"), (0x16D, "u\u0306"), (0x16E, "U\u030a"),
  (0x16F, "u\u030a"), (0x170, "U\u030b"), (0x171, "u\u030b"), (0x172, "U\u0328"),
  (0x173, "u\u0328"), (0x174, "W\u0302"), (0x175, "w\u0302"), (0x176, "Y\u0302"),
  (0x177, "y\u0302"), (0x178, "Y\u0308"), (0x179, "Z\u0301"), (0x17A, "z\u0301"),
  (0x17B, "Z\u0307"), (0x17C, "z\u0307"), (0x17D, "Z\u030c"), (0x17E, "z\u030c"),
  (0x1A0, "O\u031b"), (0x1A1, "o\u031b"), (0x1AF, "U\u031b"), (0x1B0, "u\u031b"),
  (0x1C4, "DZ\u030c"), (0x1C5, "Dz\u030c"), (0x1C6, "dz\u030c"), (0x1C7, "LJ"), (0x1C8, "Lj"),
  (0x1C9, "lj"), (0x1CA, "NJ"), (0x1CB, "Nj"), (0x1CC, "nj"), (0x1CD, "A\u030c"),
  (0x1CE, "a\u030c"), (0x1CF, "I\u030c"), (0x1D0, "i\u030c"), (0x1D1, "O\u030c"),
  (0x1D2, "o\u030c"), (0x1D3, "U\u030c"), (0x1D4, "u\u030c"), (0x1D5, "U\u0308\u0304"),
  (0x1D6, "u\u0308\u0304"), (0x1D7, "U\u0308\u0301"), (0x1D8, "u\u0308\u0301"),
  (0x1D9, "U\u0308\u030c"), (0x1DA, "u\u0308\u030c"), (0x1DB, "U\u0308\u0300"),
  (0x1DC, "u\u0308\u0300"), (0x1DE, "A\u0308\u0304"), (0x1DF, "a\u0308\u0304"),
  (0x1E0, "A\u0307\u0304"), (0x1E1, "a\u0307\u0304"), (0x1E6, "G\u030c"), (0x1E7, "g\u030c"),
  (0x1E8, "K\u030c"), (0x1E9, "k\u030c"), (0x1EA, "O\u0328"), (0x1EB, "o\u0328"),
  (0x1EC, "O\u0328\u0304"), (0x1ED, "o\u0328\u0304"), (0x1F0, "j\u030c"), (0x1F1, "DZ"),
  (0x1F2, "Dz"), (0x1F3, "dz"), (0x1F4, "G\u0301"), (0x1F5, "g\u0301"), (0x1F8, "N\u0300"),
  (0x1F9, "n\u0300"), (0x1FA, "A\u030a\u0301"), (0x1FB, "a\u030a\u0301"), (0x200, "A\u030f"),
  (0x201, "a\u030f"), (0x202, "A\u0311"), (0x203, "a\u0311"), (0x204, "E\u030f"),
  (0x205, "e\u030f"), (0x206, "E\u0311"), (0x207, "e\u0311"), (0x208, "I\u030f"),
  (0x209, "i\u030f"), (0x20A, "I\u0311"), (0x20B, "i\u0311"), (0x20C, "O\u030f"),
  (0x20D, "o\u030f"), (0x20E, "O\u0311"), (0x20F, "o\u0311"), (0x210, "R\u030f"),
  (0x211, "r\u030f"), (0x212, "R\u0311"), (0x213, "r\u0311"), (0x214, "U\u030f"),
  (0x215, "u\u030f"), (0x216, "U\u0311"), (0x217, "u\u0311"), (0x218, "S\u0326"),
  (0x219, "s\u0326"), (0x21A, "T\u0326"), (0x21B, "t\u0326"), (0x21E, "H\u030c"),
  (0x21F, "h\u030c"), (0x226, "A\u0307"), (0x227, "a\u0307"), (0x228, "E\u0327"),
  (0x229, "e\u0327"), (0x22A, "O\u0308\u0304"), (0x22B, "o\u0308\u0304"),
  (0x22C, "O\u0303\u0304"), (0x22D, "o\u0303\u0304"), (0x22E, "O\u0307"), (0x22F, "o\u0307"),
  (0x230, "O\u0307\u0304"), (0x231, "o\u0307\u0304"), (0x232, "Y\u0304"), (0x233, "y\u0304"),
  (0x2D8, " \u0306"), (0x2D9, " \u0307"), (0x2DA, " \u030a"), (0x2DB, " \u0328"),
  (0x2DC, " \u0303"), (0x2DD, " \u030b"), (0x37A, " \u0345"), (0x384, " \u0301"),
  (0x385, " \u0308\u0301"), (0x1E00, "A\u0325"), (0x1E01, "a\u0325"), (0x1E02, "B\u0307"),
  (0x1E03, "b\u0307"), (0x1E04, "B\u0323"), (0x1E05, "b\u0323"), (0x1E06, "B\u0331"),
  (0x1E07, "b\u0331"), (0x1E08, "C\u0327\u0301"), (0x1E09, "c\u0327\u0301"),
  (0x1E0A, "D\u0307"), (0x1E0B, "d\u0307"), (0x1E0C, "D\u0323"), (0x1E0D, "d\u0323"),
  (0x1E0E, "D\u0331"), (0x1E0F, "d\u0331"), (0x1E10, "D\u0327"), (0x1E11, "d\u0327"),
  (0x1E12, "D\u032d"), (0x1E13, "d\u032d"), (0x1E14, "E\u0304\u0300"),
  (0x1E15, "e\u0304\u0300"), (0x1E16, "E\u0304\u0301"), (0x1E17, "e\u0304\u0301"),
  (0x1E18, "E\u032d"), (0x1E19, "e\u032d"), (0x1E1A, "E\u0330"), (0x1E1B, "e\u0330"),
  (0x1E1C, "E\u0327\u0306"), (0x1E1D, "e\u0327\u0306"), (0x1E1E, "F\u0307"),
  (0x1E1F, "f\u0307"), (0x1E20, "G\u0304"), (0x1E21, "g\u0304"), (0x1E22, "H\u0307"),
  (0x1E23, "h\u0307"), (0x1E24, "H\u0323"), (0x1E25, "h\u0323"), (0x1E26, "H\u0308"),
  (0x1E27, "h\u0308"), (0x1E28, "H\u0327"), (0x1E29, "h\u0327"), (0x1E2A, "H\u032e"),
  (0x1E2B, "h\u032e"), (0x1E2C, "I\u0330"), (0x1E2D, "i\u0330"), (0x1E2E, "I\u0308\u0301"),
  (0x1E2F, "i\u0308\u0301"), (0x1E30, "K\u0301"), (0x1E31, "k\u0301"), (0x1E32, "K\u0323"),
  (0x1E33, "k\u0323"), (0x1E34, "K\u0331"), (0x1E35, "k\u0331"), (0x1E36, "L\u0323"),
  (0x1E37, "l\u0323"), (0x1E38, "L\u0323\u0304"), (0x1E39, "l\u0323\u0304"),
  (0x1E3A, "L\u0331"), (0x1E3B, "l\u0331"), (0x1E3C, "L\u032d"), (0x1E3D, "l\u032d"),
  (0x1E3E, "M\u0301"), (0x1E3F, "m\u0301"), (0x1E40, "M\u0307"), (0x1E41, "m\u0307"),
  (0x1E42, "M\u0323"), (0x1E43, "m\u0323"), (0x1E44, "N\u0307"), (0x1E45, "n\u0307"),
  (0x1E46, "N\u0323"), (0x1E47, "n\u0323"), (0x1E48, "N\u0331"), (0x1E49, "n\u0331"),
  (0x1E4A, "N\u032d"), (0x1E4B, "n\u032d"), (0x1E4C, "O\u0303\u0301"),
  (0x1E4D, "o\u0303\u0301"), (0x1E4E, "O\u0303\u0308"), (0x1E4F, "o\u0303\u0308"),
  (0x1E50, "O\u0304\u0300"), (0x1E51, "o\u0304\u0300"), (0x1E52, "O\u0304\u0301"),
  (0x1E53, "o\u0304\u0301"), (0x1E54, "P\u0301"), (0x1E55, "p\u0301"), (0x1E56, "P\u0307"),
  (0x1E57, "p\u0307"), (0x1E58, "R\u0307"), (0x1E59, "r\u0307"), (0x1E5A, "R\u0323"),
  (0x1E5B, "r\u0323"), (0x1E5C, "R\u0323\u0304"), (0x1E5D, "r\u0323\u0304"),
  (0x1E5E, "R\u0331"), (0x1E5F, "r\u0331"), (0x1E60, "S\u0307"), (0x1E61, "s\u0307"),
  (0x1E62, "S\u0323"), (0x1E63, "s\u0323"), (0x1E64, "S\u0301\u0307"),
  (0x1E65, "s\u0301\u0307"), (0x1E66, "S\u030c\u0307"), (0x1E67, "s\u030c\u0307"),
  (0x1E68, "S\u0323\u0307"), (0x1E69, "s\u0323\u0307"), (0x1E6A, "T\u0307"),
  (0x1E6B, "t\u0307"), (0x1E6C, "T\u0323"), (0x1E6D, "t\u0323"), (0x1E6E, "T\u0331"),
  (0x1E6F, "t\u0331"), (0x1E70, "T\u032d"), (0x1E71, "t\u032d"), (0x1E72, "U\u0324"),
  (0x1E73, "u\u0324"), (0x1E74, "U\u0330"), (0x1E75, "u\u0330"), (0x1E76, "U\u032d"),
  (0x1E77, "u\u032d"), (0x1E78, "U\u0303\u0301"), (0x1E79, "u\u0303\u0301"),
  (0x1E7A, "U\u0304\u0308"), (0x1E7B, "u\u0304\u0308"), (0x1E7C, "V\u0303"),
  (0x1E7D, "v\u0303"), (0x1E7E, "V\u0323"), (0x1E7F, "v\u0323"), (0x1E80, "W\u0300"),
  (0x1E81, "w\u0300"), (0x1E82, "W\u0301"), (0x1E83, "w\u0301"), (0x1E84, "W\u0308"),
  (0x1E85, "w\u0308"), (0x1E86, "W\u0307"), (0x1E87, "w\u0307"), (0x1E88, "W\u0323"),
  (0x1E89, "w\u0323"), (0x1E8A, "X\u0307"), (0x1E8B, "x\u0307"), (0x1E8C, "X\u0308"),
  (0x1E8D, "x\u0308"), (0x1E8E, "Y\u0307"), (0x1E8F, "y\u0307"), (0x1E90, "Z\u0302"),
  (0x1E91, "z\u0302"), (0x1E92, "Z\u0323"), (0x1E93, "z\u0323"), (0x1E94, "Z\u0331"),
  (0x1E95, "z\u0331"), (0x1E96, "h\u0331"), (0x1E97, "t\u0308"), (0x1E98, "w\u030a"),
  (0x1E99, "y\u030a"), (0x1E9A, "a\u02be"), (0x1E9B, "s\u0307"), (0x1EA0, "A\u0323"),
  (0x1EA1, "a\u0323"), (0x1EA2, "A\u0309"), (0x1EA3, "a\u0309"), (0x1EA4, "A\u0302\u0301"),
  (0x1EA5, "a\u0302\u0301"), (0x1EA6, "A\u0302\u0300"), (0x1EA7, "a\u0302\u0300"),
  (0x1EA8, "A\u0302\u0309"), (0x1EA9, "a\u0302\u0309"), (0x1EAA, "A\u0302\u0303"),
  (0x1EAB, "a\u0302\u0303"), (0x1EAC, "A\u0323\u0302"), (0x1EAD, "a\u0323\u0302"),
  (0x1EAE, "A\u0306\u0301"), (0x1EAF, "a\u0306\u0301"), (0x1EB0, "A\u0306\u0300"),
  (0x1EB1, "a\u0306\u0300"), (0x1EB2, "A\u0306\u0309"), (0x1EB3, "a\u0306\u0309"),
  (0x1EB4, "A\u0306\u0303"), (0x1EB5, "a\u0306\u0303"), (0x1EB6, "A\u0323\u0306"),
  (0x1EB7, "a\u0323\u0306"), (0x1EB8, "E\u0323"), (0x1EB9, "e\u0323"), (0x1EBA, "E\u0309"),
  (0x1EBB, "e\u0309"), (0x1EBC, "E\u0303"), (0x1EBD, "e\u0303"), (0x1EBE, "E\u0302\u0301"),
  (0x1EBF, "e\u0302\u0301"), (0x1EC0, "E\u0302\u0300"), (0x1EC1, "e\u0302\u0300"),
  (0x1EC2, "E\u0302\u0309"), (0x1EC3, "e\u0302\u0309"), (0x1EC4, "E\u0302\u0303"),
  (0x1EC5, "e\u0302\u0303"), (0x1EC6, "E\u0323\u0302"), (0x1EC7, "e\u0323\u0302"),
  (0x1EC8, "I\u0309"), (0x1EC9, "i\u0309"), (0x1ECA, "I\u0323"), (0x1ECB, "i\u0323"),
  (0x1ECC, "O\u0323"), (0x1ECD, "o\u0323"), (0x1ECE, "O\u0309"), (0x1ECF, "o\u0309"),
  (0x1ED0, "O\u0302\u0301"), (0x1ED1, "o\u0302\u0301"), (0x1ED2, "O\u0302\u0300"),
  (0x1ED3, "o\u0302\u0300"), (0x1ED4, "O\u0302\u0309"), (0x1ED5, "o\u0302\u0309"),
  (0x1ED6, "O\u0302\u0303"), (0x1ED7, "o\u0302\u0303"), (0x1ED8, "O\u0323\u0302"),
  (0x1ED9, "o\u0323\u0302"), (0x1EDA, "O\u031b\u0301"), (0x1EDB, "o\u031b\u0301"),
  (0x1EDC, "O\u031b\u0300"), (0x1EDD, "o\u031b\u0300"), (0x1EDE, "O\u031b\u0309"),
  (0x1EDF, "o\u031b\u0309"), (0x1EE0, "O\u031b\u0303"), (0x1EE1, "o\u031b\u0303"),
  (0x1EE2, "O\u031b\u0323"), (0x1EE3, "o\u031b\u0323"), (0x1EE4, "U\u0323"),
  (0x1EE5, "u\u0323"), (0x1EE6, "U\u0309"), (0x1EE7, "u\u0309"), (0x1EE8, "U\u031b\u0301"),
  (0x1EE9, "u\u031b\u0301"), (0x1EEA, "U\u031b\u0300"), (0x1EEB, "u\u031b\u0300"),
  (0x1EEC, "U\u031b\u0309"), (0x1EED, "u\u031b\u0309"), (0x1EEE, "U\u031b\u0303"),
  (0x1EEF, "u\u031b\u0303"), (0x1EF0, "U\u031b\u0323"), (0x1EF1, "u\u031b\u0323"),
  (0x1EF2, "Y\u0300"), (0x1EF3, "y\u0300"), (0x1EF4, "Y\u0323"), (0x1EF5, "y\u0323"),
  (0x1EF6, "Y\u0309"), (0x1EF7, "y\u0309"), (0x1EF8, "Y\u0303"), (0x1EF9, "y\u0303"),
  (0x1FBD, " \u0313"), (0x1FBF, " \u0313"), (0x1FC0, " \u0342"), (0x1FC1, " \u0308\u0342"),
  (0x1FCD, " \u0313\u0300"), (0x1FCE, " \u0313\u0301"), (0x1FCF, " \u0313\u0342"),
  (0x1FDD, " \u0314\u0300"), (0x1FDE, " \u0314\u0301"), (0x1FDF, " \u0314\u0342"),
  (0x1FED, " \u0308\u0300"), (0x1FEE, " \u0308\u0301"), (0x1FFD, " \u0301"),
  (0x1FFE, " \u0314"), (0x2017, " \u0333"), (0x2025, ".."), (0x2026, "..."), (0x203C, "!!"),
  (0x203E, " \u0305"), (0x2047, "??"), (0x2048, "?!"), (0x2049, "!?"), (0x20A8, "Rs"),
  (0x2100, "a/c"), (0x2101, "a/s"), (0x2103, "\u00b0C"), (0x2105, "c/o"), (0x2106, "c/u"),
  (0x2109, "\u00b0F"), (0x2116, "No"), (0x2120, "SM"), (0x2121, "TEL"), (0x2122, "TM"),
  (0x212B, "A\u030a"), (0x213B, "FAX"), (0x2150, "1\u20447"), (0x2151, "1\u20449"),
  (0x2152, "1\u204410"), (0x2153, "1\u20443"), (0x2154, "2\u20443"), (0x2155, "1\u20445"),
  (0x2156, "2\u20445"), (0x2157, "3\u20445"), (0x2158, "4\u20445"), (0x2159, "1\u20446"),
  (0x215A, "5\u20446"), (0x215B, "1\u20448"), (0x215C, "3\u20448"), (0x215D, "5\u20448"),
  (0x215E, "7\u20448"), (0x215F, "1\u2044"), (0x2161, "II"), (0x2162, "III"), (0x2163, "IV"),
  (0x2165, "VI"), (0x2166, "VII"), (0x2167, "VIII"), (0x2168, "IX"), (0x216A, "XI"),
  (0x216B, "XII"), (0x2171, "ii"), (0x2172, "iii"), (0x2173, "iv"), (0x2175, "vi"),
  (0x2176, "vii"), (0x2177, "viii"), (0x2178, "ix"), (0x217A, "xi"), (0x217B, "xii"),
  (0x2189, "0\u20443"), (0x2260, "=\u0338"), (0x226E, "<\u0338"), (0x226F, ">\u0338"),
  (0x2469, "10"), (0x246A, "11"), (0x246B, "12"), (0x246C, "13"), (0x246D, "14"),
  (0x246E, "15"), (0x246F, "16"), (0x2470, "17"), (0x2471, "18"), (0x2472, "19"),
  (0x2473, "20"), (0x2474, "(1)"), (0x2475, "(2)"), (0x2476, "(3)"), (0x2477, "(4)"),
  (0x2478, "(5)"), (0x2479, "(6)"), (0x247A, "(7)"), (0x247B, "(8)"), (0x247C, "(9)"),
  (0x247D, "(10)"), (0x247E, "(11)"), (0x247F, "(12)"), (0x2480, "(13)"), (0x2481, "(14)"),
  (0x2482, "(15)"), (0x2483, "(16)"), (0x2484, "(17)"), (0x2485, "(18)"), (0x2486, "(19)"),
  (0x2487, "(20)"), (0x2488, "1."), (0x2489, "2."), (0x248A, "3."), (0x248B, "4."),
  (0x248C, "5."), (0x248D, "6."), (0x248E, "7."), (0x248F, "8."), (0x2490, "9."),
  (0x2491, "10."), (0x2492, "11."), (0x2493, "12."), (0x2494, "13."), (0x2495, "14."),
  (0x2496, "15."), (0x2497, "16."), (0x2498, "17."), (0x2499, "18."), (0x249A, "19."),
  (0x249B, "20."), (0x249C, "(a)"), (0x249D, "(b)"), (0x249E, "(c)"), (0x249F, "(d)"),
  (0x24A0, "(e)"), (0x24A1, "(f)"), (0x24A2, "(g)"), (0x24A3, "(h)"), (0x24A4, "(i)"),
  (0x24A5, "(j)"), (0x24A6, "(k)"), (0x24A7, "(l)"), (0x24A8, "(m)"), (0x24A9, "(n)"),
  (0x24AA, "(o)"), (0x24AB, "(p)"), (0x24AC, "(q)"), (0x24AD, "(r)"), (0x24AE, "(s)"),
  (0x24AF, "(t)"), (0x24B0, "(u)"), (0x24B1, "(v)"), (0x24B2, "(w)"), (0x24B3, "(x)"),
  (0x24B4, "(y)"), (0x24B5, "(z)"), (0x2A74, "::="), (0x2A75, "=="), (0x2A76, "==="),
  (0x309B, " \u3099"), (0x309C, " \u309a"), (0x3200, "(\u1100)"), (0x3201, "(\u1102)"),
  (0x3202, "(\u1103)"), (0x3203, "(\u1105)"), (0x3204, "(\u1106)"), (0x3205, "(\u1107)"),
  (0x3206, "(\u1109)"), (0x3207, "(\u110b)"), (0x3208, "(\u110c)"), (0x3209, "(\u110e)"),
  (0x320A, "(\u110f)"), (0x320B, "(\u1110)"), (0x320C, "(\u1111)"), (0x320D, "(\u1112)"),
  (0x320E, "(\u1100\u1161)"), (0x320F, "(\u1102\u1161)"), (0x3210, "(\u1103\u1161)"),
  (0x3211, "(\u1105\u1161)"), (0x3212, "(\u1106\u1161)"), (0x3213, "(\u1107\u1161)"),
  (0x3214, "(\u1109\u1161)"), (0x3215, "(\u110b\u1161)"), (0x3216, "(\u110c\u1161)"),
  (0x3217, "(\u110e\u1161)"), (0x3218, "(\u110f\u1161)"), (0x3219, "(\u1110\u1161)"),
  (0x321A, "(\u1111\u1161)"), (0x321B, "(\u1112\u1161)"), (0x321C, "(\u110c\u116e)"),
  (0x321D, "(\u110b\u1169\u110c\u1165\u11ab)"), (0x321E, "(\u110b\u1169\u1112\u116e)"),
  (0x3220, "(\u4e00)"), (0x3221, "(\u4e8c)"), (0x3222, "(\u4e09)"), (0x3223, "(\u56db)"),
  (0x3224, "(\u4e94)"), (0x3225, "(\u516d)"), (0x3226, "(\u4e03)"), (0x3227, "(\u516b)"),
  (0x3228, "(\u4e5d)"), (0x3229, "(\u5341)"), (0x322A, "(\u6708)"), (0x322B, "(\u706b)"),
  (0x322C, "(\u6c34)"), (0x322D, "(\u6728)"), (0x322E, "(\u91d1)"), (0x322F, "(\u571f)"),
  (0x3230, "(\u65e5)"), (0x3231, "(\u682a)"), (0x3232, "(\u6709)"), (0x3233, "(\u793e)"),
  (0x3234, "(\u540d)"), (0x3235, "(\u7279)"), (0x3236, "(\u8ca1)"), (0x3237, "(\u795d)"),
  (0x3238, "(\u52b4)"), (0x3239, "(\u4ee3)"), (0x323A, "(\u547c)"), (0x323B, "(\u5b66)"),
  (0x323C, "(\u76e3)"), (0x323D, "(\u4f01)"), (0x323E, "(\u8cc7)"), (0x323F, "(\u5354)"),
  (0x3240, "(\u796d)"), (0x3241, "(\u4f11)"), (0x3242, "(\u81ea)"), (0x3243, "(\u81f3)"),
  (0x3250, "PTE"), (0x3251, "21"), (0x3252, "22"), (0x3253, "23"), (0x3254, "24"),
  (0x3255, "25"), (0x3256, "26"), (0x3257, "27"), (0x3258, "28"), (0x3259, "29"),
  (0x325A, "30"), (0x325B, "31"), (0x325C, "32"), (0x325D, "33"), (0x325E, "34"),
  (0x325F, "35"), (0x32B1, "36"), (0x32B2, "37"), (0x32B3, "38"), (0x32B4, "39"),
  (0x32B5, "40"), (0x32B6, "41"), (0x32B7, "42"), (0x32B8, "43"), (0x32B9, "44"),
  (0x32BA, "45"), (0x32BB, "46"), (0x32BC, "47"), (0x32BD, "48"), (0x32BE, "49"),
  (0x32BF, "50"), (0x32C0, "1\u6708"), (0x32C1, "2\u6708"), (0x32C2, "3\u6708"),
  (0x32C3, "4\u6708"), (0x32C4, "5\u6708"), (0x32C5, "6\u6708"), (0x32C6, "7\u6708"),
  (0x32C7, "8\u6708"), (0x32C8, "9\u6708"), (0x32C9, "10\u6708"), (0x32CA, "11\u6708"),
  (0x32CB, "12\u6708"), (0x32CC, "Hg"), (0x32CD, "erg"), (0x32CE, "eV"), (0x32CF, "LTD"),
  (0x3358, "0\u70b9"), (0x3359, "1\u70b9"), (0x335A, "2\u70b9"), (0x335B, "3\u70b9"),
  (0x335C, "4\u70b9"), (0x335D, "5\u70b9"), (0x335E, "6\u70b9"), (0x335F, "7\u70b9"),
  (0x3360, "8\u70b9"), (0x3361, "9\u70b9"), (0x3362, "10\u70b9"), (0x3363, "11\u70b9"),
  (0x3364, "12\u70b9"), (0x3365, "13\u70b9"), (0x3366, "14\u70b9"), (0x3367, "15\u70b9"),
  (0x3368, "16\u70b9"), (0x3369, "17\u70b9"), (0x336A, "18\u70b9"), (0x336B, "19\u70b9"),
  (0x336C, "20\u70b9"), (0x336D, "21\u70b9"), (0x336E, "22\u70b9"), (0x336F, "23\u70b9"),
  (0x3370, "24\u70b9"), (0x3371, "hPa"), (0x3372, "da"), (0x3373, "AU"), (0x3374, "bar"),
  (0x3375, "oV"), (0x3376, "pc"), (0x3377, "dm"), (0x3378, "dm2"), (0x3379, "dm3"),
  (0x337A, "IU"), (0x3380, "pA"), (0x3381, "nA"), (0x3382, "\u03bcA"), (0x3383, "mA"),
  (0x3384, "kA"), (0x3385, "KB"), (0x3386, "MB"), (0x3387, "GB"), (0x3388, "cal"),
  (0x3389, "kcal"), (0x338A, "pF"), (0x338B, "nF"), (0x338C, "\u03bcF"), (0x338D, "\u03bcg"),
  (0x338E, "mg"), (0x338F, "kg"), (0x3390, "Hz"), (0x3391, "kHz"), (0x3392, "MHz"),
  (0x3393, "GHz"), (0x3394, "THz"), (0x3395, "\u03bcl"), (0x3396, "ml"), (0x3397, "dl"),
  (0x3398, "kl"), (0x3399, "fm"), (0x339A, "nm"), (0x339B, "\u03bcm"), (0x339C, "mm"),
  (0x339D, "cm"), (0x339E, "km"), (0x339F, "mm2"), (0x33A0, "cm2"), (0x33A1, "m2"),
  (0x33A2, "km2"), (0x33A3, "mm3"), (0x33A4, "cm3"), (0x33A5, "m3"), (0x33A6, "km3"),
  (0x33A7, "m\u2215s"), (0x33A8, "m\u2215s2"), (0x33A9, "Pa"), (0x33AA, "kPa"),
  (0x33AB, "MPa"), (0x33AC, "GPa"), (0x33AD, "rad"), (0x33AE, "rad\u2215s"),
  (0x33AF, "rad\u2215s2"), (0x33B0, "ps"), (0x33B1, "ns"), (0x33B2, "\u03bcs"), (0x33B3, "ms"),
  (0x33B4, "pV"), (0x33B5, "nV"), (0x33B6, "\u03bcV"), (0x33B7, "mV"), (0x33B8, "kV"),
  (0x33B9, "MV"), (0x33BA, "pW"), (0x33BB, "nW"), (0x33BC, "\u03bcW"), (0x33BD, "mW"),
  (0x33BE, "kW"), (0x33BF, "MW"), (0x33C0, "k\u03a9"), (0x33C1, "M\u03a9"), (0x33C2, "a.m."),
  (0x33C3, "Bq"), (0x33C4, "cc"), (0x33C5, "cd"), (0x33C6, "C\u2215kg"), (0x33C7, "Co."),
  (0x33C8, "dB"), (0x33C9, "Gy"), (0x33CA, "ha"), (0x33CB, "HP"), (0x33CC, "in"),
  (0x33CD, "KK"), (0x33CE, "KM"), (0x33CF, "kt"), (0x33D0, "lm"), (0x33D1, "ln"),
  (0x33D2, "log"), (0x33D3, "lx"), (0x33D4, "mb"), (0x33D5, "mil"), (0x33D6, "mol"),
  (0x33D7, "PH"), (0x33D8, "p.m."), (0x33D9, "PPM"), (0x33DA, "PR"), (0x33DB, "sr"),
  (0x33DC, "Sv"), (0x33DD, "Wb"), (0x33DE, "V\u2215m"), (0x33DF, "A\u2215m"),
  (0x33E0, "1\u65e5"), (0x33E1, "2\u65e5"), (0x33E2, "3\u65e5"), (0x33E3, "4\u65e5"),
  (0x33E4, "5\u65e5"), (0x33E5, "6\u65e5"), (0x33E6, "7\u65e5"), (0x33E7, "8\u65e5"),
  (0x33E8, "9\u65e5"), (0x33E9, "10\u65e5"), (0x33EA, "11\u65e5"), (0x33EB, "12\u65e5"),
  (0x33EC, "13\u65e5"), (0x33ED, "14\u65e5"), (0x33EE, "15\u65e5"), (0x33EF, "16\u65e5"),
  (0x33F0, "17\u65e5"), (0x33F1, "18\u65e5"), (0x33F2, "19\u65e5"), (0x33F3, "20\u65e5"),
  (0x33F4, "21\u65e5"), (0x33F5, "22\u65e5"), (0x33F6, "23\u65e5"), (0x33F7, "24\u65e5"),
  (0x33F8, "25\u65e5"), (0x33F9, "26\u65e5"), (0x33FA, "27\u65e5"), (0x33FB, "28\u65e5"),
  (0x33FC, "29\u65e5"), (0x33FD, "30\u65e5"), (0x33FE, "31\u65e5"), (0x33FF, "gal"),
  (0xFB00, "ff"), (0xFB01, "fi"), (0xFB02, "fl"), (0xFB03, "ffi"), (0xFB04, "ffl"),
  (0xFB05, "st"), (0xFB06, "st"), (0xFC5E, " \u064c\u0651"), (0xFC5F, " \u064d\u0651"),
  (0xFC60, " \u064e\u0651"), (0xFC61, " \u064f\u0651"), (0xFC62, " \u0650\u0651"),
  (0xFC63, " \u0651\u0670"),
  (0xFDFA, "\u0635\u0644\u0649 \u0627\u0644\u0644\u0647 \u0639\u0644\u064a\u0647 \u0648\u0633\u0644\u0645"),
  (0xFDFB, "\u062c\u0644 \u062c\u0644\u0627\u0644\u0647"), (0xFE19, "..."), (0xFE30, ".."),
  (0xFE49, " \u0305"), (0xFE4A, " \u0305"), (0xFE4B, " \u0305"), (0xFE4C, " \u0305"),
  (0xFE70, " \u064b"), (0xFE72, " \u064c"), (0xFE74, " \u064d"), (0xFE76, " \u064e"),
  (0xFE78, " \u064f"), (0xFE7A, " \u0650"), (0xFE7C, " \u0651"), (0xFE7E, " \u0652"),
  (0xFFE3, " \u0304"), (0x1F100, "0."), (0x1F101, "0,"), (0x1F102, "1,"), (0x1F103, "2,"),
  (0x1F104, "3,"), (0x1F105, "4,"), (0x1F106, "5,"), (0x1F107, "6,"), (0x1F108, "7,"),
  (0x1F109, "8,"), (0x1F10A, "9,"), (0x1F110, "(A)"), (0x1F111, "(B)"), (0x1F112, "(C)"),
  (0x1F113, "(D)"), (0x1F114, "(E)"), (0x1F115, "(F)"), (0x1F116, "(G)"), (0x1F117, "(H)"),
  (0x1F118, "(I)"), (0x1F119, "(J)"), (0x1F11A, "(K)"), (0x1F11B, "(L)"), (0x1F11C, "(M)"),
  (0x1F11D, "(N)"), (0x1F11E, "(O)"), (0x1F11F, "(P)"), (0x1F120, "(Q)"), (0x1F121, "(R)"),
  (0x1F122, "(S)"), (0x1F123, "(T)"), (0x1F124, "(U)"), (0x1F125, "(V)"), (0x1F126, "(W)"),
  (0x1F127, "(X)"), (0x1F128, "(Y)"), (0x1F129, "(Z)"), (0x1F12A, "\u3014S\u3015"),
  (0x1F12D, "CD"), (0x1F12E, "WZ"), (0x1F14A, "HV"), (0x1F14B, "MV"), (0x1F14C, "SD"),
  (0x1F14D, "SS"), (0x1F14E, "PPV"), (0x1F14F, "WC"), (0x1F16A, "MC"), (0x1F16B, "MD"),
  (0x1F16C, "MR"), (0x1F190, "DJ")]

/-- The decomposition of one character, as far as it holds ASCII; other characters are kept. -/
def decomposeChar (c : Char) : List Char :=
  if c.toNat < 0x80 then [c]
  else match plainRuns.find? fun r => r.1 ≤ c.toNat && c.toNat ≤ r.2.1 with
    | some r => [Char.ofNat (r.2.2 + (c.toNat - r.1))]
    | none => match decompositions.lookup c.toNat with
      | some s => s.toList
      | none => [c]

/-- Text with every character decomposed. -/
def decompose (cs : List Char) : List Char := cs.flatMap decomposeChar

end DocTemplate.Text
