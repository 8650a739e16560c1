/-!
# Glyph widths

Widths of the glyphs of the sans-serif faces, in thousandths of the font size: upright regular and
bold; the slanted faces have the widths of the upright ones. Characters without a glyph of their
own take the width of the substitute glyph.
-/

namespace DocTemplate.Page

/-- Code point, width in the regular face, width in the bold face. -/
def glyphWidths : List (Nat × Nat × Nat) := [
  (0x20, 278, 278), (0x21, 278, 333), (0x22, 355, 474), (0x23, 556, 556), (0x24, 556, 556),
  (0x25, 889, 889), (0x26, 667, 722), (0x27, 191, 238), (0x28, 333, 333), (0x29, 333, 333),
  (0x2A, 389, 389), (0x2B, 584, 584), (0x2C, 278, 278), (0x2D, 333, 333), (0x2E, 278, 278),
  (0x2F, 278, 278), (0x30, 556, 556), (0x31, 556, 556), (0x32, 556, 556), (0x33, 556, 556),
  (0x34, 556, 556), (0x35, 556, 556), (0x36, 556, 556), (0x37, 556, 556), (0x38, 556, 556),
  (0x39, 556, 556), (0x3A, 278, 333), (0x3B, 278, 333), (0x3C, 584, 584), (0x3D, 584, 584),
  (0x3E, 584, 584), (0x3F, 556, 611), (0x40, 1015, 975), (0x41, 667, 722), (0x42, 667, 722),
  (0x43, 722, 722), (0x44, 722, 722), (0x45, 667, 667), (0x46, 611, 611), (0x47, 778, 778),
  (0x48, 722, 722), (0x49, 278, 278), (0x4A, 500, 556), (0x4B, 667, 722), (0x4C, 556, 611),
  (0x4D, 833, 833), (0x4E, 722, 722), (0x4F, 778, 778), (0x50, 667, 667), (0x51, 778, 778),
  (0x52, 722, 722), (0x53, 667, 667), (0x54, 611, 611), (0x55, 722, 722), (0x56, 667, 667),
  (0x57, 944, 944), (0x58, 667, 667), (0x59, 667, 667), (0x5A, 611, 611), (0x5B, 278, 333),
  (0x5C, 278, 278), (0x5D, 278, 333), (0x5E, 469, 584), (0x5F, 556, 556), (0x60, 333, 333),
  (0x61, 556, 556), (0x62, 556, 611), (0x63, 500, 556), (0x64, 556, 611), (0x65, 556, 556),
  (0x66, 278, 333), (0x67, 556, 611), (0x68, 556, 611), (0x69, 222, 278), (0x6A, 222, 278),
  (0x6B, 500, 556), (0x6C, 222, 278), (0x6D, 833, 889), (0x6E, 556, 611), (0x6F, 556, 611),
  (0x70, 556, 611), (0x71, 556, 611), (0x72, 333, 389), (0x73, 500, 556), (0x74, 278, 333),
  (0x75, 556, 611), (0x76, 500, 556), (0x77, 722, 778), (0x78, 500, 556), (0x79, 500, 556),
  (0x7A, 500, 500), (0x7B, 334, 389), (0x7C, 260, 280), (0x7D, 334, 389), (0x7E, 584, 584),
  (0xA0, 278, 278), (0xA1, 333, 333), (0xA2, 556, 556), (0xA3, 556, 556), (0xA4, 556, 556),
  (0xA5, 556, 556), (0xA6, 260, 280), (0xA7, 556, 556), (0xA8, 333, 333), (0xA9, 737, 737),
  (0xAA, 370, 370), (0xAB, 556, 556), (0xAC, 584, 584), (0xAD, 333, 333), (0xAE, 737, 737),
  (0xAF, 333, 333), (0xB0, 400, 400), (0xB1, 584, 584), (0xB2, 333, 333), (0xB3, 333, 333),
  (0xB4, 333, 333), (0xB5, 556, 611), (0xB6, 537, 556), (0xB7, 278, 278), (0xB8, 333, 333),
  (0xB9, 333, 333), (0xBA, 365, 365), (0xBB, 556, 556), (0xBC, 834, 834), (0xBD, 834, 834),
  (0xBE, 834, 834), (0xBF, 611, 611), (0xC0, 667, 722), (0xC1, 667, 722), (0xC2, 667, 722),
  (0xC3, 667, 722), (0xC4, 667, 722), (0xC5, 667, 722), (0xC6, 1000, 1000), (0xC7, 722, 722),
  (0xC8, 667, 667), (0xC9, 667, 667), (0xCA, 667, 667), (0xCB, 667, 667), (0xCC, 278, 278),
  (0xCD, 278, 278), (0xCE, 278, 278), (0xCF, 278, 278), (0xD0, 722, 722), (0xD1, 722, 722),
  (0xD2, 778, 778), (0xD3, 778, 778), (0xD4, 778, 778), (0xD5, 778, 778), (0xD6, 778, 778),
  (0xD7, 584, 584), (0xD8, 778, 778), (0xD9, 722, 722), (0xDA, 722, 722), (0xDB, 722, 722),
  (0xDC, 722, 722), (0xDD, 667, 667), (0xDE, 667, 667), (0xDF, 611, 611), (0xE0, 556, 556),
  (0xE1, 556, 556), (0xE2, 556, 556), (0xE3, 556, 556), (0xE4, 556, 556), (0xE5, 556, 556),
  (0xE6, 889, 889), (0xE7, 500, 556), (0xE8, 556, 556), (0xE9, 556, 556), (0xEA, 556, 556),
  (0xEB, 556, 556), (0xEC, 278, 278), (0xED, 278, 278), (0xEE, 278, 278), (0xEF, 278, 278),
  (0xF0, 556, 611), (0xF1, 556, 611), (0xF2, 556, 611), (0xF3, 556, 611), (0xF4, 556, 611),
  (0xF5, 556, 611), (0xF6, 556, 611), (0xF7, 584, 584), (0xF8, 611, 611), (0xF9, 556, 611),
  (0xFA, 556, 611), (0xFB, 556, 611), (0xFC, 556, 611), (0xFD, 500, 556), (0xFE, 556, 611),
  (0xFF, 500, 556), (0x152, 1000, 1000), (0x153, 944, 944), (0x160, 667, 667),
  (0x161, 500, 556), (0x178, 667, 667), (0x17D, 611, 611), (0x17E, 500, 500),
  (0x192, 556, 556), (0x2C6, 333, 333), (0x2DC, 333, 333), (0x391, 722, 722),
  (0x392, 667, 667), (0x393, 603, 603), (0x394, 612, 612), (0x395, 611, 611),
  (0x396, 611, 611), (0x397, 722, 722), (0x398, 741, 741), (0x399, 333, 333),
  (0x39A, 722, 722), (0x39B, 686, 686), (0x39C, 889, 889), (0x39D, 722, 722),
  (0x39E, 645, 645), (0x39F, 722, 722), (0x3A0, 768, 768), (0x3A1, 556, 556),
  (0x3A3, 592, 592), (0x3A4, 611, 611), (0x3A5, 690, 690), (0x3A6, 763, 763),
  (0x3A7, 722, 722), (0x3A8, 795, 795), (0x3A9, 768, 768), (0x3B1, 631, 631),
  (0x3B2, 549, 549), (0x3B3, 411, 411), (0x3B4, 494, 494), (0x3B5, 439, 439),
  (0x3B6, 494, 494), (0x3B7, 603, 603), (0x3B8, 521, 521), (0x3B9, 329, 329),
  (0x3BA, 549, 549), (0x3BB, 549, 549), (0x3BC, 576, 576), (0x3BD, 521, 521),
  (0x3BE, 493, 493), (0x3BF, 549, 549), (0x3C0, 549, 549), (0x3C1, 549, 549),
  (0x3C2, 439, 439), (0x3C3, 603, 603), (0x3C4, 439, 439), (0x3C5, 576, 576),
  (0x3C6, 521, 521), (0x3C7, 549, 549), (0x3C8, 686, 686), (0x3C9, 686, 686),
  (0x3D1, 631, 631), (0x3D2, 620, 620), (0x3D5, 603, 603), (0x3D6, 713, 713),
  (0x2013, 556, 556), (0x2014, 1000, 1000), (0x2018, 222, 278), (0x2019, 222, 278),
  (0x201A, 222, 278), (0x201C, 333, 500), (0x201D, 333, 500), (0x201E, 333, 500),
  (0x2020, 556, 556), (0x2021, 556, 556), (0x2022, 350, 350), (0x2026, 1000, 1000),
  (0x2030, 1000, 1000), (0x2032, 247, 247), (0x2033, 411, 411), (0x2039, 333, 333),
  (0x203A, 333, 333), (0x2044, 167, 167), (0x20AC, 556, 556), (0x2111, 686, 686),
  (0x2118, 987, 987), (0x211C, 795, 795), (0x2122, 1000, 1000), (0x2126, 768, 768),
  (0x2135, 823, 823), (0x2190, 987, 987), (0x2191, 603, 603), (0x2192, 987, 987),
  (0x2193, 603, 603), (0x2194, 1042, 1042), (0x2195, 458, 458), (0x21B5, 658, 658),
  (0x21D0, 987, 987), (0x21D1, 603, 603), (0x21D2, 987, 987), (0x21D3, 603, 603),
  (0x21D4, 1042, 1042), (0x2200, 713, 713), (0x2202, 494, 494), (0x2203, 549, 549),
  (0x2205, 823, 823), (0x2206, 612, 612), (0x2207, 713, 713), (0x2208, 713, 713),
  (0x2209, 713, 713), (0x220B, 439, 439), (0x220F, 823, 823), (0x2211, 713, 713),
  (0x2212, 549, 549), (0x2217, 500, 500), (0x221A, 549, 549), (0x221D, 713, 713),
  (0x221E, 713, 713), (0x2220, 768, 768), (0x2227, 603, 603), (0x2228, 603, 603),
  (0x2229, 768, 768), (0x222A, 768, 768), (0x222B, 274, 274), (0x2234, 863, 863),
  (0x223C, 549, 549), (0x2245, 549, 549), (0x2248, 549, 549), (0x2260, 549, 549),
  (0x2261, 549, 549), (0x2264, 549, 549), (0x2265, 549, 549), (0x2282, 713, 713),
  (0x2283, 713, 713), (0x2284, 713, 713), (0x2286, 713, 713), (0x2287, 713, 713),
  (0x2295, 768, 768), (0x2297, 768, 768), (0x22A5, 658, 658), (0x22C5, 250, 250),
  (0x2320, 686, 686), (0x2321, 686, 686), (0x2329, 329, 329), (0x232A, 329, 329),
  (0x2460, 788, 788), (0x2461, 788, 788), (0x2462, 788, 788), (0x2463, 788, 788),
  (0x2464, 788, 788), (0x2465, 788, 788), (0x2466, 788, 788), (0x2467, 788, 788),
  (0x2468, 788, 788), (0x2469, 788, 788), (0x25B2, 892, 892), (0x25BC, 892, 892),
  (0x25C6, 788, 788), (0x25CA, 494, 494), (0x25CF, 791, 791), (0x25D7, 438, 438),
  (0x2605, 816, 816), (0x260E, 719, 719), (0x261B, 960, 960), (0x261E, 939, 939),
  (0x2660, 753, 753), (0x2663, 753, 753), (0x2665, 753, 753), (0x2666, 753, 753),
  (0x2701, 974, 974), (0x2702, 961, 961), (0x2703, 974, 974), (0x2704, 980, 980),
  (0x2706, 789, 789), (0x2707, 790, 790), (0x2708, 791, 791), (0x2709, 690, 690),
  (0x270C, 549, 549), (0x270D, 855, 855), (0x270E, 911, 911), (0x270F, 933, 933),
  (0x2710, 911, 911), (0x2711, 945, 945), (0x2712, 974, 974), (0x2713, 755, 755),
  (0x2714, 846, 846), (0x2715, 762, 762), (0x2717, 571, 571), (0x2718, 677, 677),
  (0x2719, 763, 763), (0x271A, 760, 760), (0x271B, 759, 759), (0x271C, 754, 754),
  (0x271D, 494, 494), (0x271E, 552, 552), (0x271F, 537, 537), (0x2720, 577, 577),
  (0x2721, 692, 692), (0x2722, 786, 786), (0x2723, 788, 788), (0x2724, 788, 788),
  (0x2725, 790, 790), (0x2726, 793, 793), (0x2727, 794, 794), (0x2729, 823, 823),
  (0x272A, 789, 789), (0x272B, 841, 841), (0x272C, 823, 823), (0x272D, 833, 833),
  (0x272E, 816, 816), (0x272F, 831, 831), (0x2730, 923, 923), (0x2731, 744, 744),
  (0x2732, 723, 723), (0x2733, 749, 749), (0x2734, 790, 790), (0x2735, 792, 792),
  (0x2736, 695, 695), (0x2737, 776, 776), (0x2738, 768, 768), (0x2739, 792, 792),
  (0x273A, 759, 759), (0x273B, 707, 707), (0x273C, 708, 708), (0x273D, 682, 682),
  (0x273E, 701, 701), (0x273F, 826, 826), (0x2740, 815, 815), (0x2741, 789, 789),
  (0x2742, 789, 789), (0x2743, 707, 707), (0x2744, 687, 687), (0x2745, 696, 696),
  (0x2746, 689, 689), (0x2747, 786, 786), (0x2748, 787, 787), (0x2749, 713, 713),
  (0x274A, 791, 791), (0x274B, 785, 785), (0x274D, 873, 873), (0x274F, 762, 762),
  (0x2750, 762, 762), (0x2751, 759, 759), (0x2752, 759, 759), (0x2756, 784, 784),
  (0x2758, 138, 138), (0x2759, 277, 277), (0x275A, 415, 415), (0x275B, 392, 392),
  (0x275C, 392, 392), (0x275D, 668, 668), (0x275E, 668, 668), (0x2761, 732, 732),
  (0x2762, 544, 544), (0x2763, 544, 544), (0x2764, 910, 910), (0x2765, 667, 667),
  (0x2766, 760, 760), (0x2767, 760, 760), (0x2768, 390, 390), (0x2769, 390, 390),
  (0x276A, 317, 317), (0x276B, 317, 317), (0x276C, 276, 276), (0x276D, 276, 276),
  (0x276E, 509, 509), (0x276F, 509, 509), (0x2770, 410, 410), (0x2771, 410, 410),
  (0x2772, 234, 234), (0x2773, 234, 234), (0x2774, 334, 334), (0x2775, 334, 334),
  (0x2776, 788, 788), (0x2777, 788, 788), (0x2778, 788, 788), (0x2779, 788, 788),
  (0x277A, 788, 788), (0x277B, 788, 788), (0x277C, 788, 788), (0x277D, 788, 788),
  (0x277E, 788, 788), (0x277F, 788, 788), (0x2780, 788, 788), (0x2781, 788, 788),
  (0x2782, 788, 788), (0x2783, 788, 788), (0x2784, 788, 788), (0x2785, 788, 788),
  (0x2786, 788, 788), (0x2787, 788, 788), (0x2788, 788, 788), (0x2789, 788, 788),
  (0x278A, 788, 788), (0x278B, 788, 788), (0x278C, 788, 788), (0x278D, 788, 788),
  (0x278E, 788, 788), (0x278F, 788, 788), (0x2790, 788, 788), (0x2791, 788, 788),
  (0x2792, 788, 788), (0x2793, 788, 788), (0x2794, 894, 894), (0x2798, 748, 748),
  (0x2799, 924, 924), (0x279A, 748, 748), (0x279B, 918, 918), (0x279C, 927, 927),
  (0x279D, 928, 928), (0x279E, 928, 928), (0x279F, 834, 834), (0x27A0, 873, 873),
  (0x27A1, 828, 828), (0x27A2, 924, 924), (0x27A3, 924, 924), (0x27A4, 917, 917),
  (0x27A5, 930, 930), (0x27A6, 931, 931), (0x27A7, 463, 463), (0x27A8, 883, 883),
  (0x27A9, 836, 836), (0x27AA, 836, 836), (0x27AB, 867, 867), (0x27AC, 867, 867),
  (0x27AD, 696, 696), (0x27AE, 696, 696), (0x27AF, 874, 874), (0x27B1, 874, 874),
  (0x27B2, 760, 760), (0x27B3, 946, 946), (0x27B4, 771, 771), (0x27B5, 865, 865),
  (0x27B6, 771, 771), (0x27B7, 888, 888), (0x27B8, 967, 967), (0x27B9, 888, 888),
  (0x27BA, 831, 831), (0x27BB, 873, 873), (0x27BC, 927, 927), (0x27BD, 970, 970),
  (0x27BE, 918, 918), (0xF6D9, 790, 790), (0xF6DA, 790, 790), (0xF6DB, 890, 890),
  (0xF8E5, 500, 500), (0xF8E6, 603, 603), (0xF8E7, 1000, 1000), (0xF8E8, 790, 790),
  (0xF8E9, 790, 790), (0xF8EA, 786, 786), (0xF8EB, 384, 384), (0xF8EC, 384, 384),
  (0xF8ED, 384, 384), (0xF8EE, 384, 384), (0xF8EF, 384, 384), (0xF8F0, 384, 384),
  (0xF8F1, 494, 494), (0xF8F2, 494, 494), (0xF8F3, 494, 494), (0xF8F4, 494, 494),
  (0xF8F5, 686, 686), (0xF8F6, 384, 384), (0xF8F7, 384, 384), (0xF8F8, 384, 384),
  (0xF8F9, 384, 384), (0xF8FA, 384, 384), (0xF8FB, 384, 384), (0xF8FC, 494, 494),
  (0xF8FD, 494, 494), (0xF8FE, 494, 494)]

/-- The width of the glyph drawn for a character that has none. -/
def substituteWidth : Nat := 761

/-- The width of a character's glyph in thousandths of the font size. -/
def glyphWidth (bold : Bool) (c : Char) : Nat :=
  match glyphWidths.lookup c.toNat with
  | some (regular, heavy) => if bold then heavy else regular
  | none => substituteWidth

example : glyphWidths.lookup 'W'.toNat = some (944, 944) := by decide

end DocTemplate.Page
