import Countersign.Text.Ranges

/-!
# Composed texts

Letters with marks can be written in several ways: some as one character, and marks of different
classes in any order.  A text is composed if its marks stand in the order of their classes and no
letter is written with a mark that it has a character with.  This is Normalization Form C of
Unicode 14, with the compositions of the letters that a domain name may hold.
-/

namespace Countersign
namespace Text

/-- Inclusive ranges of code points of marks, with their combining classes. -/
def combiningClasses : List (Nat × Nat × Nat) :=
  [
    (0x300, 0x314, 230), (0x315, 0x315, 232), (0x316, 0x319, 220), (0x31a, 0x31a, 232),
    (0x31b, 0x31b, 216), (0x31c, 0x320, 220), (0x321, 0x322, 202), (0x323, 0x326, 220),
    (0x327, 0x328, 202), (0x329, 0x333, 220), (0x334, 0x338, 1), (0x339, 0x33c, 220),
    (0x33d, 0x346, 230), (0x347, 0x349, 220), (0x34a, 0x34c, 230), (0x34d, 0x34e, 220),
    (0x350, 0x352, 230), (0x353, 0x356, 220), (0x357, 0x357, 230), (0x358, 0x358, 232),
    (0x359, 0x35a, 220), (0x35b, 0x35b, 230), (0x35c, 0x35c, 233), (0x35d, 0x35e, 234),
    (0x35f, 0x35f, 233), (0x360, 0x361, 234), (0x362, 0x362, 233), (0x363, 0x36f, 230),
    (0x483, 0x487, 230), (0x591, 0x591, 220), (0x592, 0x595, 230), (0x596, 0x596, 220),
    (0x597, 0x599, 230), (0x59a, 0x59a, 222), (0x59b, 0x59b, 220), (0x59c, 0x5a1, 230),
    (0x5a2, 0x5a7, 220), (0x5a8, 0x5a9, 230), (0x5aa, 0x5aa, 220), (0x5ab, 0x5ac, 230),
    (0x5ad, 0x5ad, 222), (0x5ae, 0x5ae, 228), (0x5af, 0x5af, 230), (0x5b0, 0x5b0, 10),
    (0x5b1, 0x5b1, 11), (0x5b2, 0x5b2, 12), (0x5b3, 0x5b3, 13), (0x5b4, 0x5b4, 14),
    (0x5b5, 0x5b5, 15), (0x5b6, 0x5b6, 16), (0x5b7, 0x5b7, 17), (0x5b8, 0x5b8, 18),
    (0x5b9, 0x5ba, 19), (0x5bb, 0x5bb, 20), (0x5bc, 0x5bc, 21), (0x5bd, 0x5bd, 22),
    (0x5bf, 0x5bf, 23), (0x5c1, 0x5c1, 24), (0x5c2, 0x5c2, 25), (0x5c4, 0x5c4, 230),
    (0x5c5, 0x5c5, 220), (0x5c7, 0x5c7, 18), (0x610, 0x617, 230), (0x618, 0x618, 30),
    (0x619, 0x619, 31), (0x61a, 0x61a, 32), (0x64b, 0x64b, 27), (0x64c, 0x64c, 28),
    (0x64d, 0x64d, 29), (0x64e, 0x64e, 30), (0x64f, 0x64f, 31), (0x650, 0x650, 32),
    (0x651, 0x651, 33), (0x652, 0x652, 34), (0x653, 0x654, 230), (0x655, 0x656, 220),
    (0x657, 0x65b, 230), (0x65c, 0x65c, 220), (0x65d, 0x65e, 230), (0x65f, 0x65f, 220),
    (0x670, 0x670, 35), (0x6d6, 0x6e2, 230), (0x6e3, 0x6e3, 220), (0x6e4, 0x6e4, 230),
    (0x6e7, 0x6e8, 230), (0x6ea, 0x6ea, 220), (0x6eb, 0x6ec, 230), (0x6ed, 0x6ed, 220),
    (0x711, 0x711, 36), (0x730, 0x730, 230), (0x731, 0x731, 220), (0x732, 0x733, 230),
    (0x734, 0x734, 220), (0x735, 0x736, 230), (0x737, 0x739, 220), (0x73a, 0x73a, 230),
    (0x73b, 0x73c, 220), (0x73d, 0x73d, 230), (0x73e, 0x73e, 220), (0x73f, 0x741, 230),
    (0x742, 0x742, 220), (0x743, 0x743, 230), (0x744, 0x744, 220), (0x745, 0x745, 230),
    (0x746, 0x746, 220), (0x747, 0x747, 230), (0x748, 0x748, 220), (0x749, 0x74a, 230),
    (0x7eb, 0x7f1, 230), (0x7f2, 0x7f2, 220), (0x7f3, 0x7f3, 230), (0x7fd, 0x7fd, 220),
    (0x816, 0x819, 230), (0x81b, 0x823, 230), (0x825, 0x827, 230), (0x829, 0x82d, 230),
    (0x859, 0x85b, 220), (0x898, 0x898, 230), (0x899, 0x89b, 220), (0x89c, 0x89f, 230),
    (0x8ca, 0x8ce, 230), (0x8cf, 0x8d3, 220), (0x8d4, 0x8e1, 230), (0x8e3, 0x8e3, 220),
    (0x8e4, 0x8e5, 230), (0x8e6, 0x8e6, 220), (0x8e7, 0x8e8, 230), (0x8e9, 0x8e9, 220),
    (0x8ea, 0x8ec, 230), (0x8ed, 0x8ef, 220), (0x8f0, 0x8f0, 27), (0x8f1, 0x8f1, 28),
    (0x8f2, 0x8f2, 29), (0x8f3, 0x8f5, 230), (0x8f6, 0x8f6, 220), (0x8f7, 0x8f8, 230),
    (0x8f9, 0x8fa, 220), (0x8fb, 0x8ff, 230), (0x93c, 0x93c, 7), (0x94d, 0x94d, 9),
    (0x951, 0x951, 230), (0x952, 0x952, 220), (0x953, 0x954, 230), (0x9bc, 0x9bc, 7),
    (0x9cd, 0x9cd, 9), (0x9fe, 0x9fe, 230), (0xa3c, 0xa3c, 7), (0xa4d, 0xa4d, 9),
    (0xabc, 0xabc, 7), (0xacd, 0xacd, 9), (0xb3c, 0xb3c, 7), (0xb4d, 0xb4d, 9),
    (0xbcd, 0xbcd, 9), (0xc3c, 0xc3c, 7), (0xc4d, 0xc4d, 9), (0xc55, 0xc55, 84),
    (0xc56, 0xc56, 91), (0xcbc, 0xcbc, 7), (0xccd, 0xccd, 9), (0xd3b, 0xd3c, 9),
    (0xd4d, 0xd4d, 9), (0xdca, 0xdca, 9), (0xe38, 0xe39, 103), (0xe3a, 0xe3a, 9),
    (0xe48, 0xe4b, 107), (0xeb8, 0xeb9, 118), (0xeba, 0xeba, 9), (0xec8, 0xecb, 122),
    (0xf18, 0xf19, 220), (0xf35, 0xf37, 220), (0xf39, 0xf39, 216), (0xf71, 0xf71, 129),
    (0xf72, 0xf72, 130), (0xf74, 0xf74, 132), (0xf7a, 0xf7d, 130), (0xf80, 0xf80, 130),
    (0xf82, 0xf83, 230), (0xf84, 0xf84, 9), (0xf86, 0xf87, 230), (0xfc6, 0xfc6, 220),
    (0x1037, 0x1037, 7), (0x1039, 0x103a, 9), (0x108d, 0x108d, 220), (0x135d, 0x135f, 230),
    (0x1714, 0x1715, 9), (0x1734, 0x1734, 9), (0x17d2, 0x17d2, 9), (0x17dd, 0x17dd, 230),
    (0x18a9, 0x18a9, 228), (0x1939, 0x1939, 222), (0x193a, 0x193a, 230), (0x193b, 0x193b, 220),
    (0x1a17, 0x1a17, 230), (0x1a18, 0x1a18, 220), (0x1a60, 0x1a60, 9), (0x1a75, 0x1a7c, 230),
    (0x1a7f, 0x1a7f, 220), (0x1ab0, 0x1ab4, 230), (0x1ab5, 0x1aba, 220), (0x1abb, 0x1abc, 230),
    (0x1abd, 0x1ac0, 220), (0x1ac1, 0x1ac2, 230), (0x1ac3, 0x1ac4, 220), (0x1ac5, 0x1ac9, 230),
    (0x1aca, 0x1aca, 220), (0x1acb, 0x1ace, 230), (0x1b34, 0x1b34, 7), (0x1b44, 0x1b44, 9),
    (0x1b6b, 0x1b6b, 230), (0x1b6c, 0x1b6c, 220), (0x1b6d, 0x1b73, 230), (0x1baa, 0x1bab, 9),
    (0x1be6, 0x1be6, 7), (0x1bf2, 0x1bf3, 9), (0x1c37, 0x1c37, 7), (0x1cd0, 0x1cd2, 230),
    (0x1cd4, 0x1cd4, 1), (0x1cd5, 0x1cd9, 220), (0x1cda, 0x1cdb, 230), (0x1cdc, 0x1cdf, 220),
    (0x1ce0, 0x1ce0, 230), (0x1ce2, 0x1ce8, 1), (0x1ced, 0x1ced, 220), (0x1cf4, 0x1cf4, 230),
    (0x1cf8, 0x1cf9, 230), (0x1dc0, 0x1dc1, 230), (0x1dc2, 0x1dc2, 220), (0x1dc3, 0x1dc9, 230),
    (0x1dca, 0x1dca, 220), (0x1dcb, 0x1dcc, 230), (0x1dcd, 0x1dcd, 234), (0x1dce, 0x1dce, 214),
    (0x1dcf, 0x1dcf, 220), (0x1dd0, 0x1dd0, 202), (0x1dd1, 0x1df5, 230), (0x1df6, 0x1df6, 232),
    (0x1df7, 0x1df8, 228), (0x1df9, 0x1df9, 220), (0x1dfa, 0x1dfa, 218), (0x1dfb, 0x1dfb, 230),
    (0x1dfc, 0x1dfc, 233), (0x1dfd, 0x1dfd, 220), (0x1dfe, 0x1dfe, 230), (0x1dff, 0x1dff, 220),
    (0x2cef, 0x2cf1, 230), (0x2d7f, 0x2d7f, 9), (0x2de0, 0x2dff, 230), (0x302a, 0x302a, 218),
    (0x302b, 0x302b, 228), (0x302c, 0x302c, 232), (0x302d, 0x302d, 222), (0x3099, 0x309a, 8),
    (0xa66f, 0xa67d, 230), (0xa69e, 0xa69f, 230), (0xa6f0, 0xa6f1, 230), (0xa806, 0xa806, 9),
    (0xa82c, 0xa82c, 9), (0xa8c4, 0xa8c4, 9), (0xa8e0, 0xa8f1, 230), (0xa92b, 0xa92d, 220),
    (0xa953, 0xa953, 9), (0xa9b3, 0xa9b3, 7), (0xa9c0, 0xa9c0, 9), (0xaab0, 0xaab0, 230),
    (0xaab2, 0xaab3, 230), (0xaab4, 0xaab4, 220), (0xaab7, 0xaab8, 230), (0xaabe, 0xaabf, 230),
    (0xaac1, 0xaac1, 230), (0xaaf6, 0xaaf6, 9), (0xabed, 0xabed, 9), (0xfb1e, 0xfb1e, 26),
    (0xfe20, 0xfe26, 230), (0xfe27, 0xfe2d, 220), (0xfe2e, 0xfe2f, 230), (0x101fd, 0x101fd, 220),
    (0x102e0, 0x102e0, 220), (0x10376, 0x1037a, 230), (0x10a0d, 0x10a0d, 220),
    (0x10a0f, 0x10a0f, 230), (0x10a38, 0x10a38, 230), (0x10a39, 0x10a39, 1),
    (0x10a3a, 0x10a3a, 220), (0x10a3f, 0x10a3f, 9), (0x10ae5, 0x10ae5, 230),
    (0x10ae6, 0x10ae6, 220), (0x10d24, 0x10d27, 230), (0x10eab, 0x10eac, 230),
    (0x10f46, 0x10f47, 220), (0x10f48, 0x10f4a, 230), (0x10f4b, 0x10f4b, 220),
    (0x10f4c, 0x10f4c, 230), (0x10f4d, 0x10f50, 220), (0x10f82, 0x10f82, 230),
    (0x10f83, 0x10f83, 220), (0x10f84, 0x10f84, 230), (0x10f85, 0x10f85, 220),
    (0x11046, 0x11046, 9), (0x11070, 0x11070, 9), (0x1107f, 0x1107f, 9), (0x110b9, 0x110b9, 9),
    (0x110ba, 0x110ba, 7), (0x11100, 0x11102, 230), (0x11133, 0x11134, 9), (0x11173, 0x11173, 7),
    (0x111c0, 0x111c0, 9), (0x111ca, 0x111ca, 7), (0x11235, 0x11235, 9), (0x11236, 0x11236, 7),
    (0x112e9, 0x112e9, 7), (0x112ea, 0x112ea, 9), (0x1133b, 0x1133c, 7), (0x1134d, 0x1134d, 9),
    (0x11366, 0x11374, 230), (0x11442, 0x11442, 9), (0x11446, 0x11446, 7),
    (0x1145e, 0x1145e, 230), (0x114c2, 0x114c2, 9), (0x114c3, 0x114c3, 7), (0x115bf, 0x115bf, 9),
    (0x115c0, 0x115c0, 7), (0x1163f, 0x1163f, 9), (0x116b6, 0x116b6, 9), (0x116b7, 0x116b7, 7),
    (0x1172b, 0x1172b, 9), (0x11839, 0x11839, 9), (0x1183a, 0x1183a, 7), (0x1193d, 0x1193e, 9),
    (0x11943, 0x11943, 7), (0x119e0, 0x119e0, 9), (0x11a34, 0x11a34, 9), (0x11a47, 0x11a47, 9),
    (0x11a99, 0x11a99, 9), (0x11c3f, 0x11c3f, 9), (0x11d42, 0x11d42, 7), (0x11d44, 0x11d45, 9),
    (0x11d97, 0x11d97, 9), (0x16af0, 0x16af4, 1), (0x16b30, 0x16b36, 230), (0x16ff0, 0x16ff1, 6),
    (0x1bc9e, 0x1bc9e, 1), (0x1e000, 0x1e02a, 230), (0x1e130, 0x1e136, 230),
    (0x1e2ae, 0x1e2ae, 230), (0x1e2ec, 0x1e2ef, 230), (0x1e8d0, 0x1e8d6, 220),
    (0x1e944, 0x1e949, 230), (0x1e94a, 0x1e94a, 7)
  ]

/-- Code points of a letter, of a mark, and of the character for the letter with the mark. -/
def compositions : List (Nat × Nat × Nat) :=
  [
    (0x61, 0x300, 0xe0), (0x61, 0x301, 0xe1), (0x61, 0x302, 0xe2), (0x61, 0x303, 0xe3),
    (0x61, 0x308, 0xe4), (0x61, 0x30a, 0xe5), (0x63, 0x327, 0xe7), (0x65, 0x300, 0xe8),
    (0x65, 0x301, 0xe9), (0x65, 0x302, 0xea), (0x65, 0x308, 0xeb), (0x69, 0x300, 0xec),
    (0x69, 0x301, 0xed), (0x69, 0x302, 0xee), (0x69, 0x308, 0xef), (0x6e, 0x303, 0xf1),
    (0x6f, 0x300, 0xf2), (0x6f, 0x301, 0xf3), (0x6f, 0x302, 0xf4), (0x6f, 0x303, 0xf5),
    (0x6f, 0x308, 0xf6), (0x75, 0x300, 0xf9), (0x75, 0x301, 0xfa), (0x75, 0x302, 0xfb),
    (0x75, 0x308, 0xfc), (0x79, 0x301, 0xfd), (0x79, 0x308, 0xff), (0x61, 0x304, 0x101),
    (0x61, 0x306, 0x103), (0x61, 0x328, 0x105), (0x63, 0x301, 0x107), (0x63, 0x302, 0x109),
    (0x63, 0x307, 0x10b), (0x63, 0x30c, 0x10d), (0x64, 0x30c, 0x10f), (0x65, 0x304, 0x113),
    (0x65, 0x306, 0x115), (0x65, 0x307, 0x117), (0x65, 0x328, 0x119), (0x65, 0x30c, 0x11b),
    (0x67, 0x302, 0x11d), (0x67, 0x306, 0x11f), (0x67, 0x307, 0x121), (0x67, 0x327, 0x123),
    (0x68, 0x302, 0x125), (0x69, 0x303, 0x129), (0x69, 0x304, 0x12b), (0x69, 0x306, 0x12d),
    (0x69, 0x328, 0x12f), (0x6a, 0x302, 0x135), (0x6b, 0x327, 0x137), (0x6c, 0x301, 0x13a),
    (0x6c, 0x327, 0x13c), (0x6c, 0x30c, 0x13e), (0x6e, 0x301, 0x144), (0x6e, 0x327, 0x146),
    (0x6e, 0x30c, 0x148), (0x6f, 0x304, 0x14d), (0x6f, 0x306, 0x14f), (0x6f, 0x30b, 0x151),
    (0x72, 0x301, 0x155), (0x72, 0x327, 0x157), (0x72, 0x30c, 0x159), (0x73, 0x301, 0x15b),
    (0x73, 0x302, 0x15d), (0x73, 0x327, 0x15f), (0x73, 0x30c, 0x161), (0x74, 0x327, 0x163),
    (0x74, 0x30c, 0x165), (0x75, 0x303, 0x169), (0x75, 0x304, 0x16b), (0x75, 0x306, 0x16d),
    (0x75, 0x30a, 0x16f), (0x75, 0x30b, 0x171), (0x75, 0x328, 0x173), (0x77, 0x302, 0x175),
    (0x79, 0x302, 0x177), (0x7a, 0x301, 0x17a), (0x7a, 0x307, 0x17c), (0x7a, 0x30c, 0x17e),
    (0x6f, 0x31b, 0x1a1), (0x75, 0x31b, 0x1b0), (0x61, 0x30c, 0x1ce), (0x69, 0x30c, 0x1d0),
    (0x6f, 0x30c, 0x1d2), (0x75, 0x30c, 0x1d4), (0xfc, 0x304, 0x1d6), (0xfc, 0x301, 0x1d8),
    (0xfc, 0x30c, 0x1da), (0xfc, 0x300, 0x1dc), (0xe4, 0x304, 0x1df), (0x227, 0x304, 0x1e1),
    (0xe6, 0x304, 0x1e3), (0x67, 0x30c, 0x1e7), (0x6b, 0x30c, 0x1e9), (0x6f, 0x328, 0x1eb),
    (0x1eb, 0x304, 0x1ed), (0x292, 0x30c, 0x1ef), (0x6a, 0x30c, 0x1f0), (0x67, 0x301, 0x1f5),
    (0x6e, 0x300, 0x1f9), (0xe5, 0x301, 0x1fb), (0xe6, 0x301, 0x1fd), (0xf8, 0x301, 0x1ff),
    (0x61, 0x30f, 0x201), (0x61, 0x311, 0x203), (0x65, 0x30f, 0x205), (0x65, 0x311, 0x207),
    (0x69, 0x30f, 0x209), (0x69, 0x311, 0x20b), (0x6f, 0x30f, 0x20d), (0x6f, 0x311, 0x20f),
    (0x72, 0x30f, 0x211), (0x72, 0x311, 0x213), (0x75, 0x30f, 0x215), (0x75, 0x311, 0x217),
    (0x73, 0x326, 0x219), (0x74, 0x326, 0x21b), (0x68, 0x30c, 0x21f), (0x61, 0x307, 0x227),
    (0x65, 0x327, 0x229), (0xf6, 0x304, 0x22b), (0xf5, 0x304, 0x22d), (0x6f, 0x307, 0x22f),
    (0x22f, 0x304, 0x231), (0x79, 0x304, 0x233), (0x3ca, 0x301, 0x390), (0x3b1, 0x301, 0x3ac),
    (0x3b5, 0x301, 0x3ad), (0x3b7, 0x301, 0x3ae), (0x3b9, 0x301, 0x3af), (0x3cb, 0x301, 0x3b0),
    (0x3b9, 0x308, 0x3ca), (0x3c5, 0x308, 0x3cb), (0x3bf, 0x301, 0x3cc), (0x3c5, 0x301, 0x3cd),
    (0x3c9, 0x301, 0x3ce), (0x438, 0x306, 0x439), (0x435, 0x300, 0x450), (0x435, 0x308, 0x451),
    (0x433, 0x301, 0x453), (0x456, 0x308, 0x457), (0x43a, 0x301, 0x45c), (0x438, 0x300, 0x45d),
    (0x443, 0x306, 0x45e), (0x475, 0x30f, 0x477), (0x436, 0x306, 0x4c2), (0x430, 0x306, 0x4d1),
    (0x430, 0x308, 0x4d3), (0x435, 0x306, 0x4d7), (0x4d9, 0x308, 0x4db), (0x436, 0x308, 0x4dd),
    (0x437, 0x308, 0x4df), (0x438, 0x304, 0x4e3), (0x438, 0x308, 0x4e5), (0x43e, 0x308, 0x4e7),
    (0x4e9, 0x308, 0x4eb), (0x44d, 0x308, 0x4ed), (0x443, 0x304, 0x4ef), (0x443, 0x308, 0x4f1),
    (0x443, 0x30b, 0x4f3), (0x447, 0x308, 0x4f5), (0x44b, 0x308, 0x4f9), (0x627, 0x653, 0x622),
    (0x627, 0x654, 0x623), (0x648, 0x654, 0x624), (0x627, 0x655, 0x625), (0x64a, 0x654, 0x626),
    (0x6d5, 0x654, 0x6c0), (0x6c1, 0x654, 0x6c2), (0x6d2, 0x654, 0x6d3), (0x928, 0x93c, 0x929),
    (0x930, 0x93c, 0x931), (0x933, 0x93c, 0x934), (0x9c7, 0x9be, 0x9cb), (0x9c7, 0x9d7, 0x9cc),
    (0xb47, 0xb56, 0xb48), (0xb47, 0xb3e, 0xb4b), (0xb47, 0xb57, 0xb4c), (0xb92, 0xbd7, 0xb94),
    (0xbc6, 0xbbe, 0xbca), (0xbc7, 0xbbe, 0xbcb), (0xbc6, 0xbd7, 0xbcc), (0xc46, 0xc56, 0xc48),
    (0xcbf, 0xcd5, 0xcc0), (0xcc6, 0xcd5, 0xcc7), (0xcc6, 0xcd6, 0xcc8), (0xcc6, 0xcc2, 0xcca),
    (0xcca, 0xcd5, 0xccb), (0xd46, 0xd3e, 0xd4a), (0xd47, 0xd3e, 0xd4b), (0xd46, 0xd57, 0xd4c),
    (0xdd9, 0xdca, 0xdda), (0xdd9, 0xdcf, 0xddc), (0xddc, 0xdca, 0xddd), (0xdd9, 0xddf, 0xdde),
    (0x1025, 0x102e, 0x1026), (0x1b05, 0x1b35, 0x1b06), (0x1b07, 0x1b35, 0x1b08),
    (0x1b09, 0x1b35, 0x1b0a), (0x1b0b, 0x1b35, 0x1b0c), (0x1b0d, 0x1b35, 0x1b0e),
    (0x1b11, 0x1b35, 0x1b12), (0x1b3a, 0x1b35, 0x1b3b), (0x1b3c, 0x1b35, 0x1b3d),
    (0x1b3e, 0x1b35, 0x1b40), (0x1b3f, 0x1b35, 0x1b41), (0x1b42, 0x1b35, 0x1b43),
    (0x61, 0x325, 0x1e01), (0x62, 0x307, 0x1e03), (0x62, 0x323, 0x1e05), (0x62, 0x331, 0x1e07),
    (0xe7, 0x301, 0x1e09), (0x64, 0x307, 0x1e0b), (0x64, 0x323, 0x1e0d), (0x64, 0x331, 0x1e0f),
    (0x64, 0x327, 0x1e11), (0x64, 0x32d, 0x1e13), (0x113, 0x300, 0x1e15), (0x113, 0x301, 0x1e17),
    (0x65, 0x32d, 0x1e19), (0x65, 0x330, 0x1e1b), (0x229, 0x306, 0x1e1d), (0x66, 0x307, 0x1e1f),
    (0x67, 0x304, 0x1e21), (0x68, 0x307, 0x1e23), (0x68, 0x323, 0x1e25), (0x68, 0x308, 0x1e27),
    (0x68, 0x327, 0x1e29), (0x68, 0x32e, 0x1e2b), (0x69, 0x330, 0x1e2d), (0xef, 0x301, 0x1e2f),
    (0x6b, 0x301, 0x1e31), (0x6b, 0x323, 0x1e33), (0x6b, 0x331, 0x1e35), (0x6c, 0x323, 0x1e37),
    (0x1e37, 0x304, 0x1e39), (0x6c, 0x331, 0x1e3b), (0x6c, 0x32d, 0x1e3d), (0x6d, 0x301, 0x1e3f),
    (0x6d, 0x307, 0x1e41), (0x6d, 0x323, 0x1e43), (0x6e, 0x307, 0x1e45), (0x6e, 0x323, 0x1e47),
    (0x6e, 0x331, 0x1e49), (0x6e, 0x32d, 0x1e4b), (0xf5, 0x301, 0x1e4d), (0xf5, 0x308, 0x1e4f),
    (0x14d, 0x300, 0x1e51), (0x14d, 0x301, 0x1e53), (0x70, 0x301, 0x1e55), (0x70, 0x307, 0x1e57),
    (0x72, 0x307, 0x1e59), (0x72, 0x323, 0x1e5b), (0x1e5b, 0x304, 0x1e5d), (0x72, 0x331, 0x1e5f),
    (0x73, 0x307, 0x1e61), (0x73, 0x323, 0x1e63), (0x15b, 0x307, 0x1e65), (0x161, 0x307, 0x1e67),
    (0x1e63, 0x307, 0x1e69), (0x74, 0x307, 0x1e6b), (0x74, 0x323, 0x1e6d), (0x74, 0x331, 0x1e6f),
    (0x74, 0x32d, 0x1e71), (0x75, 0x324, 0x1e73), (0x75, 0x330, 0x1e75), (0x75, 0x32d, 0x1e77),
    (0x169, 0x301, 0x1e79), (0x16b, 0x308, 0x1e7b), (0x76, 0x303, 0x1e7d), (0x76, 0x323, 0x1e7f),
    (0x77, 0x300, 0x1e81), (0x77, 0x301, 0x1e83), (0x77, 0x308, 0x1e85), (0x77, 0x307, 0x1e87),
    (0x77, 0x323, 0x1e89), (0x78, 0x307, 0x1e8b), (0x78, 0x308, 0x1e8d), (0x79, 0x307, 0x1e8f),
    (0x7a, 0x302, 0x1e91), (0x7a, 0x323, 0x1e93), (0x7a, 0x331, 0x1e95), (0x68, 0x331, 0x1e96),
    (0x74, 0x308, 0x1e97), (0x77, 0x30a, 0x1e98), (0x79, 0x30a, 0x1e99), (0x61, 0x323, 0x1ea1),
    (0x61, 0x309, 0x1ea3), (0xe2, 0x301, 0x1ea5), (0xe2, 0x300, 0x1ea7), (0xe2, 0x309, 0x1ea9),
    (0xe2, 0x303, 0x1eab), (0x1ea1, 0x302, 0x1ead), (0x103, 0x301, 0x1eaf),
    (0x103, 0x300, 0x1eb1), (0x103, 0x309, 0x1eb3), (0x103, 0x303, 0x1eb5),
    (0x1ea1, 0x306, 0x1eb7), (0x65, 0x323, 0x1eb9), (0x65, 0x309, 0x1ebb), (0x65, 0x303, 0x1ebd),
    (0xea, 0x301, 0x1ebf), (0xea, 0x300, 0x1ec1), (0xea, 0x309, 0x1ec3), (0xea, 0x303, 0x1ec5),
    (0x1eb9, 0x302, 0x1ec7), (0x69, 0x309, 0x1ec9), (0x69, 0x323, 0x1ecb), (0x6f, 0x323, 0x1ecd),
    (0x6f, 0x309, 0x1ecf), (0xf4, 0x301, 0x1ed1), (0xf4, 0x300, 0x1ed3), (0xf4, 0x309, 0x1ed5),
    (0xf4, 0x303, 0x1ed7), (0x1ecd, 0x302, 0x1ed9), (0x1a1, 0x301, 0x1edb),
    (0x1a1, 0x300, 0x1edd), (0x1a1, 0x309, 0x1edf), (0x1a1, 0x303, 0x1ee1),
    (0x1a1, 0x323, 0x1ee3), (0x75, 0x323, 0x1ee5), (0x75, 0x309, 0x1ee7), (0x1b0, 0x301, 0x1ee9),
    (0x1b0, 0x300, 0x1eeb), (0x1b0, 0x309, 0x1eed), (0x1b0, 0x303, 0x1eef),
    (0x1b0, 0x323, 0x1ef1), (0x79, 0x300, 0x1ef3), (0x79, 0x323, 0x1ef5), (0x79, 0x309, 0x1ef7),
    (0x79, 0x303, 0x1ef9), (0x3b1, 0x313, 0x1f00), (0x3b1, 0x314, 0x1f01),
    (0x1f00, 0x300, 0x1f02), (0x1f01, 0x300, 0x1f03), (0x1f00, 0x301, 0x1f04),
    (0x1f01, 0x301, 0x1f05), (0x1f00, 0x342, 0x1f06), (0x1f01, 0x342, 0x1f07),
    (0x3b5, 0x313, 0x1f10), (0x3b5, 0x314, 0x1f11), (0x1f10, 0x300, 0x1f12),
    (0x1f11, 0x300, 0x1f13), (0x1f10, 0x301, 0x1f14), (0x1f11, 0x301, 0x1f15),
    (0x3b7, 0x313, 0x1f20), (0x3b7, 0x314, 0x1f21), (0x1f20, 0x300, 0x1f22),
    (0x1f21, 0x300, 0x1f23), (0x1f20, 0x301, 0x1f24), (0x1f21, 0x301, 0x1f25),
    (0x1f20, 0x342, 0x1f26), (0x1f21, 0x342, 0x1f27), (0x3b9, 0x313, 0x1f30),
    (0x3b9, 0x314, 0x1f31), (0x1f30, 0x300, 0x1f32), (0x1f31, 0x300, 0x1f33),
    (0x1f30, 0x301, 0x1f34), (0x1f31, 0x301, 0x1f35), (0x1f30, 0x342, 0x1f36),
    (0x1f31, 0x342, 0x1f37), (0x3bf, 0x313, 0x1f40), (0x3bf, 0x314, 0x1f41),
    (0x1f40, 0x300, 0x1f42), (0x1f41, 0x300, 0x1f43), (0x1f40, 0x301, 0x1f44),
    (0x1f41, 0x301, 0x1f45), (0x3c5, 0x313, 0x1f50), (0x3c5, 0x314, 0x1f51),
    (0x1f50, 0x300, 0x1f52), (0x1f51, 0x300, 0x1f53), (0x1f50, 0x301, 0x1f54),
    (0x1f51, 0x301, 0x1f55), (0x1f50, 0x342, 0x1f56), (0x1f51, 0x342, 0x1f57),
    (0x3c9, 0x313, 0x1f60), (0x3c9, 0x314, 0x1f61), (0x1f60, 0x300, 0x1f62),
    (0x1f61, 0x300, 0x1f63), (0x1f60, 0x301, 0x1f64), (0x1f61, 0x301, 0x1f65),
    (0x1f60, 0x342, 0x1f66), (0x1f61, 0x342, 0x1f67), (0x3b1, 0x300, 0x1f70),
    (0x3b5, 0x300, 0x1f72), (0x3b7, 0x300, 0x1f74), (0x3b9, 0x300, 0x1f76),
    (0x3bf, 0x300, 0x1f78), (0x3c5, 0x300, 0x1f7a), (0x3c9, 0x300, 0x1f7c),
    (0x3b1, 0x306, 0x1fb0), (0x3b1, 0x304, 0x1fb1), (0x3b1, 0x342, 0x1fb6),
    (0x3b7, 0x342, 0x1fc6), (0x3b9, 0x306, 0x1fd0), (0x3b9, 0x304, 0x1fd1),
    (0x3ca, 0x300, 0x1fd2), (0x3b9, 0x342, 0x1fd6), (0x3ca, 0x342, 0x1fd7),
    (0x3c5, 0x306, 0x1fe0), (0x3c5, 0x304, 0x1fe1), (0x3cb, 0x300, 0x1fe2),
    (0x3c1, 0x313, 0x1fe4), (0x3c1, 0x314, 0x1fe5), (0x3c5, 0x342, 0x1fe6),
    (0x3cb, 0x342, 0x1fe7), (0x3c9, 0x342, 0x1ff6), (0x304b, 0x3099, 0x304c),
    (0x304d, 0x3099, 0x304e), (0x304f, 0x3099, 0x3050), (0x3051, 0x3099, 0x3052),
    (0x3053, 0x3099, 0x3054), (0x3055, 0x3099, 0x3056), (0x3057, 0x3099, 0x3058),
    (0x3059, 0x3099, 0x305a), (0x305b, 0x3099, 0x305c), (0x305d, 0x3099, 0x305e),
    (0x305f, 0x3099, 0x3060), (0x3061, 0x3099, 0x3062), (0x3064, 0x3099, 0x3065),
    (0x3066, 0x3099, 0x3067), (0x3068, 0x3099, 0x3069), (0x306f, 0x3099, 0x3070),
    (0x306f, 0x309a, 0x3071), (0x3072, 0x3099, 0x3073), (0x3072, 0x309a, 0x3074),
    (0x3075, 0x3099, 0x3076), (0x3075, 0x309a, 0x3077), (0x3078, 0x3099, 0x3079),
    (0x3078, 0x309a, 0x307a), (0x307b, 0x3099, 0x307c), (0x307b, 0x309a, 0x307d),
    (0x3046, 0x3099, 0x3094), (0x309d, 0x3099, 0x309e), (0x30ab, 0x3099, 0x30ac),
    (0x30ad, 0x3099, 0x30ae), (0x30af, 0x3099, 0x30b0), (0x30b1, 0x3099, 0x30b2),
    (0x30b3, 0x3099, 0x30b4), (0x30b5, 0x3099, 0x30b6), (0x30b7, 0x3099, 0x30b8),
    (0x30b9, 0x3099, 0x30ba), (0x30bb, 0x3099, 0x30bc), (0x30bd, 0x3099, 0x30be),
    (0x30bf, 0x3099, 0x30c0), (0x30c1, 0x3099, 0x30c2), (0x30c4, 0x3099, 0x30c5),
    (0x30c6, 0x3099, 0x30c7), (0x30c8, 0x3099, 0x30c9), (0x30cf, 0x3099, 0x30d0),
    (0x30cf, 0x309a, 0x30d1), (0x30d2, 0x3099, 0x30d3), (0x30d2, 0x309a, 0x30d4),
    (0x30d5, 0x3099, 0x30d6), (0x30d5, 0x309a, 0x30d7), (0x30d8, 0x3099, 0x30d9),
    (0x30d8, 0x309a, 0x30da), (0x30db, 0x3099, 0x30dc), (0x30db, 0x309a, 0x30dd),
    (0x30a6, 0x3099, 0x30f4), (0x30ef, 0x3099, 0x30f7), (0x30f0, 0x3099, 0x30f8),
    (0x30f1, 0x3099, 0x30f9), (0x30f2, 0x3099, 0x30fa), (0x30fd, 0x3099, 0x30fe),
    (0x11099, 0x110ba, 0x1109a), (0x1109b, 0x110ba, 0x1109c), (0x110a5, 0x110ba, 0x110ab),
    (0x11131, 0x11127, 0x1112e), (0x11132, 0x11127, 0x1112f), (0x11347, 0x1133e, 0x1134b),
    (0x11347, 0x11357, 0x1134c), (0x114b9, 0x114ba, 0x114bb), (0x114b9, 0x114b0, 0x114bc),
    (0x114b9, 0x114bd, 0x114be), (0x115b8, 0x115af, 0x115ba), (0x115b9, 0x115af, 0x115bb),
    (0x11935, 0x11930, 0x11938)
  ]

/-- Code points of characters that others always stand for in a composed text. -/
def replacedRanges : List (Nat × Nat) :=
  [
    (0x340, 0x341), (0x343, 0x344), (0x374, 0x374), (0x37e, 0x37e), (0x387, 0x387),
    (0x958, 0x95f), (0x9dc, 0x9dd), (0x9df, 0x9df), (0xa33, 0xa33), (0xa36, 0xa36),
    (0xa59, 0xa5b), (0xa5e, 0xa5e), (0xb5c, 0xb5d), (0xf43, 0xf43), (0xf4d, 0xf4d),
    (0xf52, 0xf52), (0xf57, 0xf57), (0xf5c, 0xf5c), (0xf69, 0xf69), (0xf73, 0xf73),
    (0xf75, 0xf76), (0xf78, 0xf78), (0xf81, 0xf81), (0xf93, 0xf93), (0xf9d, 0xf9d),
    (0xfa2, 0xfa2), (0xfa7, 0xfa7), (0xfac, 0xfac), (0xfb9, 0xfb9), (0x1f71, 0x1f71),
    (0x1f73, 0x1f73), (0x1f75, 0x1f75), (0x1f77, 0x1f77), (0x1f79, 0x1f79), (0x1f7b, 0x1f7b),
    (0x1f7d, 0x1f7d), (0x1fbb, 0x1fbb), (0x1fbe, 0x1fbe), (0x1fc9, 0x1fc9), (0x1fcb, 0x1fcb),
    (0x1fd3, 0x1fd3), (0x1fdb, 0x1fdb), (0x1fe3, 0x1fe3), (0x1feb, 0x1feb), (0x1fee, 0x1fef),
    (0x1ff9, 0x1ff9), (0x1ffb, 0x1ffb), (0x1ffd, 0x1ffd), (0x2000, 0x2001), (0x2126, 0x2126),
    (0x212a, 0x212b), (0x2329, 0x232a), (0x2adc, 0x2adc), (0xf900, 0xfa0d), (0xfa10, 0xfa10),
    (0xfa12, 0xfa12), (0xfa15, 0xfa1e), (0xfa20, 0xfa20), (0xfa22, 0xfa22), (0xfa25, 0xfa26),
    (0xfa2a, 0xfa6d), (0xfa70, 0xfad9), (0xfb1d, 0xfb1d), (0xfb1f, 0xfb1f), (0xfb2a, 0xfb36),
    (0xfb38, 0xfb3c), (0xfb3e, 0xfb3e), (0xfb40, 0xfb41), (0xfb43, 0xfb44), (0xfb46, 0xfb4e),
    (0x1d15e, 0x1d164), (0x1d1bb, 0x1d1c0), (0x2f800, 0x2fa1d)
  ]

/-- The combining class of a character, which is zero for all but marks. -/
def combiningClass (char : Char) : Nat :=
  match combiningClasses.find? fun range => range.1 ≤ char.toNat && char.toNat ≤ range.2.1 with
  | some range => range.2.2
  | none => 0

/-- The character for a letter with a mark. -/
def composition? (letter mark : Char) : Option Char :=
  (compositions.find? fun entry => entry.1 = letter.toNat && entry.2.1 = mark.toNat).map
    fun entry => Char.ofNat entry.2.2

/-- A letter and at most the given number of marks, for a character that stands for them. -/
def decompose : Nat → Char → List Char
  | 0, char => [char]
  | count + 1, char =>
      match compositions.find? (·.2.2 = char.toNat) with
      | some entry => decompose count (Char.ofNat entry.1) ++ [Char.ofNat entry.2.1]
      | none => [char]

/-- Adds a character to a text with sorted marks, which is held last character first. -/
def insertMark (char : Char) : List Char → List Char
  | [] => [char]
  | last :: before =>
      if combiningClass char ≠ 0 ∧ combiningClass char < combiningClass last then
        last :: insertMark char before
      else char :: last :: before

/-- A text with the marks on each letter in the order of their classes. -/
def sortMarks (text : List Char) : List Char :=
  (text.foldl (fun sorted char => insertMark char sorted) []).reverse

/-- A text in which marks are being joined to letters. -/
structure Assembly where
  /-- What stands before the last letter, last character first. -/
  done : List Char
  /-- The last letter. -/
  letter : Option Char
  /-- The marks after the last letter that it was not joined with, last mark first. -/
  marks : List Char

namespace Assembly

/-- The text so far, last character first. -/
def text (assembly : Assembly) : List Char :=
  assembly.marks ++ assembly.letter.toList ++ assembly.done

/-- The letter that a character is joined to, unless a mark in between keeps it away. -/
def joined? (assembly : Assembly) (char : Char) : Option Char :=
  if assembly.marks.head?.all fun mark => combiningClass mark < combiningClass char then
    assembly.letter.bind fun letter => composition? letter char
  else none

/-- Adds a character. -/
def add (assembly : Assembly) (char : Char) : Assembly :=
  match assembly.joined? char with
  | some letter => { assembly with letter }
  | none =>
      if combiningClass char = 0 then { done := assembly.text, letter := some char, marks := [] }
      else { assembly with marks := char :: assembly.marks }

end Assembly

/-- A text with sorted marks in which letters are joined with their marks. -/
def compose (text : List Char) : List Char :=
  (text.foldl Assembly.add { done := [], letter := none, marks := [] }).text.reverse

/-- Whether a text is composed.  No character stands for a letter with more than three marks. -/
def isComposed (text : List Char) : Bool :=
  !text.any (inRanges replacedRanges) &&
    compose (sortMarks (text.flatMap (decompose 3))) == text

end Text
end Countersign
