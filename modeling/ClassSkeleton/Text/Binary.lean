import ClassSkeleton.Text.Blank
import ClassSkeleton.Text.Category

/-
  ClassSkeleton.Text.Binary — the properties a character has or has not, as of Unicode 16.0.

  Most are a general category or a group of them with a list of further characters, or follow from such
  properties by the rules of the standard; the others are plain lists.
-/

namespace ClassSkeleton.Text.Binary

open CharSet

/-! ### Lists -/

def asciiHexDigit : CharSet := ⟨[0x30, 0x3a, 0x41, 0x47, 0x61, 0x67]⟩

def bidiControl : CharSet := ⟨[0x61c, 0x61d, 0x200e, 0x2010, 0x202a, 0x202f, 0x2066, 0x206a]⟩

def bidiMirrored : CharSet := ⟨[
  0x28, 0x2a, 0x3c, 0x3d, 0x3e, 0x3f, 0x5b, 0x5c, 0x5d, 0x5e, 0x7b, 0x7c, 0x7d, 0x7e, 0xab, 0xac, 0xbb,
  0xbc, 0xf3a, 0xf3e, 0x169b, 0x169d, 0x2039, 0x203b, 0x2045, 0x2047, 0x207d, 0x207f, 0x208d, 0x208f,
  0x2140, 0x2141, 0x2201, 0x2205, 0x2208, 0x220e, 0x2211, 0x2212, 0x2215, 0x2217, 0x221a, 0x221e, 0x221f,
  0x2223, 0x2224, 0x2225, 0x2226, 0x2227, 0x222b, 0x2234, 0x2239, 0x223a, 0x223b, 0x224d, 0x2252, 0x2256,
  0x225f, 0x2261, 0x2262, 0x2263, 0x2264, 0x226c, 0x226d, 0x228d, 0x228f, 0x2293, 0x2298, 0x2299, 0x22a2,
  0x22a4, 0x22a6, 0x22b9, 0x22be, 0x22c0, 0x22c9, 0x22ce, 0x22d0, 0x22d2, 0x22d6, 0x22ee, 0x22f0, 0x2300,
  0x2308, 0x230c, 0x2320, 0x2322, 0x2329, 0x232b, 0x2768, 0x2776, 0x27c0, 0x27c1, 0x27c3, 0x27c7, 0x27c8,
  0x27ca, 0x27cb, 0x27ce, 0x27d3, 0x27d7, 0x27dc, 0x27df, 0x27e2, 0x27f0, 0x2983, 0x2999, 0x299b, 0x29a1,
  0x29a2, 0x29b0, 0x29b8, 0x29b9, 0x29c0, 0x29c6, 0x29c9, 0x29ca, 0x29ce, 0x29d3, 0x29d4, 0x29d6, 0x29d8,
  0x29dd, 0x29e1, 0x29e2, 0x29e3, 0x29e6, 0x29e8, 0x29ea, 0x29f4, 0x29fa, 0x29fc, 0x29fe, 0x2a0a, 0x2a1d,
  0x2a1e, 0x2a22, 0x2a24, 0x2a25, 0x2a26, 0x2a27, 0x2a29, 0x2a2a, 0x2a2b, 0x2a2f, 0x2a34, 0x2a36, 0x2a3c,
  0x2a3f, 0x2a57, 0x2a59, 0x2a64, 0x2a66, 0x2a6a, 0x2a6e, 0x2a6f, 0x2a71, 0x2a73, 0x2a75, 0x2a79, 0x2aa4,
  0x2aa6, 0x2aae, 0x2aaf, 0x2ad7, 0x2adc, 0x2add, 0x2ade, 0x2adf, 0x2ae2, 0x2ae7, 0x2aec, 0x2aef, 0x2af3,
  0x2af4, 0x2af7, 0x2afc, 0x2afd, 0x2afe, 0x2bfe, 0x2bff, 0x2e02, 0x2e06, 0x2e09, 0x2e0b, 0x2e0c, 0x2e0e,
  0x2e1c, 0x2e1e, 0x2e20, 0x2e2a, 0x2e55, 0x2e5d, 0x3008, 0x3012, 0x3014, 0x301c, 0xfe59, 0xfe5f, 0xfe64,
  0xfe66, 0xff08, 0xff0a, 0xff1c, 0xff1d, 0xff1e, 0xff1f, 0xff3b, 0xff3c, 0xff3d, 0xff3e, 0xff5b, 0xff5c,
  0xff5d, 0xff5e, 0xff5f, 0xff61, 0xff62, 0xff64, 0x1d6db, 0x1d6dc, 0x1d715, 0x1d716, 0x1d74f, 0x1d750,
  0x1d789, 0x1d78a, 0x1d7c3, 0x1d7c4]⟩

def dash : CharSet := ⟨[
  0x2d, 0x2e, 0x58a, 0x58b, 0x5be, 0x5bf, 0x1400, 0x1401, 0x1806, 0x1807, 0x2010, 0x2016, 0x2053, 0x2054,
  0x207b, 0x207c, 0x208b, 0x208c, 0x2212, 0x2213, 0x2e17, 0x2e18, 0x2e1a, 0x2e1b, 0x2e3a, 0x2e3c, 0x2e40,
  0x2e41, 0x2e5d, 0x2e5e, 0x301c, 0x301d, 0x3030, 0x3031, 0x30a0, 0x30a1, 0xfe31, 0xfe33, 0xfe58, 0xfe59,
  0xfe63, 0xfe64, 0xff0d, 0xff0e, 0x10d6e, 0x10d6f, 0x10ead, 0x10eae]⟩

def deprecated : CharSet := ⟨[
  0x149, 0x14a, 0x673, 0x674, 0xf77, 0xf78, 0xf79, 0xf7a, 0x17a3, 0x17a5, 0x206a, 0x2070, 0x2329, 0x232b,
  0xe0001, 0xe0002]⟩

def diacritic : CharSet := ⟨[
  0x5e, 0x5f, 0x60, 0x61, 0xa8, 0xa9, 0xaf, 0xb0, 0xb4, 0xb5, 0xb7, 0xb9, 0x2b0, 0x34f, 0x350, 0x358,
  0x35d, 0x363, 0x374, 0x376, 0x37a, 0x37b, 0x384, 0x386, 0x483, 0x488, 0x559, 0x55a, 0x591, 0x5be, 0x5bf,
  0x5c0, 0x5c1, 0x5c3, 0x5c4, 0x5c6, 0x5c7, 0x5c8, 0x64b, 0x653, 0x657, 0x659, 0x6df, 0x6e1, 0x6e5, 0x6e7,
  0x6ea, 0x6ed, 0x730, 0x74b, 0x7a6, 0x7b1, 0x7eb, 0x7f6, 0x818, 0x81a, 0x898, 0x8a0, 0x8c9, 0x8d3, 0x8e3,
  0x8ff, 0x93c, 0x93d, 0x94d, 0x94e, 0x951, 0x955, 0x971, 0x972, 0x9bc, 0x9bd, 0x9cd, 0x9ce, 0xa3c, 0xa3d,
  0xa4d, 0xa4e, 0xabc, 0xabd, 0xacd, 0xace, 0xafd, 0xb00, 0xb3c, 0xb3d, 0xb4d, 0xb4e, 0xb55, 0xb56, 0xbcd,
  0xbce, 0xc3c, 0xc3d, 0xc4d, 0xc4e, 0xcbc, 0xcbd, 0xccd, 0xcce, 0xd3b, 0xd3d, 0xd4d, 0xd4e, 0xdca, 0xdcb,
  0xe3a, 0xe3b, 0xe47, 0xe4d, 0xe4e, 0xe4f, 0xeba, 0xebb, 0xec8, 0xecd, 0xf18, 0xf1a, 0xf35, 0xf36, 0xf37,
  0xf38, 0xf39, 0xf3a, 0xf3e, 0xf40, 0xf82, 0xf85, 0xf86, 0xf88, 0xfc6, 0xfc7, 0x1037, 0x1038, 0x1039,
  0x103b, 0x1063, 0x1065, 0x1069, 0x106e, 0x1087, 0x108e, 0x108f, 0x1090, 0x109a, 0x109c, 0x135d, 0x1360,
  0x1714, 0x1716, 0x1734, 0x1735, 0x17c9, 0x17d4, 0x17dd, 0x17de, 0x1939, 0x193c, 0x1a60, 0x1a61, 0x1a75,
  0x1a7d, 0x1a7f, 0x1a80, 0x1ab0, 0x1abf, 0x1ac1, 0x1acc, 0x1b34, 0x1b35, 0x1b44, 0x1b45, 0x1b6b, 0x1b74,
  0x1baa, 0x1bac, 0x1be6, 0x1be7, 0x1bf2, 0x1bf4, 0x1c36, 0x1c38, 0x1c78, 0x1c7e, 0x1cd0, 0x1ce9, 0x1ced,
  0x1cee, 0x1cf4, 0x1cf5, 0x1cf7, 0x1cfa, 0x1d2c, 0x1d6b, 0x1d9b, 0x1dbf, 0x1dc4, 0x1dd0, 0x1df5, 0x1e00,
  0x1fbd, 0x1fbe, 0x1fbf, 0x1fc2, 0x1fcd, 0x1fd0, 0x1fdd, 0x1fe0, 0x1fed, 0x1ff0, 0x1ffd, 0x1fff, 0x2cef,
  0x2cf2, 0x2e2f, 0x2e30, 0x302a, 0x3030, 0x3099, 0x309d, 0x30fc, 0x30fd, 0xa66f, 0xa670, 0xa67c, 0xa67e,
  0xa67f, 0xa680, 0xa69c, 0xa69e, 0xa6f0, 0xa6f2, 0xa700, 0xa722, 0xa788, 0xa78b, 0xa7f8, 0xa7fa, 0xa806,
  0xa807, 0xa82c, 0xa82d, 0xa8c4, 0xa8c5, 0xa8e0, 0xa8f2, 0xa92b, 0xa92f, 0xa953, 0xa954, 0xa9b3, 0xa9b4,
  0xa9c0, 0xa9c1, 0xa9e5, 0xa9e6, 0xaa7b, 0xaa7e, 0xaabf, 0xaac3, 0xaaf6, 0xaaf7, 0xab5b, 0xab60, 0xab69,
  0xab6c, 0xabec, 0xabee, 0xfb1e, 0xfb1f, 0xfe20, 0xfe30, 0xff3e, 0xff3f, 0xff40, 0xff41, 0xff70, 0xff71,
  0xff9e, 0xffa0, 0xffe3, 0xffe4, 0x102e0, 0x102e1, 0x10780, 0x10786, 0x10787, 0x107b1, 0x107b2, 0x107bb,
  0x10a38, 0x10a3b, 0x10a3f, 0x10a40, 0x10ae5, 0x10ae7, 0x10d22, 0x10d28, 0x10d4e, 0x10d4f, 0x10d69,
  0x10d6e, 0x10efd, 0x10f00, 0x10f46, 0x10f51, 0x10f82, 0x10f86, 0x11046, 0x11047, 0x11070, 0x11071,
  0x110b9, 0x110bb, 0x11133, 0x11135, 0x11173, 0x11174, 0x111c0, 0x111c1, 0x111ca, 0x111cd, 0x11235,
  0x11237, 0x112e9, 0x112eb, 0x1133b, 0x1133d, 0x1134d, 0x1134e, 0x11366, 0x1136d, 0x11370, 0x11375,
  0x113ce, 0x113d1, 0x113d2, 0x113d4, 0x113e1, 0x113e3, 0x11442, 0x11443, 0x11446, 0x11447, 0x114c2,
  0x114c4, 0x115bf, 0x115c1, 0x1163f, 0x11640, 0x116b6, 0x116b8, 0x1172b, 0x1172c, 0x11839, 0x1183b,
  0x1193d, 0x1193f, 0x11943, 0x11944, 0x119e0, 0x119e1, 0x11a34, 0x11a35, 0x11a47, 0x11a48, 0x11a99,
  0x11a9a, 0x11c3f, 0x11c40, 0x11d42, 0x11d43, 0x11d44, 0x11d46, 0x11d97, 0x11d98, 0x11f41, 0x11f43,
  0x11f5a, 0x11f5b, 0x13447, 0x13456, 0x1612f, 0x16130, 0x16af0, 0x16af5, 0x16b30, 0x16b37, 0x16d6b,
  0x16d6d, 0x16f8f, 0x16fa0, 0x16ff0, 0x16ff2, 0x1aff0, 0x1aff4, 0x1aff5, 0x1affc, 0x1affd, 0x1afff,
  0x1cf00, 0x1cf2e, 0x1cf30, 0x1cf47, 0x1d167, 0x1d16a, 0x1d16d, 0x1d173, 0x1d17b, 0x1d183, 0x1d185,
  0x1d18c, 0x1d1aa, 0x1d1ae, 0x1e030, 0x1e06e, 0x1e130, 0x1e137, 0x1e2ae, 0x1e2af, 0x1e2ec, 0x1e2f0,
  0x1e5ee, 0x1e5f0, 0x1e8d0, 0x1e8d7, 0x1e944, 0x1e947, 0x1e948, 0x1e94b]⟩

def emoji : CharSet := ⟨[
  0x23, 0x24, 0x2a, 0x2b, 0x30, 0x3a, 0xa9, 0xaa, 0xae, 0xaf, 0x203c, 0x203d, 0x2049, 0x204a, 0x2122,
  0x2123, 0x2139, 0x213a, 0x2194, 0x219a, 0x21a9, 0x21ab, 0x231a, 0x231c, 0x2328, 0x2329, 0x23cf, 0x23d0,
  0x23e9, 0x23f4, 0x23f8, 0x23fb, 0x24c2, 0x24c3, 0x25aa, 0x25ac, 0x25b6, 0x25b7, 0x25c0, 0x25c1, 0x25fb,
  0x25ff, 0x2600, 0x2605, 0x260e, 0x260f, 0x2611, 0x2612, 0x2614, 0x2616, 0x2618, 0x2619, 0x261d, 0x261e,
  0x2620, 0x2621, 0x2622, 0x2624, 0x2626, 0x2627, 0x262a, 0x262b, 0x262e, 0x2630, 0x2638, 0x263b, 0x2640,
  0x2641, 0x2642, 0x2643, 0x2648, 0x2654, 0x265f, 0x2661, 0x2663, 0x2664, 0x2665, 0x2667, 0x2668, 0x2669,
  0x267b, 0x267c, 0x267e, 0x2680, 0x2692, 0x2698, 0x2699, 0x269a, 0x269b, 0x269d, 0x26a0, 0x26a2, 0x26a7,
  0x26a8, 0x26aa, 0x26ac, 0x26b0, 0x26b2, 0x26bd, 0x26bf, 0x26c4, 0x26c6, 0x26c8, 0x26c9, 0x26ce, 0x26d0,
  0x26d1, 0x26d2, 0x26d3, 0x26d5, 0x26e9, 0x26eb, 0x26f0, 0x26f6, 0x26f7, 0x26fb, 0x26fd, 0x26fe, 0x2702,
  0x2703, 0x2705, 0x2706, 0x2708, 0x270e, 0x270f, 0x2710, 0x2712, 0x2713, 0x2714, 0x2715, 0x2716, 0x2717,
  0x271d, 0x271e, 0x2721, 0x2722, 0x2728, 0x2729, 0x2733, 0x2735, 0x2744, 0x2745, 0x2747, 0x2748, 0x274c,
  0x274d, 0x274e, 0x274f, 0x2753, 0x2756, 0x2757, 0x2758, 0x2763, 0x2765, 0x2795, 0x2798, 0x27a1, 0x27a2,
  0x27b0, 0x27b1, 0x27bf, 0x27c0, 0x2934, 0x2936, 0x2b05, 0x2b08, 0x2b1b, 0x2b1d, 0x2b50, 0x2b51, 0x2b55,
  0x2b56, 0x3030, 0x3031, 0x303d, 0x303e, 0x3297, 0x3298, 0x3299, 0x329a, 0x1f004, 0x1f005, 0x1f0cf,
  0x1f0d0, 0x1f170, 0x1f172, 0x1f17e, 0x1f180, 0x1f18e, 0x1f18f, 0x1f191, 0x1f19b, 0x1f1e6, 0x1f200,
  0x1f201, 0x1f203, 0x1f21a, 0x1f21b, 0x1f22f, 0x1f230, 0x1f232, 0x1f23b, 0x1f250, 0x1f252, 0x1f300,
  0x1f322, 0x1f324, 0x1f394, 0x1f396, 0x1f398, 0x1f399, 0x1f39c, 0x1f39e, 0x1f3f1, 0x1f3f3, 0x1f3f6,
  0x1f3f7, 0x1f4fe, 0x1f4ff, 0x1f53e, 0x1f549, 0x1f54f, 0x1f550, 0x1f568, 0x1f56f, 0x1f571, 0x1f573,
  0x1f57b, 0x1f587, 0x1f588, 0x1f58a, 0x1f58e, 0x1f590, 0x1f591, 0x1f595, 0x1f597, 0x1f5a4, 0x1f5a6,
  0x1f5a8, 0x1f5a9, 0x1f5b1, 0x1f5b3, 0x1f5bc, 0x1f5bd, 0x1f5c2, 0x1f5c5, 0x1f5d1, 0x1f5d4, 0x1f5dc,
  0x1f5df, 0x1f5e1, 0x1f5e2, 0x1f5e3, 0x1f5e4, 0x1f5e8, 0x1f5e9, 0x1f5ef, 0x1f5f0, 0x1f5f3, 0x1f5f4,
  0x1f5fa, 0x1f650, 0x1f680, 0x1f6c6, 0x1f6cb, 0x1f6d3, 0x1f6d5, 0x1f6d8, 0x1f6dc, 0x1f6e6, 0x1f6e9,
  0x1f6ea, 0x1f6eb, 0x1f6ed, 0x1f6f0, 0x1f6f1, 0x1f6f3, 0x1f6fd, 0x1f7e0, 0x1f7ec, 0x1f7f0, 0x1f7f1,
  0x1f90c, 0x1f93b, 0x1f93c, 0x1f946, 0x1f947, 0x1fa00, 0x1fa70, 0x1fa7d, 0x1fa80, 0x1fa8a, 0x1fa8f,
  0x1fac7, 0x1face, 0x1fadd, 0x1fadf, 0x1faea, 0x1faf0, 0x1faf9]⟩

def emojiComponent : CharSet := ⟨[
  0x23, 0x24, 0x2a, 0x2b, 0x30, 0x3a, 0x200d, 0x200e, 0x20e3, 0x20e4, 0xfe0f, 0xfe10, 0x1f1e6, 0x1f200,
  0x1f3fb, 0x1f400, 0x1f9b0, 0x1f9b4, 0xe0020, 0xe0080]⟩

def emojiModifier : CharSet := ⟨[0x1f3fb, 0x1f400]⟩

def emojiModifierBase : CharSet := ⟨[
  0x261d, 0x261e, 0x26f9, 0x26fa, 0x270a, 0x270e, 0x1f385, 0x1f386, 0x1f3c2, 0x1f3c5, 0x1f3c7, 0x1f3c8,
  0x1f3ca, 0x1f3cd, 0x1f442, 0x1f444, 0x1f446, 0x1f451, 0x1f466, 0x1f479, 0x1f47c, 0x1f47d, 0x1f481,
  0x1f484, 0x1f485, 0x1f488, 0x1f48f, 0x1f490, 0x1f491, 0x1f492, 0x1f4aa, 0x1f4ab, 0x1f574, 0x1f576,
  0x1f57a, 0x1f57b, 0x1f590, 0x1f591, 0x1f595, 0x1f597, 0x1f645, 0x1f648, 0x1f64b, 0x1f650, 0x1f6a3,
  0x1f6a4, 0x1f6b4, 0x1f6b7, 0x1f6c0, 0x1f6c1, 0x1f6cc, 0x1f6cd, 0x1f90c, 0x1f90d, 0x1f90f, 0x1f910,
  0x1f918, 0x1f920, 0x1f926, 0x1f927, 0x1f930, 0x1f93a, 0x1f93c, 0x1f93f, 0x1f977, 0x1f978, 0x1f9b5,
  0x1f9b7, 0x1f9b8, 0x1f9ba, 0x1f9bb, 0x1f9bc, 0x1f9cd, 0x1f9d0, 0x1f9d1, 0x1f9de, 0x1fac3, 0x1fac6,
  0x1faf0, 0x1faf9]⟩

def emojiPresentation : CharSet := ⟨[
  0x231a, 0x231c, 0x23e9, 0x23ed, 0x23f0, 0x23f1, 0x23f3, 0x23f4, 0x25fd, 0x25ff, 0x2614, 0x2616, 0x2648,
  0x2654, 0x267f, 0x2680, 0x2693, 0x2694, 0x26a1, 0x26a2, 0x26aa, 0x26ac, 0x26bd, 0x26bf, 0x26c4, 0x26c6,
  0x26ce, 0x26cf, 0x26d4, 0x26d5, 0x26ea, 0x26eb, 0x26f2, 0x26f4, 0x26f5, 0x26f6, 0x26fa, 0x26fb, 0x26fd,
  0x26fe, 0x2705, 0x2706, 0x270a, 0x270c, 0x2728, 0x2729, 0x274c, 0x274d, 0x274e, 0x274f, 0x2753, 0x2756,
  0x2757, 0x2758, 0x2795, 0x2798, 0x27b0, 0x27b1, 0x27bf, 0x27c0, 0x2b1b, 0x2b1d, 0x2b50, 0x2b51, 0x2b55,
  0x2b56, 0x1f004, 0x1f005, 0x1f0cf, 0x1f0d0, 0x1f18e, 0x1f18f, 0x1f191, 0x1f19b, 0x1f1e6, 0x1f200,
  0x1f201, 0x1f202, 0x1f21a, 0x1f21b, 0x1f22f, 0x1f230, 0x1f232, 0x1f237, 0x1f238, 0x1f23b, 0x1f250,
  0x1f252, 0x1f300, 0x1f321, 0x1f32d, 0x1f336, 0x1f337, 0x1f37d, 0x1f37e, 0x1f394, 0x1f3a0, 0x1f3cb,
  0x1f3cf, 0x1f3d4, 0x1f3e0, 0x1f3f1, 0x1f3f4, 0x1f3f5, 0x1f3f8, 0x1f43f, 0x1f440, 0x1f441, 0x1f442,
  0x1f4fd, 0x1f4ff, 0x1f53e, 0x1f54b, 0x1f54f, 0x1f550, 0x1f568, 0x1f57a, 0x1f57b, 0x1f595, 0x1f597,
  0x1f5a4, 0x1f5a5, 0x1f5fb, 0x1f650, 0x1f680, 0x1f6c6, 0x1f6cc, 0x1f6cd, 0x1f6d0, 0x1f6d3, 0x1f6d5,
  0x1f6d8, 0x1f6dc, 0x1f6e0, 0x1f6eb, 0x1f6ed, 0x1f6f4, 0x1f6fd, 0x1f7e0, 0x1f7ec, 0x1f7f0, 0x1f7f1,
  0x1f90c, 0x1f93b, 0x1f93c, 0x1f946, 0x1f947, 0x1fa00, 0x1fa70, 0x1fa7d, 0x1fa80, 0x1fa8a, 0x1fa8f,
  0x1fac7, 0x1face, 0x1fadd, 0x1fadf, 0x1faea, 0x1faf0, 0x1faf9]⟩

def extendedPictographic : CharSet := ⟨[
  0xa9, 0xaa, 0xae, 0xaf, 0x203c, 0x203d, 0x2049, 0x204a, 0x2122, 0x2123, 0x2139, 0x213a, 0x2194, 0x219a,
  0x21a9, 0x21ab, 0x231a, 0x231c, 0x2328, 0x2329, 0x2388, 0x2389, 0x23cf, 0x23d0, 0x23e9, 0x23f4, 0x23f8,
  0x23fb, 0x24c2, 0x24c3, 0x25aa, 0x25ac, 0x25b6, 0x25b7, 0x25c0, 0x25c1, 0x25fb, 0x25ff, 0x2600, 0x2606,
  0x2607, 0x2613, 0x2614, 0x2686, 0x2690, 0x2706, 0x2708, 0x2713, 0x2714, 0x2715, 0x2716, 0x2717, 0x271d,
  0x271e, 0x2721, 0x2722, 0x2728, 0x2729, 0x2733, 0x2735, 0x2744, 0x2745, 0x2747, 0x2748, 0x274c, 0x274d,
  0x274e, 0x274f, 0x2753, 0x2756, 0x2757, 0x2758, 0x2763, 0x2768, 0x2795, 0x2798, 0x27a1, 0x27a2, 0x27b0,
  0x27b1, 0x27bf, 0x27c0, 0x2934, 0x2936, 0x2b05, 0x2b08, 0x2b1b, 0x2b1d, 0x2b50, 0x2b51, 0x2b55, 0x2b56,
  0x3030, 0x3031, 0x303d, 0x303e, 0x3297, 0x3298, 0x3299, 0x329a, 0x1f000, 0x1f100, 0x1f10d, 0x1f110,
  0x1f12f, 0x1f130, 0x1f16c, 0x1f172, 0x1f17e, 0x1f180, 0x1f18e, 0x1f18f, 0x1f191, 0x1f19b, 0x1f1ad,
  0x1f1e6, 0x1f201, 0x1f210, 0x1f21a, 0x1f21b, 0x1f22f, 0x1f230, 0x1f232, 0x1f23b, 0x1f23c, 0x1f240,
  0x1f249, 0x1f3fb, 0x1f400, 0x1f53e, 0x1f546, 0x1f650, 0x1f680, 0x1f700, 0x1f774, 0x1f780, 0x1f7d5,
  0x1f800, 0x1f80c, 0x1f810, 0x1f848, 0x1f850, 0x1f85a, 0x1f860, 0x1f888, 0x1f890, 0x1f8ae, 0x1f900,
  0x1f90c, 0x1f93b, 0x1f93c, 0x1f946, 0x1f947, 0x1fb00, 0x1fc00, 0x1fffe]⟩

def extender : CharSet := ⟨[
  0xb7, 0xb8, 0x2d0, 0x2d2, 0x640, 0x641, 0x7fa, 0x7fb, 0xa71, 0xa72, 0xafb, 0xafc, 0xb55, 0xb56, 0xe46,
  0xe47, 0xec6, 0xec7, 0x180a, 0x180b, 0x1843, 0x1844, 0x1aa7, 0x1aa8, 0x1c36, 0x1c37, 0x1c7b, 0x1c7c,
  0x3005, 0x3006, 0x3031, 0x3036, 0x309d, 0x309f, 0x30fc, 0x30ff, 0xa015, 0xa016, 0xa60c, 0xa60d, 0xa9cf,
  0xa9d0, 0xa9e6, 0xa9e7, 0xaa70, 0xaa71, 0xaadd, 0xaade, 0xaaf3, 0xaaf5, 0xff70, 0xff71, 0x10781, 0x10783,
  0x10d4e, 0x10d4f, 0x10d6a, 0x10d6b, 0x10d6f, 0x10d70, 0x11237, 0x11238, 0x1135d, 0x1135e, 0x113d2,
  0x113d4, 0x115c6, 0x115c9, 0x11a98, 0x11a99, 0x16b42, 0x16b44, 0x16fe0, 0x16fe2, 0x16fe3, 0x16fe4,
  0x1e13c, 0x1e13e, 0x1e5ef, 0x1e5f0, 0x1e944, 0x1e947]⟩

def graphemeLink : CharSet := ⟨[
  0x94d, 0x94e, 0x9cd, 0x9ce, 0xa4d, 0xa4e, 0xacd, 0xace, 0xb4d, 0xb4e, 0xbcd, 0xbce, 0xc4d, 0xc4e, 0xccd,
  0xcce, 0xd3b, 0xd3d, 0xd4d, 0xd4e, 0xdca, 0xdcb, 0xe3a, 0xe3b, 0xeba, 0xebb, 0xf84, 0xf85, 0x1039,
  0x103b, 0x1714, 0x1716, 0x1734, 0x1735, 0x17d2, 0x17d3, 0x1a60, 0x1a61, 0x1b44, 0x1b45, 0x1baa, 0x1bac,
  0x1bf2, 0x1bf4, 0x2d7f, 0x2d80, 0xa806, 0xa807, 0xa82c, 0xa82d, 0xa8c4, 0xa8c5, 0xa953, 0xa954, 0xa9c0,
  0xa9c1, 0xaaf6, 0xaaf7, 0xabed, 0xabee, 0x10a3f, 0x10a40, 0x11046, 0x11047, 0x11070, 0x11071, 0x1107f,
  0x11080, 0x110b9, 0x110ba, 0x11133, 0x11135, 0x111c0, 0x111c1, 0x11235, 0x11236, 0x112ea, 0x112eb,
  0x1134d, 0x1134e, 0x113ce, 0x113d1, 0x11442, 0x11443, 0x114c2, 0x114c3, 0x115bf, 0x115c0, 0x1163f,
  0x11640, 0x116b6, 0x116b7, 0x1172b, 0x1172c, 0x11839, 0x1183a, 0x1193d, 0x1193f, 0x119e0, 0x119e1,
  0x11a34, 0x11a35, 0x11a47, 0x11a48, 0x11a99, 0x11a9a, 0x11c3f, 0x11c40, 0x11d44, 0x11d46, 0x11d97,
  0x11d98, 0x11f41, 0x11f43, 0x1612f, 0x16130]⟩

def hexDigit : CharSet := ⟨[
  0x30, 0x3a, 0x41, 0x47, 0x61, 0x67, 0xff10, 0xff1a, 0xff21, 0xff27, 0xff41, 0xff47]⟩

def hyphen : CharSet := ⟨[
  0x2d, 0x2e, 0xad, 0xae, 0x58a, 0x58b, 0x1806, 0x1807, 0x2010, 0x2012, 0x2e17, 0x2e18, 0x30fb, 0x30fc,
  0xfe63, 0xfe64, 0xff0d, 0xff0e, 0xff65, 0xff66]⟩

def idsBinaryOperator : CharSet := ⟨[0x2ff0, 0x2ff2, 0x2ff4, 0x2ffe, 0x31ef, 0x31f0]⟩

def idsTrinaryOperator : CharSet := ⟨[0x2ff2, 0x2ff4]⟩

def idsUnaryOperator : CharSet := ⟨[0x2ffe, 0x3000]⟩

def idCompatMathStart : CharSet := ⟨[
  0x2202, 0x2203, 0x2207, 0x2208, 0x221e, 0x221f, 0x1d6c1, 0x1d6c2, 0x1d6db, 0x1d6dc, 0x1d6fb, 0x1d6fc,
  0x1d715, 0x1d716, 0x1d735, 0x1d736, 0x1d74f, 0x1d750, 0x1d76f, 0x1d770, 0x1d789, 0x1d78a, 0x1d7a9,
  0x1d7aa, 0x1d7c3, 0x1d7c4]⟩

def ideographic : CharSet := ⟨[
  0x3006, 0x3008, 0x3021, 0x302a, 0x3038, 0x303b, 0x3400, 0x4dc0, 0x4e00, 0xa000, 0xf900, 0xfa6e, 0xfa70,
  0xfada, 0x16fe4, 0x16fe5, 0x17000, 0x187f8, 0x18800, 0x18cd6, 0x18cff, 0x18d09, 0x1b170, 0x1b2fc,
  0x20000, 0x2a6e0, 0x2a700, 0x2b73a, 0x2b740, 0x2b81e, 0x2b820, 0x2cea2, 0x2ceb0, 0x2ebe1, 0x2ebf0,
  0x2ee5e, 0x2f800, 0x2fa1e, 0x30000, 0x3134b, 0x31350, 0x323b0]⟩

def joinControl : CharSet := ⟨[0x200c, 0x200e]⟩

def logicalOrderException : CharSet := ⟨[
  0xe40, 0xe45, 0xec0, 0xec5, 0x19b5, 0x19b8, 0x19ba, 0x19bb, 0xaab5, 0xaab7, 0xaab9, 0xaaba, 0xaabb,
  0xaabd]⟩

def modifierCombiningMark : CharSet := ⟨[
  0x654, 0x656, 0x658, 0x659, 0x6dc, 0x6dd, 0x6e3, 0x6e4, 0x6e7, 0x6e9, 0x8ca, 0x8cc, 0x8cd, 0x8d0, 0x8d3,
  0x8d4, 0x8f3, 0x8f4]⟩

def noncharacter : CharSet := ⟨[
  0xfdd0, 0xfdf0, 0xfffe, 0x10000, 0x1fffe, 0x20000, 0x2fffe, 0x30000, 0x3fffe, 0x40000, 0x4fffe, 0x50000,
  0x5fffe, 0x60000, 0x6fffe, 0x70000, 0x7fffe, 0x80000, 0x8fffe, 0x90000, 0x9fffe, 0xa0000, 0xafffe,
  0xb0000, 0xbfffe, 0xc0000, 0xcfffe, 0xd0000, 0xdfffe, 0xe0000, 0xefffe, 0xf0000, 0xffffe, 0x100000,
  0x10fffe, 0x110000]⟩

/-- The alphabetic characters that are neither letters nor letter numbers. -/
def otherAlphabetic : CharSet := ⟨[
  0x345, 0x346, 0x363, 0x370, 0x5b0, 0x5be, 0x5bf, 0x5c0, 0x5c1, 0x5c3, 0x5c4, 0x5c6, 0x5c7, 0x5c8, 0x610,
  0x61b, 0x64b, 0x658, 0x659, 0x660, 0x670, 0x671, 0x6d6, 0x6dd, 0x6e1, 0x6e5, 0x6e7, 0x6e9, 0x6ed, 0x6ee,
  0x711, 0x712, 0x730, 0x740, 0x7a6, 0x7b1, 0x816, 0x818, 0x81b, 0x824, 0x825, 0x828, 0x829, 0x82d, 0x897,
  0x898, 0x8d4, 0x8e0, 0x8e3, 0x8ea, 0x8f0, 0x904, 0x93a, 0x93c, 0x93e, 0x94d, 0x94e, 0x950, 0x955, 0x958,
  0x962, 0x964, 0x981, 0x984, 0x9be, 0x9c5, 0x9c7, 0x9c9, 0x9cb, 0x9cd, 0x9d7, 0x9d8, 0x9e2, 0x9e4, 0xa01,
  0xa04, 0xa3e, 0xa43, 0xa47, 0xa49, 0xa4b, 0xa4d, 0xa51, 0xa52, 0xa70, 0xa72, 0xa75, 0xa76, 0xa81, 0xa84,
  0xabe, 0xac6, 0xac7, 0xaca, 0xacb, 0xacd, 0xae2, 0xae4, 0xafa, 0xafd, 0xb01, 0xb04, 0xb3e, 0xb45, 0xb47,
  0xb49, 0xb4b, 0xb4d, 0xb56, 0xb58, 0xb62, 0xb64, 0xb82, 0xb83, 0xbbe, 0xbc3, 0xbc6, 0xbc9, 0xbca, 0xbcd,
  0xbd7, 0xbd8, 0xc00, 0xc05, 0xc3e, 0xc45, 0xc46, 0xc49, 0xc4a, 0xc4d, 0xc55, 0xc57, 0xc62, 0xc64, 0xc81,
  0xc84, 0xcbe, 0xcc5, 0xcc6, 0xcc9, 0xcca, 0xccd, 0xcd5, 0xcd7, 0xce2, 0xce4, 0xcf3, 0xcf4, 0xd00, 0xd04,
  0xd3e, 0xd45, 0xd46, 0xd49, 0xd4a, 0xd4d, 0xd57, 0xd58, 0xd62, 0xd64, 0xd81, 0xd84, 0xdcf, 0xdd5, 0xdd6,
  0xdd7, 0xdd8, 0xde0, 0xdf2, 0xdf4, 0xe31, 0xe32, 0xe34, 0xe3b, 0xe4d, 0xe4e, 0xeb1, 0xeb2, 0xeb4, 0xeba,
  0xebb, 0xebd, 0xecd, 0xece, 0xf71, 0xf84, 0xf8d, 0xf98, 0xf99, 0xfbd, 0x102b, 0x1037, 0x1038, 0x1039,
  0x103b, 0x103f, 0x1056, 0x105a, 0x105e, 0x1061, 0x1062, 0x1065, 0x1067, 0x106e, 0x1071, 0x1075, 0x1082,
  0x108e, 0x108f, 0x1090, 0x109a, 0x109e, 0x1712, 0x1714, 0x1732, 0x1734, 0x1752, 0x1754, 0x1772, 0x1774,
  0x17b6, 0x17c9, 0x1885, 0x1887, 0x18a9, 0x18aa, 0x1920, 0x192c, 0x1930, 0x1939, 0x1a17, 0x1a1c, 0x1a55,
  0x1a5f, 0x1a61, 0x1a75, 0x1abf, 0x1ac1, 0x1acc, 0x1acf, 0x1b00, 0x1b05, 0x1b35, 0x1b44, 0x1b80, 0x1b83,
  0x1ba1, 0x1baa, 0x1bac, 0x1bae, 0x1be7, 0x1bf2, 0x1c24, 0x1c37, 0x1dd3, 0x1df5, 0x24b6, 0x24ea, 0x2de0,
  0x2e00, 0xa674, 0xa67c, 0xa69e, 0xa6a0, 0xa802, 0xa803, 0xa80b, 0xa80c, 0xa823, 0xa828, 0xa880, 0xa882,
  0xa8b4, 0xa8c4, 0xa8c5, 0xa8c6, 0xa8ff, 0xa900, 0xa926, 0xa92b, 0xa947, 0xa953, 0xa980, 0xa984, 0xa9b4,
  0xa9c0, 0xa9e5, 0xa9e6, 0xaa29, 0xaa37, 0xaa43, 0xaa44, 0xaa4c, 0xaa4e, 0xaa7b, 0xaa7e, 0xaab0, 0xaab1,
  0xaab2, 0xaab5, 0xaab7, 0xaab9, 0xaabe, 0xaabf, 0xaaeb, 0xaaf0, 0xaaf5, 0xaaf6, 0xabe3, 0xabeb, 0xfb1e,
  0xfb1f, 0x10376, 0x1037b, 0x10a01, 0x10a04, 0x10a05, 0x10a07, 0x10a0c, 0x10a10, 0x10d24, 0x10d28,
  0x10d69, 0x10d6a, 0x10eab, 0x10ead, 0x10efc, 0x10efd, 0x11000, 0x11003, 0x11038, 0x11046, 0x11073,
  0x11075, 0x11080, 0x11083, 0x110b0, 0x110b9, 0x110c2, 0x110c3, 0x11100, 0x11103, 0x11127, 0x11133,
  0x11145, 0x11147, 0x11180, 0x11183, 0x111b3, 0x111c0, 0x111ce, 0x111d0, 0x1122c, 0x11235, 0x11237,
  0x11238, 0x1123e, 0x1123f, 0x11241, 0x11242, 0x112df, 0x112e9, 0x11300, 0x11304, 0x1133e, 0x11345,
  0x11347, 0x11349, 0x1134b, 0x1134d, 0x11357, 0x11358, 0x11362, 0x11364, 0x113b8, 0x113c1, 0x113c2,
  0x113c3, 0x113c5, 0x113c6, 0x113c7, 0x113cb, 0x113cc, 0x113ce, 0x11435, 0x11442, 0x11443, 0x11446,
  0x114b0, 0x114c2, 0x115af, 0x115b6, 0x115b8, 0x115bf, 0x115dc, 0x115de, 0x11630, 0x1163f, 0x11640,
  0x11641, 0x116ab, 0x116b6, 0x1171d, 0x1172b, 0x1182c, 0x11839, 0x11930, 0x11936, 0x11937, 0x11939,
  0x1193b, 0x1193d, 0x11940, 0x11941, 0x11942, 0x11943, 0x119d1, 0x119d8, 0x119da, 0x119e0, 0x119e4,
  0x119e5, 0x11a01, 0x11a0b, 0x11a35, 0x11a3a, 0x11a3b, 0x11a3f, 0x11a51, 0x11a5c, 0x11a8a, 0x11a98,
  0x11c2f, 0x11c37, 0x11c38, 0x11c3f, 0x11c92, 0x11ca8, 0x11ca9, 0x11cb7, 0x11d31, 0x11d37, 0x11d3a,
  0x11d3b, 0x11d3c, 0x11d3e, 0x11d3f, 0x11d42, 0x11d43, 0x11d44, 0x11d47, 0x11d48, 0x11d8a, 0x11d8f,
  0x11d90, 0x11d92, 0x11d93, 0x11d97, 0x11ef3, 0x11ef7, 0x11f00, 0x11f02, 0x11f03, 0x11f04, 0x11f34,
  0x11f3b, 0x11f3e, 0x11f41, 0x1611e, 0x1612f, 0x16f4f, 0x16f50, 0x16f51, 0x16f88, 0x16f8f, 0x16f93,
  0x16ff0, 0x16ff2, 0x1bc9e, 0x1bc9f, 0x1e000, 0x1e007, 0x1e008, 0x1e019, 0x1e01b, 0x1e022, 0x1e023,
  0x1e025, 0x1e026, 0x1e02b, 0x1e08f, 0x1e090, 0x1e947, 0x1e948, 0x1f130, 0x1f14a, 0x1f150, 0x1f16a,
  0x1f170, 0x1f18a]⟩

def otherDefaultIgnorable : CharSet := ⟨[
  0x34f, 0x350, 0x115f, 0x1161, 0x17b4, 0x17b6, 0x2065, 0x2066, 0x3164, 0x3165, 0xffa0, 0xffa1, 0xfff0,
  0xfff9, 0xe0000, 0xe0001, 0xe0002, 0xe0020, 0xe0080, 0xe0100, 0xe01f0, 0xe1000]⟩

def otherGraphemeExtend : CharSet := ⟨[
  0x9be, 0x9bf, 0x9d7, 0x9d8, 0xb3e, 0xb3f, 0xb57, 0xb58, 0xbbe, 0xbbf, 0xbd7, 0xbd8, 0xcc0, 0xcc1, 0xcc2,
  0xcc3, 0xcc7, 0xcc9, 0xcca, 0xccc, 0xcd5, 0xcd7, 0xd3e, 0xd3f, 0xd57, 0xd58, 0xdcf, 0xdd0, 0xddf, 0xde0,
  0x1715, 0x1716, 0x1734, 0x1735, 0x1b35, 0x1b36, 0x1b3b, 0x1b3c, 0x1b3d, 0x1b3e, 0x1b43, 0x1b45, 0x1baa,
  0x1bab, 0x1bf2, 0x1bf4, 0x200c, 0x200d, 0x302e, 0x3030, 0xa953, 0xa954, 0xa9c0, 0xa9c1, 0xff9e, 0xffa0,
  0x111c0, 0x111c1, 0x11235, 0x11236, 0x1133e, 0x1133f, 0x1134d, 0x1134e, 0x11357, 0x11358, 0x113b8,
  0x113b9, 0x113c2, 0x113c3, 0x113c5, 0x113c6, 0x113c7, 0x113ca, 0x113cf, 0x113d0, 0x114b0, 0x114b1,
  0x114bd, 0x114be, 0x115af, 0x115b0, 0x116b6, 0x116b7, 0x11930, 0x11931, 0x1193d, 0x1193e, 0x11f41,
  0x11f42, 0x16ff0, 0x16ff2, 0x1d165, 0x1d167, 0x1d16d, 0x1d173, 0xe0020, 0xe0080]⟩

def otherIdContinue : CharSet := ⟨[
  0xb7, 0xb8, 0x387, 0x388, 0x1369, 0x1372, 0x19da, 0x19db, 0x200c, 0x200e, 0x30fb, 0x30fc, 0xff65, 0xff66]⟩

def otherIdStart : CharSet := ⟨[0x1885, 0x1887, 0x2118, 0x2119, 0x212e, 0x212f, 0x309b, 0x309d]⟩

def otherLowercase : CharSet := ⟨[
  0xaa, 0xab, 0xba, 0xbb, 0x2b0, 0x2b9, 0x2c0, 0x2c2, 0x2e0, 0x2e5, 0x345, 0x346, 0x37a, 0x37b, 0x10fc,
  0x10fd, 0x1d2c, 0x1d6b, 0x1d78, 0x1d79, 0x1d9b, 0x1dc0, 0x2071, 0x2072, 0x207f, 0x2080, 0x2090, 0x209d,
  0x2170, 0x2180, 0x24d0, 0x24ea, 0x2c7c, 0x2c7e, 0xa69c, 0xa69e, 0xa770, 0xa771, 0xa7f2, 0xa7f5, 0xa7f8,
  0xa7fa, 0xab5c, 0xab60, 0xab69, 0xab6a, 0x10780, 0x10781, 0x10783, 0x10786, 0x10787, 0x107b1, 0x107b2,
  0x107bb, 0x1e030, 0x1e06e]⟩

def otherMath : CharSet := ⟨[
  0x5e, 0x5f, 0x3d0, 0x3d3, 0x3d5, 0x3d6, 0x3f0, 0x3f2, 0x3f4, 0x3f6, 0x2016, 0x2017, 0x2032, 0x2035,
  0x2040, 0x2041, 0x2061, 0x2065, 0x207d, 0x207f, 0x208d, 0x208f, 0x20d0, 0x20dd, 0x20e1, 0x20e2, 0x20e5,
  0x20e7, 0x20eb, 0x20f0, 0x2102, 0x2103, 0x2107, 0x2108, 0x210a, 0x2114, 0x2115, 0x2116, 0x2119, 0x211e,
  0x2124, 0x2125, 0x2128, 0x212a, 0x212c, 0x212e, 0x212f, 0x2132, 0x2133, 0x2139, 0x213c, 0x2140, 0x2145,
  0x214a, 0x2195, 0x219a, 0x219c, 0x21a0, 0x21a1, 0x21a3, 0x21a4, 0x21a6, 0x21a7, 0x21a8, 0x21a9, 0x21ae,
  0x21b0, 0x21b2, 0x21b6, 0x21b8, 0x21bc, 0x21ce, 0x21d0, 0x21d2, 0x21d3, 0x21d4, 0x21d5, 0x21dc, 0x21dd,
  0x21de, 0x21e4, 0x21e6, 0x2308, 0x230c, 0x23b4, 0x23b6, 0x23b7, 0x23b8, 0x23d0, 0x23d1, 0x23e2, 0x23e3,
  0x25a0, 0x25a2, 0x25ae, 0x25b7, 0x25bc, 0x25c1, 0x25c6, 0x25c8, 0x25ca, 0x25cc, 0x25cf, 0x25d4, 0x25e2,
  0x25e3, 0x25e4, 0x25e5, 0x25e7, 0x25ed, 0x2605, 0x2607, 0x2640, 0x2641, 0x2642, 0x2643, 0x2660, 0x2664,
  0x266d, 0x266f, 0x27c5, 0x27c7, 0x27e6, 0x27f0, 0x2983, 0x2999, 0x29d8, 0x29dc, 0x29fc, 0x29fe, 0xfe61,
  0xfe62, 0xfe63, 0xfe64, 0xfe68, 0xfe69, 0xff3c, 0xff3d, 0xff3e, 0xff3f, 0x1d400, 0x1d455, 0x1d456,
  0x1d49d, 0x1d49e, 0x1d4a0, 0x1d4a2, 0x1d4a3, 0x1d4a5, 0x1d4a7, 0x1d4a9, 0x1d4ad, 0x1d4ae, 0x1d4ba,
  0x1d4bb, 0x1d4bc, 0x1d4bd, 0x1d4c4, 0x1d4c5, 0x1d506, 0x1d507, 0x1d50b, 0x1d50d, 0x1d515, 0x1d516,
  0x1d51d, 0x1d51e, 0x1d53a, 0x1d53b, 0x1d53f, 0x1d540, 0x1d545, 0x1d546, 0x1d547, 0x1d54a, 0x1d551,
  0x1d552, 0x1d6a6, 0x1d6a8, 0x1d6c1, 0x1d6c2, 0x1d6db, 0x1d6dc, 0x1d6fb, 0x1d6fc, 0x1d715, 0x1d716,
  0x1d735, 0x1d736, 0x1d74f, 0x1d750, 0x1d76f, 0x1d770, 0x1d789, 0x1d78a, 0x1d7a9, 0x1d7aa, 0x1d7c3,
  0x1d7c4, 0x1d7cc, 0x1d7ce, 0x1d800, 0x1ee00, 0x1ee04, 0x1ee05, 0x1ee20, 0x1ee21, 0x1ee23, 0x1ee24,
  0x1ee25, 0x1ee27, 0x1ee28, 0x1ee29, 0x1ee33, 0x1ee34, 0x1ee38, 0x1ee39, 0x1ee3a, 0x1ee3b, 0x1ee3c,
  0x1ee42, 0x1ee43, 0x1ee47, 0x1ee48, 0x1ee49, 0x1ee4a, 0x1ee4b, 0x1ee4c, 0x1ee4d, 0x1ee50, 0x1ee51,
  0x1ee53, 0x1ee54, 0x1ee55, 0x1ee57, 0x1ee58, 0x1ee59, 0x1ee5a, 0x1ee5b, 0x1ee5c, 0x1ee5d, 0x1ee5e,
  0x1ee5f, 0x1ee60, 0x1ee61, 0x1ee63, 0x1ee64, 0x1ee65, 0x1ee67, 0x1ee6b, 0x1ee6c, 0x1ee73, 0x1ee74,
  0x1ee78, 0x1ee79, 0x1ee7d, 0x1ee7e, 0x1ee7f, 0x1ee80, 0x1ee8a, 0x1ee8b, 0x1ee9c, 0x1eea1, 0x1eea4,
  0x1eea5, 0x1eeaa, 0x1eeab, 0x1eebc]⟩

def otherUppercase : CharSet := ⟨[
  0x2160, 0x2170, 0x24b6, 0x24d0, 0x1f130, 0x1f14a, 0x1f150, 0x1f16a, 0x1f170, 0x1f18a]⟩

def patternSyntax : CharSet := ⟨[
  0x21, 0x30, 0x3a, 0x41, 0x5b, 0x5f, 0x60, 0x61, 0x7b, 0x7f, 0xa1, 0xa8, 0xa9, 0xaa, 0xab, 0xad, 0xae,
  0xaf, 0xb0, 0xb2, 0xb6, 0xb7, 0xbb, 0xbc, 0xbf, 0xc0, 0xd7, 0xd8, 0xf7, 0xf8, 0x2010, 0x2028, 0x2030,
  0x203f, 0x2041, 0x2054, 0x2055, 0x205f, 0x2190, 0x2460, 0x2500, 0x2776, 0x2794, 0x2c00, 0x2e00, 0x2e80,
  0x3001, 0x3004, 0x3008, 0x3021, 0x3030, 0x3031, 0xfd3e, 0xfd40, 0xfe45, 0xfe47]⟩

def patternWhiteSpace : CharSet := ⟨[0x9, 0xe, 0x20, 0x21, 0x85, 0x86, 0x200e, 0x2010, 0x2028, 0x202a]⟩

def prependedConcatenationMark : CharSet := ⟨[
  0x600, 0x606, 0x6dd, 0x6de, 0x70f, 0x710, 0x890, 0x892, 0x8e2, 0x8e3, 0x110bd, 0x110be, 0x110cd, 0x110ce]⟩

def quotationMark : CharSet := ⟨[
  0x22, 0x23, 0x27, 0x28, 0xab, 0xac, 0xbb, 0xbc, 0x2018, 0x2020, 0x2039, 0x203b, 0x2e42, 0x2e43, 0x300c,
  0x3010, 0x301d, 0x3020, 0xfe41, 0xfe45, 0xff02, 0xff03, 0xff07, 0xff08, 0xff62, 0xff64]⟩

def radical : CharSet := ⟨[0x2e80, 0x2e9a, 0x2e9b, 0x2ef4, 0x2f00, 0x2fd6]⟩

def regionalIndicator : CharSet := ⟨[0x1f1e6, 0x1f200]⟩

def sentenceTerminal : CharSet := ⟨[
  0x21, 0x22, 0x2e, 0x2f, 0x3f, 0x40, 0x589, 0x58a, 0x61d, 0x620, 0x6d4, 0x6d5, 0x700, 0x703, 0x7f9, 0x7fa,
  0x837, 0x838, 0x839, 0x83a, 0x83d, 0x83f, 0x964, 0x966, 0x104a, 0x104c, 0x1362, 0x1363, 0x1367, 0x1369,
  0x166e, 0x166f, 0x1735, 0x1737, 0x17d4, 0x17d6, 0x1803, 0x1804, 0x1809, 0x180a, 0x1944, 0x1946, 0x1aa8,
  0x1aac, 0x1b4e, 0x1b50, 0x1b5a, 0x1b5c, 0x1b5e, 0x1b60, 0x1b7d, 0x1b80, 0x1c3b, 0x1c3d, 0x1c7e, 0x1c80,
  0x2024, 0x2025, 0x203c, 0x203e, 0x2047, 0x204a, 0x2cf9, 0x2cfc, 0x2e2e, 0x2e2f, 0x2e3c, 0x2e3d, 0x2e53,
  0x2e55, 0x3002, 0x3003, 0xa4ff, 0xa500, 0xa60e, 0xa610, 0xa6f3, 0xa6f4, 0xa6f7, 0xa6f8, 0xa876, 0xa878,
  0xa8ce, 0xa8d0, 0xa92f, 0xa930, 0xa9c8, 0xa9ca, 0xaa5d, 0xaa60, 0xaaf0, 0xaaf2, 0xabeb, 0xabec, 0xfe12,
  0xfe13, 0xfe15, 0xfe17, 0xfe52, 0xfe53, 0xfe56, 0xfe58, 0xff01, 0xff02, 0xff0e, 0xff0f, 0xff1f, 0xff20,
  0xff61, 0xff62, 0x10a56, 0x10a58, 0x10f55, 0x10f5a, 0x10f86, 0x10f8a, 0x11047, 0x11049, 0x110be, 0x110c2,
  0x11141, 0x11144, 0x111c5, 0x111c7, 0x111cd, 0x111ce, 0x111de, 0x111e0, 0x11238, 0x1123a, 0x1123b,
  0x1123d, 0x112a9, 0x112aa, 0x113d4, 0x113d6, 0x1144b, 0x1144d, 0x115c2, 0x115c4, 0x115c9, 0x115d8,
  0x11641, 0x11643, 0x1173c, 0x1173f, 0x11944, 0x11945, 0x11946, 0x11947, 0x11a42, 0x11a44, 0x11a9b,
  0x11a9d, 0x11c41, 0x11c43, 0x11ef7, 0x11ef9, 0x11f43, 0x11f45, 0x16a6e, 0x16a70, 0x16af5, 0x16af6,
  0x16b37, 0x16b39, 0x16b44, 0x16b45, 0x16d6e, 0x16d70, 0x16e98, 0x16e99, 0x1bc9f, 0x1bca0, 0x1da88,
  0x1da89]⟩

def softDotted : CharSet := ⟨[
  0x69, 0x6b, 0x12f, 0x130, 0x249, 0x24a, 0x268, 0x269, 0x29d, 0x29e, 0x2b2, 0x2b3, 0x3f3, 0x3f4, 0x456,
  0x457, 0x458, 0x459, 0x1d62, 0x1d63, 0x1d96, 0x1d97, 0x1da4, 0x1da5, 0x1da8, 0x1da9, 0x1e2d, 0x1e2e,
  0x1ecb, 0x1ecc, 0x2071, 0x2072, 0x2148, 0x214a, 0x2c7c, 0x2c7d, 0x1d422, 0x1d424, 0x1d456, 0x1d458,
  0x1d48a, 0x1d48c, 0x1d4be, 0x1d4c0, 0x1d4f2, 0x1d4f4, 0x1d526, 0x1d528, 0x1d55a, 0x1d55c, 0x1d58e,
  0x1d590, 0x1d5c2, 0x1d5c4, 0x1d5f6, 0x1d5f8, 0x1d62a, 0x1d62c, 0x1d65e, 0x1d660, 0x1d692, 0x1d694,
  0x1df1a, 0x1df1b, 0x1e04c, 0x1e04e, 0x1e068, 0x1e069]⟩

def terminalPunctuation : CharSet := ⟨[
  0x21, 0x22, 0x2c, 0x2d, 0x2e, 0x2f, 0x3a, 0x3c, 0x3f, 0x40, 0x37e, 0x37f, 0x387, 0x388, 0x589, 0x58a,
  0x5c3, 0x5c4, 0x60c, 0x60d, 0x61b, 0x61c, 0x61d, 0x620, 0x6d4, 0x6d5, 0x700, 0x70b, 0x70c, 0x70d, 0x7f8,
  0x7fa, 0x830, 0x836, 0x837, 0x83f, 0x85e, 0x85f, 0x964, 0x966, 0xe5a, 0xe5c, 0xf08, 0xf09, 0xf0d, 0xf13,
  0x104a, 0x104c, 0x1361, 0x1369, 0x166e, 0x166f, 0x16eb, 0x16ee, 0x1735, 0x1737, 0x17d4, 0x17d7, 0x17da,
  0x17db, 0x1802, 0x1806, 0x1808, 0x180a, 0x1944, 0x1946, 0x1aa8, 0x1aac, 0x1b4e, 0x1b50, 0x1b5a, 0x1b5c,
  0x1b5d, 0x1b60, 0x1b7d, 0x1b80, 0x1c3b, 0x1c40, 0x1c7e, 0x1c80, 0x2024, 0x2025, 0x203c, 0x203e, 0x2047,
  0x204a, 0x2cf9, 0x2cfc, 0x2e2e, 0x2e2f, 0x2e3c, 0x2e3d, 0x2e41, 0x2e42, 0x2e4c, 0x2e4d, 0x2e4e, 0x2e50,
  0x2e53, 0x2e55, 0x3001, 0x3003, 0xa4fe, 0xa500, 0xa60d, 0xa610, 0xa6f3, 0xa6f8, 0xa876, 0xa878, 0xa8ce,
  0xa8d0, 0xa92f, 0xa930, 0xa9c7, 0xa9ca, 0xaa5d, 0xaa60, 0xaadf, 0xaae0, 0xaaf0, 0xaaf2, 0xabeb, 0xabec,
  0xfe12, 0xfe13, 0xfe15, 0xfe17, 0xfe50, 0xfe53, 0xfe54, 0xfe58, 0xff01, 0xff02, 0xff0c, 0xff0d, 0xff0e,
  0xff0f, 0xff1a, 0xff1c, 0xff1f, 0xff20, 0xff61, 0xff62, 0xff64, 0xff65, 0x1039f, 0x103a0, 0x103d0,
  0x103d1, 0x10857, 0x10858, 0x1091f, 0x10920, 0x10a56, 0x10a58, 0x10af0, 0x10af6, 0x10b3a, 0x10b40,
  0x10b99, 0x10b9d, 0x10f55, 0x10f5a, 0x10f86, 0x10f8a, 0x11047, 0x1104e, 0x110be, 0x110c2, 0x11141,
  0x11144, 0x111c5, 0x111c7, 0x111cd, 0x111ce, 0x111de, 0x111e0, 0x11238, 0x1123d, 0x112a9, 0x112aa,
  0x113d4, 0x113d6, 0x1144b, 0x1144e, 0x1145a, 0x1145c, 0x115c2, 0x115c6, 0x115c9, 0x115d8, 0x11641,
  0x11643, 0x1173c, 0x1173f, 0x11944, 0x11945, 0x11946, 0x11947, 0x11a42, 0x11a44, 0x11a9b, 0x11a9d,
  0x11aa1, 0x11aa3, 0x11c41, 0x11c44, 0x11c71, 0x11c72, 0x11ef7, 0x11ef9, 0x11f43, 0x11f45, 0x12470,
  0x12475, 0x16a6e, 0x16a70, 0x16af5, 0x16af6, 0x16b37, 0x16b3a, 0x16b44, 0x16b45, 0x16d6e, 0x16d70,
  0x16e97, 0x16e99, 0x1bc9f, 0x1bca0, 0x1da87, 0x1da8b]⟩

def unifiedIdeograph : CharSet := ⟨[
  0x3400, 0x4dc0, 0x4e00, 0xa000, 0xfa0e, 0xfa10, 0xfa11, 0xfa12, 0xfa13, 0xfa15, 0xfa1f, 0xfa20, 0xfa21,
  0xfa22, 0xfa23, 0xfa25, 0xfa27, 0xfa2a, 0x20000, 0x2a6e0, 0x2a700, 0x2b73a, 0x2b740, 0x2b81e, 0x2b820,
  0x2cea2, 0x2ceb0, 0x2ebe1, 0x2ebf0, 0x2ee5e, 0x30000, 0x3134b, 0x31350, 0x323b0]⟩

def variationSelector : CharSet := ⟨[0x180b, 0x180e, 0x180f, 0x1810, 0xfe00, 0xfe10, 0xe0100, 0xe01f0]⟩

/-- The capital letters without a small one. -/
def unpairedCapitals : CharSet := ⟨[
  0x3d2, 0x3d5, 0x2102, 0x2103, 0x2107, 0x2108, 0x210b, 0x210e, 0x2110, 0x2113, 0x2115, 0x2116, 0x2119,
  0x211e, 0x2124, 0x2125, 0x2128, 0x2129, 0x212c, 0x212e, 0x2130, 0x2132, 0x2133, 0x2134, 0x213e, 0x2140,
  0x2145, 0x2146, 0x1d400, 0x1d41a, 0x1d434, 0x1d44e, 0x1d468, 0x1d482, 0x1d49c, 0x1d49d, 0x1d49e, 0x1d4a0,
  0x1d4a2, 0x1d4a3, 0x1d4a5, 0x1d4a7, 0x1d4a9, 0x1d4ad, 0x1d4ae, 0x1d4b6, 0x1d4d0, 0x1d4ea, 0x1d504,
  0x1d506, 0x1d507, 0x1d50b, 0x1d50d, 0x1d515, 0x1d516, 0x1d51d, 0x1d538, 0x1d53a, 0x1d53b, 0x1d53f,
  0x1d540, 0x1d545, 0x1d546, 0x1d547, 0x1d54a, 0x1d551, 0x1d56c, 0x1d586, 0x1d5a0, 0x1d5ba, 0x1d5d4,
  0x1d5ee, 0x1d608, 0x1d622, 0x1d63c, 0x1d656, 0x1d670, 0x1d68a, 0x1d6a8, 0x1d6c1, 0x1d6e2, 0x1d6fb,
  0x1d71c, 0x1d735, 0x1d756, 0x1d76f, 0x1d790, 0x1d7a9, 0x1d7ca, 0x1d7cb, 0x1f130, 0x1f14a, 0x1f150,
  0x1f16a, 0x1f170, 0x1f18a]⟩

/-- The small letters without a capital one. -/
def unpairedSmall : CharSet := ⟨[
  0xaa, 0xab, 0xba, 0xbb, 0x138, 0x139, 0x18d, 0x18e, 0x1aa, 0x1ac, 0x1ba, 0x1bb, 0x1be, 0x1bf, 0x221,
  0x222, 0x234, 0x23a, 0x255, 0x256, 0x258, 0x259, 0x25a, 0x25b, 0x25d, 0x260, 0x262, 0x263, 0x267, 0x268,
  0x26d, 0x26f, 0x270, 0x271, 0x273, 0x275, 0x276, 0x27d, 0x27e, 0x280, 0x281, 0x282, 0x284, 0x287, 0x28d,
  0x292, 0x293, 0x294, 0x295, 0x29d, 0x29f, 0x2b9, 0x2c0, 0x2c2, 0x2e0, 0x2e5, 0x37a, 0x37b, 0x3fc, 0x3fd,
  0x560, 0x561, 0x588, 0x589, 0x10fc, 0x10fd, 0x1d00, 0x1d79, 0x1d7a, 0x1d7d, 0x1d7e, 0x1d8e, 0x1d8f,
  0x1dc0, 0x1e9c, 0x1e9e, 0x1e9f, 0x1ea0, 0x2071, 0x2072, 0x207f, 0x2080, 0x2090, 0x209d, 0x210a, 0x210b,
  0x210e, 0x2110, 0x2113, 0x2114, 0x212f, 0x2130, 0x2134, 0x2135, 0x2139, 0x213a, 0x213c, 0x213e, 0x2146,
  0x214a, 0x2c71, 0x2c72, 0x2c74, 0x2c75, 0x2c77, 0x2c7e, 0x2ce4, 0x2ce5, 0xa69c, 0xa69e, 0xa730, 0xa732,
  0xa770, 0xa779, 0xa78e, 0xa78f, 0xa795, 0xa796, 0xa7af, 0xa7b0, 0xa7d3, 0xa7d4, 0xa7d5, 0xa7d6, 0xa7f2,
  0xa7f5, 0xa7f8, 0xa7fb, 0xab30, 0xab53, 0xab54, 0xab5b, 0xab5c, 0xab6a, 0x10780, 0x10781, 0x10783,
  0x10786, 0x10787, 0x107b1, 0x107b2, 0x107bb, 0x1d41a, 0x1d434, 0x1d44e, 0x1d455, 0x1d456, 0x1d468,
  0x1d482, 0x1d49c, 0x1d4b6, 0x1d4ba, 0x1d4bb, 0x1d4bc, 0x1d4bd, 0x1d4c4, 0x1d4c5, 0x1d4d0, 0x1d4ea,
  0x1d504, 0x1d51e, 0x1d538, 0x1d552, 0x1d56c, 0x1d586, 0x1d5a0, 0x1d5ba, 0x1d5d4, 0x1d5ee, 0x1d608,
  0x1d622, 0x1d63c, 0x1d656, 0x1d670, 0x1d68a, 0x1d6a6, 0x1d6c2, 0x1d6db, 0x1d6dc, 0x1d6e2, 0x1d6fc,
  0x1d715, 0x1d716, 0x1d71c, 0x1d736, 0x1d74f, 0x1d750, 0x1d756, 0x1d770, 0x1d789, 0x1d78a, 0x1d790,
  0x1d7aa, 0x1d7c3, 0x1d7c4, 0x1d7ca, 0x1d7cb, 0x1d7cc, 0x1df00, 0x1df0a, 0x1df0b, 0x1df1f, 0x1df25,
  0x1df2b, 0x1e030, 0x1e06e]⟩

/-- The characters that folding changes, but lower-casing does not. -/
def smallOnlyWhenFolded : CharSet := ⟨[
  0xb5, 0xb6, 0xdf, 0xe0, 0x149, 0x14a, 0x17f, 0x180, 0x345, 0x346, 0x3c2, 0x3c3, 0x3d0, 0x3d2, 0x3d5,
  0x3d7, 0x3f0, 0x3f2, 0x3f5, 0x3f6, 0x587, 0x588, 0x13f8, 0x13fe, 0x1c80, 0x1c89, 0x1e9a, 0x1e9c, 0x1f80,
  0x1f88, 0x1f90, 0x1f98, 0x1fa0, 0x1fa8, 0x1fb2, 0x1fb5, 0x1fb7, 0x1fb8, 0x1fc2, 0x1fc5, 0x1fc7, 0x1fc8,
  0x1ff2, 0x1ff5, 0x1ff7, 0x1ff8, 0xab70, 0xabc0, 0xfb00, 0xfb07, 0xfb13, 0xfb18]⟩

/-- The small letters that are their own title case. -/
def unstableTitles : CharSet := ⟨[0x10d0, 0x10fb, 0x10fd, 0x1100]⟩

/-- The capital letters whose title case is another character. -/
def capitalPairs : CharSet := ⟨[0x1c4, 0x1c5, 0x1c7, 0x1c8, 0x1ca, 0x1cb, 0x1f1, 0x1f2]⟩

/-- The starts of identifiers that compatibility forms do not keep. -/
def notClosedStart : CharSet := ⟨[
  0x37a, 0x37b, 0xe33, 0xe34, 0xeb3, 0xeb4, 0x309b, 0x309d, 0xfc5e, 0xfc64, 0xfdfa, 0xfdfc, 0xfe70, 0xfe71,
  0xfe72, 0xfe73, 0xfe74, 0xfe75, 0xfe76, 0xfe77, 0xfe78, 0xfe79, 0xfe7a, 0xfe7b, 0xfe7c, 0xfe7d, 0xfe7e,
  0xfe7f, 0xff9e, 0xffa0]⟩

/-- The other characters of identifiers that compatibility forms do not keep. -/
def notClosedContinue : CharSet := ⟨[
  0x37a, 0x37b, 0x309b, 0x309d, 0xfc5e, 0xfc64, 0xfdfa, 0xfdfc, 0xfe70, 0xfe71, 0xfe72, 0xfe73, 0xfe74,
  0xfe75, 0xfe76, 0xfe77, 0xfe78, 0xfe79, 0xfe7a, 0xfe7b, 0xfe7c, 0xfe7d, 0xfe7e, 0xfe7f]⟩

/-! ### Rules -/

def alphabetic : CharSet := unionAll [Category.letter, Category.nl, otherAlphabetic]

def lowercase : CharSet := Category.ll.union otherLowercase

def uppercase : CharSet := Category.lu.union otherUppercase

def cased : CharSet := unionAll [lowercase, uppercase, Category.lt]

/-- The signs that part letters only where no letters follow them, such as the colon. -/
def midLetter : CharSet := ⟨[
  0x3a, 0x3b, 0xb7, 0xb8, 0x387, 0x388, 0x55f, 0x560, 0x5f4, 0x5f5, 0x2027, 0x2028, 0xfe13, 0xfe14, 0xfe55,
  0xfe56, 0xff1a, 0xff1b]⟩

/-- The signs that part letters or digits only where none follow them, such as the full stop. -/
def midNumLet : CharSet := ⟨[
  0x2e, 0x2f, 0x2018, 0x201a, 0x2024, 0x2025, 0xfe52, 0xfe53, 0xff07, 0xff08, 0xff0e, 0xff0f]⟩

def caseIgnorable : CharSet :=
  unionAll [Category.mn, Category.me, Category.cf, Category.lm, Category.sk, midLetter, midNumLet, ⟨[0x27, 0x28]⟩]

def changesWhenLowercased : CharSet := (unionAll [uppercase, Category.lt]).diff unpairedCapitals

def changesWhenUppercased : CharSet := (unionAll [lowercase, Category.lt]).diff unpairedSmall

def changesWhenTitlecased : CharSet :=
  ((changesWhenUppercased.diff Category.lt).diff unstableTitles).union capitalPairs

def changesWhenCasemapped : CharSet :=
  unionAll [changesWhenLowercased, changesWhenUppercased, changesWhenTitlecased]

/-- Folding takes the Cherokee capitals as they are. -/
def changesWhenCasefolded : CharSet := (changesWhenLowercased.union smallOnlyWhenFolded).diff ⟨[0x13a0, 0x13f6]⟩

def defaultIgnorable : CharSet :=
  (unionAll [Category.cf, variationSelector, otherDefaultIgnorable]).diff
    (unionAll [blanks, prependedConcatenationMark, ⟨[0xfff9, 0xfffc, 0x13430, 0x13440]⟩])

def graphemeExtend : CharSet := unionAll [Category.mn, Category.me, otherGraphemeExtend]

def graphemeBase : CharSet :=
  (unionAll [Category.cc, Category.cf, Category.cn, Category.co, Category.zl, Category.zp, graphemeExtend]).compl

def math : CharSet := Category.sm.union otherMath

def pattern : CharSet := patternSyntax.union patternWhiteSpace

def idStart : CharSet := (unionAll [Category.letter, Category.nl, otherIdStart]).diff pattern

def idContinue : CharSet :=
  (unionAll [idStart, Category.mn, Category.mc, Category.nd, Category.pc, otherIdContinue]).diff pattern

def idCompatMathContinue : CharSet :=
  idCompatMathStart.union ⟨[0xb2, 0xb4, 0xb9, 0xba, 0x2070, 0x2071, 0x2074, 0x207f, 0x2080, 0x208f]⟩

/-- The characters of words: letters, marks, decimal digits, connectors and joiners. -/
def word : CharSet := unionAll [alphabetic, Category.mark, Category.nd, Category.pc, joinControl]

/-- The properties by their names, in lower case without separators. -/
def table : CharSet.Table := [
  (["ahex", "asciihexdigit"], asciiHexDigit),
  (["alpha", "alphabetic"], alphabetic),
  (["bidic", "bidicontrol"], bidiControl),
  (["bidim", "bidimirrored"], bidiMirrored),
  (["cased"], cased),
  (["ci", "caseignorable"], caseIgnorable),
  (["cwcf", "changeswhencasefolded"], changesWhenCasefolded),
  (["cwcm", "changeswhencasemapped"], changesWhenCasemapped),
  (["cwl", "changeswhenlowercased"], changesWhenLowercased),
  (["cwt", "changeswhentitlecased"], changesWhenTitlecased),
  (["cwu", "changeswhenuppercased"], changesWhenUppercased),
  (["dash"], dash),
  (["dep", "deprecated"], deprecated),
  (["di", "defaultignorablecodepoint"], defaultIgnorable),
  (["dia", "diacritic"], diacritic),
  (["ebase", "emojimodifierbase"], emojiModifierBase),
  (["ecomp", "emojicomponent"], emojiComponent),
  (["emod", "emojimodifier"], emojiModifier),
  (["emoji"], emoji),
  (["epres", "emojipresentation"], emojiPresentation),
  (["ext", "extender"], extender),
  (["extpict", "extendedpictographic"], extendedPictographic),
  (["grbase", "graphemebase"], graphemeBase),
  (["grext", "graphemeextend"], graphemeExtend),
  (["grlink", "graphemelink"], graphemeLink),
  (["hex", "hexdigit"], hexDigit),
  (["hyphen"], hyphen),
  (["idc", "idcontinue"], idContinue),
  (["idcompatmathcontinue"], idCompatMathContinue),
  (["idcompatmathstart"], idCompatMathStart),
  (["ideo", "ideographic"], ideographic),
  (["ids", "idstart"], idStart),
  (["idsb", "idsbinaryoperator"], idsBinaryOperator),
  (["idst", "idstrinaryoperator"], idsTrinaryOperator),
  (["idsu", "idsunaryoperator"], idsUnaryOperator),
  (["joinc", "joincontrol"], joinControl),
  (["loe", "logicalorderexception"], logicalOrderException),
  (["lower", "lowercase"], lowercase),
  (["math"], math),
  (["mcm", "modifiercombiningmark"], modifierCombiningMark),
  (["nchar", "noncharactercodepoint"], noncharacter),
  (["oalpha", "otheralphabetic"], otherAlphabetic),
  (["odi", "otherdefaultignorablecodepoint"], otherDefaultIgnorable),
  (["ogrext", "othergraphemeextend"], otherGraphemeExtend),
  (["oidc", "otheridcontinue"], otherIdContinue),
  (["oids", "otheridstart"], otherIdStart),
  (["olower", "otherlowercase"], otherLowercase),
  (["omath", "othermath"], otherMath),
  (["oupper", "otheruppercase"], otherUppercase),
  (["patsyn", "patternsyntax"], patternSyntax),
  (["patws", "patternwhitespace"], patternWhiteSpace),
  (["pcm", "prependedconcatenationmark"], prependedConcatenationMark),
  (["qmark", "quotationmark"], quotationMark),
  (["radical"], radical),
  (["ri", "regionalindicator"], regionalIndicator),
  (["sd", "softdotted"], softDotted),
  (["sterm", "sentenceterminal"], sentenceTerminal),
  (["term", "terminalpunctuation"], terminalPunctuation),
  (["uideo", "unifiedideograph"], unifiedIdeograph),
  (["upper", "uppercase"], uppercase),
  (["vs", "variationselector"], variationSelector),
  (["wspace", "whitespace", "space"], blanks),
  (["xidc", "xidcontinue"], idContinue.diff notClosedContinue),
  (["xids", "xidstart"], idStart.diff notClosedStart)]

end ClassSkeleton.Text.Binary
