/-!
Characters that stand for others in a special form, by Unicode 14: ligatures, letters of another
width, in a circle, raised, slanted or squared, and what each of them stands for.
-/

namespace FieldMap.Text

/-- A run of characters, every `stride` code points; the forms begin with a code point that grows by
`advance` and are equal otherwise. -/
structure FormRun where
  first : Nat
  last : Nat
  stride : Nat
  advance : Nat
  form : List Nat

def compatibilityRuns : List FormRun :=
  [⟨0x1d31, 0x1d39, 2, 2, [0x45]⟩, ⟨0x1d34, 0x1d3a, 2, 2, [0x48]⟩, ⟨0x1d3e, 0x1d40, 1, 2, [0x50]⟩,
    ⟨0x1d5d, 0x1d5f, 1, 1, [0x3b2]⟩, ⟨0x1da4, 0x1da6, 1, 1, [0x268]⟩, ⟨0x1dae, 0x1db1, 1, 1,
    [0x272]⟩, ⟨0x1dbc, 0x1dbe, 1, 1, [0x290]⟩, ⟨0x2000, 0x200a, 1, 0, [0x20]⟩, ⟨0x2074, 0x2079, 1,
    1, [0x34]⟩, ⟨0x2080, 0x2089, 1, 1, [0x30]⟩, ⟨0x2096, 0x2099, 1, 1, [0x6b]⟩, ⟨0x210b, 0x210d,
    1, 0, [0x48]⟩, ⟨0x2119, 0x211b, 1, 1, [0x50]⟩, ⟨0x2135, 0x2138, 1, 1, [0x5d0]⟩, ⟨0x2155,
    0x2158, 1, 1, [0x31, 0x2044, 0x35]⟩, ⟨0x215b, 0x215e, 1, 2, [0x31, 0x2044, 0x38]⟩, ⟨0x2460,
    0x2468, 1, 1, [0x31]⟩, ⟨0x2488, 0x2490, 1, 1, [0x31, 0x2e]⟩, ⟨0x24b6, 0x24cf, 1, 1, [0x41]⟩,
    ⟨0x24d0, 0x24e9, 1, 1, [0x61]⟩, ⟨0x3137, 0x3139, 1, 1, [0x1103]⟩, ⟨0x313a, 0x313f, 1, 1,
    [0x11b0]⟩, ⟨0x3141, 0x3143, 1, 1, [0x1106]⟩, ⟨0x3145, 0x314e, 1, 1, [0x1109]⟩, ⟨0x314f,
    0x3163, 1, 1, [0x1161]⟩, ⟨0x3172, 0x3174, 1, 2, [0x111e]⟩, ⟨0x3176, 0x3178, 1, 2, [0x1127]⟩,
    ⟨0x3179, 0x317c, 1, 1, [0x112c]⟩, ⟨0x3184, 0x3186, 1, 1, [0x1157]⟩, ⟨0x3194, 0x3198, 2, 1,
    [0x4e09]⟩, ⟨0x3263, 0x3265, 1, 1, [0x1105]⟩, ⟨0x3269, 0x326d, 1, 1, [0x110e]⟩, ⟨0x3271,
    0x3273, 1, 1, [0x1105, 0x1161]⟩, ⟨0x3277, 0x327b, 1, 1, [0x110e, 0x1161]⟩, ⟨0x32c0, 0x32c8, 1,
    1, [0x31, 0x6708]⟩, ⟨0x32d0, 0x32d4, 1, 2, [0x30a2]⟩, ⟨0x32d5, 0x32e0, 1, 2, [0x30ab]⟩,
    ⟨0x32e1, 0x32e4, 1, 2, [0x30c4]⟩, ⟨0x32e5, 0x32e9, 1, 1, [0x30cb]⟩, ⟨0x32ee, 0x32f2, 1, 1,
    [0x30de]⟩, ⟨0x32f3, 0x32f5, 1, 2, [0x30e4]⟩, ⟨0x32f6, 0x32fa, 1, 1, [0x30e9]⟩, ⟨0x32fb,
    0x32fe, 1, 1, [0x30ef]⟩, ⟨0x3358, 0x3361, 1, 1, [0x30, 0x70b9]⟩, ⟨0x33e0, 0x33e8, 1, 1, [0x31,
    0x65e5]⟩, ⟨0xfb24, 0xfb26, 1, 1, [0x5db]⟩, ⟨0xfb52, 0xfb55, 1, 0, [0x67b]⟩, ⟨0xfb56, 0xfb59,
    1, 0, [0x67e]⟩, ⟨0xfb5a, 0xfb5d, 1, 0, [0x680]⟩, ⟨0xfb5e, 0xfb61, 1, 0, [0x67a]⟩, ⟨0xfb62,
    0xfb65, 1, 0, [0x67f]⟩, ⟨0xfb66, 0xfb69, 1, 0, [0x679]⟩, ⟨0xfb6a, 0xfb6d, 1, 0, [0x6a4]⟩,
    ⟨0xfb6e, 0xfb71, 1, 0, [0x6a6]⟩, ⟨0xfb72, 0xfb75, 1, 0, [0x684]⟩, ⟨0xfb76, 0xfb79, 1, 0,
    [0x683]⟩, ⟨0xfb7a, 0xfb7d, 1, 0, [0x686]⟩, ⟨0xfb7e, 0xfb81, 1, 0, [0x687]⟩, ⟨0xfb8e, 0xfb91,
    1, 0, [0x6a9]⟩, ⟨0xfb92, 0xfb95, 1, 0, [0x6af]⟩, ⟨0xfb96, 0xfb99, 1, 0, [0x6b3]⟩, ⟨0xfb9a,
    0xfb9d, 1, 0, [0x6b1]⟩, ⟨0xfba0, 0xfba3, 1, 0, [0x6bb]⟩, ⟨0xfba6, 0xfba9, 1, 0, [0x6c1]⟩,
    ⟨0xfbaa, 0xfbad, 1, 0, [0x6be]⟩, ⟨0xfbd3, 0xfbd6, 1, 0, [0x6ad]⟩, ⟨0xfbe4, 0xfbe7, 1, 0,
    [0x6d0]⟩, ⟨0xfbf6, 0xfbf8, 1, 0, [0x64a, 0x654, 0x6d0]⟩, ⟨0xfbf9, 0xfbfb, 1, 0, [0x64a, 0x654,
    0x649]⟩, ⟨0xfbfc, 0xfbff, 1, 0, [0x6cc]⟩, ⟨0xfc28, 0xfc2c, 2, 1, [0x638, 0x645]⟩, ⟨0xfca4,
    0xfcac, 2, 1, [0x62a, 0x645]⟩, ⟨0xfcb9, 0xfcbd, 2, 1, [0x638, 0x645]⟩, ⟨0xfe41, 0xfe44, 1, 1,
    [0x300c]⟩, ⟨0xfe49, 0xfe4c, 1, 0, [0x20, 0x305]⟩, ⟨0xfe4d, 0xfe4f, 1, 0, [0x5f]⟩, ⟨0xfe89,
    0xfe8c, 1, 0, [0x64a, 0x654]⟩, ⟨0xfe8f, 0xfe92, 1, 0, [0x628]⟩, ⟨0xfe95, 0xfe98, 1, 0,
    [0x62a]⟩, ⟨0xfe99, 0xfe9c, 1, 0, [0x62b]⟩, ⟨0xfe9d, 0xfea0, 1, 0, [0x62c]⟩, ⟨0xfea1, 0xfea4,
    1, 0, [0x62d]⟩, ⟨0xfea5, 0xfea8, 1, 0, [0x62e]⟩, ⟨0xfea9, 0xfeb1, 2, 1, [0x62f]⟩, ⟨0xfeaa,
    0xfeb2, 2, 1, [0x62f]⟩, ⟨0xfeb5, 0xfeb8, 1, 0, [0x634]⟩, ⟨0xfeb9, 0xfebc, 1, 0, [0x635]⟩,
    ⟨0xfebd, 0xfec0, 1, 0, [0x636]⟩, ⟨0xfec1, 0xfec4, 1, 0, [0x637]⟩, ⟨0xfec5, 0xfec8, 1, 0,
    [0x638]⟩, ⟨0xfec9, 0xfecc, 1, 0, [0x639]⟩, ⟨0xfecd, 0xfed0, 1, 0, [0x63a]⟩, ⟨0xfed1, 0xfed4,
    1, 0, [0x641]⟩, ⟨0xfed5, 0xfed8, 1, 0, [0x642]⟩, ⟨0xfed9, 0xfedc, 1, 0, [0x643]⟩, ⟨0xfedd,
    0xfee0, 1, 0, [0x644]⟩, ⟨0xfee1, 0xfee4, 1, 0, [0x645]⟩, ⟨0xfee5, 0xfee8, 1, 0, [0x646]⟩,
    ⟨0xfee9, 0xfeec, 1, 0, [0x647]⟩, ⟨0xfeed, 0xfef1, 2, 1, [0x648]⟩, ⟨0xfeee, 0xfef2, 2, 1,
    [0x648]⟩, ⟨0xff01, 0xff5e, 1, 1, [0x21]⟩, ⟨0xff67, 0xff6b, 1, 2, [0x30a1]⟩, ⟨0xff6c, 0xff6e,
    1, 2, [0x30e3]⟩, ⟨0xff71, 0xff75, 1, 2, [0x30a2]⟩, ⟨0xff76, 0xff81, 1, 2, [0x30ab]⟩, ⟨0xff82,
    0xff85, 1, 2, [0x30c4]⟩, ⟨0xff86, 0xff8a, 1, 1, [0x30cb]⟩, ⟨0xff8f, 0xff93, 1, 1, [0x30de]⟩,
    ⟨0xff94, 0xff96, 1, 2, [0x30e4]⟩, ⟨0xff97, 0xff9b, 1, 1, [0x30e9]⟩, ⟨0xffa7, 0xffa9, 1, 1,
    [0x1103]⟩, ⟨0xffaa, 0xffaf, 1, 1, [0x11b0]⟩, ⟨0xffb1, 0xffb3, 1, 1, [0x1106]⟩, ⟨0xffb5,
    0xffbe, 1, 1, [0x1109]⟩, ⟨0xffc2, 0xffc7, 1, 1, [0x1161]⟩, ⟨0xffca, 0xffcf, 1, 1, [0x1167]⟩,
    ⟨0xffd2, 0xffd7, 1, 1, [0x116d]⟩, ⟨0xffda, 0xffdc, 1, 1, [0x1173]⟩, ⟨0xffe9, 0xffec, 1, 1,
    [0x2190]⟩, ⟨0x107b6, 0x107b8, 1, 1, [0x1c0]⟩, ⟨0x1d400, 0x1d419, 1, 1, [0x41]⟩, ⟨0x1d41a,
    0x1d433, 1, 1, [0x61]⟩, ⟨0x1d434, 0x1d44d, 1, 1, [0x41]⟩, ⟨0x1d44e, 0x1d466, 2, 2, [0x61]⟩,
    ⟨0x1d44f, 0x1d453, 2, 2, [0x62]⟩, ⟨0x1d457, 0x1d467, 2, 2, [0x6a]⟩, ⟨0x1d468, 0x1d481, 1, 1,
    [0x41]⟩, ⟨0x1d482, 0x1d49b, 1, 1, [0x61]⟩, ⟨0x1d4a9, 0x1d4ac, 1, 1, [0x4e]⟩, ⟨0x1d4ae,
    0x1d4b5, 1, 1, [0x53]⟩, ⟨0x1d4b6, 0x1d4b9, 1, 1, [0x61]⟩, ⟨0x1d4bb, 0x1d4cf, 2, 2, [0x66]⟩,
    ⟨0x1d4be, 0x1d4c2, 2, 2, [0x69]⟩, ⟨0x1d4c6, 0x1d4ce, 2, 2, [0x71]⟩, ⟨0x1d4d0, 0x1d4e9, 1, 1,
    [0x41]⟩, ⟨0x1d4ea, 0x1d503, 1, 1, [0x61]⟩, ⟨0x1d505, 0x1d509, 2, 2, [0x42]⟩, ⟨0x1d50d,
    0x1d514, 1, 1, [0x4a]⟩, ⟨0x1d516, 0x1d51c, 1, 1, [0x53]⟩, ⟨0x1d51e, 0x1d537, 1, 1, [0x61]⟩,
    ⟨0x1d539, 0x1d53d, 2, 2, [0x42]⟩, ⟨0x1d53c, 0x1d546, 2, 2, [0x45]⟩, ⟨0x1d54a, 0x1d550, 1, 1,
    [0x53]⟩, ⟨0x1d552, 0x1d56b, 1, 1, [0x61]⟩, ⟨0x1d56c, 0x1d585, 1, 1, [0x41]⟩, ⟨0x1d586,
    0x1d59f, 1, 1, [0x61]⟩, ⟨0x1d5a0, 0x1d5b9, 1, 1, [0x41]⟩, ⟨0x1d5ba, 0x1d5d3, 1, 1, [0x61]⟩,
    ⟨0x1d5d4, 0x1d5ed, 1, 1, [0x41]⟩, ⟨0x1d5ee, 0x1d607, 1, 1, [0x61]⟩, ⟨0x1d608, 0x1d621, 1, 1,
    [0x41]⟩, ⟨0x1d622, 0x1d63b, 1, 1, [0x61]⟩, ⟨0x1d63c, 0x1d655, 1, 1, [0x41]⟩, ⟨0x1d656,
    0x1d66f, 1, 1, [0x61]⟩, ⟨0x1d670, 0x1d689, 1, 1, [0x41]⟩, ⟨0x1d68a, 0x1d6a3, 1, 1, [0x61]⟩,
    ⟨0x1d6a8, 0x1d6b8, 1, 1, [0x391]⟩, ⟨0x1d6ba, 0x1d6c0, 1, 1, [0x3a3]⟩, ⟨0x1d6c2, 0x1d6da, 1, 1,
    [0x3b1]⟩, ⟨0x1d6e2, 0x1d6f2, 1, 1, [0x391]⟩, ⟨0x1d6f4, 0x1d6fa, 1, 1, [0x3a3]⟩, ⟨0x1d6fc,
    0x1d714, 1, 1, [0x3b1]⟩, ⟨0x1d71c, 0x1d72c, 1, 1, [0x391]⟩, ⟨0x1d72e, 0x1d734, 1, 1, [0x3a3]⟩,
    ⟨0x1d736, 0x1d74e, 1, 1, [0x3b1]⟩, ⟨0x1d756, 0x1d766, 1, 1, [0x391]⟩, ⟨0x1d768, 0x1d76e, 1, 1,
    [0x3a3]⟩, ⟨0x1d770, 0x1d788, 1, 1, [0x3b1]⟩, ⟨0x1d790, 0x1d7a0, 1, 1, [0x391]⟩, ⟨0x1d7a2,
    0x1d7a8, 1, 1, [0x3a3]⟩, ⟨0x1d7aa, 0x1d7c2, 1, 1, [0x3b1]⟩, ⟨0x1d7ce, 0x1d7d7, 1, 1, [0x30]⟩,
    ⟨0x1d7d8, 0x1d7e1, 1, 1, [0x30]⟩, ⟨0x1d7e2, 0x1d7eb, 1, 1, [0x30]⟩, ⟨0x1d7ec, 0x1d7f5, 1, 1,
    [0x30]⟩, ⟨0x1d7f6, 0x1d7ff, 1, 1, [0x30]⟩, ⟨0x1ee0a, 0x1ee0d, 1, 1, [0x643]⟩, ⟨0x1ee19,
    0x1ee1b, 1, 2, [0x636]⟩, ⟨0x1ee2a, 0x1ee2d, 1, 1, [0x643]⟩, ⟨0x1ee79, 0x1ee7b, 1, 2, [0x636]⟩,
    ⟨0x1ee8b, 0x1ee8d, 1, 1, [0x644]⟩, ⟨0x1ee99, 0x1ee9b, 1, 2, [0x636]⟩, ⟨0x1eeab, 0x1eead, 1, 1,
    [0x644]⟩, ⟨0x1eeb9, 0x1eebb, 1, 2, [0x636]⟩, ⟨0x1f101, 0x1f10a, 1, 1, [0x30, 0x2c]⟩, ⟨0x1f130,
    0x1f149, 1, 1, [0x41]⟩, ⟨0x1fbf0, 0x1fbf9, 1, 1, [0x30]⟩]

def compatibilityForms : List (Nat × List (List Nat)) :=
  [(0xa0, [[0x20]]), (0xa8, [[0x20, 0x308]]), (0xaa, [[0x61]]), (0xaf, [[0x20, 0x304]]), (0xb2,
    [[0x32], [0x33], [0x20, 0x301], [0x3bc]]), (0xb8, [[0x20, 0x327], [0x31], [0x6f]]), (0xbc,
    [[0x31, 0x2044, 0x34], [0x31, 0x2044, 0x32], [0x33, 0x2044, 0x34]]), (0x132, [[0x49, 0x4a],
    [0x69, 0x6a]]), (0x13f, [[0x4c, 0xb7], [0x6c, 0xb7]]), (0x149, [[0x2bc, 0x6e]]), (0x17f,
    [[0x73]]), (0x1c4, [[0x44, 0x5a, 0x30c], [0x44, 0x7a, 0x30c], [0x64, 0x7a, 0x30c], [0x4c,
    0x4a], [0x4c, 0x6a], [0x6c, 0x6a], [0x4e, 0x4a], [0x4e, 0x6a], [0x6e, 0x6a]]), (0x1f1, [[0x44,
    0x5a], [0x44, 0x7a], [0x64, 0x7a]]), (0x2b0, [[0x68], [0x266], [0x6a], [0x72], [0x279],
    [0x27b], [0x281], [0x77], [0x79]]), (0x2d8, [[0x20, 0x306], [0x20, 0x307], [0x20, 0x30a],
    [0x20, 0x328], [0x20, 0x303], [0x20, 0x30b]]), (0x2e0, [[0x263], [0x6c], [0x73], [0x78],
    [0x295]]), (0x37a, [[0x20, 0x345]]), (0x384, [[0x20, 0x301], [0x20, 0x308, 0x301]]), (0x3d0,
    [[0x3b2], [0x3b8], [0x3a5], [0x3a5, 0x301], [0x3a5, 0x308], [0x3c6], [0x3c0]]), (0x3f0,
    [[0x3ba], [0x3c1], [0x3c2]]), (0x3f4, [[0x398], [0x3b5]]), (0x3f9, [[0x3a3]]), (0x587,
    [[0x565, 0x582]]), (0x675, [[0x627, 0x674], [0x648, 0x674], [0x6c7, 0x674], [0x64a, 0x674]]),
    (0xe33, [[0xe4d, 0xe32]]), (0xeb3, [[0xecd, 0xeb2]]), (0xedc, [[0xeab, 0xe99], [0xeab,
    0xea1]]), (0xf0c, [[0xf0b]]), (0xf77, [[0xfb2, 0xf71, 0xf80]]), (0xf79, [[0xfb3, 0xf71,
    0xf80]]), (0x10fc, [[0x10dc]]), (0x1d2c, [[0x41], [0xc6], [0x42]]), (0x1d30, [[0x44]]),
    (0x1d32, [[0x18e]]), (0x1d3c, [[0x4f], [0x222]]), (0x1d41, [[0x55], [0x57], [0x61], [0x250],
    [0x251], [0x1d02], [0x62], [0x64], [0x65], [0x259], [0x25b], [0x25c], [0x67]]), (0x1d4f,
    [[0x6b], [0x6d], [0x14b], [0x6f], [0x254], [0x1d16], [0x1d17], [0x70], [0x74], [0x75],
    [0x1d1d], [0x26f], [0x76], [0x1d25]]), (0x1d60, [[0x3c6], [0x3c7], [0x69], [0x72], [0x75],
    [0x76], [0x3b2], [0x3b3], [0x3c1], [0x3c6], [0x3c7]]), (0x1d78, [[0x43d]]), (0x1d9b, [[0x252],
    [0x63], [0x255], [0xf0], [0x25c], [0x66], [0x25f], [0x261], [0x265]]), (0x1da7, [[0x1d7b],
    [0x29d], [0x26d], [0x1d85], [0x29f], [0x271], [0x270]]), (0x1db2, [[0x278], [0x282], [0x283],
    [0x1ab], [0x289], [0x28a], [0x1d1c], [0x28b], [0x28c], [0x7a]]), (0x1dbf, [[0x3b8]]), (0x1e9a,
    [[0x61, 0x2be], [0x73, 0x307]]), (0x1fbd, [[0x20, 0x313]]), (0x1fbf, [[0x20, 0x313], [0x20,
    0x342], [0x20, 0x308, 0x342]]), (0x1fcd, [[0x20, 0x313, 0x300], [0x20, 0x313, 0x301], [0x20,
    0x313, 0x342]]), (0x1fdd, [[0x20, 0x314, 0x300], [0x20, 0x314, 0x301], [0x20, 0x314, 0x342]]),
    (0x1fed, [[0x20, 0x308, 0x300], [0x20, 0x308, 0x301]]), (0x1ffd, [[0x20, 0x301], [0x20,
    0x314]]), (0x2011, [[0x2010]]), (0x2017, [[0x20, 0x333]]), (0x2024, [[0x2e], [0x2e, 0x2e],
    [0x2e, 0x2e, 0x2e]]), (0x202f, [[0x20]]), (0x2033, [[0x2032, 0x2032], [0x2032, 0x2032,
    0x2032]]), (0x2036, [[0x2035, 0x2035], [0x2035, 0x2035, 0x2035]]), (0x203c, [[0x21, 0x21]]),
    (0x203e, [[0x20, 0x305]]), (0x2047, [[0x3f, 0x3f], [0x3f, 0x21], [0x21, 0x3f]]), (0x2057,
    [[0x2032, 0x2032, 0x2032, 0x2032]]), (0x205f, [[0x20]]), (0x2070, [[0x30], [0x69]]), (0x207a,
    [[0x2b], [0x2212], [0x3d], [0x28], [0x29], [0x6e]]), (0x208a, [[0x2b], [0x2212], [0x3d],
    [0x28], [0x29]]), (0x2090, [[0x61], [0x65], [0x6f], [0x78], [0x259], [0x68]]), (0x209a,
    [[0x70], [0x73], [0x74]]), (0x20a8, [[0x52, 0x73]]), (0x2100, [[0x61, 0x2f, 0x63], [0x61,
    0x2f, 0x73], [0x43], [0xb0, 0x43]]), (0x2105, [[0x63, 0x2f, 0x6f], [0x63, 0x2f, 0x75],
    [0x190]]), (0x2109, [[0xb0, 0x46], [0x67]]), (0x210e, [[0x68], [0x127], [0x49], [0x49],
    [0x4c], [0x6c]]), (0x2115, [[0x4e], [0x4e, 0x6f]]), (0x211c, [[0x52], [0x52]]), (0x2120,
    [[0x53, 0x4d], [0x54, 0x45, 0x4c], [0x54, 0x4d]]), (0x2124, [[0x5a]]), (0x2128, [[0x5a]]),
    (0x212c, [[0x42], [0x43]]), (0x212f, [[0x65], [0x45], [0x46]]), (0x2133, [[0x4d], [0x6f]]),
    (0x2139, [[0x69]]), (0x213b, [[0x46, 0x41, 0x58], [0x3c0], [0x3b3], [0x393], [0x3a0],
    [0x2211]]), (0x2145, [[0x44], [0x64], [0x65], [0x69], [0x6a]]), (0x2150, [[0x31, 0x2044,
    0x37], [0x31, 0x2044, 0x39], [0x31, 0x2044, 0x31, 0x30], [0x31, 0x2044, 0x33], [0x32, 0x2044,
    0x33]]), (0x2159, [[0x31, 0x2044, 0x36], [0x35, 0x2044, 0x36]]), (0x215f, [[0x31, 0x2044],
    [0x49], [0x49, 0x49], [0x49, 0x49, 0x49], [0x49, 0x56], [0x56], [0x56, 0x49], [0x56, 0x49,
    0x49], [0x56, 0x49, 0x49, 0x49], [0x49, 0x58], [0x58], [0x58, 0x49], [0x58, 0x49, 0x49],
    [0x4c], [0x43], [0x44], [0x4d], [0x69], [0x69, 0x69], [0x69, 0x69, 0x69], [0x69, 0x76],
    [0x76], [0x76, 0x69], [0x76, 0x69, 0x69], [0x76, 0x69, 0x69, 0x69], [0x69, 0x78], [0x78],
    [0x78, 0x69], [0x78, 0x69, 0x69], [0x6c], [0x63], [0x64], [0x6d]]), (0x2189, [[0x30, 0x2044,
    0x33]]), (0x222c, [[0x222b, 0x222b], [0x222b, 0x222b, 0x222b]]), (0x222f, [[0x222e, 0x222e],
    [0x222e, 0x222e, 0x222e]]), (0x2469, [[0x31, 0x30], [0x31, 0x31], [0x31, 0x32], [0x31, 0x33],
    [0x31, 0x34], [0x31, 0x35], [0x31, 0x36], [0x31, 0x37], [0x31, 0x38], [0x31, 0x39], [0x32,
    0x30], [0x28, 0x31, 0x29], [0x28, 0x32, 0x29], [0x28, 0x33, 0x29], [0x28, 0x34, 0x29], [0x28,
    0x35, 0x29], [0x28, 0x36, 0x29], [0x28, 0x37, 0x29], [0x28, 0x38, 0x29], [0x28, 0x39, 0x29],
    [0x28, 0x31, 0x30, 0x29], [0x28, 0x31, 0x31, 0x29], [0x28, 0x31, 0x32, 0x29], [0x28, 0x31,
    0x33, 0x29], [0x28, 0x31, 0x34, 0x29], [0x28, 0x31, 0x35, 0x29], [0x28, 0x31, 0x36, 0x29],
    [0x28, 0x31, 0x37, 0x29], [0x28, 0x31, 0x38, 0x29], [0x28, 0x31, 0x39, 0x29], [0x28, 0x32,
    0x30, 0x29]]), (0x2491, [[0x31, 0x30, 0x2e], [0x31, 0x31, 0x2e], [0x31, 0x32, 0x2e], [0x31,
    0x33, 0x2e], [0x31, 0x34, 0x2e], [0x31, 0x35, 0x2e], [0x31, 0x36, 0x2e], [0x31, 0x37, 0x2e],
    [0x31, 0x38, 0x2e], [0x31, 0x39, 0x2e], [0x32, 0x30, 0x2e], [0x28, 0x61, 0x29], [0x28, 0x62,
    0x29], [0x28, 0x63, 0x29], [0x28, 0x64, 0x29], [0x28, 0x65, 0x29], [0x28, 0x66, 0x29], [0x28,
    0x67, 0x29], [0x28, 0x68, 0x29], [0x28, 0x69, 0x29], [0x28, 0x6a, 0x29], [0x28, 0x6b, 0x29],
    [0x28, 0x6c, 0x29], [0x28, 0x6d, 0x29], [0x28, 0x6e, 0x29], [0x28, 0x6f, 0x29], [0x28, 0x70,
    0x29], [0x28, 0x71, 0x29], [0x28, 0x72, 0x29], [0x28, 0x73, 0x29], [0x28, 0x74, 0x29], [0x28,
    0x75, 0x29], [0x28, 0x76, 0x29], [0x28, 0x77, 0x29], [0x28, 0x78, 0x29], [0x28, 0x79, 0x29],
    [0x28, 0x7a, 0x29]]), (0x24ea, [[0x30]]), (0x2a0c, [[0x222b, 0x222b, 0x222b, 0x222b]]),
    (0x2a74, [[0x3a, 0x3a, 0x3d], [0x3d, 0x3d], [0x3d, 0x3d, 0x3d]]), (0x2c7c, [[0x6a], [0x56]]),
    (0x2d6f, [[0x2d61]]), (0x2e9f, [[0x6bcd]]), (0x2ef3, [[0x9f9f]]), (0x2f00, [[0x4e00],
    [0x4e28], [0x4e36], [0x4e3f], [0x4e59], [0x4e85], [0x4e8c], [0x4ea0], [0x4eba], [0x513f],
    [0x5165], [0x516b], [0x5182], [0x5196], [0x51ab], [0x51e0], [0x51f5], [0x5200], [0x529b],
    [0x52f9], [0x5315], [0x531a], [0x5338], [0x5341], [0x535c], [0x5369], [0x5382], [0x53b6],
    [0x53c8], [0x53e3], [0x56d7], [0x571f], [0x58eb], [0x5902], [0x590a], [0x5915], [0x5927],
    [0x5973], [0x5b50], [0x5b80], [0x5bf8], [0x5c0f], [0x5c22], [0x5c38], [0x5c6e], [0x5c71],
    [0x5ddb], [0x5de5], [0x5df1], [0x5dfe], [0x5e72], [0x5e7a], [0x5e7f], [0x5ef4], [0x5efe],
    [0x5f0b], [0x5f13], [0x5f50], [0x5f61], [0x5f73], [0x5fc3], [0x6208], [0x6236], [0x624b],
    [0x652f], [0x6534], [0x6587], [0x6597], [0x65a4], [0x65b9], [0x65e0], [0x65e5], [0x66f0],
    [0x6708], [0x6728], [0x6b20], [0x6b62], [0x6b79], [0x6bb3], [0x6bcb], [0x6bd4], [0x6bdb],
    [0x6c0f], [0x6c14], [0x6c34], [0x706b], [0x722a], [0x7236], [0x723b], [0x723f], [0x7247],
    [0x7259], [0x725b], [0x72ac], [0x7384], [0x7389], [0x74dc], [0x74e6], [0x7518], [0x751f],
    [0x7528], [0x7530], [0x758b], [0x7592], [0x7676], [0x767d], [0x76ae], [0x76bf], [0x76ee],
    [0x77db], [0x77e2], [0x77f3], [0x793a], [0x79b8], [0x79be], [0x7a74], [0x7acb], [0x7af9],
    [0x7c73], [0x7cf8], [0x7f36], [0x7f51], [0x7f8a], [0x7fbd], [0x8001], [0x800c], [0x8012],
    [0x8033], [0x807f], [0x8089], [0x81e3], [0x81ea], [0x81f3], [0x81fc], [0x820c], [0x821b],
    [0x821f], [0x826e], [0x8272], [0x8278], [0x864d], [0x866b], [0x8840], [0x884c], [0x8863],
    [0x897e], [0x898b], [0x89d2], [0x8a00], [0x8c37], [0x8c46], [0x8c55], [0x8c78], [0x8c9d],
    [0x8d64], [0x8d70], [0x8db3], [0x8eab], [0x8eca], [0x8f9b], [0x8fb0], [0x8fb5], [0x9091],
    [0x9149], [0x91c6], [0x91cc], [0x91d1], [0x9577], [0x9580], [0x961c], [0x96b6], [0x96b9],
    [0x96e8], [0x9751], [0x975e], [0x9762], [0x9769], [0x97cb], [0x97ed], [0x97f3], [0x9801],
    [0x98a8], [0x98db], [0x98df], [0x9996], [0x9999], [0x99ac], [0x9aa8], [0x9ad8], [0x9adf],
    [0x9b25], [0x9b2f], [0x9b32], [0x9b3c], [0x9b5a], [0x9ce5], [0x9e75], [0x9e7f], [0x9ea5],
    [0x9ebb], [0x9ec3], [0x9ecd], [0x9ed1], [0x9ef9], [0x9efd], [0x9f0e], [0x9f13], [0x9f20],
    [0x9f3b], [0x9f4a], [0x9f52], [0x9f8d], [0x9f9c], [0x9fa0]]), (0x3000, [[0x20]]), (0x3036,
    [[0x3012]]), (0x3038, [[0x5341], [0x5344], [0x5345]]), (0x309b, [[0x20, 0x3099], [0x20,
    0x309a]]), (0x309f, [[0x3088, 0x308a]]), (0x30ff, [[0x30b3, 0x30c8]]), (0x3131, [[0x1100],
    [0x1101], [0x11aa], [0x1102], [0x11ac], [0x11ad]]), (0x3140, [[0x111a]]), (0x3144,
    [[0x1121]]), (0x3164, [[0x1160], [0x1114], [0x1115], [0x11c7], [0x11c8], [0x11cc], [0x11ce],
    [0x11d3], [0x11d7], [0x11d9], [0x111c], [0x11dd], [0x11df], [0x111d]]), (0x3175, [[0x1123]]),
    (0x317d, [[0x1132], [0x1136], [0x1140], [0x1147], [0x114c], [0x11f1], [0x11f2]]), (0x3187,
    [[0x1184], [0x1185], [0x1188], [0x1191], [0x1192], [0x1194], [0x119e], [0x11a1]]), (0x3192,
    [[0x4e00], [0x4e8c]]), (0x3195, [[0x56db]]), (0x3197, [[0x4e2d]]), (0x3199, [[0x7532],
    [0x4e59], [0x4e19], [0x4e01], [0x5929], [0x5730], [0x4eba]]), (0x3200, [[0x28, 0x1100, 0x29],
    [0x28, 0x1102, 0x29], [0x28, 0x1103, 0x29], [0x28, 0x1105, 0x29], [0x28, 0x1106, 0x29], [0x28,
    0x1107, 0x29], [0x28, 0x1109, 0x29], [0x28, 0x110b, 0x29], [0x28, 0x110c, 0x29], [0x28,
    0x110e, 0x29], [0x28, 0x110f, 0x29], [0x28, 0x1110, 0x29], [0x28, 0x1111, 0x29], [0x28,
    0x1112, 0x29], [0x28, 0x1100, 0x1161, 0x29], [0x28, 0x1102, 0x1161, 0x29], [0x28, 0x1103,
    0x1161, 0x29], [0x28, 0x1105, 0x1161, 0x29], [0x28, 0x1106, 0x1161, 0x29], [0x28, 0x1107,
    0x1161, 0x29], [0x28, 0x1109, 0x1161, 0x29], [0x28, 0x110b, 0x1161, 0x29], [0x28, 0x110c,
    0x1161, 0x29], [0x28, 0x110e, 0x1161, 0x29], [0x28, 0x110f, 0x1161, 0x29], [0x28, 0x1110,
    0x1161, 0x29], [0x28, 0x1111, 0x1161, 0x29], [0x28, 0x1112, 0x1161, 0x29], [0x28, 0x110c,
    0x116e, 0x29], [0x28, 0x110b, 0x1169, 0x110c, 0x1165, 0x11ab, 0x29], [0x28, 0x110b, 0x1169,
    0x1112, 0x116e, 0x29]]), (0x3220, [[0x28, 0x4e00, 0x29], [0x28, 0x4e8c, 0x29], [0x28, 0x4e09,
    0x29], [0x28, 0x56db, 0x29], [0x28, 0x4e94, 0x29], [0x28, 0x516d, 0x29], [0x28, 0x4e03, 0x29],
    [0x28, 0x516b, 0x29], [0x28, 0x4e5d, 0x29], [0x28, 0x5341, 0x29], [0x28, 0x6708, 0x29], [0x28,
    0x706b, 0x29], [0x28, 0x6c34, 0x29], [0x28, 0x6728, 0x29], [0x28, 0x91d1, 0x29], [0x28,
    0x571f, 0x29], [0x28, 0x65e5, 0x29], [0x28, 0x682a, 0x29], [0x28, 0x6709, 0x29], [0x28,
    0x793e, 0x29], [0x28, 0x540d, 0x29], [0x28, 0x7279, 0x29], [0x28, 0x8ca1, 0x29], [0x28,
    0x795d, 0x29], [0x28, 0x52b4, 0x29], [0x28, 0x4ee3, 0x29], [0x28, 0x547c, 0x29], [0x28,
    0x5b66, 0x29], [0x28, 0x76e3, 0x29], [0x28, 0x4f01, 0x29], [0x28, 0x8cc7, 0x29], [0x28,
    0x5354, 0x29], [0x28, 0x796d, 0x29], [0x28, 0x4f11, 0x29], [0x28, 0x81ea, 0x29], [0x28,
    0x81f3, 0x29], [0x554f], [0x5e7c], [0x6587], [0x7b8f]]), (0x3250, [[0x50, 0x54, 0x45], [0x32,
    0x31], [0x32, 0x32], [0x32, 0x33], [0x32, 0x34], [0x32, 0x35], [0x32, 0x36], [0x32, 0x37],
    [0x32, 0x38], [0x32, 0x39], [0x33, 0x30], [0x33, 0x31], [0x33, 0x32], [0x33, 0x33], [0x33,
    0x34], [0x33, 0x35], [0x1100], [0x1102], [0x1103]]), (0x3266, [[0x1109], [0x110b], [0x110c]]),
    (0x326e, [[0x1100, 0x1161], [0x1102, 0x1161], [0x1103, 0x1161]]), (0x3274, [[0x1109, 0x1161],
    [0x110b, 0x1161], [0x110c, 0x1161]]), (0x327c, [[0x110e, 0x1161, 0x11b7, 0x1100, 0x1169],
    [0x110c, 0x116e, 0x110b, 0x1174], [0x110b, 0x116e]]), (0x3280, [[0x4e00], [0x4e8c], [0x4e09],
    [0x56db], [0x4e94], [0x516d], [0x4e03], [0x516b], [0x4e5d], [0x5341], [0x6708], [0x706b],
    [0x6c34], [0x6728], [0x91d1], [0x571f], [0x65e5], [0x682a], [0x6709], [0x793e], [0x540d],
    [0x7279], [0x8ca1], [0x795d], [0x52b4], [0x79d8], [0x7537], [0x5973], [0x9069], [0x512a],
    [0x5370], [0x6ce8], [0x9805], [0x4f11], [0x5199], [0x6b63], [0x4e0a], [0x4e2d], [0x4e0b],
    [0x5de6], [0x53f3], [0x533b], [0x5b97], [0x5b66], [0x76e3], [0x4f01], [0x8cc7], [0x5354],
    [0x591c], [0x33, 0x36], [0x33, 0x37], [0x33, 0x38], [0x33, 0x39], [0x34, 0x30], [0x34, 0x31],
    [0x34, 0x32], [0x34, 0x33], [0x34, 0x34], [0x34, 0x35], [0x34, 0x36], [0x34, 0x37], [0x34,
    0x38], [0x34, 0x39], [0x35, 0x30]]), (0x32c9, [[0x31, 0x30, 0x6708], [0x31, 0x31, 0x6708],
    [0x31, 0x32, 0x6708], [0x48, 0x67], [0x65, 0x72, 0x67], [0x65, 0x56], [0x4c, 0x54, 0x44]]),
    (0x32ea, [[0x30d2], [0x30d5], [0x30d8], [0x30db]]), (0x32ff, [[0x4ee4, 0x548c], [0x30a2,
    0x30cf, 0x309a, 0x30fc, 0x30c8], [0x30a2, 0x30eb, 0x30d5, 0x30a1], [0x30a2, 0x30f3, 0x30d8,
    0x309a, 0x30a2], [0x30a2, 0x30fc, 0x30eb], [0x30a4, 0x30cb, 0x30f3, 0x30af, 0x3099], [0x30a4,
    0x30f3, 0x30c1], [0x30a6, 0x30a9, 0x30f3], [0x30a8, 0x30b9, 0x30af, 0x30fc, 0x30c8, 0x3099],
    [0x30a8, 0x30fc, 0x30ab, 0x30fc], [0x30aa, 0x30f3, 0x30b9], [0x30aa, 0x30fc, 0x30e0], [0x30ab,
    0x30a4, 0x30ea], [0x30ab, 0x30e9, 0x30c3, 0x30c8], [0x30ab, 0x30ed, 0x30ea, 0x30fc], [0x30ab,
    0x3099, 0x30ed, 0x30f3], [0x30ab, 0x3099, 0x30f3, 0x30de], [0x30ad, 0x3099, 0x30ab, 0x3099],
    [0x30ad, 0x3099, 0x30cb, 0x30fc], [0x30ad, 0x30e5, 0x30ea, 0x30fc], [0x30ad, 0x3099, 0x30eb,
    0x30bf, 0x3099, 0x30fc], [0x30ad, 0x30ed], [0x30ad, 0x30ed, 0x30af, 0x3099, 0x30e9, 0x30e0],
    [0x30ad, 0x30ed, 0x30e1, 0x30fc, 0x30c8, 0x30eb], [0x30ad, 0x30ed, 0x30ef, 0x30c3, 0x30c8],
    [0x30af, 0x3099, 0x30e9, 0x30e0], [0x30af, 0x3099, 0x30e9, 0x30e0, 0x30c8, 0x30f3], [0x30af,
    0x30eb, 0x30bb, 0x3099, 0x30a4, 0x30ed], [0x30af, 0x30ed, 0x30fc, 0x30cd], [0x30b1, 0x30fc,
    0x30b9], [0x30b3, 0x30eb, 0x30ca], [0x30b3, 0x30fc, 0x30db, 0x309a], [0x30b5, 0x30a4, 0x30af,
    0x30eb], [0x30b5, 0x30f3, 0x30c1, 0x30fc, 0x30e0], [0x30b7, 0x30ea, 0x30f3, 0x30af, 0x3099],
    [0x30bb, 0x30f3, 0x30c1], [0x30bb, 0x30f3, 0x30c8], [0x30bf, 0x3099, 0x30fc, 0x30b9], [0x30c6,
    0x3099, 0x30b7], [0x30c8, 0x3099, 0x30eb], [0x30c8, 0x30f3], [0x30ca, 0x30ce], [0x30ce,
    0x30c3, 0x30c8], [0x30cf, 0x30a4, 0x30c4], [0x30cf, 0x309a, 0x30fc, 0x30bb, 0x30f3, 0x30c8],
    [0x30cf, 0x309a, 0x30fc, 0x30c4], [0x30cf, 0x3099, 0x30fc, 0x30ec, 0x30eb], [0x30d2, 0x309a,
    0x30a2, 0x30b9, 0x30c8, 0x30eb], [0x30d2, 0x309a, 0x30af, 0x30eb], [0x30d2, 0x309a, 0x30b3],
    [0x30d2, 0x3099, 0x30eb], [0x30d5, 0x30a1, 0x30e9, 0x30c3, 0x30c8, 0x3099], [0x30d5, 0x30a3,
    0x30fc, 0x30c8], [0x30d5, 0x3099, 0x30c3, 0x30b7, 0x30a7, 0x30eb], [0x30d5, 0x30e9, 0x30f3],
    [0x30d8, 0x30af, 0x30bf, 0x30fc, 0x30eb], [0x30d8, 0x309a, 0x30bd], [0x30d8, 0x309a, 0x30cb,
    0x30d2], [0x30d8, 0x30eb, 0x30c4], [0x30d8, 0x309a, 0x30f3, 0x30b9], [0x30d8, 0x309a, 0x30fc,
    0x30b7, 0x3099], [0x30d8, 0x3099, 0x30fc, 0x30bf], [0x30db, 0x309a, 0x30a4, 0x30f3, 0x30c8],
    [0x30db, 0x3099, 0x30eb, 0x30c8], [0x30db, 0x30f3], [0x30db, 0x309a, 0x30f3, 0x30c8, 0x3099],
    [0x30db, 0x30fc, 0x30eb], [0x30db, 0x30fc, 0x30f3], [0x30de, 0x30a4, 0x30af, 0x30ed], [0x30de,
    0x30a4, 0x30eb], [0x30de, 0x30c3, 0x30cf], [0x30de, 0x30eb, 0x30af], [0x30de, 0x30f3, 0x30b7,
    0x30e7, 0x30f3], [0x30df, 0x30af, 0x30ed, 0x30f3], [0x30df, 0x30ea], [0x30df, 0x30ea, 0x30cf,
    0x3099, 0x30fc, 0x30eb], [0x30e1, 0x30ab, 0x3099], [0x30e1, 0x30ab, 0x3099, 0x30c8, 0x30f3],
    [0x30e1, 0x30fc, 0x30c8, 0x30eb], [0x30e4, 0x30fc, 0x30c8, 0x3099], [0x30e4, 0x30fc, 0x30eb],
    [0x30e6, 0x30a2, 0x30f3], [0x30ea, 0x30c3, 0x30c8, 0x30eb], [0x30ea, 0x30e9], [0x30eb, 0x30d2,
    0x309a, 0x30fc], [0x30eb, 0x30fc, 0x30d5, 0x3099, 0x30eb], [0x30ec, 0x30e0], [0x30ec, 0x30f3,
    0x30c8, 0x30b1, 0x3099, 0x30f3], [0x30ef, 0x30c3, 0x30c8]]), (0x3362, [[0x31, 0x30, 0x70b9],
    [0x31, 0x31, 0x70b9], [0x31, 0x32, 0x70b9], [0x31, 0x33, 0x70b9], [0x31, 0x34, 0x70b9], [0x31,
    0x35, 0x70b9], [0x31, 0x36, 0x70b9], [0x31, 0x37, 0x70b9], [0x31, 0x38, 0x70b9], [0x31, 0x39,
    0x70b9], [0x32, 0x30, 0x70b9], [0x32, 0x31, 0x70b9], [0x32, 0x32, 0x70b9], [0x32, 0x33,
    0x70b9], [0x32, 0x34, 0x70b9], [0x68, 0x50, 0x61], [0x64, 0x61], [0x41, 0x55], [0x62, 0x61,
    0x72], [0x6f, 0x56], [0x70, 0x63], [0x64, 0x6d], [0x64, 0x6d, 0x32], [0x64, 0x6d, 0x33],
    [0x49, 0x55], [0x5e73, 0x6210], [0x662d, 0x548c], [0x5927, 0x6b63], [0x660e, 0x6cbb], [0x682a,
    0x5f0f, 0x4f1a, 0x793e], [0x70, 0x41], [0x6e, 0x41], [0x3bc, 0x41], [0x6d, 0x41], [0x6b,
    0x41], [0x4b, 0x42], [0x4d, 0x42], [0x47, 0x42], [0x63, 0x61, 0x6c], [0x6b, 0x63, 0x61, 0x6c],
    [0x70, 0x46], [0x6e, 0x46], [0x3bc, 0x46], [0x3bc, 0x67], [0x6d, 0x67], [0x6b, 0x67], [0x48,
    0x7a], [0x6b, 0x48, 0x7a], [0x4d, 0x48, 0x7a], [0x47, 0x48, 0x7a], [0x54, 0x48, 0x7a], [0x3bc,
    0x6c], [0x6d, 0x6c], [0x64, 0x6c], [0x6b, 0x6c], [0x66, 0x6d], [0x6e, 0x6d], [0x3bc, 0x6d],
    [0x6d, 0x6d], [0x63, 0x6d], [0x6b, 0x6d], [0x6d, 0x6d, 0x32], [0x63, 0x6d, 0x32], [0x6d,
    0x32], [0x6b, 0x6d, 0x32], [0x6d, 0x6d, 0x33], [0x63, 0x6d, 0x33], [0x6d, 0x33], [0x6b, 0x6d,
    0x33], [0x6d, 0x2215, 0x73], [0x6d, 0x2215, 0x73, 0x32], [0x50, 0x61], [0x6b, 0x50, 0x61],
    [0x4d, 0x50, 0x61], [0x47, 0x50, 0x61], [0x72, 0x61, 0x64], [0x72, 0x61, 0x64, 0x2215, 0x73],
    [0x72, 0x61, 0x64, 0x2215, 0x73, 0x32], [0x70, 0x73], [0x6e, 0x73], [0x3bc, 0x73], [0x6d,
    0x73], [0x70, 0x56], [0x6e, 0x56], [0x3bc, 0x56], [0x6d, 0x56], [0x6b, 0x56], [0x4d, 0x56],
    [0x70, 0x57], [0x6e, 0x57], [0x3bc, 0x57], [0x6d, 0x57], [0x6b, 0x57], [0x4d, 0x57], [0x6b,
    0x3a9], [0x4d, 0x3a9], [0x61, 0x2e, 0x6d, 0x2e], [0x42, 0x71], [0x63, 0x63], [0x63, 0x64],
    [0x43, 0x2215, 0x6b, 0x67], [0x43, 0x6f, 0x2e], [0x64, 0x42], [0x47, 0x79], [0x68, 0x61],
    [0x48, 0x50], [0x69, 0x6e], [0x4b, 0x4b], [0x4b, 0x4d], [0x6b, 0x74], [0x6c, 0x6d], [0x6c,
    0x6e], [0x6c, 0x6f, 0x67], [0x6c, 0x78], [0x6d, 0x62], [0x6d, 0x69, 0x6c], [0x6d, 0x6f, 0x6c],
    [0x50, 0x48], [0x70, 0x2e, 0x6d, 0x2e], [0x50, 0x50, 0x4d], [0x50, 0x52], [0x73, 0x72], [0x53,
    0x76], [0x57, 0x62], [0x56, 0x2215, 0x6d], [0x41, 0x2215, 0x6d]]), (0x33e9, [[0x31, 0x30,
    0x65e5], [0x31, 0x31, 0x65e5], [0x31, 0x32, 0x65e5], [0x31, 0x33, 0x65e5], [0x31, 0x34,
    0x65e5], [0x31, 0x35, 0x65e5], [0x31, 0x36, 0x65e5], [0x31, 0x37, 0x65e5], [0x31, 0x38,
    0x65e5], [0x31, 0x39, 0x65e5], [0x32, 0x30, 0x65e5], [0x32, 0x31, 0x65e5], [0x32, 0x32,
    0x65e5], [0x32, 0x33, 0x65e5], [0x32, 0x34, 0x65e5], [0x32, 0x35, 0x65e5], [0x32, 0x36,
    0x65e5], [0x32, 0x37, 0x65e5], [0x32, 0x38, 0x65e5], [0x32, 0x39, 0x65e5], [0x33, 0x30,
    0x65e5], [0x33, 0x31, 0x65e5], [0x67, 0x61, 0x6c]]), (0xa69c, [[0x44a], [0x44c]]), (0xa770,
    [[0xa76f]]), (0xa7f2, [[0x43], [0x46], [0x51]]), (0xa7f8, [[0x126], [0x153]]), (0xab5c,
    [[0xa727], [0xab37], [0x26b], [0xab52]]), (0xab69, [[0x28d]]), (0xfb00, [[0x66, 0x66], [0x66,
    0x69], [0x66, 0x6c], [0x66, 0x66, 0x69], [0x66, 0x66, 0x6c], [0x73, 0x74], [0x73, 0x74]]),
    (0xfb13, [[0x574, 0x576], [0x574, 0x565], [0x574, 0x56b], [0x57e, 0x576], [0x574, 0x56d]]),
    (0xfb20, [[0x5e2], [0x5d0], [0x5d3], [0x5d4]]), (0xfb27, [[0x5e8], [0x5ea], [0x2b]]), (0xfb4f,
    [[0x5d0, 0x5dc], [0x671], [0x671]]), (0xfb82, [[0x68d], [0x68d], [0x68c], [0x68c], [0x68e],
    [0x68e], [0x688], [0x688], [0x698], [0x698], [0x691], [0x691]]), (0xfb9e, [[0x6ba], [0x6ba]]),
    (0xfba4, [[0x6d5, 0x654], [0x6d5, 0x654]]), (0xfbae, [[0x6d2], [0x6d2], [0x6d2, 0x654],
    [0x6d2, 0x654]]), (0xfbd7, [[0x6c7], [0x6c7], [0x6c6], [0x6c6], [0x6c8], [0x6c8], [0x6c7,
    0x674], [0x6cb], [0x6cb], [0x6c5], [0x6c5], [0x6c9], [0x6c9]]), (0xfbe8, [[0x649], [0x649],
    [0x64a, 0x654, 0x627], [0x64a, 0x654, 0x627], [0x64a, 0x654, 0x6d5], [0x64a, 0x654, 0x6d5],
    [0x64a, 0x654, 0x648], [0x64a, 0x654, 0x648], [0x64a, 0x654, 0x6c7], [0x64a, 0x654, 0x6c7],
    [0x64a, 0x654, 0x6c6], [0x64a, 0x654, 0x6c6], [0x64a, 0x654, 0x6c8], [0x64a, 0x654, 0x6c8]]),
    (0xfc00, [[0x64a, 0x654, 0x62c], [0x64a, 0x654, 0x62d], [0x64a, 0x654, 0x645], [0x64a, 0x654,
    0x649], [0x64a, 0x654, 0x64a], [0x628, 0x62c], [0x628, 0x62d], [0x628, 0x62e], [0x628, 0x645],
    [0x628, 0x649], [0x628, 0x64a], [0x62a, 0x62c], [0x62a, 0x62d], [0x62a, 0x62e], [0x62a,
    0x645], [0x62a, 0x649], [0x62a, 0x64a], [0x62b, 0x62c], [0x62b, 0x645], [0x62b, 0x649],
    [0x62b, 0x64a], [0x62c, 0x62d], [0x62c, 0x645], [0x62d, 0x62c], [0x62d, 0x645], [0x62e,
    0x62c], [0x62e, 0x62d], [0x62e, 0x645], [0x633, 0x62c], [0x633, 0x62d], [0x633, 0x62e],
    [0x633, 0x645], [0x635, 0x62d], [0x635, 0x645], [0x636, 0x62c], [0x636, 0x62d], [0x636,
    0x62e], [0x636, 0x645], [0x637, 0x62d], [0x637, 0x645]]), (0xfc29, [[0x639, 0x62c]]), (0xfc2b,
    [[0x63a, 0x62c]]), (0xfc2d, [[0x641, 0x62c], [0x641, 0x62d], [0x641, 0x62e], [0x641, 0x645],
    [0x641, 0x649], [0x641, 0x64a], [0x642, 0x62d], [0x642, 0x645], [0x642, 0x649], [0x642,
    0x64a], [0x643, 0x627], [0x643, 0x62c], [0x643, 0x62d], [0x643, 0x62e], [0x643, 0x644],
    [0x643, 0x645], [0x643, 0x649], [0x643, 0x64a], [0x644, 0x62c], [0x644, 0x62d], [0x644,
    0x62e], [0x644, 0x645], [0x644, 0x649], [0x644, 0x64a], [0x645, 0x62c], [0x645, 0x62d],
    [0x645, 0x62e], [0x645, 0x645], [0x645, 0x649], [0x645, 0x64a], [0x646, 0x62c], [0x646,
    0x62d], [0x646, 0x62e], [0x646, 0x645], [0x646, 0x649], [0x646, 0x64a], [0x647, 0x62c],
    [0x647, 0x645], [0x647, 0x649], [0x647, 0x64a], [0x64a, 0x62c], [0x64a, 0x62d], [0x64a,
    0x62e], [0x64a, 0x645], [0x64a, 0x649], [0x64a, 0x64a], [0x630, 0x670], [0x631, 0x670],
    [0x649, 0x670], [0x20, 0x64c, 0x651], [0x20, 0x64d, 0x651], [0x20, 0x64e, 0x651], [0x20,
    0x64f, 0x651], [0x20, 0x650, 0x651], [0x20, 0x651, 0x670], [0x64a, 0x654, 0x631], [0x64a,
    0x654, 0x632], [0x64a, 0x654, 0x645], [0x64a, 0x654, 0x646], [0x64a, 0x654, 0x649], [0x64a,
    0x654, 0x64a], [0x628, 0x631], [0x628, 0x632], [0x628, 0x645], [0x628, 0x646], [0x628, 0x649],
    [0x628, 0x64a], [0x62a, 0x631], [0x62a, 0x632], [0x62a, 0x645], [0x62a, 0x646], [0x62a,
    0x649], [0x62a, 0x64a], [0x62b, 0x631], [0x62b, 0x632], [0x62b, 0x645], [0x62b, 0x646],
    [0x62b, 0x649], [0x62b, 0x64a], [0x641, 0x649], [0x641, 0x64a], [0x642, 0x649], [0x642,
    0x64a], [0x643, 0x627], [0x643, 0x644], [0x643, 0x645], [0x643, 0x649], [0x643, 0x64a],
    [0x644, 0x645], [0x644, 0x649], [0x644, 0x64a], [0x645, 0x627], [0x645, 0x645], [0x646,
    0x631], [0x646, 0x632], [0x646, 0x645], [0x646, 0x646], [0x646, 0x649], [0x646, 0x64a],
    [0x649, 0x670], [0x64a, 0x631], [0x64a, 0x632], [0x64a, 0x645], [0x64a, 0x646], [0x64a,
    0x649], [0x64a, 0x64a], [0x64a, 0x654, 0x62c], [0x64a, 0x654, 0x62d], [0x64a, 0x654, 0x62e],
    [0x64a, 0x654, 0x645], [0x64a, 0x654, 0x647], [0x628, 0x62c], [0x628, 0x62d], [0x628, 0x62e],
    [0x628, 0x645], [0x628, 0x647], [0x62a, 0x62c], [0x62a, 0x62d], [0x62a, 0x62e]]), (0xfca5,
    [[0x62a, 0x647]]), (0xfca7, [[0x62c, 0x62d]]), (0xfca9, [[0x62d, 0x62c]]), (0xfcab, [[0x62e,
    0x62c]]), (0xfcad, [[0x633, 0x62c], [0x633, 0x62d], [0x633, 0x62e], [0x633, 0x645], [0x635,
    0x62d], [0x635, 0x62e], [0x635, 0x645], [0x636, 0x62c], [0x636, 0x62d], [0x636, 0x62e],
    [0x636, 0x645], [0x637, 0x62d]]), (0xfcba, [[0x639, 0x62c]]), (0xfcbc, [[0x63a, 0x62c]]),
    (0xfcbe, [[0x641, 0x62c], [0x641, 0x62d], [0x641, 0x62e], [0x641, 0x645], [0x642, 0x62d],
    [0x642, 0x645], [0x643, 0x62c], [0x643, 0x62d], [0x643, 0x62e], [0x643, 0x644], [0x643,
    0x645], [0x644, 0x62c], [0x644, 0x62d], [0x644, 0x62e], [0x644, 0x645], [0x644, 0x647],
    [0x645, 0x62c], [0x645, 0x62d], [0x645, 0x62e], [0x645, 0x645], [0x646, 0x62c], [0x646,
    0x62d], [0x646, 0x62e], [0x646, 0x645], [0x646, 0x647], [0x647, 0x62c], [0x647, 0x645],
    [0x647, 0x670], [0x64a, 0x62c], [0x64a, 0x62d], [0x64a, 0x62e], [0x64a, 0x645], [0x64a,
    0x647], [0x64a, 0x654, 0x645], [0x64a, 0x654, 0x647], [0x628, 0x645], [0x628, 0x647], [0x62a,
    0x645], [0x62a, 0x647], [0x62b, 0x645], [0x62b, 0x647], [0x633, 0x645], [0x633, 0x647],
    [0x634, 0x645], [0x634, 0x647], [0x643, 0x644], [0x643, 0x645], [0x644, 0x645], [0x646,
    0x645], [0x646, 0x647], [0x64a, 0x645], [0x64a, 0x647], [0x640, 0x64e, 0x651], [0x640, 0x64f,
    0x651], [0x640, 0x650, 0x651], [0x637, 0x649], [0x637, 0x64a], [0x639, 0x649], [0x639, 0x64a],
    [0x63a, 0x649], [0x63a, 0x64a], [0x633, 0x649], [0x633, 0x64a], [0x634, 0x649], [0x634,
    0x64a], [0x62d, 0x649], [0x62d, 0x64a], [0x62c, 0x649], [0x62c, 0x64a], [0x62e, 0x649],
    [0x62e, 0x64a], [0x635, 0x649], [0x635, 0x64a], [0x636, 0x649], [0x636, 0x64a], [0x634,
    0x62c], [0x634, 0x62d], [0x634, 0x62e], [0x634, 0x645], [0x634, 0x631], [0x633, 0x631],
    [0x635, 0x631], [0x636, 0x631], [0x637, 0x649], [0x637, 0x64a], [0x639, 0x649], [0x639,
    0x64a], [0x63a, 0x649], [0x63a, 0x64a], [0x633, 0x649], [0x633, 0x64a], [0x634, 0x649],
    [0x634, 0x64a], [0x62d, 0x649], [0x62d, 0x64a], [0x62c, 0x649], [0x62c, 0x64a], [0x62e,
    0x649], [0x62e, 0x64a], [0x635, 0x649], [0x635, 0x64a], [0x636, 0x649], [0x636, 0x64a],
    [0x634, 0x62c], [0x634, 0x62d], [0x634, 0x62e], [0x634, 0x645], [0x634, 0x631], [0x633,
    0x631], [0x635, 0x631], [0x636, 0x631], [0x634, 0x62c], [0x634, 0x62d], [0x634, 0x62e],
    [0x634, 0x645], [0x633, 0x647], [0x634, 0x647], [0x637, 0x645], [0x633, 0x62c], [0x633,
    0x62d], [0x633, 0x62e], [0x634, 0x62c], [0x634, 0x62d], [0x634, 0x62e], [0x637, 0x645],
    [0x638, 0x645], [0x627, 0x64b], [0x627, 0x64b]]), (0xfd50, [[0x62a, 0x62c, 0x645], [0x62a,
    0x62d, 0x62c], [0x62a, 0x62d, 0x62c], [0x62a, 0x62d, 0x645], [0x62a, 0x62e, 0x645], [0x62a,
    0x645, 0x62c], [0x62a, 0x645, 0x62d], [0x62a, 0x645, 0x62e], [0x62c, 0x645, 0x62d], [0x62c,
    0x645, 0x62d], [0x62d, 0x645, 0x64a], [0x62d, 0x645, 0x649], [0x633, 0x62d, 0x62c], [0x633,
    0x62c, 0x62d], [0x633, 0x62c, 0x649], [0x633, 0x645, 0x62d], [0x633, 0x645, 0x62d], [0x633,
    0x645, 0x62c], [0x633, 0x645, 0x645], [0x633, 0x645, 0x645], [0x635, 0x62d, 0x62d], [0x635,
    0x62d, 0x62d], [0x635, 0x645, 0x645], [0x634, 0x62d, 0x645], [0x634, 0x62d, 0x645], [0x634,
    0x62c, 0x64a], [0x634, 0x645, 0x62e], [0x634, 0x645, 0x62e], [0x634, 0x645, 0x645], [0x634,
    0x645, 0x645], [0x636, 0x62d, 0x649], [0x636, 0x62e, 0x645], [0x636, 0x62e, 0x645], [0x637,
    0x645, 0x62d], [0x637, 0x645, 0x62d], [0x637, 0x645, 0x645], [0x637, 0x645, 0x64a], [0x639,
    0x62c, 0x645], [0x639, 0x645, 0x645], [0x639, 0x645, 0x645], [0x639, 0x645, 0x649], [0x63a,
    0x645, 0x645], [0x63a, 0x645, 0x64a], [0x63a, 0x645, 0x649], [0x641, 0x62e, 0x645], [0x641,
    0x62e, 0x645], [0x642, 0x645, 0x62d], [0x642, 0x645, 0x645], [0x644, 0x62d, 0x645], [0x644,
    0x62d, 0x64a], [0x644, 0x62d, 0x649], [0x644, 0x62c, 0x62c], [0x644, 0x62c, 0x62c], [0x644,
    0x62e, 0x645], [0x644, 0x62e, 0x645], [0x644, 0x645, 0x62d], [0x644, 0x645, 0x62d], [0x645,
    0x62d, 0x62c], [0x645, 0x62d, 0x645], [0x645, 0x62d, 0x64a], [0x645, 0x62c, 0x62d], [0x645,
    0x62c, 0x645], [0x645, 0x62e, 0x62c], [0x645, 0x62e, 0x645]]), (0xfd92, [[0x645, 0x62c,
    0x62e], [0x647, 0x645, 0x62c], [0x647, 0x645, 0x645], [0x646, 0x62d, 0x645], [0x646, 0x62d,
    0x649], [0x646, 0x62c, 0x645], [0x646, 0x62c, 0x645], [0x646, 0x62c, 0x649], [0x646, 0x645,
    0x64a], [0x646, 0x645, 0x649], [0x64a, 0x645, 0x645], [0x64a, 0x645, 0x645], [0x628, 0x62e,
    0x64a], [0x62a, 0x62c, 0x64a], [0x62a, 0x62c, 0x649], [0x62a, 0x62e, 0x64a], [0x62a, 0x62e,
    0x649], [0x62a, 0x645, 0x64a], [0x62a, 0x645, 0x649], [0x62c, 0x645, 0x64a], [0x62c, 0x62d,
    0x649], [0x62c, 0x645, 0x649], [0x633, 0x62e, 0x649], [0x635, 0x62d, 0x64a], [0x634, 0x62d,
    0x64a], [0x636, 0x62d, 0x64a], [0x644, 0x62c, 0x64a], [0x644, 0x645, 0x64a], [0x64a, 0x62d,
    0x64a], [0x64a, 0x62c, 0x64a], [0x64a, 0x645, 0x64a], [0x645, 0x645, 0x64a], [0x642, 0x645,
    0x64a], [0x646, 0x62d, 0x64a], [0x642, 0x645, 0x62d], [0x644, 0x62d, 0x645], [0x639, 0x645,
    0x64a], [0x643, 0x645, 0x64a], [0x646, 0x62c, 0x62d], [0x645, 0x62e, 0x64a], [0x644, 0x62c,
    0x645], [0x643, 0x645, 0x645], [0x644, 0x62c, 0x645], [0x646, 0x62c, 0x62d], [0x62c, 0x62d,
    0x64a], [0x62d, 0x62c, 0x64a], [0x645, 0x62c, 0x64a], [0x641, 0x645, 0x64a], [0x628, 0x62d,
    0x64a], [0x643, 0x645, 0x645], [0x639, 0x62c, 0x645], [0x635, 0x645, 0x645], [0x633, 0x62e,
    0x64a], [0x646, 0x62c, 0x64a]]), (0xfdf0, [[0x635, 0x644, 0x6d2], [0x642, 0x644, 0x6d2],
    [0x627, 0x644, 0x644, 0x647], [0x627, 0x643, 0x628, 0x631], [0x645, 0x62d, 0x645, 0x62f],
    [0x635, 0x644, 0x639, 0x645], [0x631, 0x633, 0x648, 0x644], [0x639, 0x644, 0x64a, 0x647],
    [0x648, 0x633, 0x644, 0x645], [0x635, 0x644, 0x649], [0x635, 0x644, 0x649, 0x20, 0x627, 0x644,
    0x644, 0x647, 0x20, 0x639, 0x644, 0x64a, 0x647, 0x20, 0x648, 0x633, 0x644, 0x645], [0x62c,
    0x644, 0x20, 0x62c, 0x644, 0x627, 0x644, 0x647], [0x631, 0x6cc, 0x627, 0x644]]), (0xfe10,
    [[0x2c], [0x3001], [0x3002], [0x3a], [0x3b], [0x21], [0x3f], [0x3016], [0x3017], [0x2e, 0x2e,
    0x2e]]), (0xfe30, [[0x2e, 0x2e], [0x2014], [0x2013], [0x5f], [0x5f], [0x28], [0x29], [0x7b],
    [0x7d], [0x3014], [0x3015], [0x3010], [0x3011], [0x300a], [0x300b], [0x3008], [0x3009]]),
    (0xfe47, [[0x5b], [0x5d]]), (0xfe50, [[0x2c], [0x3001], [0x2e]]), (0xfe54, [[0x3b], [0x3a],
    [0x3f], [0x21], [0x2014], [0x28], [0x29], [0x7b], [0x7d], [0x3014], [0x3015], [0x23], [0x26],
    [0x2a], [0x2b], [0x2d], [0x3c], [0x3e], [0x3d]]), (0xfe68, [[0x5c], [0x24], [0x25], [0x40]]),
    (0xfe70, [[0x20, 0x64b], [0x640, 0x64b], [0x20, 0x64c]]), (0xfe74, [[0x20, 0x64d]]), (0xfe76,
    [[0x20, 0x64e], [0x640, 0x64e], [0x20, 0x64f], [0x640, 0x64f], [0x20, 0x650], [0x640, 0x650],
    [0x20, 0x651], [0x640, 0x651], [0x20, 0x652], [0x640, 0x652], [0x621], [0x627, 0x653], [0x627,
    0x653], [0x627, 0x654], [0x627, 0x654], [0x648, 0x654], [0x648, 0x654], [0x627, 0x655],
    [0x627, 0x655]]), (0xfe8d, [[0x627], [0x627]]), (0xfe93, [[0x629], [0x629]]), (0xfeb3,
    [[0x633], [0x633]]), (0xfef3, [[0x64a], [0x64a], [0x644, 0x627, 0x653], [0x644, 0x627, 0x653],
    [0x644, 0x627, 0x654], [0x644, 0x627, 0x654], [0x644, 0x627, 0x655], [0x644, 0x627, 0x655],
    [0x644, 0x627], [0x644, 0x627]]), (0xff5f, [[0x2985], [0x2986], [0x3002], [0x300c], [0x300d],
    [0x3001], [0x30fb], [0x30f2]]), (0xff6f, [[0x30c3], [0x30fc]]), (0xff8b, [[0x30d2], [0x30d5],
    [0x30d8], [0x30db]]), (0xff9c, [[0x30ef], [0x30f3], [0x3099], [0x309a], [0x1160], [0x1100],
    [0x1101], [0x11aa], [0x1102], [0x11ac], [0x11ad]]), (0xffb0, [[0x111a]]), (0xffb4,
    [[0x1121]]), (0xffe0, [[0xa2], [0xa3], [0xac], [0x20, 0x304], [0xa6], [0xa5], [0x20a9]]),
    (0xffe8, [[0x2502]]), (0xffed, [[0x25a0], [0x25cb]]), (0x10781, [[0x2d0], [0x2d1], [0xe6],
    [0x299], [0x253]]), (0x10787, [[0x2a3], [0xab66], [0x2a5], [0x2a4], [0x256], [0x257],
    [0x1d91], [0x258], [0x25e], [0x2a9], [0x264], [0x262], [0x260], [0x29b], [0x127], [0x29c],
    [0x267], [0x284], [0x2aa], [0x2ab], [0x26c], [0x1df04], [0xa78e], [0x26e], [0x1df05], [0x28e],
    [0x1df06], [0xf8], [0x276], [0x277], [0x71], [0x27a], [0x1df08], [0x27d], [0x27e], [0x280],
    [0x2a8], [0x2a6], [0xab67], [0x2a7], [0x288], [0x2c71]]), (0x107b2, [[0x28f], [0x2a1],
    [0x2a2], [0x298]]), (0x107b9, [[0x1df0a], [0x1df1e]]), (0x1d49c, [[0x41]]), (0x1d49e, [[0x43],
    [0x44]]), (0x1d4a2, [[0x47]]), (0x1d4a5, [[0x4a], [0x4b]]), (0x1d504, [[0x41]]), (0x1d508,
    [[0x45]]), (0x1d50a, [[0x47]]), (0x1d538, [[0x41]]), (0x1d541, [[0x4a]]), (0x1d543, [[0x4c]]),
    (0x1d6a4, [[0x131], [0x237]]), (0x1d6b9, [[0x398]]), (0x1d6c1, [[0x2207]]), (0x1d6db,
    [[0x2202], [0x3b5], [0x3b8], [0x3ba], [0x3c6], [0x3c1], [0x3c0]]), (0x1d6f3, [[0x398]]),
    (0x1d6fb, [[0x2207]]), (0x1d715, [[0x2202], [0x3b5], [0x3b8], [0x3ba], [0x3c6], [0x3c1],
    [0x3c0]]), (0x1d72d, [[0x398]]), (0x1d735, [[0x2207]]), (0x1d74f, [[0x2202], [0x3b5], [0x3b8],
    [0x3ba], [0x3c6], [0x3c1], [0x3c0]]), (0x1d767, [[0x398]]), (0x1d76f, [[0x2207]]), (0x1d789,
    [[0x2202], [0x3b5], [0x3b8], [0x3ba], [0x3c6], [0x3c1], [0x3c0]]), (0x1d7a1, [[0x398]]),
    (0x1d7a9, [[0x2207]]), (0x1d7c3, [[0x2202], [0x3b5], [0x3b8], [0x3ba], [0x3c6], [0x3c1],
    [0x3c0], [0x3dc], [0x3dd]]), (0x1ee00, [[0x627], [0x628], [0x62c], [0x62f]]), (0x1ee05,
    [[0x648], [0x632], [0x62d], [0x637], [0x64a]]), (0x1ee0e, [[0x633], [0x639], [0x641], [0x635],
    [0x642], [0x631], [0x634], [0x62a], [0x62b], [0x62e], [0x630]]), (0x1ee1c, [[0x66e], [0x6ba],
    [0x6a1], [0x66f]]), (0x1ee21, [[0x628], [0x62c]]), (0x1ee24, [[0x647]]), (0x1ee27, [[0x62d]]),
    (0x1ee29, [[0x64a]]), (0x1ee2e, [[0x633], [0x639], [0x641], [0x635], [0x642]]), (0x1ee34,
    [[0x634], [0x62a], [0x62b], [0x62e]]), (0x1ee39, [[0x636]]), (0x1ee3b, [[0x63a]]), (0x1ee42,
    [[0x62c]]), (0x1ee47, [[0x62d]]), (0x1ee49, [[0x64a]]), (0x1ee4b, [[0x644]]), (0x1ee4d,
    [[0x646], [0x633], [0x639]]), (0x1ee51, [[0x635], [0x642]]), (0x1ee54, [[0x634]]), (0x1ee57,
    [[0x62e]]), (0x1ee59, [[0x636]]), (0x1ee5b, [[0x63a]]), (0x1ee5d, [[0x6ba]]), (0x1ee5f,
    [[0x66f]]), (0x1ee61, [[0x628], [0x62c]]), (0x1ee64, [[0x647]]), (0x1ee67, [[0x62d], [0x637],
    [0x64a], [0x643]]), (0x1ee6c, [[0x645], [0x646], [0x633], [0x639], [0x641], [0x635],
    [0x642]]), (0x1ee74, [[0x634], [0x62a], [0x62b], [0x62e]]), (0x1ee7c, [[0x66e]]), (0x1ee7e,
    [[0x6a1]]), (0x1ee80, [[0x627], [0x628], [0x62c], [0x62f], [0x647], [0x648], [0x632], [0x62d],
    [0x637], [0x64a]]), (0x1ee8e, [[0x633], [0x639], [0x641], [0x635], [0x642], [0x631], [0x634],
    [0x62a], [0x62b], [0x62e], [0x630]]), (0x1eea1, [[0x628], [0x62c], [0x62f]]), (0x1eea5,
    [[0x648], [0x632], [0x62d], [0x637], [0x64a]]), (0x1eeae, [[0x633], [0x639], [0x641], [0x635],
    [0x642], [0x631], [0x634], [0x62a], [0x62b], [0x62e], [0x630]]), (0x1f100, [[0x30, 0x2e]]),
    (0x1f110, [[0x28, 0x41, 0x29], [0x28, 0x42, 0x29], [0x28, 0x43, 0x29], [0x28, 0x44, 0x29],
    [0x28, 0x45, 0x29], [0x28, 0x46, 0x29], [0x28, 0x47, 0x29], [0x28, 0x48, 0x29], [0x28, 0x49,
    0x29], [0x28, 0x4a, 0x29], [0x28, 0x4b, 0x29], [0x28, 0x4c, 0x29], [0x28, 0x4d, 0x29], [0x28,
    0x4e, 0x29], [0x28, 0x4f, 0x29], [0x28, 0x50, 0x29], [0x28, 0x51, 0x29], [0x28, 0x52, 0x29],
    [0x28, 0x53, 0x29], [0x28, 0x54, 0x29], [0x28, 0x55, 0x29], [0x28, 0x56, 0x29], [0x28, 0x57,
    0x29], [0x28, 0x58, 0x29], [0x28, 0x59, 0x29], [0x28, 0x5a, 0x29], [0x3014, 0x53, 0x3015],
    [0x43], [0x52], [0x43, 0x44], [0x57, 0x5a]]), (0x1f14a, [[0x48, 0x56], [0x4d, 0x56], [0x53,
    0x44], [0x53, 0x53], [0x50, 0x50, 0x56], [0x57, 0x43]]), (0x1f16a, [[0x4d, 0x43], [0x4d,
    0x44], [0x4d, 0x52]]), (0x1f190, [[0x44, 0x4a]]), (0x1f200, [[0x307b, 0x304b], [0x30b3,
    0x30b3], [0x30b5]]), (0x1f210, [[0x624b], [0x5b57], [0x53cc], [0x30c6, 0x3099], [0x4e8c],
    [0x591a], [0x89e3], [0x5929], [0x4ea4], [0x6620], [0x7121], [0x6599], [0x524d], [0x5f8c],
    [0x518d], [0x65b0], [0x521d], [0x7d42], [0x751f], [0x8ca9], [0x58f0], [0x5439], [0x6f14],
    [0x6295], [0x6355], [0x4e00], [0x4e09], [0x904a], [0x5de6], [0x4e2d], [0x53f3], [0x6307],
    [0x8d70], [0x6253], [0x7981], [0x7a7a], [0x5408], [0x6e80], [0x6709], [0x6708], [0x7533],
    [0x5272], [0x55b6], [0x914d]]), (0x1f240, [[0x3014, 0x672c, 0x3015], [0x3014, 0x4e09, 0x3015],
    [0x3014, 0x4e8c, 0x3015], [0x3014, 0x5b89, 0x3015], [0x3014, 0x70b9, 0x3015], [0x3014, 0x6253,
    0x3015], [0x3014, 0x76d7, 0x3015], [0x3014, 0x52dd, 0x3015], [0x3014, 0x6557, 0x3015]]),
    (0x1f250, [[0x5f97], [0x53ef]])]

end FieldMap.Text
