import RestLoom.Text.Mark
import RestLoom.Text.Run

/-!
# Text/Composition — the normal form of composed characters

    e + U+0301  ──▸  é

Several texts may stand for the same letters with the same marks.  The normal form takes them
apart, puts the marks of each letter into the order of their classes, and puts together what there
is a single character for.
-/

namespace RestLoom.Text

/-! ## Single characters -/

/-- Small letters and signs with the two characters they are composed of. -/
def composites : List Run := [
  ⟨0xe0, "a\u0300 a\u0301 a\u0302 a\u0303 a\u0308 a\u030a"⟩,
  ⟨0xe7, "c\u0327 e\u0300 e\u0301 e\u0302 e\u0308 i\u0300 i\u0301 i\u0302 i\u0308"⟩,
  ⟨0xf1, "n\u0303 o\u0300 o\u0301 o\u0302 o\u0303 o\u0308"⟩,
  ⟨0xf9, "u\u0300 u\u0301 u\u0302 u\u0308 y\u0301"⟩, ⟨0xff, "y\u0308"⟩, ⟨0x101, "a\u0304"⟩,
  ⟨0x103, "a\u0306"⟩, ⟨0x105, "a\u0328"⟩, ⟨0x107, "c\u0301"⟩, ⟨0x109, "c\u0302"⟩,
  ⟨0x10b, "c\u0307"⟩, ⟨0x10d, "c\u030c"⟩, ⟨0x10f, "d\u030c"⟩, ⟨0x113, "e\u0304"⟩,
  ⟨0x115, "e\u0306"⟩, ⟨0x117, "e\u0307"⟩, ⟨0x119, "e\u0328"⟩, ⟨0x11b, "e\u030c"⟩,
  ⟨0x11d, "g\u0302"⟩, ⟨0x11f, "g\u0306"⟩, ⟨0x121, "g\u0307"⟩, ⟨0x123, "g\u0327"⟩,
  ⟨0x125, "h\u0302"⟩, ⟨0x129, "i\u0303"⟩, ⟨0x12b, "i\u0304"⟩, ⟨0x12d, "i\u0306"⟩,
  ⟨0x12f, "i\u0328"⟩, ⟨0x135, "j\u0302"⟩, ⟨0x137, "k\u0327"⟩, ⟨0x13a, "l\u0301"⟩,
  ⟨0x13c, "l\u0327"⟩, ⟨0x13e, "l\u030c"⟩, ⟨0x144, "n\u0301"⟩, ⟨0x146, "n\u0327"⟩,
  ⟨0x148, "n\u030c"⟩, ⟨0x14d, "o\u0304"⟩, ⟨0x14f, "o\u0306"⟩, ⟨0x151, "o\u030b"⟩,
  ⟨0x155, "r\u0301"⟩, ⟨0x157, "r\u0327"⟩, ⟨0x159, "r\u030c"⟩, ⟨0x15b, "s\u0301"⟩,
  ⟨0x15d, "s\u0302"⟩, ⟨0x15f, "s\u0327"⟩, ⟨0x161, "s\u030c"⟩, ⟨0x163, "t\u0327"⟩,
  ⟨0x165, "t\u030c"⟩, ⟨0x169, "u\u0303"⟩, ⟨0x16b, "u\u0304"⟩, ⟨0x16d, "u\u0306"⟩,
  ⟨0x16f, "u\u030a"⟩, ⟨0x171, "u\u030b"⟩, ⟨0x173, "u\u0328"⟩, ⟨0x175, "w\u0302"⟩,
  ⟨0x177, "y\u0302"⟩, ⟨0x17a, "z\u0301"⟩, ⟨0x17c, "z\u0307"⟩, ⟨0x17e, "z\u030c"⟩,
  ⟨0x1a1, "o\u031b"⟩, ⟨0x1b0, "u\u031b"⟩, ⟨0x1ce, "a\u030c"⟩, ⟨0x1d0, "i\u030c"⟩,
  ⟨0x1d2, "o\u030c"⟩, ⟨0x1d4, "u\u030c"⟩, ⟨0x1d6, "ü\u0304"⟩, ⟨0x1d8, "ü\u0301"⟩,
  ⟨0x1da, "ü\u030c"⟩, ⟨0x1dc, "ü\u0300"⟩, ⟨0x1df, "ä\u0304"⟩, ⟨0x1e1, "ȧ\u0304"⟩,
  ⟨0x1e3, "æ\u0304"⟩, ⟨0x1e7, "g\u030c"⟩, ⟨0x1e9, "k\u030c"⟩, ⟨0x1eb, "o\u0328"⟩,
  ⟨0x1ed, "ǫ\u0304"⟩, ⟨0x1ef, "ʒ\u030c j\u030c"⟩, ⟨0x1f5, "g\u0301"⟩, ⟨0x1f9, "n\u0300"⟩,
  ⟨0x1fb, "å\u0301"⟩, ⟨0x1fd, "æ\u0301"⟩, ⟨0x1ff, "ø\u0301"⟩, ⟨0x201, "a\u030f"⟩,
  ⟨0x203, "a\u0311"⟩, ⟨0x205, "e\u030f"⟩, ⟨0x207, "e\u0311"⟩, ⟨0x209, "i\u030f"⟩,
  ⟨0x20b, "i\u0311"⟩, ⟨0x20d, "o\u030f"⟩, ⟨0x20f, "o\u0311"⟩, ⟨0x211, "r\u030f"⟩,
  ⟨0x213, "r\u0311"⟩, ⟨0x215, "u\u030f"⟩, ⟨0x217, "u\u0311"⟩, ⟨0x219, "s\u0326"⟩,
  ⟨0x21b, "t\u0326"⟩, ⟨0x21f, "h\u030c"⟩, ⟨0x227, "a\u0307"⟩, ⟨0x229, "e\u0327"⟩,
  ⟨0x22b, "ö\u0304"⟩, ⟨0x22d, "õ\u0304"⟩, ⟨0x22f, "o\u0307"⟩, ⟨0x231, "ȯ\u0304"⟩,
  ⟨0x233, "y\u0304"⟩, ⟨0x390, "ϊ\u0301"⟩, ⟨0x3ac, "α\u0301 ε\u0301 η\u0301 ι\u0301 ϋ\u0301"⟩,
  ⟨0x3ca, "ι\u0308 υ\u0308 ο\u0301 υ\u0301 ω\u0301"⟩, ⟨0x439, "и\u0306"⟩,
  ⟨0x450, "е\u0300 е\u0308"⟩, ⟨0x453, "г\u0301"⟩, ⟨0x457, "і\u0308"⟩,
  ⟨0x45c, "к\u0301 и\u0300 у\u0306"⟩, ⟨0x477, "ѵ\u030f"⟩, ⟨0x4c2, "ж\u0306"⟩, ⟨0x4d1, "а\u0306"⟩,
  ⟨0x4d3, "а\u0308"⟩, ⟨0x4d7, "е\u0306"⟩, ⟨0x4db, "ә\u0308"⟩, ⟨0x4dd, "ж\u0308"⟩,
  ⟨0x4df, "з\u0308"⟩, ⟨0x4e3, "и\u0304"⟩, ⟨0x4e5, "и\u0308"⟩, ⟨0x4e7, "о\u0308"⟩,
  ⟨0x4eb, "ө\u0308"⟩, ⟨0x4ed, "э\u0308"⟩, ⟨0x4ef, "у\u0304"⟩, ⟨0x4f1, "у\u0308"⟩,
  ⟨0x4f3, "у\u030b"⟩, ⟨0x4f5, "ч\u0308"⟩, ⟨0x4f9, "ы\u0308"⟩,
  ⟨0x622, "\u0627\u0653 \u0627\u0654 \u0648\u0654 \u0627\u0655 \u064a\u0654"⟩,
  ⟨0x6c0, "\u06d5\u0654"⟩, ⟨0x6c2, "\u06c1\u0654"⟩, ⟨0x6d3, "\u06d2\u0654"⟩, ⟨0x929, "न\u093c"⟩,
  ⟨0x931, "र\u093c"⟩, ⟨0x934, "ळ\u093c"⟩, ⟨0x9cb, "\u09c7\u09be \u09c7\u09d7"⟩,
  ⟨0xb48, "\u0b47\u0b56"⟩, ⟨0xb4b, "\u0b47\u0b3e \u0b47\u0b57"⟩, ⟨0xb94, "ஒ\u0bd7"⟩,
  ⟨0xbca, "\u0bc6\u0bbe \u0bc7\u0bbe \u0bc6\u0bd7"⟩, ⟨0xc48, "\u0c46\u0c56"⟩,
  ⟨0xcc0, "\u0cbf\u0cd5"⟩, ⟨0xcc7, "\u0cc6\u0cd5 \u0cc6\u0cd6"⟩,
  ⟨0xcca, "\u0cc6\u0cc2 \u0cca\u0cd5"⟩, ⟨0xd4a, "\u0d46\u0d3e \u0d47\u0d3e \u0d46\u0d57"⟩,
  ⟨0xdda, "\u0dd9\u0dca"⟩, ⟨0xddc, "\u0dd9\u0dcf \u0ddc\u0dca \u0dd9\u0ddf"⟩, ⟨0x1026, "ဥ\u102e"⟩,
  ⟨0x1b06, "ᬅ\u1b35"⟩, ⟨0x1b08, "ᬇ\u1b35"⟩, ⟨0x1b0a, "ᬉ\u1b35"⟩, ⟨0x1b0c, "ᬋ\u1b35"⟩,
  ⟨0x1b0e, "ᬍ\u1b35"⟩, ⟨0x1b12, "ᬑ\u1b35"⟩, ⟨0x1b3b, "\u1b3a\u1b35"⟩, ⟨0x1b3d, "\u1b3c\u1b35"⟩,
  ⟨0x1b40, "\u1b3e\u1b35 \u1b3f\u1b35"⟩, ⟨0x1b43, "\u1b42\u1b35"⟩, ⟨0x1e01, "a\u0325"⟩,
  ⟨0x1e03, "b\u0307"⟩, ⟨0x1e05, "b\u0323"⟩, ⟨0x1e07, "b\u0331"⟩, ⟨0x1e09, "ç\u0301"⟩,
  ⟨0x1e0b, "d\u0307"⟩, ⟨0x1e0d, "d\u0323"⟩, ⟨0x1e0f, "d\u0331"⟩, ⟨0x1e11, "d\u0327"⟩,
  ⟨0x1e13, "d\u032d"⟩, ⟨0x1e15, "ē\u0300"⟩, ⟨0x1e17, "ē\u0301"⟩, ⟨0x1e19, "e\u032d"⟩,
  ⟨0x1e1b, "e\u0330"⟩, ⟨0x1e1d, "ȩ\u0306"⟩, ⟨0x1e1f, "f\u0307"⟩, ⟨0x1e21, "g\u0304"⟩,
  ⟨0x1e23, "h\u0307"⟩, ⟨0x1e25, "h\u0323"⟩, ⟨0x1e27, "h\u0308"⟩, ⟨0x1e29, "h\u0327"⟩,
  ⟨0x1e2b, "h\u032e"⟩, ⟨0x1e2d, "i\u0330"⟩, ⟨0x1e2f, "ï\u0301"⟩, ⟨0x1e31, "k\u0301"⟩,
  ⟨0x1e33, "k\u0323"⟩, ⟨0x1e35, "k\u0331"⟩, ⟨0x1e37, "l\u0323"⟩, ⟨0x1e39, "ḷ\u0304"⟩,
  ⟨0x1e3b, "l\u0331"⟩, ⟨0x1e3d, "l\u032d"⟩, ⟨0x1e3f, "m\u0301"⟩, ⟨0x1e41, "m\u0307"⟩,
  ⟨0x1e43, "m\u0323"⟩, ⟨0x1e45, "n\u0307"⟩, ⟨0x1e47, "n\u0323"⟩, ⟨0x1e49, "n\u0331"⟩,
  ⟨0x1e4b, "n\u032d"⟩, ⟨0x1e4d, "õ\u0301"⟩, ⟨0x1e4f, "õ\u0308"⟩, ⟨0x1e51, "ō\u0300"⟩,
  ⟨0x1e53, "ō\u0301"⟩, ⟨0x1e55, "p\u0301"⟩, ⟨0x1e57, "p\u0307"⟩, ⟨0x1e59, "r\u0307"⟩,
  ⟨0x1e5b, "r\u0323"⟩, ⟨0x1e5d, "ṛ\u0304"⟩, ⟨0x1e5f, "r\u0331"⟩, ⟨0x1e61, "s\u0307"⟩,
  ⟨0x1e63, "s\u0323"⟩, ⟨0x1e65, "ś\u0307"⟩, ⟨0x1e67, "š\u0307"⟩, ⟨0x1e69, "ṣ\u0307"⟩,
  ⟨0x1e6b, "t\u0307"⟩, ⟨0x1e6d, "t\u0323"⟩, ⟨0x1e6f, "t\u0331"⟩, ⟨0x1e71, "t\u032d"⟩,
  ⟨0x1e73, "u\u0324"⟩, ⟨0x1e75, "u\u0330"⟩, ⟨0x1e77, "u\u032d"⟩, ⟨0x1e79, "ũ\u0301"⟩,
  ⟨0x1e7b, "ū\u0308"⟩, ⟨0x1e7d, "v\u0303"⟩, ⟨0x1e7f, "v\u0323"⟩, ⟨0x1e81, "w\u0300"⟩,
  ⟨0x1e83, "w\u0301"⟩, ⟨0x1e85, "w\u0308"⟩, ⟨0x1e87, "w\u0307"⟩, ⟨0x1e89, "w\u0323"⟩,
  ⟨0x1e8b, "x\u0307"⟩, ⟨0x1e8d, "x\u0308"⟩, ⟨0x1e8f, "y\u0307"⟩, ⟨0x1e91, "z\u0302"⟩,
  ⟨0x1e93, "z\u0323"⟩, ⟨0x1e95, "z\u0331 h\u0331 t\u0308 w\u030a y\u030a"⟩, ⟨0x1ea1, "a\u0323"⟩,
  ⟨0x1ea3, "a\u0309"⟩, ⟨0x1ea5, "â\u0301"⟩, ⟨0x1ea7, "â\u0300"⟩, ⟨0x1ea9, "â\u0309"⟩,
  ⟨0x1eab, "â\u0303"⟩, ⟨0x1ead, "ạ\u0302"⟩, ⟨0x1eaf, "ă\u0301"⟩, ⟨0x1eb1, "ă\u0300"⟩,
  ⟨0x1eb3, "ă\u0309"⟩, ⟨0x1eb5, "ă\u0303"⟩, ⟨0x1eb7, "ạ\u0306"⟩, ⟨0x1eb9, "e\u0323"⟩,
  ⟨0x1ebb, "e\u0309"⟩, ⟨0x1ebd, "e\u0303"⟩, ⟨0x1ebf, "ê\u0301"⟩, ⟨0x1ec1, "ê\u0300"⟩,
  ⟨0x1ec3, "ê\u0309"⟩, ⟨0x1ec5, "ê\u0303"⟩, ⟨0x1ec7, "ẹ\u0302"⟩, ⟨0x1ec9, "i\u0309"⟩,
  ⟨0x1ecb, "i\u0323"⟩, ⟨0x1ecd, "o\u0323"⟩, ⟨0x1ecf, "o\u0309"⟩, ⟨0x1ed1, "ô\u0301"⟩,
  ⟨0x1ed3, "ô\u0300"⟩, ⟨0x1ed5, "ô\u0309"⟩, ⟨0x1ed7, "ô\u0303"⟩, ⟨0x1ed9, "ọ\u0302"⟩,
  ⟨0x1edb, "ơ\u0301"⟩, ⟨0x1edd, "ơ\u0300"⟩, ⟨0x1edf, "ơ\u0309"⟩, ⟨0x1ee1, "ơ\u0303"⟩,
  ⟨0x1ee3, "ơ\u0323"⟩, ⟨0x1ee5, "u\u0323"⟩, ⟨0x1ee7, "u\u0309"⟩, ⟨0x1ee9, "ư\u0301"⟩,
  ⟨0x1eeb, "ư\u0300"⟩, ⟨0x1eed, "ư\u0309"⟩, ⟨0x1eef, "ư\u0303"⟩, ⟨0x1ef1, "ư\u0323"⟩,
  ⟨0x1ef3, "y\u0300"⟩, ⟨0x1ef5, "y\u0323"⟩, ⟨0x1ef7, "y\u0309"⟩, ⟨0x1ef9, "y\u0303"⟩,
  ⟨0x1f00, "α\u0313 α\u0314 ἀ\u0300 ἁ\u0300 ἀ\u0301 ἁ\u0301 ἀ\u0342 ἁ\u0342"⟩,
  ⟨0x1f10, "ε\u0313 ε\u0314 ἐ\u0300 ἑ\u0300 ἐ\u0301 ἑ\u0301"⟩,
  ⟨0x1f20, "η\u0313 η\u0314 ἠ\u0300 ἡ\u0300 ἠ\u0301 ἡ\u0301 ἠ\u0342 ἡ\u0342"⟩,
  ⟨0x1f30, "ι\u0313 ι\u0314 ἰ\u0300 ἱ\u0300 ἰ\u0301 ἱ\u0301 ἰ\u0342 ἱ\u0342"⟩,
  ⟨0x1f40, "ο\u0313 ο\u0314 ὀ\u0300 ὁ\u0300 ὀ\u0301 ὁ\u0301"⟩,
  ⟨0x1f50, "υ\u0313 υ\u0314 ὐ\u0300 ὑ\u0300 ὐ\u0301 ὑ\u0301 ὐ\u0342 ὑ\u0342"⟩,
  ⟨0x1f60, "ω\u0313 ω\u0314 ὠ\u0300 ὡ\u0300 ὠ\u0301 ὡ\u0301 ὠ\u0342 ὡ\u0342"⟩, ⟨0x1f70, "α\u0300"⟩,
  ⟨0x1f72, "ε\u0300"⟩, ⟨0x1f74, "η\u0300"⟩, ⟨0x1f76, "ι\u0300"⟩, ⟨0x1f78, "ο\u0300"⟩,
  ⟨0x1f7a, "υ\u0300"⟩, ⟨0x1f7c, "ω\u0300"⟩, ⟨0x1fb0, "α\u0306 α\u0304"⟩, ⟨0x1fb6, "α\u0342"⟩,
  ⟨0x1fc6, "η\u0342"⟩, ⟨0x1fd0, "ι\u0306 ι\u0304 ϊ\u0300"⟩, ⟨0x1fd6, "ι\u0342 ϊ\u0342"⟩,
  ⟨0x1fe0, "υ\u0306 υ\u0304 ϋ\u0300"⟩, ⟨0x1fe4, "ρ\u0313 ρ\u0314 υ\u0342 ϋ\u0342"⟩,
  ⟨0x1ff6, "ω\u0342"⟩, ⟨0x219a, "←\u0338 →\u0338"⟩, ⟨0x21ae, "↔\u0338"⟩,
  ⟨0x21cd, "⇐\u0338 ⇔\u0338 ⇒\u0338"⟩, ⟨0x2204, "∃\u0338"⟩, ⟨0x2209, "∈\u0338"⟩,
  ⟨0x220c, "∋\u0338"⟩, ⟨0x2224, "∣\u0338"⟩, ⟨0x2226, "∥\u0338"⟩, ⟨0x2241, "∼\u0338"⟩,
  ⟨0x2244, "≃\u0338"⟩, ⟨0x2247, "≅\u0338"⟩, ⟨0x2249, "≈\u0338"⟩, ⟨0x2260, "=\u0338"⟩,
  ⟨0x2262, "≡\u0338"⟩, ⟨0x226d, "≍\u0338 <\u0338 >\u0338 ≤\u0338 ≥\u0338"⟩,
  ⟨0x2274, "≲\u0338 ≳\u0338"⟩, ⟨0x2278, "≶\u0338 ≷\u0338"⟩, ⟨0x2280, "≺\u0338 ≻\u0338"⟩,
  ⟨0x2284, "⊂\u0338 ⊃\u0338"⟩, ⟨0x2288, "⊆\u0338 ⊇\u0338"⟩,
  ⟨0x22ac, "⊢\u0338 ⊨\u0338 ⊩\u0338 ⊫\u0338"⟩, ⟨0x22e0, "≼\u0338 ≽\u0338 ⊑\u0338 ⊒\u0338"⟩,
  ⟨0x22ea, "⊲\u0338 ⊳\u0338 ⊴\u0338 ⊵\u0338"⟩, ⟨0x304c, "か\u3099"⟩, ⟨0x304e, "き\u3099"⟩,
  ⟨0x3050, "く\u3099"⟩, ⟨0x3052, "け\u3099"⟩, ⟨0x3054, "こ\u3099"⟩, ⟨0x3056, "さ\u3099"⟩,
  ⟨0x3058, "し\u3099"⟩, ⟨0x305a, "す\u3099"⟩, ⟨0x305c, "せ\u3099"⟩, ⟨0x305e, "そ\u3099"⟩,
  ⟨0x3060, "た\u3099"⟩, ⟨0x3062, "ち\u3099"⟩, ⟨0x3065, "つ\u3099"⟩, ⟨0x3067, "て\u3099"⟩,
  ⟨0x3069, "と\u3099"⟩, ⟨0x3070, "は\u3099 は\u309a"⟩, ⟨0x3073, "ひ\u3099 ひ\u309a"⟩,
  ⟨0x3076, "ふ\u3099 ふ\u309a"⟩, ⟨0x3079, "へ\u3099 へ\u309a"⟩, ⟨0x307c, "ほ\u3099 ほ\u309a"⟩,
  ⟨0x3094, "う\u3099"⟩, ⟨0x309e, "ゝ\u3099"⟩, ⟨0x30ac, "カ\u3099"⟩, ⟨0x30ae, "キ\u3099"⟩,
  ⟨0x30b0, "ク\u3099"⟩, ⟨0x30b2, "ケ\u3099"⟩, ⟨0x30b4, "コ\u3099"⟩, ⟨0x30b6, "サ\u3099"⟩,
  ⟨0x30b8, "シ\u3099"⟩, ⟨0x30ba, "ス\u3099"⟩, ⟨0x30bc, "セ\u3099"⟩, ⟨0x30be, "ソ\u3099"⟩,
  ⟨0x30c0, "タ\u3099"⟩, ⟨0x30c2, "チ\u3099"⟩, ⟨0x30c5, "ツ\u3099"⟩, ⟨0x30c7, "テ\u3099"⟩,
  ⟨0x30c9, "ト\u3099"⟩, ⟨0x30d0, "ハ\u3099 ハ\u309a"⟩, ⟨0x30d3, "ヒ\u3099 ヒ\u309a"⟩,
  ⟨0x30d6, "フ\u3099 フ\u309a"⟩, ⟨0x30d9, "ヘ\u3099 ヘ\u309a"⟩, ⟨0x30dc, "ホ\u3099 ホ\u309a"⟩,
  ⟨0x30f4, "ウ\u3099"⟩, ⟨0x30f7, "ワ\u3099 ヰ\u3099 ヱ\u3099 ヲ\u3099"⟩, ⟨0x30fe, "ヽ\u3099"⟩,
  ⟨0x1109a, "𑂚"⟩, ⟨0x1109c, "𑂜"⟩, ⟨0x110ab, "𑂫"⟩, ⟨0x1112e, "𑄮 𑄯"⟩, ⟨0x1134b, "𑍋 𑍌"⟩,
  ⟨0x114bb, "𑒻 𑒼"⟩, ⟨0x114be, "𑒾"⟩, ⟨0x115ba, "𑖺 𑖻"⟩, ⟨0x11938, "𑤸"⟩]

/-- The two parts of a composed syllable: the first two sounds and the last one, or the first sound
and the second one. -/
def syllableParts? (c : Char) : Option (Char × Char) :=
  let n := c.toNat
  if 0xac00 ≤ n && n ≤ 0xd7a3 then
    let i := n - 0xac00
    if i % 28 = 0 then
      some (Char.ofNat (0x1100 + i / 588), Char.ofNat (0x1161 + i % 588 / 28))
    else some (Char.ofNat (n - i % 28), Char.ofNat (0x11a7 + i % 28))
  else none

/-- The syllable composed of two parts. -/
def syllable? (a b : Char) : Option Char :=
  let (m, n) := (a.toNat, b.toNat)
  if 0x1100 ≤ m && m < 0x1113 && 0x1161 ≤ n && n < 0x1176 then
    some (Char.ofNat (0xac00 + (m - 0x1100) * 588 + (n - 0x1161) * 28))
  else if 0xac00 ≤ m && m ≤ 0xd7a3 && (m - 0xac00) % 28 = 0 && 0x11a8 ≤ n && n < 0x11c3 then
    some (Char.ofNat (m + (n - 0x11a7)))
  else none

/-- The two parts of a composed character. -/
def parts? (c : Char) : Option (Char × Char) :=
  match Run.find? composites c with
  | some [a, b] => some (a, b)
  | _ => syllableParts? c

/-- The character composed of two parts. -/
def composite? (a b : Char) : Option Char :=
  match Run.search? composites [a, b] with
  | some c => some c
  | none => syllable? a b

/-! ## Texts -/

/-- The most parts that a character is composed of, less one. -/
def deepest : Nat := 4

/-- Takes a character apart, so many times. -/
def pieces : Nat → Char → List Char
  | 0, c => [c]
  | n + 1, c =>
    match parts? c with
    | some (a, b) => pieces n a ++ [b]
    | none => [c]

/-- Puts a character after a text that is written backwards, before marks of a larger class. -/
def place (c : Char) : List Char → List Char
  | [] => [c]
  | d :: ds =>
    if markClass c ≠ 0 && markClass c < markClass d then d :: place c ds else c :: d :: ds

/-- The text with its marks in the order of their classes. -/
def ordered (cs : List Char) : List Char := (cs.foldl (fun done c => place c done) []).reverse

/-- Puts characters together.  A mark joins the letter before it unless a mark in between, held so
far, is of no smaller class. -/
def compose (letter : Option Char) (held : List Char) (last : Nat) : List Char → List Char
  | [] => letter.toList ++ held
  | c :: cs =>
    let k := markClass c
    match if held.isEmpty || last < k then letter.bind (composite? · c) else none with
    | some whole => compose (some whole) held last cs
    | none =>
      if k = 0 then letter.toList ++ held ++ compose (some c) [] 0 cs
      else compose letter (held ++ [c]) k cs

/-- **The normal form** of a text. -/
def normalForm (cs : List Char) : List Char :=
  if cs.all (·.toNat < 0x300) then cs
  else compose none [] 0 (ordered (cs.flatMap (pieces deepest)))

/-- Whether a text is its normal form. -/
def isNormal (cs : List Char) : Bool := normalForm cs == cs

theorem normalForm_eq_self_of_plain {cs : List Char} (h : cs.all (·.toNat < 0x300) = true) :
    normalForm cs = cs := by
  simp [normalForm, h]

end RestLoom.Text
