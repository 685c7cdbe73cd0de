import InterfaceDraft.Text.Casing
import InterfaceDraft.Text.Uppercase

set_option autoImplicit false

namespace InterfaceDraft.Text

-- Runs of characters, each with the lower case form of its first character. In a run the distance
-- between a character and its form is the same.
def lowercaseRuns : List ((Nat × Nat × Nat) × Nat) :=
  [((0x41, 0x5a, 1), 0x61), ((0xc0, 0xd6, 1), 0xe0), ((0xd8, 0xde, 1), 0xf8),
   ((0x100, 0x12e, 2), 0x101), ((0x132, 0x136, 2), 0x133), ((0x139, 0x147, 2), 0x13a),
   ((0x14a, 0x176, 2), 0x14b), ((0x178, 0x178, 1), 0xff), ((0x179, 0x17d, 2), 0x17a),
   ((0x181, 0x181, 1), 0x253), ((0x182, 0x184, 2), 0x183), ((0x186, 0x186, 1), 0x254),
   ((0x187, 0x187, 1), 0x188), ((0x189, 0x18a, 1), 0x256), ((0x18b, 0x18b, 1), 0x18c),
   ((0x18e, 0x18e, 1), 0x1dd), ((0x18f, 0x18f, 1), 0x259), ((0x190, 0x190, 1), 0x25b),
   ((0x191, 0x191, 1), 0x192), ((0x193, 0x193, 1), 0x260), ((0x194, 0x194, 1), 0x263),
   ((0x196, 0x196, 1), 0x269), ((0x197, 0x197, 1), 0x268), ((0x198, 0x198, 1), 0x199),
   ((0x19c, 0x19c, 1), 0x26f), ((0x19d, 0x19d, 1), 0x272), ((0x19f, 0x19f, 1), 0x275),
   ((0x1a0, 0x1a4, 2), 0x1a1), ((0x1a6, 0x1a6, 1), 0x280), ((0x1a7, 0x1a7, 1), 0x1a8),
   ((0x1a9, 0x1a9, 1), 0x283), ((0x1ac, 0x1ac, 1), 0x1ad), ((0x1ae, 0x1ae, 1), 0x288),
   ((0x1af, 0x1af, 1), 0x1b0), ((0x1b1, 0x1b2, 1), 0x28a), ((0x1b3, 0x1b5, 2), 0x1b4),
   ((0x1b7, 0x1b7, 1), 0x292), ((0x1b8, 0x1b8, 1), 0x1b9), ((0x1bc, 0x1bc, 1), 0x1bd),
   ((0x1c4, 0x1c4, 1), 0x1c6), ((0x1c5, 0x1c5, 1), 0x1c6), ((0x1c7, 0x1c7, 1), 0x1c9),
   ((0x1c8, 0x1c8, 1), 0x1c9), ((0x1ca, 0x1ca, 1), 0x1cc), ((0x1cb, 0x1db, 2), 0x1cc),
   ((0x1de, 0x1ee, 2), 0x1df), ((0x1f1, 0x1f1, 1), 0x1f3), ((0x1f2, 0x1f4, 2), 0x1f3),
   ((0x1f6, 0x1f6, 1), 0x195), ((0x1f7, 0x1f7, 1), 0x1bf), ((0x1f8, 0x21e, 2), 0x1f9),
   ((0x220, 0x220, 1), 0x19e), ((0x222, 0x232, 2), 0x223), ((0x23a, 0x23a, 1), 0x2c65),
   ((0x23b, 0x23b, 1), 0x23c), ((0x23d, 0x23d, 1), 0x19a), ((0x23e, 0x23e, 1), 0x2c66),
   ((0x241, 0x241, 1), 0x242), ((0x243, 0x243, 1), 0x180), ((0x244, 0x244, 1), 0x289),
   ((0x245, 0x245, 1), 0x28c), ((0x246, 0x24e, 2), 0x247), ((0x370, 0x372, 2), 0x371),
   ((0x376, 0x376, 1), 0x377), ((0x37f, 0x37f, 1), 0x3f3), ((0x386, 0x386, 1), 0x3ac),
   ((0x388, 0x38a, 1), 0x3ad), ((0x38c, 0x38c, 1), 0x3cc), ((0x38e, 0x38f, 1), 0x3cd),
   ((0x391, 0x3a1, 1), 0x3b1), ((0x3a3, 0x3ab, 1), 0x3c3), ((0x3cf, 0x3cf, 1), 0x3d7),
   ((0x3d8, 0x3ee, 2), 0x3d9), ((0x3f4, 0x3f4, 1), 0x3b8), ((0x3f7, 0x3f7, 1), 0x3f8),
   ((0x3f9, 0x3f9, 1), 0x3f2), ((0x3fa, 0x3fa, 1), 0x3fb), ((0x3fd, 0x3ff, 1), 0x37b),
   ((0x400, 0x40f, 1), 0x450), ((0x410, 0x42f, 1), 0x430), ((0x460, 0x480, 2), 0x461),
   ((0x48a, 0x4be, 2), 0x48b), ((0x4c0, 0x4c0, 1), 0x4cf), ((0x4c1, 0x4cd, 2), 0x4c2),
   ((0x4d0, 0x52e, 2), 0x4d1), ((0x531, 0x556, 1), 0x561), ((0x10a0, 0x10c5, 1), 0x2d00),
   ((0x10c7, 0x10c7, 1), 0x2d27), ((0x10cd, 0x10cd, 1), 0x2d2d), ((0x13a0, 0x13ef, 1), 0xab70),
   ((0x13f0, 0x13f5, 1), 0x13f8), ((0x1c89, 0x1c89, 1), 0x1c8a), ((0x1c90, 0x1cba, 1), 0x10d0),
   ((0x1cbd, 0x1cbf, 1), 0x10fd), ((0x1e00, 0x1e94, 2), 0x1e01), ((0x1e9e, 0x1e9e, 1), 0xdf),
   ((0x1ea0, 0x1efe, 2), 0x1ea1), ((0x1f08, 0x1f0f, 1), 0x1f00), ((0x1f18, 0x1f1d, 1), 0x1f10),
   ((0x1f28, 0x1f2f, 1), 0x1f20), ((0x1f38, 0x1f3f, 1), 0x1f30), ((0x1f48, 0x1f4d, 1), 0x1f40),
   ((0x1f59, 0x1f5f, 2), 0x1f51), ((0x1f68, 0x1f6f, 1), 0x1f60), ((0x1f88, 0x1f8f, 1), 0x1f80),
   ((0x1f98, 0x1f9f, 1), 0x1f90), ((0x1fa8, 0x1faf, 1), 0x1fa0), ((0x1fb8, 0x1fb9, 1), 0x1fb0),
   ((0x1fba, 0x1fbb, 1), 0x1f70), ((0x1fbc, 0x1fbc, 1), 0x1fb3), ((0x1fc8, 0x1fcb, 1), 0x1f72),
   ((0x1fcc, 0x1fcc, 1), 0x1fc3), ((0x1fd8, 0x1fd9, 1), 0x1fd0), ((0x1fda, 0x1fdb, 1), 0x1f76),
   ((0x1fe8, 0x1fe9, 1), 0x1fe0), ((0x1fea, 0x1feb, 1), 0x1f7a), ((0x1fec, 0x1fec, 1), 0x1fe5),
   ((0x1ff8, 0x1ff9, 1), 0x1f78), ((0x1ffa, 0x1ffb, 1), 0x1f7c), ((0x1ffc, 0x1ffc, 1), 0x1ff3),
   ((0x2126, 0x2126, 1), 0x3c9), ((0x212a, 0x212a, 1), 0x6b), ((0x212b, 0x212b, 1), 0xe5),
   ((0x2132, 0x2132, 1), 0x214e), ((0x2160, 0x216f, 1), 0x2170), ((0x2183, 0x2183, 1), 0x2184),
   ((0x24b6, 0x24cf, 1), 0x24d0), ((0x2c00, 0x2c2f, 1), 0x2c30), ((0x2c60, 0x2c60, 1), 0x2c61),
   ((0x2c62, 0x2c62, 1), 0x26b), ((0x2c63, 0x2c63, 1), 0x1d7d), ((0x2c64, 0x2c64, 1), 0x27d),
   ((0x2c67, 0x2c6b, 2), 0x2c68), ((0x2c6d, 0x2c6d, 1), 0x251), ((0x2c6e, 0x2c6e, 1), 0x271),
   ((0x2c6f, 0x2c6f, 1), 0x250), ((0x2c70, 0x2c70, 1), 0x252), ((0x2c72, 0x2c72, 1), 0x2c73),
   ((0x2c75, 0x2c75, 1), 0x2c76), ((0x2c7e, 0x2c7f, 1), 0x23f), ((0x2c80, 0x2ce2, 2), 0x2c81),
   ((0x2ceb, 0x2ced, 2), 0x2cec), ((0x2cf2, 0x2cf2, 1), 0x2cf3), ((0xa640, 0xa66c, 2), 0xa641),
   ((0xa680, 0xa69a, 2), 0xa681), ((0xa722, 0xa72e, 2), 0xa723), ((0xa732, 0xa76e, 2), 0xa733),
   ((0xa779, 0xa77b, 2), 0xa77a), ((0xa77d, 0xa77d, 1), 0x1d79), ((0xa77e, 0xa786, 2), 0xa77f),
   ((0xa78b, 0xa78b, 1), 0xa78c), ((0xa78d, 0xa78d, 1), 0x265), ((0xa790, 0xa792, 2), 0xa791),
   ((0xa796, 0xa7a8, 2), 0xa797), ((0xa7aa, 0xa7aa, 1), 0x266), ((0xa7ab, 0xa7ab, 1), 0x25c),
   ((0xa7ac, 0xa7ac, 1), 0x261), ((0xa7ad, 0xa7ad, 1), 0x26c), ((0xa7ae, 0xa7ae, 1), 0x26a),
   ((0xa7b0, 0xa7b0, 1), 0x29e), ((0xa7b1, 0xa7b1, 1), 0x287), ((0xa7b2, 0xa7b2, 1), 0x29d),
   ((0xa7b3, 0xa7b3, 1), 0xab53), ((0xa7b4, 0xa7c2, 2), 0xa7b5), ((0xa7c4, 0xa7c4, 1), 0xa794),
   ((0xa7c5, 0xa7c5, 1), 0x282), ((0xa7c6, 0xa7c6, 1), 0x1d8e), ((0xa7c7, 0xa7c9, 2), 0xa7c8),
   ((0xa7cb, 0xa7cb, 1), 0x264), ((0xa7cc, 0xa7da, 2), 0xa7cd), ((0xa7dc, 0xa7dc, 1), 0x19b),
   ((0xa7f5, 0xa7f5, 1), 0xa7f6), ((0xff21, 0xff3a, 1), 0xff41), ((0x10400, 0x10427, 1), 0x10428),
   ((0x104b0, 0x104d3, 1), 0x104d8), ((0x10570, 0x1057a, 1), 0x10597),
   ((0x1057c, 0x1058a, 1), 0x105a3), ((0x1058c, 0x10592, 1), 0x105b3),
   ((0x10594, 0x10595, 1), 0x105bb), ((0x10c80, 0x10cb2, 1), 0x10cc0),
   ((0x10d50, 0x10d65, 1), 0x10d70), ((0x118a0, 0x118bf, 1), 0x118c0),
   ((0x16e40, 0x16e5f, 1), 0x16e60), ((0x16ea0, 0x16eb8, 1), 0x16ebb),
   ((0x1e900, 0x1e921, 1), 0x1e922)]

-- One letter has a form of two characters: the capital i with a dot above, whose dot stays.
def lowerChar (c : Char) : List Char :=
  if c == '\u0130' then ['i', '\u0307']
  else
    match lowercaseRuns.find? fun run => inRun c.toNat run.1 with
    | some (run, first) => [.ofNat (c.toNat - run.1 + first)]
    | none => [c]

-- `before` is given backwards. A sigma at the end of a word is written in another way.
def lowerBehind (before : List Char) : List Char → List Char
  | [] => []
  | c :: rest =>
    (if c == '\u03a3' && endsWord before rest then ['\u03c2'] else lowerChar c) ++
      lowerBehind (c :: before) rest

def lower (s : List Char) : List Char :=
  lowerBehind [] s

def asciiUpper (c : Char) : Char :=
  if 'a' ≤ c && c ≤ 'z' then .ofNat (c.toNat - 32) else c

def asciiLower (c : Char) : Char :=
  if 'A' ≤ c && c ≤ 'Z' then .ofNat (c.toNat + 32) else c

end InterfaceDraft.Text
