import StylePrune.Text.Category

/-!
The direction in which characters are written, and how letters of joined scripts touch.

A label of a name that has right-to-left letters must not mix directions, so that it cannot be shown in
two ways. An invisible joiner may only stand where it changes how letters are written.
-/
namespace StylePrune.Idna

/-- How a character takes part in the direction of a text. -/
inductive Direction where
  | left
  | right
  | arabic
  | arabicNumber
  | number
  | sign
  | separator
  | terminator
  | mark
  | neutral
  | other
deriving DecidableEq, Repr

/-- The directions of characters that are no marks, each from the given code point up to the next. -/
def directionRuns : List (Nat × Direction) :=
  [(0x0, .neutral), (0x9, .other), (0xe, .neutral), (0x1c, .other), (0x21, .neutral),
   (0x23, .terminator), (0x26, .neutral), (0x2b, .sign), (0x2c, .separator), (0x2d, .sign),
   (0x2e, .separator), (0x30, .number), (0x3a, .separator), (0x3b, .neutral), (0x61, .left),
   (0x7b, .neutral), (0xa2, .terminator), (0xa6, .neutral), (0xb0, .terminator), (0xb6, .neutral),
   (0xdf, .left), (0xf7, .neutral), (0xf8, .left), (0x2b9, .neutral), (0x2bb, .left), (0x2c2, .neutral),
   (0x2d0, .left), (0x2d2, .neutral), (0x2ee, .left), (0x2ef, .neutral), (0x371, .left),
   (0x375, .neutral), (0x377, .left), (0x3f6, .neutral), (0x3f8, .left), (0x58a, .neutral),
   (0x58f, .terminator), (0x5be, .right), (0x606, .neutral), (0x608, .arabic), (0x609, .terminator),
   (0x60b, .arabic), (0x60c, .separator), (0x60d, .arabic), (0x60e, .neutral), (0x61b, .arabic),
   (0x660, .arabicNumber), (0x66a, .terminator), (0x66b, .arabicNumber), (0x66d, .arabic),
   (0x6de, .neutral), (0x6e5, .arabic), (0x6e9, .neutral), (0x6ee, .arabic), (0x6f0, .number),
   (0x6fa, .arabic), (0x7c0, .right), (0x7f6, .neutral), (0x7fa, .right), (0x860, .arabic),
   (0x903, .left), (0x9f2, .terminator), (0x9f4, .left), (0x9fb, .terminator), (0x9fc, .left),
   (0xaf1, .terminator), (0xaf9, .left), (0xbf3, .neutral), (0xbf9, .terminator), (0xbfa, .neutral),
   (0xc01, .left), (0xc78, .neutral), (0xc7f, .left), (0xe3f, .terminator), (0xe40, .left),
   (0xf3a, .neutral), (0xf3e, .left), (0x1390, .neutral), (0x13a0, .left), (0x1400, .neutral),
   (0x1401, .left), (0x169b, .neutral), (0x16a0, .left), (0x17db, .terminator), (0x17dc, .left),
   (0x17f0, .neutral), (0x1810, .left), (0x1940, .neutral), (0x1946, .left), (0x19de, .neutral),
   (0x1a00, .left), (0x200c, .neutral), (0x2030, .terminator), (0x2035, .neutral), (0x2044, .separator),
   (0x2045, .neutral), (0x20a0, .terminator), (0x2104, .neutral), (0x212e, .terminator),
   (0x213a, .neutral), (0x214e, .left), (0x218a, .neutral), (0x2212, .sign), (0x2213, .terminator),
   (0x2214, .neutral), (0x2336, .left), (0x237b, .neutral), (0x2395, .left), (0x2396, .neutral),
   (0x2427, .left), (0x2440, .neutral), (0x26ac, .left), (0x26ad, .neutral), (0x2800, .left),
   (0x2900, .neutral), (0x2b96, .left), (0x2b97, .neutral), (0x2c30, .left), (0x2ce5, .neutral),
   (0x2cec, .left), (0x2cf9, .neutral), (0x2d00, .left), (0x2e00, .neutral), (0x3005, .left),
   (0x3008, .neutral), (0x3021, .left), (0x3030, .neutral), (0x3031, .left), (0x3037, .neutral),
   (0x303b, .left), (0x303d, .neutral), (0x3041, .left), (0x30a0, .neutral), (0x30a1, .left),
   (0x30fb, .neutral), (0x30fc, .left), (0x31c0, .neutral), (0x31e4, .left), (0x4dc0, .neutral),
   (0x4e00, .left), (0xa490, .neutral), (0xa4d0, .left), (0xa60d, .neutral), (0xa610, .left),
   (0xa673, .neutral), (0xa681, .left), (0xa700, .neutral), (0xa723, .left), (0xa788, .neutral),
   (0xa789, .left), (0xa828, .neutral), (0xa830, .left), (0xa838, .terminator), (0xa840, .left),
   (0xa874, .neutral), (0xa880, .left), (0xab6a, .neutral), (0xabc0, .left), (0xfbb2, .arabic),
   (0xfd3e, .neutral), (0xfd90, .arabic), (0xfdcf, .neutral), (0xfe73, .arabic), (0x10000, .left),
   (0x10101, .neutral), (0x10102, .left), (0x10140, .neutral), (0x1018d, .left), (0x10190, .neutral),
   (0x101d0, .left), (0x102e1, .number), (0x10300, .left), (0x10800, .right), (0x1091f, .neutral),
   (0x10920, .right), (0x10b39, .neutral), (0x10b40, .right), (0x10d00, .arabic),
   (0x10d30, .arabicNumber), (0x10d40, .right), (0x10e60, .arabicNumber), (0x10e80, .right),
   (0x10ec2, .arabic), (0x10f00, .right), (0x10f30, .arabic), (0x10f70, .right), (0x11000, .left),
   (0x11052, .neutral), (0x11066, .left), (0x11660, .neutral), (0x11680, .left), (0x11fd5, .neutral),
   (0x11fdd, .terminator), (0x11fe1, .neutral), (0x11fff, .left), (0x16fe2, .neutral), (0x16fe3, .left),
   (0x1d1e9, .neutral), (0x1d2c0, .left), (0x1d300, .neutral), (0x1d360, .left), (0x1e2ff, .terminator),
   (0x1e4d0, .left), (0x1e800, .right), (0x1ec71, .arabic), (0x1eef0, .neutral), (0x1f150, .left),
   (0x1f16d, .neutral), (0x1f170, .left), (0x1f1ad, .neutral), (0x1f1e6, .left), (0x1f260, .neutral),
   (0x1f6d8, .left), (0x1f6dc, .neutral), (0x1f777, .left), (0x1f77b, .neutral), (0x1f8b2, .left),
   (0x1f900, .neutral), (0x1fa54, .left), (0x1fa60, .neutral), (0x1fa89, .left), (0x1fa90, .neutral),
   (0x1fabe, .left), (0x1fabf, .neutral), (0x1fac6, .left), (0x1face, .neutral), (0x1fadc, .left),
   (0x1fae0, .neutral), (0x1fae9, .left), (0x1faf0, .neutral), (0x1fbcb, .left)]

/-- A character that stands above, below or inside another one. -/
def isMark (c : Char) : Bool :=
  let category := Text.category c
  category == "Mn".toList || category == "Me".toList

/-- The direction of the run that holds a code point. -/
def directionIn (n : Nat) : Direction → List (Nat × Direction) → Direction
  | d, [] => d
  | d, (lo, e) :: r => if n < lo then d else directionIn n e r

/-- How a character takes part in the direction of a text. -/
def direction (c : Char) : Direction :=
  if isMark c then .mark else directionIn c.toNat .left directionRuns

/-- Letters that touch both neighbours. -/
def dualRanges : List (Nat × Nat) :=
  [(0x620, 0x620), (0x626, 0x626), (0x628, 0x628), (0x62a, 0x62e), (0x633, 0x63f), (0x641, 0x647),
   (0x649, 0x64a), (0x66e, 0x66f), (0x679, 0x687), (0x69a, 0x6bf), (0x6c1, 0x6c2), (0x6cc, 0x6cc),
   (0x6ce, 0x6ce), (0x6d0, 0x6d1), (0x6fa, 0x6fc), (0x6ff, 0x6ff), (0x712, 0x714), (0x71a, 0x71d),
   (0x71f, 0x727), (0x729, 0x729), (0x72b, 0x72b), (0x72d, 0x72e), (0x74e, 0x758), (0x75c, 0x76a),
   (0x76d, 0x770), (0x772, 0x772), (0x775, 0x777), (0x77a, 0x77f), (0x7ca, 0x7ea), (0x841, 0x845),
   (0x848, 0x848), (0x84a, 0x853), (0x855, 0x855), (0x860, 0x860), (0x862, 0x865), (0x868, 0x868),
   (0x886, 0x886), (0x889, 0x88d), (0x8a0, 0x8a9), (0x8af, 0x8b0), (0x8b3, 0x8b8), (0x8ba, 0x8c8),
   (0x1807, 0x1807), (0x1820, 0x1878), (0x1887, 0x18a8), (0x18aa, 0x18aa), (0xa840, 0xa871),
   (0x10ac0, 0x10ac4), (0x10ad3, 0x10ad6), (0x10ad8, 0x10adc), (0x10ade, 0x10ae0), (0x10aeb, 0x10aee),
   (0x10b80, 0x10b80), (0x10b82, 0x10b82), (0x10b86, 0x10b88), (0x10b8a, 0x10b8b), (0x10b8d, 0x10b8d),
   (0x10b90, 0x10b90), (0x10bad, 0x10bae), (0x10d01, 0x10d21), (0x10d23, 0x10d23), (0x10f30, 0x10f32),
   (0x10f34, 0x10f44), (0x10f51, 0x10f53), (0x10f70, 0x10f73), (0x10f76, 0x10f81), (0x10fb0, 0x10fb0),
   (0x10fb2, 0x10fb3), (0x10fb8, 0x10fb8), (0x10fbb, 0x10fbc), (0x10fbe, 0x10fbf), (0x10fc1, 0x10fc1),
   (0x10fc4, 0x10fc4), (0x10fca, 0x10fca), (0x1e922, 0x1e943)]

/-- Letters that touch the one before. -/
def backwardRanges : List (Nat × Nat) :=
  [(0x622, 0x625), (0x627, 0x627), (0x629, 0x629), (0x62f, 0x632), (0x648, 0x648), (0x671, 0x673),
   (0x688, 0x699), (0x6c0, 0x6c0), (0x6c3, 0x6cb), (0x6cd, 0x6cd), (0x6cf, 0x6cf), (0x6d2, 0x6d3),
   (0x6d5, 0x6d5), (0x6ee, 0x6ef), (0x710, 0x710), (0x715, 0x719), (0x71e, 0x71e), (0x728, 0x728),
   (0x72a, 0x72a), (0x72c, 0x72c), (0x72f, 0x72f), (0x74d, 0x74d), (0x759, 0x75b), (0x76b, 0x76c),
   (0x771, 0x771), (0x773, 0x774), (0x778, 0x779), (0x840, 0x840), (0x846, 0x847), (0x849, 0x849),
   (0x854, 0x854), (0x856, 0x858), (0x867, 0x867), (0x869, 0x86a), (0x870, 0x882), (0x88e, 0x88e),
   (0x8aa, 0x8ac), (0x8ae, 0x8ae), (0x8b1, 0x8b2), (0x8b9, 0x8b9), (0x10ac5, 0x10ac5),
   (0x10ac7, 0x10ac7), (0x10ac9, 0x10aca), (0x10ace, 0x10ad2), (0x10add, 0x10add), (0x10ae1, 0x10ae1),
   (0x10ae4, 0x10ae4), (0x10aef, 0x10aef), (0x10b81, 0x10b81), (0x10b83, 0x10b85), (0x10b89, 0x10b89),
   (0x10b8c, 0x10b8c), (0x10b8e, 0x10b8f), (0x10b91, 0x10b91), (0x10ba9, 0x10bac), (0x10d22, 0x10d22),
   (0x10f33, 0x10f33), (0x10f54, 0x10f54), (0x10f74, 0x10f75), (0x10fb4, 0x10fb6), (0x10fb9, 0x10fba),
   (0x10fbd, 0x10fbd), (0x10fc2, 0x10fc3), (0x10fc9, 0x10fc9)]

/-- Letters that touch the one after. -/
def forwardRanges : List (Nat × Nat) :=
  [(0xa872, 0xa872), (0x10acd, 0x10acd), (0x10ad7, 0x10ad7), (0x10d00, 0x10d00), (0x10fcb, 0x10fcb)]

/-- The letter touches the one after it. -/
def touchesNext (c : Char) : Bool :=
  Text.inRanges dualRanges c.toNat || Text.inRanges forwardRanges c.toNat

/-- The letter touches the one before it. -/
def touchesPrevious (c : Char) : Bool :=
  Text.inRanges dualRanges c.toNat || Text.inRanges backwardRanges c.toNat

end StylePrune.Idna
