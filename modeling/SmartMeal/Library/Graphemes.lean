/-
Extended grapheme clusters by the rules GB3 to GB13 of Unicode 15.0.

The class of a scalar is its property Grapheme_Cluster_Break, and Extended_Pictographic where
that property has no other value.  Every scalar joins the cluster before it or begins a new
one, and the rules look at no scalar before that cluster.
-/

import SmartMeal.Library.Clusters

namespace Graphemes

open Clusters

inductive GraphemeBreak where
  | other
  | cr
  | lf
  | control
  | extend
  | zwj
  | regionalIndicator
  | prepend
  | spacingMark
  | l
  | v
  | t
  | lv
  | lvt
  | extendedPictographic
  deriving DecidableEq

/-! ### The classes -/

def controlRanges : List (Nat × Nat) :=
  [(0x0000, 0x0009), (0x000B, 0x000C), (0x000E, 0x001F), (0x007F, 0x009F), (0x00AD, 0x00AD),
   (0x061C, 0x061C), (0x180E, 0x180E), (0x200B, 0x200B), (0x200E, 0x200F), (0x2028, 0x202E),
   (0x2060, 0x206F), (0xFEFF, 0xFEFF), (0xFFF0, 0xFFFB), (0x13430, 0x1343F), (0x1BCA0, 0x1BCA3),
   (0x1D173, 0x1D17A), (0xE0000, 0xE001F), (0xE0080, 0xE00FF), (0xE01F0, 0xE0FFF)]

def prependRanges : List (Nat × Nat) :=
  [(0x0600, 0x0605), (0x06DD, 0x06DD), (0x070F, 0x070F), (0x0890, 0x0891), (0x08E2, 0x08E2),
   (0x0D4E, 0x0D4E), (0x110BD, 0x110BD), (0x110CD, 0x110CD), (0x111C2, 0x111C3), (0x1193F, 0x1193F),
   (0x11941, 0x11941), (0x11A3A, 0x11A3A), (0x11A84, 0x11A89), (0x11D46, 0x11D46),
   (0x11F02, 0x11F02)]

def extendRanges : List (Nat × Nat) :=
  [(0x0300, 0x036F), (0x0483, 0x0489), (0x0591, 0x05BD), (0x05BF, 0x05BF), (0x05C1, 0x05C2),
   (0x05C4, 0x05C5), (0x05C7, 0x05C7), (0x0610, 0x061A), (0x064B, 0x065F), (0x0670, 0x0670),
   (0x06D6, 0x06DC), (0x06DF, 0x06E4), (0x06E7, 0x06E8), (0x06EA, 0x06ED), (0x0711, 0x0711),
   (0x0730, 0x074A), (0x07A6, 0x07B0), (0x07EB, 0x07F3), (0x07FD, 0x07FD), (0x0816, 0x0819),
   (0x081B, 0x0823), (0x0825, 0x0827), (0x0829, 0x082D), (0x0859, 0x085B), (0x0898, 0x089F),
   (0x08CA, 0x08E1), (0x08E3, 0x0902), (0x093A, 0x093A), (0x093C, 0x093C), (0x0941, 0x0948),
   (0x094D, 0x094D), (0x0951, 0x0957), (0x0962, 0x0963), (0x0981, 0x0981), (0x09BC, 0x09BC),
   (0x09BE, 0x09BE), (0x09C1, 0x09C4), (0x09CD, 0x09CD), (0x09D7, 0x09D7), (0x09E2, 0x09E3),
   (0x09FE, 0x09FE), (0x0A01, 0x0A02), (0x0A3C, 0x0A3C), (0x0A41, 0x0A42), (0x0A47, 0x0A48),
   (0x0A4B, 0x0A4D), (0x0A51, 0x0A51), (0x0A70, 0x0A71), (0x0A75, 0x0A75), (0x0A81, 0x0A82),
   (0x0ABC, 0x0ABC), (0x0AC1, 0x0AC5), (0x0AC7, 0x0AC8), (0x0ACD, 0x0ACD), (0x0AE2, 0x0AE3),
   (0x0AFA, 0x0AFF), (0x0B01, 0x0B01), (0x0B3C, 0x0B3C), (0x0B3E, 0x0B3F), (0x0B41, 0x0B44),
   (0x0B4D, 0x0B4D), (0x0B55, 0x0B57), (0x0B62, 0x0B63), (0x0B82, 0x0B82), (0x0BBE, 0x0BBE),
   (0x0BC0, 0x0BC0), (0x0BCD, 0x0BCD), (0x0BD7, 0x0BD7), (0x0C00, 0x0C00), (0x0C04, 0x0C04),
   (0x0C3C, 0x0C3C), (0x0C3E, 0x0C40), (0x0C46, 0x0C48), (0x0C4A, 0x0C4D), (0x0C55, 0x0C56),
   (0x0C62, 0x0C63), (0x0C81, 0x0C81), (0x0CBC, 0x0CBC), (0x0CBF, 0x0CBF), (0x0CC2, 0x0CC2),
   (0x0CC6, 0x0CC6), (0x0CCC, 0x0CCD), (0x0CD5, 0x0CD6), (0x0CE2, 0x0CE3), (0x0D00, 0x0D01),
   (0x0D3B, 0x0D3C), (0x0D3E, 0x0D3E), (0x0D41, 0x0D44), (0x0D4D, 0x0D4D), (0x0D57, 0x0D57),
   (0x0D62, 0x0D63), (0x0D81, 0x0D81), (0x0DCA, 0x0DCA), (0x0DCF, 0x0DCF), (0x0DD2, 0x0DD4),
   (0x0DD6, 0x0DD6), (0x0DDF, 0x0DDF), (0x0E31, 0x0E31), (0x0E34, 0x0E3A), (0x0E47, 0x0E4E),
   (0x0EB1, 0x0EB1), (0x0EB4, 0x0EBC), (0x0EC8, 0x0ECE), (0x0F18, 0x0F19), (0x0F35, 0x0F35),
   (0x0F37, 0x0F37), (0x0F39, 0x0F39), (0x0F71, 0x0F7E), (0x0F80, 0x0F84), (0x0F86, 0x0F87),
   (0x0F8D, 0x0F97), (0x0F99, 0x0FBC), (0x0FC6, 0x0FC6), (0x102D, 0x1030), (0x1032, 0x1037),
   (0x1039, 0x103A), (0x103D, 0x103E), (0x1058, 0x1059), (0x105E, 0x1060), (0x1071, 0x1074),
   (0x1082, 0x1082), (0x1085, 0x1086), (0x108D, 0x108D), (0x109D, 0x109D), (0x135D, 0x135F),
   (0x1712, 0x1714), (0x1732, 0x1733), (0x1752, 0x1753), (0x1772, 0x1773), (0x17B4, 0x17B5),
   (0x17B7, 0x17BD), (0x17C6, 0x17C6), (0x17C9, 0x17D3), (0x17DD, 0x17DD), (0x180B, 0x180D),
   (0x180F, 0x180F), (0x1885, 0x1886), (0x18A9, 0x18A9), (0x1920, 0x1922), (0x1927, 0x1928),
   (0x1932, 0x1932), (0x1939, 0x193B), (0x1A17, 0x1A18), (0x1A1B, 0x1A1B), (0x1A56, 0x1A56),
   (0x1A58, 0x1A5E), (0x1A60, 0x1A60), (0x1A62, 0x1A62), (0x1A65, 0x1A6C), (0x1A73, 0x1A7C),
   (0x1A7F, 0x1A7F), (0x1AB0, 0x1ACE), (0x1B00, 0x1B03), (0x1B34, 0x1B3A), (0x1B3C, 0x1B3C),
   (0x1B42, 0x1B42), (0x1B6B, 0x1B73), (0x1B80, 0x1B81), (0x1BA2, 0x1BA5), (0x1BA8, 0x1BA9),
   (0x1BAB, 0x1BAD), (0x1BE6, 0x1BE6), (0x1BE8, 0x1BE9), (0x1BED, 0x1BED), (0x1BEF, 0x1BF1),
   (0x1C2C, 0x1C33), (0x1C36, 0x1C37), (0x1CD0, 0x1CD2), (0x1CD4, 0x1CE0), (0x1CE2, 0x1CE8),
   (0x1CED, 0x1CED), (0x1CF4, 0x1CF4), (0x1CF8, 0x1CF9), (0x1DC0, 0x1DFF), (0x200C, 0x200C),
   (0x20D0, 0x20F0), (0x2CEF, 0x2CF1), (0x2D7F, 0x2D7F), (0x2DE0, 0x2DFF), (0x302A, 0x302F),
   (0x3099, 0x309A), (0xA66F, 0xA672), (0xA674, 0xA67D), (0xA69E, 0xA69F), (0xA6F0, 0xA6F1),
   (0xA802, 0xA802), (0xA806, 0xA806), (0xA80B, 0xA80B), (0xA825, 0xA826), (0xA82C, 0xA82C),
   (0xA8C4, 0xA8C5), (0xA8E0, 0xA8F1), (0xA8FF, 0xA8FF), (0xA926, 0xA92D), (0xA947, 0xA951),
   (0xA980, 0xA982), (0xA9B3, 0xA9B3), (0xA9B6, 0xA9B9), (0xA9BC, 0xA9BD), (0xA9E5, 0xA9E5),
   (0xAA29, 0xAA2E), (0xAA31, 0xAA32), (0xAA35, 0xAA36), (0xAA43, 0xAA43), (0xAA4C, 0xAA4C),
   (0xAA7C, 0xAA7C), (0xAAB0, 0xAAB0), (0xAAB2, 0xAAB4), (0xAAB7, 0xAAB8), (0xAABE, 0xAABF),
   (0xAAC1, 0xAAC1), (0xAAEC, 0xAAED), (0xAAF6, 0xAAF6), (0xABE5, 0xABE5), (0xABE8, 0xABE8),
   (0xABED, 0xABED), (0xFB1E, 0xFB1E), (0xFE00, 0xFE0F), (0xFE20, 0xFE2F), (0xFF9E, 0xFF9F),
   (0x101FD, 0x101FD), (0x102E0, 0x102E0), (0x10376, 0x1037A), (0x10A01, 0x10A03),
   (0x10A05, 0x10A06), (0x10A0C, 0x10A0F), (0x10A38, 0x10A3A), (0x10A3F, 0x10A3F),
   (0x10AE5, 0x10AE6), (0x10D24, 0x10D27), (0x10EAB, 0x10EAC), (0x10EFD, 0x10EFF),
   (0x10F46, 0x10F50), (0x10F82, 0x10F85), (0x11001, 0x11001), (0x11038, 0x11046),
   (0x11070, 0x11070), (0x11073, 0x11074), (0x1107F, 0x11081), (0x110B3, 0x110B6),
   (0x110B9, 0x110BA), (0x110C2, 0x110C2), (0x11100, 0x11102), (0x11127, 0x1112B),
   (0x1112D, 0x11134), (0x11173, 0x11173), (0x11180, 0x11181), (0x111B6, 0x111BE),
   (0x111C9, 0x111CC), (0x111CF, 0x111CF), (0x1122F, 0x11231), (0x11234, 0x11234),
   (0x11236, 0x11237), (0x1123E, 0x1123E), (0x11241, 0x11241), (0x112DF, 0x112DF),
   (0x112E3, 0x112EA), (0x11300, 0x11301), (0x1133B, 0x1133C), (0x1133E, 0x1133E),
   (0x11340, 0x11340), (0x11357, 0x11357), (0x11366, 0x1136C), (0x11370, 0x11374),
   (0x11438, 0x1143F), (0x11442, 0x11444), (0x11446, 0x11446), (0x1145E, 0x1145E),
   (0x114B0, 0x114B0), (0x114B3, 0x114B8), (0x114BA, 0x114BA), (0x114BD, 0x114BD),
   (0x114BF, 0x114C0), (0x114C2, 0x114C3), (0x115AF, 0x115AF), (0x115B2, 0x115B5),
   (0x115BC, 0x115BD), (0x115BF, 0x115C0), (0x115DC, 0x115DD), (0x11633, 0x1163A),
   (0x1163D, 0x1163D), (0x1163F, 0x11640), (0x116AB, 0x116AB), (0x116AD, 0x116AD),
   (0x116B0, 0x116B5), (0x116B7, 0x116B7), (0x1171D, 0x1171F), (0x11722, 0x11725),
   (0x11727, 0x1172B), (0x1182F, 0x11837), (0x11839, 0x1183A), (0x11930, 0x11930),
   (0x1193B, 0x1193C), (0x1193E, 0x1193E), (0x11943, 0x11943), (0x119D4, 0x119D7),
   (0x119DA, 0x119DB), (0x119E0, 0x119E0), (0x11A01, 0x11A0A), (0x11A33, 0x11A38),
   (0x11A3B, 0x11A3E), (0x11A47, 0x11A47), (0x11A51, 0x11A56), (0x11A59, 0x11A5B),
   (0x11A8A, 0x11A96), (0x11A98, 0x11A99), (0x11C30, 0x11C36), (0x11C38, 0x11C3D),
   (0x11C3F, 0x11C3F), (0x11C92, 0x11CA7), (0x11CAA, 0x11CB0), (0x11CB2, 0x11CB3),
   (0x11CB5, 0x11CB6), (0x11D31, 0x11D36), (0x11D3A, 0x11D3A), (0x11D3C, 0x11D3D),
   (0x11D3F, 0x11D45), (0x11D47, 0x11D47), (0x11D90, 0x11D91), (0x11D95, 0x11D95),
   (0x11D97, 0x11D97), (0x11EF3, 0x11EF4), (0x11F00, 0x11F01), (0x11F36, 0x11F3A),
   (0x11F40, 0x11F40), (0x11F42, 0x11F42), (0x13440, 0x13440), (0x13447, 0x13455),
   (0x16AF0, 0x16AF4), (0x16B30, 0x16B36), (0x16F4F, 0x16F4F), (0x16F8F, 0x16F92),
   (0x16FE4, 0x16FE4), (0x1BC9D, 0x1BC9E), (0x1CF00, 0x1CF2D), (0x1CF30, 0x1CF46),
   (0x1D165, 0x1D165), (0x1D167, 0x1D169), (0x1D16E, 0x1D172), (0x1D17B, 0x1D182),
   (0x1D185, 0x1D18B), (0x1D1AA, 0x1D1AD), (0x1D242, 0x1D244), (0x1DA00, 0x1DA36),
   (0x1DA3B, 0x1DA6C), (0x1DA75, 0x1DA75), (0x1DA84, 0x1DA84), (0x1DA9B, 0x1DA9F),
   (0x1DAA1, 0x1DAAF), (0x1E000, 0x1E006), (0x1E008, 0x1E018), (0x1E01B, 0x1E021),
   (0x1E023, 0x1E024), (0x1E026, 0x1E02A), (0x1E08F, 0x1E08F), (0x1E130, 0x1E136),
   (0x1E2AE, 0x1E2AE), (0x1E2EC, 0x1E2EF), (0x1E4EC, 0x1E4EF), (0x1E8D0, 0x1E8D6),
   (0x1E944, 0x1E94A), (0x1F3FB, 0x1F3FF), (0xE0020, 0xE007F), (0xE0100, 0xE01EF)]

def spacingMarkRanges : List (Nat × Nat) :=
  [(0x0903, 0x0903), (0x093B, 0x093B), (0x093E, 0x0940), (0x0949, 0x094C), (0x094E, 0x094F),
   (0x0982, 0x0983), (0x09BF, 0x09C0), (0x09C7, 0x09C8), (0x09CB, 0x09CC), (0x0A03, 0x0A03),
   (0x0A3E, 0x0A40), (0x0A83, 0x0A83), (0x0ABE, 0x0AC0), (0x0AC9, 0x0AC9), (0x0ACB, 0x0ACC),
   (0x0B02, 0x0B03), (0x0B40, 0x0B40), (0x0B47, 0x0B48), (0x0B4B, 0x0B4C), (0x0BBF, 0x0BBF),
   (0x0BC1, 0x0BC2), (0x0BC6, 0x0BC8), (0x0BCA, 0x0BCC), (0x0C01, 0x0C03), (0x0C41, 0x0C44),
   (0x0C82, 0x0C83), (0x0CBE, 0x0CBE), (0x0CC0, 0x0CC1), (0x0CC3, 0x0CC4), (0x0CC7, 0x0CC8),
   (0x0CCA, 0x0CCB), (0x0CF3, 0x0CF3), (0x0D02, 0x0D03), (0x0D3F, 0x0D40), (0x0D46, 0x0D48),
   (0x0D4A, 0x0D4C), (0x0D82, 0x0D83), (0x0DD0, 0x0DD1), (0x0DD8, 0x0DDE), (0x0DF2, 0x0DF3),
   (0x0E33, 0x0E33), (0x0EB3, 0x0EB3), (0x0F3E, 0x0F3F), (0x0F7F, 0x0F7F), (0x1031, 0x1031),
   (0x103B, 0x103C), (0x1056, 0x1057), (0x1084, 0x1084), (0x1715, 0x1715), (0x1734, 0x1734),
   (0x17B6, 0x17B6), (0x17BE, 0x17C5), (0x17C7, 0x17C8), (0x1923, 0x1926), (0x1929, 0x192B),
   (0x1930, 0x1931), (0x1933, 0x1938), (0x1A19, 0x1A1A), (0x1A55, 0x1A55), (0x1A57, 0x1A57),
   (0x1A6D, 0x1A72), (0x1B04, 0x1B04), (0x1B3B, 0x1B3B), (0x1B3D, 0x1B41), (0x1B43, 0x1B44),
   (0x1B82, 0x1B82), (0x1BA1, 0x1BA1), (0x1BA6, 0x1BA7), (0x1BAA, 0x1BAA), (0x1BE7, 0x1BE7),
   (0x1BEA, 0x1BEC), (0x1BEE, 0x1BEE), (0x1BF2, 0x1BF3), (0x1C24, 0x1C2B), (0x1C34, 0x1C35),
   (0x1CE1, 0x1CE1), (0x1CF7, 0x1CF7), (0xA823, 0xA824), (0xA827, 0xA827), (0xA880, 0xA881),
   (0xA8B4, 0xA8C3), (0xA952, 0xA953), (0xA983, 0xA983), (0xA9B4, 0xA9B5), (0xA9BA, 0xA9BB),
   (0xA9BE, 0xA9C0), (0xAA2F, 0xAA30), (0xAA33, 0xAA34), (0xAA4D, 0xAA4D), (0xAAEB, 0xAAEB),
   (0xAAEE, 0xAAEF), (0xAAF5, 0xAAF5), (0xABE3, 0xABE4), (0xABE6, 0xABE7), (0xABE9, 0xABEA),
   (0xABEC, 0xABEC), (0x11000, 0x11000), (0x11002, 0x11002), (0x11082, 0x11082), (0x110B0, 0x110B2),
   (0x110B7, 0x110B8), (0x1112C, 0x1112C), (0x11145, 0x11146), (0x11182, 0x11182),
   (0x111B3, 0x111B5), (0x111BF, 0x111C0), (0x111CE, 0x111CE), (0x1122C, 0x1122E),
   (0x11232, 0x11233), (0x11235, 0x11235), (0x112E0, 0x112E2), (0x11302, 0x11303),
   (0x1133F, 0x1133F), (0x11341, 0x11344), (0x11347, 0x11348), (0x1134B, 0x1134D),
   (0x11362, 0x11363), (0x11435, 0x11437), (0x11440, 0x11441), (0x11445, 0x11445),
   (0x114B1, 0x114B2), (0x114B9, 0x114B9), (0x114BB, 0x114BC), (0x114BE, 0x114BE),
   (0x114C1, 0x114C1), (0x115B0, 0x115B1), (0x115B8, 0x115BB), (0x115BE, 0x115BE),
   (0x11630, 0x11632), (0x1163B, 0x1163C), (0x1163E, 0x1163E), (0x116AC, 0x116AC),
   (0x116AE, 0x116AF), (0x116B6, 0x116B6), (0x11726, 0x11726), (0x1182C, 0x1182E),
   (0x11838, 0x11838), (0x11931, 0x11935), (0x11937, 0x11938), (0x1193D, 0x1193D),
   (0x11940, 0x11940), (0x11942, 0x11942), (0x119D1, 0x119D3), (0x119DC, 0x119DF),
   (0x119E4, 0x119E4), (0x11A39, 0x11A39), (0x11A57, 0x11A58), (0x11A97, 0x11A97),
   (0x11C2F, 0x11C2F), (0x11C3E, 0x11C3E), (0x11CA9, 0x11CA9), (0x11CB1, 0x11CB1),
   (0x11CB4, 0x11CB4), (0x11D8A, 0x11D8E), (0x11D93, 0x11D94), (0x11D96, 0x11D96),
   (0x11EF5, 0x11EF6), (0x11F03, 0x11F03), (0x11F34, 0x11F35), (0x11F3E, 0x11F3F),
   (0x11F41, 0x11F41), (0x16F51, 0x16F87), (0x16FF0, 0x16FF1), (0x1D166, 0x1D166),
   (0x1D16D, 0x1D16D)]

def pictographicRanges : List (Nat × Nat) :=
  [(0x00A9, 0x00A9), (0x00AE, 0x00AE), (0x203C, 0x203C), (0x2049, 0x2049), (0x2122, 0x2122),
   (0x2139, 0x2139), (0x2194, 0x2199), (0x21A9, 0x21AA), (0x231A, 0x231B), (0x2328, 0x2328),
   (0x2388, 0x2388), (0x23CF, 0x23CF), (0x23E9, 0x23F3), (0x23F8, 0x23FA), (0x24C2, 0x24C2),
   (0x25AA, 0x25AB), (0x25B6, 0x25B6), (0x25C0, 0x25C0), (0x25FB, 0x25FE), (0x2600, 0x2605),
   (0x2607, 0x2612), (0x2614, 0x2685), (0x2690, 0x2705), (0x2708, 0x2712), (0x2714, 0x2714),
   (0x2716, 0x2716), (0x271D, 0x271D), (0x2721, 0x2721), (0x2728, 0x2728), (0x2733, 0x2734),
   (0x2744, 0x2744), (0x2747, 0x2747), (0x274C, 0x274C), (0x274E, 0x274E), (0x2753, 0x2755),
   (0x2757, 0x2757), (0x2763, 0x2767), (0x2795, 0x2797), (0x27A1, 0x27A1), (0x27B0, 0x27B0),
   (0x27BF, 0x27BF), (0x2934, 0x2935), (0x2B05, 0x2B07), (0x2B1B, 0x2B1C), (0x2B50, 0x2B50),
   (0x2B55, 0x2B55), (0x3030, 0x3030), (0x303D, 0x303D), (0x3297, 0x3297), (0x3299, 0x3299),
   (0x1F000, 0x1F0FF), (0x1F10D, 0x1F10F), (0x1F12F, 0x1F12F), (0x1F16C, 0x1F171),
   (0x1F17E, 0x1F17F), (0x1F18E, 0x1F18E), (0x1F191, 0x1F19A), (0x1F1AD, 0x1F1E5),
   (0x1F201, 0x1F20F), (0x1F21A, 0x1F21A), (0x1F22F, 0x1F22F), (0x1F232, 0x1F23A),
   (0x1F23C, 0x1F23F), (0x1F249, 0x1F3FA), (0x1F400, 0x1F53D), (0x1F546, 0x1F64F),
   (0x1F680, 0x1F6FF), (0x1F774, 0x1F77F), (0x1F7D5, 0x1F7FF), (0x1F80C, 0x1F80F),
   (0x1F848, 0x1F84F), (0x1F85A, 0x1F85F), (0x1F888, 0x1F88F), (0x1F8AE, 0x1F8FF),
   (0x1F90C, 0x1F93A), (0x1F93C, 0x1F945), (0x1F947, 0x1FAFF), (0x1FC00, 0x1FFFD)]

def within (ranges : List (Nat × Nat)) (code : Nat) : Bool :=
  ranges.any fun range => range.1 ≤ code && code ≤ range.2

def graphemeBreak (scalar : Char) : GraphemeBreak :=
  let code := scalar.toNat
  -- the printable ASCII scalars are in no range below
  if 0x0020 ≤ code && code < 0x007F then .other
  else if code = 0x000D then .cr
  else if code = 0x000A then .lf
  else if within controlRanges code then .control
  else if within extendRanges code then .extend
  else if code = 0x200D then .zwj
  else if within [(0x1F1E6, 0x1F1FF)] code then .regionalIndicator
  else if within prependRanges code then .prepend
  else if within spacingMarkRanges code then .spacingMark
  else if within [(0x1100, 0x115F), (0xA960, 0xA97C)] code then .l
  else if within [(0x1160, 0x11A7), (0xD7B0, 0xD7C6)] code then .v
  else if within [(0x11A8, 0x11FF), (0xD7CB, 0xD7FB)] code then .t
  else if within [(0xAC00, 0xD7A3)] code then
    if (code - 0xAC00) % 28 = 0 then .lv else .lvt
  else if within pictographicRanges code then .extendedPictographic
  else .other

/-! ### The rules -/

def isControl : GraphemeBreak → Bool
  | .cr | .lf | .control => true
  | _ => false

/-- GB6 to GB8. -/
def joinsSyllable : GraphemeBreak → GraphemeBreak → Bool
  | .l, .l | .l, .v | .l, .lv | .l, .lvt => true
  | .lv, .v | .lv, .t | .v, .v | .v, .t => true
  | .lvt, .t | .t, .t => true
  | _, _ => false

/-- GB9 and GB9a. -/
def isAttached : GraphemeBreak → Bool
  | .extend | .zwj | .spacingMark => true
  | _ => false

/-- The left side of GB11, read backwards. -/
def endsPictograph : List GraphemeBreak → Bool
  | .zwj :: before => (before.dropWhile (· == .extend)).head? == some .extendedPictographic
  | _ => false

/-- The left side of GB12 and GB13, read backwards. -/
def endsHalfFlag (before : List GraphemeBreak) : Bool :=
  (before.takeWhile (· == .regionalIndicator)).length % 2 == 1

/-- Whether the scalar joins the cluster before it. -/
def joins (cluster : List Char) (scalar : Char) : Bool :=
  let next := graphemeBreak scalar
  match (cluster.map graphemeBreak).reverse with
  | [] => false
  | last :: before =>
      if isControl last || isControl next then last == .cr && next == .lf
      else
        joinsSyllable last next || isAttached next || last == .prepend ||
          (endsPictograph (last :: before) && next == .extendedPictographic) ||
          (endsHalfFlag (last :: before) && next == .regionalIndicator)

/-! ### Scalars without a class -/

private theorem joins_other {scalar : Char} (other : graphemeBreak scalar = .other)
    {cluster : List Char} {last : Char} (ends : cluster.getLast? = some last) :
    joins cluster scalar = true ↔ graphemeBreak last = .prepend := by
  obtain ⟨done, rfl⟩ := List.getLast?_eq_some_iff.mp ends
  unfold joins
  rw [other, List.map_append, List.reverse_append]
  change (if isControl (graphemeBreak last) || _ then _ else _) = true ↔ _
  cases graphemeBreak last <;>
    simp [isControl, joinsSyllable, isAttached]

private theorem joins_after_other {first : Char} (other : graphemeBreak first = .other)
    (scalar : Char) :
    joins [first] scalar = isAttached (graphemeBreak scalar) := by
  unfold joins
  rw [List.map_singleton, List.reverse_singleton, other]
  change (if isControl .other || isControl (graphemeBreak scalar) then _ else _) = _
  cases graphemeBreak scalar <;> rfl

theorem apart_other_iff {scalar : Char} (other : graphemeBreak scalar = .other)
    (text : List Char) :
    Apart joins text [scalar] ↔
      ∀ last, text.getLast? = some last → graphemeBreak last ≠ .prepend := by
  by_cases nonempty : text = []
  · rw [nonempty]
    apply iff_of_true rfl
    intro last impossible
    cases impossible
  · obtain ⟨done, cluster, split, _⟩ := @exists_clusters_append _ joins text nonempty
    have flat : done.flatten ++ cluster = text := by
      rw [← @flatten_clusters _ joins text, split]
      simp
    have member : cluster ∈ clusters joins text := by
      rw [split]
      simp
    have some := List.getLast?_eq_some_getLast (ne_nil_of_mem_clusters member)
    have ends : text.getLast? = cluster.getLast? := by
      rw [← flat, List.getLast?_append, some]
      rfl
    rw [apart_cons_iff split, ← Bool.not_eq_true, joins_other other some, ends, some]
    simp

theorem apart_after_other_iff {first : Char} (other : graphemeBreak first = .other)
    (text : List Char) :
    Apart joins [first] text ↔
      ∀ scalar, text.head? = some scalar → isAttached (graphemeBreak scalar) = false := by
  cases text with
  | nil =>
      apply iff_of_true (apart_nil [first])
      intro scalar impossible
      cases impossible
  | cons scalar rest =>
      have alone : clusters joins [first] = [] ++ [[first]] := rfl
      rw [apart_cons_iff alone, joins_after_other other]
      simp

end Graphemes
