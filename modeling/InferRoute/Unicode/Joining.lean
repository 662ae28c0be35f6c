import InferRoute.Text.RangeSet

/-!
The joining type of each character: how a letter of a cursive script connects to its neighbours
(Joining_Type, Unicode Character Database version 17, with the transparent marks and format
characters derived as the standard does). Characters not listed do not join.
-/

namespace InferRoute.Unicode

/-- How a character joins its neighbours. -/
inductive JoiningType where
  /-- Joins neither side. -/
  | nonJoining
  /-- Makes its neighbours join, as the tatweel and the zero width joiner do. -/
  | joinCausing
  /-- Joins on both sides. -/
  | dualJoining
  /-- Joins only the character on its left. -/
  | leftJoining
  /-- Joins only the character on its right. -/
  | rightJoining
  /-- Lets joining pass through it, as marks do. -/
  | transparent
deriving Repr, DecidableEq, Inhabited

/-- The steps of the joining type, part 1 of 3. -/
def joiningSteps0 : Array (Nat × JoiningType) := #[
  (0x00AD, .transparent), (0x00AE, .nonJoining), (0x0300, .transparent),
  (0x0370, .nonJoining), (0x0483, .transparent), (0x048A, .nonJoining),
  (0x0591, .transparent), (0x05BE, .nonJoining), (0x05BF, .transparent),
  (0x05C0, .nonJoining), (0x05C1, .transparent), (0x05C3, .nonJoining),
  (0x05C4, .transparent), (0x05C6, .nonJoining), (0x05C7, .transparent),
  (0x05C8, .nonJoining), (0x0610, .transparent), (0x061B, .nonJoining),
  (0x061C, .transparent), (0x061D, .nonJoining), (0x0620, .dualJoining),
  (0x0621, .nonJoining), (0x0622, .rightJoining), (0x0626, .dualJoining),
  (0x0627, .rightJoining), (0x0628, .dualJoining), (0x0629, .rightJoining),
  (0x062A, .dualJoining), (0x062F, .rightJoining), (0x0633, .dualJoining),
  (0x0640, .joinCausing), (0x0641, .dualJoining), (0x0648, .rightJoining),
  (0x0649, .dualJoining), (0x064B, .transparent), (0x0660, .nonJoining),
  (0x066E, .dualJoining), (0x0670, .transparent), (0x0671, .rightJoining),
  (0x0674, .nonJoining), (0x0675, .rightJoining), (0x0678, .dualJoining),
  (0x0688, .rightJoining), (0x069A, .dualJoining), (0x06C0, .rightJoining),
  (0x06C1, .dualJoining), (0x06C3, .rightJoining), (0x06CC, .dualJoining),
  (0x06CD, .rightJoining), (0x06CE, .dualJoining), (0x06CF, .rightJoining),
  (0x06D0, .dualJoining), (0x06D2, .rightJoining), (0x06D4, .nonJoining),
  (0x06D5, .rightJoining), (0x06D6, .transparent), (0x06DD, .nonJoining),
  (0x06DF, .transparent), (0x06E5, .nonJoining), (0x06E7, .transparent),
  (0x06E9, .nonJoining), (0x06EA, .transparent), (0x06EE, .rightJoining),
  (0x06F0, .nonJoining), (0x06FA, .dualJoining), (0x06FD, .nonJoining),
  (0x06FF, .dualJoining), (0x0700, .nonJoining), (0x070F, .transparent),
  (0x0710, .rightJoining), (0x0711, .transparent), (0x0712, .dualJoining),
  (0x0715, .rightJoining), (0x071A, .dualJoining), (0x071E, .rightJoining),
  (0x071F, .dualJoining), (0x0728, .rightJoining), (0x0729, .dualJoining),
  (0x072A, .rightJoining), (0x072B, .dualJoining), (0x072C, .rightJoining),
  (0x072D, .dualJoining), (0x072F, .rightJoining), (0x0730, .transparent),
  (0x074B, .nonJoining), (0x074D, .rightJoining), (0x074E, .dualJoining),
  (0x0759, .rightJoining), (0x075C, .dualJoining), (0x076B, .rightJoining),
  (0x076D, .dualJoining), (0x0771, .rightJoining), (0x0772, .dualJoining),
  (0x0773, .rightJoining), (0x0775, .dualJoining), (0x0778, .rightJoining),
  (0x077A, .dualJoining), (0x0780, .nonJoining), (0x07A6, .transparent),
  (0x07B1, .nonJoining), (0x07CA, .dualJoining), (0x07EB, .transparent),
  (0x07F4, .nonJoining), (0x07FA, .joinCausing), (0x07FB, .nonJoining),
  (0x07FD, .transparent), (0x07FE, .nonJoining), (0x0816, .transparent),
  (0x081A, .nonJoining), (0x081B, .transparent), (0x0824, .nonJoining),
  (0x0825, .transparent), (0x0828, .nonJoining), (0x0829, .transparent),
  (0x082E, .nonJoining), (0x0840, .rightJoining), (0x0841, .dualJoining),
  (0x0846, .rightJoining), (0x0848, .dualJoining), (0x0849, .rightJoining),
  (0x084A, .dualJoining), (0x0854, .rightJoining), (0x0855, .dualJoining),
  (0x0856, .rightJoining), (0x0859, .transparent), (0x085C, .nonJoining),
  (0x0860, .dualJoining), (0x0861, .nonJoining), (0x0862, .dualJoining),
  (0x0866, .nonJoining), (0x0867, .rightJoining), (0x0868, .dualJoining),
  (0x0869, .rightJoining), (0x086B, .nonJoining), (0x0870, .rightJoining),
  (0x0883, .joinCausing), (0x0886, .dualJoining), (0x0887, .nonJoining),
  (0x0889, .dualJoining), (0x088E, .rightJoining), (0x088F, .dualJoining),
  (0x0890, .nonJoining), (0x0897, .transparent), (0x08A0, .dualJoining),
  (0x08AA, .rightJoining), (0x08AD, .nonJoining), (0x08AE, .rightJoining),
  (0x08AF, .dualJoining), (0x08B1, .rightJoining), (0x08B3, .dualJoining),
  (0x08B9, .rightJoining), (0x08BA, .dualJoining), (0x08C9, .nonJoining),
  (0x08CA, .transparent), (0x08E2, .nonJoining), (0x08E3, .transparent),
  (0x0903, .nonJoining), (0x093A, .transparent), (0x093B, .nonJoining),
  (0x093C, .transparent), (0x093D, .nonJoining), (0x0941, .transparent),
  (0x0949, .nonJoining), (0x094D, .transparent), (0x094E, .nonJoining),
  (0x0951, .transparent), (0x0958, .nonJoining), (0x0962, .transparent),
  (0x0964, .nonJoining), (0x0981, .transparent), (0x0982, .nonJoining),
  (0x09BC, .transparent), (0x09BD, .nonJoining), (0x09C1, .transparent),
  (0x09C5, .nonJoining), (0x09CD, .transparent), (0x09CE, .nonJoining),
  (0x09E2, .transparent), (0x09E4, .nonJoining), (0x09FE, .transparent),
  (0x09FF, .nonJoining), (0x0A01, .transparent), (0x0A03, .nonJoining),
  (0x0A3C, .transparent), (0x0A3D, .nonJoining), (0x0A41, .transparent),
  (0x0A43, .nonJoining), (0x0A47, .transparent), (0x0A49, .nonJoining),
  (0x0A4B, .transparent), (0x0A4E, .nonJoining), (0x0A51, .transparent),
  (0x0A52, .nonJoining), (0x0A70, .transparent), (0x0A72, .nonJoining),
  (0x0A75, .transparent), (0x0A76, .nonJoining), (0x0A81, .transparent),
  (0x0A83, .nonJoining), (0x0ABC, .transparent), (0x0ABD, .nonJoining),
  (0x0AC1, .transparent), (0x0AC6, .nonJoining), (0x0AC7, .transparent),
  (0x0AC9, .nonJoining), (0x0ACD, .transparent), (0x0ACE, .nonJoining),
  (0x0AE2, .transparent), (0x0AE4, .nonJoining), (0x0AFA, .transparent),
  (0x0B00, .nonJoining), (0x0B01, .transparent), (0x0B02, .nonJoining),
  (0x0B3C, .transparent), (0x0B3D, .nonJoining), (0x0B3F, .transparent),
  (0x0B40, .nonJoining), (0x0B41, .transparent), (0x0B45, .nonJoining),
  (0x0B4D, .transparent), (0x0B4E, .nonJoining), (0x0B55, .transparent),
  (0x0B57, .nonJoining), (0x0B62, .transparent), (0x0B64, .nonJoining),
  (0x0B82, .transparent), (0x0B83, .nonJoining), (0x0BC0, .transparent),
  (0x0BC1, .nonJoining), (0x0BCD, .transparent), (0x0BCE, .nonJoining),
  (0x0C00, .transparent), (0x0C01, .nonJoining), (0x0C04, .transparent),
  (0x0C05, .nonJoining), (0x0C3C, .transparent), (0x0C3D, .nonJoining),
  (0x0C3E, .transparent), (0x0C41, .nonJoining), (0x0C46, .transparent),
  (0x0C49, .nonJoining), (0x0C4A, .transparent), (0x0C4E, .nonJoining),
  (0x0C55, .transparent), (0x0C57, .nonJoining), (0x0C62, .transparent),
  (0x0C64, .nonJoining), (0x0C81, .transparent), (0x0C82, .nonJoining),
  (0x0CBC, .transparent), (0x0CBD, .nonJoining), (0x0CBF, .transparent),
  (0x0CC0, .nonJoining), (0x0CC6, .transparent), (0x0CC7, .nonJoining),
  (0x0CCC, .transparent), (0x0CCE, .nonJoining), (0x0CE2, .transparent),
  (0x0CE4, .nonJoining), (0x0D00, .transparent), (0x0D02, .nonJoining),
  (0x0D3B, .transparent), (0x0D3D, .nonJoining), (0x0D41, .transparent),
  (0x0D45, .nonJoining), (0x0D4D, .transparent), (0x0D4E, .nonJoining),
  (0x0D62, .transparent), (0x0D64, .nonJoining), (0x0D81, .transparent),
  (0x0D82, .nonJoining), (0x0DCA, .transparent), (0x0DCB, .nonJoining),
  (0x0DD2, .transparent), (0x0DD5, .nonJoining), (0x0DD6, .transparent),
  (0x0DD7, .nonJoining), (0x0E31, .transparent), (0x0E32, .nonJoining),
  (0x0E34, .transparent), (0x0E3B, .nonJoining), (0x0E47, .transparent),
  (0x0E4F, .nonJoining), (0x0EB1, .transparent), (0x0EB2, .nonJoining),
  (0x0EB4, .transparent), (0x0EBD, .nonJoining), (0x0EC8, .transparent),
  (0x0ECF, .nonJoining), (0x0F18, .transparent), (0x0F1A, .nonJoining),
  (0x0F35, .transparent), (0x0F36, .nonJoining), (0x0F37, .transparent),
  (0x0F38, .nonJoining), (0x0F39, .transparent), (0x0F3A, .nonJoining),
  (0x0F71, .transparent), (0x0F7F, .nonJoining), (0x0F80, .transparent),
  (0x0F85, .nonJoining), (0x0F86, .transparent), (0x0F88, .nonJoining),
  (0x0F8D, .transparent), (0x0F98, .nonJoining), (0x0F99, .transparent),
  (0x0FBD, .nonJoining), (0x0FC6, .transparent), (0x0FC7, .nonJoining),
  (0x102D, .transparent), (0x1031, .nonJoining), (0x1032, .transparent),
  (0x1038, .nonJoining), (0x1039, .transparent), (0x103B, .nonJoining),
  (0x103D, .transparent), (0x103F, .nonJoining), (0x1058, .transparent),
  (0x105A, .nonJoining), (0x105E, .transparent), (0x1061, .nonJoining),
  (0x1071, .transparent), (0x1075, .nonJoining), (0x1082, .transparent),
  (0x1083, .nonJoining), (0x1085, .transparent), (0x1087, .nonJoining),
  (0x108D, .transparent), (0x108E, .nonJoining), (0x109D, .transparent),
  (0x109E, .nonJoining), (0x135D, .transparent), (0x1360, .nonJoining),
  (0x1712, .transparent), (0x1715, .nonJoining), (0x1732, .transparent),
  (0x1734, .nonJoining), (0x1752, .transparent), (0x1754, .nonJoining),
  (0x1772, .transparent), (0x1774, .nonJoining), (0x17B4, .transparent),
  (0x17B6, .nonJoining), (0x17B7, .transparent), (0x17BE, .nonJoining),
  (0x17C6, .transparent), (0x17C7, .nonJoining), (0x17C9, .transparent),
  (0x17D4, .nonJoining), (0x17DD, .transparent), (0x17DE, .nonJoining),
  (0x1807, .dualJoining), (0x1808, .nonJoining), (0x180A, .joinCausing),
  (0x180B, .transparent), (0x180E, .nonJoining), (0x180F, .transparent),
  (0x1810, .nonJoining), (0x1820, .dualJoining), (0x1879, .nonJoining),
  (0x1885, .transparent), (0x1887, .dualJoining), (0x18A9, .transparent),
  (0x18AA, .dualJoining), (0x18AB, .nonJoining), (0x1920, .transparent),
  (0x1923, .nonJoining), (0x1927, .transparent), (0x1929, .nonJoining),
  (0x1932, .transparent), (0x1933, .nonJoining), (0x1939, .transparent),
  (0x193C, .nonJoining), (0x1A17, .transparent), (0x1A19, .nonJoining),
  (0x1A1B, .transparent), (0x1A1C, .nonJoining), (0x1A56, .transparent),
  (0x1A57, .nonJoining), (0x1A58, .transparent), (0x1A5F, .nonJoining),
  (0x1A60, .transparent), (0x1A61, .nonJoining), (0x1A62, .transparent),
  (0x1A63, .nonJoining), (0x1A65, .transparent), (0x1A6D, .nonJoining),
  (0x1A73, .transparent), (0x1A7D, .nonJoining), (0x1A7F, .transparent),
  (0x1A80, .nonJoining), (0x1AB0, .transparent), (0x1ADE, .nonJoining),
  (0x1AE0, .transparent), (0x1AEC, .nonJoining), (0x1B00, .transparent),
  (0x1B04, .nonJoining), (0x1B34, .transparent), (0x1B35, .nonJoining),
  (0x1B36, .transparent)
]

/-- The steps of the joining type, part 2 of 3. -/
def joiningSteps1 : Array (Nat × JoiningType) := #[
  (0x1B3B, .nonJoining), (0x1B3C, .transparent), (0x1B3D, .nonJoining),
  (0x1B42, .transparent), (0x1B43, .nonJoining), (0x1B6B, .transparent),
  (0x1B74, .nonJoining), (0x1B80, .transparent), (0x1B82, .nonJoining),
  (0x1BA2, .transparent), (0x1BA6, .nonJoining), (0x1BA8, .transparent),
  (0x1BAA, .nonJoining), (0x1BAB, .transparent), (0x1BAE, .nonJoining),
  (0x1BE6, .transparent), (0x1BE7, .nonJoining), (0x1BE8, .transparent),
  (0x1BEA, .nonJoining), (0x1BED, .transparent), (0x1BEE, .nonJoining),
  (0x1BEF, .transparent), (0x1BF2, .nonJoining), (0x1C2C, .transparent),
  (0x1C34, .nonJoining), (0x1C36, .transparent), (0x1C38, .nonJoining),
  (0x1CD0, .transparent), (0x1CD3, .nonJoining), (0x1CD4, .transparent),
  (0x1CE1, .nonJoining), (0x1CE2, .transparent), (0x1CE9, .nonJoining),
  (0x1CED, .transparent), (0x1CEE, .nonJoining), (0x1CF4, .transparent),
  (0x1CF5, .nonJoining), (0x1CF8, .transparent), (0x1CFA, .nonJoining),
  (0x1DC0, .transparent), (0x1E00, .nonJoining), (0x200B, .transparent),
  (0x200C, .nonJoining), (0x200D, .joinCausing), (0x200E, .transparent),
  (0x2010, .nonJoining), (0x202A, .transparent), (0x202F, .nonJoining),
  (0x2060, .transparent), (0x2065, .nonJoining), (0x206A, .transparent),
  (0x2070, .nonJoining), (0x20D0, .transparent), (0x20F1, .nonJoining),
  (0x2CEF, .transparent), (0x2CF2, .nonJoining), (0x2D7F, .transparent),
  (0x2D80, .nonJoining), (0x2DE0, .transparent), (0x2E00, .nonJoining),
  (0x302A, .transparent), (0x302E, .nonJoining), (0x3099, .transparent),
  (0x309B, .nonJoining), (0xA66F, .transparent), (0xA673, .nonJoining),
  (0xA674, .transparent), (0xA67E, .nonJoining), (0xA69E, .transparent),
  (0xA6A0, .nonJoining), (0xA6F0, .transparent), (0xA6F2, .nonJoining),
  (0xA802, .transparent), (0xA803, .nonJoining), (0xA806, .transparent),
  (0xA807, .nonJoining), (0xA80B, .transparent), (0xA80C, .nonJoining),
  (0xA825, .transparent), (0xA827, .nonJoining), (0xA82C, .transparent),
  (0xA82D, .nonJoining), (0xA840, .dualJoining), (0xA872, .leftJoining),
  (0xA873, .nonJoining), (0xA8C4, .transparent), (0xA8C6, .nonJoining),
  (0xA8E0, .transparent), (0xA8F2, .nonJoining), (0xA8FF, .transparent),
  (0xA900, .nonJoining), (0xA926, .transparent), (0xA92E, .nonJoining),
  (0xA947, .transparent), (0xA952, .nonJoining), (0xA980, .transparent),
  (0xA983, .nonJoining), (0xA9B3, .transparent), (0xA9B4, .nonJoining),
  (0xA9B6, .transparent), (0xA9BA, .nonJoining), (0xA9BC, .transparent),
  (0xA9BE, .nonJoining), (0xA9E5, .transparent), (0xA9E6, .nonJoining),
  (0xAA29, .transparent), (0xAA2F, .nonJoining), (0xAA31, .transparent),
  (0xAA33, .nonJoining), (0xAA35, .transparent), (0xAA37, .nonJoining),
  (0xAA43, .transparent), (0xAA44, .nonJoining), (0xAA4C, .transparent),
  (0xAA4D, .nonJoining), (0xAA7C, .transparent), (0xAA7D, .nonJoining),
  (0xAAB0, .transparent), (0xAAB1, .nonJoining), (0xAAB2, .transparent),
  (0xAAB5, .nonJoining), (0xAAB7, .transparent), (0xAAB9, .nonJoining),
  (0xAABE, .transparent), (0xAAC0, .nonJoining), (0xAAC1, .transparent),
  (0xAAC2, .nonJoining), (0xAAEC, .transparent), (0xAAEE, .nonJoining),
  (0xAAF6, .transparent), (0xAAF7, .nonJoining), (0xABE5, .transparent),
  (0xABE6, .nonJoining), (0xABE8, .transparent), (0xABE9, .nonJoining),
  (0xABED, .transparent), (0xABEE, .nonJoining), (0xFB1E, .transparent),
  (0xFB1F, .nonJoining), (0xFE00, .transparent), (0xFE10, .nonJoining),
  (0xFE20, .transparent), (0xFE30, .nonJoining), (0xFEFF, .transparent),
  (0xFF00, .nonJoining), (0xFFF9, .transparent), (0xFFFC, .nonJoining),
  (0x101FD, .transparent), (0x101FE, .nonJoining), (0x102E0, .transparent),
  (0x102E1, .nonJoining), (0x10376, .transparent), (0x1037B, .nonJoining),
  (0x10A01, .transparent), (0x10A04, .nonJoining), (0x10A05, .transparent),
  (0x10A07, .nonJoining), (0x10A0C, .transparent), (0x10A10, .nonJoining),
  (0x10A38, .transparent), (0x10A3B, .nonJoining), (0x10A3F, .transparent),
  (0x10A40, .nonJoining), (0x10AC0, .dualJoining), (0x10AC5, .rightJoining),
  (0x10AC6, .nonJoining), (0x10AC7, .rightJoining), (0x10AC8, .nonJoining),
  (0x10AC9, .rightJoining), (0x10ACB, .nonJoining), (0x10ACD, .leftJoining),
  (0x10ACE, .rightJoining), (0x10AD3, .dualJoining), (0x10AD7, .leftJoining),
  (0x10AD8, .dualJoining), (0x10ADD, .rightJoining), (0x10ADE, .dualJoining),
  (0x10AE1, .rightJoining), (0x10AE2, .nonJoining), (0x10AE4, .rightJoining),
  (0x10AE5, .transparent), (0x10AE7, .nonJoining), (0x10AEB, .dualJoining),
  (0x10AEF, .rightJoining), (0x10AF0, .nonJoining), (0x10B80, .dualJoining),
  (0x10B81, .rightJoining), (0x10B82, .dualJoining), (0x10B83, .rightJoining),
  (0x10B86, .dualJoining), (0x10B89, .rightJoining), (0x10B8A, .dualJoining),
  (0x10B8C, .rightJoining), (0x10B8D, .dualJoining), (0x10B8E, .rightJoining),
  (0x10B90, .dualJoining), (0x10B91, .rightJoining), (0x10B92, .nonJoining),
  (0x10BA9, .rightJoining), (0x10BAD, .dualJoining), (0x10BAF, .nonJoining),
  (0x10D00, .leftJoining), (0x10D01, .dualJoining), (0x10D22, .rightJoining),
  (0x10D23, .dualJoining), (0x10D24, .transparent), (0x10D28, .nonJoining),
  (0x10D69, .transparent), (0x10D6E, .nonJoining), (0x10EAB, .transparent),
  (0x10EAD, .nonJoining), (0x10EC2, .rightJoining), (0x10EC3, .dualJoining),
  (0x10EC5, .nonJoining), (0x10EC6, .dualJoining), (0x10EC8, .nonJoining),
  (0x10EFA, .transparent), (0x10F00, .nonJoining), (0x10F30, .dualJoining),
  (0x10F33, .rightJoining), (0x10F34, .dualJoining), (0x10F45, .nonJoining),
  (0x10F46, .transparent), (0x10F51, .dualJoining), (0x10F54, .rightJoining),
  (0x10F55, .nonJoining), (0x10F70, .dualJoining), (0x10F74, .rightJoining),
  (0x10F76, .dualJoining), (0x10F82, .transparent), (0x10F86, .nonJoining),
  (0x10FB0, .dualJoining), (0x10FB1, .nonJoining), (0x10FB2, .dualJoining),
  (0x10FB4, .rightJoining), (0x10FB7, .nonJoining), (0x10FB8, .dualJoining),
  (0x10FB9, .rightJoining), (0x10FBB, .dualJoining), (0x10FBD, .rightJoining),
  (0x10FBE, .dualJoining), (0x10FC0, .nonJoining), (0x10FC1, .dualJoining),
  (0x10FC2, .rightJoining), (0x10FC4, .dualJoining), (0x10FC5, .nonJoining),
  (0x10FC9, .rightJoining), (0x10FCA, .dualJoining), (0x10FCB, .leftJoining),
  (0x10FCC, .nonJoining), (0x11001, .transparent), (0x11002, .nonJoining),
  (0x11038, .transparent), (0x11047, .nonJoining), (0x11070, .transparent),
  (0x11071, .nonJoining), (0x11073, .transparent), (0x11075, .nonJoining),
  (0x1107F, .transparent), (0x11082, .nonJoining), (0x110B3, .transparent),
  (0x110B7, .nonJoining), (0x110B9, .transparent), (0x110BB, .nonJoining),
  (0x110C2, .transparent), (0x110C3, .nonJoining), (0x11100, .transparent),
  (0x11103, .nonJoining), (0x11127, .transparent), (0x1112C, .nonJoining),
  (0x1112D, .transparent), (0x11135, .nonJoining), (0x11173, .transparent),
  (0x11174, .nonJoining), (0x11180, .transparent), (0x11182, .nonJoining),
  (0x111B6, .transparent), (0x111BF, .nonJoining), (0x111C9, .transparent),
  (0x111CD, .nonJoining), (0x111CF, .transparent), (0x111D0, .nonJoining),
  (0x1122F, .transparent), (0x11232, .nonJoining), (0x11234, .transparent),
  (0x11235, .nonJoining), (0x11236, .transparent), (0x11238, .nonJoining),
  (0x1123E, .transparent), (0x1123F, .nonJoining), (0x11241, .transparent),
  (0x11242, .nonJoining), (0x112DF, .transparent), (0x112E0, .nonJoining),
  (0x112E3, .transparent), (0x112EB, .nonJoining), (0x11300, .transparent),
  (0x11302, .nonJoining), (0x1133B, .transparent), (0x1133D, .nonJoining),
  (0x11340, .transparent), (0x11341, .nonJoining), (0x11366, .transparent),
  (0x1136D, .nonJoining), (0x11370, .transparent), (0x11375, .nonJoining),
  (0x113BB, .transparent), (0x113C1, .nonJoining), (0x113CE, .transparent),
  (0x113CF, .nonJoining), (0x113D0, .transparent), (0x113D1, .nonJoining),
  (0x113D2, .transparent), (0x113D3, .nonJoining), (0x113E1, .transparent),
  (0x113E3, .nonJoining), (0x11438, .transparent), (0x11440, .nonJoining),
  (0x11442, .transparent), (0x11445, .nonJoining), (0x11446, .transparent),
  (0x11447, .nonJoining), (0x1145E, .transparent), (0x1145F, .nonJoining),
  (0x114B3, .transparent), (0x114B9, .nonJoining), (0x114BA, .transparent),
  (0x114BB, .nonJoining), (0x114BF, .transparent), (0x114C1, .nonJoining),
  (0x114C2, .transparent), (0x114C4, .nonJoining), (0x115B2, .transparent),
  (0x115B6, .nonJoining), (0x115BC, .transparent), (0x115BE, .nonJoining),
  (0x115BF, .transparent), (0x115C1, .nonJoining), (0x115DC, .transparent),
  (0x115DE, .nonJoining), (0x11633, .transparent), (0x1163B, .nonJoining),
  (0x1163D, .transparent), (0x1163E, .nonJoining), (0x1163F, .transparent),
  (0x11641, .nonJoining), (0x116AB, .transparent), (0x116AC, .nonJoining),
  (0x116AD, .transparent), (0x116AE, .nonJoining), (0x116B0, .transparent),
  (0x116B6, .nonJoining), (0x116B7, .transparent), (0x116B8, .nonJoining),
  (0x1171D, .transparent), (0x1171E, .nonJoining), (0x1171F, .transparent),
  (0x11720, .nonJoining), (0x11722, .transparent), (0x11726, .nonJoining),
  (0x11727, .transparent), (0x1172C, .nonJoining), (0x1182F, .transparent),
  (0x11838, .nonJoining), (0x11839, .transparent), (0x1183B, .nonJoining),
  (0x1193B, .transparent), (0x1193D, .nonJoining), (0x1193E, .transparent),
  (0x1193F, .nonJoining), (0x11943, .transparent), (0x11944, .nonJoining),
  (0x119D4, .transparent), (0x119D8, .nonJoining), (0x119DA, .transparent),
  (0x119DC, .nonJoining), (0x119E0, .transparent), (0x119E1, .nonJoining),
  (0x11A01, .transparent), (0x11A0B, .nonJoining), (0x11A33, .transparent),
  (0x11A39, .nonJoining), (0x11A3B, .transparent), (0x11A3F, .nonJoining),
  (0x11A47, .transparent), (0x11A48, .nonJoining), (0x11A51, .transparent),
  (0x11A57, .nonJoining), (0x11A59, .transparent), (0x11A5C, .nonJoining),
  (0x11A8A, .transparent), (0x11A97, .nonJoining), (0x11A98, .transparent),
  (0x11A9A, .nonJoining), (0x11B60, .transparent), (0x11B61, .nonJoining),
  (0x11B62, .transparent), (0x11B65, .nonJoining), (0x11B66, .transparent),
  (0x11B67, .nonJoining)
]

/-- The steps of the joining type, part 3 of 3. -/
def joiningSteps2 : Array (Nat × JoiningType) := #[
  (0x11C30, .transparent), (0x11C37, .nonJoining), (0x11C38, .transparent),
  (0x11C3E, .nonJoining), (0x11C3F, .transparent), (0x11C40, .nonJoining),
  (0x11C92, .transparent), (0x11CA8, .nonJoining), (0x11CAA, .transparent),
  (0x11CB1, .nonJoining), (0x11CB2, .transparent), (0x11CB4, .nonJoining),
  (0x11CB5, .transparent), (0x11CB7, .nonJoining), (0x11D31, .transparent),
  (0x11D37, .nonJoining), (0x11D3A, .transparent), (0x11D3B, .nonJoining),
  (0x11D3C, .transparent), (0x11D3E, .nonJoining), (0x11D3F, .transparent),
  (0x11D46, .nonJoining), (0x11D47, .transparent), (0x11D48, .nonJoining),
  (0x11D90, .transparent), (0x11D92, .nonJoining), (0x11D95, .transparent),
  (0x11D96, .nonJoining), (0x11D97, .transparent), (0x11D98, .nonJoining),
  (0x11EF3, .transparent), (0x11EF5, .nonJoining), (0x11F00, .transparent),
  (0x11F02, .nonJoining), (0x11F36, .transparent), (0x11F3B, .nonJoining),
  (0x11F40, .transparent), (0x11F41, .nonJoining), (0x11F42, .transparent),
  (0x11F43, .nonJoining), (0x11F5A, .transparent), (0x11F5B, .nonJoining),
  (0x13430, .transparent), (0x13441, .nonJoining), (0x13447, .transparent),
  (0x13456, .nonJoining), (0x1611E, .transparent), (0x1612A, .nonJoining),
  (0x1612D, .transparent), (0x16130, .nonJoining), (0x16AF0, .transparent),
  (0x16AF5, .nonJoining), (0x16B30, .transparent), (0x16B37, .nonJoining),
  (0x16F4F, .transparent), (0x16F50, .nonJoining), (0x16F8F, .transparent),
  (0x16F93, .nonJoining), (0x16FE4, .transparent), (0x16FE5, .nonJoining),
  (0x1BC9D, .transparent), (0x1BC9F, .nonJoining), (0x1BCA0, .transparent),
  (0x1BCA4, .nonJoining), (0x1CF00, .transparent), (0x1CF2E, .nonJoining),
  (0x1CF30, .transparent), (0x1CF47, .nonJoining), (0x1D167, .transparent),
  (0x1D16A, .nonJoining), (0x1D173, .transparent), (0x1D183, .nonJoining),
  (0x1D185, .transparent), (0x1D18C, .nonJoining), (0x1D1AA, .transparent),
  (0x1D1AE, .nonJoining), (0x1D242, .transparent), (0x1D245, .nonJoining),
  (0x1DA00, .transparent), (0x1DA37, .nonJoining), (0x1DA3B, .transparent),
  (0x1DA6D, .nonJoining), (0x1DA75, .transparent), (0x1DA76, .nonJoining),
  (0x1DA84, .transparent), (0x1DA85, .nonJoining), (0x1DA9B, .transparent),
  (0x1DAA0, .nonJoining), (0x1DAA1, .transparent), (0x1DAB0, .nonJoining),
  (0x1E000, .transparent), (0x1E007, .nonJoining), (0x1E008, .transparent),
  (0x1E019, .nonJoining), (0x1E01B, .transparent), (0x1E022, .nonJoining),
  (0x1E023, .transparent), (0x1E025, .nonJoining), (0x1E026, .transparent),
  (0x1E02B, .nonJoining), (0x1E08F, .transparent), (0x1E090, .nonJoining),
  (0x1E130, .transparent), (0x1E137, .nonJoining), (0x1E2AE, .transparent),
  (0x1E2AF, .nonJoining), (0x1E2EC, .transparent), (0x1E2F0, .nonJoining),
  (0x1E4EC, .transparent), (0x1E4F0, .nonJoining), (0x1E5EE, .transparent),
  (0x1E5F0, .nonJoining), (0x1E6E3, .transparent), (0x1E6E4, .nonJoining),
  (0x1E6E6, .transparent), (0x1E6E7, .nonJoining), (0x1E6EE, .transparent),
  (0x1E6F0, .nonJoining), (0x1E6F5, .transparent), (0x1E6F6, .nonJoining),
  (0x1E8D0, .transparent), (0x1E8D7, .nonJoining), (0x1E900, .dualJoining),
  (0x1E944, .transparent), (0x1E94C, .nonJoining), (0xE0001, .transparent),
  (0xE0002, .nonJoining), (0xE0020, .transparent), (0xE0080, .nonJoining),
  (0xE0100, .transparent), (0xE01F0, .nonJoining)
]

/-- The joining type as a step function. -/
def joiningTypes : StepTable JoiningType := ⟨joiningSteps0 ++ joiningSteps1 ++ joiningSteps2, .nonJoining⟩

/-- The joining type of a character. -/
def joiningType (c : Char) : JoiningType := joiningTypes.get c.toNat

end InferRoute.Unicode
