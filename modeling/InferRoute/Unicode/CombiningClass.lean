import InferRoute.Text.RangeSet

/-!
The canonical combining class of each character: 0 for starters, and for the marks that attach
to a base a number that orders them when several follow one base (Canonical_Combining_Class,
Unicode Character Database version 17). Marks of different nonzero classes commute in canonical
order; the class 9 is that of the viramas.
-/

namespace InferRoute.Unicode

/-- The steps of the canonical combining class, part 1 of 2. -/
def combiningSteps0 : Array (Nat × Nat) := #[
  (0x0300, 230), (0x0315, 232), (0x0316, 220), (0x031A, 232), (0x031B, 216),
  (0x031C, 220), (0x0321, 202), (0x0323, 220), (0x0327, 202), (0x0329, 220),
  (0x0334, 1), (0x0339, 220), (0x033D, 230), (0x0345, 240), (0x0346, 230),
  (0x0347, 220), (0x034A, 230), (0x034D, 220), (0x034F, 0), (0x0350, 230),
  (0x0353, 220), (0x0357, 230), (0x0358, 232), (0x0359, 220), (0x035B, 230),
  (0x035C, 233), (0x035D, 234), (0x035F, 233), (0x0360, 234), (0x0362, 233),
  (0x0363, 230), (0x0370, 0), (0x0483, 230), (0x0488, 0), (0x0591, 220),
  (0x0592, 230), (0x0596, 220), (0x0597, 230), (0x059A, 222), (0x059B, 220),
  (0x059C, 230), (0x05A2, 220), (0x05A8, 230), (0x05AA, 220), (0x05AB, 230),
  (0x05AD, 222), (0x05AE, 228), (0x05AF, 230), (0x05B0, 10), (0x05B1, 11),
  (0x05B2, 12), (0x05B3, 13), (0x05B4, 14), (0x05B5, 15), (0x05B6, 16),
  (0x05B7, 17), (0x05B8, 18), (0x05B9, 19), (0x05BB, 20), (0x05BC, 21),
  (0x05BD, 22), (0x05BE, 0), (0x05BF, 23), (0x05C0, 0), (0x05C1, 24),
  (0x05C2, 25), (0x05C3, 0), (0x05C4, 230), (0x05C5, 220), (0x05C6, 0),
  (0x05C7, 18), (0x05C8, 0), (0x0610, 230), (0x0618, 30), (0x0619, 31),
  (0x061A, 32), (0x061B, 0), (0x064B, 27), (0x064C, 28), (0x064D, 29),
  (0x064E, 30), (0x064F, 31), (0x0650, 32), (0x0651, 33), (0x0652, 34),
  (0x0653, 230), (0x0655, 220), (0x0657, 230), (0x065C, 220), (0x065D, 230),
  (0x065F, 220), (0x0660, 0), (0x0670, 35), (0x0671, 0), (0x06D6, 230),
  (0x06DD, 0), (0x06DF, 230), (0x06E3, 220), (0x06E4, 230), (0x06E5, 0),
  (0x06E7, 230), (0x06E9, 0), (0x06EA, 220), (0x06EB, 230), (0x06ED, 220),
  (0x06EE, 0), (0x0711, 36), (0x0712, 0), (0x0730, 230), (0x0731, 220),
  (0x0732, 230), (0x0734, 220), (0x0735, 230), (0x0737, 220), (0x073A, 230),
  (0x073B, 220), (0x073D, 230), (0x073E, 220), (0x073F, 230), (0x0742, 220),
  (0x0743, 230), (0x0744, 220), (0x0745, 230), (0x0746, 220), (0x0747, 230),
  (0x0748, 220), (0x0749, 230), (0x074B, 0), (0x07EB, 230), (0x07F2, 220),
  (0x07F3, 230), (0x07F4, 0), (0x07FD, 220), (0x07FE, 0), (0x0816, 230),
  (0x081A, 0), (0x081B, 230), (0x0824, 0), (0x0825, 230), (0x0828, 0),
  (0x0829, 230), (0x082E, 0), (0x0859, 220), (0x085C, 0), (0x0897, 230),
  (0x0899, 220), (0x089C, 230), (0x08A0, 0), (0x08CA, 230), (0x08CF, 220),
  (0x08D4, 230), (0x08E2, 0), (0x08E3, 220), (0x08E4, 230), (0x08E6, 220),
  (0x08E7, 230), (0x08E9, 220), (0x08EA, 230), (0x08ED, 220), (0x08F0, 27),
  (0x08F1, 28), (0x08F2, 29), (0x08F3, 230), (0x08F6, 220), (0x08F7, 230),
  (0x08F9, 220), (0x08FB, 230), (0x0900, 0), (0x093C, 7), (0x093D, 0),
  (0x094D, 9), (0x094E, 0), (0x0951, 230), (0x0952, 220), (0x0953, 230),
  (0x0955, 0), (0x09BC, 7), (0x09BD, 0), (0x09CD, 9), (0x09CE, 0),
  (0x09FE, 230), (0x09FF, 0), (0x0A3C, 7), (0x0A3D, 0), (0x0A4D, 9),
  (0x0A4E, 0), (0x0ABC, 7), (0x0ABD, 0), (0x0ACD, 9), (0x0ACE, 0),
  (0x0B3C, 7), (0x0B3D, 0), (0x0B4D, 9), (0x0B4E, 0), (0x0BCD, 9),
  (0x0BCE, 0), (0x0C3C, 7), (0x0C3D, 0), (0x0C4D, 9), (0x0C4E, 0),
  (0x0C55, 84), (0x0C56, 91), (0x0C57, 0), (0x0CBC, 7), (0x0CBD, 0),
  (0x0CCD, 9), (0x0CCE, 0), (0x0D3B, 9), (0x0D3D, 0), (0x0D4D, 9),
  (0x0D4E, 0), (0x0DCA, 9), (0x0DCB, 0), (0x0E38, 103), (0x0E3A, 9),
  (0x0E3B, 0), (0x0E48, 107), (0x0E4C, 0), (0x0EB8, 118), (0x0EBA, 9),
  (0x0EBB, 0), (0x0EC8, 122), (0x0ECC, 0), (0x0F18, 220), (0x0F1A, 0),
  (0x0F35, 220), (0x0F36, 0), (0x0F37, 220), (0x0F38, 0), (0x0F39, 216),
  (0x0F3A, 0), (0x0F71, 129), (0x0F72, 130), (0x0F73, 0), (0x0F74, 132),
  (0x0F75, 0), (0x0F7A, 130), (0x0F7E, 0), (0x0F80, 130), (0x0F81, 0),
  (0x0F82, 230), (0x0F84, 9), (0x0F85, 0), (0x0F86, 230), (0x0F88, 0),
  (0x0FC6, 220), (0x0FC7, 0), (0x1037, 7), (0x1038, 0), (0x1039, 9),
  (0x103B, 0), (0x108D, 220), (0x108E, 0), (0x135D, 230), (0x1360, 0),
  (0x1714, 9), (0x1716, 0), (0x1734, 9), (0x1735, 0), (0x17D2, 9),
  (0x17D3, 0), (0x17DD, 230), (0x17DE, 0), (0x18A9, 228), (0x18AA, 0),
  (0x1939, 222), (0x193A, 230), (0x193B, 220), (0x193C, 0), (0x1A17, 230),
  (0x1A18, 220), (0x1A19, 0), (0x1A60, 9), (0x1A61, 0), (0x1A75, 230),
  (0x1A7D, 0), (0x1A7F, 220), (0x1A80, 0), (0x1AB0, 230), (0x1AB5, 220),
  (0x1ABB, 230), (0x1ABD, 220), (0x1ABE, 0), (0x1ABF, 220), (0x1AC1, 230),
  (0x1AC3, 220), (0x1AC5, 230), (0x1ACA, 220), (0x1ACB, 230), (0x1ADD, 220),
  (0x1ADE, 0), (0x1AE0, 230), (0x1AE6, 220), (0x1AE7, 230), (0x1AEB, 234),
  (0x1AEC, 0), (0x1B34, 7), (0x1B35, 0), (0x1B44, 9), (0x1B45, 0),
  (0x1B6B, 230), (0x1B6C, 220), (0x1B6D, 230), (0x1B74, 0), (0x1BAA, 9),
  (0x1BAC, 0), (0x1BE6, 7), (0x1BE7, 0), (0x1BF2, 9), (0x1BF4, 0),
  (0x1C37, 7), (0x1C38, 0), (0x1CD0, 230), (0x1CD3, 0), (0x1CD4, 1),
  (0x1CD5, 220), (0x1CDA, 230), (0x1CDC, 220), (0x1CE0, 230), (0x1CE1, 0),
  (0x1CE2, 1), (0x1CE9, 0), (0x1CED, 220), (0x1CEE, 0), (0x1CF4, 230),
  (0x1CF5, 0), (0x1CF8, 230), (0x1CFA, 0), (0x1DC0, 230), (0x1DC2, 220),
  (0x1DC3, 230), (0x1DCA, 220), (0x1DCB, 230), (0x1DCD, 234), (0x1DCE, 214),
  (0x1DCF, 220), (0x1DD0, 202), (0x1DD1, 230), (0x1DF6, 232), (0x1DF7, 228),
  (0x1DF9, 220), (0x1DFA, 218), (0x1DFB, 230), (0x1DFC, 233), (0x1DFD, 220),
  (0x1DFE, 230), (0x1DFF, 220), (0x1E00, 0), (0x20D0, 230), (0x20D2, 1),
  (0x20D4, 230), (0x20D8, 1), (0x20DB, 230), (0x20DD, 0), (0x20E1, 230),
  (0x20E2, 0), (0x20E5, 1), (0x20E7, 230), (0x20E8, 220), (0x20E9, 230),
  (0x20EA, 1), (0x20EC, 220), (0x20F0, 230), (0x20F1, 0), (0x2CEF, 230),
  (0x2CF2, 0), (0x2D7F, 9), (0x2D80, 0), (0x2DE0, 230), (0x2E00, 0),
  (0x302A, 218), (0x302B, 228), (0x302C, 232), (0x302D, 222), (0x302E, 224),
  (0x3030, 0), (0x3099, 8), (0x309B, 0), (0xA66F, 230), (0xA670, 0),
  (0xA674, 230), (0xA67E, 0), (0xA69E, 230), (0xA6A0, 0), (0xA6F0, 230),
  (0xA6F2, 0), (0xA806, 9), (0xA807, 0), (0xA82C, 9), (0xA82D, 0),
  (0xA8C4, 9), (0xA8C5, 0), (0xA8E0, 230), (0xA8F2, 0), (0xA92B, 220),
  (0xA92E, 0), (0xA953, 9), (0xA954, 0), (0xA9B3, 7), (0xA9B4, 0)
]

/-- The steps of the canonical combining class, part 2 of 2. -/
def combiningSteps1 : Array (Nat × Nat) := #[
  (0xA9C0, 9), (0xA9C1, 0), (0xAAB0, 230), (0xAAB1, 0), (0xAAB2, 230),
  (0xAAB4, 220), (0xAAB5, 0), (0xAAB7, 230), (0xAAB9, 0), (0xAABE, 230),
  (0xAAC0, 0), (0xAAC1, 230), (0xAAC2, 0), (0xAAF6, 9), (0xAAF7, 0),
  (0xABED, 9), (0xABEE, 0), (0xFB1E, 26), (0xFB1F, 0), (0xFE20, 230),
  (0xFE27, 220), (0xFE2E, 230), (0xFE30, 0), (0x101FD, 220), (0x101FE, 0),
  (0x102E0, 220), (0x102E1, 0), (0x10376, 230), (0x1037B, 0), (0x10A0D, 220),
  (0x10A0E, 0), (0x10A0F, 230), (0x10A10, 0), (0x10A38, 230), (0x10A39, 1),
  (0x10A3A, 220), (0x10A3B, 0), (0x10A3F, 9), (0x10A40, 0), (0x10AE5, 230),
  (0x10AE6, 220), (0x10AE7, 0), (0x10D24, 230), (0x10D28, 0), (0x10D69, 230),
  (0x10D6E, 0), (0x10EAB, 230), (0x10EAD, 0), (0x10EFA, 220), (0x10EFC, 0),
  (0x10EFD, 220), (0x10F00, 0), (0x10F46, 220), (0x10F48, 230), (0x10F4B, 220),
  (0x10F4C, 230), (0x10F4D, 220), (0x10F51, 0), (0x10F82, 230), (0x10F83, 220),
  (0x10F84, 230), (0x10F85, 220), (0x10F86, 0), (0x11046, 9), (0x11047, 0),
  (0x11070, 9), (0x11071, 0), (0x1107F, 9), (0x11080, 0), (0x110B9, 9),
  (0x110BA, 7), (0x110BB, 0), (0x11100, 230), (0x11103, 0), (0x11133, 9),
  (0x11135, 0), (0x11173, 7), (0x11174, 0), (0x111C0, 9), (0x111C1, 0),
  (0x111CA, 7), (0x111CB, 0), (0x11235, 9), (0x11236, 7), (0x11237, 0),
  (0x112E9, 7), (0x112EA, 9), (0x112EB, 0), (0x1133B, 7), (0x1133D, 0),
  (0x1134D, 9), (0x1134E, 0), (0x11366, 230), (0x1136D, 0), (0x11370, 230),
  (0x11375, 0), (0x113CE, 9), (0x113D1, 0), (0x11442, 9), (0x11443, 0),
  (0x11446, 7), (0x11447, 0), (0x1145E, 230), (0x1145F, 0), (0x114C2, 9),
  (0x114C3, 7), (0x114C4, 0), (0x115BF, 9), (0x115C0, 7), (0x115C1, 0),
  (0x1163F, 9), (0x11640, 0), (0x116B6, 9), (0x116B7, 7), (0x116B8, 0),
  (0x1172B, 9), (0x1172C, 0), (0x11839, 9), (0x1183A, 7), (0x1183B, 0),
  (0x1193D, 9), (0x1193F, 0), (0x11943, 7), (0x11944, 0), (0x119E0, 9),
  (0x119E1, 0), (0x11A34, 9), (0x11A35, 0), (0x11A47, 9), (0x11A48, 0),
  (0x11A99, 9), (0x11A9A, 0), (0x11C3F, 9), (0x11C40, 0), (0x11D42, 7),
  (0x11D43, 0), (0x11D44, 9), (0x11D46, 0), (0x11D97, 9), (0x11D98, 0),
  (0x11F41, 9), (0x11F43, 0), (0x1612F, 9), (0x16130, 0), (0x16AF0, 1),
  (0x16AF5, 0), (0x16B30, 230), (0x16B37, 0), (0x16FF0, 6), (0x16FF2, 0),
  (0x1BC9E, 1), (0x1BC9F, 0), (0x1D165, 216), (0x1D167, 1), (0x1D16A, 0),
  (0x1D16D, 226), (0x1D16E, 216), (0x1D173, 0), (0x1D17B, 220), (0x1D183, 0),
  (0x1D185, 230), (0x1D18A, 220), (0x1D18C, 0), (0x1D1AA, 230), (0x1D1AE, 0),
  (0x1D242, 230), (0x1D245, 0), (0x1E000, 230), (0x1E007, 0), (0x1E008, 230),
  (0x1E019, 0), (0x1E01B, 230), (0x1E022, 0), (0x1E023, 230), (0x1E025, 0),
  (0x1E026, 230), (0x1E02B, 0), (0x1E08F, 230), (0x1E090, 0), (0x1E130, 230),
  (0x1E137, 0), (0x1E2AE, 230), (0x1E2AF, 0), (0x1E2EC, 230), (0x1E2F0, 0),
  (0x1E4EC, 232), (0x1E4EE, 220), (0x1E4EF, 230), (0x1E4F0, 0), (0x1E5EE, 230),
  (0x1E5EF, 220), (0x1E5F0, 0), (0x1E6E3, 230), (0x1E6E4, 0), (0x1E6E6, 230),
  (0x1E6E7, 0), (0x1E6EE, 230), (0x1E6F0, 0), (0x1E6F5, 230), (0x1E6F6, 0),
  (0x1E8D0, 220), (0x1E8D7, 0), (0x1E944, 230), (0x1E94A, 7), (0x1E94B, 0)
]

/-- The canonical combining class as a step function: each entry starts a run of characters of
one class. -/
def combiningClasses : StepTable Nat := ⟨combiningSteps0 ++ combiningSteps1, 0⟩

/-- The canonical combining class of a character. -/
def combiningClass (c : Char) : Nat := combiningClasses.get c.toNat

/-- The combining class of the viramas, which a zero width joiner or non-joiner may follow. -/
def viramaClass : Nat := 9

end InferRoute.Unicode
