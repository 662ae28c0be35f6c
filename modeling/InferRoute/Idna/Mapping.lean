import InferRoute.Text.RangeSet

/-!
The IDNA mapping table (Unicode IDNA Compatibility Processing, version 17): for every code point,
whether a domain keeps it, drops it, refuses it, or replaces it by other text, mostly its lower
case or compatibility form. The table is as nontransitional processing reads it: the deviation
characters (sharp s, final sigma and the two zero width joiners) are kept, and the rules for
ASCII that are left to the caller do not appear. A run of code points each replaced by the
code point a fixed distance away shares one row.
-/

namespace InferRoute.Idna

/-- What the mapping step does with a code point. -/
inductive IdnaStatus where
  /-- Kept as it is. -/
  | valid
  /-- Dropped. -/
  | ignored
  /-- Refused: a domain holding it is in error. -/
  | disallowed
  /-- Replaced by the code points given. -/
  | mapped (text : List Nat)
  /-- Replaced by the single code point `offset` away. -/
  | shifted (offset : Int)
deriving Repr, DecidableEq, Inhabited

/-- The rows of the mapping table, part 1 of 16. -/
def mappingRows0 : Array (Nat × IdnaStatus) := #[
  (0x0000, .valid), (0x0041, .shifted 32), (0x005B, .valid),
  (0x0080, .disallowed), (0x00A0, .shifted (-128)), (0x00A1, .valid),
  (0x00A8, .mapped [0x0020, 0x0308]), (0x00A9, .valid), (0x00AA, .shifted (-73)),
  (0x00AB, .valid), (0x00AD, .ignored), (0x00AE, .valid),
  (0x00AF, .mapped [0x0020, 0x0304]), (0x00B0, .valid), (0x00B2, .shifted (-128)),
  (0x00B4, .mapped [0x0020, 0x0301]), (0x00B5, .shifted 775), (0x00B6, .valid),
  (0x00B8, .mapped [0x0020, 0x0327]), (0x00B9, .shifted (-136)), (0x00BA, .shifted (-75)),
  (0x00BB, .valid), (0x00BC, .mapped [0x0031, 0x2044, 0x0034]), (0x00BD, .mapped [0x0031, 0x2044, 0x0032]),
  (0x00BE, .mapped [0x0033, 0x2044, 0x0034]), (0x00BF, .valid), (0x00C0, .shifted 32),
  (0x00D7, .valid), (0x00D8, .shifted 32), (0x00DF, .valid),
  (0x0100, .shifted 1), (0x0101, .valid), (0x0102, .shifted 1),
  (0x0103, .valid), (0x0104, .shifted 1), (0x0105, .valid),
  (0x0106, .shifted 1), (0x0107, .valid), (0x0108, .shifted 1),
  (0x0109, .valid), (0x010A, .shifted 1), (0x010B, .valid),
  (0x010C, .shifted 1), (0x010D, .valid), (0x010E, .shifted 1),
  (0x010F, .valid), (0x0110, .shifted 1), (0x0111, .valid),
  (0x0112, .shifted 1), (0x0113, .valid), (0x0114, .shifted 1),
  (0x0115, .valid), (0x0116, .shifted 1), (0x0117, .valid),
  (0x0118, .shifted 1), (0x0119, .valid), (0x011A, .shifted 1),
  (0x011B, .valid), (0x011C, .shifted 1), (0x011D, .valid),
  (0x011E, .shifted 1), (0x011F, .valid), (0x0120, .shifted 1),
  (0x0121, .valid), (0x0122, .shifted 1), (0x0123, .valid),
  (0x0124, .shifted 1), (0x0125, .valid), (0x0126, .shifted 1),
  (0x0127, .valid), (0x0128, .shifted 1), (0x0129, .valid),
  (0x012A, .shifted 1), (0x012B, .valid), (0x012C, .shifted 1),
  (0x012D, .valid), (0x012E, .shifted 1), (0x012F, .valid),
  (0x0130, .mapped [0x0069, 0x0307]), (0x0131, .valid), (0x0132, .mapped [0x0069, 0x006A]),
  (0x0134, .shifted 1), (0x0135, .valid), (0x0136, .shifted 1),
  (0x0137, .valid), (0x0139, .shifted 1), (0x013A, .valid),
  (0x013B, .shifted 1), (0x013C, .valid), (0x013D, .shifted 1),
  (0x013E, .valid), (0x013F, .mapped [0x006C, 0x00B7]), (0x0141, .shifted 1),
  (0x0142, .valid), (0x0143, .shifted 1), (0x0144, .valid),
  (0x0145, .shifted 1), (0x0146, .valid), (0x0147, .shifted 1),
  (0x0148, .valid), (0x0149, .mapped [0x02BC, 0x006E]), (0x014A, .shifted 1),
  (0x014B, .valid), (0x014C, .shifted 1), (0x014D, .valid),
  (0x014E, .shifted 1), (0x014F, .valid), (0x0150, .shifted 1),
  (0x0151, .valid), (0x0152, .shifted 1), (0x0153, .valid),
  (0x0154, .shifted 1), (0x0155, .valid), (0x0156, .shifted 1),
  (0x0157, .valid), (0x0158, .shifted 1), (0x0159, .valid),
  (0x015A, .shifted 1), (0x015B, .valid), (0x015C, .shifted 1),
  (0x015D, .valid), (0x015E, .shifted 1), (0x015F, .valid),
  (0x0160, .shifted 1), (0x0161, .valid), (0x0162, .shifted 1),
  (0x0163, .valid), (0x0164, .shifted 1), (0x0165, .valid),
  (0x0166, .shifted 1), (0x0167, .valid), (0x0168, .shifted 1),
  (0x0169, .valid), (0x016A, .shifted 1), (0x016B, .valid),
  (0x016C, .shifted 1), (0x016D, .valid), (0x016E, .shifted 1),
  (0x016F, .valid), (0x0170, .shifted 1), (0x0171, .valid),
  (0x0172, .shifted 1), (0x0173, .valid), (0x0174, .shifted 1),
  (0x0175, .valid), (0x0176, .shifted 1), (0x0177, .valid),
  (0x0178, .shifted (-121)), (0x0179, .shifted 1), (0x017A, .valid),
  (0x017B, .shifted 1), (0x017C, .valid), (0x017D, .shifted 1),
  (0x017E, .valid), (0x017F, .shifted (-268)), (0x0180, .valid),
  (0x0181, .shifted 210), (0x0182, .shifted 1), (0x0183, .valid),
  (0x0184, .shifted 1), (0x0185, .valid), (0x0186, .shifted 206),
  (0x0187, .shifted 1), (0x0188, .valid), (0x0189, .shifted 205),
  (0x018B, .shifted 1), (0x018C, .valid), (0x018E, .shifted 79),
  (0x018F, .shifted 202), (0x0190, .shifted 203), (0x0191, .shifted 1),
  (0x0192, .valid), (0x0193, .shifted 205), (0x0194, .shifted 207),
  (0x0195, .valid), (0x0196, .shifted 211), (0x0197, .shifted 209),
  (0x0198, .shifted 1), (0x0199, .valid), (0x019C, .shifted 211),
  (0x019D, .shifted 213), (0x019E, .valid), (0x019F, .shifted 214),
  (0x01A0, .shifted 1), (0x01A1, .valid), (0x01A2, .shifted 1),
  (0x01A3, .valid), (0x01A4, .shifted 1), (0x01A5, .valid),
  (0x01A6, .shifted 218), (0x01A7, .shifted 1), (0x01A8, .valid),
  (0x01A9, .shifted 218), (0x01AA, .valid), (0x01AC, .shifted 1),
  (0x01AD, .valid), (0x01AE, .shifted 218), (0x01AF, .shifted 1),
  (0x01B0, .valid), (0x01B1, .shifted 217), (0x01B3, .shifted 1),
  (0x01B4, .valid), (0x01B5, .shifted 1), (0x01B6, .valid),
  (0x01B7, .shifted 219), (0x01B8, .shifted 1), (0x01B9, .valid),
  (0x01BC, .shifted 1), (0x01BD, .valid), (0x01C4, .mapped [0x0064, 0x017E]),
  (0x01C7, .mapped [0x006C, 0x006A]), (0x01CA, .mapped [0x006E, 0x006A]), (0x01CD, .shifted 1),
  (0x01CE, .valid), (0x01CF, .shifted 1), (0x01D0, .valid),
  (0x01D1, .shifted 1), (0x01D2, .valid), (0x01D3, .shifted 1),
  (0x01D4, .valid), (0x01D5, .shifted 1), (0x01D6, .valid),
  (0x01D7, .shifted 1), (0x01D8, .valid), (0x01D9, .shifted 1),
  (0x01DA, .valid), (0x01DB, .shifted 1), (0x01DC, .valid),
  (0x01DE, .shifted 1), (0x01DF, .valid), (0x01E0, .shifted 1),
  (0x01E1, .valid), (0x01E2, .shifted 1), (0x01E3, .valid),
  (0x01E4, .shifted 1), (0x01E5, .valid), (0x01E6, .shifted 1),
  (0x01E7, .valid), (0x01E8, .shifted 1), (0x01E9, .valid),
  (0x01EA, .shifted 1), (0x01EB, .valid), (0x01EC, .shifted 1),
  (0x01ED, .valid), (0x01EE, .shifted 1), (0x01EF, .valid),
  (0x01F1, .mapped [0x0064, 0x007A]), (0x01F4, .shifted 1), (0x01F5, .valid),
  (0x01F6, .shifted (-97)), (0x01F7, .shifted (-56)), (0x01F8, .shifted 1),
  (0x01F9, .valid), (0x01FA, .shifted 1), (0x01FB, .valid),
  (0x01FC, .shifted 1), (0x01FD, .valid), (0x01FE, .shifted 1),
  (0x01FF, .valid), (0x0200, .shifted 1), (0x0201, .valid),
  (0x0202, .shifted 1), (0x0203, .valid), (0x0204, .shifted 1),
  (0x0205, .valid), (0x0206, .shifted 1), (0x0207, .valid),
  (0x0208, .shifted 1), (0x0209, .valid), (0x020A, .shifted 1),
  (0x020B, .valid), (0x020C, .shifted 1), (0x020D, .valid),
  (0x020E, .shifted 1), (0x020F, .valid), (0x0210, .shifted 1),
  (0x0211, .valid), (0x0212, .shifted 1), (0x0213, .valid),
  (0x0214, .shifted 1), (0x0215, .valid), (0x0216, .shifted 1),
  (0x0217, .valid), (0x0218, .shifted 1), (0x0219, .valid),
  (0x021A, .shifted 1), (0x021B, .valid), (0x021C, .shifted 1),
  (0x021D, .valid), (0x021E, .shifted 1), (0x021F, .valid),
  (0x0220, .shifted (-130)), (0x0221, .valid), (0x0222, .shifted 1),
  (0x0223, .valid), (0x0224, .shifted 1), (0x0225, .valid),
  (0x0226, .shifted 1), (0x0227, .valid), (0x0228, .shifted 1),
  (0x0229, .valid), (0x022A, .shifted 1), (0x022B, .valid),
  (0x022C, .shifted 1), (0x022D, .valid), (0x022E, .shifted 1),
  (0x022F, .valid), (0x0230, .shifted 1), (0x0231, .valid),
  (0x0232, .shifted 1), (0x0233, .valid), (0x023A, .shifted 10795),
  (0x023B, .shifted 1), (0x023C, .valid), (0x023D, .shifted (-163)),
  (0x023E, .shifted 10792), (0x023F, .valid), (0x0241, .shifted 1),
  (0x0242, .valid), (0x0243, .shifted (-195)), (0x0244, .shifted 69),
  (0x0245, .shifted 71), (0x0246, .shifted 1), (0x0247, .valid),
  (0x0248, .shifted 1), (0x0249, .valid), (0x024A, .shifted 1),
  (0x024B, .valid), (0x024C, .shifted 1), (0x024D, .valid),
  (0x024E, .shifted 1), (0x024F, .valid), (0x02B0, .shifted (-584)),
  (0x02B1, .shifted (-75)), (0x02B2, .shifted (-584)), (0x02B3, .shifted (-577)),
  (0x02B4, .shifted (-59)), (0x02B5, .shifted (-58)), (0x02B6, .shifted (-53)),
  (0x02B7, .shifted (-576)), (0x02B8, .shifted (-575)), (0x02B9, .valid),
  (0x02D8, .mapped [0x0020, 0x0306]), (0x02D9, .mapped [0x0020, 0x0307]), (0x02DA, .mapped [0x0020, 0x030A]),
  (0x02DB, .mapped [0x0020, 0x0328]), (0x02DC, .mapped [0x0020, 0x0303]), (0x02DD, .mapped [0x0020, 0x030B]),
  (0x02DE, .valid), (0x02E0, .shifted (-125)), (0x02E1, .shifted (-629)),
  (0x02E2, .shifted (-623)), (0x02E3, .shifted (-619)), (0x02E4, .shifted (-79)),
  (0x02E5, .valid), (0x0340, .shifted (-64)), (0x0342, .valid),
  (0x0343, .shifted (-48)), (0x0344, .mapped [0x0308, 0x0301]), (0x0345, .shifted 116),
  (0x0346, .valid), (0x034F, .ignored), (0x0350, .valid),
  (0x0370, .shifted 1), (0x0371, .valid), (0x0372, .shifted 1),
  (0x0373, .valid), (0x0374, .shifted (-187)), (0x0375, .valid),
  (0x0376, .shifted 1), (0x0377, .valid), (0x0378, .disallowed),
  (0x037A, .mapped [0x0020, 0x03B9]), (0x037B, .valid), (0x037E, .shifted (-835)),
  (0x037F, .shifted 116), (0x0380, .disallowed), (0x0384, .mapped [0x0020, 0x0301]),
  (0x0385, .mapped [0x0020, 0x0308, 0x0301]), (0x0386, .shifted 38), (0x0387, .shifted (-720)),
  (0x0388, .shifted 37), (0x038B, .disallowed), (0x038C, .shifted 64),
  (0x038D, .disallowed), (0x038E, .shifted 63), (0x0390, .valid),
  (0x0391, .shifted 32), (0x03A2, .disallowed), (0x03A3, .shifted 32),
  (0x03AC, .valid), (0x03CF, .shifted 8), (0x03D0, .shifted (-30)),
  (0x03D1, .shifted (-25)), (0x03D2, .shifted (-13)), (0x03D3, .shifted (-6)),
  (0x03D4, .shifted (-9)), (0x03D5, .shifted (-15)), (0x03D6, .shifted (-22)),
  (0x03D7, .valid)
]

/-- The rows of the mapping table, part 2 of 16. -/
def mappingRows1 : Array (Nat × IdnaStatus) := #[
  (0x03D8, .shifted 1), (0x03D9, .valid), (0x03DA, .shifted 1),
  (0x03DB, .valid), (0x03DC, .shifted 1), (0x03DD, .valid),
  (0x03DE, .shifted 1), (0x03DF, .valid), (0x03E0, .shifted 1),
  (0x03E1, .valid), (0x03E2, .shifted 1), (0x03E3, .valid),
  (0x03E4, .shifted 1), (0x03E5, .valid), (0x03E6, .shifted 1),
  (0x03E7, .valid), (0x03E8, .shifted 1), (0x03E9, .valid),
  (0x03EA, .shifted 1), (0x03EB, .valid), (0x03EC, .shifted 1),
  (0x03ED, .valid), (0x03EE, .shifted 1), (0x03EF, .valid),
  (0x03F0, .shifted (-54)), (0x03F1, .shifted (-48)), (0x03F2, .shifted (-47)),
  (0x03F3, .valid), (0x03F4, .shifted (-60)), (0x03F5, .shifted (-64)),
  (0x03F6, .valid), (0x03F7, .shifted 1), (0x03F8, .valid),
  (0x03F9, .shifted (-54)), (0x03FA, .shifted 1), (0x03FB, .valid),
  (0x03FD, .shifted (-130)), (0x0400, .shifted 80), (0x0410, .shifted 32),
  (0x0430, .valid), (0x0460, .shifted 1), (0x0461, .valid),
  (0x0462, .shifted 1), (0x0463, .valid), (0x0464, .shifted 1),
  (0x0465, .valid), (0x0466, .shifted 1), (0x0467, .valid),
  (0x0468, .shifted 1), (0x0469, .valid), (0x046A, .shifted 1),
  (0x046B, .valid), (0x046C, .shifted 1), (0x046D, .valid),
  (0x046E, .shifted 1), (0x046F, .valid), (0x0470, .shifted 1),
  (0x0471, .valid), (0x0472, .shifted 1), (0x0473, .valid),
  (0x0474, .shifted 1), (0x0475, .valid), (0x0476, .shifted 1),
  (0x0477, .valid), (0x0478, .shifted 1), (0x0479, .valid),
  (0x047A, .shifted 1), (0x047B, .valid), (0x047C, .shifted 1),
  (0x047D, .valid), (0x047E, .shifted 1), (0x047F, .valid),
  (0x0480, .shifted 1), (0x0481, .valid), (0x048A, .shifted 1),
  (0x048B, .valid), (0x048C, .shifted 1), (0x048D, .valid),
  (0x048E, .shifted 1), (0x048F, .valid), (0x0490, .shifted 1),
  (0x0491, .valid), (0x0492, .shifted 1), (0x0493, .valid),
  (0x0494, .shifted 1), (0x0495, .valid), (0x0496, .shifted 1),
  (0x0497, .valid), (0x0498, .shifted 1), (0x0499, .valid),
  (0x049A, .shifted 1), (0x049B, .valid), (0x049C, .shifted 1),
  (0x049D, .valid), (0x049E, .shifted 1), (0x049F, .valid),
  (0x04A0, .shifted 1), (0x04A1, .valid), (0x04A2, .shifted 1),
  (0x04A3, .valid), (0x04A4, .shifted 1), (0x04A5, .valid),
  (0x04A6, .shifted 1), (0x04A7, .valid), (0x04A8, .shifted 1),
  (0x04A9, .valid), (0x04AA, .shifted 1), (0x04AB, .valid),
  (0x04AC, .shifted 1), (0x04AD, .valid), (0x04AE, .shifted 1),
  (0x04AF, .valid), (0x04B0, .shifted 1), (0x04B1, .valid),
  (0x04B2, .shifted 1), (0x04B3, .valid), (0x04B4, .shifted 1),
  (0x04B5, .valid), (0x04B6, .shifted 1), (0x04B7, .valid),
  (0x04B8, .shifted 1), (0x04B9, .valid), (0x04BA, .shifted 1),
  (0x04BB, .valid), (0x04BC, .shifted 1), (0x04BD, .valid),
  (0x04BE, .shifted 1), (0x04BF, .valid), (0x04C0, .shifted 15),
  (0x04C1, .shifted 1), (0x04C2, .valid), (0x04C3, .shifted 1),
  (0x04C4, .valid), (0x04C5, .shifted 1), (0x04C6, .valid),
  (0x04C7, .shifted 1), (0x04C8, .valid), (0x04C9, .shifted 1),
  (0x04CA, .valid), (0x04CB, .shifted 1), (0x04CC, .valid),
  (0x04CD, .shifted 1), (0x04CE, .valid), (0x04D0, .shifted 1),
  (0x04D1, .valid), (0x04D2, .shifted 1), (0x04D3, .valid),
  (0x04D4, .shifted 1), (0x04D5, .valid), (0x04D6, .shifted 1),
  (0x04D7, .valid), (0x04D8, .shifted 1), (0x04D9, .valid),
  (0x04DA, .shifted 1), (0x04DB, .valid), (0x04DC, .shifted 1),
  (0x04DD, .valid), (0x04DE, .shifted 1), (0x04DF, .valid),
  (0x04E0, .shifted 1), (0x04E1, .valid), (0x04E2, .shifted 1),
  (0x04E3, .valid), (0x04E4, .shifted 1), (0x04E5, .valid),
  (0x04E6, .shifted 1), (0x04E7, .valid), (0x04E8, .shifted 1),
  (0x04E9, .valid), (0x04EA, .shifted 1), (0x04EB, .valid),
  (0x04EC, .shifted 1), (0x04ED, .valid), (0x04EE, .shifted 1),
  (0x04EF, .valid), (0x04F0, .shifted 1), (0x04F1, .valid),
  (0x04F2, .shifted 1), (0x04F3, .valid), (0x04F4, .shifted 1),
  (0x04F5, .valid), (0x04F6, .shifted 1), (0x04F7, .valid),
  (0x04F8, .shifted 1), (0x04F9, .valid), (0x04FA, .shifted 1),
  (0x04FB, .valid), (0x04FC, .shifted 1), (0x04FD, .valid),
  (0x04FE, .shifted 1), (0x04FF, .valid), (0x0500, .shifted 1),
  (0x0501, .valid), (0x0502, .shifted 1), (0x0503, .valid),
  (0x0504, .shifted 1), (0x0505, .valid), (0x0506, .shifted 1),
  (0x0507, .valid), (0x0508, .shifted 1), (0x0509, .valid),
  (0x050A, .shifted 1), (0x050B, .valid), (0x050C, .shifted 1),
  (0x050D, .valid), (0x050E, .shifted 1), (0x050F, .valid),
  (0x0510, .shifted 1), (0x0511, .valid), (0x0512, .shifted 1),
  (0x0513, .valid), (0x0514, .shifted 1), (0x0515, .valid),
  (0x0516, .shifted 1), (0x0517, .valid), (0x0518, .shifted 1),
  (0x0519, .valid), (0x051A, .shifted 1), (0x051B, .valid),
  (0x051C, .shifted 1), (0x051D, .valid), (0x051E, .shifted 1),
  (0x051F, .valid), (0x0520, .shifted 1), (0x0521, .valid),
  (0x0522, .shifted 1), (0x0523, .valid), (0x0524, .shifted 1),
  (0x0525, .valid), (0x0526, .shifted 1), (0x0527, .valid),
  (0x0528, .shifted 1), (0x0529, .valid), (0x052A, .shifted 1),
  (0x052B, .valid), (0x052C, .shifted 1), (0x052D, .valid),
  (0x052E, .shifted 1), (0x052F, .valid), (0x0530, .disallowed),
  (0x0531, .shifted 48), (0x0557, .disallowed), (0x0559, .valid),
  (0x0587, .mapped [0x0565, 0x0582]), (0x0588, .valid), (0x058B, .disallowed),
  (0x058D, .valid), (0x0590, .disallowed), (0x0591, .valid),
  (0x05C8, .disallowed), (0x05D0, .valid), (0x05EB, .disallowed),
  (0x05EF, .valid), (0x05F5, .disallowed), (0x0606, .valid),
  (0x061C, .disallowed), (0x061D, .valid), (0x0675, .mapped [0x0627, 0x0674]),
  (0x0676, .mapped [0x0648, 0x0674]), (0x0677, .mapped [0x06C7, 0x0674]), (0x0678, .mapped [0x064A, 0x0674]),
  (0x0679, .valid), (0x06DD, .disallowed), (0x06DE, .valid),
  (0x070E, .disallowed), (0x0710, .valid), (0x074B, .disallowed),
  (0x074D, .valid), (0x07B2, .disallowed), (0x07C0, .valid),
  (0x07FB, .disallowed), (0x07FD, .valid), (0x082E, .disallowed),
  (0x0830, .valid), (0x083F, .disallowed), (0x0840, .valid),
  (0x085C, .disallowed), (0x085E, .valid), (0x085F, .disallowed),
  (0x0860, .valid), (0x086B, .disallowed), (0x0870, .valid),
  (0x0890, .disallowed), (0x0897, .valid), (0x08E2, .disallowed),
  (0x08E3, .valid), (0x0958, .mapped [0x0915, 0x093C]), (0x0959, .mapped [0x0916, 0x093C]),
  (0x095A, .mapped [0x0917, 0x093C]), (0x095B, .mapped [0x091C, 0x093C]), (0x095C, .mapped [0x0921, 0x093C]),
  (0x095D, .mapped [0x0922, 0x093C]), (0x095E, .mapped [0x092B, 0x093C]), (0x095F, .mapped [0x092F, 0x093C]),
  (0x0960, .valid), (0x0984, .disallowed), (0x0985, .valid),
  (0x098D, .disallowed), (0x098F, .valid), (0x0991, .disallowed),
  (0x0993, .valid), (0x09A9, .disallowed), (0x09AA, .valid),
  (0x09B1, .disallowed), (0x09B2, .valid), (0x09B3, .disallowed),
  (0x09B6, .valid), (0x09BA, .disallowed), (0x09BC, .valid),
  (0x09C5, .disallowed), (0x09C7, .valid), (0x09C9, .disallowed),
  (0x09CB, .valid), (0x09CF, .disallowed), (0x09D7, .valid),
  (0x09D8, .disallowed), (0x09DC, .mapped [0x09A1, 0x09BC]), (0x09DD, .mapped [0x09A2, 0x09BC]),
  (0x09DE, .disallowed), (0x09DF, .mapped [0x09AF, 0x09BC]), (0x09E0, .valid),
  (0x09E4, .disallowed), (0x09E6, .valid), (0x09FF, .disallowed),
  (0x0A01, .valid), (0x0A04, .disallowed), (0x0A05, .valid),
  (0x0A0B, .disallowed), (0x0A0F, .valid), (0x0A11, .disallowed),
  (0x0A13, .valid), (0x0A29, .disallowed), (0x0A2A, .valid),
  (0x0A31, .disallowed), (0x0A32, .valid), (0x0A33, .mapped [0x0A32, 0x0A3C]),
  (0x0A34, .disallowed), (0x0A35, .valid), (0x0A36, .mapped [0x0A38, 0x0A3C]),
  (0x0A37, .disallowed), (0x0A38, .valid), (0x0A3A, .disallowed),
  (0x0A3C, .valid), (0x0A3D, .disallowed), (0x0A3E, .valid),
  (0x0A43, .disallowed), (0x0A47, .valid), (0x0A49, .disallowed),
  (0x0A4B, .valid), (0x0A4E, .disallowed), (0x0A51, .valid),
  (0x0A52, .disallowed), (0x0A59, .mapped [0x0A16, 0x0A3C]), (0x0A5A, .mapped [0x0A17, 0x0A3C]),
  (0x0A5B, .mapped [0x0A1C, 0x0A3C]), (0x0A5C, .valid), (0x0A5D, .disallowed),
  (0x0A5E, .mapped [0x0A2B, 0x0A3C]), (0x0A5F, .disallowed), (0x0A66, .valid),
  (0x0A77, .disallowed), (0x0A81, .valid), (0x0A84, .disallowed),
  (0x0A85, .valid), (0x0A8E, .disallowed), (0x0A8F, .valid),
  (0x0A92, .disallowed), (0x0A93, .valid), (0x0AA9, .disallowed),
  (0x0AAA, .valid), (0x0AB1, .disallowed), (0x0AB2, .valid),
  (0x0AB4, .disallowed), (0x0AB5, .valid), (0x0ABA, .disallowed),
  (0x0ABC, .valid), (0x0AC6, .disallowed), (0x0AC7, .valid),
  (0x0ACA, .disallowed), (0x0ACB, .valid), (0x0ACE, .disallowed),
  (0x0AD0, .valid), (0x0AD1, .disallowed), (0x0AE0, .valid),
  (0x0AE4, .disallowed), (0x0AE6, .valid), (0x0AF2, .disallowed),
  (0x0AF9, .valid), (0x0B00, .disallowed), (0x0B01, .valid),
  (0x0B04, .disallowed), (0x0B05, .valid), (0x0B0D, .disallowed),
  (0x0B0F, .valid), (0x0B11, .disallowed), (0x0B13, .valid),
  (0x0B29, .disallowed), (0x0B2A, .valid), (0x0B31, .disallowed),
  (0x0B32, .valid)
]

/-- The rows of the mapping table, part 3 of 16. -/
def mappingRows2 : Array (Nat × IdnaStatus) := #[
  (0x0B34, .disallowed), (0x0B35, .valid), (0x0B3A, .disallowed),
  (0x0B3C, .valid), (0x0B45, .disallowed), (0x0B47, .valid),
  (0x0B49, .disallowed), (0x0B4B, .valid), (0x0B4E, .disallowed),
  (0x0B55, .valid), (0x0B58, .disallowed), (0x0B5C, .mapped [0x0B21, 0x0B3C]),
  (0x0B5D, .mapped [0x0B22, 0x0B3C]), (0x0B5E, .disallowed), (0x0B5F, .valid),
  (0x0B64, .disallowed), (0x0B66, .valid), (0x0B78, .disallowed),
  (0x0B82, .valid), (0x0B84, .disallowed), (0x0B85, .valid),
  (0x0B8B, .disallowed), (0x0B8E, .valid), (0x0B91, .disallowed),
  (0x0B92, .valid), (0x0B96, .disallowed), (0x0B99, .valid),
  (0x0B9B, .disallowed), (0x0B9C, .valid), (0x0B9D, .disallowed),
  (0x0B9E, .valid), (0x0BA0, .disallowed), (0x0BA3, .valid),
  (0x0BA5, .disallowed), (0x0BA8, .valid), (0x0BAB, .disallowed),
  (0x0BAE, .valid), (0x0BBA, .disallowed), (0x0BBE, .valid),
  (0x0BC3, .disallowed), (0x0BC6, .valid), (0x0BC9, .disallowed),
  (0x0BCA, .valid), (0x0BCE, .disallowed), (0x0BD0, .valid),
  (0x0BD1, .disallowed), (0x0BD7, .valid), (0x0BD8, .disallowed),
  (0x0BE6, .valid), (0x0BFB, .disallowed), (0x0C00, .valid),
  (0x0C0D, .disallowed), (0x0C0E, .valid), (0x0C11, .disallowed),
  (0x0C12, .valid), (0x0C29, .disallowed), (0x0C2A, .valid),
  (0x0C3A, .disallowed), (0x0C3C, .valid), (0x0C45, .disallowed),
  (0x0C46, .valid), (0x0C49, .disallowed), (0x0C4A, .valid),
  (0x0C4E, .disallowed), (0x0C55, .valid), (0x0C57, .disallowed),
  (0x0C58, .valid), (0x0C5B, .disallowed), (0x0C5C, .valid),
  (0x0C5E, .disallowed), (0x0C60, .valid), (0x0C64, .disallowed),
  (0x0C66, .valid), (0x0C70, .disallowed), (0x0C77, .valid),
  (0x0C8D, .disallowed), (0x0C8E, .valid), (0x0C91, .disallowed),
  (0x0C92, .valid), (0x0CA9, .disallowed), (0x0CAA, .valid),
  (0x0CB4, .disallowed), (0x0CB5, .valid), (0x0CBA, .disallowed),
  (0x0CBC, .valid), (0x0CC5, .disallowed), (0x0CC6, .valid),
  (0x0CC9, .disallowed), (0x0CCA, .valid), (0x0CCE, .disallowed),
  (0x0CD5, .valid), (0x0CD7, .disallowed), (0x0CDC, .valid),
  (0x0CDF, .disallowed), (0x0CE0, .valid), (0x0CE4, .disallowed),
  (0x0CE6, .valid), (0x0CF0, .disallowed), (0x0CF1, .valid),
  (0x0CF4, .disallowed), (0x0D00, .valid), (0x0D0D, .disallowed),
  (0x0D0E, .valid), (0x0D11, .disallowed), (0x0D12, .valid),
  (0x0D45, .disallowed), (0x0D46, .valid), (0x0D49, .disallowed),
  (0x0D4A, .valid), (0x0D50, .disallowed), (0x0D54, .valid),
  (0x0D64, .disallowed), (0x0D66, .valid), (0x0D80, .disallowed),
  (0x0D81, .valid), (0x0D84, .disallowed), (0x0D85, .valid),
  (0x0D97, .disallowed), (0x0D9A, .valid), (0x0DB2, .disallowed),
  (0x0DB3, .valid), (0x0DBC, .disallowed), (0x0DBD, .valid),
  (0x0DBE, .disallowed), (0x0DC0, .valid), (0x0DC7, .disallowed),
  (0x0DCA, .valid), (0x0DCB, .disallowed), (0x0DCF, .valid),
  (0x0DD5, .disallowed), (0x0DD6, .valid), (0x0DD7, .disallowed),
  (0x0DD8, .valid), (0x0DE0, .disallowed), (0x0DE6, .valid),
  (0x0DF0, .disallowed), (0x0DF2, .valid), (0x0DF5, .disallowed),
  (0x0E01, .valid), (0x0E33, .mapped [0x0E4D, 0x0E32]), (0x0E34, .valid),
  (0x0E3B, .disallowed), (0x0E3F, .valid), (0x0E5C, .disallowed),
  (0x0E81, .valid), (0x0E83, .disallowed), (0x0E84, .valid),
  (0x0E85, .disallowed), (0x0E86, .valid), (0x0E8B, .disallowed),
  (0x0E8C, .valid), (0x0EA4, .disallowed), (0x0EA5, .valid),
  (0x0EA6, .disallowed), (0x0EA7, .valid), (0x0EB3, .mapped [0x0ECD, 0x0EB2]),
  (0x0EB4, .valid), (0x0EBE, .disallowed), (0x0EC0, .valid),
  (0x0EC5, .disallowed), (0x0EC6, .valid), (0x0EC7, .disallowed),
  (0x0EC8, .valid), (0x0ECF, .disallowed), (0x0ED0, .valid),
  (0x0EDA, .disallowed), (0x0EDC, .mapped [0x0EAB, 0x0E99]), (0x0EDD, .mapped [0x0EAB, 0x0EA1]),
  (0x0EDE, .valid), (0x0EE0, .disallowed), (0x0F00, .valid),
  (0x0F0C, .shifted (-1)), (0x0F0D, .valid), (0x0F43, .mapped [0x0F42, 0x0FB7]),
  (0x0F44, .valid), (0x0F48, .disallowed), (0x0F49, .valid),
  (0x0F4D, .mapped [0x0F4C, 0x0FB7]), (0x0F4E, .valid), (0x0F52, .mapped [0x0F51, 0x0FB7]),
  (0x0F53, .valid), (0x0F57, .mapped [0x0F56, 0x0FB7]), (0x0F58, .valid),
  (0x0F5C, .mapped [0x0F5B, 0x0FB7]), (0x0F5D, .valid), (0x0F69, .mapped [0x0F40, 0x0FB5]),
  (0x0F6A, .valid), (0x0F6D, .disallowed), (0x0F71, .valid),
  (0x0F73, .mapped [0x0F71, 0x0F72]), (0x0F74, .valid), (0x0F75, .mapped [0x0F71, 0x0F74]),
  (0x0F76, .mapped [0x0FB2, 0x0F80]), (0x0F77, .mapped [0x0FB2, 0x0F71, 0x0F80]), (0x0F78, .mapped [0x0FB3, 0x0F80]),
  (0x0F79, .mapped [0x0FB3, 0x0F71, 0x0F80]), (0x0F7A, .valid), (0x0F81, .mapped [0x0F71, 0x0F80]),
  (0x0F82, .valid), (0x0F93, .mapped [0x0F92, 0x0FB7]), (0x0F94, .valid),
  (0x0F98, .disallowed), (0x0F99, .valid), (0x0F9D, .mapped [0x0F9C, 0x0FB7]),
  (0x0F9E, .valid), (0x0FA2, .mapped [0x0FA1, 0x0FB7]), (0x0FA3, .valid),
  (0x0FA7, .mapped [0x0FA6, 0x0FB7]), (0x0FA8, .valid), (0x0FAC, .mapped [0x0FAB, 0x0FB7]),
  (0x0FAD, .valid), (0x0FB9, .mapped [0x0F90, 0x0FB5]), (0x0FBA, .valid),
  (0x0FBD, .disallowed), (0x0FBE, .valid), (0x0FCD, .disallowed),
  (0x0FCE, .valid), (0x0FDB, .disallowed), (0x1000, .valid),
  (0x10A0, .shifted 7264), (0x10C6, .disallowed), (0x10C7, .shifted 7264),
  (0x10C8, .disallowed), (0x10CD, .shifted 7264), (0x10CE, .disallowed),
  (0x10D0, .valid), (0x10FC, .shifted (-32)), (0x10FD, .valid),
  (0x115F, .ignored), (0x1161, .valid), (0x1249, .disallowed),
  (0x124A, .valid), (0x124E, .disallowed), (0x1250, .valid),
  (0x1257, .disallowed), (0x1258, .valid), (0x1259, .disallowed),
  (0x125A, .valid), (0x125E, .disallowed), (0x1260, .valid),
  (0x1289, .disallowed), (0x128A, .valid), (0x128E, .disallowed),
  (0x1290, .valid), (0x12B1, .disallowed), (0x12B2, .valid),
  (0x12B6, .disallowed), (0x12B8, .valid), (0x12BF, .disallowed),
  (0x12C0, .valid), (0x12C1, .disallowed), (0x12C2, .valid),
  (0x12C6, .disallowed), (0x12C8, .valid), (0x12D7, .disallowed),
  (0x12D8, .valid), (0x1311, .disallowed), (0x1312, .valid),
  (0x1316, .disallowed), (0x1318, .valid), (0x135B, .disallowed),
  (0x135D, .valid), (0x137D, .disallowed), (0x1380, .valid),
  (0x139A, .disallowed), (0x13A0, .valid), (0x13F6, .disallowed),
  (0x13F8, .shifted (-8)), (0x13FE, .disallowed), (0x1400, .valid),
  (0x1680, .disallowed), (0x1681, .valid), (0x169D, .disallowed),
  (0x16A0, .valid), (0x16F9, .disallowed), (0x1700, .valid),
  (0x1716, .disallowed), (0x171F, .valid), (0x1737, .disallowed),
  (0x1740, .valid), (0x1754, .disallowed), (0x1760, .valid),
  (0x176D, .disallowed), (0x176E, .valid), (0x1771, .disallowed),
  (0x1772, .valid), (0x1774, .disallowed), (0x1780, .valid),
  (0x17B4, .ignored), (0x17B6, .valid), (0x17DE, .disallowed),
  (0x17E0, .valid), (0x17EA, .disallowed), (0x17F0, .valid),
  (0x17FA, .disallowed), (0x1800, .valid), (0x180B, .ignored),
  (0x1810, .valid), (0x181A, .disallowed), (0x1820, .valid),
  (0x1879, .disallowed), (0x1880, .valid), (0x18AB, .disallowed),
  (0x18B0, .valid), (0x18F6, .disallowed), (0x1900, .valid),
  (0x191F, .disallowed), (0x1920, .valid), (0x192C, .disallowed),
  (0x1930, .valid), (0x193C, .disallowed), (0x1940, .valid),
  (0x1941, .disallowed), (0x1944, .valid), (0x196E, .disallowed),
  (0x1970, .valid), (0x1975, .disallowed), (0x1980, .valid),
  (0x19AC, .disallowed), (0x19B0, .valid), (0x19CA, .disallowed),
  (0x19D0, .valid), (0x19DB, .disallowed), (0x19DE, .valid),
  (0x1A1C, .disallowed), (0x1A1E, .valid), (0x1A5F, .disallowed),
  (0x1A60, .valid), (0x1A7D, .disallowed), (0x1A7F, .valid),
  (0x1A8A, .disallowed), (0x1A90, .valid), (0x1A9A, .disallowed),
  (0x1AA0, .valid), (0x1AAE, .disallowed), (0x1AB0, .valid),
  (0x1ADE, .disallowed), (0x1AE0, .valid), (0x1AEC, .disallowed),
  (0x1B00, .valid), (0x1B4D, .disallowed), (0x1B4E, .valid),
  (0x1BF4, .disallowed), (0x1BFC, .valid), (0x1C38, .disallowed),
  (0x1C3B, .valid), (0x1C4A, .disallowed), (0x1C4D, .valid),
  (0x1C80, .shifted (-6222)), (0x1C81, .shifted (-6221)), (0x1C82, .shifted (-6212)),
  (0x1C83, .shifted (-6210)), (0x1C84, .mapped [0x0442]), (0x1C86, .shifted (-6204)),
  (0x1C87, .shifted (-6180)), (0x1C88, .shifted 35267), (0x1C89, .shifted 1),
  (0x1C8A, .valid), (0x1C8B, .disallowed), (0x1C90, .shifted (-3008)),
  (0x1CBB, .disallowed), (0x1CBD, .shifted (-3008)), (0x1CC0, .valid),
  (0x1CC8, .disallowed), (0x1CD0, .valid), (0x1CFB, .disallowed),
  (0x1D00, .valid), (0x1D2C, .shifted (-7371)), (0x1D2D, .shifted (-7239)),
  (0x1D2E, .shifted (-7372)), (0x1D2F, .valid), (0x1D30, .shifted (-7372)),
  (0x1D32, .shifted (-6997)), (0x1D33, .shifted (-7372)), (0x1D3B, .valid),
  (0x1D3C, .shifted (-7373)), (0x1D3D, .shifted (-6938)), (0x1D3E, .shifted (-7374)),
  (0x1D3F, .shifted (-7373)), (0x1D40, .shifted (-7372)), (0x1D42, .shifted (-7371)),
  (0x1D43, .shifted (-7394)), (0x1D44, .shifted (-6900)), (0x1D46, .shifted (-68)),
  (0x1D47, .shifted (-7397)), (0x1D48, .shifted (-7396)), (0x1D4A, .shifted (-6897)),
  (0x1D4B, .shifted (-6896)), (0x1D4D, .shifted (-7398)), (0x1D4E, .valid),
  (0x1D4F, .shifted (-7396)), (0x1D50, .shifted (-7395)), (0x1D51, .shifted (-7174)),
  (0x1D52, .shifted (-7395)), (0x1D53, .shifted (-6911)), (0x1D54, .shifted (-62)),
  (0x1D56, .shifted (-7398)), (0x1D57, .shifted (-7395)), (0x1D59, .shifted (-60)),
  (0x1D5A, .shifted (-6891))
]

/-- The rows of the mapping table, part 4 of 16. -/
def mappingRows3 : Array (Nat × IdnaStatus) := #[
  (0x1D5B, .shifted (-7397)), (0x1D5C, .shifted (-55)), (0x1D5D, .shifted (-6571)),
  (0x1D60, .shifted (-6554)), (0x1D62, .shifted (-7417)), (0x1D63, .shifted (-7409)),
  (0x1D64, .shifted (-7407)), (0x1D66, .shifted (-6580)), (0x1D68, .shifted (-6567)),
  (0x1D69, .shifted (-6563)), (0x1D6B, .valid), (0x1D78, .shifted (-6459)),
  (0x1D79, .valid), (0x1D9B, .shifted (-6985)), (0x1D9C, .shifted (-7481)),
  (0x1D9D, .shifted (-6984)), (0x1D9E, .shifted (-7342)), (0x1D9F, .shifted (-6979)),
  (0x1DA0, .shifted (-7482)), (0x1DA1, .shifted (-6978)), (0x1DA2, .shifted (-6977)),
  (0x1DA3, .shifted (-6974)), (0x1DA4, .shifted (-6972)), (0x1DA7, .shifted (-44)),
  (0x1DA8, .shifted (-6923)), (0x1DA9, .shifted (-6972)), (0x1DAA, .shifted (-37)),
  (0x1DAB, .shifted (-6924)), (0x1DAC, .shifted (-6971)), (0x1DAD, .shifted (-6973)),
  (0x1DAE, .shifted (-6972)), (0x1DB2, .shifted (-6970)), (0x1DB3, .shifted (-6961)),
  (0x1DB5, .shifted (-7178)), (0x1DB6, .shifted (-6957)), (0x1DB8, .shifted (-156)),
  (0x1DB9, .shifted (-6958)), (0x1DBB, .shifted (-7489)), (0x1DBC, .shifted (-6956)),
  (0x1DBF, .shifted (-6663)), (0x1DC0, .valid), (0x1E00, .shifted 1),
  (0x1E01, .valid), (0x1E02, .shifted 1), (0x1E03, .valid),
  (0x1E04, .shifted 1), (0x1E05, .valid), (0x1E06, .shifted 1),
  (0x1E07, .valid), (0x1E08, .shifted 1), (0x1E09, .valid),
  (0x1E0A, .shifted 1), (0x1E0B, .valid), (0x1E0C, .shifted 1),
  (0x1E0D, .valid), (0x1E0E, .shifted 1), (0x1E0F, .valid),
  (0x1E10, .shifted 1), (0x1E11, .valid), (0x1E12, .shifted 1),
  (0x1E13, .valid), (0x1E14, .shifted 1), (0x1E15, .valid),
  (0x1E16, .shifted 1), (0x1E17, .valid), (0x1E18, .shifted 1),
  (0x1E19, .valid), (0x1E1A, .shifted 1), (0x1E1B, .valid),
  (0x1E1C, .shifted 1), (0x1E1D, .valid), (0x1E1E, .shifted 1),
  (0x1E1F, .valid), (0x1E20, .shifted 1), (0x1E21, .valid),
  (0x1E22, .shifted 1), (0x1E23, .valid), (0x1E24, .shifted 1),
  (0x1E25, .valid), (0x1E26, .shifted 1), (0x1E27, .valid),
  (0x1E28, .shifted 1), (0x1E29, .valid), (0x1E2A, .shifted 1),
  (0x1E2B, .valid), (0x1E2C, .shifted 1), (0x1E2D, .valid),
  (0x1E2E, .shifted 1), (0x1E2F, .valid), (0x1E30, .shifted 1),
  (0x1E31, .valid), (0x1E32, .shifted 1), (0x1E33, .valid),
  (0x1E34, .shifted 1), (0x1E35, .valid), (0x1E36, .shifted 1),
  (0x1E37, .valid), (0x1E38, .shifted 1), (0x1E39, .valid),
  (0x1E3A, .shifted 1), (0x1E3B, .valid), (0x1E3C, .shifted 1),
  (0x1E3D, .valid), (0x1E3E, .shifted 1), (0x1E3F, .valid),
  (0x1E40, .shifted 1), (0x1E41, .valid), (0x1E42, .shifted 1),
  (0x1E43, .valid), (0x1E44, .shifted 1), (0x1E45, .valid),
  (0x1E46, .shifted 1), (0x1E47, .valid), (0x1E48, .shifted 1),
  (0x1E49, .valid), (0x1E4A, .shifted 1), (0x1E4B, .valid),
  (0x1E4C, .shifted 1), (0x1E4D, .valid), (0x1E4E, .shifted 1),
  (0x1E4F, .valid), (0x1E50, .shifted 1), (0x1E51, .valid),
  (0x1E52, .shifted 1), (0x1E53, .valid), (0x1E54, .shifted 1),
  (0x1E55, .valid), (0x1E56, .shifted 1), (0x1E57, .valid),
  (0x1E58, .shifted 1), (0x1E59, .valid), (0x1E5A, .shifted 1),
  (0x1E5B, .valid), (0x1E5C, .shifted 1), (0x1E5D, .valid),
  (0x1E5E, .shifted 1), (0x1E5F, .valid), (0x1E60, .shifted 1),
  (0x1E61, .valid), (0x1E62, .shifted 1), (0x1E63, .valid),
  (0x1E64, .shifted 1), (0x1E65, .valid), (0x1E66, .shifted 1),
  (0x1E67, .valid), (0x1E68, .shifted 1), (0x1E69, .valid),
  (0x1E6A, .shifted 1), (0x1E6B, .valid), (0x1E6C, .shifted 1),
  (0x1E6D, .valid), (0x1E6E, .shifted 1), (0x1E6F, .valid),
  (0x1E70, .shifted 1), (0x1E71, .valid), (0x1E72, .shifted 1),
  (0x1E73, .valid), (0x1E74, .shifted 1), (0x1E75, .valid),
  (0x1E76, .shifted 1), (0x1E77, .valid), (0x1E78, .shifted 1),
  (0x1E79, .valid), (0x1E7A, .shifted 1), (0x1E7B, .valid),
  (0x1E7C, .shifted 1), (0x1E7D, .valid), (0x1E7E, .shifted 1),
  (0x1E7F, .valid), (0x1E80, .shifted 1), (0x1E81, .valid),
  (0x1E82, .shifted 1), (0x1E83, .valid), (0x1E84, .shifted 1),
  (0x1E85, .valid), (0x1E86, .shifted 1), (0x1E87, .valid),
  (0x1E88, .shifted 1), (0x1E89, .valid), (0x1E8A, .shifted 1),
  (0x1E8B, .valid), (0x1E8C, .shifted 1), (0x1E8D, .valid),
  (0x1E8E, .shifted 1), (0x1E8F, .valid), (0x1E90, .shifted 1),
  (0x1E91, .valid), (0x1E92, .shifted 1), (0x1E93, .valid),
  (0x1E94, .shifted 1), (0x1E95, .valid), (0x1E9A, .mapped [0x0061, 0x02BE]),
  (0x1E9B, .shifted (-58)), (0x1E9C, .valid), (0x1E9E, .shifted (-7615)),
  (0x1E9F, .valid), (0x1EA0, .shifted 1), (0x1EA1, .valid),
  (0x1EA2, .shifted 1), (0x1EA3, .valid), (0x1EA4, .shifted 1),
  (0x1EA5, .valid), (0x1EA6, .shifted 1), (0x1EA7, .valid),
  (0x1EA8, .shifted 1), (0x1EA9, .valid), (0x1EAA, .shifted 1),
  (0x1EAB, .valid), (0x1EAC, .shifted 1), (0x1EAD, .valid),
  (0x1EAE, .shifted 1), (0x1EAF, .valid), (0x1EB0, .shifted 1),
  (0x1EB1, .valid), (0x1EB2, .shifted 1), (0x1EB3, .valid),
  (0x1EB4, .shifted 1), (0x1EB5, .valid), (0x1EB6, .shifted 1),
  (0x1EB7, .valid), (0x1EB8, .shifted 1), (0x1EB9, .valid),
  (0x1EBA, .shifted 1), (0x1EBB, .valid), (0x1EBC, .shifted 1),
  (0x1EBD, .valid), (0x1EBE, .shifted 1), (0x1EBF, .valid),
  (0x1EC0, .shifted 1), (0x1EC1, .valid), (0x1EC2, .shifted 1),
  (0x1EC3, .valid), (0x1EC4, .shifted 1), (0x1EC5, .valid),
  (0x1EC6, .shifted 1), (0x1EC7, .valid), (0x1EC8, .shifted 1),
  (0x1EC9, .valid), (0x1ECA, .shifted 1), (0x1ECB, .valid),
  (0x1ECC, .shifted 1), (0x1ECD, .valid), (0x1ECE, .shifted 1),
  (0x1ECF, .valid), (0x1ED0, .shifted 1), (0x1ED1, .valid),
  (0x1ED2, .shifted 1), (0x1ED3, .valid), (0x1ED4, .shifted 1),
  (0x1ED5, .valid), (0x1ED6, .shifted 1), (0x1ED7, .valid),
  (0x1ED8, .shifted 1), (0x1ED9, .valid), (0x1EDA, .shifted 1),
  (0x1EDB, .valid), (0x1EDC, .shifted 1), (0x1EDD, .valid),
  (0x1EDE, .shifted 1), (0x1EDF, .valid), (0x1EE0, .shifted 1),
  (0x1EE1, .valid), (0x1EE2, .shifted 1), (0x1EE3, .valid),
  (0x1EE4, .shifted 1), (0x1EE5, .valid), (0x1EE6, .shifted 1),
  (0x1EE7, .valid), (0x1EE8, .shifted 1), (0x1EE9, .valid),
  (0x1EEA, .shifted 1), (0x1EEB, .valid), (0x1EEC, .shifted 1),
  (0x1EED, .valid), (0x1EEE, .shifted 1), (0x1EEF, .valid),
  (0x1EF0, .shifted 1), (0x1EF1, .valid), (0x1EF2, .shifted 1),
  (0x1EF3, .valid), (0x1EF4, .shifted 1), (0x1EF5, .valid),
  (0x1EF6, .shifted 1), (0x1EF7, .valid), (0x1EF8, .shifted 1),
  (0x1EF9, .valid), (0x1EFA, .shifted 1), (0x1EFB, .valid),
  (0x1EFC, .shifted 1), (0x1EFD, .valid), (0x1EFE, .shifted 1),
  (0x1EFF, .valid), (0x1F08, .shifted (-8)), (0x1F10, .valid),
  (0x1F16, .disallowed), (0x1F18, .shifted (-8)), (0x1F1E, .disallowed),
  (0x1F20, .valid), (0x1F28, .shifted (-8)), (0x1F30, .valid),
  (0x1F38, .shifted (-8)), (0x1F40, .valid), (0x1F46, .disallowed),
  (0x1F48, .shifted (-8)), (0x1F4E, .disallowed), (0x1F50, .valid),
  (0x1F58, .disallowed), (0x1F59, .shifted (-8)), (0x1F5A, .disallowed),
  (0x1F5B, .shifted (-8)), (0x1F5C, .disallowed), (0x1F5D, .shifted (-8)),
  (0x1F5E, .disallowed), (0x1F5F, .shifted (-8)), (0x1F60, .valid),
  (0x1F68, .shifted (-8)), (0x1F70, .valid), (0x1F71, .shifted (-7109)),
  (0x1F72, .valid), (0x1F73, .shifted (-7110)), (0x1F74, .valid),
  (0x1F75, .shifted (-7111)), (0x1F76, .valid), (0x1F77, .shifted (-7112)),
  (0x1F78, .valid), (0x1F79, .shifted (-7085)), (0x1F7A, .valid),
  (0x1F7B, .shifted (-7086)), (0x1F7C, .valid), (0x1F7D, .shifted (-7087)),
  (0x1F7E, .disallowed), (0x1F80, .mapped [0x1F00, 0x03B9]), (0x1F81, .mapped [0x1F01, 0x03B9]),
  (0x1F82, .mapped [0x1F02, 0x03B9]), (0x1F83, .mapped [0x1F03, 0x03B9]), (0x1F84, .mapped [0x1F04, 0x03B9]),
  (0x1F85, .mapped [0x1F05, 0x03B9]), (0x1F86, .mapped [0x1F06, 0x03B9]), (0x1F87, .mapped [0x1F07, 0x03B9]),
  (0x1F88, .mapped [0x1F00, 0x03B9]), (0x1F89, .mapped [0x1F01, 0x03B9]), (0x1F8A, .mapped [0x1F02, 0x03B9]),
  (0x1F8B, .mapped [0x1F03, 0x03B9]), (0x1F8C, .mapped [0x1F04, 0x03B9]), (0x1F8D, .mapped [0x1F05, 0x03B9]),
  (0x1F8E, .mapped [0x1F06, 0x03B9]), (0x1F8F, .mapped [0x1F07, 0x03B9]), (0x1F90, .mapped [0x1F20, 0x03B9]),
  (0x1F91, .mapped [0x1F21, 0x03B9]), (0x1F92, .mapped [0x1F22, 0x03B9]), (0x1F93, .mapped [0x1F23, 0x03B9]),
  (0x1F94, .mapped [0x1F24, 0x03B9]), (0x1F95, .mapped [0x1F25, 0x03B9]), (0x1F96, .mapped [0x1F26, 0x03B9]),
  (0x1F97, .mapped [0x1F27, 0x03B9]), (0x1F98, .mapped [0x1F20, 0x03B9]), (0x1F99, .mapped [0x1F21, 0x03B9]),
  (0x1F9A, .mapped [0x1F22, 0x03B9]), (0x1F9B, .mapped [0x1F23, 0x03B9]), (0x1F9C, .mapped [0x1F24, 0x03B9]),
  (0x1F9D, .mapped [0x1F25, 0x03B9]), (0x1F9E, .mapped [0x1F26, 0x03B9]), (0x1F9F, .mapped [0x1F27, 0x03B9]),
  (0x1FA0, .mapped [0x1F60, 0x03B9]), (0x1FA1, .mapped [0x1F61, 0x03B9]), (0x1FA2, .mapped [0x1F62, 0x03B9]),
  (0x1FA3, .mapped [0x1F63, 0x03B9]), (0x1FA4, .mapped [0x1F64, 0x03B9]), (0x1FA5, .mapped [0x1F65, 0x03B9]),
  (0x1FA6, .mapped [0x1F66, 0x03B9]), (0x1FA7, .mapped [0x1F67, 0x03B9]), (0x1FA8, .mapped [0x1F60, 0x03B9]),
  (0x1FA9, .mapped [0x1F61, 0x03B9]), (0x1FAA, .mapped [0x1F62, 0x03B9]), (0x1FAB, .mapped [0x1F63, 0x03B9]),
  (0x1FAC, .mapped [0x1F64, 0x03B9]), (0x1FAD, .mapped [0x1F65, 0x03B9]), (0x1FAE, .mapped [0x1F66, 0x03B9]),
  (0x1FAF, .mapped [0x1F67, 0x03B9]), (0x1FB0, .valid), (0x1FB2, .mapped [0x1F70, 0x03B9]),
  (0x1FB3, .mapped [0x03B1, 0x03B9]), (0x1FB4, .mapped [0x03AC, 0x03B9]), (0x1FB5, .disallowed),
  (0x1FB6, .valid), (0x1FB7, .mapped [0x1FB6, 0x03B9]), (0x1FB8, .shifted (-8)),
  (0x1FBA, .shifted (-74)), (0x1FBB, .shifted (-7183)), (0x1FBC, .mapped [0x03B1, 0x03B9]),
  (0x1FBD, .mapped [0x0020, 0x0313]), (0x1FBE, .shifted (-7173)), (0x1FBF, .mapped [0x0020, 0x0313]),
  (0x1FC0, .mapped [0x0020, 0x0342]), (0x1FC1, .mapped [0x0020, 0x0308, 0x0342]), (0x1FC2, .mapped [0x1F74, 0x03B9]),
  (0x1FC3, .mapped [0x03B7, 0x03B9]), (0x1FC4, .mapped [0x03AE, 0x03B9]), (0x1FC5, .disallowed),
  (0x1FC6, .valid)
]

/-- The rows of the mapping table, part 5 of 16. -/
def mappingRows4 : Array (Nat × IdnaStatus) := #[
  (0x1FC7, .mapped [0x1FC6, 0x03B9]), (0x1FC8, .shifted (-86)), (0x1FC9, .shifted (-7196)),
  (0x1FCA, .shifted (-86)), (0x1FCB, .shifted (-7197)), (0x1FCC, .mapped [0x03B7, 0x03B9]),
  (0x1FCD, .mapped [0x0020, 0x0313, 0x0300]), (0x1FCE, .mapped [0x0020, 0x0313, 0x0301]), (0x1FCF, .mapped [0x0020, 0x0313, 0x0342]),
  (0x1FD0, .valid), (0x1FD3, .shifted (-7235)), (0x1FD4, .disallowed),
  (0x1FD6, .valid), (0x1FD8, .shifted (-8)), (0x1FDA, .shifted (-100)),
  (0x1FDB, .shifted (-7212)), (0x1FDC, .disallowed), (0x1FDD, .mapped [0x0020, 0x0314, 0x0300]),
  (0x1FDE, .mapped [0x0020, 0x0314, 0x0301]), (0x1FDF, .mapped [0x0020, 0x0314, 0x0342]), (0x1FE0, .valid),
  (0x1FE3, .shifted (-7219)), (0x1FE4, .valid), (0x1FE8, .shifted (-8)),
  (0x1FEA, .shifted (-112)), (0x1FEB, .shifted (-7198)), (0x1FEC, .shifted (-7)),
  (0x1FED, .mapped [0x0020, 0x0308, 0x0300]), (0x1FEE, .mapped [0x0020, 0x0308, 0x0301]), (0x1FEF, .shifted (-8079)),
  (0x1FF0, .disallowed), (0x1FF2, .mapped [0x1F7C, 0x03B9]), (0x1FF3, .mapped [0x03C9, 0x03B9]),
  (0x1FF4, .mapped [0x03CE, 0x03B9]), (0x1FF5, .disallowed), (0x1FF6, .valid),
  (0x1FF7, .mapped [0x1FF6, 0x03B9]), (0x1FF8, .shifted (-128)), (0x1FF9, .shifted (-7213)),
  (0x1FFA, .shifted (-126)), (0x1FFB, .shifted (-7213)), (0x1FFC, .mapped [0x03C9, 0x03B9]),
  (0x1FFD, .mapped [0x0020, 0x0301]), (0x1FFE, .mapped [0x0020, 0x0314]), (0x1FFF, .disallowed),
  (0x2000, .mapped [0x0020]), (0x200B, .ignored), (0x200C, .valid),
  (0x200E, .disallowed), (0x2010, .valid), (0x2011, .shifted (-1)),
  (0x2012, .valid), (0x2017, .mapped [0x0020, 0x0333]), (0x2018, .valid),
  (0x2024, .disallowed), (0x2027, .valid), (0x2028, .disallowed),
  (0x202F, .shifted (-8207)), (0x2030, .valid), (0x2033, .mapped [0x2032, 0x2032]),
  (0x2034, .mapped [0x2032, 0x2032, 0x2032]), (0x2035, .valid), (0x2036, .mapped [0x2035, 0x2035]),
  (0x2037, .mapped [0x2035, 0x2035, 0x2035]), (0x2038, .valid), (0x203C, .mapped [0x0021, 0x0021]),
  (0x203D, .valid), (0x203E, .mapped [0x0020, 0x0305]), (0x203F, .valid),
  (0x2047, .mapped [0x003F, 0x003F]), (0x2048, .mapped [0x003F, 0x0021]), (0x2049, .mapped [0x0021, 0x003F]),
  (0x204A, .valid), (0x2057, .mapped [0x2032, 0x2032, 0x2032, 0x2032]), (0x2058, .valid),
  (0x205F, .shifted (-8255)), (0x2060, .ignored), (0x2065, .disallowed),
  (0x206A, .ignored), (0x2070, .shifted (-8256)), (0x2071, .shifted (-8200)),
  (0x2072, .disallowed), (0x2074, .shifted (-8256)), (0x207A, .shifted (-8271)),
  (0x207B, .shifted 407), (0x207C, .shifted (-8255)), (0x207D, .shifted (-8277)),
  (0x207F, .shifted (-8209)), (0x2080, .shifted (-8272)), (0x208A, .shifted (-8287)),
  (0x208B, .shifted 391), (0x208C, .shifted (-8271)), (0x208D, .shifted (-8293)),
  (0x208F, .disallowed), (0x2090, .shifted (-8239)), (0x2091, .shifted (-8236)),
  (0x2092, .shifted (-8227)), (0x2093, .shifted (-8219)), (0x2094, .shifted (-7739)),
  (0x2095, .shifted (-8237)), (0x2096, .shifted (-8235)), (0x209A, .shifted (-8234)),
  (0x209B, .shifted (-8232)), (0x209D, .disallowed), (0x20A0, .valid),
  (0x20A8, .mapped [0x0072, 0x0073]), (0x20A9, .valid), (0x20C2, .disallowed),
  (0x20D0, .valid), (0x20F1, .disallowed), (0x2100, .mapped [0x0061, 0x002F, 0x0063]),
  (0x2101, .mapped [0x0061, 0x002F, 0x0073]), (0x2102, .shifted (-8351)), (0x2103, .mapped [0x00B0, 0x0063]),
  (0x2104, .valid), (0x2105, .mapped [0x0063, 0x002F, 0x006F]), (0x2106, .mapped [0x0063, 0x002F, 0x0075]),
  (0x2107, .shifted (-7852)), (0x2108, .valid), (0x2109, .mapped [0x00B0, 0x0066]),
  (0x210A, .shifted (-8355)), (0x210B, .mapped [0x0068]), (0x210F, .shifted (-8168)),
  (0x2110, .mapped [0x0069]), (0x2112, .mapped [0x006C]), (0x2114, .valid),
  (0x2115, .shifted (-8359)), (0x2116, .mapped [0x006E, 0x006F]), (0x2117, .valid),
  (0x2119, .shifted (-8361)), (0x211B, .mapped [0x0072]), (0x211E, .valid),
  (0x2120, .mapped [0x0073, 0x006D]), (0x2121, .mapped [0x0074, 0x0065, 0x006C]), (0x2122, .mapped [0x0074, 0x006D]),
  (0x2123, .valid), (0x2124, .shifted (-8362)), (0x2125, .valid),
  (0x2126, .shifted (-7517)), (0x2127, .valid), (0x2128, .shifted (-8366)),
  (0x2129, .valid), (0x212A, .shifted (-8383)), (0x212B, .shifted (-8262)),
  (0x212C, .shifted (-8394)), (0x212E, .valid), (0x212F, .mapped [0x0065]),
  (0x2131, .shifted (-8395)), (0x2132, .shifted 28), (0x2133, .shifted (-8390)),
  (0x2134, .shifted (-8389)), (0x2135, .shifted (-7013)), (0x2139, .shifted (-8400)),
  (0x213A, .valid), (0x213B, .mapped [0x0066, 0x0061, 0x0078]), (0x213C, .shifted (-7548)),
  (0x213D, .mapped [0x03B3]), (0x213F, .shifted (-7551)), (0x2140, .shifted 209),
  (0x2141, .valid), (0x2145, .mapped [0x0064]), (0x2147, .shifted (-8418)),
  (0x2148, .shifted (-8415)), (0x214A, .valid), (0x2150, .mapped [0x0031, 0x2044, 0x0037]),
  (0x2151, .mapped [0x0031, 0x2044, 0x0039]), (0x2152, .mapped [0x0031, 0x2044, 0x0031, 0x0030]), (0x2153, .mapped [0x0031, 0x2044, 0x0033]),
  (0x2154, .mapped [0x0032, 0x2044, 0x0033]), (0x2155, .mapped [0x0031, 0x2044, 0x0035]), (0x2156, .mapped [0x0032, 0x2044, 0x0035]),
  (0x2157, .mapped [0x0033, 0x2044, 0x0035]), (0x2158, .mapped [0x0034, 0x2044, 0x0035]), (0x2159, .mapped [0x0031, 0x2044, 0x0036]),
  (0x215A, .mapped [0x0035, 0x2044, 0x0036]), (0x215B, .mapped [0x0031, 0x2044, 0x0038]), (0x215C, .mapped [0x0033, 0x2044, 0x0038]),
  (0x215D, .mapped [0x0035, 0x2044, 0x0038]), (0x215E, .mapped [0x0037, 0x2044, 0x0038]), (0x215F, .mapped [0x0031, 0x2044]),
  (0x2160, .shifted (-8439)), (0x2161, .mapped [0x0069, 0x0069]), (0x2162, .mapped [0x0069, 0x0069, 0x0069]),
  (0x2163, .mapped [0x0069, 0x0076]), (0x2164, .shifted (-8430)), (0x2165, .mapped [0x0076, 0x0069]),
  (0x2166, .mapped [0x0076, 0x0069, 0x0069]), (0x2167, .mapped [0x0076, 0x0069, 0x0069, 0x0069]), (0x2168, .mapped [0x0069, 0x0078]),
  (0x2169, .shifted (-8433)), (0x216A, .mapped [0x0078, 0x0069]), (0x216B, .mapped [0x0078, 0x0069, 0x0069]),
  (0x216C, .shifted (-8448)), (0x216D, .shifted (-8458)), (0x216F, .shifted (-8450)),
  (0x2170, .shifted (-8455)), (0x2171, .mapped [0x0069, 0x0069]), (0x2172, .mapped [0x0069, 0x0069, 0x0069]),
  (0x2173, .mapped [0x0069, 0x0076]), (0x2174, .shifted (-8446)), (0x2175, .mapped [0x0076, 0x0069]),
  (0x2176, .mapped [0x0076, 0x0069, 0x0069]), (0x2177, .mapped [0x0076, 0x0069, 0x0069, 0x0069]), (0x2178, .mapped [0x0069, 0x0078]),
  (0x2179, .shifted (-8449)), (0x217A, .mapped [0x0078, 0x0069]), (0x217B, .mapped [0x0078, 0x0069, 0x0069]),
  (0x217C, .shifted (-8464)), (0x217D, .shifted (-8474)), (0x217F, .shifted (-8466)),
  (0x2180, .valid), (0x2183, .shifted 1), (0x2184, .valid),
  (0x2189, .mapped [0x0030, 0x2044, 0x0033]), (0x218A, .valid), (0x218C, .disallowed),
  (0x2190, .valid), (0x222C, .mapped [0x222B, 0x222B]), (0x222D, .mapped [0x222B, 0x222B, 0x222B]),
  (0x222E, .valid), (0x222F, .mapped [0x222E, 0x222E]), (0x2230, .mapped [0x222E, 0x222E, 0x222E]),
  (0x2231, .valid), (0x2329, .shifted 3295), (0x232B, .valid),
  (0x242A, .disallowed), (0x2440, .valid), (0x244B, .disallowed),
  (0x2460, .shifted (-9263)), (0x2469, .mapped [0x0031, 0x0030]), (0x246A, .mapped [0x0031, 0x0031]),
  (0x246B, .mapped [0x0031, 0x0032]), (0x246C, .mapped [0x0031, 0x0033]), (0x246D, .mapped [0x0031, 0x0034]),
  (0x246E, .mapped [0x0031, 0x0035]), (0x246F, .mapped [0x0031, 0x0036]), (0x2470, .mapped [0x0031, 0x0037]),
  (0x2471, .mapped [0x0031, 0x0038]), (0x2472, .mapped [0x0031, 0x0039]), (0x2473, .mapped [0x0032, 0x0030]),
  (0x2474, .mapped [0x0028, 0x0031, 0x0029]), (0x2475, .mapped [0x0028, 0x0032, 0x0029]), (0x2476, .mapped [0x0028, 0x0033, 0x0029]),
  (0x2477, .mapped [0x0028, 0x0034, 0x0029]), (0x2478, .mapped [0x0028, 0x0035, 0x0029]), (0x2479, .mapped [0x0028, 0x0036, 0x0029]),
  (0x247A, .mapped [0x0028, 0x0037, 0x0029]), (0x247B, .mapped [0x0028, 0x0038, 0x0029]), (0x247C, .mapped [0x0028, 0x0039, 0x0029]),
  (0x247D, .mapped [0x0028, 0x0031, 0x0030, 0x0029]), (0x247E, .mapped [0x0028, 0x0031, 0x0031, 0x0029]), (0x247F, .mapped [0x0028, 0x0031, 0x0032, 0x0029]),
  (0x2480, .mapped [0x0028, 0x0031, 0x0033, 0x0029]), (0x2481, .mapped [0x0028, 0x0031, 0x0034, 0x0029]), (0x2482, .mapped [0x0028, 0x0031, 0x0035, 0x0029]),
  (0x2483, .mapped [0x0028, 0x0031, 0x0036, 0x0029]), (0x2484, .mapped [0x0028, 0x0031, 0x0037, 0x0029]), (0x2485, .mapped [0x0028, 0x0031, 0x0038, 0x0029]),
  (0x2486, .mapped [0x0028, 0x0031, 0x0039, 0x0029]), (0x2487, .mapped [0x0028, 0x0032, 0x0030, 0x0029]), (0x2488, .disallowed),
  (0x249C, .mapped [0x0028, 0x0061, 0x0029]), (0x249D, .mapped [0x0028, 0x0062, 0x0029]), (0x249E, .mapped [0x0028, 0x0063, 0x0029]),
  (0x249F, .mapped [0x0028, 0x0064, 0x0029]), (0x24A0, .mapped [0x0028, 0x0065, 0x0029]), (0x24A1, .mapped [0x0028, 0x0066, 0x0029]),
  (0x24A2, .mapped [0x0028, 0x0067, 0x0029]), (0x24A3, .mapped [0x0028, 0x0068, 0x0029]), (0x24A4, .mapped [0x0028, 0x0069, 0x0029]),
  (0x24A5, .mapped [0x0028, 0x006A, 0x0029]), (0x24A6, .mapped [0x0028, 0x006B, 0x0029]), (0x24A7, .mapped [0x0028, 0x006C, 0x0029]),
  (0x24A8, .mapped [0x0028, 0x006D, 0x0029]), (0x24A9, .mapped [0x0028, 0x006E, 0x0029]), (0x24AA, .mapped [0x0028, 0x006F, 0x0029]),
  (0x24AB, .mapped [0x0028, 0x0070, 0x0029]), (0x24AC, .mapped [0x0028, 0x0071, 0x0029]), (0x24AD, .mapped [0x0028, 0x0072, 0x0029]),
  (0x24AE, .mapped [0x0028, 0x0073, 0x0029]), (0x24AF, .mapped [0x0028, 0x0074, 0x0029]), (0x24B0, .mapped [0x0028, 0x0075, 0x0029]),
  (0x24B1, .mapped [0x0028, 0x0076, 0x0029]), (0x24B2, .mapped [0x0028, 0x0077, 0x0029]), (0x24B3, .mapped [0x0028, 0x0078, 0x0029]),
  (0x24B4, .mapped [0x0028, 0x0079, 0x0029]), (0x24B5, .mapped [0x0028, 0x007A, 0x0029]), (0x24B6, .shifted (-9301)),
  (0x24D0, .shifted (-9327)), (0x24EA, .shifted (-9402)), (0x24EB, .valid),
  (0x2A0C, .mapped [0x222B, 0x222B, 0x222B, 0x222B]), (0x2A0D, .valid), (0x2A74, .mapped [0x003A, 0x003A, 0x003D]),
  (0x2A75, .mapped [0x003D, 0x003D]), (0x2A76, .mapped [0x003D, 0x003D, 0x003D]), (0x2A77, .valid),
  (0x2ADC, .mapped [0x2ADD, 0x0338]), (0x2ADD, .valid), (0x2B74, .disallowed),
  (0x2B76, .valid), (0x2C00, .shifted 48), (0x2C30, .valid),
  (0x2C60, .shifted 1), (0x2C61, .valid), (0x2C62, .shifted (-10743)),
  (0x2C63, .shifted (-3814)), (0x2C64, .shifted (-10727)), (0x2C65, .valid),
  (0x2C67, .shifted 1), (0x2C68, .valid), (0x2C69, .shifted 1),
  (0x2C6A, .valid), (0x2C6B, .shifted 1), (0x2C6C, .valid),
  (0x2C6D, .shifted (-10780)), (0x2C6E, .shifted (-10749)), (0x2C6F, .shifted (-10783)),
  (0x2C70, .shifted (-10782)), (0x2C71, .valid), (0x2C72, .shifted 1),
  (0x2C73, .valid), (0x2C75, .shifted 1), (0x2C76, .valid),
  (0x2C7C, .shifted (-11282)), (0x2C7D, .shifted (-11271)), (0x2C7E, .shifted (-10815)),
  (0x2C80, .shifted 1), (0x2C81, .valid), (0x2C82, .shifted 1),
  (0x2C83, .valid), (0x2C84, .shifted 1), (0x2C85, .valid),
  (0x2C86, .shifted 1), (0x2C87, .valid), (0x2C88, .shifted 1),
  (0x2C89, .valid), (0x2C8A, .shifted 1), (0x2C8B, .valid),
  (0x2C8C, .shifted 1), (0x2C8D, .valid), (0x2C8E, .shifted 1),
  (0x2C8F, .valid), (0x2C90, .shifted 1), (0x2C91, .valid),
  (0x2C92, .shifted 1), (0x2C93, .valid), (0x2C94, .shifted 1),
  (0x2C95, .valid), (0x2C96, .shifted 1), (0x2C97, .valid),
  (0x2C98, .shifted 1), (0x2C99, .valid), (0x2C9A, .shifted 1),
  (0x2C9B, .valid), (0x2C9C, .shifted 1), (0x2C9D, .valid),
  (0x2C9E, .shifted 1), (0x2C9F, .valid), (0x2CA0, .shifted 1),
  (0x2CA1, .valid), (0x2CA2, .shifted 1), (0x2CA3, .valid),
  (0x2CA4, .shifted 1), (0x2CA5, .valid), (0x2CA6, .shifted 1),
  (0x2CA7, .valid), (0x2CA8, .shifted 1), (0x2CA9, .valid),
  (0x2CAA, .shifted 1), (0x2CAB, .valid), (0x2CAC, .shifted 1),
  (0x2CAD, .valid), (0x2CAE, .shifted 1), (0x2CAF, .valid),
  (0x2CB0, .shifted 1), (0x2CB1, .valid), (0x2CB2, .shifted 1),
  (0x2CB3, .valid), (0x2CB4, .shifted 1), (0x2CB5, .valid),
  (0x2CB6, .shifted 1), (0x2CB7, .valid), (0x2CB8, .shifted 1),
  (0x2CB9, .valid), (0x2CBA, .shifted 1), (0x2CBB, .valid),
  (0x2CBC, .shifted 1), (0x2CBD, .valid), (0x2CBE, .shifted 1),
  (0x2CBF, .valid), (0x2CC0, .shifted 1), (0x2CC1, .valid),
  (0x2CC2, .shifted 1), (0x2CC3, .valid), (0x2CC4, .shifted 1),
  (0x2CC5, .valid), (0x2CC6, .shifted 1), (0x2CC7, .valid),
  (0x2CC8, .shifted 1)
]

/-- The rows of the mapping table, part 6 of 16. -/
def mappingRows5 : Array (Nat × IdnaStatus) := #[
  (0x2CC9, .valid), (0x2CCA, .shifted 1), (0x2CCB, .valid),
  (0x2CCC, .shifted 1), (0x2CCD, .valid), (0x2CCE, .shifted 1),
  (0x2CCF, .valid), (0x2CD0, .shifted 1), (0x2CD1, .valid),
  (0x2CD2, .shifted 1), (0x2CD3, .valid), (0x2CD4, .shifted 1),
  (0x2CD5, .valid), (0x2CD6, .shifted 1), (0x2CD7, .valid),
  (0x2CD8, .shifted 1), (0x2CD9, .valid), (0x2CDA, .shifted 1),
  (0x2CDB, .valid), (0x2CDC, .shifted 1), (0x2CDD, .valid),
  (0x2CDE, .shifted 1), (0x2CDF, .valid), (0x2CE0, .shifted 1),
  (0x2CE1, .valid), (0x2CE2, .shifted 1), (0x2CE3, .valid),
  (0x2CEB, .shifted 1), (0x2CEC, .valid), (0x2CED, .shifted 1),
  (0x2CEE, .valid), (0x2CF2, .shifted 1), (0x2CF3, .valid),
  (0x2CF4, .disallowed), (0x2CF9, .valid), (0x2D26, .disallowed),
  (0x2D27, .valid), (0x2D28, .disallowed), (0x2D2D, .valid),
  (0x2D2E, .disallowed), (0x2D30, .valid), (0x2D68, .disallowed),
  (0x2D6F, .shifted (-14)), (0x2D70, .valid), (0x2D71, .disallowed),
  (0x2D7F, .valid), (0x2D97, .disallowed), (0x2DA0, .valid),
  (0x2DA7, .disallowed), (0x2DA8, .valid), (0x2DAF, .disallowed),
  (0x2DB0, .valid), (0x2DB7, .disallowed), (0x2DB8, .valid),
  (0x2DBF, .disallowed), (0x2DC0, .valid), (0x2DC7, .disallowed),
  (0x2DC8, .valid), (0x2DCF, .disallowed), (0x2DD0, .valid),
  (0x2DD7, .disallowed), (0x2DD8, .valid), (0x2DDF, .disallowed),
  (0x2DE0, .valid), (0x2E5E, .disallowed), (0x2E80, .valid),
  (0x2E9A, .disallowed), (0x2E9B, .valid), (0x2E9F, .shifted 15662),
  (0x2EA0, .valid), (0x2EF3, .shifted 28844), (0x2EF4, .disallowed),
  (0x2F00, .shifted 7936), (0x2F01, .shifted 7975), (0x2F02, .shifted 7988),
  (0x2F03, .shifted 7996), (0x2F04, .shifted 8021), (0x2F05, .shifted 8064),
  (0x2F06, .shifted 8070), (0x2F07, .shifted 8089), (0x2F08, .shifted 8114),
  (0x2F09, .shifted 8758), (0x2F0A, .shifted 8795), (0x2F0B, .shifted 8800),
  (0x2F0C, .shifted 8822), (0x2F0D, .shifted 8841), (0x2F0E, .shifted 8861),
  (0x2F0F, .shifted 8913), (0x2F10, .shifted 8933), (0x2F11, .shifted 8943),
  (0x2F12, .shifted 9097), (0x2F13, .shifted 9190), (0x2F14, .shifted 9217),
  (0x2F15, .shifted 9221), (0x2F16, .shifted 9250), (0x2F17, .shifted 9258),
  (0x2F18, .shifted 9284), (0x2F19, .shifted 9296), (0x2F1A, .shifted 9320),
  (0x2F1B, .shifted 9371), (0x2F1C, .shifted 9388), (0x2F1D, .shifted 9414),
  (0x2F1E, .shifted 10169), (0x2F1F, .shifted 10240), (0x2F20, .shifted 10699),
  (0x2F21, .shifted 10721), (0x2F22, .shifted 10728), (0x2F23, .shifted 10738),
  (0x2F24, .shifted 10755), (0x2F25, .shifted 10830), (0x2F26, .shifted 11306),
  (0x2F27, .shifted 11353), (0x2F28, .shifted 11472), (0x2F29, .shifted 11494),
  (0x2F2A, .shifted 11512), (0x2F2B, .shifted 11533), (0x2F2C, .shifted 11586),
  (0x2F2D, .shifted 11588), (0x2F2E, .shifted 11949), (0x2F2F, .shifted 11958),
  (0x2F30, .shifted 11969), (0x2F31, .shifted 11981), (0x2F32, .shifted 12096),
  (0x2F33, .shifted 12103), (0x2F34, .shifted 12107), (0x2F35, .shifted 12223),
  (0x2F36, .shifted 12232), (0x2F37, .shifted 12244), (0x2F38, .shifted 12251),
  (0x2F39, .shifted 12311), (0x2F3A, .shifted 12327), (0x2F3B, .shifted 12344),
  (0x2F3C, .shifted 12423), (0x2F3D, .shifted 13003), (0x2F3E, .shifted 13048),
  (0x2F3F, .shifted 13068), (0x2F40, .shifted 13807), (0x2F41, .shifted 13811),
  (0x2F42, .shifted 13893), (0x2F43, .shifted 13908), (0x2F44, .shifted 13920),
  (0x2F45, .shifted 13940), (0x2F46, .shifted 13978), (0x2F47, .shifted 13982),
  (0x2F48, .shifted 14248), (0x2F49, .shifted 14271), (0x2F4A, .shifted 14302),
  (0x2F4B, .shifted 15317), (0x2F4C, .shifted 15382), (0x2F4D, .shifted 15404),
  (0x2F4E, .shifted 15461), (0x2F4F, .shifted 15484), (0x2F50, .shifted 15492),
  (0x2F51, .shifted 15498), (0x2F52, .shifted 15549), (0x2F53, .shifted 15553),
  (0x2F54, .shifted 15584), (0x2F55, .shifted 16662), (0x2F56, .shifted 17108),
  (0x2F57, .shifted 17119), (0x2F58, .shifted 17123), (0x2F59, .shifted 17126),
  (0x2F5A, .shifted 17133), (0x2F5B, .shifted 17150), (0x2F5C, .shifted 17151),
  (0x2F5D, .shifted 17231), (0x2F5E, .shifted 17446), (0x2F5F, .shifted 17450),
  (0x2F60, .shifted 17788), (0x2F61, .shifted 17797), (0x2F62, .shifted 17846),
  (0x2F63, .shifted 17852), (0x2F64, .shifted 17860), (0x2F65, .shifted 17867),
  (0x2F66, .shifted 17957), (0x2F67, .shifted 17963), (0x2F68, .shifted 18190),
  (0x2F69, .shifted 18196), (0x2F6A, .shifted 18244), (0x2F6B, .shifted 18260),
  (0x2F6C, .shifted 18306), (0x2F6D, .shifted 18542), (0x2F6E, .shifted 18548),
  (0x2F6F, .shifted 18564), (0x2F70, .shifted 18890), (0x2F71, .shifted 19015),
  (0x2F72, .shifted 19020), (0x2F73, .shifted 19201), (0x2F74, .shifted 19287),
  (0x2F75, .shifted 19332), (0x2F76, .shifted 19709), (0x2F77, .shifted 19841),
  (0x2F78, .shifted 20414), (0x2F79, .shifted 20440), (0x2F7A, .shifted 20496),
  (0x2F7B, .shifted 20546), (0x2F7C, .shifted 20613), (0x2F7D, .shifted 20623),
  (0x2F7E, .shifted 20628), (0x2F7F, .shifted 20660), (0x2F80, .shifted 20735),
  (0x2F81, .shifted 20744), (0x2F82, .shifted 21089), (0x2F83, .shifted 21095),
  (0x2F84, .shifted 21103), (0x2F85, .shifted 21111), (0x2F86, .shifted 21126),
  (0x2F87, .shifted 21140), (0x2F88, .shifted 21143), (0x2F89, .shifted 21221),
  (0x2F8A, .shifted 21224), (0x2F8B, .shifted 21229), (0x2F8C, .shifted 22209),
  (0x2F8D, .shifted 22238), (0x2F8E, .shifted 22706), (0x2F8F, .shifted 22717),
  (0x2F90, .shifted 22739), (0x2F91, .shifted 23021), (0x2F92, .shifted 23033),
  (0x2F93, .shifted 23103), (0x2F94, .shifted 23148), (0x2F95, .shifted 23714),
  (0x2F96, .shifted 23728), (0x2F97, .shifted 23742), (0x2F98, .shifted 23776),
  (0x2F99, .shifted 23812), (0x2F9A, .shifted 24010), (0x2F9B, .shifted 24021),
  (0x2F9C, .shifted 24087), (0x2F9D, .shifted 24334), (0x2F9E, .shifted 24364),
  (0x2F9F, .shifted 24572), (0x2FA0, .shifted 24592), (0x2FA1, .shifted 24596),
  (0x2FA2, .shifted 24815), (0x2FA3, .shifted 24998), (0x2FA4, .shifted 25122),
  (0x2FA5, .shifted 25127), (0x2FA6, .shifted 25131), (0x2FA7, .shifted 26064),
  (0x2FA8, .shifted 26072), (0x2FA9, .shifted 26227), (0x2FAA, .shifted 26380),
  (0x2FAB, .shifted 26382), (0x2FAC, .shifted 26428), (0x2FAD, .shifted 26532),
  (0x2FAE, .shifted 26544), (0x2FAF, .shifted 26547), (0x2FB0, .shifted 26553),
  (0x2FB1, .shifted 26650), (0x2FB2, .shifted 26683), (0x2FB3, .shifted 26688),
  (0x2FB4, .shifted 26701), (0x2FB5, .shifted 26867), (0x2FB6, .shifted 26917),
  (0x2FB7, .shifted 26920), (0x2FB8, .shifted 27102), (0x2FB9, .shifted 27104),
  (0x2FBA, .shifted 27122), (0x2FBB, .shifted 27373), (0x2FBC, .shifted 27420),
  (0x2FBD, .shifted 27426), (0x2FBE, .shifted 27495), (0x2FBF, .shifted 27504),
  (0x2FC0, .shifted 27506), (0x2FC1, .shifted 27515), (0x2FC2, .shifted 27544),
  (0x2FC3, .shifted 27938), (0x2FC4, .shifted 28337), (0x2FC5, .shifted 28346),
  (0x2FC6, .shifted 28383), (0x2FC7, .shifted 28404), (0x2FC8, .shifted 28411),
  (0x2FC9, .shifted 28420), (0x2FCA, .shifted 28423), (0x2FCB, .shifted 28462),
  (0x2FCC, .shifted 28465), (0x2FCD, .shifted 28481), (0x2FCE, .shifted 28485),
  (0x2FCF, .shifted 28497), (0x2FD0, .shifted 28523), (0x2FD1, .shifted 28537),
  (0x2FD2, .shifted 28544), (0x2FD3, .shifted 28602), (0x2FD4, .shifted 28616),
  (0x2FD5, .shifted 28619), (0x2FD6, .disallowed), (0x3000, .shifted (-12256)),
  (0x3001, .valid), (0x3002, .shifted (-12244)), (0x3003, .valid),
  (0x3036, .shifted (-36)), (0x3037, .valid), (0x3038, .shifted 8969),
  (0x3039, .shifted 8971), (0x303B, .valid), (0x3040, .disallowed),
  (0x3041, .valid), (0x3097, .disallowed), (0x3099, .valid),
  (0x309B, .mapped [0x0020, 0x3099]), (0x309C, .mapped [0x0020, 0x309A]), (0x309D, .valid),
  (0x309F, .mapped [0x3088, 0x308A]), (0x30A0, .valid), (0x30FF, .mapped [0x30B3, 0x30C8]),
  (0x3100, .disallowed), (0x3105, .valid), (0x3130, .disallowed),
  (0x3131, .shifted (-8241)), (0x3133, .shifted (-8073)), (0x3134, .shifted (-8242)),
  (0x3135, .shifted (-8073)), (0x3137, .shifted (-8244)), (0x313A, .shifted (-8074)),
  (0x3140, .shifted (-8230)), (0x3141, .shifted (-8251)), (0x3144, .shifted (-8227)),
  (0x3145, .shifted (-8252)), (0x314F, .shifted (-8174)), (0x3164, .ignored),
  (0x3165, .shifted (-8273)), (0x3167, .shifted (-8096)), (0x3169, .shifted (-8093)),
  (0x316A, .shifted (-8092)), (0x316B, .shifted (-8088)), (0x316C, .shifted (-8085)),
  (0x316D, .shifted (-8084)), (0x316E, .shifted (-8274)), (0x316F, .shifted (-8082)),
  (0x3170, .shifted (-8081)), (0x3171, .shifted (-8276)), (0x3173, .shifted (-8275)),
  (0x3174, .shifted (-8274)), (0x3176, .shifted (-8271)), (0x3177, .shifted (-8270)),
  (0x3178, .shifted (-8269)), (0x317D, .shifted (-8267)), (0x317E, .shifted (-8264)),
  (0x317F, .shifted (-8255)), (0x3180, .shifted (-8249)), (0x3181, .shifted (-8245)),
  (0x3182, .shifted (-8081)), (0x3184, .shifted (-8237)), (0x3187, .shifted (-8195)),
  (0x3189, .shifted (-8193)), (0x318A, .shifted (-8185)), (0x318C, .shifted (-8184)),
  (0x318D, .shifted (-8175)), (0x318E, .shifted (-8173)), (0x318F, .disallowed),
  (0x3190, .valid), (0x3192, .shifted 7278), (0x3193, .shifted 7417),
  (0x3194, .shifted 7285), (0x3195, .shifted 9542), (0x3196, .shifted 7284),
  (0x3197, .shifted 7318), (0x3198, .shifted 7283), (0x3199, .shifted 17305),
  (0x319A, .shifted 7359), (0x319B, .shifted 7294), (0x319C, .shifted 7269),
  (0x319D, .shifted 10124), (0x319E, .shifted 9618), (0x319F, .shifted 7451),
  (0x31A0, .valid), (0x31E6, .disallowed), (0x31F0, .valid),
  (0x3200, .mapped [0x0028, 0x1100, 0x0029]), (0x3201, .mapped [0x0028, 0x1102, 0x0029]), (0x3202, .mapped [0x0028, 0x1103, 0x0029]),
  (0x3203, .mapped [0x0028, 0x1105, 0x0029]), (0x3204, .mapped [0x0028, 0x1106, 0x0029]), (0x3205, .mapped [0x0028, 0x1107, 0x0029]),
  (0x3206, .mapped [0x0028, 0x1109, 0x0029]), (0x3207, .mapped [0x0028, 0x110B, 0x0029]), (0x3208, .mapped [0x0028, 0x110C, 0x0029]),
  (0x3209, .mapped [0x0028, 0x110E, 0x0029]), (0x320A, .mapped [0x0028, 0x110F, 0x0029]), (0x320B, .mapped [0x0028, 0x1110, 0x0029]),
  (0x320C, .mapped [0x0028, 0x1111, 0x0029]), (0x320D, .mapped [0x0028, 0x1112, 0x0029]), (0x320E, .mapped [0x0028, 0xAC00, 0x0029]),
  (0x320F, .mapped [0x0028, 0xB098, 0x0029]), (0x3210, .mapped [0x0028, 0xB2E4, 0x0029]), (0x3211, .mapped [0x0028, 0xB77C, 0x0029]),
  (0x3212, .mapped [0x0028, 0xB9C8, 0x0029]), (0x3213, .mapped [0x0028, 0xBC14, 0x0029]), (0x3214, .mapped [0x0028, 0xC0AC, 0x0029]),
  (0x3215, .mapped [0x0028, 0xC544, 0x0029]), (0x3216, .mapped [0x0028, 0xC790, 0x0029]), (0x3217, .mapped [0x0028, 0xCC28, 0x0029]),
  (0x3218, .mapped [0x0028, 0xCE74, 0x0029]), (0x3219, .mapped [0x0028, 0xD0C0, 0x0029]), (0x321A, .mapped [0x0028, 0xD30C, 0x0029]),
  (0x321B, .mapped [0x0028, 0xD558, 0x0029]), (0x321C, .mapped [0x0028, 0xC8FC, 0x0029]), (0x321D, .mapped [0x0028, 0xC624, 0xC804, 0x0029]),
  (0x321E, .mapped [0x0028, 0xC624, 0xD6C4, 0x0029])
]

/-- The rows of the mapping table, part 7 of 16. -/
def mappingRows6 : Array (Nat × IdnaStatus) := #[
  (0x321F, .disallowed), (0x3220, .mapped [0x0028, 0x4E00, 0x0029]), (0x3221, .mapped [0x0028, 0x4E8C, 0x0029]),
  (0x3222, .mapped [0x0028, 0x4E09, 0x0029]), (0x3223, .mapped [0x0028, 0x56DB, 0x0029]), (0x3224, .mapped [0x0028, 0x4E94, 0x0029]),
  (0x3225, .mapped [0x0028, 0x516D, 0x0029]), (0x3226, .mapped [0x0028, 0x4E03, 0x0029]), (0x3227, .mapped [0x0028, 0x516B, 0x0029]),
  (0x3228, .mapped [0x0028, 0x4E5D, 0x0029]), (0x3229, .mapped [0x0028, 0x5341, 0x0029]), (0x322A, .mapped [0x0028, 0x6708, 0x0029]),
  (0x322B, .mapped [0x0028, 0x706B, 0x0029]), (0x322C, .mapped [0x0028, 0x6C34, 0x0029]), (0x322D, .mapped [0x0028, 0x6728, 0x0029]),
  (0x322E, .mapped [0x0028, 0x91D1, 0x0029]), (0x322F, .mapped [0x0028, 0x571F, 0x0029]), (0x3230, .mapped [0x0028, 0x65E5, 0x0029]),
  (0x3231, .mapped [0x0028, 0x682A, 0x0029]), (0x3232, .mapped [0x0028, 0x6709, 0x0029]), (0x3233, .mapped [0x0028, 0x793E, 0x0029]),
  (0x3234, .mapped [0x0028, 0x540D, 0x0029]), (0x3235, .mapped [0x0028, 0x7279, 0x0029]), (0x3236, .mapped [0x0028, 0x8CA1, 0x0029]),
  (0x3237, .mapped [0x0028, 0x795D, 0x0029]), (0x3238, .mapped [0x0028, 0x52B4, 0x0029]), (0x3239, .mapped [0x0028, 0x4EE3, 0x0029]),
  (0x323A, .mapped [0x0028, 0x547C, 0x0029]), (0x323B, .mapped [0x0028, 0x5B66, 0x0029]), (0x323C, .mapped [0x0028, 0x76E3, 0x0029]),
  (0x323D, .mapped [0x0028, 0x4F01, 0x0029]), (0x323E, .mapped [0x0028, 0x8CC7, 0x0029]), (0x323F, .mapped [0x0028, 0x5354, 0x0029]),
  (0x3240, .mapped [0x0028, 0x796D, 0x0029]), (0x3241, .mapped [0x0028, 0x4F11, 0x0029]), (0x3242, .mapped [0x0028, 0x81EA, 0x0029]),
  (0x3243, .mapped [0x0028, 0x81F3, 0x0029]), (0x3244, .shifted 8971), (0x3245, .shifted 11319),
  (0x3246, .shifted 13121), (0x3247, .shifted 18760), (0x3248, .valid),
  (0x3250, .mapped [0x0070, 0x0074, 0x0065]), (0x3251, .mapped [0x0032, 0x0031]), (0x3252, .mapped [0x0032, 0x0032]),
  (0x3253, .mapped [0x0032, 0x0033]), (0x3254, .mapped [0x0032, 0x0034]), (0x3255, .mapped [0x0032, 0x0035]),
  (0x3256, .mapped [0x0032, 0x0036]), (0x3257, .mapped [0x0032, 0x0037]), (0x3258, .mapped [0x0032, 0x0038]),
  (0x3259, .mapped [0x0032, 0x0039]), (0x325A, .mapped [0x0033, 0x0030]), (0x325B, .mapped [0x0033, 0x0031]),
  (0x325C, .mapped [0x0033, 0x0032]), (0x325D, .mapped [0x0033, 0x0033]), (0x325E, .mapped [0x0033, 0x0034]),
  (0x325F, .mapped [0x0033, 0x0035]), (0x3260, .shifted (-8544)), (0x3261, .shifted (-8543)),
  (0x3263, .shifted (-8542)), (0x3266, .shifted (-8541)), (0x3267, .shifted (-8540)),
  (0x3269, .shifted (-8539)), (0x326E, .shifted 31122), (0x326F, .shifted 32297),
  (0x3270, .shifted 32884), (0x3271, .shifted 34059), (0x3272, .shifted 34646),
  (0x3273, .shifted 35233), (0x3274, .shifted 36408), (0x3275, .shifted 37583),
  (0x3276, .shifted 38170), (0x3277, .shifted 39345), (0x3278, .shifted 39932),
  (0x3279, .shifted 40519), (0x327A, .shifted 41106), (0x327B, .shifted 41693),
  (0x327C, .mapped [0xCC38, 0xACE0]), (0x327D, .mapped [0xC8FC, 0xC758]), (0x327E, .shifted 37938),
  (0x327F, .valid), (0x3280, .shifted 7040), (0x3281, .shifted 7179),
  (0x3282, .shifted 7047), (0x3283, .shifted 9304), (0x3284, .shifted 7184),
  (0x3285, .shifted 7912), (0x3286, .shifted 7037), (0x3287, .shifted 7908),
  (0x3288, .shifted 7125), (0x3289, .shifted 8376), (0x328A, .shifted 13438),
  (0x328B, .shifted 15840), (0x328C, .shifted 14760), (0x328D, .shifted 13467),
  (0x328E, .shifted 24387), (0x328F, .shifted 9360), (0x3290, .shifted 13141),
  (0x3291, .shifted 13721), (0x3292, .shifted 13431), (0x3293, .shifted 18091),
  (0x3294, .shifted 8569), (0x3295, .shifted 16356), (0x3296, .shifted 23051),
  (0x3297, .shifted 18118), (0x3298, .shifted 8220), (0x3299, .shifted 18239),
  (0x329A, .shifted 17053), (0x329B, .shifted 9944), (0x329C, .shifted 24013),
  (0x329D, .shifted 7821), (0x329E, .shifted 8402), (0x329F, .shifted 14921),
  (0x32A0, .shifted 25957), (0x32A1, .shifted 7280), (0x32A2, .shifted 7927),
  (0x32A3, .shifted 14528), (0x32A4, .shifted 7014), (0x32A5, .shifted 7048),
  (0x32A6, .shifted 7013), (0x32A7, .shifted 11071), (0x32A8, .shifted 8523),
  (0x32A9, .shifted 8338), (0x32AA, .shifted 10477), (0x32AB, .shifted 10427),
  (0x32AC, .shifted 17463), (0x32AD, .shifted 7252), (0x32AE, .shifted 23065),
  (0x32AF, .shifted 8357), (0x32B0, .shifted 9836), (0x32B1, .mapped [0x0033, 0x0036]),
  (0x32B2, .mapped [0x0033, 0x0037]), (0x32B3, .mapped [0x0033, 0x0038]), (0x32B4, .mapped [0x0033, 0x0039]),
  (0x32B5, .mapped [0x0034, 0x0030]), (0x32B6, .mapped [0x0034, 0x0031]), (0x32B7, .mapped [0x0034, 0x0032]),
  (0x32B8, .mapped [0x0034, 0x0033]), (0x32B9, .mapped [0x0034, 0x0034]), (0x32BA, .mapped [0x0034, 0x0035]),
  (0x32BB, .mapped [0x0034, 0x0036]), (0x32BC, .mapped [0x0034, 0x0037]), (0x32BD, .mapped [0x0034, 0x0038]),
  (0x32BE, .mapped [0x0034, 0x0039]), (0x32BF, .mapped [0x0035, 0x0030]), (0x32C0, .mapped [0x0031, 0x6708]),
  (0x32C1, .mapped [0x0032, 0x6708]), (0x32C2, .mapped [0x0033, 0x6708]), (0x32C3, .mapped [0x0034, 0x6708]),
  (0x32C4, .mapped [0x0035, 0x6708]), (0x32C5, .mapped [0x0036, 0x6708]), (0x32C6, .mapped [0x0037, 0x6708]),
  (0x32C7, .mapped [0x0038, 0x6708]), (0x32C8, .mapped [0x0039, 0x6708]), (0x32C9, .mapped [0x0031, 0x0030, 0x6708]),
  (0x32CA, .mapped [0x0031, 0x0031, 0x6708]), (0x32CB, .mapped [0x0031, 0x0032, 0x6708]), (0x32CC, .mapped [0x0068, 0x0067]),
  (0x32CD, .mapped [0x0065, 0x0072, 0x0067]), (0x32CE, .mapped [0x0065, 0x0076]), (0x32CF, .mapped [0x006C, 0x0074, 0x0064]),
  (0x32D0, .shifted (-558)), (0x32D1, .shifted (-557)), (0x32D2, .shifted (-556)),
  (0x32D3, .shifted (-555)), (0x32D4, .shifted (-554)), (0x32D6, .shifted (-553)),
  (0x32D7, .shifted (-552)), (0x32D8, .shifted (-551)), (0x32D9, .shifted (-550)),
  (0x32DA, .shifted (-549)), (0x32DB, .shifted (-548)), (0x32DC, .shifted (-547)),
  (0x32DD, .shifted (-546)), (0x32DE, .shifted (-545)), (0x32DF, .shifted (-544)),
  (0x32E0, .shifted (-543)), (0x32E1, .shifted (-541)), (0x32E2, .shifted (-540)),
  (0x32E3, .shifted (-539)), (0x32E4, .shifted (-538)), (0x32EA, .shifted (-536)),
  (0x32EB, .shifted (-534)), (0x32EC, .shifted (-532)), (0x32ED, .shifted (-530)),
  (0x32EE, .shifted (-528)), (0x32F3, .shifted (-527)), (0x32F4, .shifted (-526)),
  (0x32F5, .shifted (-525)), (0x32FB, .shifted (-524)), (0x32FF, .mapped [0x4EE4, 0x548C]),
  (0x3300, .mapped [0x30A2, 0x30D1, 0x30FC, 0x30C8]), (0x3301, .mapped [0x30A2, 0x30EB, 0x30D5, 0x30A1]), (0x3302, .mapped [0x30A2, 0x30F3, 0x30DA, 0x30A2]),
  (0x3303, .mapped [0x30A2, 0x30FC, 0x30EB]), (0x3304, .mapped [0x30A4, 0x30CB, 0x30F3, 0x30B0]), (0x3305, .mapped [0x30A4, 0x30F3, 0x30C1]),
  (0x3306, .mapped [0x30A6, 0x30A9, 0x30F3]), (0x3307, .mapped [0x30A8, 0x30B9, 0x30AF, 0x30FC, 0x30C9]), (0x3308, .mapped [0x30A8, 0x30FC, 0x30AB, 0x30FC]),
  (0x3309, .mapped [0x30AA, 0x30F3, 0x30B9]), (0x330A, .mapped [0x30AA, 0x30FC, 0x30E0]), (0x330B, .mapped [0x30AB, 0x30A4, 0x30EA]),
  (0x330C, .mapped [0x30AB, 0x30E9, 0x30C3, 0x30C8]), (0x330D, .mapped [0x30AB, 0x30ED, 0x30EA, 0x30FC]), (0x330E, .mapped [0x30AC, 0x30ED, 0x30F3]),
  (0x330F, .mapped [0x30AC, 0x30F3, 0x30DE]), (0x3310, .mapped [0x30AE, 0x30AC]), (0x3311, .mapped [0x30AE, 0x30CB, 0x30FC]),
  (0x3312, .mapped [0x30AD, 0x30E5, 0x30EA, 0x30FC]), (0x3313, .mapped [0x30AE, 0x30EB, 0x30C0, 0x30FC]), (0x3314, .mapped [0x30AD, 0x30ED]),
  (0x3315, .mapped [0x30AD, 0x30ED, 0x30B0, 0x30E9, 0x30E0]), (0x3316, .mapped [0x30AD, 0x30ED, 0x30E1, 0x30FC, 0x30C8, 0x30EB]), (0x3317, .mapped [0x30AD, 0x30ED, 0x30EF, 0x30C3, 0x30C8]),
  (0x3318, .mapped [0x30B0, 0x30E9, 0x30E0]), (0x3319, .mapped [0x30B0, 0x30E9, 0x30E0, 0x30C8, 0x30F3]), (0x331A, .mapped [0x30AF, 0x30EB, 0x30BC, 0x30A4, 0x30ED]),
  (0x331B, .mapped [0x30AF, 0x30ED, 0x30FC, 0x30CD]), (0x331C, .mapped [0x30B1, 0x30FC, 0x30B9]), (0x331D, .mapped [0x30B3, 0x30EB, 0x30CA]),
  (0x331E, .mapped [0x30B3, 0x30FC, 0x30DD]), (0x331F, .mapped [0x30B5, 0x30A4, 0x30AF, 0x30EB]), (0x3320, .mapped [0x30B5, 0x30F3, 0x30C1, 0x30FC, 0x30E0]),
  (0x3321, .mapped [0x30B7, 0x30EA, 0x30F3, 0x30B0]), (0x3322, .mapped [0x30BB, 0x30F3, 0x30C1]), (0x3323, .mapped [0x30BB, 0x30F3, 0x30C8]),
  (0x3324, .mapped [0x30C0, 0x30FC, 0x30B9]), (0x3325, .mapped [0x30C7, 0x30B7]), (0x3326, .mapped [0x30C9, 0x30EB]),
  (0x3327, .mapped [0x30C8, 0x30F3]), (0x3328, .mapped [0x30CA, 0x30CE]), (0x3329, .mapped [0x30CE, 0x30C3, 0x30C8]),
  (0x332A, .mapped [0x30CF, 0x30A4, 0x30C4]), (0x332B, .mapped [0x30D1, 0x30FC, 0x30BB, 0x30F3, 0x30C8]), (0x332C, .mapped [0x30D1, 0x30FC, 0x30C4]),
  (0x332D, .mapped [0x30D0, 0x30FC, 0x30EC, 0x30EB]), (0x332E, .mapped [0x30D4, 0x30A2, 0x30B9, 0x30C8, 0x30EB]), (0x332F, .mapped [0x30D4, 0x30AF, 0x30EB]),
  (0x3330, .mapped [0x30D4, 0x30B3]), (0x3331, .mapped [0x30D3, 0x30EB]), (0x3332, .mapped [0x30D5, 0x30A1, 0x30E9, 0x30C3, 0x30C9]),
  (0x3333, .mapped [0x30D5, 0x30A3, 0x30FC, 0x30C8]), (0x3334, .mapped [0x30D6, 0x30C3, 0x30B7, 0x30A7, 0x30EB]), (0x3335, .mapped [0x30D5, 0x30E9, 0x30F3]),
  (0x3336, .mapped [0x30D8, 0x30AF, 0x30BF, 0x30FC, 0x30EB]), (0x3337, .mapped [0x30DA, 0x30BD]), (0x3338, .mapped [0x30DA, 0x30CB, 0x30D2]),
  (0x3339, .mapped [0x30D8, 0x30EB, 0x30C4]), (0x333A, .mapped [0x30DA, 0x30F3, 0x30B9]), (0x333B, .mapped [0x30DA, 0x30FC, 0x30B8]),
  (0x333C, .mapped [0x30D9, 0x30FC, 0x30BF]), (0x333D, .mapped [0x30DD, 0x30A4, 0x30F3, 0x30C8]), (0x333E, .mapped [0x30DC, 0x30EB, 0x30C8]),
  (0x333F, .mapped [0x30DB, 0x30F3]), (0x3340, .mapped [0x30DD, 0x30F3, 0x30C9]), (0x3341, .mapped [0x30DB, 0x30FC, 0x30EB]),
  (0x3342, .mapped [0x30DB, 0x30FC, 0x30F3]), (0x3343, .mapped [0x30DE, 0x30A4, 0x30AF, 0x30ED]), (0x3344, .mapped [0x30DE, 0x30A4, 0x30EB]),
  (0x3345, .mapped [0x30DE, 0x30C3, 0x30CF]), (0x3346, .mapped [0x30DE, 0x30EB, 0x30AF]), (0x3347, .mapped [0x30DE, 0x30F3, 0x30B7, 0x30E7, 0x30F3]),
  (0x3348, .mapped [0x30DF, 0x30AF, 0x30ED, 0x30F3]), (0x3349, .mapped [0x30DF, 0x30EA]), (0x334A, .mapped [0x30DF, 0x30EA, 0x30D0, 0x30FC, 0x30EB]),
  (0x334B, .mapped [0x30E1, 0x30AC]), (0x334C, .mapped [0x30E1, 0x30AC, 0x30C8, 0x30F3]), (0x334D, .mapped [0x30E1, 0x30FC, 0x30C8, 0x30EB]),
  (0x334E, .mapped [0x30E4, 0x30FC, 0x30C9]), (0x334F, .mapped [0x30E4, 0x30FC, 0x30EB]), (0x3350, .mapped [0x30E6, 0x30A2, 0x30F3]),
  (0x3351, .mapped [0x30EA, 0x30C3, 0x30C8, 0x30EB]), (0x3352, .mapped [0x30EA, 0x30E9]), (0x3353, .mapped [0x30EB, 0x30D4, 0x30FC]),
  (0x3354, .mapped [0x30EB, 0x30FC, 0x30D6, 0x30EB]), (0x3355, .mapped [0x30EC, 0x30E0]), (0x3356, .mapped [0x30EC, 0x30F3, 0x30C8, 0x30B2, 0x30F3]),
  (0x3357, .mapped [0x30EF, 0x30C3, 0x30C8]), (0x3358, .mapped [0x0030, 0x70B9]), (0x3359, .mapped [0x0031, 0x70B9]),
  (0x335A, .mapped [0x0032, 0x70B9]), (0x335B, .mapped [0x0033, 0x70B9]), (0x335C, .mapped [0x0034, 0x70B9]),
  (0x335D, .mapped [0x0035, 0x70B9]), (0x335E, .mapped [0x0036, 0x70B9]), (0x335F, .mapped [0x0037, 0x70B9]),
  (0x3360, .mapped [0x0038, 0x70B9]), (0x3361, .mapped [0x0039, 0x70B9]), (0x3362, .mapped [0x0031, 0x0030, 0x70B9]),
  (0x3363, .mapped [0x0031, 0x0031, 0x70B9]), (0x3364, .mapped [0x0031, 0x0032, 0x70B9]), (0x3365, .mapped [0x0031, 0x0033, 0x70B9]),
  (0x3366, .mapped [0x0031, 0x0034, 0x70B9]), (0x3367, .mapped [0x0031, 0x0035, 0x70B9]), (0x3368, .mapped [0x0031, 0x0036, 0x70B9]),
  (0x3369, .mapped [0x0031, 0x0037, 0x70B9]), (0x336A, .mapped [0x0031, 0x0038, 0x70B9]), (0x336B, .mapped [0x0031, 0x0039, 0x70B9]),
  (0x336C, .mapped [0x0032, 0x0030, 0x70B9]), (0x336D, .mapped [0x0032, 0x0031, 0x70B9]), (0x336E, .mapped [0x0032, 0x0032, 0x70B9]),
  (0x336F, .mapped [0x0032, 0x0033, 0x70B9]), (0x3370, .mapped [0x0032, 0x0034, 0x70B9]), (0x3371, .mapped [0x0068, 0x0070, 0x0061]),
  (0x3372, .mapped [0x0064, 0x0061]), (0x3373, .mapped [0x0061, 0x0075]), (0x3374, .mapped [0x0062, 0x0061, 0x0072]),
  (0x3375, .mapped [0x006F, 0x0076]), (0x3376, .mapped [0x0070, 0x0063]), (0x3377, .mapped [0x0064, 0x006D]),
  (0x3378, .mapped [0x0064, 0x006D, 0x0032]), (0x3379, .mapped [0x0064, 0x006D, 0x0033]), (0x337A, .mapped [0x0069, 0x0075]),
  (0x337B, .mapped [0x5E73, 0x6210]), (0x337C, .mapped [0x662D, 0x548C]), (0x337D, .mapped [0x5927, 0x6B63]),
  (0x337E, .mapped [0x660E, 0x6CBB]), (0x337F, .mapped [0x682A, 0x5F0F, 0x4F1A, 0x793E]), (0x3380, .mapped [0x0070, 0x0061]),
  (0x3381, .mapped [0x006E, 0x0061]), (0x3382, .mapped [0x03BC, 0x0061]), (0x3383, .mapped [0x006D, 0x0061]),
  (0x3384, .mapped [0x006B, 0x0061]), (0x3385, .mapped [0x006B, 0x0062]), (0x3386, .mapped [0x006D, 0x0062]),
  (0x3387, .mapped [0x0067, 0x0062]), (0x3388, .mapped [0x0063, 0x0061, 0x006C]), (0x3389, .mapped [0x006B, 0x0063, 0x0061, 0x006C]),
  (0x338A, .mapped [0x0070, 0x0066]), (0x338B, .mapped [0x006E, 0x0066]), (0x338C, .mapped [0x03BC, 0x0066]),
  (0x338D, .mapped [0x03BC, 0x0067]), (0x338E, .mapped [0x006D, 0x0067]), (0x338F, .mapped [0x006B, 0x0067]),
  (0x3390, .mapped [0x0068, 0x007A]), (0x3391, .mapped [0x006B, 0x0068, 0x007A]), (0x3392, .mapped [0x006D, 0x0068, 0x007A]),
  (0x3393, .mapped [0x0067, 0x0068, 0x007A]), (0x3394, .mapped [0x0074, 0x0068, 0x007A]), (0x3395, .mapped [0x03BC, 0x006C]),
  (0x3396, .mapped [0x006D, 0x006C]), (0x3397, .mapped [0x0064, 0x006C]), (0x3398, .mapped [0x006B, 0x006C]),
  (0x3399, .mapped [0x0066, 0x006D]), (0x339A, .mapped [0x006E, 0x006D]), (0x339B, .mapped [0x03BC, 0x006D]),
  (0x339C, .mapped [0x006D, 0x006D]), (0x339D, .mapped [0x0063, 0x006D]), (0x339E, .mapped [0x006B, 0x006D]),
  (0x339F, .mapped [0x006D, 0x006D, 0x0032]), (0x33A0, .mapped [0x0063, 0x006D, 0x0032]), (0x33A1, .mapped [0x006D, 0x0032]),
  (0x33A2, .mapped [0x006B, 0x006D, 0x0032]), (0x33A3, .mapped [0x006D, 0x006D, 0x0033]), (0x33A4, .mapped [0x0063, 0x006D, 0x0033]),
  (0x33A5, .mapped [0x006D, 0x0033]), (0x33A6, .mapped [0x006B, 0x006D, 0x0033]), (0x33A7, .mapped [0x006D, 0x2215, 0x0073]),
  (0x33A8, .mapped [0x006D, 0x2215, 0x0073, 0x0032]), (0x33A9, .mapped [0x0070, 0x0061]), (0x33AA, .mapped [0x006B, 0x0070, 0x0061]),
  (0x33AB, .mapped [0x006D, 0x0070, 0x0061]), (0x33AC, .mapped [0x0067, 0x0070, 0x0061]), (0x33AD, .mapped [0x0072, 0x0061, 0x0064]),
  (0x33AE, .mapped [0x0072, 0x0061, 0x0064, 0x2215, 0x0073]), (0x33AF, .mapped [0x0072, 0x0061, 0x0064, 0x2215, 0x0073, 0x0032]), (0x33B0, .mapped [0x0070, 0x0073]),
  (0x33B1, .mapped [0x006E, 0x0073]), (0x33B2, .mapped [0x03BC, 0x0073]), (0x33B3, .mapped [0x006D, 0x0073]),
  (0x33B4, .mapped [0x0070, 0x0076]), (0x33B5, .mapped [0x006E, 0x0076]), (0x33B6, .mapped [0x03BC, 0x0076]),
  (0x33B7, .mapped [0x006D, 0x0076]), (0x33B8, .mapped [0x006B, 0x0076]), (0x33B9, .mapped [0x006D, 0x0076]),
  (0x33BA, .mapped [0x0070, 0x0077]), (0x33BB, .mapped [0x006E, 0x0077]), (0x33BC, .mapped [0x03BC, 0x0077]),
  (0x33BD, .mapped [0x006D, 0x0077]), (0x33BE, .mapped [0x006B, 0x0077]), (0x33BF, .mapped [0x006D, 0x0077]),
  (0x33C0, .mapped [0x006B, 0x03C9]), (0x33C1, .mapped [0x006D, 0x03C9]), (0x33C2, .disallowed),
  (0x33C3, .mapped [0x0062, 0x0071]), (0x33C4, .mapped [0x0063, 0x0063]), (0x33C5, .mapped [0x0063, 0x0064]),
  (0x33C6, .mapped [0x0063, 0x2215, 0x006B, 0x0067]), (0x33C7, .disallowed), (0x33C8, .mapped [0x0064, 0x0062]),
  (0x33C9, .mapped [0x0067, 0x0079]), (0x33CA, .mapped [0x0068, 0x0061]), (0x33CB, .mapped [0x0068, 0x0070]),
  (0x33CC, .mapped [0x0069, 0x006E]), (0x33CD, .mapped [0x006B, 0x006B]), (0x33CE, .mapped [0x006B, 0x006D]),
  (0x33CF, .mapped [0x006B, 0x0074])
]

/-- The rows of the mapping table, part 8 of 16. -/
def mappingRows7 : Array (Nat × IdnaStatus) := #[
  (0x33D0, .mapped [0x006C, 0x006D]), (0x33D1, .mapped [0x006C, 0x006E]), (0x33D2, .mapped [0x006C, 0x006F, 0x0067]),
  (0x33D3, .mapped [0x006C, 0x0078]), (0x33D4, .mapped [0x006D, 0x0062]), (0x33D5, .mapped [0x006D, 0x0069, 0x006C]),
  (0x33D6, .mapped [0x006D, 0x006F, 0x006C]), (0x33D7, .mapped [0x0070, 0x0068]), (0x33D8, .disallowed),
  (0x33D9, .mapped [0x0070, 0x0070, 0x006D]), (0x33DA, .mapped [0x0070, 0x0072]), (0x33DB, .mapped [0x0073, 0x0072]),
  (0x33DC, .mapped [0x0073, 0x0076]), (0x33DD, .mapped [0x0077, 0x0062]), (0x33DE, .mapped [0x0076, 0x2215, 0x006D]),
  (0x33DF, .mapped [0x0061, 0x2215, 0x006D]), (0x33E0, .mapped [0x0031, 0x65E5]), (0x33E1, .mapped [0x0032, 0x65E5]),
  (0x33E2, .mapped [0x0033, 0x65E5]), (0x33E3, .mapped [0x0034, 0x65E5]), (0x33E4, .mapped [0x0035, 0x65E5]),
  (0x33E5, .mapped [0x0036, 0x65E5]), (0x33E6, .mapped [0x0037, 0x65E5]), (0x33E7, .mapped [0x0038, 0x65E5]),
  (0x33E8, .mapped [0x0039, 0x65E5]), (0x33E9, .mapped [0x0031, 0x0030, 0x65E5]), (0x33EA, .mapped [0x0031, 0x0031, 0x65E5]),
  (0x33EB, .mapped [0x0031, 0x0032, 0x65E5]), (0x33EC, .mapped [0x0031, 0x0033, 0x65E5]), (0x33ED, .mapped [0x0031, 0x0034, 0x65E5]),
  (0x33EE, .mapped [0x0031, 0x0035, 0x65E5]), (0x33EF, .mapped [0x0031, 0x0036, 0x65E5]), (0x33F0, .mapped [0x0031, 0x0037, 0x65E5]),
  (0x33F1, .mapped [0x0031, 0x0038, 0x65E5]), (0x33F2, .mapped [0x0031, 0x0039, 0x65E5]), (0x33F3, .mapped [0x0032, 0x0030, 0x65E5]),
  (0x33F4, .mapped [0x0032, 0x0031, 0x65E5]), (0x33F5, .mapped [0x0032, 0x0032, 0x65E5]), (0x33F6, .mapped [0x0032, 0x0033, 0x65E5]),
  (0x33F7, .mapped [0x0032, 0x0034, 0x65E5]), (0x33F8, .mapped [0x0032, 0x0035, 0x65E5]), (0x33F9, .mapped [0x0032, 0x0036, 0x65E5]),
  (0x33FA, .mapped [0x0032, 0x0037, 0x65E5]), (0x33FB, .mapped [0x0032, 0x0038, 0x65E5]), (0x33FC, .mapped [0x0032, 0x0039, 0x65E5]),
  (0x33FD, .mapped [0x0033, 0x0030, 0x65E5]), (0x33FE, .mapped [0x0033, 0x0031, 0x65E5]), (0x33FF, .mapped [0x0067, 0x0061, 0x006C]),
  (0x3400, .valid), (0xA48D, .disallowed), (0xA490, .valid),
  (0xA4C7, .disallowed), (0xA4D0, .valid), (0xA62C, .disallowed),
  (0xA640, .shifted 1), (0xA641, .valid), (0xA642, .shifted 1),
  (0xA643, .valid), (0xA644, .shifted 1), (0xA645, .valid),
  (0xA646, .shifted 1), (0xA647, .valid), (0xA648, .shifted 1),
  (0xA649, .valid), (0xA64A, .shifted 1), (0xA64B, .valid),
  (0xA64C, .shifted 1), (0xA64D, .valid), (0xA64E, .shifted 1),
  (0xA64F, .valid), (0xA650, .shifted 1), (0xA651, .valid),
  (0xA652, .shifted 1), (0xA653, .valid), (0xA654, .shifted 1),
  (0xA655, .valid), (0xA656, .shifted 1), (0xA657, .valid),
  (0xA658, .shifted 1), (0xA659, .valid), (0xA65A, .shifted 1),
  (0xA65B, .valid), (0xA65C, .shifted 1), (0xA65D, .valid),
  (0xA65E, .shifted 1), (0xA65F, .valid), (0xA660, .shifted 1),
  (0xA661, .valid), (0xA662, .shifted 1), (0xA663, .valid),
  (0xA664, .shifted 1), (0xA665, .valid), (0xA666, .shifted 1),
  (0xA667, .valid), (0xA668, .shifted 1), (0xA669, .valid),
  (0xA66A, .shifted 1), (0xA66B, .valid), (0xA66C, .shifted 1),
  (0xA66D, .valid), (0xA680, .shifted 1), (0xA681, .valid),
  (0xA682, .shifted 1), (0xA683, .valid), (0xA684, .shifted 1),
  (0xA685, .valid), (0xA686, .shifted 1), (0xA687, .valid),
  (0xA688, .shifted 1), (0xA689, .valid), (0xA68A, .shifted 1),
  (0xA68B, .valid), (0xA68C, .shifted 1), (0xA68D, .valid),
  (0xA68E, .shifted 1), (0xA68F, .valid), (0xA690, .shifted 1),
  (0xA691, .valid), (0xA692, .shifted 1), (0xA693, .valid),
  (0xA694, .shifted 1), (0xA695, .valid), (0xA696, .shifted 1),
  (0xA697, .valid), (0xA698, .shifted 1), (0xA699, .valid),
  (0xA69A, .shifted 1), (0xA69B, .valid), (0xA69C, .shifted (-41554)),
  (0xA69D, .shifted (-41553)), (0xA69E, .valid), (0xA6F8, .disallowed),
  (0xA700, .valid), (0xA722, .shifted 1), (0xA723, .valid),
  (0xA724, .shifted 1), (0xA725, .valid), (0xA726, .shifted 1),
  (0xA727, .valid), (0xA728, .shifted 1), (0xA729, .valid),
  (0xA72A, .shifted 1), (0xA72B, .valid), (0xA72C, .shifted 1),
  (0xA72D, .valid), (0xA72E, .shifted 1), (0xA72F, .valid),
  (0xA732, .shifted 1), (0xA733, .valid), (0xA734, .shifted 1),
  (0xA735, .valid), (0xA736, .shifted 1), (0xA737, .valid),
  (0xA738, .shifted 1), (0xA739, .valid), (0xA73A, .shifted 1),
  (0xA73B, .valid), (0xA73C, .shifted 1), (0xA73D, .valid),
  (0xA73E, .shifted 1), (0xA73F, .valid), (0xA740, .shifted 1),
  (0xA741, .valid), (0xA742, .shifted 1), (0xA743, .valid),
  (0xA744, .shifted 1), (0xA745, .valid), (0xA746, .shifted 1),
  (0xA747, .valid), (0xA748, .shifted 1), (0xA749, .valid),
  (0xA74A, .shifted 1), (0xA74B, .valid), (0xA74C, .shifted 1),
  (0xA74D, .valid), (0xA74E, .shifted 1), (0xA74F, .valid),
  (0xA750, .shifted 1), (0xA751, .valid), (0xA752, .shifted 1),
  (0xA753, .valid), (0xA754, .shifted 1), (0xA755, .valid),
  (0xA756, .shifted 1), (0xA757, .valid), (0xA758, .shifted 1),
  (0xA759, .valid), (0xA75A, .shifted 1), (0xA75B, .valid),
  (0xA75C, .shifted 1), (0xA75D, .valid), (0xA75E, .shifted 1),
  (0xA75F, .valid), (0xA760, .shifted 1), (0xA761, .valid),
  (0xA762, .shifted 1), (0xA763, .valid), (0xA764, .shifted 1),
  (0xA765, .valid), (0xA766, .shifted 1), (0xA767, .valid),
  (0xA768, .shifted 1), (0xA769, .valid), (0xA76A, .shifted 1),
  (0xA76B, .valid), (0xA76C, .shifted 1), (0xA76D, .valid),
  (0xA76E, .shifted 1), (0xA76F, .valid), (0xA770, .shifted (-1)),
  (0xA771, .valid), (0xA779, .shifted 1), (0xA77A, .valid),
  (0xA77B, .shifted 1), (0xA77C, .valid), (0xA77D, .shifted (-35332)),
  (0xA77E, .shifted 1), (0xA77F, .valid), (0xA780, .shifted 1),
  (0xA781, .valid), (0xA782, .shifted 1), (0xA783, .valid),
  (0xA784, .shifted 1), (0xA785, .valid), (0xA786, .shifted 1),
  (0xA787, .valid), (0xA78B, .shifted 1), (0xA78C, .valid),
  (0xA78D, .shifted (-42280)), (0xA78E, .valid), (0xA790, .shifted 1),
  (0xA791, .valid), (0xA792, .shifted 1), (0xA793, .valid),
  (0xA796, .shifted 1), (0xA797, .valid), (0xA798, .shifted 1),
  (0xA799, .valid), (0xA79A, .shifted 1), (0xA79B, .valid),
  (0xA79C, .shifted 1), (0xA79D, .valid), (0xA79E, .shifted 1),
  (0xA79F, .valid), (0xA7A0, .shifted 1), (0xA7A1, .valid),
  (0xA7A2, .shifted 1), (0xA7A3, .valid), (0xA7A4, .shifted 1),
  (0xA7A5, .valid), (0xA7A6, .shifted 1), (0xA7A7, .valid),
  (0xA7A8, .shifted 1), (0xA7A9, .valid), (0xA7AA, .shifted (-42308)),
  (0xA7AB, .shifted (-42319)), (0xA7AC, .shifted (-42315)), (0xA7AD, .shifted (-42305)),
  (0xA7AE, .shifted (-42308)), (0xA7AF, .valid), (0xA7B0, .shifted (-42258)),
  (0xA7B1, .shifted (-42282)), (0xA7B2, .shifted (-42261)), (0xA7B3, .shifted 928),
  (0xA7B4, .shifted 1), (0xA7B5, .valid), (0xA7B6, .shifted 1),
  (0xA7B7, .valid), (0xA7B8, .shifted 1), (0xA7B9, .valid),
  (0xA7BA, .shifted 1), (0xA7BB, .valid), (0xA7BC, .shifted 1),
  (0xA7BD, .valid), (0xA7BE, .shifted 1), (0xA7BF, .valid),
  (0xA7C0, .shifted 1), (0xA7C1, .valid), (0xA7C2, .shifted 1),
  (0xA7C3, .valid), (0xA7C4, .shifted (-48)), (0xA7C5, .shifted (-42307)),
  (0xA7C6, .shifted (-35384)), (0xA7C7, .shifted 1), (0xA7C8, .valid),
  (0xA7C9, .shifted 1), (0xA7CA, .valid), (0xA7CB, .shifted (-42343)),
  (0xA7CC, .shifted 1), (0xA7CD, .valid), (0xA7CE, .shifted 1),
  (0xA7CF, .valid), (0xA7D0, .shifted 1), (0xA7D1, .valid),
  (0xA7D2, .shifted 1), (0xA7D3, .valid), (0xA7D4, .shifted 1),
  (0xA7D5, .valid), (0xA7D6, .shifted 1), (0xA7D7, .valid),
  (0xA7D8, .shifted 1), (0xA7D9, .valid), (0xA7DA, .shifted 1),
  (0xA7DB, .valid), (0xA7DC, .shifted (-42561)), (0xA7DD, .disallowed),
  (0xA7F1, .shifted (-42878)), (0xA7F2, .shifted (-42895)), (0xA7F3, .shifted (-42893)),
  (0xA7F4, .shifted (-42883)), (0xA7F5, .shifted 1), (0xA7F6, .valid),
  (0xA7F8, .shifted (-42705)), (0xA7F9, .shifted (-42662)), (0xA7FA, .valid),
  (0xA82D, .disallowed), (0xA830, .valid), (0xA83A, .disallowed),
  (0xA840, .valid), (0xA878, .disallowed), (0xA880, .valid),
  (0xA8C6, .disallowed), (0xA8CE, .valid), (0xA8DA, .disallowed),
  (0xA8E0, .valid), (0xA954, .disallowed), (0xA95F, .valid),
  (0xA97D, .disallowed), (0xA980, .valid), (0xA9CE, .disallowed),
  (0xA9CF, .valid), (0xA9DA, .disallowed), (0xA9DE, .valid),
  (0xA9FF, .disallowed), (0xAA00, .valid), (0xAA37, .disallowed),
  (0xAA40, .valid), (0xAA4E, .disallowed), (0xAA50, .valid),
  (0xAA5A, .disallowed), (0xAA5C, .valid), (0xAAC3, .disallowed),
  (0xAADB, .valid), (0xAAF7, .disallowed), (0xAB01, .valid),
  (0xAB07, .disallowed), (0xAB09, .valid), (0xAB0F, .disallowed),
  (0xAB11, .valid), (0xAB17, .disallowed), (0xAB20, .valid),
  (0xAB27, .disallowed), (0xAB28, .valid), (0xAB2F, .disallowed),
  (0xAB30, .valid), (0xAB5C, .shifted (-1077)), (0xAB5D, .shifted (-38)),
  (0xAB5E, .shifted (-43251)), (0xAB5F, .shifted (-13)), (0xAB60, .valid),
  (0xAB69, .shifted (-43228)), (0xAB6A, .valid), (0xAB6C, .disallowed),
  (0xAB70, .shifted (-38864)), (0xABC0, .valid), (0xABEE, .disallowed),
  (0xABF0, .valid), (0xABFA, .disallowed), (0xAC00, .valid),
  (0xD7A4, .disallowed), (0xD7B0, .valid), (0xD7C7, .disallowed),
  (0xD7CB, .valid), (0xD7FC, .disallowed), (0xF900, .shifted (-27832)),
  (0xF901, .shifted (-37389)), (0xF902, .shifted (-27192)), (0xF903, .shifted (-27707)),
  (0xF904, .shifted (-35379)), (0xF905, .shifted (-43731)), (0xF906, .shifted (-42273)),
  (0xF907, .mapped [0x9F9C]), (0xF909, .shifted (-40888)), (0xF90A, .shifted (-26425)),
  (0xF90B, .shifted (-41860)), (0xF90C, .shifted (-40900)), (0xF90D, .shifted (-38679)),
  (0xF90E, .shifted (-33445)), (0xF90F, .shifted (-31114)), (0xF910, .shifted (-29393)),
  (0xF911, .shifted (-29015)), (0xF912, .shifted (-28698)), (0xF913, .shifted (-26756)),
  (0xF914, .shifted (-36626)), (0xF915, .shifted (-35834)), (0xF916, .shifted (-34877)),
  (0xF917, .shifted (-34105)), (0xF918, .shifted (-29915)), (0xF919, .shifted (-26543)),
  (0xF91A, .shifted (-24361))
]

/-- The rows of the mapping table, part 9 of 16. -/
def mappingRows8 : Array (Nat × IdnaStatus) := #[
  (0xF91B, .shifted (-43673)), (0xF91C, .shifted (-42407)), (0xF91D, .shifted (-36377)),
  (0xF91E, .shifted (-34563)), (0xF91F, .shifted (-29426)), (0xF920, .shifted (-23298)),
  (0xF921, .shifted (-39889)), (0xF922, .shifted (-35127)), (0xF923, .shifted (-29526)),
  (0xF924, .shifted (-28608)), (0xF925, .shifted (-38492)), (0xF926, .shifted (-30542)),
  (0xF927, .shifted (-28936)), (0xF928, .shifted (-39518)), (0xF929, .shifted (-37394)),
  (0xF92A, .shifted (-35776)), (0xF92B, .shifted (-34351)), (0xF92C, .shifted (-26718)),
  (0xF92D, .shifted (-43431)), (0xF92E, .shifted (-42871)), (0xF92F, .shifted (-42577)),
  (0xF930, .shifted (-37996)), (0xF931, .shifted (-36446)), (0xF932, .shifted (-34594)),
  (0xF933, .shifted (-33356)), (0xF934, .shifted (-31027)), (0xF935, .shifted (-29487)),
  (0xF936, .shifted (-29402)), (0xF937, .shifted (-27464)), (0xF938, .shifted (-25094)),
  (0xF939, .shifted (-24010)), (0xF93A, .shifted (-23360)), (0xF93B, .shifted (-32943)),
  (0xF93C, .shifted (-32701)), (0xF93D, .shifted (-31645)), (0xF93E, .shifted (-30069)),
  (0xF93F, .shifted (-26171)), (0xF940, .shifted (-23233)), (0xF941, .shifted (-28267)),
  (0xF942, .shifted (-41059)), (0xF943, .shifted (-39487)), (0xF944, .shifted (-31972)),
  (0xF945, .shifted (-30919)), (0xF946, .shifted (-34532)), (0xF947, .shifted (-32893)),
  (0xF948, .shifted (-27782)), (0xF949, .shifted (-25170)), (0xF94A, .shifted (-41074)),
  (0xF94B, .shifted (-40169)), (0xF94C, .shifted (-36665)), (0xF94D, .shifted (-35699)),
  (0xF94E, .shifted (-35391)), (0xF94F, .shifted (-31776)), (0xF950, .shifted (-31513)),
  (0xF951, .shifted (-25350)), (0xF952, .shifted (-42624)), (0xF953, .shifted (-30920)),
  (0xF954, .shifted (-42872)), (0xF955, .shifted (-42889)), (0xF956, .shifted (-32570)),
  (0xF957, .shifted (-31641)), (0xF958, .shifted (-30055)), (0xF959, .shifted (-25316)),
  (0xF95A, .shifted (-28122)), (0xF95B, .shifted (-38540)), (0xF95C, .shifted (-36698)),
  (0xF95D, .shifted (-28255)), (0xF95E, .shifted (-43813)), (0xF95F, .shifted (-40312)),
  (0xF960, .shifted (-39246)), (0xF961, .shifted (-34266)), (0xF962, .shifted (-33778)),
  (0xF963, .shifted (-42572)), (0xF964, .shifted (-32873)), (0xF965, .shifted (-43430)),
  (0xF966, .shifted (-39357)), (0xF967, .shifted (-43866)), (0xF968, .shifted (-35996)),
  (0xF969, .shifted (-37873)), (0xF96A, .shifted (-31816)), (0xF96B, .shifted (-42408)),
  (0xF96C, .shifted (-41230)), (0xF96D, .shifted (-33388)), (0xF96E, .shifted (-29989)),
  (0xF96F, .shifted (-28357)), (0xF970, .shifted (-36278)), (0xF971, .shifted (-27073)),
  (0xF972, .shifted (-36074)), (0xF973, .shifted (-38517)), (0xF974, .shifted (-30351)),
  (0xF975, .shifted (-38357)), (0xF976, .shifted (-33809)), (0xF977, .shifted (-43721)),
  (0xF978, .shifted (-43023)), (0xF979, .shifted (-42928)), (0xF97A, .shifted (-37113)),
  (0xF97B, .shifted (-31892)), (0xF97C, .shifted (-30477)), (0xF97D, .shifted (-28331)),
  (0xF97E, .shifted (-26543)), (0xF97F, .shifted (-42634)), (0xF980, .shifted (-42302)),
  (0xF981, .shifted (-40974)), (0xF982, .shifted (-39574)), (0xF983, .shifted (-37822)),
  (0xF984, .shifted (-35206)), (0xF985, .shifted (-32859)), (0xF986, .shifted (-25561)),
  (0xF987, .shifted (-24349)), (0xF988, .shifted (-23281)), (0xF989, .shifted (-23227)),
  (0xF98A, .shifted (-42735)), (0xF98B, .shifted (-37573)), (0xF98C, .shifted (-36373)),
  (0xF98D, .shifted (-27179)), (0xF98E, .shifted (-39706)), (0xF98F, .shifted (-38911)),
  (0xF990, .shifted (-38800)), (0xF991, .shifted (-38135)), (0xF992, .shifted (-35439)),
  (0xF993, .shifted (-34890)), (0xF994, .shifted (-34059)), (0xF995, .shifted (-32715)),
  (0xF996, .shifted (-31650)), (0xF997, .shifted (-31016)), (0xF998, .shifted (-27250)),
  (0xF999, .shifted (-29867)), (0xF99A, .shifted (-26999)), (0xF99B, .shifted (-26193)),
  (0xF99C, .shifted (-42885)), (0xF99D, .shifted (-42746)), (0xF99E, .shifted (-42209)),
  (0xF99F, .shifted (-35031)), (0xF9A0, .shifted (-28894)), (0xF9A1, .shifted (-28407)),
  (0xF9A2, .shifted (-39641)), (0xF9A3, .shifted (-39342)), (0xF9A4, .shifted (-38441)),
  (0xF9A5, .shifted (-36343)), (0xF9A6, .shifted (-32104)), (0xF9A7, .shifted (-34354)),
  (0xF9A8, .shifted (-43716)), (0xF9A9, .shifted (-41648)), (0xF9AA, .shifted (-40387)),
  (0xF9AB, .shifted (-39921)), (0xF9AC, .shifted (-39312)), (0xF9AD, .shifted (-34299)),
  (0xF9AE, .shifted (-34117)), (0xF9AF, .shifted (-31253)), (0xF9B0, .shifted (-31082)),
  (0xF9B1, .shifted (-26493)), (0xF9B2, .shifted (-25276)), (0xF9B3, .shifted (-25195)),
  (0xF9B4, .shifted (-24988)), (0xF9B5, .shifted (-43562)), (0xF9B6, .shifted (-32776)),
  (0xF9B7, .shifted (-26627)), (0xF9B8, .shifted (-25344)), (0xF9B9, .shifted (-39128)),
  (0xF9BA, .shifted (-43828)), (0xF9BB, .shifted (-43233)), (0xF9BC, .shifted (-40398)),
  (0xF9BD, .shifted (-40318)), (0xF9BE, .shifted (-37925)), (0xF9BF, .shifted (-36797)),
  (0xF9C0, .shifted (-34802)), (0xF9C1, .shifted (-33663)), (0xF9C2, .shifted (-29894)),
  (0xF9C3, .shifted (-26951)), (0xF9C4, .shifted (-23095)), (0xF9C5, .shifted (-37693)),
  (0xF9C6, .shifted (-25496)), (0xF9C7, .shifted (-42814)), (0xF9C8, .shifted (-37453)),
  (0xF9C9, .shifted (-37334)), (0xF9CA, .shifted (-35977)), (0xF9CB, .shifted (-35631)),
  (0xF9CC, .shifted (-34243)), (0xF9CD, .shifted (-33908)), (0xF9CE, .shifted (-33123)),
  (0xF9CF, .shifted (-31935)), (0xF9D0, .shifted (-24946)), (0xF9D1, .shifted (-43108)),
  (0xF9D2, .shifted (-38820)), (0xF9D3, .shifted (-25435)), (0xF9D4, .shifted (-43433)),
  (0xF9D5, .shifted (-40124)), (0xF9D6, .shifted (-35820)), (0xF9D7, .shifted (-27309)),
  (0xF9D8, .shifted (-39501)), (0xF9D9, .shifted (-39061)), (0xF9DA, .shifted (-37315)),
  (0xF9DB, .shifted (-34388)), (0xF9DC, .shifted (-25430)), (0xF9DD, .shifted (-42932)),
  (0xF9DE, .shifted (-42447)), (0xF9DF, .shifted (-40314)), (0xF9E0, .shifted (-37837)),
  (0xF9E1, .shifted (-37523)), (0xF9E2, .shifted (-37178)), (0xF9E3, .shifted (-36094)),
  (0xF9E4, .shifted (-34270)), (0xF9E5, .shifted (-33795)), (0xF9E6, .shifted (-31341)),
  (0xF9E7, .shifted (-28952)), (0xF9E8, .shifted (-28935)), (0xF9E9, .shifted (-26653)),
  (0xF9EA, .shifted (-25352)), (0xF9EB, .shifted (-42668)), (0xF9EC, .shifted (-35634)),
  (0xF9ED, .shifted (-42448)), (0xF9EE, .shifted (-34846)), (0xF9EF, .shifted (-34135)),
  (0xF9F0, .shifted (-29686)), (0xF9F1, .shifted (-25422)), (0xF9F2, .shifted (-23963)),
  (0xF9F3, .shifted (-23380)), (0xF9F4, .shifted (-37469)), (0xF9F5, .shifted (-35882)),
  (0xF9F6, .shifted (-30734)), (0xF9F7, .shifted (-32556)), (0xF9F8, .shifted (-32472)),
  (0xF9F9, .shifted (-32103)), (0xF9FA, .shifted (-34618)), (0xF9FB, .shifted (-35170)),
  (0xF9FC, .shifted (-28324)), (0xF9FD, .shifted (-43837)), (0xF9FE, .shifted (-30408)),
  (0xF9FF, .shifted (-42949)), (0xFA00, .shifted (-43001)), (0xFA01, .shifted (-39771)),
  (0xFA02, .shifted (-38703)), (0xFA03, .shifted (-32045)), (0xFA04, .shifted (-40575)),
  (0xFA05, .shifted (-36071)), (0xFA06, .shifted (-37714)), (0xFA07, .shifted (-27340)),
  (0xFA08, .shifted (-29116)), (0xFA09, .shifted (-25532)), (0xFA0A, .shifted (-28799)),
  (0xFA0B, .shifted (-39736)), (0xFA0C, .shifted (-43212)), (0xFA0D, .shifted (-42061)),
  (0xFA0E, .valid), (0xFA10, .shifted (-41398)), (0xFA11, .valid),
  (0xFA12, .shifted (-37790)), (0xFA13, .valid), (0xFA15, .shifted (-43063)),
  (0xFA16, .shifted (-34540)), (0xFA17, .shifted (-33613)), (0xFA18, .shifted (-32988)),
  (0xFA19, .shifted (-32955)), (0xFA1A, .shifted (-32949)), (0xFA1B, .shifted (-32908)),
  (0xFA1C, .shifted (-25286)), (0xFA1D, .shifted (-32095)), (0xFA1E, .shifted (-31329)),
  (0xFA1F, .valid), (0xFA20, .shifted (-29710)), (0xFA21, .valid),
  (0xFA22, .shifted (-28458)), (0xFA23, .valid), (0xFA25, .shifted (-27117)),
  (0xFA26, .shifted (-26921)), (0xFA27, .valid), (0xFA2A, .shifted (-24891)),
  (0xFA2B, .shifted (-24879)), (0xFA2C, .shifted (-24836)), (0xFA2D, .shifted (-23673)),
  (0xFA2E, .shifted (-26960)), (0xFA2F, .shifted (-25464)), (0xFA30, .shifted (-43650)),
  (0xFA31, .shifted (-43338)), (0xFA32, .shifted (-43237)), (0xFA33, .shifted (-42858)),
  (0xFA34, .shifted (-42832)), (0xFA35, .shifted (-42724)), (0xFA36, .shifted (-42137)),
  (0xFA37, .shifted (-42033)), (0xFA38, .shifted (-41936)), (0xFA39, .shifted (-41465)),
  (0xFA3A, .shifted (-41362)), (0xFA3B, .shifted (-40407)), (0xFA3C, .shifted (-40398)),
  (0xFA3D, .shifted (-39337)), (0xFA3E, .shifted (-39126)), (0xFA3F, .shifted (-39089)),
  (0xFA40, .shifted (-38990)), (0xFA41, .shifted (-38130)), (0xFA42, .shifted (-37984)),
  (0xFA43, .shifted (-37810)), (0xFA44, .shifted (-37311)), (0xFA45, .shifted (-36046)),
  (0xFA46, .shifted (-35884)), (0xFA47, .shifted (-35621)), (0xFA48, .shifted (-35034)),
  (0xFA49, .shifted (-34846)), (0xFA4A, .shifted (-34344)), (0xFA4B, .shifted (-33210)),
  (0xFA4C, .shifted (-33038)), (0xFA4D, .shifted (-33028)), (0xFA4E, .shifted (-33030)),
  (0xFA4F, .shifted (-33023)), (0xFA50, .shifted (-33018)), (0xFA51, .shifted (-33012)),
  (0xFA52, .shifted (-32965)), (0xFA54, .shifted (-32788)), (0xFA55, .shifted (-32724)),
  (0xFA56, .shifted (-32406)), (0xFA57, .shifted (-31843)), (0xFA58, .shifted (-31823)),
  (0xFA59, .shifted (-31768)), (0xFA5A, .shifted (-31464)), (0xFA5B, .shifted (-31318)),
  (0xFA5C, .shifted (-30831)), (0xFA5D, .mapped [0x8279]), (0xFA5F, .shifted (-30216)),
  (0xFA60, .shifted (-29008)), (0xFA61, .shifted (-28875)), (0xFA62, .shifted (-28513)),
  (0xFA63, .shifted (-28458)), (0xFA64, .shifted (-28049)), (0xFA65, .shifted (-27997)),
  (0xFA66, .shifted (-27312)), (0xFA67, .shifted (-27183)), (0xFA68, .shifted (-25477)),
  (0xFA69, .shifted (-25194)), (0xFA6A, .shifted (-25135)), (0xFA6B, .shifted (-39414)),
  (0xFA6C, .shifted 84098), (0xFA6D, .shifted (-30805)), (0xFA6E, .disallowed),
  (0xFA70, .shifted (-44106)), (0xFA71, .shifted (-43196)), (0xFA72, .shifted (-43274)),
  (0xFA73, .shifted (-43763)), (0xFA74, .shifted (-43311)), (0xFA75, .shifted (-43253)),
  (0xFA76, .shifted (-42927)), (0xFA77, .shifted (-42877)), (0xFA78, .shifted (-42203)),
  (0xFA79, .shifted (-42276)), (0xFA7A, .shifted (-42209)), (0xFA7B, .shifted (-42137)),
  (0xFA7C, .shifted (-41506)), (0xFA7D, .shifted (-41418)), (0xFA7E, .shifted (-41274)),
  (0xFA7F, .shifted (-41259)), (0xFA80, .shifted (-40990)), (0xFA81, .shifted (-40793)),
  (0xFA82, .shifted (-39856)), (0xFA83, .shifted (-39850)), (0xFA84, .shifted (-39707)),
  (0xFA85, .shifted (-39640)), (0xFA86, .shifted (-39342)), (0xFA87, .shifted (-39225)),
  (0xFA88, .shifted (-39296)), (0xFA89, .shifted (-39163)), (0xFA8A, .shifted (-39210)),
  (0xFA8B, .shifted (-39065)), (0xFA8C, .shifted (-39000)), (0xFA8D, .shifted (-38601)),
  (0xFA8E, .shifted (-38514)), (0xFA8F, .shifted (-38461)), (0xFA90, .shifted (-38202)),
  (0xFA91, .shifted (-37917)), (0xFA92, .shifted (-37755)), (0xFA93, .shifted (-37752)),
  (0xFA94, .shifted (-37694)), (0xFA95, .shifted (-36636)), (0xFA96, .shifted (-36572)),
  (0xFA97, .shifted (-36182)), (0xFA98, .shifted (-35773)), (0xFA99, .shifted (-35790)),
  (0xFA9A, .shifted (-35704)), (0xFA9B, .shifted (-35453)), (0xFA9C, .shifted (-35118)),
  (0xFA9D, .shifted (-33526)), (0xFA9E, .shifted (-34921)), (0xFA9F, .shifted (-34800)),
  (0xFAA0, .shifted (-34678)), (0xFAA1, .shifted (-34352)), (0xFAA2, .shifted (-34204)),
  (0xFAA3, .shifted (-34152)), (0xFAA4, .shifted (-33927)), (0xFAA5, .shifted (-33926)),
  (0xFAA6, .shifted (-33756)), (0xFAA7, .shifted (-33740)), (0xFAA8, .shifted (-33716)),
  (0xFAA9, .shifted (-33631)), (0xFAAA, .shifted (-33642)), (0xFAAB, .shifted (-33247)),
  (0xFAAC, .shifted (-32763)), (0xFAAD, .shifted (-32493)), (0xFAAE, .shifted (-32307)),
  (0xFAAF, .shifted (-32084)), (0xFAB0, .shifted (-31932)), (0xFAB1, .shifted (-31603)),
  (0xFAB2, .shifted (-31405))
]

/-- The rows of the mapping table, part 10 of 16. -/
def mappingRows9 : Array (Nat × IdnaStatus) := #[
  (0xFAB3, .shifted (-30561)), (0xFAB4, .shifted (-30405)), (0xFAB5, .shifted (-29500)),
  (0xFAB6, .shifted (-29045)), (0xFAB7, .shifted (-28977)), (0xFAB8, .shifted (-28962)),
  (0xFAB9, .shifted (-28666)), (0xFABA, .shifted (-28610)), (0xFABB, .shifted (-28656)),
  (0xFABC, .shifted (-28603)), (0xFABD, .shifted (-28607)), (0xFABE, .shifted (-28625)),
  (0xFABF, .shifted (-28550)), (0xFAC0, .shifted (-28470)), (0xFAC1, .shifted (-28089)),
  (0xFAC2, .shifted (-27530)), (0xFAC3, .shifted (-27217)), (0xFAC4, .shifted (-26923)),
  (0xFAC5, .shifted (-26703)), (0xFAC6, .shifted (-25674)), (0xFAC7, .shifted (-25572)),
  (0xFAC8, .shifted (-25458)), (0xFAC9, .shifted (-25326)), (0xFACA, .shifted (-25291)),
  (0xFACB, .shifted (-25280)), (0xFACC, .shifted (-25233)), (0xFACD, .shifted (-24507)),
  (0xFACE, .shifted (-23346)), (0xFACF, .shifted 77179), (0xFAD0, .shifted 77172),
  (0xFAD1, .shifted 80132), (0xFAD2, .shifted (-48949)), (0xFAD3, .shifted (-47803)),
  (0xFAD4, .shifted (-47771)), (0xFAD5, .shifted 87924), (0xFAD6, .shifted 90618),
  (0xFAD7, .shifted 99324), (0xFAD8, .shifted (-23445)), (0xFAD9, .shifted (-23371)),
  (0xFADA, .disallowed), (0xFB00, .mapped [0x0066, 0x0066]), (0xFB01, .mapped [0x0066, 0x0069]),
  (0xFB02, .mapped [0x0066, 0x006C]), (0xFB03, .mapped [0x0066, 0x0066, 0x0069]), (0xFB04, .mapped [0x0066, 0x0066, 0x006C]),
  (0xFB05, .mapped [0x0073, 0x0074]), (0xFB07, .disallowed), (0xFB13, .mapped [0x0574, 0x0576]),
  (0xFB14, .mapped [0x0574, 0x0565]), (0xFB15, .mapped [0x0574, 0x056B]), (0xFB16, .mapped [0x057E, 0x0576]),
  (0xFB17, .mapped [0x0574, 0x056D]), (0xFB18, .disallowed), (0xFB1D, .mapped [0x05D9, 0x05B4]),
  (0xFB1E, .valid), (0xFB1F, .mapped [0x05F2, 0x05B7]), (0xFB20, .shifted (-62782)),
  (0xFB21, .shifted (-62801)), (0xFB22, .shifted (-62799)), (0xFB24, .shifted (-62793)),
  (0xFB27, .shifted (-62783)), (0xFB28, .shifted (-62782)), (0xFB29, .shifted (-64254)),
  (0xFB2A, .mapped [0x05E9, 0x05C1]), (0xFB2B, .mapped [0x05E9, 0x05C2]), (0xFB2C, .mapped [0x05E9, 0x05BC, 0x05C1]),
  (0xFB2D, .mapped [0x05E9, 0x05BC, 0x05C2]), (0xFB2E, .mapped [0x05D0, 0x05B7]), (0xFB2F, .mapped [0x05D0, 0x05B8]),
  (0xFB30, .mapped [0x05D0, 0x05BC]), (0xFB31, .mapped [0x05D1, 0x05BC]), (0xFB32, .mapped [0x05D2, 0x05BC]),
  (0xFB33, .mapped [0x05D3, 0x05BC]), (0xFB34, .mapped [0x05D4, 0x05BC]), (0xFB35, .mapped [0x05D5, 0x05BC]),
  (0xFB36, .mapped [0x05D6, 0x05BC]), (0xFB37, .disallowed), (0xFB38, .mapped [0x05D8, 0x05BC]),
  (0xFB39, .mapped [0x05D9, 0x05BC]), (0xFB3A, .mapped [0x05DA, 0x05BC]), (0xFB3B, .mapped [0x05DB, 0x05BC]),
  (0xFB3C, .mapped [0x05DC, 0x05BC]), (0xFB3D, .disallowed), (0xFB3E, .mapped [0x05DE, 0x05BC]),
  (0xFB3F, .disallowed), (0xFB40, .mapped [0x05E0, 0x05BC]), (0xFB41, .mapped [0x05E1, 0x05BC]),
  (0xFB42, .disallowed), (0xFB43, .mapped [0x05E3, 0x05BC]), (0xFB44, .mapped [0x05E4, 0x05BC]),
  (0xFB45, .disallowed), (0xFB46, .mapped [0x05E6, 0x05BC]), (0xFB47, .mapped [0x05E7, 0x05BC]),
  (0xFB48, .mapped [0x05E8, 0x05BC]), (0xFB49, .mapped [0x05E9, 0x05BC]), (0xFB4A, .mapped [0x05EA, 0x05BC]),
  (0xFB4B, .mapped [0x05D5, 0x05B9]), (0xFB4C, .mapped [0x05D1, 0x05BF]), (0xFB4D, .mapped [0x05DB, 0x05BF]),
  (0xFB4E, .mapped [0x05E4, 0x05BF]), (0xFB4F, .mapped [0x05D0, 0x05DC]), (0xFB50, .mapped [0x0671]),
  (0xFB52, .mapped [0x067B]), (0xFB56, .mapped [0x067E]), (0xFB5A, .mapped [0x0680]),
  (0xFB5E, .mapped [0x067A]), (0xFB62, .mapped [0x067F]), (0xFB66, .mapped [0x0679]),
  (0xFB6A, .mapped [0x06A4]), (0xFB6E, .mapped [0x06A6]), (0xFB72, .mapped [0x0684]),
  (0xFB76, .mapped [0x0683]), (0xFB7A, .mapped [0x0686]), (0xFB7E, .mapped [0x0687]),
  (0xFB82, .mapped [0x068D]), (0xFB84, .mapped [0x068C]), (0xFB86, .mapped [0x068E]),
  (0xFB88, .mapped [0x0688]), (0xFB8A, .mapped [0x0698]), (0xFB8C, .mapped [0x0691]),
  (0xFB8E, .mapped [0x06A9]), (0xFB92, .mapped [0x06AF]), (0xFB96, .mapped [0x06B3]),
  (0xFB9A, .mapped [0x06B1]), (0xFB9E, .mapped [0x06BA]), (0xFBA0, .mapped [0x06BB]),
  (0xFBA4, .mapped [0x06C0]), (0xFBA6, .mapped [0x06C1]), (0xFBAA, .mapped [0x06BE]),
  (0xFBAE, .mapped [0x06D2]), (0xFBB0, .mapped [0x06D3]), (0xFBB2, .valid),
  (0xFBD3, .mapped [0x06AD]), (0xFBD7, .mapped [0x06C7]), (0xFBD9, .mapped [0x06C6]),
  (0xFBDB, .mapped [0x06C8]), (0xFBDD, .mapped [0x06C7, 0x0674]), (0xFBDE, .mapped [0x06CB]),
  (0xFBE0, .mapped [0x06C5]), (0xFBE2, .mapped [0x06C9]), (0xFBE4, .mapped [0x06D0]),
  (0xFBE8, .mapped [0x0649]), (0xFBEA, .mapped [0x0626, 0x0627]), (0xFBEC, .mapped [0x0626, 0x06D5]),
  (0xFBEE, .mapped [0x0626, 0x0648]), (0xFBF0, .mapped [0x0626, 0x06C7]), (0xFBF2, .mapped [0x0626, 0x06C6]),
  (0xFBF4, .mapped [0x0626, 0x06C8]), (0xFBF6, .mapped [0x0626, 0x06D0]), (0xFBF9, .mapped [0x0626, 0x0649]),
  (0xFBFC, .mapped [0x06CC]), (0xFC00, .mapped [0x0626, 0x062C]), (0xFC01, .mapped [0x0626, 0x062D]),
  (0xFC02, .mapped [0x0626, 0x0645]), (0xFC03, .mapped [0x0626, 0x0649]), (0xFC04, .mapped [0x0626, 0x064A]),
  (0xFC05, .mapped [0x0628, 0x062C]), (0xFC06, .mapped [0x0628, 0x062D]), (0xFC07, .mapped [0x0628, 0x062E]),
  (0xFC08, .mapped [0x0628, 0x0645]), (0xFC09, .mapped [0x0628, 0x0649]), (0xFC0A, .mapped [0x0628, 0x064A]),
  (0xFC0B, .mapped [0x062A, 0x062C]), (0xFC0C, .mapped [0x062A, 0x062D]), (0xFC0D, .mapped [0x062A, 0x062E]),
  (0xFC0E, .mapped [0x062A, 0x0645]), (0xFC0F, .mapped [0x062A, 0x0649]), (0xFC10, .mapped [0x062A, 0x064A]),
  (0xFC11, .mapped [0x062B, 0x062C]), (0xFC12, .mapped [0x062B, 0x0645]), (0xFC13, .mapped [0x062B, 0x0649]),
  (0xFC14, .mapped [0x062B, 0x064A]), (0xFC15, .mapped [0x062C, 0x062D]), (0xFC16, .mapped [0x062C, 0x0645]),
  (0xFC17, .mapped [0x062D, 0x062C]), (0xFC18, .mapped [0x062D, 0x0645]), (0xFC19, .mapped [0x062E, 0x062C]),
  (0xFC1A, .mapped [0x062E, 0x062D]), (0xFC1B, .mapped [0x062E, 0x0645]), (0xFC1C, .mapped [0x0633, 0x062C]),
  (0xFC1D, .mapped [0x0633, 0x062D]), (0xFC1E, .mapped [0x0633, 0x062E]), (0xFC1F, .mapped [0x0633, 0x0645]),
  (0xFC20, .mapped [0x0635, 0x062D]), (0xFC21, .mapped [0x0635, 0x0645]), (0xFC22, .mapped [0x0636, 0x062C]),
  (0xFC23, .mapped [0x0636, 0x062D]), (0xFC24, .mapped [0x0636, 0x062E]), (0xFC25, .mapped [0x0636, 0x0645]),
  (0xFC26, .mapped [0x0637, 0x062D]), (0xFC27, .mapped [0x0637, 0x0645]), (0xFC28, .mapped [0x0638, 0x0645]),
  (0xFC29, .mapped [0x0639, 0x062C]), (0xFC2A, .mapped [0x0639, 0x0645]), (0xFC2B, .mapped [0x063A, 0x062C]),
  (0xFC2C, .mapped [0x063A, 0x0645]), (0xFC2D, .mapped [0x0641, 0x062C]), (0xFC2E, .mapped [0x0641, 0x062D]),
  (0xFC2F, .mapped [0x0641, 0x062E]), (0xFC30, .mapped [0x0641, 0x0645]), (0xFC31, .mapped [0x0641, 0x0649]),
  (0xFC32, .mapped [0x0641, 0x064A]), (0xFC33, .mapped [0x0642, 0x062D]), (0xFC34, .mapped [0x0642, 0x0645]),
  (0xFC35, .mapped [0x0642, 0x0649]), (0xFC36, .mapped [0x0642, 0x064A]), (0xFC37, .mapped [0x0643, 0x0627]),
  (0xFC38, .mapped [0x0643, 0x062C]), (0xFC39, .mapped [0x0643, 0x062D]), (0xFC3A, .mapped [0x0643, 0x062E]),
  (0xFC3B, .mapped [0x0643, 0x0644]), (0xFC3C, .mapped [0x0643, 0x0645]), (0xFC3D, .mapped [0x0643, 0x0649]),
  (0xFC3E, .mapped [0x0643, 0x064A]), (0xFC3F, .mapped [0x0644, 0x062C]), (0xFC40, .mapped [0x0644, 0x062D]),
  (0xFC41, .mapped [0x0644, 0x062E]), (0xFC42, .mapped [0x0644, 0x0645]), (0xFC43, .mapped [0x0644, 0x0649]),
  (0xFC44, .mapped [0x0644, 0x064A]), (0xFC45, .mapped [0x0645, 0x062C]), (0xFC46, .mapped [0x0645, 0x062D]),
  (0xFC47, .mapped [0x0645, 0x062E]), (0xFC48, .mapped [0x0645, 0x0645]), (0xFC49, .mapped [0x0645, 0x0649]),
  (0xFC4A, .mapped [0x0645, 0x064A]), (0xFC4B, .mapped [0x0646, 0x062C]), (0xFC4C, .mapped [0x0646, 0x062D]),
  (0xFC4D, .mapped [0x0646, 0x062E]), (0xFC4E, .mapped [0x0646, 0x0645]), (0xFC4F, .mapped [0x0646, 0x0649]),
  (0xFC50, .mapped [0x0646, 0x064A]), (0xFC51, .mapped [0x0647, 0x062C]), (0xFC52, .mapped [0x0647, 0x0645]),
  (0xFC53, .mapped [0x0647, 0x0649]), (0xFC54, .mapped [0x0647, 0x064A]), (0xFC55, .mapped [0x064A, 0x062C]),
  (0xFC56, .mapped [0x064A, 0x062D]), (0xFC57, .mapped [0x064A, 0x062E]), (0xFC58, .mapped [0x064A, 0x0645]),
  (0xFC59, .mapped [0x064A, 0x0649]), (0xFC5A, .mapped [0x064A, 0x064A]), (0xFC5B, .mapped [0x0630, 0x0670]),
  (0xFC5C, .mapped [0x0631, 0x0670]), (0xFC5D, .mapped [0x0649, 0x0670]), (0xFC5E, .mapped [0x0020, 0x064C, 0x0651]),
  (0xFC5F, .mapped [0x0020, 0x064D, 0x0651]), (0xFC60, .mapped [0x0020, 0x064E, 0x0651]), (0xFC61, .mapped [0x0020, 0x064F, 0x0651]),
  (0xFC62, .mapped [0x0020, 0x0650, 0x0651]), (0xFC63, .mapped [0x0020, 0x0651, 0x0670]), (0xFC64, .mapped [0x0626, 0x0631]),
  (0xFC65, .mapped [0x0626, 0x0632]), (0xFC66, .mapped [0x0626, 0x0645]), (0xFC67, .mapped [0x0626, 0x0646]),
  (0xFC68, .mapped [0x0626, 0x0649]), (0xFC69, .mapped [0x0626, 0x064A]), (0xFC6A, .mapped [0x0628, 0x0631]),
  (0xFC6B, .mapped [0x0628, 0x0632]), (0xFC6C, .mapped [0x0628, 0x0645]), (0xFC6D, .mapped [0x0628, 0x0646]),
  (0xFC6E, .mapped [0x0628, 0x0649]), (0xFC6F, .mapped [0x0628, 0x064A]), (0xFC70, .mapped [0x062A, 0x0631]),
  (0xFC71, .mapped [0x062A, 0x0632]), (0xFC72, .mapped [0x062A, 0x0645]), (0xFC73, .mapped [0x062A, 0x0646]),
  (0xFC74, .mapped [0x062A, 0x0649]), (0xFC75, .mapped [0x062A, 0x064A]), (0xFC76, .mapped [0x062B, 0x0631]),
  (0xFC77, .mapped [0x062B, 0x0632]), (0xFC78, .mapped [0x062B, 0x0645]), (0xFC79, .mapped [0x062B, 0x0646]),
  (0xFC7A, .mapped [0x062B, 0x0649]), (0xFC7B, .mapped [0x062B, 0x064A]), (0xFC7C, .mapped [0x0641, 0x0649]),
  (0xFC7D, .mapped [0x0641, 0x064A]), (0xFC7E, .mapped [0x0642, 0x0649]), (0xFC7F, .mapped [0x0642, 0x064A]),
  (0xFC80, .mapped [0x0643, 0x0627]), (0xFC81, .mapped [0x0643, 0x0644]), (0xFC82, .mapped [0x0643, 0x0645]),
  (0xFC83, .mapped [0x0643, 0x0649]), (0xFC84, .mapped [0x0643, 0x064A]), (0xFC85, .mapped [0x0644, 0x0645]),
  (0xFC86, .mapped [0x0644, 0x0649]), (0xFC87, .mapped [0x0644, 0x064A]), (0xFC88, .mapped [0x0645, 0x0627]),
  (0xFC89, .mapped [0x0645, 0x0645]), (0xFC8A, .mapped [0x0646, 0x0631]), (0xFC8B, .mapped [0x0646, 0x0632]),
  (0xFC8C, .mapped [0x0646, 0x0645]), (0xFC8D, .mapped [0x0646, 0x0646]), (0xFC8E, .mapped [0x0646, 0x0649]),
  (0xFC8F, .mapped [0x0646, 0x064A]), (0xFC90, .mapped [0x0649, 0x0670]), (0xFC91, .mapped [0x064A, 0x0631]),
  (0xFC92, .mapped [0x064A, 0x0632]), (0xFC93, .mapped [0x064A, 0x0645]), (0xFC94, .mapped [0x064A, 0x0646]),
  (0xFC95, .mapped [0x064A, 0x0649]), (0xFC96, .mapped [0x064A, 0x064A]), (0xFC97, .mapped [0x0626, 0x062C]),
  (0xFC98, .mapped [0x0626, 0x062D]), (0xFC99, .mapped [0x0626, 0x062E]), (0xFC9A, .mapped [0x0626, 0x0645]),
  (0xFC9B, .mapped [0x0626, 0x0647]), (0xFC9C, .mapped [0x0628, 0x062C]), (0xFC9D, .mapped [0x0628, 0x062D]),
  (0xFC9E, .mapped [0x0628, 0x062E]), (0xFC9F, .mapped [0x0628, 0x0645]), (0xFCA0, .mapped [0x0628, 0x0647]),
  (0xFCA1, .mapped [0x062A, 0x062C]), (0xFCA2, .mapped [0x062A, 0x062D]), (0xFCA3, .mapped [0x062A, 0x062E]),
  (0xFCA4, .mapped [0x062A, 0x0645]), (0xFCA5, .mapped [0x062A, 0x0647]), (0xFCA6, .mapped [0x062B, 0x0645]),
  (0xFCA7, .mapped [0x062C, 0x062D]), (0xFCA8, .mapped [0x062C, 0x0645]), (0xFCA9, .mapped [0x062D, 0x062C]),
  (0xFCAA, .mapped [0x062D, 0x0645]), (0xFCAB, .mapped [0x062E, 0x062C]), (0xFCAC, .mapped [0x062E, 0x0645]),
  (0xFCAD, .mapped [0x0633, 0x062C]), (0xFCAE, .mapped [0x0633, 0x062D]), (0xFCAF, .mapped [0x0633, 0x062E]),
  (0xFCB0, .mapped [0x0633, 0x0645]), (0xFCB1, .mapped [0x0635, 0x062D]), (0xFCB2, .mapped [0x0635, 0x062E]),
  (0xFCB3, .mapped [0x0635, 0x0645]), (0xFCB4, .mapped [0x0636, 0x062C]), (0xFCB5, .mapped [0x0636, 0x062D]),
  (0xFCB6, .mapped [0x0636, 0x062E]), (0xFCB7, .mapped [0x0636, 0x0645]), (0xFCB8, .mapped [0x0637, 0x062D]),
  (0xFCB9, .mapped [0x0638, 0x0645]), (0xFCBA, .mapped [0x0639, 0x062C]), (0xFCBB, .mapped [0x0639, 0x0645]),
  (0xFCBC, .mapped [0x063A, 0x062C]), (0xFCBD, .mapped [0x063A, 0x0645]), (0xFCBE, .mapped [0x0641, 0x062C]),
  (0xFCBF, .mapped [0x0641, 0x062D]), (0xFCC0, .mapped [0x0641, 0x062E]), (0xFCC1, .mapped [0x0641, 0x0645]),
  (0xFCC2, .mapped [0x0642, 0x062D]), (0xFCC3, .mapped [0x0642, 0x0645]), (0xFCC4, .mapped [0x0643, 0x062C]),
  (0xFCC5, .mapped [0x0643, 0x062D]), (0xFCC6, .mapped [0x0643, 0x062E]), (0xFCC7, .mapped [0x0643, 0x0644]),
  (0xFCC8, .mapped [0x0643, 0x0645]), (0xFCC9, .mapped [0x0644, 0x062C]), (0xFCCA, .mapped [0x0644, 0x062D]),
  (0xFCCB, .mapped [0x0644, 0x062E]), (0xFCCC, .mapped [0x0644, 0x0645]), (0xFCCD, .mapped [0x0644, 0x0647]),
  (0xFCCE, .mapped [0x0645, 0x062C]), (0xFCCF, .mapped [0x0645, 0x062D]), (0xFCD0, .mapped [0x0645, 0x062E]),
  (0xFCD1, .mapped [0x0645, 0x0645]), (0xFCD2, .mapped [0x0646, 0x062C]), (0xFCD3, .mapped [0x0646, 0x062D]),
  (0xFCD4, .mapped [0x0646, 0x062E]), (0xFCD5, .mapped [0x0646, 0x0645]), (0xFCD6, .mapped [0x0646, 0x0647]),
  (0xFCD7, .mapped [0x0647, 0x062C]), (0xFCD8, .mapped [0x0647, 0x0645]), (0xFCD9, .mapped [0x0647, 0x0670]),
  (0xFCDA, .mapped [0x064A, 0x062C]), (0xFCDB, .mapped [0x064A, 0x062D]), (0xFCDC, .mapped [0x064A, 0x062E]),
  (0xFCDD, .mapped [0x064A, 0x0645]), (0xFCDE, .mapped [0x064A, 0x0647]), (0xFCDF, .mapped [0x0626, 0x0645]),
  (0xFCE0, .mapped [0x0626, 0x0647]), (0xFCE1, .mapped [0x0628, 0x0645]), (0xFCE2, .mapped [0x0628, 0x0647]),
  (0xFCE3, .mapped [0x062A, 0x0645]), (0xFCE4, .mapped [0x062A, 0x0647]), (0xFCE5, .mapped [0x062B, 0x0645]),
  (0xFCE6, .mapped [0x062B, 0x0647]), (0xFCE7, .mapped [0x0633, 0x0645]), (0xFCE8, .mapped [0x0633, 0x0647]),
  (0xFCE9, .mapped [0x0634, 0x0645]), (0xFCEA, .mapped [0x0634, 0x0647]), (0xFCEB, .mapped [0x0643, 0x0644]),
  (0xFCEC, .mapped [0x0643, 0x0645]), (0xFCED, .mapped [0x0644, 0x0645]), (0xFCEE, .mapped [0x0646, 0x0645]),
  (0xFCEF, .mapped [0x0646, 0x0647]), (0xFCF0, .mapped [0x064A, 0x0645]), (0xFCF1, .mapped [0x064A, 0x0647]),
  (0xFCF2, .mapped [0x0640, 0x064E, 0x0651]), (0xFCF3, .mapped [0x0640, 0x064F, 0x0651]), (0xFCF4, .mapped [0x0640, 0x0650, 0x0651]),
  (0xFCF5, .mapped [0x0637, 0x0649]), (0xFCF6, .mapped [0x0637, 0x064A]), (0xFCF7, .mapped [0x0639, 0x0649]),
  (0xFCF8, .mapped [0x0639, 0x064A])
]

/-- The rows of the mapping table, part 11 of 16. -/
def mappingRows10 : Array (Nat × IdnaStatus) := #[
  (0xFCF9, .mapped [0x063A, 0x0649]), (0xFCFA, .mapped [0x063A, 0x064A]), (0xFCFB, .mapped [0x0633, 0x0649]),
  (0xFCFC, .mapped [0x0633, 0x064A]), (0xFCFD, .mapped [0x0634, 0x0649]), (0xFCFE, .mapped [0x0634, 0x064A]),
  (0xFCFF, .mapped [0x062D, 0x0649]), (0xFD00, .mapped [0x062D, 0x064A]), (0xFD01, .mapped [0x062C, 0x0649]),
  (0xFD02, .mapped [0x062C, 0x064A]), (0xFD03, .mapped [0x062E, 0x0649]), (0xFD04, .mapped [0x062E, 0x064A]),
  (0xFD05, .mapped [0x0635, 0x0649]), (0xFD06, .mapped [0x0635, 0x064A]), (0xFD07, .mapped [0x0636, 0x0649]),
  (0xFD08, .mapped [0x0636, 0x064A]), (0xFD09, .mapped [0x0634, 0x062C]), (0xFD0A, .mapped [0x0634, 0x062D]),
  (0xFD0B, .mapped [0x0634, 0x062E]), (0xFD0C, .mapped [0x0634, 0x0645]), (0xFD0D, .mapped [0x0634, 0x0631]),
  (0xFD0E, .mapped [0x0633, 0x0631]), (0xFD0F, .mapped [0x0635, 0x0631]), (0xFD10, .mapped [0x0636, 0x0631]),
  (0xFD11, .mapped [0x0637, 0x0649]), (0xFD12, .mapped [0x0637, 0x064A]), (0xFD13, .mapped [0x0639, 0x0649]),
  (0xFD14, .mapped [0x0639, 0x064A]), (0xFD15, .mapped [0x063A, 0x0649]), (0xFD16, .mapped [0x063A, 0x064A]),
  (0xFD17, .mapped [0x0633, 0x0649]), (0xFD18, .mapped [0x0633, 0x064A]), (0xFD19, .mapped [0x0634, 0x0649]),
  (0xFD1A, .mapped [0x0634, 0x064A]), (0xFD1B, .mapped [0x062D, 0x0649]), (0xFD1C, .mapped [0x062D, 0x064A]),
  (0xFD1D, .mapped [0x062C, 0x0649]), (0xFD1E, .mapped [0x062C, 0x064A]), (0xFD1F, .mapped [0x062E, 0x0649]),
  (0xFD20, .mapped [0x062E, 0x064A]), (0xFD21, .mapped [0x0635, 0x0649]), (0xFD22, .mapped [0x0635, 0x064A]),
  (0xFD23, .mapped [0x0636, 0x0649]), (0xFD24, .mapped [0x0636, 0x064A]), (0xFD25, .mapped [0x0634, 0x062C]),
  (0xFD26, .mapped [0x0634, 0x062D]), (0xFD27, .mapped [0x0634, 0x062E]), (0xFD28, .mapped [0x0634, 0x0645]),
  (0xFD29, .mapped [0x0634, 0x0631]), (0xFD2A, .mapped [0x0633, 0x0631]), (0xFD2B, .mapped [0x0635, 0x0631]),
  (0xFD2C, .mapped [0x0636, 0x0631]), (0xFD2D, .mapped [0x0634, 0x062C]), (0xFD2E, .mapped [0x0634, 0x062D]),
  (0xFD2F, .mapped [0x0634, 0x062E]), (0xFD30, .mapped [0x0634, 0x0645]), (0xFD31, .mapped [0x0633, 0x0647]),
  (0xFD32, .mapped [0x0634, 0x0647]), (0xFD33, .mapped [0x0637, 0x0645]), (0xFD34, .mapped [0x0633, 0x062C]),
  (0xFD35, .mapped [0x0633, 0x062D]), (0xFD36, .mapped [0x0633, 0x062E]), (0xFD37, .mapped [0x0634, 0x062C]),
  (0xFD38, .mapped [0x0634, 0x062D]), (0xFD39, .mapped [0x0634, 0x062E]), (0xFD3A, .mapped [0x0637, 0x0645]),
  (0xFD3B, .mapped [0x0638, 0x0645]), (0xFD3C, .mapped [0x0627, 0x064B]), (0xFD3E, .valid),
  (0xFD50, .mapped [0x062A, 0x062C, 0x0645]), (0xFD51, .mapped [0x062A, 0x062D, 0x062C]), (0xFD53, .mapped [0x062A, 0x062D, 0x0645]),
  (0xFD54, .mapped [0x062A, 0x062E, 0x0645]), (0xFD55, .mapped [0x062A, 0x0645, 0x062C]), (0xFD56, .mapped [0x062A, 0x0645, 0x062D]),
  (0xFD57, .mapped [0x062A, 0x0645, 0x062E]), (0xFD58, .mapped [0x062C, 0x0645, 0x062D]), (0xFD5A, .mapped [0x062D, 0x0645, 0x064A]),
  (0xFD5B, .mapped [0x062D, 0x0645, 0x0649]), (0xFD5C, .mapped [0x0633, 0x062D, 0x062C]), (0xFD5D, .mapped [0x0633, 0x062C, 0x062D]),
  (0xFD5E, .mapped [0x0633, 0x062C, 0x0649]), (0xFD5F, .mapped [0x0633, 0x0645, 0x062D]), (0xFD61, .mapped [0x0633, 0x0645, 0x062C]),
  (0xFD62, .mapped [0x0633, 0x0645, 0x0645]), (0xFD64, .mapped [0x0635, 0x062D, 0x062D]), (0xFD66, .mapped [0x0635, 0x0645, 0x0645]),
  (0xFD67, .mapped [0x0634, 0x062D, 0x0645]), (0xFD69, .mapped [0x0634, 0x062C, 0x064A]), (0xFD6A, .mapped [0x0634, 0x0645, 0x062E]),
  (0xFD6C, .mapped [0x0634, 0x0645, 0x0645]), (0xFD6E, .mapped [0x0636, 0x062D, 0x0649]), (0xFD6F, .mapped [0x0636, 0x062E, 0x0645]),
  (0xFD71, .mapped [0x0637, 0x0645, 0x062D]), (0xFD73, .mapped [0x0637, 0x0645, 0x0645]), (0xFD74, .mapped [0x0637, 0x0645, 0x064A]),
  (0xFD75, .mapped [0x0639, 0x062C, 0x0645]), (0xFD76, .mapped [0x0639, 0x0645, 0x0645]), (0xFD78, .mapped [0x0639, 0x0645, 0x0649]),
  (0xFD79, .mapped [0x063A, 0x0645, 0x0645]), (0xFD7A, .mapped [0x063A, 0x0645, 0x064A]), (0xFD7B, .mapped [0x063A, 0x0645, 0x0649]),
  (0xFD7C, .mapped [0x0641, 0x062E, 0x0645]), (0xFD7E, .mapped [0x0642, 0x0645, 0x062D]), (0xFD7F, .mapped [0x0642, 0x0645, 0x0645]),
  (0xFD80, .mapped [0x0644, 0x062D, 0x0645]), (0xFD81, .mapped [0x0644, 0x062D, 0x064A]), (0xFD82, .mapped [0x0644, 0x062D, 0x0649]),
  (0xFD83, .mapped [0x0644, 0x062C, 0x062C]), (0xFD85, .mapped [0x0644, 0x062E, 0x0645]), (0xFD87, .mapped [0x0644, 0x0645, 0x062D]),
  (0xFD89, .mapped [0x0645, 0x062D, 0x062C]), (0xFD8A, .mapped [0x0645, 0x062D, 0x0645]), (0xFD8B, .mapped [0x0645, 0x062D, 0x064A]),
  (0xFD8C, .mapped [0x0645, 0x062C, 0x062D]), (0xFD8D, .mapped [0x0645, 0x062C, 0x0645]), (0xFD8E, .mapped [0x0645, 0x062E, 0x062C]),
  (0xFD8F, .mapped [0x0645, 0x062E, 0x0645]), (0xFD90, .valid), (0xFD92, .mapped [0x0645, 0x062C, 0x062E]),
  (0xFD93, .mapped [0x0647, 0x0645, 0x062C]), (0xFD94, .mapped [0x0647, 0x0645, 0x0645]), (0xFD95, .mapped [0x0646, 0x062D, 0x0645]),
  (0xFD96, .mapped [0x0646, 0x062D, 0x0649]), (0xFD97, .mapped [0x0646, 0x062C, 0x0645]), (0xFD99, .mapped [0x0646, 0x062C, 0x0649]),
  (0xFD9A, .mapped [0x0646, 0x0645, 0x064A]), (0xFD9B, .mapped [0x0646, 0x0645, 0x0649]), (0xFD9C, .mapped [0x064A, 0x0645, 0x0645]),
  (0xFD9E, .mapped [0x0628, 0x062E, 0x064A]), (0xFD9F, .mapped [0x062A, 0x062C, 0x064A]), (0xFDA0, .mapped [0x062A, 0x062C, 0x0649]),
  (0xFDA1, .mapped [0x062A, 0x062E, 0x064A]), (0xFDA2, .mapped [0x062A, 0x062E, 0x0649]), (0xFDA3, .mapped [0x062A, 0x0645, 0x064A]),
  (0xFDA4, .mapped [0x062A, 0x0645, 0x0649]), (0xFDA5, .mapped [0x062C, 0x0645, 0x064A]), (0xFDA6, .mapped [0x062C, 0x062D, 0x0649]),
  (0xFDA7, .mapped [0x062C, 0x0645, 0x0649]), (0xFDA8, .mapped [0x0633, 0x062E, 0x0649]), (0xFDA9, .mapped [0x0635, 0x062D, 0x064A]),
  (0xFDAA, .mapped [0x0634, 0x062D, 0x064A]), (0xFDAB, .mapped [0x0636, 0x062D, 0x064A]), (0xFDAC, .mapped [0x0644, 0x062C, 0x064A]),
  (0xFDAD, .mapped [0x0644, 0x0645, 0x064A]), (0xFDAE, .mapped [0x064A, 0x062D, 0x064A]), (0xFDAF, .mapped [0x064A, 0x062C, 0x064A]),
  (0xFDB0, .mapped [0x064A, 0x0645, 0x064A]), (0xFDB1, .mapped [0x0645, 0x0645, 0x064A]), (0xFDB2, .mapped [0x0642, 0x0645, 0x064A]),
  (0xFDB3, .mapped [0x0646, 0x062D, 0x064A]), (0xFDB4, .mapped [0x0642, 0x0645, 0x062D]), (0xFDB5, .mapped [0x0644, 0x062D, 0x0645]),
  (0xFDB6, .mapped [0x0639, 0x0645, 0x064A]), (0xFDB7, .mapped [0x0643, 0x0645, 0x064A]), (0xFDB8, .mapped [0x0646, 0x062C, 0x062D]),
  (0xFDB9, .mapped [0x0645, 0x062E, 0x064A]), (0xFDBA, .mapped [0x0644, 0x062C, 0x0645]), (0xFDBB, .mapped [0x0643, 0x0645, 0x0645]),
  (0xFDBC, .mapped [0x0644, 0x062C, 0x0645]), (0xFDBD, .mapped [0x0646, 0x062C, 0x062D]), (0xFDBE, .mapped [0x062C, 0x062D, 0x064A]),
  (0xFDBF, .mapped [0x062D, 0x062C, 0x064A]), (0xFDC0, .mapped [0x0645, 0x062C, 0x064A]), (0xFDC1, .mapped [0x0641, 0x0645, 0x064A]),
  (0xFDC2, .mapped [0x0628, 0x062D, 0x064A]), (0xFDC3, .mapped [0x0643, 0x0645, 0x0645]), (0xFDC4, .mapped [0x0639, 0x062C, 0x0645]),
  (0xFDC5, .mapped [0x0635, 0x0645, 0x0645]), (0xFDC6, .mapped [0x0633, 0x062E, 0x064A]), (0xFDC7, .mapped [0x0646, 0x062C, 0x064A]),
  (0xFDC8, .valid), (0xFDD0, .disallowed), (0xFDF0, .mapped [0x0635, 0x0644, 0x06D2]),
  (0xFDF1, .mapped [0x0642, 0x0644, 0x06D2]), (0xFDF2, .mapped [0x0627, 0x0644, 0x0644, 0x0647]), (0xFDF3, .mapped [0x0627, 0x0643, 0x0628, 0x0631]),
  (0xFDF4, .mapped [0x0645, 0x062D, 0x0645, 0x062F]), (0xFDF5, .mapped [0x0635, 0x0644, 0x0639, 0x0645]), (0xFDF6, .mapped [0x0631, 0x0633, 0x0648, 0x0644]),
  (0xFDF7, .mapped [0x0639, 0x0644, 0x064A, 0x0647]), (0xFDF8, .mapped [0x0648, 0x0633, 0x0644, 0x0645]), (0xFDF9, .mapped [0x0635, 0x0644, 0x0649]),
  (0xFDFA, .mapped [0x0635, 0x0644, 0x0649, 0x0020, 0x0627, 0x0644, 0x0644, 0x0647, 0x0020, 0x0639, 0x0644, 0x064A, 0x0647, 0x0020, 0x0648, 0x0633, 0x0644, 0x0645]), (0xFDFB, .mapped [0x062C, 0x0644, 0x0020, 0x062C, 0x0644, 0x0627, 0x0644, 0x0647]), (0xFDFC, .mapped [0x0631, 0x06CC, 0x0627, 0x0644]),
  (0xFDFD, .valid), (0xFE00, .ignored), (0xFE10, .shifted (-64996)),
  (0xFE11, .shifted (-52752)), (0xFE12, .disallowed), (0xFE13, .shifted (-64985)),
  (0xFE15, .shifted (-65012)), (0xFE16, .shifted (-64983)), (0xFE17, .shifted (-52737)),
  (0xFE19, .disallowed), (0xFE20, .valid), (0xFE30, .disallowed),
  (0xFE31, .shifted (-56861)), (0xFE32, .shifted (-56863)), (0xFE33, .mapped [0x005F]),
  (0xFE35, .shifted (-65037)), (0xFE37, .shifted (-64956)), (0xFE38, .shifted (-64955)),
  (0xFE39, .shifted (-52773)), (0xFE3B, .shifted (-52779)), (0xFE3D, .shifted (-52787)),
  (0xFE3F, .shifted (-52791)), (0xFE41, .shifted (-52789)), (0xFE45, .valid),
  (0xFE47, .shifted (-65004)), (0xFE48, .shifted (-65003)), (0xFE49, .mapped [0x0020, 0x0305]),
  (0xFE4D, .mapped [0x005F]), (0xFE50, .shifted (-65060)), (0xFE51, .shifted (-52816)),
  (0xFE52, .disallowed), (0xFE54, .shifted (-65049)), (0xFE55, .shifted (-65051)),
  (0xFE56, .shifted (-65047)), (0xFE57, .shifted (-65078)), (0xFE58, .shifted (-56900)),
  (0xFE59, .shifted (-65073)), (0xFE5B, .shifted (-64992)), (0xFE5C, .shifted (-64991)),
  (0xFE5D, .shifted (-52809)), (0xFE5F, .shifted (-65084)), (0xFE60, .shifted (-65082)),
  (0xFE61, .shifted (-65079)), (0xFE63, .shifted (-65078)), (0xFE64, .shifted (-65064)),
  (0xFE65, .shifted (-65063)), (0xFE66, .shifted (-65065)), (0xFE67, .disallowed),
  (0xFE68, .shifted (-65036)), (0xFE69, .shifted (-65093)), (0xFE6B, .shifted (-65067)),
  (0xFE6C, .disallowed), (0xFE70, .mapped [0x0020, 0x064B]), (0xFE71, .mapped [0x0640, 0x064B]),
  (0xFE72, .mapped [0x0020, 0x064C]), (0xFE73, .valid), (0xFE74, .mapped [0x0020, 0x064D]),
  (0xFE75, .disallowed), (0xFE76, .mapped [0x0020, 0x064E]), (0xFE77, .mapped [0x0640, 0x064E]),
  (0xFE78, .mapped [0x0020, 0x064F]), (0xFE79, .mapped [0x0640, 0x064F]), (0xFE7A, .mapped [0x0020, 0x0650]),
  (0xFE7B, .mapped [0x0640, 0x0650]), (0xFE7C, .mapped [0x0020, 0x0651]), (0xFE7D, .mapped [0x0640, 0x0651]),
  (0xFE7E, .mapped [0x0020, 0x0652]), (0xFE7F, .mapped [0x0640, 0x0652]), (0xFE80, .shifted (-63583)),
  (0xFE81, .mapped [0x0622]), (0xFE83, .mapped [0x0623]), (0xFE85, .mapped [0x0624]),
  (0xFE87, .mapped [0x0625]), (0xFE89, .mapped [0x0626]), (0xFE8D, .mapped [0x0627]),
  (0xFE8F, .mapped [0x0628]), (0xFE93, .mapped [0x0629]), (0xFE95, .mapped [0x062A]),
  (0xFE99, .mapped [0x062B]), (0xFE9D, .mapped [0x062C]), (0xFEA1, .mapped [0x062D]),
  (0xFEA5, .mapped [0x062E]), (0xFEA9, .mapped [0x062F]), (0xFEAB, .mapped [0x0630]),
  (0xFEAD, .mapped [0x0631]), (0xFEAF, .mapped [0x0632]), (0xFEB1, .mapped [0x0633]),
  (0xFEB5, .mapped [0x0634]), (0xFEB9, .mapped [0x0635]), (0xFEBD, .mapped [0x0636]),
  (0xFEC1, .mapped [0x0637]), (0xFEC5, .mapped [0x0638]), (0xFEC9, .mapped [0x0639]),
  (0xFECD, .mapped [0x063A]), (0xFED1, .mapped [0x0641]), (0xFED5, .mapped [0x0642]),
  (0xFED9, .mapped [0x0643]), (0xFEDD, .mapped [0x0644]), (0xFEE1, .mapped [0x0645]),
  (0xFEE5, .mapped [0x0646]), (0xFEE9, .mapped [0x0647]), (0xFEED, .mapped [0x0648]),
  (0xFEEF, .mapped [0x0649]), (0xFEF1, .mapped [0x064A]), (0xFEF5, .mapped [0x0644, 0x0622]),
  (0xFEF7, .mapped [0x0644, 0x0623]), (0xFEF9, .mapped [0x0644, 0x0625]), (0xFEFB, .mapped [0x0644, 0x0627]),
  (0xFEFD, .disallowed), (0xFEFF, .ignored), (0xFF00, .disallowed),
  (0xFF01, .shifted (-65248)), (0xFF21, .shifted (-65216)), (0xFF3B, .shifted (-65248)),
  (0xFF5F, .shifted (-54746)), (0xFF61, .shifted (-65331)), (0xFF62, .shifted (-53078)),
  (0xFF64, .shifted (-53091)), (0xFF65, .shifted (-52842)), (0xFF66, .shifted (-52852)),
  (0xFF67, .shifted (-52934)), (0xFF68, .shifted (-52933)), (0xFF69, .shifted (-52932)),
  (0xFF6A, .shifted (-52931)), (0xFF6B, .shifted (-52930)), (0xFF6C, .shifted (-52873)),
  (0xFF6D, .shifted (-52872)), (0xFF6E, .shifted (-52871)), (0xFF6F, .shifted (-52908)),
  (0xFF70, .shifted (-52852)), (0xFF71, .shifted (-52943)), (0xFF72, .shifted (-52942)),
  (0xFF73, .shifted (-52941)), (0xFF74, .shifted (-52940)), (0xFF75, .shifted (-52939)),
  (0xFF77, .shifted (-52938)), (0xFF78, .shifted (-52937)), (0xFF79, .shifted (-52936)),
  (0xFF7A, .shifted (-52935)), (0xFF7B, .shifted (-52934)), (0xFF7C, .shifted (-52933)),
  (0xFF7D, .shifted (-52932)), (0xFF7E, .shifted (-52931)), (0xFF7F, .shifted (-52930)),
  (0xFF80, .shifted (-52929)), (0xFF81, .shifted (-52928)), (0xFF82, .shifted (-52926)),
  (0xFF83, .shifted (-52925)), (0xFF84, .shifted (-52924)), (0xFF85, .shifted (-52923)),
  (0xFF8B, .shifted (-52921)), (0xFF8C, .shifted (-52919)), (0xFF8D, .shifted (-52917)),
  (0xFF8E, .shifted (-52915)), (0xFF8F, .shifted (-52913)), (0xFF94, .shifted (-52912)),
  (0xFF95, .shifted (-52911)), (0xFF96, .shifted (-52910)), (0xFF9C, .shifted (-52909)),
  (0xFF9D, .shifted (-52906)), (0xFF9E, .shifted (-52997)), (0xFFA0, .ignored),
  (0xFFA1, .shifted (-61089)), (0xFFA3, .shifted (-60921)), (0xFFA4, .shifted (-61090)),
  (0xFFA5, .shifted (-60921)), (0xFFA7, .shifted (-61092)), (0xFFAA, .shifted (-60922)),
  (0xFFB0, .shifted (-61078)), (0xFFB1, .shifted (-61099)), (0xFFB4, .shifted (-61075)),
  (0xFFB5, .shifted (-61100)), (0xFFBF, .disallowed), (0xFFC2, .shifted (-61025)),
  (0xFFC8, .disallowed), (0xFFCA, .shifted (-61027)), (0xFFD0, .disallowed),
  (0xFFD2, .shifted (-61029)), (0xFFD8, .disallowed), (0xFFDA, .shifted (-61031)),
  (0xFFDD, .disallowed), (0xFFE0, .shifted (-65342)), (0xFFE2, .shifted (-65334)),
  (0xFFE3, .mapped [0x0020, 0x0304]), (0xFFE4, .shifted (-65342)), (0xFFE5, .shifted (-65344)),
  (0xFFE6, .shifted (-57149)), (0xFFE7, .disallowed), (0xFFE8, .shifted (-56038)),
  (0xFFE9, .shifted (-56921)), (0xFFED, .shifted (-55885)), (0xFFEE, .shifted (-55843)),
  (0xFFEF, .disallowed), (0x10000, .valid), (0x1000C, .disallowed),
  (0x1000D, .valid), (0x10027, .disallowed), (0x10028, .valid),
  (0x1003B, .disallowed), (0x1003C, .valid), (0x1003E, .disallowed),
  (0x1003F, .valid), (0x1004E, .disallowed), (0x10050, .valid),
  (0x1005E, .disallowed), (0x10080, .valid), (0x100FB, .disallowed),
  (0x10100, .valid), (0x10103, .disallowed), (0x10107, .valid),
  (0x10134, .disallowed), (0x10137, .valid), (0x1018F, .disallowed),
  (0x10190, .valid)
]

/-- The rows of the mapping table, part 12 of 16. -/
def mappingRows11 : Array (Nat × IdnaStatus) := #[
  (0x1019D, .disallowed), (0x101A0, .valid), (0x101A1, .disallowed),
  (0x101D0, .valid), (0x101FE, .disallowed), (0x10280, .valid),
  (0x1029D, .disallowed), (0x102A0, .valid), (0x102D1, .disallowed),
  (0x102E0, .valid), (0x102FC, .disallowed), (0x10300, .valid),
  (0x10324, .disallowed), (0x1032D, .valid), (0x1034B, .disallowed),
  (0x10350, .valid), (0x1037B, .disallowed), (0x10380, .valid),
  (0x1039E, .disallowed), (0x1039F, .valid), (0x103C4, .disallowed),
  (0x103C8, .valid), (0x103D6, .disallowed), (0x10400, .shifted 40),
  (0x10428, .valid), (0x1049E, .disallowed), (0x104A0, .valid),
  (0x104AA, .disallowed), (0x104B0, .shifted 40), (0x104D4, .disallowed),
  (0x104D8, .valid), (0x104FC, .disallowed), (0x10500, .valid),
  (0x10528, .disallowed), (0x10530, .valid), (0x10564, .disallowed),
  (0x1056F, .valid), (0x10570, .shifted 39), (0x1057B, .disallowed),
  (0x1057C, .shifted 39), (0x1058B, .disallowed), (0x1058C, .shifted 39),
  (0x10593, .disallowed), (0x10594, .shifted 39), (0x10596, .disallowed),
  (0x10597, .valid), (0x105A2, .disallowed), (0x105A3, .valid),
  (0x105B2, .disallowed), (0x105B3, .valid), (0x105BA, .disallowed),
  (0x105BB, .valid), (0x105BD, .disallowed), (0x105C0, .valid),
  (0x105F4, .disallowed), (0x10600, .valid), (0x10737, .disallowed),
  (0x10740, .valid), (0x10756, .disallowed), (0x10760, .valid),
  (0x10768, .disallowed), (0x10780, .valid), (0x10781, .shifted (-66737)),
  (0x10783, .shifted (-67229)), (0x10784, .shifted (-66795)), (0x10785, .shifted (-66866)),
  (0x10786, .disallowed), (0x10787, .shifted (-66788)), (0x10788, .shifted (-23586)),
  (0x10789, .shifted (-66788)), (0x1078A, .shifted (-66790)), (0x1078B, .shifted (-66869)),
  (0x1078D, .shifted (-59900)), (0x1078E, .shifted (-66870)), (0x1078F, .shifted (-66865)),
  (0x10790, .shifted (-66791)), (0x10791, .shifted (-66861)), (0x10792, .shifted (-66864)),
  (0x10793, .shifted (-66867)), (0x10794, .shifted (-66809)), (0x10795, .shifted (-67182)),
  (0x10796, .shifted (-66810)), (0x10797, .shifted (-66864)), (0x10798, .shifted (-66836)),
  (0x10799, .shifted (-66799)), (0x1079B, .shifted (-66863)), (0x1079C, .shifted 55144),
  (0x1079D, .shifted (-24591)), (0x1079E, .shifted (-66864)), (0x1079F, .shifted 55142),
  (0x107A0, .shifted (-66834)), (0x107A1, .shifted 55141), (0x107A2, .shifted (-67242)),
  (0x107A3, .shifted (-66861)), (0x107A5, .shifted (-67380)), (0x107A6, .shifted (-66860)),
  (0x107A7, .shifted 55137), (0x107A8, .shifted (-66859)), (0x107AA, .shifted (-66858)),
  (0x107AB, .shifted (-66819)), (0x107AC, .shifted (-66822)), (0x107AD, .shifted (-23622)),
  (0x107AE, .shifted (-66823)), (0x107AF, .shifted (-66855)), (0x107B0, .shifted (-56127)),
  (0x107B1, .disallowed), (0x107B2, .shifted (-66851)), (0x107B3, .shifted (-66834)),
  (0x107B5, .shifted (-66845)), (0x107B6, .shifted (-67062)), (0x107B9, .shifted 55121),
  (0x107BA, .shifted 55140), (0x107BB, .disallowed), (0x10800, .valid),
  (0x10806, .disallowed), (0x10808, .valid), (0x10809, .disallowed),
  (0x1080A, .valid), (0x10836, .disallowed), (0x10837, .valid),
  (0x10839, .disallowed), (0x1083C, .valid), (0x1083D, .disallowed),
  (0x1083F, .valid), (0x10856, .disallowed), (0x10857, .valid),
  (0x1089F, .disallowed), (0x108A7, .valid), (0x108B0, .disallowed),
  (0x108E0, .valid), (0x108F3, .disallowed), (0x108F4, .valid),
  (0x108F6, .disallowed), (0x108FB, .valid), (0x1091C, .disallowed),
  (0x1091F, .valid), (0x1093A, .disallowed), (0x1093F, .valid),
  (0x1095A, .disallowed), (0x10980, .valid), (0x109B8, .disallowed),
  (0x109BC, .valid), (0x109D0, .disallowed), (0x109D2, .valid),
  (0x10A04, .disallowed), (0x10A05, .valid), (0x10A07, .disallowed),
  (0x10A0C, .valid), (0x10A14, .disallowed), (0x10A15, .valid),
  (0x10A18, .disallowed), (0x10A19, .valid), (0x10A36, .disallowed),
  (0x10A38, .valid), (0x10A3B, .disallowed), (0x10A3F, .valid),
  (0x10A49, .disallowed), (0x10A50, .valid), (0x10A59, .disallowed),
  (0x10A60, .valid), (0x10AA0, .disallowed), (0x10AC0, .valid),
  (0x10AE7, .disallowed), (0x10AEB, .valid), (0x10AF7, .disallowed),
  (0x10B00, .valid), (0x10B36, .disallowed), (0x10B39, .valid),
  (0x10B56, .disallowed), (0x10B58, .valid), (0x10B73, .disallowed),
  (0x10B78, .valid), (0x10B92, .disallowed), (0x10B99, .valid),
  (0x10B9D, .disallowed), (0x10BA9, .valid), (0x10BB0, .disallowed),
  (0x10C00, .valid), (0x10C49, .disallowed), (0x10C80, .shifted 64),
  (0x10CB3, .disallowed), (0x10CC0, .valid), (0x10CF3, .disallowed),
  (0x10CFA, .valid), (0x10D28, .disallowed), (0x10D30, .valid),
  (0x10D3A, .disallowed), (0x10D40, .valid), (0x10D50, .shifted 32),
  (0x10D66, .disallowed), (0x10D69, .valid), (0x10D86, .disallowed),
  (0x10D8E, .valid), (0x10D90, .disallowed), (0x10E60, .valid),
  (0x10E7F, .disallowed), (0x10E80, .valid), (0x10EAA, .disallowed),
  (0x10EAB, .valid), (0x10EAE, .disallowed), (0x10EB0, .valid),
  (0x10EB2, .disallowed), (0x10EC2, .valid), (0x10EC8, .disallowed),
  (0x10ED0, .valid), (0x10ED9, .disallowed), (0x10EFA, .valid),
  (0x10F28, .disallowed), (0x10F30, .valid), (0x10F5A, .disallowed),
  (0x10F70, .valid), (0x10F8A, .disallowed), (0x10FB0, .valid),
  (0x10FCC, .disallowed), (0x10FE0, .valid), (0x10FF7, .disallowed),
  (0x11000, .valid), (0x1104E, .disallowed), (0x11052, .valid),
  (0x11076, .disallowed), (0x1107F, .valid), (0x110BD, .disallowed),
  (0x110BE, .valid), (0x110C3, .disallowed), (0x110D0, .valid),
  (0x110E9, .disallowed), (0x110F0, .valid), (0x110FA, .disallowed),
  (0x11100, .valid), (0x11135, .disallowed), (0x11136, .valid),
  (0x11148, .disallowed), (0x11150, .valid), (0x11177, .disallowed),
  (0x11180, .valid), (0x111E0, .disallowed), (0x111E1, .valid),
  (0x111F5, .disallowed), (0x11200, .valid), (0x11212, .disallowed),
  (0x11213, .valid), (0x11242, .disallowed), (0x11280, .valid),
  (0x11287, .disallowed), (0x11288, .valid), (0x11289, .disallowed),
  (0x1128A, .valid), (0x1128E, .disallowed), (0x1128F, .valid),
  (0x1129E, .disallowed), (0x1129F, .valid), (0x112AA, .disallowed),
  (0x112B0, .valid), (0x112EB, .disallowed), (0x112F0, .valid),
  (0x112FA, .disallowed), (0x11300, .valid), (0x11304, .disallowed),
  (0x11305, .valid), (0x1130D, .disallowed), (0x1130F, .valid),
  (0x11311, .disallowed), (0x11313, .valid), (0x11329, .disallowed),
  (0x1132A, .valid), (0x11331, .disallowed), (0x11332, .valid),
  (0x11334, .disallowed), (0x11335, .valid), (0x1133A, .disallowed),
  (0x1133B, .valid), (0x11345, .disallowed), (0x11347, .valid),
  (0x11349, .disallowed), (0x1134B, .valid), (0x1134E, .disallowed),
  (0x11350, .valid), (0x11351, .disallowed), (0x11357, .valid),
  (0x11358, .disallowed), (0x1135D, .valid), (0x11364, .disallowed),
  (0x11366, .valid), (0x1136D, .disallowed), (0x11370, .valid),
  (0x11375, .disallowed), (0x11380, .valid), (0x1138A, .disallowed),
  (0x1138B, .valid), (0x1138C, .disallowed), (0x1138E, .valid),
  (0x1138F, .disallowed), (0x11390, .valid), (0x113B6, .disallowed),
  (0x113B7, .valid), (0x113C1, .disallowed), (0x113C2, .valid),
  (0x113C3, .disallowed), (0x113C5, .valid), (0x113C6, .disallowed),
  (0x113C7, .valid), (0x113CB, .disallowed), (0x113CC, .valid),
  (0x113D6, .disallowed), (0x113D7, .valid), (0x113D9, .disallowed),
  (0x113E1, .valid), (0x113E3, .disallowed), (0x11400, .valid),
  (0x1145C, .disallowed), (0x1145D, .valid), (0x11462, .disallowed),
  (0x11480, .valid), (0x114C8, .disallowed), (0x114D0, .valid),
  (0x114DA, .disallowed), (0x11580, .valid), (0x115B6, .disallowed),
  (0x115B8, .valid), (0x115DE, .disallowed), (0x11600, .valid),
  (0x11645, .disallowed), (0x11650, .valid), (0x1165A, .disallowed),
  (0x11660, .valid), (0x1166D, .disallowed), (0x11680, .valid),
  (0x116BA, .disallowed), (0x116C0, .valid), (0x116CA, .disallowed),
  (0x116D0, .valid), (0x116E4, .disallowed), (0x11700, .valid),
  (0x1171B, .disallowed), (0x1171D, .valid), (0x1172C, .disallowed),
  (0x11730, .valid), (0x11747, .disallowed), (0x11800, .valid),
  (0x1183C, .disallowed), (0x118A0, .shifted 32), (0x118C0, .valid),
  (0x118F3, .disallowed), (0x118FF, .valid), (0x11907, .disallowed),
  (0x11909, .valid), (0x1190A, .disallowed), (0x1190C, .valid),
  (0x11914, .disallowed), (0x11915, .valid), (0x11917, .disallowed),
  (0x11918, .valid), (0x11936, .disallowed), (0x11937, .valid),
  (0x11939, .disallowed), (0x1193B, .valid), (0x11947, .disallowed),
  (0x11950, .valid), (0x1195A, .disallowed), (0x119A0, .valid),
  (0x119A8, .disallowed), (0x119AA, .valid), (0x119D8, .disallowed),
  (0x119DA, .valid), (0x119E5, .disallowed), (0x11A00, .valid),
  (0x11A48, .disallowed), (0x11A50, .valid), (0x11AA3, .disallowed),
  (0x11AB0, .valid), (0x11AF9, .disallowed), (0x11B00, .valid),
  (0x11B0A, .disallowed), (0x11B60, .valid), (0x11B68, .disallowed),
  (0x11BC0, .valid), (0x11BE2, .disallowed), (0x11BF0, .valid),
  (0x11BFA, .disallowed), (0x11C00, .valid), (0x11C09, .disallowed),
  (0x11C0A, .valid), (0x11C37, .disallowed), (0x11C38, .valid),
  (0x11C46, .disallowed), (0x11C50, .valid), (0x11C6D, .disallowed),
  (0x11C70, .valid), (0x11C90, .disallowed), (0x11C92, .valid),
  (0x11CA8, .disallowed), (0x11CA9, .valid), (0x11CB7, .disallowed),
  (0x11D00, .valid), (0x11D07, .disallowed), (0x11D08, .valid),
  (0x11D0A, .disallowed), (0x11D0B, .valid), (0x11D37, .disallowed),
  (0x11D3A, .valid)
]

/-- The rows of the mapping table, part 13 of 16. -/
def mappingRows12 : Array (Nat × IdnaStatus) := #[
  (0x11D3B, .disallowed), (0x11D3C, .valid), (0x11D3E, .disallowed),
  (0x11D3F, .valid), (0x11D48, .disallowed), (0x11D50, .valid),
  (0x11D5A, .disallowed), (0x11D60, .valid), (0x11D66, .disallowed),
  (0x11D67, .valid), (0x11D69, .disallowed), (0x11D6A, .valid),
  (0x11D8F, .disallowed), (0x11D90, .valid), (0x11D92, .disallowed),
  (0x11D93, .valid), (0x11D99, .disallowed), (0x11DA0, .valid),
  (0x11DAA, .disallowed), (0x11DB0, .valid), (0x11DDC, .disallowed),
  (0x11DE0, .valid), (0x11DEA, .disallowed), (0x11EE0, .valid),
  (0x11EF9, .disallowed), (0x11F00, .valid), (0x11F11, .disallowed),
  (0x11F12, .valid), (0x11F3B, .disallowed), (0x11F3E, .valid),
  (0x11F5B, .disallowed), (0x11FB0, .valid), (0x11FB1, .disallowed),
  (0x11FC0, .valid), (0x11FF2, .disallowed), (0x11FFF, .valid),
  (0x1239A, .disallowed), (0x12400, .valid), (0x1246F, .disallowed),
  (0x12470, .valid), (0x12475, .disallowed), (0x12480, .valid),
  (0x12544, .disallowed), (0x12F90, .valid), (0x12FF3, .disallowed),
  (0x13000, .valid), (0x13430, .disallowed), (0x13440, .valid),
  (0x13456, .disallowed), (0x13460, .valid), (0x143FB, .disallowed),
  (0x14400, .valid), (0x14647, .disallowed), (0x16100, .valid),
  (0x1613A, .disallowed), (0x16800, .valid), (0x16A39, .disallowed),
  (0x16A40, .valid), (0x16A5F, .disallowed), (0x16A60, .valid),
  (0x16A6A, .disallowed), (0x16A6E, .valid), (0x16ABF, .disallowed),
  (0x16AC0, .valid), (0x16ACA, .disallowed), (0x16AD0, .valid),
  (0x16AEE, .disallowed), (0x16AF0, .valid), (0x16AF6, .disallowed),
  (0x16B00, .valid), (0x16B46, .disallowed), (0x16B50, .valid),
  (0x16B5A, .disallowed), (0x16B5B, .valid), (0x16B62, .disallowed),
  (0x16B63, .valid), (0x16B78, .disallowed), (0x16B7D, .valid),
  (0x16B90, .disallowed), (0x16D40, .valid), (0x16D7A, .disallowed),
  (0x16E40, .shifted 32), (0x16E60, .valid), (0x16E9B, .disallowed),
  (0x16EA0, .shifted 27), (0x16EB9, .disallowed), (0x16EBB, .valid),
  (0x16ED4, .disallowed), (0x16F00, .valid), (0x16F4B, .disallowed),
  (0x16F4F, .valid), (0x16F88, .disallowed), (0x16F8F, .valid),
  (0x16FA0, .disallowed), (0x16FE0, .valid), (0x16FE5, .disallowed),
  (0x16FF0, .valid), (0x16FF7, .disallowed), (0x17000, .valid),
  (0x18CD6, .disallowed), (0x18CFF, .valid), (0x18D1F, .disallowed),
  (0x18D80, .valid), (0x18DF3, .disallowed), (0x1AFF0, .valid),
  (0x1AFF4, .disallowed), (0x1AFF5, .valid), (0x1AFFC, .disallowed),
  (0x1AFFD, .valid), (0x1AFFF, .disallowed), (0x1B000, .valid),
  (0x1B123, .disallowed), (0x1B132, .valid), (0x1B133, .disallowed),
  (0x1B150, .valid), (0x1B153, .disallowed), (0x1B155, .valid),
  (0x1B156, .disallowed), (0x1B164, .valid), (0x1B168, .disallowed),
  (0x1B170, .valid), (0x1B2FC, .disallowed), (0x1BC00, .valid),
  (0x1BC6B, .disallowed), (0x1BC70, .valid), (0x1BC7D, .disallowed),
  (0x1BC80, .valid), (0x1BC89, .disallowed), (0x1BC90, .valid),
  (0x1BC9A, .disallowed), (0x1BC9C, .valid), (0x1BCA0, .ignored),
  (0x1BCA4, .disallowed), (0x1CC00, .valid), (0x1CCD6, .shifted (-117877)),
  (0x1CCF0, .shifted (-117952)), (0x1CCFA, .valid), (0x1CCFD, .disallowed),
  (0x1CD00, .valid), (0x1CEB4, .disallowed), (0x1CEBA, .valid),
  (0x1CED1, .disallowed), (0x1CEE0, .valid), (0x1CEF1, .disallowed),
  (0x1CF00, .valid), (0x1CF2E, .disallowed), (0x1CF30, .valid),
  (0x1CF47, .disallowed), (0x1CF50, .valid), (0x1CFC4, .disallowed),
  (0x1D000, .valid), (0x1D0F6, .disallowed), (0x1D100, .valid),
  (0x1D127, .disallowed), (0x1D129, .valid), (0x1D15E, .mapped [0x1D157, 0x1D165]),
  (0x1D15F, .mapped [0x1D158, 0x1D165]), (0x1D160, .mapped [0x1D158, 0x1D165, 0x1D16E]), (0x1D161, .mapped [0x1D158, 0x1D165, 0x1D16F]),
  (0x1D162, .mapped [0x1D158, 0x1D165, 0x1D170]), (0x1D163, .mapped [0x1D158, 0x1D165, 0x1D171]), (0x1D164, .mapped [0x1D158, 0x1D165, 0x1D172]),
  (0x1D165, .valid), (0x1D173, .ignored), (0x1D17B, .valid),
  (0x1D1BB, .mapped [0x1D1B9, 0x1D165]), (0x1D1BC, .mapped [0x1D1BA, 0x1D165]), (0x1D1BD, .mapped [0x1D1B9, 0x1D165, 0x1D16E]),
  (0x1D1BE, .mapped [0x1D1BA, 0x1D165, 0x1D16E]), (0x1D1BF, .mapped [0x1D1B9, 0x1D165, 0x1D16F]), (0x1D1C0, .mapped [0x1D1BA, 0x1D165, 0x1D16F]),
  (0x1D1C1, .valid), (0x1D1EB, .disallowed), (0x1D200, .valid),
  (0x1D246, .disallowed), (0x1D2C0, .valid), (0x1D2D4, .disallowed),
  (0x1D2E0, .valid), (0x1D2F4, .disallowed), (0x1D300, .valid),
  (0x1D357, .disallowed), (0x1D360, .valid), (0x1D379, .disallowed),
  (0x1D400, .shifted (-119711)), (0x1D41A, .shifted (-119737)), (0x1D434, .shifted (-119763)),
  (0x1D44E, .shifted (-119789)), (0x1D455, .disallowed), (0x1D456, .shifted (-119789)),
  (0x1D468, .shifted (-119815)), (0x1D482, .shifted (-119841)), (0x1D49C, .shifted (-119867)),
  (0x1D49D, .disallowed), (0x1D49E, .shifted (-119867)), (0x1D4A0, .disallowed),
  (0x1D4A2, .shifted (-119867)), (0x1D4A3, .disallowed), (0x1D4A5, .shifted (-119867)),
  (0x1D4A7, .disallowed), (0x1D4A9, .shifted (-119867)), (0x1D4AD, .disallowed),
  (0x1D4AE, .shifted (-119867)), (0x1D4B6, .shifted (-119893)), (0x1D4BA, .disallowed),
  (0x1D4BB, .shifted (-119893)), (0x1D4BC, .disallowed), (0x1D4BD, .shifted (-119893)),
  (0x1D4C4, .disallowed), (0x1D4C5, .shifted (-119893)), (0x1D4D0, .shifted (-119919)),
  (0x1D4EA, .shifted (-119945)), (0x1D504, .shifted (-119971)), (0x1D506, .disallowed),
  (0x1D507, .shifted (-119971)), (0x1D50B, .disallowed), (0x1D50D, .shifted (-119971)),
  (0x1D515, .disallowed), (0x1D516, .shifted (-119971)), (0x1D51D, .disallowed),
  (0x1D51E, .shifted (-119997)), (0x1D538, .shifted (-120023)), (0x1D53A, .disallowed),
  (0x1D53B, .shifted (-120023)), (0x1D53F, .disallowed), (0x1D540, .shifted (-120023)),
  (0x1D545, .disallowed), (0x1D546, .shifted (-120023)), (0x1D547, .disallowed),
  (0x1D54A, .shifted (-120023)), (0x1D551, .disallowed), (0x1D552, .shifted (-120049)),
  (0x1D56C, .shifted (-120075)), (0x1D586, .shifted (-120101)), (0x1D5A0, .shifted (-120127)),
  (0x1D5BA, .shifted (-120153)), (0x1D5D4, .shifted (-120179)), (0x1D5EE, .shifted (-120205)),
  (0x1D608, .shifted (-120231)), (0x1D622, .shifted (-120257)), (0x1D63C, .shifted (-120283)),
  (0x1D656, .shifted (-120309)), (0x1D670, .shifted (-120335)), (0x1D68A, .shifted (-120361)),
  (0x1D6A4, .shifted (-120179)), (0x1D6A5, .shifted (-119918)), (0x1D6A6, .disallowed),
  (0x1D6A8, .shifted (-119543)), (0x1D6B9, .shifted (-119553)), (0x1D6BA, .shifted (-119543)),
  (0x1D6C1, .shifted (-111802)), (0x1D6C2, .shifted (-119569)), (0x1D6D3, .mapped [0x03C3]),
  (0x1D6D5, .shifted (-119569)), (0x1D6DB, .shifted (-111833)), (0x1D6DC, .shifted (-119591)),
  (0x1D6DD, .shifted (-119589)), (0x1D6DE, .shifted (-119588)), (0x1D6DF, .shifted (-119577)),
  (0x1D6E0, .shifted (-119583)), (0x1D6E1, .shifted (-119585)), (0x1D6E2, .shifted (-119601)),
  (0x1D6F3, .shifted (-119611)), (0x1D6F4, .shifted (-119601)), (0x1D6FB, .shifted (-111860)),
  (0x1D6FC, .shifted (-119627)), (0x1D70D, .mapped [0x03C3]), (0x1D70F, .shifted (-119627)),
  (0x1D715, .shifted (-111891)), (0x1D716, .shifted (-119649)), (0x1D717, .shifted (-119647)),
  (0x1D718, .shifted (-119646)), (0x1D719, .shifted (-119635)), (0x1D71A, .shifted (-119641)),
  (0x1D71B, .shifted (-119643)), (0x1D71C, .shifted (-119659)), (0x1D72D, .shifted (-119669)),
  (0x1D72E, .shifted (-119659)), (0x1D735, .shifted (-111918)), (0x1D736, .shifted (-119685)),
  (0x1D747, .mapped [0x03C3]), (0x1D749, .shifted (-119685)), (0x1D74F, .shifted (-111949)),
  (0x1D750, .shifted (-119707)), (0x1D751, .shifted (-119705)), (0x1D752, .shifted (-119704)),
  (0x1D753, .shifted (-119693)), (0x1D754, .shifted (-119699)), (0x1D755, .shifted (-119701)),
  (0x1D756, .shifted (-119717)), (0x1D767, .shifted (-119727)), (0x1D768, .shifted (-119717)),
  (0x1D76F, .shifted (-111976)), (0x1D770, .shifted (-119743)), (0x1D781, .mapped [0x03C3]),
  (0x1D783, .shifted (-119743)), (0x1D789, .shifted (-112007)), (0x1D78A, .shifted (-119765)),
  (0x1D78B, .shifted (-119763)), (0x1D78C, .shifted (-119762)), (0x1D78D, .shifted (-119751)),
  (0x1D78E, .shifted (-119757)), (0x1D78F, .shifted (-119759)), (0x1D790, .shifted (-119775)),
  (0x1D7A1, .shifted (-119785)), (0x1D7A2, .shifted (-119775)), (0x1D7A9, .shifted (-112034)),
  (0x1D7AA, .shifted (-119801)), (0x1D7BB, .mapped [0x03C3]), (0x1D7BD, .shifted (-119801)),
  (0x1D7C3, .shifted (-112065)), (0x1D7C4, .shifted (-119823)), (0x1D7C5, .shifted (-119821)),
  (0x1D7C6, .shifted (-119820)), (0x1D7C7, .shifted (-119809)), (0x1D7C8, .shifted (-119815)),
  (0x1D7C9, .shifted (-119817)), (0x1D7CA, .mapped [0x03DD]), (0x1D7CC, .disallowed),
  (0x1D7CE, .shifted (-120734)), (0x1D7D8, .shifted (-120744)), (0x1D7E2, .shifted (-120754)),
  (0x1D7EC, .shifted (-120764)), (0x1D7F6, .shifted (-120774)), (0x1D800, .valid),
  (0x1DA8C, .disallowed), (0x1DA9B, .valid), (0x1DAA0, .disallowed),
  (0x1DAA1, .valid), (0x1DAB0, .disallowed), (0x1DF00, .valid),
  (0x1DF1F, .disallowed), (0x1DF25, .valid), (0x1DF2B, .disallowed),
  (0x1E000, .valid), (0x1E007, .disallowed), (0x1E008, .valid),
  (0x1E019, .disallowed), (0x1E01B, .valid), (0x1E022, .disallowed),
  (0x1E023, .valid), (0x1E025, .disallowed), (0x1E026, .valid),
  (0x1E02B, .disallowed), (0x1E030, .shifted (-121856)), (0x1E039, .shifted (-121855)),
  (0x1E03C, .shifted (-121854)), (0x1E047, .shifted (-121852)), (0x1E048, .shifted (-121851)),
  (0x1E04A, .shifted (-80321)), (0x1E04B, .shifted (-121714)), (0x1E04C, .shifted (-121846)),
  (0x1E04D, .shifted (-121845)), (0x1E04E, .shifted (-121701)), (0x1E04F, .shifted (-121760)),
  (0x1E050, .shifted (-121729)), (0x1E051, .shifted (-121889)), (0x1E05A, .shifted (-121888)),
  (0x1E05C, .shifted (-121886)), (0x1E05E, .shifted (-121885)), (0x1E05F, .shifted (-121884)),
  (0x1E065, .shifted (-121883)), (0x1E067, .shifted (-121814)), (0x1E068, .shifted (-121874)),
  (0x1E069, .shifted (-121876)), (0x1E06A, .shifted (-121867)), (0x1E06B, .shifted (-121792)),
  (0x1E06C, .shifted (-80411)), (0x1E06D, .shifted (-121788)), (0x1E06E, .disallowed),
  (0x1E08F, .valid), (0x1E090, .disallowed), (0x1E100, .valid),
  (0x1E12D, .disallowed), (0x1E130, .valid), (0x1E13E, .disallowed),
  (0x1E140, .valid), (0x1E14A, .disallowed), (0x1E14E, .valid),
  (0x1E150, .disallowed), (0x1E290, .valid), (0x1E2AF, .disallowed),
  (0x1E2C0, .valid), (0x1E2FA, .disallowed), (0x1E2FF, .valid),
  (0x1E300, .disallowed), (0x1E4D0, .valid), (0x1E4FA, .disallowed),
  (0x1E5D0, .valid), (0x1E5FB, .disallowed), (0x1E5FF, .valid),
  (0x1E600, .disallowed), (0x1E6C0, .valid), (0x1E6DF, .disallowed),
  (0x1E6E0, .valid), (0x1E6F6, .disallowed), (0x1E6FE, .valid),
  (0x1E700, .disallowed), (0x1E7E0, .valid), (0x1E7E7, .disallowed),
  (0x1E7E8, .valid)
]

/-- The rows of the mapping table, part 14 of 16. -/
def mappingRows13 : Array (Nat × IdnaStatus) := #[
  (0x1E7EC, .disallowed), (0x1E7ED, .valid), (0x1E7EF, .disallowed),
  (0x1E7F0, .valid), (0x1E7FF, .disallowed), (0x1E800, .valid),
  (0x1E8C5, .disallowed), (0x1E8C7, .valid), (0x1E8D7, .disallowed),
  (0x1E900, .shifted 34), (0x1E922, .valid), (0x1E94C, .disallowed),
  (0x1E950, .valid), (0x1E95A, .disallowed), (0x1E95E, .valid),
  (0x1E960, .disallowed), (0x1EC71, .valid), (0x1ECB5, .disallowed),
  (0x1ED01, .valid), (0x1ED3E, .disallowed), (0x1EE00, .shifted (-124889)),
  (0x1EE02, .shifted (-124886)), (0x1EE03, .shifted (-124884)), (0x1EE04, .disallowed),
  (0x1EE05, .shifted (-124861)), (0x1EE06, .shifted (-124884)), (0x1EE07, .shifted (-124890)),
  (0x1EE08, .shifted (-124881)), (0x1EE09, .shifted (-124863)), (0x1EE0A, .shifted (-124871)),
  (0x1EE0E, .shifted (-124891)), (0x1EE0F, .shifted (-124886)), (0x1EE10, .shifted (-124879)),
  (0x1EE11, .shifted (-124892)), (0x1EE12, .shifted (-124880)), (0x1EE13, .shifted (-124898)),
  (0x1EE14, .shifted (-124896)), (0x1EE15, .shifted (-124907)), (0x1EE17, .shifted (-124905)),
  (0x1EE18, .shifted (-124904)), (0x1EE19, .shifted (-124899)), (0x1EE1A, .shifted (-124898)),
  (0x1EE1B, .shifted (-124897)), (0x1EE1C, .shifted (-124846)), (0x1EE1D, .shifted (-124771)),
  (0x1EE1E, .shifted (-124797)), (0x1EE1F, .shifted (-124848)), (0x1EE20, .disallowed),
  (0x1EE21, .shifted (-124921)), (0x1EE22, .shifted (-124918)), (0x1EE23, .disallowed),
  (0x1EE24, .shifted (-124893)), (0x1EE25, .disallowed), (0x1EE27, .shifted (-124922)),
  (0x1EE28, .disallowed), (0x1EE29, .shifted (-124895)), (0x1EE2A, .shifted (-124903)),
  (0x1EE2E, .shifted (-124923)), (0x1EE2F, .shifted (-124918)), (0x1EE30, .shifted (-124911)),
  (0x1EE31, .shifted (-124924)), (0x1EE32, .shifted (-124912)), (0x1EE33, .disallowed),
  (0x1EE34, .shifted (-124928)), (0x1EE35, .shifted (-124939)), (0x1EE37, .shifted (-124937)),
  (0x1EE38, .disallowed), (0x1EE39, .shifted (-124931)), (0x1EE3A, .disallowed),
  (0x1EE3B, .shifted (-124929)), (0x1EE3C, .disallowed), (0x1EE42, .shifted (-124950)),
  (0x1EE43, .disallowed), (0x1EE47, .shifted (-124954)), (0x1EE48, .disallowed),
  (0x1EE49, .shifted (-124927)), (0x1EE4A, .disallowed), (0x1EE4B, .shifted (-124935)),
  (0x1EE4C, .disallowed), (0x1EE4D, .shifted (-124935)), (0x1EE4E, .shifted (-124955)),
  (0x1EE4F, .shifted (-124950)), (0x1EE50, .disallowed), (0x1EE51, .shifted (-124956)),
  (0x1EE52, .shifted (-124944)), (0x1EE53, .disallowed), (0x1EE54, .shifted (-124960)),
  (0x1EE55, .disallowed), (0x1EE57, .shifted (-124969)), (0x1EE58, .disallowed),
  (0x1EE59, .shifted (-124963)), (0x1EE5A, .disallowed), (0x1EE5B, .shifted (-124961)),
  (0x1EE5C, .disallowed), (0x1EE5D, .shifted (-124835)), (0x1EE5E, .disallowed),
  (0x1EE5F, .shifted (-124912)), (0x1EE60, .disallowed), (0x1EE61, .shifted (-124985)),
  (0x1EE62, .shifted (-124982)), (0x1EE63, .disallowed), (0x1EE64, .shifted (-124957)),
  (0x1EE65, .disallowed), (0x1EE67, .shifted (-124986)), (0x1EE68, .shifted (-124977)),
  (0x1EE69, .shifted (-124959)), (0x1EE6A, .shifted (-124967)), (0x1EE6B, .disallowed),
  (0x1EE6C, .shifted (-124967)), (0x1EE6E, .shifted (-124987)), (0x1EE6F, .shifted (-124982)),
  (0x1EE70, .shifted (-124975)), (0x1EE71, .shifted (-124988)), (0x1EE72, .shifted (-124976)),
  (0x1EE73, .disallowed), (0x1EE74, .shifted (-124992)), (0x1EE75, .shifted (-125003)),
  (0x1EE77, .shifted (-125001)), (0x1EE78, .disallowed), (0x1EE79, .shifted (-124995)),
  (0x1EE7A, .shifted (-124994)), (0x1EE7B, .shifted (-124993)), (0x1EE7C, .shifted (-124942)),
  (0x1EE7D, .disallowed), (0x1EE7E, .shifted (-124893)), (0x1EE7F, .disallowed),
  (0x1EE80, .shifted (-125017)), (0x1EE82, .shifted (-125014)), (0x1EE83, .shifted (-125012)),
  (0x1EE84, .shifted (-124989)), (0x1EE86, .shifted (-125012)), (0x1EE87, .shifted (-125018)),
  (0x1EE88, .shifted (-125009)), (0x1EE89, .shifted (-124991)), (0x1EE8A, .disallowed),
  (0x1EE8B, .shifted (-124999)), (0x1EE8E, .shifted (-125019)), (0x1EE8F, .shifted (-125014)),
  (0x1EE90, .shifted (-125007)), (0x1EE91, .shifted (-125020)), (0x1EE92, .shifted (-125008)),
  (0x1EE93, .shifted (-125026)), (0x1EE94, .shifted (-125024)), (0x1EE95, .shifted (-125035)),
  (0x1EE97, .shifted (-125033)), (0x1EE98, .shifted (-125032)), (0x1EE99, .shifted (-125027)),
  (0x1EE9A, .shifted (-125026)), (0x1EE9B, .shifted (-125025)), (0x1EE9C, .disallowed),
  (0x1EEA1, .shifted (-125049)), (0x1EEA2, .shifted (-125046)), (0x1EEA3, .shifted (-125044)),
  (0x1EEA4, .disallowed), (0x1EEA5, .shifted (-125021)), (0x1EEA6, .shifted (-125044)),
  (0x1EEA7, .shifted (-125050)), (0x1EEA8, .shifted (-125041)), (0x1EEA9, .shifted (-125023)),
  (0x1EEAA, .disallowed), (0x1EEAB, .shifted (-125031)), (0x1EEAE, .shifted (-125051)),
  (0x1EEAF, .shifted (-125046)), (0x1EEB0, .shifted (-125039)), (0x1EEB1, .shifted (-125052)),
  (0x1EEB2, .shifted (-125040)), (0x1EEB3, .shifted (-125058)), (0x1EEB4, .shifted (-125056)),
  (0x1EEB5, .shifted (-125067)), (0x1EEB7, .shifted (-125065)), (0x1EEB8, .shifted (-125064)),
  (0x1EEB9, .shifted (-125059)), (0x1EEBA, .shifted (-125058)), (0x1EEBB, .shifted (-125057)),
  (0x1EEBC, .disallowed), (0x1EEF0, .valid), (0x1EEF2, .disallowed),
  (0x1F000, .valid), (0x1F02C, .disallowed), (0x1F030, .valid),
  (0x1F094, .disallowed), (0x1F0A0, .valid), (0x1F0AF, .disallowed),
  (0x1F0B1, .valid), (0x1F0C0, .disallowed), (0x1F0C1, .valid),
  (0x1F0D0, .disallowed), (0x1F0D1, .valid), (0x1F0F6, .disallowed),
  (0x1F101, .mapped [0x0030, 0x002C]), (0x1F102, .mapped [0x0031, 0x002C]), (0x1F103, .mapped [0x0032, 0x002C]),
  (0x1F104, .mapped [0x0033, 0x002C]), (0x1F105, .mapped [0x0034, 0x002C]), (0x1F106, .mapped [0x0035, 0x002C]),
  (0x1F107, .mapped [0x0036, 0x002C]), (0x1F108, .mapped [0x0037, 0x002C]), (0x1F109, .mapped [0x0038, 0x002C]),
  (0x1F10A, .mapped [0x0039, 0x002C]), (0x1F10B, .valid), (0x1F110, .mapped [0x0028, 0x0061, 0x0029]),
  (0x1F111, .mapped [0x0028, 0x0062, 0x0029]), (0x1F112, .mapped [0x0028, 0x0063, 0x0029]), (0x1F113, .mapped [0x0028, 0x0064, 0x0029]),
  (0x1F114, .mapped [0x0028, 0x0065, 0x0029]), (0x1F115, .mapped [0x0028, 0x0066, 0x0029]), (0x1F116, .mapped [0x0028, 0x0067, 0x0029]),
  (0x1F117, .mapped [0x0028, 0x0068, 0x0029]), (0x1F118, .mapped [0x0028, 0x0069, 0x0029]), (0x1F119, .mapped [0x0028, 0x006A, 0x0029]),
  (0x1F11A, .mapped [0x0028, 0x006B, 0x0029]), (0x1F11B, .mapped [0x0028, 0x006C, 0x0029]), (0x1F11C, .mapped [0x0028, 0x006D, 0x0029]),
  (0x1F11D, .mapped [0x0028, 0x006E, 0x0029]), (0x1F11E, .mapped [0x0028, 0x006F, 0x0029]), (0x1F11F, .mapped [0x0028, 0x0070, 0x0029]),
  (0x1F120, .mapped [0x0028, 0x0071, 0x0029]), (0x1F121, .mapped [0x0028, 0x0072, 0x0029]), (0x1F122, .mapped [0x0028, 0x0073, 0x0029]),
  (0x1F123, .mapped [0x0028, 0x0074, 0x0029]), (0x1F124, .mapped [0x0028, 0x0075, 0x0029]), (0x1F125, .mapped [0x0028, 0x0076, 0x0029]),
  (0x1F126, .mapped [0x0028, 0x0077, 0x0029]), (0x1F127, .mapped [0x0028, 0x0078, 0x0029]), (0x1F128, .mapped [0x0028, 0x0079, 0x0029]),
  (0x1F129, .mapped [0x0028, 0x007A, 0x0029]), (0x1F12A, .mapped [0x3014, 0x0073, 0x3015]), (0x1F12B, .shifted (-127176)),
  (0x1F12C, .shifted (-127162)), (0x1F12D, .mapped [0x0063, 0x0064]), (0x1F12E, .mapped [0x0077, 0x007A]),
  (0x1F12F, .valid), (0x1F130, .shifted (-127183)), (0x1F14A, .mapped [0x0068, 0x0076]),
  (0x1F14B, .mapped [0x006D, 0x0076]), (0x1F14C, .mapped [0x0073, 0x0064]), (0x1F14D, .mapped [0x0073, 0x0073]),
  (0x1F14E, .mapped [0x0070, 0x0070, 0x0076]), (0x1F14F, .mapped [0x0077, 0x0063]), (0x1F150, .valid),
  (0x1F16A, .mapped [0x006D, 0x0063]), (0x1F16B, .mapped [0x006D, 0x0064]), (0x1F16C, .mapped [0x006D, 0x0072]),
  (0x1F16D, .valid), (0x1F190, .mapped [0x0064, 0x006A]), (0x1F191, .valid),
  (0x1F1AE, .disallowed), (0x1F1E6, .valid), (0x1F200, .mapped [0x307B, 0x304B]),
  (0x1F201, .mapped [0x30B3, 0x30B3]), (0x1F202, .shifted (-115021)), (0x1F203, .disallowed),
  (0x1F210, .shifted (-102341)), (0x1F211, .shifted (-104122)), (0x1F212, .shifted (-106054)),
  (0x1F213, .shifted (-115020)), (0x1F214, .shifted (-107400)), (0x1F215, .shifted (-104699)),
  (0x1F216, .shifted (-92211)), (0x1F217, .shifted (-104686)), (0x1F218, .shifted (-107380)),
  (0x1F219, .shifted (-101369)), (0x1F21A, .shifted (-98553)), (0x1F21B, .shifted (-101506)),
  (0x1F21C, .shifted (-106447)), (0x1F21D, .shifted (-103057)), (0x1F21E, .shifted (-106641)),
  (0x1F21F, .shifted (-101487)), (0x1F220, .shifted (-106499)), (0x1F221, .shifted (-95455)),
  (0x1F222, .shifted (-97539)), (0x1F223, .shifted (-91514)), (0x1F224, .shifted (-104756)),
  (0x1F225, .shifted (-105964)), (0x1F226, .shifted (-99090)), (0x1F227, .shifted (-102290)),
  (0x1F228, .shifted (-102099)), (0x1F229, .shifted (-107561)), (0x1F22A, .shifted (-107553)),
  (0x1F22B, .shifted (-90593)), (0x1F22C, .shifted (-103494)), (0x1F22D, .shifted (-107520)),
  (0x1F22E, .shifted (-106043)), (0x1F22F, .shifted (-102184)), (0x1F230, .shifted (-91328)),
  (0x1F231, .shifted (-102366)), (0x1F232, .shifted (-96433)), (0x1F233, .shifted (-96185)),
  (0x1F234, .shifted (-106028)), (0x1F235, .shifted (-99253)), (0x1F236, .shifted (-101165)),
  (0x1F237, .shifted (-101167)), (0x1F238, .shifted (-97541)), (0x1F239, .shifted (-106439)),
  (0x1F23A, .shifted (-105604)), (0x1F23B, .shifted (-90350)), (0x1F23C, .disallowed),
  (0x1F240, .mapped [0x3014, 0x672C, 0x3015]), (0x1F241, .mapped [0x3014, 0x4E09, 0x3015]), (0x1F242, .mapped [0x3014, 0x4E8C, 0x3015]),
  (0x1F243, .mapped [0x3014, 0x5B89, 0x3015]), (0x1F244, .mapped [0x3014, 0x70B9, 0x3015]), (0x1F245, .mapped [0x3014, 0x6253, 0x3015]),
  (0x1F246, .mapped [0x3014, 0x76D7, 0x3015]), (0x1F247, .mapped [0x3014, 0x52DD, 0x3015]), (0x1F248, .mapped [0x3014, 0x6557, 0x3015]),
  (0x1F249, .disallowed), (0x1F250, .shifted (-103097)), (0x1F251, .shifted (-106082)),
  (0x1F252, .disallowed), (0x1F260, .valid), (0x1F266, .disallowed),
  (0x1F300, .valid), (0x1F6D9, .disallowed), (0x1F6DC, .valid),
  (0x1F6ED, .disallowed), (0x1F6F0, .valid), (0x1F6FD, .disallowed),
  (0x1F700, .valid), (0x1F7DA, .disallowed), (0x1F7E0, .valid),
  (0x1F7EC, .disallowed), (0x1F7F0, .valid), (0x1F7F1, .disallowed),
  (0x1F800, .valid), (0x1F80C, .disallowed), (0x1F810, .valid),
  (0x1F848, .disallowed), (0x1F850, .valid), (0x1F85A, .disallowed),
  (0x1F860, .valid), (0x1F888, .disallowed), (0x1F890, .valid),
  (0x1F8AE, .disallowed), (0x1F8B0, .valid), (0x1F8BC, .disallowed),
  (0x1F8C0, .valid), (0x1F8C2, .disallowed), (0x1F8D0, .valid),
  (0x1F8D9, .disallowed), (0x1F900, .valid), (0x1FA58, .disallowed),
  (0x1FA60, .valid), (0x1FA6E, .disallowed), (0x1FA70, .valid),
  (0x1FA7D, .disallowed), (0x1FA80, .valid), (0x1FA8B, .disallowed),
  (0x1FA8E, .valid), (0x1FAC7, .disallowed), (0x1FAC8, .valid),
  (0x1FAC9, .disallowed), (0x1FACD, .valid), (0x1FADD, .disallowed),
  (0x1FADF, .valid), (0x1FAEB, .disallowed), (0x1FAEF, .valid),
  (0x1FAF9, .disallowed), (0x1FB00, .valid), (0x1FB93, .disallowed),
  (0x1FB94, .valid), (0x1FBF0, .shifted (-129984)), (0x1FBFA, .valid),
  (0x1FBFB, .disallowed), (0x20000, .valid), (0x2A6E0, .disallowed),
  (0x2A700, .valid), (0x2B81E, .disallowed), (0x2B820, .valid),
  (0x2CEAE, .disallowed), (0x2CEB0, .valid), (0x2EBE1, .disallowed),
  (0x2EBF0, .valid), (0x2EE5E, .disallowed), (0x2F800, .shifted (-174531)),
  (0x2F801, .shifted (-174537)), (0x2F802, .shifted (-174529)), (0x2F803, .shifted (-63201)),
  (0x2F804, .shifted (-174244)), (0x2F805, .shifted (-174167)), (0x2F806, .shifted (-174155)),
  (0x2F807, .shifted (-174085)), (0x2F808, .shifted (-173966)), (0x2F809, .shifted (-173936)),
  (0x2F80A, .shifted (-173859)), (0x2F80B, .shifted (-173884)), (0x2F80C, .shifted (-181102)),
  (0x2F80D, .shifted (-61907)), (0x2F80E, .shifted (-173761)), (0x2F80F, .shifted (-173755)),
  (0x2F810, .shifted (-173740)), (0x2F811, .shifted (-173722)), (0x2F812, .shifted (-62198)),
  (0x2F813, .shifted (-181082)), (0x2F814, .shifted (-173741)), (0x2F815, .shifted (-173704)),
  (0x2F816, .shifted (-62155)), (0x2F817, .shifted (-173696)), (0x2F818, .shifted (-173684)),
  (0x2F819, .shifted (-174413))
]

/-- The rows of the mapping table, part 15 of 16. -/
def mappingRows14 : Array (Nat × IdnaStatus) := #[
  (0x2F81A, .shifted (-173678)), (0x2F81B, .shifted (-173670)), (0x2F81C, .shifted (-26173)),
  (0x2F81D, .shifted (-173608)), (0x2F81E, .shifted (-173595)), (0x2F81F, .shifted (-181056)),
  (0x2F820, .shifted (-173541)), (0x2F821, .shifted (-173531)), (0x2F822, .shifted (-173488)),
  (0x2F823, .shifted (-173484)), (0x2F824, .shifted (-181007)), (0x2F825, .shifted (-173406)),
  (0x2F826, .shifted (-173405)), (0x2F827, .shifted (-173379)), (0x2F828, .shifted (-173358)),
  (0x2F829, .shifted (-173348)), (0x2F82B, .shifted (-173332)), (0x2F82C, .shifted (-173283)),
  (0x2F82D, .shifted (-173276)), (0x2F82E, .shifted (-173268)), (0x2F82F, .shifted (-173244)),
  (0x2F830, .shifted (-173235)), (0x2F831, .mapped [0x537F]), (0x2F834, .shifted (-60936)),
  (0x2F835, .shifted (-165829)), (0x2F836, .shifted (-173164)), (0x2F837, .shifted (-173144)),
  (0x2F838, .shifted (-60629)), (0x2F839, .shifted (-173134)), (0x2F83A, .shifted (-173129)),
  (0x2F83B, .shifted (-173109)), (0x2F83C, .shifted (-172958)), (0x2F83D, .shifted (-173061)),
  (0x2F83E, .shifted (-173046)), (0x2F83F, .shifted (-173015)), (0x2F840, .shifted (-172958)),
  (0x2F841, .shifted (-172875)), (0x2F842, .shifted (-172850)), (0x2F843, .shifted (-172784)),
  (0x2F844, .shifted (-172769)), (0x2F845, .mapped [0x5584]), (0x2F847, .shifted (-172718)),
  (0x2F848, .shifted (-172701)), (0x2F849, .shifted (-172694)), (0x2F84A, .shifted (-172680)),
  (0x2F84B, .shifted (-172341)), (0x2F84C, .shifted (-172614)), (0x2F84D, .shifted (-172342)),
  (0x2F84E, .shifted (-172541)), (0x2F84F, .shifted (-172507)), (0x2F850, .shifted (-173641)),
  (0x2F851, .shifted (-171875)), (0x2F852, .shifted (-172164)), (0x2F853, .shifted (-172127)),
  (0x2F854, .shifted (-172103)), (0x2F855, .shifted (-172234)), (0x2F856, .shifted (-172068)),
  (0x2F857, .shifted (-172070)), (0x2F858, .shifted (-171948)), (0x2F859, .shifted (-58229)),
  (0x2F85A, .shifted (-171880)), (0x2F85B, .shifted (-171876)), (0x2F85C, .shifted (-171862)),
  (0x2F85D, .shifted (-171843)), (0x2F85E, .shifted (-171836)), (0x2F85F, .shifted (-171773)),
  (0x2F860, .shifted (-57784)), (0x2F861, .shifted (-57719)), (0x2F862, .shifted (-171638)),
  (0x2F863, .shifted (-171592)), (0x2F864, .shifted (-171581)), (0x2F865, .shifted (-171661)),
  (0x2F866, .shifted (-171520)), (0x2F867, .shifted (-180601)), (0x2F868, .shifted (-180588)),
  (0x2F869, .shifted (-171361)), (0x2F86A, .mapped [0x5B3E]), (0x2F86C, .shifted (-56996)),
  (0x2F86D, .shifted (-171178)), (0x2F86E, .shifted (-171158)), (0x2F86F, .shifted (-171144)),
  (0x2F870, .shifted (-171133)), (0x2F871, .shifted (-56665)), (0x2F872, .shifted (-171123)),
  (0x2F873, .shifted (-171117)), (0x2F874, .shifted (-170273)), (0x2F875, .shifted (-171091)),
  (0x2F876, .shifted (-180469)), (0x2F877, .shifted (-171031)), (0x2F878, .shifted (-171018)),
  (0x2F879, .shifted (-170937)), (0x2F87A, .shifted (-170989)), (0x2F87B, .shifted (-55959)),
  (0x2F87C, .shifted (-170809)), (0x2F87D, .shifted (-55959)), (0x2F87E, .shifted (-170768)),
  (0x2F87F, .shifted (-170772)), (0x2F880, .shifted (-170756)), (0x2F881, .shifted (-170656)),
  (0x2F883, .shifted (-180308)), (0x2F884, .shifted (-170631)), (0x2F885, .shifted (-170589)),
  (0x2F886, .shifted (-170569)), (0x2F887, .shifted (-170526)), (0x2F888, .shifted (-180262)),
  (0x2F889, .shifted (-55046)), (0x2F88A, .shifted (-180238)), (0x2F88B, .shifted (-170459)),
  (0x2F88C, .shifted (-170457)), (0x2F88D, .shifted (-170455)), (0x2F88E, .shifted (-170436)),
  (0x2F88F, .shifted (-21757)), (0x2F890, .shifted (-170386)), (0x2F891, .mapped [0x22331]),
  (0x2F893, .shifted (-161426)), (0x2F894, .mapped [0x5F22]), (0x2F896, .shifted (-180175)),
  (0x2F897, .shifted (-50655)), (0x2F898, .shifted (-38590)), (0x2F899, .shifted (-170295)),
  (0x2F89A, .shifted (-170287)), (0x2F89B, .shifted (-180152)), (0x2F89C, .shifted (-170242)),
  (0x2F89D, .shifted (-170192)), (0x2F89E, .shifted (-170183)), (0x2F89F, .shifted (-170150)),
  (0x2F8A0, .shifted (-170015)), (0x2F8A1, .shifted (-180071)), (0x2F8A2, .shifted (-180102)),
  (0x2F8A3, .shifted (-169999)), (0x2F8A4, .shifted (-53712)), (0x2F8A5, .shifted (-169950)),
  (0x2F8A6, .shifted (-169822)), (0x2F8A7, .shifted (-169819)), (0x2F8A8, .shifted (-169818)),
  (0x2F8A9, .shifted (-169821)), (0x2F8AA, .shifted (-169776)), (0x2F8AB, .shifted (-169757)),
  (0x2F8AC, .shifted (-169722)), (0x2F8AD, .shifted (-169737)), (0x2F8AE, .shifted (-169727)),
  (0x2F8AF, .shifted (-169681)), (0x2F8B0, .shifted (-169662)), (0x2F8B1, .shifted (-169659)),
  (0x2F8B2, .shifted (-169634)), (0x2F8B3, .shifted (-169624)), (0x2F8B4, .shifted (-169559)),
  (0x2F8B5, .shifted (-169476)), (0x2F8B6, .shifted (-169442)), (0x2F8B7, .shifted (-169319)),
  (0x2F8B8, .shifted (-52652)), (0x2F8B9, .shifted (-169340)), (0x2F8BA, .shifted (-169406)),
  (0x2F8BB, .shifted (-169299)), (0x2F8BC, .shifted (-169273)), (0x2F8BD, .shifted (-169177)),
  (0x2F8BE, .shifted (-52429)), (0x2F8BF, .shifted (-169117)), (0x2F8C0, .shifted (-169211)),
  (0x2F8C1, .shifted (-169240)), (0x2F8C2, .shifted (-179860)), (0x2F8C3, .shifted (-169050)),
  (0x2F8C4, .shifted (-169030)), (0x2F8C5, .shifted (-169000)), (0x2F8C6, .shifted (-169039)),
  (0x2F8C7, .shifted (-179803)), (0x2F8C8, .shifted (-168825)), (0x2F8C9, .shifted (-168797)),
  (0x2F8CA, .shifted (-51392)), (0x2F8CB, .shifted (-168680)), (0x2F8CC, .shifted (-168404)),
  (0x2F8CD, .shifted (-168580)), (0x2F8CE, .shifted (-179637)), (0x2F8CF, .shifted (-168510)),
  (0x2F8D0, .shifted (-179656)), (0x2F8D1, .shifted (-179693)), (0x2F8D2, .shifted (-173888)),
  (0x2F8D3, .shifted (-173886)), (0x2F8D4, .shifted (-168404)), (0x2F8D5, .shifted (-168505)),
  (0x2F8D6, .shifted (-161833)), (0x2F8D7, .shifted (-177406)), (0x2F8D8, .shifted (-168385)),
  (0x2F8D9, .shifted (-168382)), (0x2F8DA, .shifted (-168377)), (0x2F8DB, .shifted (-168317)),
  (0x2F8DC, .shifted (-168329)), (0x2F8DD, .shifted (-50458)), (0x2F8DE, .shifted (-179605)),
  (0x2F8DF, .shifted (-168165)), (0x2F8E0, .shifted (-168283)), (0x2F8E1, .shifted (-168079)),
  (0x2F8E2, .shifted (-168029)), (0x2F8E3, .shifted (-50294)), (0x2F8E4, .shifted (-168022)),
  (0x2F8E5, .shifted (-168134)), (0x2F8E6, .shifted (-167890)), (0x2F8E7, .shifted (-179530)),
  (0x2F8E8, .shifted (-167846)), (0x2F8E9, .shifted (-167750)), (0x2F8EA, .shifted (-167680)),
  (0x2F8EB, .shifted (-167491)), (0x2F8EC, .shifted (-49737)), (0x2F8ED, .shifted (-167442)),
  (0x2F8EE, .shifted (-179414)), (0x2F8EF, .shifted (-167374)), (0x2F8F0, .shifted (-49225)),
  (0x2F8F1, .shifted (-167325)), (0x2F8F2, .shifted (-179364)), (0x2F8F3, .shifted (-167297)),
  (0x2F8F4, .shifted (-167253)), (0x2F8F5, .shifted (-167227)), (0x2F8F7, .shifted (-48746)),
  (0x2F8F8, .shifted (-56301)), (0x2F8F9, .shifted (-48639)), (0x2F8FA, .shifted (-167084)),
  (0x2F8FB, .shifted (-48191)), (0x2F8FC, .shifted (-166973)), (0x2F8FD, .shifted (-166960)),
  (0x2F8FE, .shifted (-167063)), (0x2F8FF, .shifted (-166889)), (0x2F900, .shifted (-166850)),
  (0x2F901, .shifted (-166794)), (0x2F902, .shifted (-166849)), (0x2F903, .shifted (-166810)),
  (0x2F904, .shifted (-166796)), (0x2F905, .shifted (-166784)), (0x2F906, .shifted (-48104)),
  (0x2F907, .shifted (-166867)), (0x2F908, .shifted (-166617)), (0x2F909, .shifted (-166555)),
  (0x2F90A, .shifted (-179159)), (0x2F90B, .shifted (-166464)), (0x2F90C, .shifted (-166469)),
  (0x2F90D, .shifted (-47676)), (0x2F90E, .shifted (-166677)), (0x2F90F, .shifted (-166305)),
  (0x2F910, .shifted (-47538)), (0x2F911, .shifted (-47491)), (0x2F912, .shifted (-166220)),
  (0x2F913, .shifted (-166106)), (0x2F914, .shifted (-166134)), (0x2F915, .shifted (-166138)),
  (0x2F916, .shifted (-179072)), (0x2F917, .shifted (-166093)), (0x2F918, .shifted (-166043)),
  (0x2F919, .shifted (-166050)), (0x2F91A, .shifted (-165997)), (0x2F91B, .shifted (-62454)),
  (0x2F91C, .shifted (-165847)), (0x2F91D, .shifted (-46778)), (0x2F91E, .shifted (-165762)),
  (0x2F91F, .shifted (-46452)), (0x2F920, .shifted (-165624)), (0x2F921, .shifted (-165612)),
  (0x2F922, .shifted (-165586)), (0x2F923, .shifted (-45851)), (0x2F924, .shifted (-165540)),
  (0x2F925, .shifted (-165520)), (0x2F926, .shifted (-45553)), (0x2F927, .shifted (-45331)),
  (0x2F928, .shifted (-165294)), (0x2F929, .shifted (-165278)), (0x2F92A, .shifted (-178814)),
  (0x2F92B, .shifted (-165254)), (0x2F92C, .mapped [0x3EB8]), (0x2F92E, .shifted (-165095)),
  (0x2F92F, .shifted (-165075)), (0x2F930, .shifted (-165055)), (0x2F931, .shifted (-165036)),
  (0x2F932, .shifted (-164968)), (0x2F933, .shifted (-178712)), (0x2F934, .shifted (-164880)),
  (0x2F935, .shifted (-44287)), (0x2F936, .shifted (-164856)), (0x2F937, .shifted (-44197)),
  (0x2F938, .shifted (-164808)), (0x2F939, .shifted (-55194)), (0x2F93A, .shifted (-164650)),
  (0x2F93B, .shifted (-43418)), (0x2F93C, .shifted (-43396)), (0x2F93D, .shifted (-43257)),
  (0x2F93E, .shifted (-178498)), (0x2F93F, .shifted (-178487)), (0x2F940, .shifted (-164428)),
  (0x2F941, .shifted (-43086)), (0x2F942, .shifted (-43088)), (0x2F943, .shifted (-43050)),
  (0x2F944, .shifted (-43025)), (0x2F945, .shifted (-164391)), (0x2F946, .mapped [0x771F]),
  (0x2F948, .shifted (-164350)), (0x2F949, .shifted (-178448)), (0x2F94A, .shifted (-164287)),
  (0x2F94B, .shifted (-178437)), (0x2F94C, .shifted (-178358)), (0x2F94D, .shifted (-42288)),
  (0x2F94E, .shifted (-164096)), (0x2F94F, .shifted (-164035)), (0x2F950, .shifted (-163972)),
  (0x2F951, .shifted (-178286)), (0x2F952, .shifted (-41772)), (0x2F953, .shifted (-163837)),
  (0x2F954, .shifted (-41658)), (0x2F955, .shifted (-41616)), (0x2F956, .shifted (-163783)),
  (0x2F957, .shifted (-163692)), (0x2F958, .shifted (-178217)), (0x2F959, .shifted (-163609)),
  (0x2F95A, .shifted (-163600)), (0x2F95B, .shifted (-163596)), (0x2F95C, .shifted (-40928)),
  (0x2F95D, .mapped [0x25AA7]), (0x2F95F, .shifted (-163441)), (0x2F960, .shifted (-178014)),
  (0x2F961, .shifted (-40374)), (0x2F962, .shifted (-163228)), (0x2F963, .shifted (-163226)),
  (0x2F964, .shifted (-177981)), (0x2F965, .shifted (-40165)), (0x2F966, .shifted (-162964)),
  (0x2F967, .shifted (-177863)), (0x2F968, .shifted (-162944)), (0x2F969, .shifted (-162950)),
  (0x2F96A, .shifted (-162922)), (0x2F96B, .shifted (-39397)), (0x2F96C, .shifted (-162825)),
  (0x2F96D, .shifted (-177772)), (0x2F96E, .shifted (-162727)), (0x2F96F, .shifted (-162669)),
  (0x2F970, .shifted (-162603)), (0x2F971, .shifted (-177725)), (0x2F972, .shifted (-38730)),
  (0x2F973, .shifted (-38700)), (0x2F974, .shifted (-177691)), (0x2F975, .shifted (-38556)),
  (0x2F976, .shifted (-162300)), (0x2F977, .shifted (-38457)), (0x2F978, .shifted (-162275)),
  (0x2F979, .shifted (-162175)), (0x2F97A, .shifted (-162165)), (0x2F97B, .shifted (-38049)),
  (0x2F97C, .shifted (-37977)), (0x2F97D, .shifted (-162077)), (0x2F97E, .shifted (-37846)),
  (0x2F97F, .shifted (-162063)), (0x2F980, .shifted (-50721)), (0x2F981, .shifted (-177580)),
  (0x2F982, .shifted (-162000)), (0x2F983, .shifted (-161920)), (0x2F984, .shifted (-177529)),
  (0x2F985, .shifted (-161863)), (0x2F986, .shifted (-171729)), (0x2F987, .shifted (-37344)),
  (0x2F988, .shifted (-37331)), (0x2F989, .shifted (-50678)), (0x2F98A, .shifted (-50670)),
  (0x2F98B, .shifted (-161674)), (0x2F98C, .shifted (-161672)), (0x2F98D, .shifted (-158191)),
  (0x2F98E, .shifted (-177443)), (0x2F98F, .shifted (-161534)), (0x2F990, .shifted (-161541)),
  (0x2F991, .shifted (-161524)), (0x2F992, .shifted (-173791)), (0x2F993, .shifted (-161506)),
  (0x2F994, .shifted (-161505)), (0x2F995, .shifted (-161496)), (0x2F996, .shifted (-161456)),
  (0x2F997, .shifted (-36443)), (0x2F998, .shifted (-161459)), (0x2F999, .shifted (-161404)),
  (0x2F99A, .shifted (-161335)), (0x2F99B, .shifted (-161262)), (0x2F99C, .shifted (-161401)),
  (0x2F99D, .shifted (-161248)), (0x2F99E, .shifted (-161207)), (0x2F99F, .shifted (-161096)),
  (0x2F9A0, .shifted (-161357)), (0x2F9A1, .shifted (-161239)), (0x2F9A2, .shifted (-161238)),
  (0x2F9A3, .shifted (-161223)), (0x2F9A4, .shifted (-36206)), (0x2F9A5, .shifted (-35898)),
  (0x2F9A6, .shifted (-36049)), (0x2F9A7, .shifted (-177276)), (0x2F9A8, .shifted (-160951)),
  (0x2F9A9, .shifted (-160950)), (0x2F9AA, .shifted (-160916)), (0x2F9AB, .shifted (-34273)),
  (0x2F9AC, .shifted (-160840)), (0x2F9AD, .shifted (-35457)), (0x2F9AE, .shifted (-177233)),
  (0x2F9AF, .shifted (-177230)), (0x2F9B0, .shifted (-35327)), (0x2F9B1, .shifted (-35039)),
  (0x2F9B2, .shifted (-177223)), (0x2F9B3, .shifted (-160611)), (0x2F9B4, .shifted (-160600)),
  (0x2F9B5, .shifted (-160590))
]

/-- The rows of the mapping table, part 16 of 16. -/
def mappingRows15 : Array (Nat × IdnaStatus) := #[
  (0x2F9B6, .shifted (-160589)), (0x2F9B7, .shifted (-160526)), (0x2F9B8, .shifted (-160560)),
  (0x2F9B9, .shifted (-160427)), (0x2F9BA, .shifted (-160472)), (0x2F9BB, .shifted (-160322)),
  (0x2F9BC, .shifted (-160404)), (0x2F9BD, .shifted (-160338)), (0x2F9BE, .shifted (-160312)),
  (0x2F9BF, .shifted (-177128)), (0x2F9C0, .shifted (-160223)), (0x2F9C1, .shifted (-160192)),
  (0x2F9C2, .shifted (-177097)), (0x2F9C3, .shifted (-160099)), (0x2F9C4, .shifted (-160097)),
  (0x2F9C5, .shifted (-33630)), (0x2F9C6, .shifted (-159983)), (0x2F9C7, .shifted (-159977)),
  (0x2F9C8, .shifted (-177043)), (0x2F9C9, .shifted (-159951)), (0x2F9CA, .shifted (-181519)),
  (0x2F9CB, .shifted (-33053)), (0x2F9CC, .shifted (-32870)), (0x2F9CD, .shifted (-176911)),
  (0x2F9CE, .shifted (-176903)), (0x2F9CF, .shifted (-159535)), (0x2F9D0, .shifted (-159459)),
  (0x2F9D1, .shifted (-159303)), (0x2F9D2, .shifted (-159101)), (0x2F9D3, .shifted (-32043)),
  (0x2F9D4, .shifted (-159017)), (0x2F9D5, .shifted (-158996)), (0x2F9D6, .shifted (-158907)),
  (0x2F9D7, .shifted (-158816)), (0x2F9D8, .shifted (-31401)), (0x2F9D9, .shifted (-61909)),
  (0x2F9DA, .shifted (-158735)), (0x2F9DB, .shifted (-158751)), (0x2F9DC, .shifted (-158700)),
  (0x2F9DD, .shifted (-61695)), (0x2F9DE, .shifted (-158474)), (0x2F9DF, .shifted (-158375)),
  (0x2F9E0, .shifted (-29710)), (0x2F9E1, .shifted (-29684)), (0x2F9E2, .shifted (-158030)),
  (0x2F9E3, .shifted (-157938)), (0x2F9E4, .shifted (-157907)), (0x2F9E5, .shifted (-29367)),
  (0x2F9E6, .shifted (-157899)), (0x2F9E7, .shifted (-157615)), (0x2F9E8, .shifted (-157457)),
  (0x2F9EA, .shifted (-157550)), (0x2F9EB, .shifted (-157170)), (0x2F9EC, .shifted (-157143)),
  (0x2F9ED, .shifted (-28147)), (0x2F9EE, .shifted (-156771)), (0x2F9EF, .shifted (-176218)),
  (0x2F9F0, .shifted (-156729)), (0x2F9F1, .shifted (-27770)), (0x2F9F2, .shifted (-176140)),
  (0x2F9F3, .shifted (-156464)), (0x2F9F4, .shifted (-171074)), (0x2F9F5, .shifted (-156370)),
  (0x2F9F6, .shifted (-26801)), (0x2F9F7, .shifted (-26589)), (0x2F9F8, .shifted (-176010)),
  (0x2F9F9, .shifted (-176003)), (0x2F9FA, .shifted (-156186)), (0x2F9FB, .shifted (-26097)),
  (0x2F9FC, .shifted (-175946)), (0x2F9FD, .shifted (-25959)), (0x2F9FE, .mapped [0x980B]),
  (0x2FA00, .shifted (-156119)), (0x2FA01, .shifted (-25675)), (0x2FA02, .shifted (-155936)),
  (0x2FA03, .shifted (-175824)), (0x2FA04, .shifted (-155867)), (0x2FA05, .shifted (-155742)),
  (0x2FA06, .shifted (-155716)), (0x2FA07, .shifted (-155657)), (0x2FA08, .shifted (-175674)),
  (0x2FA09, .shifted (-24281)), (0x2FA0A, .shifted (-155384)), (0x2FA0B, .shifted (-155083)),
  (0x2FA0C, .shifted (-154895)), (0x2FA0D, .shifted (-175423)), (0x2FA0E, .shifted (-175393)),
  (0x2FA0F, .shifted (-154792)), (0x2FA10, .shifted (-22850)), (0x2FA11, .shifted (-175385)),
  (0x2FA12, .shifted (-22797)), (0x2FA13, .shifted (-22533)), (0x2FA14, .shifted (-22403)),
  (0x2FA15, .shifted (-154458)), (0x2FA16, .shifted (-175296)), (0x2FA17, .shifted (-154398)),
  (0x2FA18, .shifted (-154394)), (0x2FA19, .shifted (-154388)), (0x2FA1A, .shifted (-154379)),
  (0x2FA1B, .shifted (-154373)), (0x2FA1C, .shifted (-154337)), (0x2FA1D, .shifted (-21533)),
  (0x2FA1E, .disallowed), (0x30000, .valid), (0x3134B, .disallowed),
  (0x31350, .valid), (0x3347A, .disallowed), (0xE0100, .ignored),
  (0xE01F0, .disallowed)
]

/-- The mapping table as a step function: each row gives the first code point it covers. -/
def mappingTable : StepTable IdnaStatus := ⟨mappingRows0 ++ mappingRows1 ++ mappingRows2 ++ mappingRows3 ++ mappingRows4 ++ mappingRows5 ++ mappingRows6 ++ mappingRows7 ++ mappingRows8 ++ mappingRows9 ++ mappingRows10 ++ mappingRows11 ++ mappingRows12 ++ mappingRows13 ++ mappingRows14 ++ mappingRows15, .disallowed⟩

/-- What the mapping step does with a character. -/
def status (c : Char) : IdnaStatus := mappingTable.get c.toNat

/-- The text that replaces a character in the mapping step: none for a disallowed one. -/
def mapChar (c : Char) : Option (List Char) :=
  match status c with
  | .valid => some [c]
  | .ignored => some []
  | .disallowed => none
  | .mapped text => some (text.map Char.ofNat)
  | .shifted offset => some [Char.ofNat (c.toNat + offset).toNat]

end InferRoute.Idna
