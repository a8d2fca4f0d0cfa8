import PocketCalculator.Text.CodePoints

/-!
# Characters and their combining marks

A letter with marks may be written as one composite character or as a base with marks behind it.
`composed` puts a text into its one normal form: composites are taken apart, the marks behind each
base are ordered by class, and what can be joined is joined again. Main statement: ordering the
marks only moves characters.

The tables are those of Unicode 14.0, less the composites of capital letters.
-/

namespace PocketCalculator

/-! ## Classes of marks -/

/-- Rows `(first, last, class)`. Marks of one class keep their order behind a base; a character that
is no mark has class zero. -/
def markClasses : List (Nat × Nat × Nat) :=
  [
    (0x0300, 0x0314, 230), (0x0315, 0x0315, 232), (0x0316, 0x0319, 220), (0x031A, 0x031A, 232),
    (0x031B, 0x031B, 216), (0x031C, 0x0320, 220), (0x0321, 0x0322, 202), (0x0323, 0x0326, 220),
    (0x0327, 0x0328, 202), (0x0329, 0x0333, 220), (0x0334, 0x0338, 1), (0x0339, 0x033C, 220),
    (0x033D, 0x0344, 230), (0x0345, 0x0345, 240), (0x0346, 0x0346, 230), (0x0347, 0x0349, 220),
    (0x034A, 0x034C, 230), (0x034D, 0x034E, 220), (0x0350, 0x0352, 230), (0x0353, 0x0356, 220),
    (0x0357, 0x0357, 230), (0x0358, 0x0358, 232), (0x0359, 0x035A, 220), (0x035B, 0x035B, 230),
    (0x035C, 0x035C, 233), (0x035D, 0x035E, 234), (0x035F, 0x035F, 233), (0x0360, 0x0361, 234),
    (0x0362, 0x0362, 233), (0x0363, 0x036F, 230), (0x0483, 0x0487, 230), (0x0591, 0x0591, 220),
    (0x0592, 0x0595, 230), (0x0596, 0x0596, 220), (0x0597, 0x0599, 230), (0x059A, 0x059A, 222),
    (0x059B, 0x059B, 220), (0x059C, 0x05A1, 230), (0x05A2, 0x05A7, 220), (0x05A8, 0x05A9, 230),
    (0x05AA, 0x05AA, 220), (0x05AB, 0x05AC, 230), (0x05AD, 0x05AD, 222), (0x05AE, 0x05AE, 228),
    (0x05AF, 0x05AF, 230), (0x05B0, 0x05B0, 10), (0x05B1, 0x05B1, 11), (0x05B2, 0x05B2, 12),
    (0x05B3, 0x05B3, 13), (0x05B4, 0x05B4, 14), (0x05B5, 0x05B5, 15), (0x05B6, 0x05B6, 16),
    (0x05B7, 0x05B7, 17), (0x05B8, 0x05B8, 18), (0x05B9, 0x05BA, 19), (0x05BB, 0x05BB, 20),
    (0x05BC, 0x05BC, 21), (0x05BD, 0x05BD, 22), (0x05BF, 0x05BF, 23), (0x05C1, 0x05C1, 24),
    (0x05C2, 0x05C2, 25), (0x05C4, 0x05C4, 230), (0x05C5, 0x05C5, 220), (0x05C7, 0x05C7, 18),
    (0x0610, 0x0617, 230), (0x0618, 0x0618, 30), (0x0619, 0x0619, 31), (0x061A, 0x061A, 32),
    (0x064B, 0x064B, 27), (0x064C, 0x064C, 28), (0x064D, 0x064D, 29), (0x064E, 0x064E, 30),
    (0x064F, 0x064F, 31), (0x0650, 0x0650, 32), (0x0651, 0x0651, 33), (0x0652, 0x0652, 34),
    (0x0653, 0x0654, 230), (0x0655, 0x0656, 220), (0x0657, 0x065B, 230), (0x065C, 0x065C, 220),
    (0x065D, 0x065E, 230), (0x065F, 0x065F, 220), (0x0670, 0x0670, 35), (0x06D6, 0x06DC, 230),
    (0x06DF, 0x06E2, 230), (0x06E3, 0x06E3, 220), (0x06E4, 0x06E4, 230), (0x06E7, 0x06E8, 230),
    (0x06EA, 0x06EA, 220), (0x06EB, 0x06EC, 230), (0x06ED, 0x06ED, 220), (0x0711, 0x0711, 36),
    (0x0730, 0x0730, 230), (0x0731, 0x0731, 220), (0x0732, 0x0733, 230), (0x0734, 0x0734, 220),
    (0x0735, 0x0736, 230), (0x0737, 0x0739, 220), (0x073A, 0x073A, 230), (0x073B, 0x073C, 220),
    (0x073D, 0x073D, 230), (0x073E, 0x073E, 220), (0x073F, 0x0741, 230), (0x0742, 0x0742, 220),
    (0x0743, 0x0743, 230), (0x0744, 0x0744, 220), (0x0745, 0x0745, 230), (0x0746, 0x0746, 220),
    (0x0747, 0x0747, 230), (0x0748, 0x0748, 220), (0x0749, 0x074A, 230), (0x07EB, 0x07F1, 230),
    (0x07F2, 0x07F2, 220), (0x07F3, 0x07F3, 230), (0x07FD, 0x07FD, 220), (0x0816, 0x0819, 230),
    (0x081B, 0x0823, 230), (0x0825, 0x0827, 230), (0x0829, 0x082D, 230), (0x0859, 0x085B, 220),
    (0x0898, 0x0898, 230), (0x0899, 0x089B, 220), (0x089C, 0x089F, 230), (0x08CA, 0x08CE, 230),
    (0x08CF, 0x08D3, 220), (0x08D4, 0x08E1, 230), (0x08E3, 0x08E3, 220), (0x08E4, 0x08E5, 230),
    (0x08E6, 0x08E6, 220), (0x08E7, 0x08E8, 230), (0x08E9, 0x08E9, 220), (0x08EA, 0x08EC, 230),
    (0x08ED, 0x08EF, 220), (0x08F0, 0x08F0, 27), (0x08F1, 0x08F1, 28), (0x08F2, 0x08F2, 29),
    (0x08F3, 0x08F5, 230), (0x08F6, 0x08F6, 220), (0x08F7, 0x08F8, 230), (0x08F9, 0x08FA, 220),
    (0x08FB, 0x08FF, 230), (0x093C, 0x093C, 7), (0x094D, 0x094D, 9), (0x0951, 0x0951, 230),
    (0x0952, 0x0952, 220), (0x0953, 0x0954, 230), (0x09BC, 0x09BC, 7), (0x09CD, 0x09CD, 9),
    (0x09FE, 0x09FE, 230), (0x0A3C, 0x0A3C, 7), (0x0A4D, 0x0A4D, 9), (0x0ABC, 0x0ABC, 7),
    (0x0ACD, 0x0ACD, 9), (0x0B3C, 0x0B3C, 7), (0x0B4D, 0x0B4D, 9), (0x0BCD, 0x0BCD, 9),
    (0x0C3C, 0x0C3C, 7), (0x0C4D, 0x0C4D, 9), (0x0C55, 0x0C55, 84), (0x0C56, 0x0C56, 91),
    (0x0CBC, 0x0CBC, 7), (0x0CCD, 0x0CCD, 9), (0x0D3B, 0x0D3C, 9), (0x0D4D, 0x0D4D, 9),
    (0x0DCA, 0x0DCA, 9), (0x0E38, 0x0E39, 103), (0x0E3A, 0x0E3A, 9), (0x0E48, 0x0E4B, 107),
    (0x0EB8, 0x0EB9, 118), (0x0EBA, 0x0EBA, 9), (0x0EC8, 0x0ECB, 122), (0x0F18, 0x0F19, 220),
    (0x0F35, 0x0F35, 220), (0x0F37, 0x0F37, 220), (0x0F39, 0x0F39, 216), (0x0F71, 0x0F71, 129),
    (0x0F72, 0x0F72, 130), (0x0F74, 0x0F74, 132), (0x0F7A, 0x0F7D, 130), (0x0F80, 0x0F80, 130),
    (0x0F82, 0x0F83, 230), (0x0F84, 0x0F84, 9), (0x0F86, 0x0F87, 230), (0x0FC6, 0x0FC6, 220),
    (0x1037, 0x1037, 7), (0x1039, 0x103A, 9), (0x108D, 0x108D, 220), (0x135D, 0x135F, 230),
    (0x1714, 0x1715, 9), (0x1734, 0x1734, 9), (0x17D2, 0x17D2, 9), (0x17DD, 0x17DD, 230),
    (0x18A9, 0x18A9, 228), (0x1939, 0x1939, 222), (0x193A, 0x193A, 230), (0x193B, 0x193B, 220),
    (0x1A17, 0x1A17, 230), (0x1A18, 0x1A18, 220), (0x1A60, 0x1A60, 9), (0x1A75, 0x1A7C, 230),
    (0x1A7F, 0x1A7F, 220), (0x1AB0, 0x1AB4, 230), (0x1AB5, 0x1ABA, 220), (0x1ABB, 0x1ABC, 230),
    (0x1ABD, 0x1ABD, 220), (0x1ABF, 0x1AC0, 220), (0x1AC1, 0x1AC2, 230), (0x1AC3, 0x1AC4, 220),
    (0x1AC5, 0x1AC9, 230), (0x1ACA, 0x1ACA, 220), (0x1ACB, 0x1ACE, 230), (0x1B34, 0x1B34, 7),
    (0x1B44, 0x1B44, 9), (0x1B6B, 0x1B6B, 230), (0x1B6C, 0x1B6C, 220), (0x1B6D, 0x1B73, 230),
    (0x1BAA, 0x1BAB, 9), (0x1BE6, 0x1BE6, 7), (0x1BF2, 0x1BF3, 9), (0x1C37, 0x1C37, 7),
    (0x1CD0, 0x1CD2, 230), (0x1CD4, 0x1CD4, 1), (0x1CD5, 0x1CD9, 220), (0x1CDA, 0x1CDB, 230),
    (0x1CDC, 0x1CDF, 220), (0x1CE0, 0x1CE0, 230), (0x1CE2, 0x1CE8, 1), (0x1CED, 0x1CED, 220),
    (0x1CF4, 0x1CF4, 230), (0x1CF8, 0x1CF9, 230), (0x1DC0, 0x1DC1, 230), (0x1DC2, 0x1DC2, 220),
    (0x1DC3, 0x1DC9, 230), (0x1DCA, 0x1DCA, 220), (0x1DCB, 0x1DCC, 230), (0x1DCD, 0x1DCD, 234),
    (0x1DCE, 0x1DCE, 214), (0x1DCF, 0x1DCF, 220), (0x1DD0, 0x1DD0, 202), (0x1DD1, 0x1DF5, 230),
    (0x1DF6, 0x1DF6, 232), (0x1DF7, 0x1DF8, 228), (0x1DF9, 0x1DF9, 220), (0x1DFA, 0x1DFA, 218),
    (0x1DFB, 0x1DFB, 230), (0x1DFC, 0x1DFC, 233), (0x1DFD, 0x1DFD, 220), (0x1DFE, 0x1DFE, 230),
    (0x1DFF, 0x1DFF, 220), (0x20D0, 0x20D1, 230), (0x20D2, 0x20D3, 1), (0x20D4, 0x20D7, 230),
    (0x20D8, 0x20DA, 1), (0x20DB, 0x20DC, 230), (0x20E1, 0x20E1, 230), (0x20E5, 0x20E6, 1),
    (0x20E7, 0x20E7, 230), (0x20E8, 0x20E8, 220), (0x20E9, 0x20E9, 230), (0x20EA, 0x20EB, 1),
    (0x20EC, 0x20EF, 220), (0x20F0, 0x20F0, 230), (0x2CEF, 0x2CF1, 230), (0x2D7F, 0x2D7F, 9),
    (0x2DE0, 0x2DFF, 230), (0x302A, 0x302A, 218), (0x302B, 0x302B, 228), (0x302C, 0x302C, 232),
    (0x302D, 0x302D, 222), (0x302E, 0x302F, 224), (0x3099, 0x309A, 8), (0xA66F, 0xA66F, 230),
    (0xA674, 0xA67D, 230), (0xA69E, 0xA69F, 230), (0xA6F0, 0xA6F1, 230), (0xA806, 0xA806, 9),
    (0xA82C, 0xA82C, 9), (0xA8C4, 0xA8C4, 9), (0xA8E0, 0xA8F1, 230), (0xA92B, 0xA92D, 220),
    (0xA953, 0xA953, 9), (0xA9B3, 0xA9B3, 7), (0xA9C0, 0xA9C0, 9), (0xAAB0, 0xAAB0, 230),
    (0xAAB2, 0xAAB3, 230), (0xAAB4, 0xAAB4, 220), (0xAAB7, 0xAAB8, 230), (0xAABE, 0xAABF, 230),
    (0xAAC1, 0xAAC1, 230), (0xAAF6, 0xAAF6, 9), (0xABED, 0xABED, 9), (0xFB1E, 0xFB1E, 26),
    (0xFE20, 0xFE26, 230), (0xFE27, 0xFE2D, 220), (0xFE2E, 0xFE2F, 230), (0x101FD, 0x101FD, 220),
    (0x102E0, 0x102E0, 220), (0x10376, 0x1037A, 230), (0x10A0D, 0x10A0D, 220),
    (0x10A0F, 0x10A0F, 230), (0x10A38, 0x10A38, 230), (0x10A39, 0x10A39, 1),
    (0x10A3A, 0x10A3A, 220), (0x10A3F, 0x10A3F, 9), (0x10AE5, 0x10AE5, 230),
    (0x10AE6, 0x10AE6, 220), (0x10D24, 0x10D27, 230), (0x10EAB, 0x10EAC, 230),
    (0x10F46, 0x10F47, 220), (0x10F48, 0x10F4A, 230), (0x10F4B, 0x10F4B, 220),
    (0x10F4C, 0x10F4C, 230), (0x10F4D, 0x10F50, 220), (0x10F82, 0x10F82, 230),
    (0x10F83, 0x10F83, 220), (0x10F84, 0x10F84, 230), (0x10F85, 0x10F85, 220),
    (0x11046, 0x11046, 9), (0x11070, 0x11070, 9), (0x1107F, 0x1107F, 9), (0x110B9, 0x110B9, 9),
    (0x110BA, 0x110BA, 7), (0x11100, 0x11102, 230), (0x11133, 0x11134, 9), (0x11173, 0x11173, 7),
    (0x111C0, 0x111C0, 9), (0x111CA, 0x111CA, 7), (0x11235, 0x11235, 9), (0x11236, 0x11236, 7),
    (0x112E9, 0x112E9, 7), (0x112EA, 0x112EA, 9), (0x1133B, 0x1133C, 7), (0x1134D, 0x1134D, 9),
    (0x11366, 0x1136C, 230), (0x11370, 0x11374, 230), (0x11442, 0x11442, 9), (0x11446, 0x11446, 7),
    (0x1145E, 0x1145E, 230), (0x114C2, 0x114C2, 9), (0x114C3, 0x114C3, 7), (0x115BF, 0x115BF, 9),
    (0x115C0, 0x115C0, 7), (0x1163F, 0x1163F, 9), (0x116B6, 0x116B6, 9), (0x116B7, 0x116B7, 7),
    (0x1172B, 0x1172B, 9), (0x11839, 0x11839, 9), (0x1183A, 0x1183A, 7), (0x1193D, 0x1193E, 9),
    (0x11943, 0x11943, 7), (0x119E0, 0x119E0, 9), (0x11A34, 0x11A34, 9), (0x11A47, 0x11A47, 9),
    (0x11A99, 0x11A99, 9), (0x11C3F, 0x11C3F, 9), (0x11D42, 0x11D42, 7), (0x11D44, 0x11D45, 9),
    (0x11D97, 0x11D97, 9), (0x16AF0, 0x16AF4, 1), (0x16B30, 0x16B36, 230), (0x16FF0, 0x16FF1, 6),
    (0x1BC9E, 0x1BC9E, 1), (0x1D165, 0x1D166, 216), (0x1D167, 0x1D169, 1), (0x1D16D, 0x1D16D, 226),
    (0x1D16E, 0x1D172, 216), (0x1D17B, 0x1D182, 220), (0x1D185, 0x1D189, 230),
    (0x1D18A, 0x1D18B, 220), (0x1D1AA, 0x1D1AD, 230), (0x1D242, 0x1D244, 230),
    (0x1E000, 0x1E006, 230), (0x1E008, 0x1E018, 230), (0x1E01B, 0x1E021, 230),
    (0x1E023, 0x1E024, 230), (0x1E026, 0x1E02A, 230), (0x1E130, 0x1E136, 230),
    (0x1E2AE, 0x1E2AE, 230), (0x1E2EC, 0x1E2EF, 230), (0x1E8D0, 0x1E8D6, 220),
    (0x1E944, 0x1E949, 230), (0x1E94A, 0x1E94A, 7)
  ]

def markClass (c : Char) : Nat :=
  match markClasses.find? fun (lo, hi, _) => lo ≤ c.toNat && c.toNat ≤ hi with
  | some (_, _, k) => k
  | none => 0

/-! ## Composites -/

/-- Composite characters with their two parts; the first part may be a composite again. -/
def compositeListings : List Listing :=
  Listing.ofLines [
    "E0 61.300 61.301 61.302 61.303 61.308 61.30A - 63.327 65.300 65.301 65.302 65.308 69.300",
    "ED 69.301 69.302 69.308 - 6E.303 6F.300 6F.301 6F.302 6F.303 6F.308 - - 75.300 75.301",
    "FB 75.302 75.308 79.301 - 79.308 - 61.304 - 61.306 - 61.328 - 63.301 - 63.302 - 63.307",
    "10D 63.30C - 64.30C",
    "113 65.304 - 65.306 - 65.307 - 65.328 - 65.30C - 67.302 - 67.306 - 67.307 - 67.327",
    "125 68.302; 129 69.303 - 69.304 - 69.306 - 69.328",
    "135 6A.302 - 6B.327 - - 6C.301 - 6C.327 - 6C.30C; 144 6E.301 - 6E.327 - 6E.30C",
    "14D 6F.304 - 6F.306 - 6F.30B",
    "155 72.301 - 72.327 - 72.30C - 73.301 - 73.302 - 73.327 - 73.30C - 74.327 - 74.30C",
    "169 75.303 - 75.304 - 75.306 - 75.30A - 75.30B - 75.328 - 77.302 - 79.302 - - 7A.301",
    "17C 7A.307 - 7A.30C; 1A1 6F.31B; 1B0 75.31B",
    "1CE 61.30C - 69.30C - 6F.30C - 75.30C - FC.304 - FC.301 - FC.30C - FC.300 - - E4.304",
    "1E1 227.304 - E6.304; 1E7 67.30C - 6B.30C - 6F.328 - 1EB.304 - 292.30C 6A.30C; 1F5 67.301",
    "1F9 6E.300 - E5.301 - E6.301 - F8.301 - 61.30F - 61.311 - 65.30F - 65.311 - 69.30F",
    "20B 69.311 - 6F.30F - 6F.311 - 72.30F - 72.311 - 75.30F - 75.311 - 73.326 - 74.326",
    "21F 68.30C; 227 61.307 - 65.327 - F6.304 - F5.304 - 6F.307 - 22F.304 - 79.304; 390 3CA.301",
    "3AC 3B1.301 3B5.301 3B7.301 3B9.301 3CB.301; 3CA 3B9.308 3C5.308 3BF.301 3C5.301 3C9.301",
    "439 438.306; 450 435.300 435.308 - 433.301; 457 456.308; 45C 43A.301 438.300 443.306",
    "477 475.30F; 4C2 436.306; 4D1 430.306 - 430.308; 4D7 435.306",
    "4DB 4D9.308 - 436.308 - 437.308; 4E3 438.304 - 438.308 - 43E.308",
    "4EB 4E9.308 - 44D.308 - 443.304 - 443.308 - 443.30B - 447.308; 4F9 44B.308",
    "622 627.653 627.654 648.654 627.655 64A.654; 6C0 6D5.654 - 6C1.654; 6D3 6D2.654; 929 928.93C",
    "931 930.93C - - 933.93C; 9CB 9C7.9BE 9C7.9D7; B48 B47.B56 - - B47.B3E B47.B57; B94 B92.BD7",
    "BCA BC6.BBE BC7.BBE BC6.BD7; C48 C46.C56; CC0 CBF.CD5; CC7 CC6.CD5 CC6.CD6 - CC6.CC2 CCA.CD5",
    "D4A D46.D3E D47.D3E D46.D57; DDA DD9.DCA - DD9.DCF DDC.DCA DD9.DDF; 1026 1025.102E",
    "1B06 1B05.1B35 - 1B07.1B35 - 1B09.1B35 - 1B0B.1B35 - 1B0D.1B35; 1B12 1B11.1B35",
    "1B3B 1B3A.1B35 - 1B3C.1B35 - - 1B3E.1B35 1B3F.1B35 - 1B42.1B35",
    "1E01 61.325 - 62.307 - 62.323 - 62.331 - E7.301 - 64.307 - 64.323 - 64.331 - 64.327",
    "1E13 64.32D - 113.300 - 113.301 - 65.32D - 65.330 - 229.306 - 66.307 - 67.304 - 68.307",
    "1E25 68.323 - 68.308 - 68.327 - 68.32E - 69.330 - EF.301 - 6B.301 - 6B.323 - 6B.331",
    "1E37 6C.323 - 1E37.304 - 6C.331 - 6C.32D - 6D.301 - 6D.307 - 6D.323 - 6E.307 - 6E.323",
    "1E49 6E.331 - 6E.32D - F5.301 - F5.308 - 14D.300 - 14D.301 - 70.301 - 70.307 - 72.307",
    "1E5B 72.323 - 1E5B.304 - 72.331 - 73.307 - 73.323 - 15B.307 - 161.307 - 1E63.307 - 74.307",
    "1E6D 74.323 - 74.331 - 74.32D - 75.324 - 75.330 - 75.32D - 169.301 - 16B.308 - 76.303",
    "1E7F 76.323 - 77.300 - 77.301 - 77.308 - 77.307 - 77.323 - 78.307 - 78.308 - 79.307",
    "1E91 7A.302 - 7A.323 - 7A.331 68.331 74.308 77.30A 79.30A",
    "1EA1 61.323 - 61.309 - E2.301 - E2.300 - E2.309 - E2.303 - 1EA1.302 - 103.301 - 103.300",
    "1EB3 103.309 - 103.303 - 1EA1.306 - 65.323 - 65.309 - 65.303 - EA.301 - EA.300 - EA.309",
    "1EC5 EA.303 - 1EB9.302 - 69.309 - 69.323 - 6F.323 - 6F.309 - F4.301 - F4.300 - F4.309",
    "1ED7 F4.303 - 1ECD.302 - 1A1.301 - 1A1.300 - 1A1.309 - 1A1.303 - 1A1.323 - 75.323 - 75.309",
    "1EE9 1B0.301 - 1B0.300 - 1B0.309 - 1B0.303 - 1B0.323 - 79.300 - 79.323 - 79.309 - 79.303",
    "1F00 3B1.313 3B1.314 1F00.300 1F01.300 1F00.301 1F01.301 1F00.342 1F01.342",
    "1F10 3B5.313 3B5.314 1F10.300 1F11.300 1F10.301 1F11.301",
    "1F20 3B7.313 3B7.314 1F20.300 1F21.300 1F20.301 1F21.301 1F20.342 1F21.342",
    "1F30 3B9.313 3B9.314 1F30.300 1F31.300 1F30.301 1F31.301 1F30.342 1F31.342",
    "1F40 3BF.313 3BF.314 1F40.300 1F41.300 1F40.301 1F41.301",
    "1F50 3C5.313 3C5.314 1F50.300 1F51.300 1F50.301 1F51.301 1F50.342 1F51.342",
    "1F60 3C9.313 3C9.314 1F60.300 1F61.300 1F60.301 1F61.301 1F60.342 1F61.342",
    "1F70 3B1.300 - 3B5.300 - 3B7.300 - 3B9.300 - 3BF.300 - 3C5.300 - 3C9.300",
    "1FB0 3B1.306 3B1.304; 1FB6 3B1.342; 1FC6 3B7.342; 1FD0 3B9.306 3B9.304 3CA.300",
    "1FD6 3B9.342 3CA.342; 1FE0 3C5.306 3C5.304 3CB.300 - 3C1.313 3C1.314 3C5.342 3CB.342",
    "1FF6 3C9.342; 219A 2190.338 2192.338; 21AE 2194.338; 21CD 21D0.338 21D4.338 21D2.338",
    "2204 2203.338; 2209 2208.338 - - 220B.338; 2224 2223.338 - 2225.338",
    "2241 223C.338 - - 2243.338 - - 2245.338 - 2248.338; 2260 3D.338 - 2261.338",
    "226D 224D.338 3C.338 3E.338 2264.338 2265.338 - - 2272.338 2273.338 - - 2276.338 2277.338",
    "2280 227A.338 227B.338 - - 2282.338 2283.338 - - 2286.338 2287.338",
    "22AC 22A2.338 22A8.338 22A9.338 22AB.338; 22E0 227C.338 227D.338 2291.338 2292.338",
    "22EA 22B2.338 22B3.338 22B4.338 22B5.338",
    "304C 304B.3099 - 304D.3099 - 304F.3099 - 3051.3099 - 3053.3099 - 3055.3099 - 3057.3099",
    "305A 3059.3099 - 305B.3099 - 305D.3099 - 305F.3099 - 3061.3099 - - 3064.3099 - 3066.3099",
    "3069 3068.3099",
    "3070 306F.3099 306F.309A - 3072.3099 3072.309A - 3075.3099 3075.309A - 3078.3099 3078.309A",
    "307C 307B.3099 307B.309A; 3094 3046.3099; 309E 309D.3099",
    "30AC 30AB.3099 - 30AD.3099 - 30AF.3099 - 30B1.3099 - 30B3.3099 - 30B5.3099 - 30B7.3099",
    "30BA 30B9.3099 - 30BB.3099 - 30BD.3099 - 30BF.3099 - 30C1.3099 - - 30C4.3099 - 30C6.3099",
    "30C9 30C8.3099",
    "30D0 30CF.3099 30CF.309A - 30D2.3099 30D2.309A - 30D5.3099 30D5.309A - 30D8.3099 30D8.309A",
    "30DC 30DB.3099 30DB.309A; 30F4 30A6.3099 - - 30EF.3099 30F0.3099 30F1.3099 30F2.3099",
    "30FE 30FD.3099; 1109A 11099.110BA - 1109B.110BA; 110AB 110A5.110BA",
    "1112E 11131.11127 11132.11127; 1134B 11347.1133E 11347.11357",
    "114BB 114B9.114BA 114B9.114B0 - 114B9.114BD; 115BA 115B8.115AF 115B9.115AF",
    "11938 11935.11930"
  ]

def composites : List (Char × List Char) := compositeListings.flatMap Listing.entries

/-! The syllables of Hangul go through 19 leading consonants, 21 vowels for each of them, and 28
endings for each vowel, of which the first is empty and the others are trailing consonants. -/

def firstLead : Nat := 0x1100

def firstVowel : Nat := 0x1161

/-- The place of the empty ending. -/
def beforeTrail : Nat := 0x11A7

def firstSyllable : Nat := 0xAC00

/-- The parts of a Hangul syllable: a syllable and its ending, or a consonant and a vowel. -/
def syllableParts? (c : Char) : Option (Char × Char) :=
  let n := c.toNat - firstSyllable
  if c.toNat < firstSyllable || 19 * 21 * 28 ≤ n then none
  else if n % 28 = 0 then
    some (Char.ofNat (firstLead + n / 28 / 21), Char.ofNat (firstVowel + n / 28 % 21))
  else some (Char.ofNat (c.toNat - n % 28), Char.ofNat (beforeTrail + n % 28))

def compositeParts? (c : Char) : Option (Char × Char) :=
  match syllableParts? c with
  | some parts => some parts
  | none =>
    match listedImage? compositeListings c with
    | some [a, b] => some (a, b)
    | _ => none

def joinedSyllable? (a b : Char) : Option Char :=
  let l := a.toNat - firstLead
  let v := b.toNat - firstVowel
  let s := a.toNat - firstSyllable
  let t := b.toNat - beforeTrail
  if firstLead ≤ a.toNat && l < 19 && firstVowel ≤ b.toNat && v < 21 then
    some (Char.ofNat (firstSyllable + 28 * (21 * l + v)))
  else if firstSyllable ≤ a.toNat && s < 19 * 21 * 28 && s % 28 = 0 &&
      beforeTrail < b.toNat && t < 28 then
    some (Char.ofNat (a.toNat + t))
  else none

/-- The composite of two parts. -/
def joined? (a b : Char) : Option Char :=
  match joinedSyllable? a b with
  | some c => some c
  | none => (composites.find? (·.2 == [a, b])).map (·.1)

/-! ## The normal form -/

/-- Takes composites apart, at most `depth` times one inside the other. -/
def takenApart : (depth : Nat) → Char → List Char
  | 0, c => [c]
  | k + 1, c =>
    match compositeParts? c with
    | some (a, b) => takenApart k a ++ [b]
    | none => [c]

/-- How many composites may be nested. -/
def maxDepth : Nat := 4

/-- Puts a mark behind the marks of a lower class, and any other character in front. -/
def insertMark (c : Char) : List Char → List Char
  | [] => [c]
  | d :: r =>
    if markClass d ≠ 0 ∧ markClass d < markClass c then d :: insertMark c r else c :: d :: r

/-- Orders the marks behind each base by their classes. -/
def orderMarks (s : List Char) : List Char := s.foldr insertMark []

theorem insertMark_perm (c : Char) (s : List Char) : (insertMark c s).Perm (c :: s) := by
  induction s with
  | nil => exact .refl _
  | cons d r ih =>
    rw [insertMark]
    split
    · exact (ih.cons d).trans (.swap c d r)
    · exact .refl _

theorem orderMarks_perm (s : List Char) : (orderMarks s).Perm s := by
  induction s with
  | nil => exact .refl _
  | cons c r ih => exact (insertMark_perm c _).trans (ih.cons c)

/-- Joins what follows to a base. `marks` are the marks behind it that did not join, the last one
first; a mark joins only past marks of lower classes. -/
def joinOnto (base : Char) (marks : List Char) : List Char → List Char
  | [] => base :: marks.reverse
  | c :: r =>
    let free := marks.head?.all (markClass · < markClass c)
    match if free then joined? base c else none with
    | some d => joinOnto d marks r
    | none =>
      if markClass c = 0 then base :: marks.reverse ++ joinOnto c [] r
      else joinOnto base (c :: marks) r

def joinMarks : List Char → List Char
  | [] => []
  | c :: r => joinOnto c [] r

def composed (s : List Char) : List Char :=
  joinMarks (orderMarks (s.flatMap (takenApart maxDepth)))

end PocketCalculator
