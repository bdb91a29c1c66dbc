import ApiLint.Text.Lines

/-!
# How wide characters are shown

On a terminal most characters are one column wide. East Asian wide characters take two
columns; a character that joins the one before it, or has no form at all, takes none. A
control character counts as one.
-/

namespace ApiLint

/-- The first code point of each run of characters without a width, and the length of the
run. -/
def zeroWidthRuns : List (Nat × Nat) := [
  (0x300, 112), (0x483, 7), (0x591, 45), (0x5BF, 1), (0x5C1, 2), (0x5C4, 2), (0x5C7, 1),
  (0x605, 1), (0x610, 11), (0x61C, 1), (0x64B, 21), (0x670, 1), (0x6D6, 7), (0x6DF, 6),
  (0x6E7, 2), (0x6EA, 4), (0x70F, 1), (0x711, 1), (0x730, 27), (0x7A6, 11), (0x7EB, 9),
  (0x7FD, 1), (0x816, 4), (0x81B, 9), (0x825, 3), (0x829, 5), (0x859, 3), (0x890, 2), (0x898, 8),
  (0x8CA, 57), (0x93A, 1), (0x93C, 1), (0x941, 8), (0x94D, 1), (0x951, 7), (0x962, 2),
  (0x981, 1), (0x9BC, 1), (0x9BE, 1), (0x9C1, 4), (0x9CD, 1), (0x9D7, 1), (0x9E2, 2), (0x9FE, 1),
  (0xA01, 2), (0xA3C, 1), (0xA41, 2), (0xA47, 2), (0xA4B, 3), (0xA51, 1), (0xA70, 2), (0xA75, 1),
  (0xA81, 2), (0xABC, 1), (0xAC1, 5), (0xAC7, 2), (0xACD, 1), (0xAE2, 2), (0xAFA, 6), (0xB01, 1),
  (0xB3C, 1), (0xB3E, 2), (0xB41, 4), (0xB4D, 1), (0xB55, 3), (0xB62, 2), (0xB82, 1), (0xBBE, 1),
  (0xBC0, 1), (0xBCD, 1), (0xBD7, 1), (0xC00, 1), (0xC04, 1), (0xC3C, 1), (0xC3E, 3), (0xC46, 3),
  (0xC4A, 4), (0xC55, 2), (0xC62, 2), (0xC81, 1), (0xCBC, 1), (0xCBF, 1), (0xCC2, 1), (0xCC6, 1),
  (0xCCC, 2), (0xCD5, 2), (0xCE2, 2), (0xD00, 2), (0xD3B, 2), (0xD3E, 1), (0xD41, 4), (0xD4D, 1),
  (0xD57, 1), (0xD62, 2), (0xD81, 1), (0xDCA, 1), (0xDCF, 1), (0xDD2, 3), (0xDD6, 1), (0xDDF, 1),
  (0xE31, 1), (0xE34, 7), (0xE47, 8), (0xEB1, 1), (0xEB4, 9), (0xEC8, 6), (0xF18, 2), (0xF35, 1),
  (0xF37, 1), (0xF39, 1), (0xF71, 14), (0xF80, 5), (0xF86, 2), (0xF8D, 11), (0xF99, 36),
  (0xFC6, 1), (0x102D, 4), (0x1032, 6), (0x1039, 2), (0x103D, 2), (0x1058, 2), (0x105E, 3),
  (0x1071, 4), (0x1082, 1), (0x1085, 2), (0x108D, 1), (0x109D, 1), (0x1160, 160), (0x135D, 3),
  (0x1712, 3), (0x1732, 2), (0x1752, 2), (0x1772, 2), (0x17B4, 2), (0x17B7, 7), (0x17C6, 1),
  (0x17C9, 11), (0x17DD, 1), (0x180B, 5), (0x1885, 2), (0x18A9, 1), (0x1920, 3), (0x1927, 2),
  (0x1932, 1), (0x1939, 3), (0x1A17, 2), (0x1A1B, 1), (0x1A56, 1), (0x1A58, 7), (0x1A60, 1),
  (0x1A62, 1), (0x1A65, 8), (0x1A73, 10), (0x1A7F, 1), (0x1AB0, 31), (0x1B00, 4), (0x1B34, 7),
  (0x1B3C, 1), (0x1B42, 1), (0x1B6B, 9), (0x1B80, 2), (0x1BA2, 4), (0x1BA8, 2), (0x1BAB, 3),
  (0x1BE6, 1), (0x1BE8, 2), (0x1BED, 1), (0x1BEF, 3), (0x1C2C, 8), (0x1C36, 2), (0x1CD0, 3),
  (0x1CD4, 13), (0x1CE2, 7), (0x1CED, 1), (0x1CF4, 1), (0x1CF8, 2), (0x1DC0, 64), (0x200B, 5),
  (0x202A, 5), (0x2060, 16), (0x20D0, 33), (0x2CEF, 3), (0x2D7F, 1), (0x2DE0, 32), (0x302A, 6),
  (0x3099, 2), (0x3164, 1), (0xA66F, 4), (0xA674, 10), (0xA69E, 2), (0xA6F0, 2), (0xA802, 1),
  (0xA806, 1), (0xA80B, 1), (0xA825, 2), (0xA82C, 1), (0xA8C4, 2), (0xA8E0, 18), (0xA8FA, 1),
  (0xA8FF, 1), (0xA926, 8), (0xA947, 11), (0xA980, 3), (0xA9B3, 1), (0xA9B6, 4), (0xA9BC, 2),
  (0xA9E5, 1), (0xAA29, 6), (0xAA31, 2), (0xAA35, 2), (0xAA43, 1), (0xAA4C, 1), (0xAA7C, 1),
  (0xAAB0, 1), (0xAAB2, 3), (0xAAB7, 2), (0xAABE, 2), (0xAAC1, 1), (0xAAEC, 2), (0xAAF6, 1),
  (0xABE5, 1), (0xABE8, 1), (0xABED, 1), (0xD7B0, 23), (0xD7CB, 49), (0xFB1E, 1), (0xFE00, 16),
  (0xFE20, 16), (0xFEFF, 1), (0xFFA0, 1), (0xFFF0, 9), (0x101FD, 1), (0x102E0, 1), (0x10376, 5),
  (0x10A01, 3), (0x10A05, 2), (0x10A0C, 4), (0x10A38, 3), (0x10A3F, 1), (0x10AE5, 2),
  (0x10D24, 4), (0x10EAB, 2), (0x10F46, 11), (0x10F82, 4), (0x11001, 1), (0x11038, 15),
  (0x11070, 1), (0x11073, 2), (0x1107F, 3), (0x110B3, 4), (0x110B9, 2), (0x110C2, 1),
  (0x11100, 3), (0x11127, 5), (0x1112D, 8), (0x11173, 1), (0x11180, 2), (0x111B6, 9),
  (0x111C9, 4), (0x111CF, 1), (0x1122F, 3), (0x11234, 1), (0x11236, 2), (0x1123E, 1),
  (0x112DF, 1), (0x112E3, 8), (0x11300, 2), (0x1133B, 2), (0x11340, 1), (0x11366, 7),
  (0x11370, 5), (0x11438, 8), (0x11442, 3), (0x11446, 1), (0x1145E, 1), (0x114B3, 6),
  (0x114BA, 1), (0x114BF, 2), (0x114C2, 2), (0x115B2, 4), (0x115BC, 2), (0x115BF, 2),
  (0x115DC, 2), (0x11633, 8), (0x1163D, 1), (0x1163F, 2), (0x116AB, 1), (0x116AD, 1),
  (0x116B0, 6), (0x116B7, 1), (0x1171D, 3), (0x11722, 4), (0x11727, 5), (0x1182F, 9),
  (0x11839, 2), (0x1193B, 2), (0x1193E, 1), (0x11943, 1), (0x119D4, 4), (0x119DA, 2),
  (0x119E0, 1), (0x11A01, 10), (0x11A33, 6), (0x11A3B, 4), (0x11A47, 1), (0x11A51, 6),
  (0x11A59, 3), (0x11A8A, 13), (0x11A98, 2), (0x11C30, 7), (0x11C38, 6), (0x11C3F, 1),
  (0x11C92, 22), (0x11CAA, 7), (0x11CB2, 2), (0x11CB5, 2), (0x11D31, 6), (0x11D3A, 1),
  (0x11D3C, 2), (0x11D3F, 7), (0x11D47, 1), (0x11D90, 2), (0x11D95, 1), (0x11D97, 1),
  (0x11EF3, 2), (0x16AF0, 5), (0x16B30, 7), (0x16F4F, 1), (0x16F8F, 4), (0x16FE4, 1),
  (0x1BC9D, 2), (0x1BCA0, 4), (0x1CF00, 46), (0x1CF30, 23), (0x1D165, 1), (0x1D167, 3),
  (0x1D16E, 21), (0x1D185, 7), (0x1D1AA, 4), (0x1D242, 3), (0x1DA00, 55), (0x1DA3B, 50),
  (0x1DA75, 1), (0x1DA84, 1), (0x1DA9B, 5), (0x1DAA1, 15), (0x1E000, 7), (0x1E008, 17),
  (0x1E01B, 7), (0x1E023, 2), (0x1E026, 5), (0x1E130, 7), (0x1E2AE, 1), (0x1E2EC, 4),
  (0x1E8D0, 7), (0x1E944, 7), (0xE0000, 4096)]

/-- The first code point of each run of characters that are two columns wide, and the
length of the run. -/
def wideRuns : List (Nat × Nat) := [
  (0x1100, 96), (0x231A, 2), (0x2329, 2), (0x23E9, 4), (0x23F0, 1), (0x23F3, 1), (0x25FD, 2),
  (0x2614, 2), (0x2648, 12), (0x267F, 1), (0x2693, 1), (0x26A1, 1), (0x26AA, 2), (0x26BD, 2),
  (0x26C4, 2), (0x26CE, 1), (0x26D4, 1), (0x26EA, 1), (0x26F2, 2), (0x26F5, 1), (0x26FA, 1),
  (0x26FD, 1), (0x2705, 1), (0x270A, 2), (0x2728, 1), (0x274C, 1), (0x274E, 1), (0x2753, 3),
  (0x2757, 1), (0x2795, 3), (0x27B0, 1), (0x27BF, 1), (0x2B1B, 2), (0x2B50, 1), (0x2B55, 1),
  (0x2E80, 26), (0x2E9B, 89), (0x2F00, 214), (0x2FF0, 12), (0x3000, 42), (0x3030, 15),
  (0x3041, 86), (0x309B, 101), (0x3105, 43), (0x3131, 51), (0x3165, 42), (0x3190, 84),
  (0x31F0, 47), (0x3220, 40), (0x3250, 7024), (0x4E00, 22157), (0xA490, 55), (0xA960, 29),
  (0xAC00, 11172), (0xF900, 512), (0xFE10, 10), (0xFE30, 35), (0xFE54, 19), (0xFE68, 4),
  (0xFF01, 96), (0xFFE0, 7), (0x16FE0, 4), (0x16FF0, 2), (0x17000, 6136), (0x18800, 1238),
  (0x18D00, 9), (0x1AFF0, 4), (0x1AFF5, 7), (0x1AFFD, 2), (0x1B000, 291), (0x1B150, 3),
  (0x1B164, 4), (0x1B170, 396), (0x1F004, 1), (0x1F0CF, 1), (0x1F18E, 1), (0x1F191, 10),
  (0x1F200, 3), (0x1F210, 44), (0x1F240, 9), (0x1F250, 2), (0x1F260, 6), (0x1F300, 33),
  (0x1F32D, 9), (0x1F337, 70), (0x1F37E, 22), (0x1F3A0, 43), (0x1F3CF, 5), (0x1F3E0, 17),
  (0x1F3F4, 1), (0x1F3F8, 71), (0x1F440, 1), (0x1F442, 187), (0x1F4FF, 63), (0x1F54B, 4),
  (0x1F550, 24), (0x1F57A, 1), (0x1F595, 2), (0x1F5A4, 1), (0x1F5FB, 85), (0x1F680, 70),
  (0x1F6CC, 1), (0x1F6D0, 3), (0x1F6D5, 3), (0x1F6DC, 4), (0x1F6EB, 2), (0x1F6F4, 9),
  (0x1F7E0, 12), (0x1F7F0, 1), (0x1F90C, 47), (0x1F93C, 10), (0x1F947, 185), (0x1FA70, 13),
  (0x1FA80, 9), (0x1FA90, 46), (0x1FABF, 7), (0x1FACE, 14), (0x1FAE0, 9), (0x1FAF0, 9),
  (0x20000, 65534), (0x30000, 65534)]

/-- Whether a code point lies in one of some runs. -/
def isInRuns (runs : List (Nat × Nat)) (n : Nat) : Bool :=
  runs.any fun (first, length) => decide (first ≤ n ∧ n < first + length)

def columnsOf (c : Char) : Nat :=
  if c.toNat < 0x300 then 1
  else if isInRuns zeroWidthRuns c.toNat then 0
  else if isInRuns wideRuns c.toNat then 2
  else 1

def Text.columns : Text → Nat
  | [] => 0
  | c :: rest => columnsOf c + Text.columns rest

end ApiLint
