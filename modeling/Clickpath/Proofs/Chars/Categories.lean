import Clickpath.Proofs.Chars.Classes

/-! # Categories of characters

Languages tell letters, digits and marks apart that are all alike to a reader of words. The numerals
that are neither letters nor decimal digits are word characters, they belong to no other category,
and they have no letter case.
-/

namespace Clickpath.Chars

/-! ## Tables -/

/-- Numerals that are neither decimal digits nor letters, as inclusive ranges of code points. -/
def otherNumeralRanges : List (Nat × Nat) :=
  [(0xB2, 0xB3), (0xB9, 0xB9), (0xBC, 0xBE), (0x9F4, 0x9F9), (0xB72, 0xB77), (0xBF0, 0xBF2),
   (0xC78, 0xC7E), (0xD58, 0xD5E), (0xD70, 0xD78), (0xF2A, 0xF33), (0x1369, 0x137C),
   (0x17F0, 0x17F9), (0x19DA, 0x19DA), (0x2070, 0x2070), (0x2074, 0x2079), (0x2080, 0x2089),
   (0x2150, 0x215F), (0x2189, 0x2189), (0x2460, 0x249B), (0x24EA, 0x24FF), (0x2776, 0x2793),
   (0x2CFD, 0x2CFD), (0x3192, 0x3195), (0x3220, 0x3229), (0x3248, 0x324F), (0x3251, 0x325F),
   (0x3280, 0x3289), (0x32B1, 0x32BF), (0xA830, 0xA835), (0x10107, 0x10133), (0x10175, 0x10178),
   (0x1018A, 0x1018B), (0x102E1, 0x102FB), (0x10320, 0x10323), (0x10858, 0x1085F),
   (0x10879, 0x1087F), (0x108A7, 0x108AF), (0x108FB, 0x108FF), (0x10916, 0x1091B),
   (0x109BC, 0x109BD), (0x109C0, 0x109CF), (0x109D2, 0x109FF), (0x10A40, 0x10A48),
   (0x10A7D, 0x10A7E), (0x10A9D, 0x10A9F), (0x10AEB, 0x10AEF), (0x10B58, 0x10B5F),
   (0x10B78, 0x10B7F), (0x10BA9, 0x10BAF), (0x10CFA, 0x10CFF), (0x10E60, 0x10E7E),
   (0x10F1D, 0x10F26), (0x10F51, 0x10F54), (0x10FC5, 0x10FCB), (0x11052, 0x11065),
   (0x111E1, 0x111F4), (0x1173A, 0x1173B), (0x118EA, 0x118F2), (0x11C5A, 0x11C6C),
   (0x11FC0, 0x11FD4), (0x16B5B, 0x16B61), (0x16E80, 0x16E96), (0x1D2E0, 0x1D2F3),
   (0x1D360, 0x1D378), (0x1E8C7, 0x1E8CF), (0x1EC71, 0x1ECAB), (0x1ECAD, 0x1ECAF),
   (0x1ECB1, 0x1ECB4), (0x1ED01, 0x1ED2D), (0x1ED2F, 0x1ED3D), (0x1F100, 0x1F10C)]

set_option maxRecDepth 8000 in
/-- Marks that combine with the character before them, as inclusive ranges of code points. -/
def markRanges : List (Nat × Nat) :=
  [(0x300, 0x36F), (0x483, 0x487), (0x591, 0x5BD), (0x5BF, 0x5BF), (0x5C1, 0x5C2), (0x5C4, 0x5C5),
   (0x5C7, 0x5C7), (0x610, 0x61A), (0x64B, 0x65F), (0x670, 0x670), (0x6D6, 0x6DC), (0x6DF, 0x6E4),
   (0x6E7, 0x6E8), (0x6EA, 0x6ED), (0x711, 0x711), (0x730, 0x74A), (0x7A6, 0x7B0), (0x7EB, 0x7F3),
   (0x7FD, 0x7FD), (0x816, 0x819), (0x81B, 0x823), (0x825, 0x827), (0x829, 0x82D), (0x859, 0x85B),
   (0x898, 0x89F), (0x8CA, 0x8E1), (0x8E3, 0x903), (0x93A, 0x93C), (0x93E, 0x94F), (0x951, 0x957),
   (0x962, 0x963), (0x981, 0x983), (0x9BC, 0x9BC), (0x9BE, 0x9C4), (0x9C7, 0x9C8), (0x9CB, 0x9CD),
   (0x9D7, 0x9D7), (0x9E2, 0x9E3), (0x9FE, 0x9FE), (0xA01, 0xA03), (0xA3C, 0xA3C), (0xA3E, 0xA42),
   (0xA47, 0xA48), (0xA4B, 0xA4D), (0xA51, 0xA51), (0xA70, 0xA71), (0xA75, 0xA75), (0xA81, 0xA83),
   (0xABC, 0xABC), (0xABE, 0xAC5), (0xAC7, 0xAC9), (0xACB, 0xACD), (0xAE2, 0xAE3), (0xAFA, 0xAFF),
   (0xB01, 0xB03), (0xB3C, 0xB3C), (0xB3E, 0xB44), (0xB47, 0xB48), (0xB4B, 0xB4D), (0xB55, 0xB57),
   (0xB62, 0xB63), (0xB82, 0xB82), (0xBBE, 0xBC2), (0xBC6, 0xBC8), (0xBCA, 0xBCD), (0xBD7, 0xBD7),
   (0xC00, 0xC04), (0xC3C, 0xC3C), (0xC3E, 0xC44), (0xC46, 0xC48), (0xC4A, 0xC4D), (0xC55, 0xC56),
   (0xC62, 0xC63), (0xC81, 0xC83), (0xCBC, 0xCBC), (0xCBE, 0xCC4), (0xCC6, 0xCC8), (0xCCA, 0xCCD),
   (0xCD5, 0xCD6), (0xCE2, 0xCE3), (0xD00, 0xD03), (0xD3B, 0xD3C), (0xD3E, 0xD44), (0xD46, 0xD48),
   (0xD4A, 0xD4D), (0xD57, 0xD57), (0xD62, 0xD63), (0xD81, 0xD83), (0xDCA, 0xDCA), (0xDCF, 0xDD4),
   (0xDD6, 0xDD6), (0xDD8, 0xDDF), (0xDF2, 0xDF3), (0xE31, 0xE31), (0xE34, 0xE3A), (0xE47, 0xE4E),
   (0xEB1, 0xEB1), (0xEB4, 0xEBC), (0xEC8, 0xECD), (0xF18, 0xF19), (0xF35, 0xF35), (0xF37, 0xF37),
   (0xF39, 0xF39), (0xF3E, 0xF3F), (0xF71, 0xF84), (0xF86, 0xF87), (0xF8D, 0xF97), (0xF99, 0xFBC),
   (0xFC6, 0xFC6), (0x102B, 0x103E), (0x1056, 0x1059), (0x105E, 0x1060), (0x1062, 0x1064),
   (0x1067, 0x106D), (0x1071, 0x1074), (0x1082, 0x108D), (0x108F, 0x108F), (0x109A, 0x109D),
   (0x135D, 0x135F), (0x1712, 0x1715), (0x1732, 0x1734), (0x1752, 0x1753), (0x1772, 0x1773),
   (0x17B4, 0x17D3), (0x17DD, 0x17DD), (0x180B, 0x180D), (0x180F, 0x180F), (0x1885, 0x1886),
   (0x18A9, 0x18A9), (0x1920, 0x192B), (0x1930, 0x193B), (0x1A17, 0x1A1B), (0x1A55, 0x1A5E),
   (0x1A60, 0x1A7C), (0x1A7F, 0x1A7F), (0x1AB0, 0x1ABD), (0x1ABF, 0x1ACE), (0x1B00, 0x1B04),
   (0x1B34, 0x1B44), (0x1B6B, 0x1B73), (0x1B80, 0x1B82), (0x1BA1, 0x1BAD), (0x1BE6, 0x1BF3),
   (0x1C24, 0x1C37), (0x1CD0, 0x1CD2), (0x1CD4, 0x1CE8), (0x1CED, 0x1CED), (0x1CF4, 0x1CF4),
   (0x1CF7, 0x1CF9), (0x1DC0, 0x1DFF), (0x20D0, 0x20DC), (0x20E1, 0x20E1), (0x20E5, 0x20F0),
   (0x2CEF, 0x2CF1), (0x2D7F, 0x2D7F), (0x2DE0, 0x2DFF), (0x302A, 0x302F), (0x3099, 0x309A),
   (0xA66F, 0xA66F), (0xA674, 0xA67D), (0xA69E, 0xA69F), (0xA6F0, 0xA6F1), (0xA802, 0xA802),
   (0xA806, 0xA806), (0xA80B, 0xA80B), (0xA823, 0xA827), (0xA82C, 0xA82C), (0xA880, 0xA881),
   (0xA8B4, 0xA8C5), (0xA8E0, 0xA8F1), (0xA8FF, 0xA8FF), (0xA926, 0xA92D), (0xA947, 0xA953),
   (0xA980, 0xA983), (0xA9B3, 0xA9C0), (0xA9E5, 0xA9E5), (0xAA29, 0xAA36), (0xAA43, 0xAA43),
   (0xAA4C, 0xAA4D), (0xAA7B, 0xAA7D), (0xAAB0, 0xAAB0), (0xAAB2, 0xAAB4), (0xAAB7, 0xAAB8),
   (0xAABE, 0xAABF), (0xAAC1, 0xAAC1), (0xAAEB, 0xAAEF), (0xAAF5, 0xAAF6), (0xABE3, 0xABEA),
   (0xABEC, 0xABED), (0xFB1E, 0xFB1E), (0xFE00, 0xFE0F), (0xFE20, 0xFE2F), (0x101FD, 0x101FD),
   (0x102E0, 0x102E0), (0x10376, 0x1037A), (0x10A01, 0x10A03), (0x10A05, 0x10A06),
   (0x10A0C, 0x10A0F), (0x10A38, 0x10A3A), (0x10A3F, 0x10A3F), (0x10AE5, 0x10AE6),
   (0x10D24, 0x10D27), (0x10EAB, 0x10EAC), (0x10F46, 0x10F50), (0x10F82, 0x10F85),
   (0x11000, 0x11002), (0x11038, 0x11046), (0x11070, 0x11070), (0x11073, 0x11074),
   (0x1107F, 0x11082), (0x110B0, 0x110BA), (0x110C2, 0x110C2), (0x11100, 0x11102),
   (0x11127, 0x11134), (0x11145, 0x11146), (0x11173, 0x11173), (0x11180, 0x11182),
   (0x111B3, 0x111C0), (0x111C9, 0x111CC), (0x111CE, 0x111CF), (0x1122C, 0x11237),
   (0x1123E, 0x1123E), (0x112DF, 0x112EA), (0x11300, 0x11303), (0x1133B, 0x1133C),
   (0x1133E, 0x11344), (0x11347, 0x11348), (0x1134B, 0x1134D), (0x11357, 0x11357),
   (0x11362, 0x11363), (0x11366, 0x1136C), (0x11370, 0x11374), (0x11435, 0x11446),
   (0x1145E, 0x1145E), (0x114B0, 0x114C3), (0x115AF, 0x115B5), (0x115B8, 0x115C0),
   (0x115DC, 0x115DD), (0x11630, 0x11640), (0x116AB, 0x116B7), (0x1171D, 0x1172B),
   (0x1182C, 0x1183A), (0x11930, 0x11935), (0x11937, 0x11938), (0x1193B, 0x1193E),
   (0x11940, 0x11940), (0x11942, 0x11943), (0x119D1, 0x119D7), (0x119DA, 0x119E0),
   (0x119E4, 0x119E4), (0x11A01, 0x11A0A), (0x11A33, 0x11A39), (0x11A3B, 0x11A3E),
   (0x11A47, 0x11A47), (0x11A51, 0x11A5B), (0x11A8A, 0x11A99), (0x11C2F, 0x11C36),
   (0x11C38, 0x11C3F), (0x11C92, 0x11CA7), (0x11CA9, 0x11CB6), (0x11D31, 0x11D36),
   (0x11D3A, 0x11D3A), (0x11D3C, 0x11D3D), (0x11D3F, 0x11D45), (0x11D47, 0x11D47),
   (0x11D8A, 0x11D8E), (0x11D90, 0x11D91), (0x11D93, 0x11D97), (0x11EF3, 0x11EF6),
   (0x16AF0, 0x16AF4), (0x16B30, 0x16B36), (0x16F4F, 0x16F4F), (0x16F51, 0x16F87),
   (0x16F8F, 0x16F92), (0x16FE4, 0x16FE4), (0x16FF0, 0x16FF1), (0x1BC9D, 0x1BC9E),
   (0x1CF00, 0x1CF2D), (0x1CF30, 0x1CF46), (0x1D165, 0x1D169), (0x1D16D, 0x1D172),
   (0x1D17B, 0x1D182), (0x1D185, 0x1D18B), (0x1D1AA, 0x1D1AD), (0x1D242, 0x1D244),
   (0x1DA00, 0x1DA36), (0x1DA3B, 0x1DA6C), (0x1DA75, 0x1DA75), (0x1DA84, 0x1DA84),
   (0x1DA9B, 0x1DA9F), (0x1DAA1, 0x1DAAF), (0x1E000, 0x1E006), (0x1E008, 0x1E018),
   (0x1E01B, 0x1E021), (0x1E023, 0x1E024), (0x1E026, 0x1E02A), (0x1E130, 0x1E136),
   (0x1E2AE, 0x1E2AE), (0x1E2EC, 0x1E2EF), (0x1E8D0, 0x1E8D6), (0x1E944, 0x1E94A),
   (0xE0100, 0xE01EF)]

/-- Punctuation that connects, as inclusive ranges of code points. -/
def connectorRanges : List (Nat × Nat) :=
  [(0x5F, 0x5F), (0x203F, 0x2040), (0x2054, 0x2054), (0xFE33, 0xFE34), (0xFE4D, 0xFE4F),
   (0xFF3F, 0xFF3F)]

/-- Signs for currencies, as inclusive ranges of code points. -/
def currencyRanges : List (Nat × Nat) :=
  [(0x24, 0x24), (0xA2, 0xA5), (0x58F, 0x58F), (0x60B, 0x60B), (0x7FE, 0x7FF), (0x9F2, 0x9F3),
   (0x9FB, 0x9FB), (0xAF1, 0xAF1), (0xBF9, 0xBF9), (0xE3F, 0xE3F), (0x17DB, 0x17DB),
   (0x20A0, 0x20C0), (0xA838, 0xA838), (0xFDFC, 0xFDFC), (0xFE69, 0xFE69), (0xFF04, 0xFF04),
   (0xFFE0, 0xFFE1), (0xFFE5, 0xFFE6), (0x11FDD, 0x11FE0), (0x1E2FF, 0x1E2FF), (0x1ECB0, 0x1ECB0)]

/-- Controls and format characters that are passed over, as inclusive ranges of code points. -/
def ignorableRanges : List (Nat × Nat) :=
  [(0x0, 0x8), (0xE, 0x1B), (0x7F, 0x9F), (0xAD, 0xAD), (0x600, 0x605), (0x61C, 0x61C),
   (0x6DD, 0x6DD), (0x70F, 0x70F), (0x890, 0x891), (0x8E2, 0x8E2), (0x180E, 0x180E),
   (0x200B, 0x200F), (0x202A, 0x202E), (0x2060, 0x2064), (0x2066, 0x206F), (0xFEFF, 0xFEFF),
   (0xFFF9, 0xFFFB), (0x110BD, 0x110BD), (0x110CD, 0x110CD), (0x13430, 0x13438),
   (0x1BCA0, 0x1BCA3), (0x1D173, 0x1D17A), (0xE0001, 0xE0001), (0xE0020, 0xE007F)]

def isOtherNumeral (c : Char) : Bool := inRanges otherNumeralRanges c.toNat

def isMark (c : Char) : Bool := inRanges markRanges c.toNat

def isConnector (c : Char) : Bool := inRanges connectorRanges c.toNat

def isCurrency (c : Char) : Bool := inRanges currencyRanges c.toNat

/-- A control or format character that is passed over in names. -/
def isIgnorable (c : Char) : Bool := inRanges ignorableRanges c.toNat

def decimalRanges : List (Nat × Nat) := decimalZeros.map fun first => (first, first + 9)

/-- Stretches that hold the letters with two cases. -/
def casedBlocks : List (Nat × Nat) :=
  [(0x41, 0x7A), (0xC0, 0x586), (0x10A0, 0x10FF), (0x13A0, 0x13FD), (0x1C90, 0x1FFC),
   (0x2126, 0x214E), (0x2160, 0x2184), (0x24B6, 0x24E9), (0x2C00, 0x2CF3), (0x2D00, 0x2D2D),
   (0xA640, 0xA7F6), (0xAB53, 0xFF5A), (0x10400, 0x105BC), (0x10C80, 0x10CF2),
   (0x118A0, 0x118DF), (0x16E40, 0x16E7F), (0x1E900, 0x1E943)]

def CaseRun.range (run : CaseRun) : Nat × Nat := (run.first, run.last)

def CaseRun.imageRange (run : CaseRun) : Nat × Nat :=
  ((run.first + run.delta).toNat, (run.last + run.delta).toNat)

/-- How the tables lie to each other. -/
structure Arranged : Prop where
  decimals : within decimalRanges digitRanges = true
  otherNumerals : within otherNumeralRanges wordRanges = true
  decimals_apart : apart decimalRanges otherNumeralRanges = true
  marks_apart : apart otherNumeralRanges markRanges = true
  connectors_apart : apart otherNumeralRanges connectorRanges = true
  currencies_apart : apart otherNumeralRanges currencyRanges = true
  ignorables_apart : apart otherNumeralRanges ignorableRanges = true
  ascii_apart : apart [(0, 127)] otherNumeralRanges = true
  cased_apart : apart casedBlocks otherNumeralRanges = true
  /-- Lowering stays in the blocks of letters. -/
  cased : ∀ run ∈ lowerRuns,
    within [run.range] casedBlocks = true ∧ within [run.imageRange] casedBlocks = true

theorem arranged : Arranged := by
  constructor <;> decide +kernel

/-! ## Decimal digits -/

theorem inRanges_of_decimalValue? {c : Char} (hc : (decimalValue? c).isSome = true) :
    inRanges decimalRanges c.toNat = true := by
  rw [decimalValue?, Option.isSome_map, List.find?_isSome] at hc
  obtain ⟨first, hfirst, hblock⟩ := hc
  rw [Bool.and_eq_true, decide_eq_true_eq, decide_eq_true_eq] at hblock
  exact inRanges_eq_true_iff.mpr
    ⟨_, List.mem_map_of_mem hfirst, hblock.1, Nat.le_of_lt_succ hblock.2⟩

theorem isDigit_of_decimalValue? {c : Char} (hc : (decimalValue? c).isSome = true) :
    isDigit c = true :=
  inRanges_of_within (Arranged.decimals arranged) (inRanges_of_decimalValue? hc)

/-! ## Other numerals -/

theorem isAlphanumeric_of_isOtherNumeral {c : Char} (hc : isOtherNumeral c = true) :
    isAlphanumeric c = true :=
  inRanges_of_within (Arranged.otherNumerals arranged) hc

theorem isWord_of_isOtherNumeral {c : Char} (hc : isOtherNumeral c = true) : isWord c = true :=
  isWord_of_inRanges (isAlphanumeric_of_isOtherNumeral hc)

theorem decimalValue?_of_isOtherNumeral {c : Char} (hc : isOtherNumeral c = true) :
    (decimalValue? c).isSome = false := by
  cases hdecimal : (decimalValue? c).isSome with
  | false => rfl
  | true =>
      have hnot := inRanges_eq_false_of_apart (Arranged.decimals_apart arranged)
        (inRanges_of_decimalValue? hdecimal)
      exact absurd hc (Bool.eq_false_iff.mp hnot)

/-- The categories that other numerals are not in. -/
theorem others_of_isOtherNumeral {c : Char} (hc : isOtherNumeral c = true) :
    isMark c = false ∧ isConnector c = false ∧ isCurrency c = false ∧ isIgnorable c = false :=
  ⟨inRanges_eq_false_of_apart (Arranged.marks_apart arranged) hc,
    inRanges_eq_false_of_apart (Arranged.connectors_apart arranged) hc,
    inRanges_eq_false_of_apart (Arranged.currencies_apart arranged) hc,
    inRanges_eq_false_of_apart (Arranged.ignorables_apart arranged) hc⟩

/-! ## Lowering -/

/-- A code point that a run moves lies in its range, and so does the image in the range of
images. -/
theorem CaseRun.inRanges_of_image? {run : CaseRun} {code image : Nat}
    (himage : run.image? code = some image) :
    inRanges [run.range] code = true ∧ inRanges [run.imageRange] image = true := by
  rw [image?] at himage
  split at himage
  next hcovered =>
    cases himage
    simp only [Bool.and_eq_true, decide_eq_true_eq] at hcovered
    have hbounds : run.imageRange.1 ≤ (code + run.delta).toNat ∧
        (code + run.delta).toNat ≤ run.imageRange.2 := by
      simp only [imageRange]
      omega
    exact ⟨inRanges_eq_true_iff.mpr ⟨_, List.mem_singleton_self _, hcovered.1⟩,
      inRanges_eq_true_iff.mpr ⟨_, List.mem_singleton_self _, hbounds⟩⟩
  next => cases himage

theorem isOtherNumeral_ofNat {code : Nat} (h : isOtherNumeral (Char.ofNat code) = true) :
    inRanges otherNumeralRanges code = true := by
  rcases toNat_ofNat_or code with hcode | hzero
  · rwa [isOtherNumeral, hcode] at h
  · rw [hzero] at h
    exact absurd h (by decide)

theorem not_inRanges_otherNumeralRanges_of_ascii {code : Nat} (hcode : code < 128) :
    inRanges otherNumeralRanges code = false := by
  apply inRanges_eq_false_of_apart (Arranged.ascii_apart arranged)
  exact inRanges_eq_true_iff.mpr
    ⟨_, List.mem_singleton_self _, Nat.zero_le _, Nat.le_of_lt_succ hcode⟩

variable {numeral : Char}

/-- Lowering one character gives an other numeral only from itself. -/
theorem mapCase_lowerRuns_eq_iff (hnumeral : isOtherNumeral numeral = true) (c : Char) :
    numeral = mapCase lowerRuns c ↔ numeral = c := by
  rw [mapCase]
  split
  next image himage =>
    obtain ⟨run, hrun, himage⟩ := List.exists_of_findSome?_eq_some himage
    obtain ⟨hcode, himage⟩ := CaseRun.inRanges_of_image? himage
    obtain ⟨hrange, himageRange⟩ := Arranged.cased arranged run hrun
    constructor
    · rintro rfl
      have hnot := inRanges_eq_false_of_apart (Arranged.cased_apart arranged)
        (inRanges_of_within himageRange himage)
      exact absurd (isOtherNumeral_ofNat hnumeral) (Bool.eq_false_iff.mp hnot)
    · rintro rfl
      have hnot := inRanges_eq_false_of_apart (Arranged.cased_apart arranged)
        (inRanges_of_within hrange hcode)
      exact absurd hnumeral (Bool.eq_false_iff.mp hnot)
  next => rfl

/-- An other numeral is not a character outside of its class. -/
theorem ne_of_isOtherNumeral (hnumeral : isOtherNumeral numeral = true) {c : Char}
    (hc : isOtherNumeral c = false) : numeral ≠ c := by
  rintro rfl
  exact absurd hnumeral (Bool.eq_false_iff.mp hc)

/-- No character of ASCII is lowered to one of the other numerals. -/
theorem not_isOtherNumeral_asciiLower {c : Char} (hc : c.toNat < 128) :
    isOtherNumeral (asciiLower c) = false := by
  rw [asciiLower]
  split
  next hcapital =>
    rw [Bool.and_eq_true, decide_eq_true_eq, decide_eq_true_eq] at hcapital
    have hlast : c.toNat ≤ 90 := hcapital.2
    rw [Bool.eq_false_iff]
    intro hlower
    exact absurd (isOtherNumeral_ofNat hlower) (Bool.eq_false_iff.mp
      (not_inRanges_otherNumeralRanges_of_ascii (by omega)))
  next => exact not_inRanges_otherNumeralRanges_of_ascii hc

/-- A character is lowered to one of the other numerals only if it is this numeral. -/
theorem mem_lowerChar_iff (hnumeral : isOtherNumeral numeral = true) (c : Char) :
    numeral ∈ lowerChar c ↔ numeral = c := by
  rw [lowerChar]
  split
  next hascii =>
    rw [List.mem_singleton]
    exact iff_of_false (ne_of_isOtherNumeral hnumeral (not_isOtherNumeral_asciiLower hascii))
      (ne_of_isOtherNumeral hnumeral (not_inRanges_otherNumeralRanges_of_ascii hascii))
  next =>
    split
    next hdotted =>
      have hc : isOtherNumeral c = false := by
        rw [isOtherNumeral, beq_iff_eq.mp hdotted]
        decide
      have himages : ['i', Char.ofNat 0x307].any isOtherNumeral = false := by decide
      exact iff_of_false (fun hmem => List.any_eq_false.mp himages numeral hmem hnumeral)
        (ne_of_isOtherNumeral hnumeral hc)
    next => rw [List.mem_singleton, mapCase_lowerRuns_eq_iff hnumeral]

/-- Other numerals are neither lowered, nor do they come from lowering. -/
theorem mem_lower_iff (hnumeral : isOtherNumeral numeral = true) (s : List Char) :
    numeral ∈ lower s ↔ numeral ∈ s := by
  have hfrom : ∀ before, numeral ∈ lowerFrom before s ↔ numeral ∈ s := by
    induction s with
    | nil => exact fun _ => Iff.rfl
    | cons c rest ih =>
        intro before
        rw [lowerFrom, List.mem_cons]
        split
        next hsigma =>
          have hc : isOtherNumeral c = false := by
            rw [isOtherNumeral, beq_iff_eq.mp hsigma]
            decide
          have himage : isOtherNumeral (Char.ofNat
              (if meetsCased before && !meetsCased rest then 0x3C2 else 0x3C3)) = false := by
            split <;> decide
          rw [List.mem_cons, ih]
          exact or_congr_left (iff_of_false (ne_of_isOtherNumeral hnumeral himage)
            (ne_of_isOtherNumeral hnumeral hc))
        next => rw [List.mem_append, mem_lowerChar_iff hnumeral, ih]
  exact hfrom []

end Clickpath.Chars
