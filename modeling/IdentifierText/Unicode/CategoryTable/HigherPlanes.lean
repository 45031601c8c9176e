/-
General categories of the assigned code points from U+10000 on, as maximal runs in increasing order (Unicode 18.0).
Each list is named for its first code point.
-/
import IdentifierText.Unicode.Run
import IdentifierText.Unicode.GeneralCategory

namespace IdentifierText.Unicode.CategoryTable.HigherPlanes

def runs10000 : List (Run GeneralCategory) :=
  [⟨0x10000, 0x1000B, .otherLetter⟩, ⟨0x1000D, 0x10026, .otherLetter⟩, ⟨0x10028, 0x1003A, .otherLetter⟩,
   ⟨0x1003C, 0x1003D, .otherLetter⟩, ⟨0x1003F, 0x1004D, .otherLetter⟩, ⟨0x10050, 0x1005D, .otherLetter⟩,
   ⟨0x10080, 0x100FA, .otherLetter⟩, ⟨0x10100, 0x10102, .otherPunctuation⟩, ⟨0x10107, 0x10133, .otherNumber⟩,
   ⟨0x10137, 0x1013F, .otherSymbol⟩, ⟨0x10140, 0x10174, .letterNumber⟩, ⟨0x10175, 0x10178, .otherNumber⟩,
   ⟨0x10179, 0x10189, .otherSymbol⟩, ⟨0x1018A, 0x1018B, .otherNumber⟩, ⟨0x1018C, 0x1018E, .otherSymbol⟩,
   ⟨0x10190, 0x1019C, .otherSymbol⟩, ⟨0x101A0, 0x101A0, .otherSymbol⟩, ⟨0x101D0, 0x101FC, .otherSymbol⟩,
   ⟨0x101FD, 0x101FD, .nonspacingMark⟩, ⟨0x10280, 0x1029C, .otherLetter⟩, ⟨0x102A0, 0x102D0, .otherLetter⟩,
   ⟨0x102E0, 0x102E0, .nonspacingMark⟩, ⟨0x102E1, 0x102FB, .otherNumber⟩, ⟨0x10300, 0x1031F, .otherLetter⟩,
   ⟨0x10320, 0x10323, .otherNumber⟩, ⟨0x1032D, 0x10340, .otherLetter⟩, ⟨0x10341, 0x10341, .letterNumber⟩,
   ⟨0x10342, 0x10349, .otherLetter⟩, ⟨0x1034A, 0x1034A, .letterNumber⟩, ⟨0x10350, 0x10375, .otherLetter⟩,
   ⟨0x10376, 0x1037A, .nonspacingMark⟩, ⟨0x10380, 0x1039D, .otherLetter⟩, ⟨0x1039F, 0x1039F, .otherPunctuation⟩,
   ⟨0x103A0, 0x103C3, .otherLetter⟩, ⟨0x103C8, 0x103CF, .otherLetter⟩, ⟨0x103D0, 0x103D0, .otherPunctuation⟩,
   ⟨0x103D1, 0x103D5, .letterNumber⟩, ⟨0x10400, 0x10427, .uppercaseLetter⟩, ⟨0x10428, 0x1044F, .lowercaseLetter⟩,
   ⟨0x10450, 0x1049D, .otherLetter⟩, ⟨0x104A0, 0x104A9, .decimalNumber⟩, ⟨0x104B0, 0x104D3, .uppercaseLetter⟩,
   ⟨0x104D8, 0x104FB, .lowercaseLetter⟩, ⟨0x10500, 0x10527, .otherLetter⟩, ⟨0x10530, 0x10563, .otherLetter⟩,
   ⟨0x1056F, 0x1056F, .otherPunctuation⟩, ⟨0x10570, 0x1057A, .uppercaseLetter⟩, ⟨0x1057C, 0x1058A, .uppercaseLetter⟩,
   ⟨0x1058C, 0x10592, .uppercaseLetter⟩, ⟨0x10594, 0x10595, .uppercaseLetter⟩, ⟨0x10597, 0x105A1, .lowercaseLetter⟩,
   ⟨0x105A3, 0x105B1, .lowercaseLetter⟩, ⟨0x105B3, 0x105B9, .lowercaseLetter⟩, ⟨0x105BB, 0x105BC, .lowercaseLetter⟩,
   ⟨0x105C0, 0x105F3, .otherLetter⟩, ⟨0x10600, 0x10736, .otherLetter⟩, ⟨0x10740, 0x10755, .otherLetter⟩,
   ⟨0x10760, 0x10767, .otherLetter⟩, ⟨0x10780, 0x10785, .modifierLetter⟩, ⟨0x10787, 0x107B0, .modifierLetter⟩,
   ⟨0x107B2, 0x107BF, .modifierLetter⟩, ⟨0x10800, 0x10805, .otherLetter⟩, ⟨0x10808, 0x10808, .otherLetter⟩,
   ⟨0x1080A, 0x10835, .otherLetter⟩, ⟨0x10837, 0x10838, .otherLetter⟩, ⟨0x1083C, 0x1083C, .otherLetter⟩,
   ⟨0x1083F, 0x10855, .otherLetter⟩, ⟨0x10857, 0x10857, .otherPunctuation⟩, ⟨0x10858, 0x1085F, .otherNumber⟩,
   ⟨0x10860, 0x10876, .otherLetter⟩, ⟨0x10877, 0x10878, .otherSymbol⟩, ⟨0x10879, 0x1087F, .otherNumber⟩,
   ⟨0x10880, 0x1089E, .otherLetter⟩, ⟨0x108A7, 0x108AF, .otherNumber⟩, ⟨0x108E0, 0x108F2, .otherLetter⟩,
   ⟨0x108F4, 0x108F5, .otherLetter⟩, ⟨0x108FB, 0x108FF, .otherNumber⟩, ⟨0x10900, 0x10915, .otherLetter⟩,
   ⟨0x10916, 0x1091B, .otherNumber⟩, ⟨0x1091F, 0x1091F, .otherPunctuation⟩, ⟨0x10920, 0x10939, .otherLetter⟩,
   ⟨0x1093F, 0x1093F, .otherPunctuation⟩, ⟨0x10940, 0x10959, .otherLetter⟩, ⟨0x10980, 0x109B7, .otherLetter⟩,
   ⟨0x109BC, 0x109BD, .otherNumber⟩, ⟨0x109BE, 0x109BF, .otherLetter⟩, ⟨0x109C0, 0x109CF, .otherNumber⟩,
   ⟨0x109D2, 0x109FF, .otherNumber⟩, ⟨0x10A00, 0x10A00, .otherLetter⟩, ⟨0x10A01, 0x10A03, .nonspacingMark⟩,
   ⟨0x10A05, 0x10A06, .nonspacingMark⟩, ⟨0x10A0C, 0x10A0F, .nonspacingMark⟩, ⟨0x10A10, 0x10A13, .otherLetter⟩,
   ⟨0x10A15, 0x10A17, .otherLetter⟩, ⟨0x10A19, 0x10A35, .otherLetter⟩, ⟨0x10A38, 0x10A3A, .nonspacingMark⟩,
   ⟨0x10A3F, 0x10A3F, .nonspacingMark⟩, ⟨0x10A40, 0x10A48, .otherNumber⟩, ⟨0x10A50, 0x10A58, .otherPunctuation⟩,
   ⟨0x10A60, 0x10A7C, .otherLetter⟩, ⟨0x10A7D, 0x10A7E, .otherNumber⟩, ⟨0x10A7F, 0x10A7F, .otherPunctuation⟩,
   ⟨0x10A80, 0x10A9C, .otherLetter⟩, ⟨0x10A9D, 0x10A9F, .otherNumber⟩, ⟨0x10AC0, 0x10AC7, .otherLetter⟩,
   ⟨0x10AC8, 0x10AC8, .otherSymbol⟩, ⟨0x10AC9, 0x10AE4, .otherLetter⟩, ⟨0x10AE5, 0x10AE6, .nonspacingMark⟩,
   ⟨0x10AEB, 0x10AEF, .otherNumber⟩, ⟨0x10AF0, 0x10AF6, .otherPunctuation⟩, ⟨0x10B00, 0x10B35, .otherLetter⟩,
   ⟨0x10B39, 0x10B3F, .otherPunctuation⟩, ⟨0x10B40, 0x10B55, .otherLetter⟩, ⟨0x10B58, 0x10B5F, .otherNumber⟩,
   ⟨0x10B60, 0x10B72, .otherLetter⟩, ⟨0x10B78, 0x10B7F, .otherNumber⟩, ⟨0x10B80, 0x10B91, .otherLetter⟩,
   ⟨0x10B99, 0x10B9C, .otherPunctuation⟩, ⟨0x10BA9, 0x10BAF, .otherNumber⟩, ⟨0x10C00, 0x10C48, .otherLetter⟩,
   ⟨0x10C80, 0x10CB2, .uppercaseLetter⟩, ⟨0x10CC0, 0x10CF2, .lowercaseLetter⟩, ⟨0x10CFA, 0x10CFF, .otherNumber⟩,
   ⟨0x10D00, 0x10D23, .otherLetter⟩, ⟨0x10D24, 0x10D27, .nonspacingMark⟩, ⟨0x10D30, 0x10D39, .decimalNumber⟩,
   ⟨0x10D40, 0x10D49, .decimalNumber⟩, ⟨0x10D4A, 0x10D4D, .otherLetter⟩]

def runs10D4E : List (Run GeneralCategory) :=
  [⟨0x10D4E, 0x10D4E, .modifierLetter⟩, ⟨0x10D4F, 0x10D4F, .otherLetter⟩, ⟨0x10D50, 0x10D65, .uppercaseLetter⟩,
   ⟨0x10D69, 0x10D6D, .nonspacingMark⟩, ⟨0x10D6E, 0x10D6E, .dashPunctuation⟩, ⟨0x10D6F, 0x10D6F, .modifierLetter⟩,
   ⟨0x10D70, 0x10D85, .lowercaseLetter⟩, ⟨0x10D8E, 0x10D8F, .mathSymbol⟩, ⟨0x10E60, 0x10E7E, .otherNumber⟩,
   ⟨0x10E80, 0x10EA9, .otherLetter⟩, ⟨0x10EAB, 0x10EAC, .nonspacingMark⟩, ⟨0x10EAD, 0x10EAD, .dashPunctuation⟩,
   ⟨0x10EB0, 0x10EB1, .otherLetter⟩, ⟨0x10EC2, 0x10EC4, .otherLetter⟩, ⟨0x10EC5, 0x10EC5, .modifierLetter⟩,
   ⟨0x10EC6, 0x10EC7, .otherLetter⟩, ⟨0x10EC9, 0x10ECA, .modifierSymbol⟩, ⟨0x10ECB, 0x10ECF, .nonspacingMark⟩,
   ⟨0x10ED0, 0x10ED0, .otherPunctuation⟩, ⟨0x10ED1, 0x10ED8, .otherSymbol⟩, ⟨0x10ED9, 0x10EEE, .otherLetter⟩,
   ⟨0x10EF0, 0x10EFF, .nonspacingMark⟩, ⟨0x10F00, 0x10F1C, .otherLetter⟩, ⟨0x10F1D, 0x10F26, .otherNumber⟩,
   ⟨0x10F27, 0x10F27, .otherLetter⟩, ⟨0x10F30, 0x10F45, .otherLetter⟩, ⟨0x10F46, 0x10F50, .nonspacingMark⟩,
   ⟨0x10F51, 0x10F54, .otherNumber⟩, ⟨0x10F55, 0x10F59, .otherPunctuation⟩, ⟨0x10F70, 0x10F81, .otherLetter⟩,
   ⟨0x10F82, 0x10F85, .nonspacingMark⟩, ⟨0x10F86, 0x10F89, .otherPunctuation⟩, ⟨0x10FB0, 0x10FC4, .otherLetter⟩,
   ⟨0x10FC5, 0x10FCB, .otherNumber⟩, ⟨0x10FE0, 0x10FF6, .otherLetter⟩, ⟨0x11000, 0x11000, .spacingMark⟩,
   ⟨0x11001, 0x11001, .nonspacingMark⟩, ⟨0x11002, 0x11002, .spacingMark⟩, ⟨0x11003, 0x11037, .otherLetter⟩,
   ⟨0x11038, 0x11046, .nonspacingMark⟩, ⟨0x11047, 0x1104D, .otherPunctuation⟩, ⟨0x11052, 0x11065, .otherNumber⟩,
   ⟨0x11066, 0x1106F, .decimalNumber⟩, ⟨0x11070, 0x11070, .nonspacingMark⟩, ⟨0x11071, 0x11072, .otherLetter⟩,
   ⟨0x11073, 0x11074, .nonspacingMark⟩, ⟨0x11075, 0x11075, .otherLetter⟩, ⟨0x1107F, 0x11081, .nonspacingMark⟩,
   ⟨0x11082, 0x11082, .spacingMark⟩, ⟨0x11083, 0x110AF, .otherLetter⟩, ⟨0x110B0, 0x110B2, .spacingMark⟩,
   ⟨0x110B3, 0x110B6, .nonspacingMark⟩, ⟨0x110B7, 0x110B8, .spacingMark⟩, ⟨0x110B9, 0x110BA, .nonspacingMark⟩,
   ⟨0x110BB, 0x110BC, .otherPunctuation⟩, ⟨0x110BD, 0x110BD, .format⟩, ⟨0x110BE, 0x110C1, .otherPunctuation⟩,
   ⟨0x110C2, 0x110C2, .nonspacingMark⟩, ⟨0x110CD, 0x110CD, .format⟩, ⟨0x110D0, 0x110E8, .otherLetter⟩,
   ⟨0x110F0, 0x110F9, .decimalNumber⟩, ⟨0x11100, 0x11102, .nonspacingMark⟩, ⟨0x11103, 0x11126, .otherLetter⟩,
   ⟨0x11127, 0x1112B, .nonspacingMark⟩, ⟨0x1112C, 0x1112C, .spacingMark⟩, ⟨0x1112D, 0x11134, .nonspacingMark⟩,
   ⟨0x11136, 0x1113F, .decimalNumber⟩, ⟨0x11140, 0x11143, .otherPunctuation⟩, ⟨0x11144, 0x11144, .otherLetter⟩,
   ⟨0x11145, 0x11146, .spacingMark⟩, ⟨0x11147, 0x11147, .otherLetter⟩, ⟨0x11150, 0x11172, .otherLetter⟩,
   ⟨0x11173, 0x11173, .nonspacingMark⟩, ⟨0x11174, 0x11175, .otherPunctuation⟩, ⟨0x11176, 0x11176, .otherLetter⟩,
   ⟨0x11180, 0x11181, .nonspacingMark⟩, ⟨0x11182, 0x11182, .spacingMark⟩, ⟨0x11183, 0x111B2, .otherLetter⟩,
   ⟨0x111B3, 0x111B5, .spacingMark⟩, ⟨0x111B6, 0x111BE, .nonspacingMark⟩, ⟨0x111BF, 0x111C0, .spacingMark⟩,
   ⟨0x111C1, 0x111C4, .otherLetter⟩, ⟨0x111C5, 0x111C8, .otherPunctuation⟩, ⟨0x111C9, 0x111CC, .nonspacingMark⟩,
   ⟨0x111CD, 0x111CD, .otherPunctuation⟩, ⟨0x111CE, 0x111CE, .spacingMark⟩, ⟨0x111CF, 0x111CF, .nonspacingMark⟩,
   ⟨0x111D0, 0x111D9, .decimalNumber⟩, ⟨0x111DA, 0x111DA, .otherLetter⟩, ⟨0x111DB, 0x111DB, .otherPunctuation⟩,
   ⟨0x111DC, 0x111DC, .otherLetter⟩, ⟨0x111DD, 0x111DF, .otherPunctuation⟩, ⟨0x111E1, 0x111F4, .otherNumber⟩,
   ⟨0x11200, 0x11211, .otherLetter⟩, ⟨0x11213, 0x1122B, .otherLetter⟩, ⟨0x1122C, 0x1122E, .spacingMark⟩,
   ⟨0x1122F, 0x11231, .nonspacingMark⟩, ⟨0x11232, 0x11233, .spacingMark⟩, ⟨0x11234, 0x11234, .nonspacingMark⟩,
   ⟨0x11235, 0x11235, .spacingMark⟩, ⟨0x11236, 0x11237, .nonspacingMark⟩, ⟨0x11238, 0x1123D, .otherPunctuation⟩,
   ⟨0x1123E, 0x1123E, .nonspacingMark⟩, ⟨0x1123F, 0x11240, .otherLetter⟩, ⟨0x11241, 0x11241, .nonspacingMark⟩,
   ⟨0x11280, 0x11286, .otherLetter⟩, ⟨0x11288, 0x11288, .otherLetter⟩, ⟨0x1128A, 0x1128D, .otherLetter⟩,
   ⟨0x1128F, 0x1129D, .otherLetter⟩, ⟨0x1129F, 0x112A8, .otherLetter⟩, ⟨0x112A9, 0x112A9, .otherPunctuation⟩,
   ⟨0x112B0, 0x112DE, .otherLetter⟩, ⟨0x112DF, 0x112DF, .nonspacingMark⟩, ⟨0x112E0, 0x112E2, .spacingMark⟩,
   ⟨0x112E3, 0x112EA, .nonspacingMark⟩, ⟨0x112F0, 0x112F9, .decimalNumber⟩, ⟨0x11300, 0x11301, .nonspacingMark⟩,
   ⟨0x11302, 0x11303, .spacingMark⟩, ⟨0x11305, 0x1130C, .otherLetter⟩, ⟨0x1130F, 0x11310, .otherLetter⟩,
   ⟨0x11313, 0x11328, .otherLetter⟩, ⟨0x1132A, 0x11330, .otherLetter⟩, ⟨0x11332, 0x11333, .otherLetter⟩,
   ⟨0x11335, 0x11339, .otherLetter⟩, ⟨0x1133B, 0x1133C, .nonspacingMark⟩, ⟨0x1133D, 0x1133D, .otherLetter⟩,
   ⟨0x1133E, 0x1133F, .spacingMark⟩, ⟨0x11340, 0x11340, .nonspacingMark⟩]

def runs11341 : List (Run GeneralCategory) :=
  [⟨0x11341, 0x11344, .spacingMark⟩, ⟨0x11347, 0x11348, .spacingMark⟩, ⟨0x1134B, 0x1134D, .spacingMark⟩,
   ⟨0x11350, 0x11350, .otherLetter⟩, ⟨0x11357, 0x11357, .spacingMark⟩, ⟨0x1135D, 0x11361, .otherLetter⟩,
   ⟨0x11362, 0x11363, .spacingMark⟩, ⟨0x11366, 0x1136C, .nonspacingMark⟩, ⟨0x11370, 0x11374, .nonspacingMark⟩,
   ⟨0x11380, 0x11389, .otherLetter⟩, ⟨0x1138B, 0x1138B, .otherLetter⟩, ⟨0x1138E, 0x1138E, .otherLetter⟩,
   ⟨0x11390, 0x113B5, .otherLetter⟩, ⟨0x113B7, 0x113B7, .otherLetter⟩, ⟨0x113B8, 0x113BA, .spacingMark⟩,
   ⟨0x113BB, 0x113C0, .nonspacingMark⟩, ⟨0x113C2, 0x113C2, .spacingMark⟩, ⟨0x113C5, 0x113C5, .spacingMark⟩,
   ⟨0x113C7, 0x113CA, .spacingMark⟩, ⟨0x113CC, 0x113CD, .spacingMark⟩, ⟨0x113CE, 0x113CE, .nonspacingMark⟩,
   ⟨0x113CF, 0x113CF, .spacingMark⟩, ⟨0x113D0, 0x113D0, .nonspacingMark⟩, ⟨0x113D1, 0x113D1, .otherLetter⟩,
   ⟨0x113D2, 0x113D2, .nonspacingMark⟩, ⟨0x113D3, 0x113D3, .otherLetter⟩, ⟨0x113D4, 0x113D5, .otherPunctuation⟩,
   ⟨0x113D7, 0x113D8, .otherPunctuation⟩, ⟨0x113E1, 0x113E2, .nonspacingMark⟩, ⟨0x11400, 0x11434, .otherLetter⟩,
   ⟨0x11435, 0x11437, .spacingMark⟩, ⟨0x11438, 0x1143F, .nonspacingMark⟩, ⟨0x11440, 0x11441, .spacingMark⟩,
   ⟨0x11442, 0x11444, .nonspacingMark⟩, ⟨0x11445, 0x11445, .spacingMark⟩, ⟨0x11446, 0x11446, .nonspacingMark⟩,
   ⟨0x11447, 0x1144A, .otherLetter⟩, ⟨0x1144B, 0x1144F, .otherPunctuation⟩, ⟨0x11450, 0x11459, .decimalNumber⟩,
   ⟨0x1145A, 0x1145B, .otherPunctuation⟩, ⟨0x1145D, 0x1145D, .otherPunctuation⟩, ⟨0x1145E, 0x1145E, .nonspacingMark⟩,
   ⟨0x1145F, 0x11461, .otherLetter⟩, ⟨0x11480, 0x114AF, .otherLetter⟩, ⟨0x114B0, 0x114B2, .spacingMark⟩,
   ⟨0x114B3, 0x114B8, .nonspacingMark⟩, ⟨0x114B9, 0x114B9, .spacingMark⟩, ⟨0x114BA, 0x114BA, .nonspacingMark⟩,
   ⟨0x114BB, 0x114BE, .spacingMark⟩, ⟨0x114BF, 0x114C0, .nonspacingMark⟩, ⟨0x114C1, 0x114C1, .spacingMark⟩,
   ⟨0x114C2, 0x114C3, .nonspacingMark⟩, ⟨0x114C4, 0x114C5, .otherLetter⟩, ⟨0x114C6, 0x114C6, .otherPunctuation⟩,
   ⟨0x114C7, 0x114C7, .otherLetter⟩, ⟨0x114D0, 0x114D9, .decimalNumber⟩, ⟨0x11580, 0x115AE, .otherLetter⟩,
   ⟨0x115AF, 0x115B1, .spacingMark⟩, ⟨0x115B2, 0x115B5, .nonspacingMark⟩, ⟨0x115B8, 0x115BB, .spacingMark⟩,
   ⟨0x115BC, 0x115BD, .nonspacingMark⟩, ⟨0x115BE, 0x115BE, .spacingMark⟩, ⟨0x115BF, 0x115C0, .nonspacingMark⟩,
   ⟨0x115C1, 0x115D7, .otherPunctuation⟩, ⟨0x115D8, 0x115DB, .otherLetter⟩, ⟨0x115DC, 0x115DD, .nonspacingMark⟩,
   ⟨0x11600, 0x1162F, .otherLetter⟩, ⟨0x11630, 0x11632, .spacingMark⟩, ⟨0x11633, 0x1163A, .nonspacingMark⟩,
   ⟨0x1163B, 0x1163C, .spacingMark⟩, ⟨0x1163D, 0x1163D, .nonspacingMark⟩, ⟨0x1163E, 0x1163E, .spacingMark⟩,
   ⟨0x1163F, 0x11640, .nonspacingMark⟩, ⟨0x11641, 0x11643, .otherPunctuation⟩, ⟨0x11644, 0x11644, .otherLetter⟩,
   ⟨0x11650, 0x11659, .decimalNumber⟩, ⟨0x11660, 0x1166C, .otherPunctuation⟩, ⟨0x11680, 0x116AA, .otherLetter⟩,
   ⟨0x116AB, 0x116AB, .nonspacingMark⟩, ⟨0x116AC, 0x116AC, .spacingMark⟩, ⟨0x116AD, 0x116AD, .nonspacingMark⟩,
   ⟨0x116AE, 0x116AF, .spacingMark⟩, ⟨0x116B0, 0x116B5, .nonspacingMark⟩, ⟨0x116B6, 0x116B6, .spacingMark⟩,
   ⟨0x116B7, 0x116B7, .nonspacingMark⟩, ⟨0x116B8, 0x116B8, .otherLetter⟩, ⟨0x116B9, 0x116B9, .otherPunctuation⟩,
   ⟨0x116C0, 0x116C9, .decimalNumber⟩, ⟨0x116D0, 0x116E3, .decimalNumber⟩, ⟨0x11700, 0x1171A, .otherLetter⟩,
   ⟨0x1171D, 0x1171D, .nonspacingMark⟩, ⟨0x1171E, 0x1171E, .spacingMark⟩, ⟨0x1171F, 0x1171F, .nonspacingMark⟩,
   ⟨0x11720, 0x11721, .spacingMark⟩, ⟨0x11722, 0x11725, .nonspacingMark⟩, ⟨0x11726, 0x11726, .spacingMark⟩,
   ⟨0x11727, 0x1172B, .nonspacingMark⟩, ⟨0x11730, 0x11739, .decimalNumber⟩, ⟨0x1173A, 0x1173B, .otherNumber⟩,
   ⟨0x1173C, 0x1173E, .otherPunctuation⟩, ⟨0x1173F, 0x1173F, .otherSymbol⟩, ⟨0x11740, 0x11746, .otherLetter⟩,
   ⟨0x11800, 0x1182B, .otherLetter⟩, ⟨0x1182C, 0x1182E, .spacingMark⟩, ⟨0x1182F, 0x11837, .nonspacingMark⟩,
   ⟨0x11838, 0x11838, .spacingMark⟩, ⟨0x11839, 0x1183A, .nonspacingMark⟩, ⟨0x1183B, 0x1183B, .otherPunctuation⟩,
   ⟨0x118A0, 0x118BF, .uppercaseLetter⟩, ⟨0x118C0, 0x118DF, .lowercaseLetter⟩, ⟨0x118E0, 0x118E9, .decimalNumber⟩,
   ⟨0x118EA, 0x118F2, .otherNumber⟩, ⟨0x118FF, 0x11906, .otherLetter⟩, ⟨0x11909, 0x11909, .otherLetter⟩,
   ⟨0x1190C, 0x11913, .otherLetter⟩, ⟨0x11915, 0x11916, .otherLetter⟩, ⟨0x11918, 0x1192F, .otherLetter⟩,
   ⟨0x11930, 0x11935, .spacingMark⟩, ⟨0x11937, 0x11938, .spacingMark⟩, ⟨0x1193B, 0x1193C, .nonspacingMark⟩,
   ⟨0x1193D, 0x1193D, .spacingMark⟩, ⟨0x1193E, 0x1193E, .nonspacingMark⟩, ⟨0x1193F, 0x1193F, .otherLetter⟩,
   ⟨0x11940, 0x11940, .spacingMark⟩, ⟨0x11941, 0x11941, .otherLetter⟩, ⟨0x11942, 0x11942, .spacingMark⟩,
   ⟨0x11943, 0x11943, .nonspacingMark⟩, ⟨0x11944, 0x11946, .otherPunctuation⟩]

def runs11950 : List (Run GeneralCategory) :=
  [⟨0x11950, 0x11959, .decimalNumber⟩, ⟨0x119A0, 0x119A7, .otherLetter⟩, ⟨0x119AA, 0x119D0, .otherLetter⟩,
   ⟨0x119D1, 0x119D3, .spacingMark⟩, ⟨0x119D4, 0x119D7, .nonspacingMark⟩, ⟨0x119DA, 0x119DB, .nonspacingMark⟩,
   ⟨0x119DC, 0x119DF, .spacingMark⟩, ⟨0x119E0, 0x119E0, .nonspacingMark⟩, ⟨0x119E1, 0x119E1, .otherLetter⟩,
   ⟨0x119E2, 0x119E2, .otherPunctuation⟩, ⟨0x119E3, 0x119E3, .otherLetter⟩, ⟨0x119E4, 0x119E4, .spacingMark⟩,
   ⟨0x11A00, 0x11A00, .otherLetter⟩, ⟨0x11A01, 0x11A0A, .nonspacingMark⟩, ⟨0x11A0B, 0x11A32, .otherLetter⟩,
   ⟨0x11A33, 0x11A38, .nonspacingMark⟩, ⟨0x11A39, 0x11A39, .spacingMark⟩, ⟨0x11A3A, 0x11A3A, .otherLetter⟩,
   ⟨0x11A3B, 0x11A3E, .nonspacingMark⟩, ⟨0x11A3F, 0x11A46, .otherPunctuation⟩, ⟨0x11A47, 0x11A47, .nonspacingMark⟩,
   ⟨0x11A50, 0x11A50, .otherLetter⟩, ⟨0x11A51, 0x11A56, .nonspacingMark⟩, ⟨0x11A57, 0x11A58, .spacingMark⟩,
   ⟨0x11A59, 0x11A5B, .nonspacingMark⟩, ⟨0x11A5C, 0x11A89, .otherLetter⟩, ⟨0x11A8A, 0x11A96, .nonspacingMark⟩,
   ⟨0x11A97, 0x11A97, .spacingMark⟩, ⟨0x11A98, 0x11A99, .nonspacingMark⟩, ⟨0x11A9A, 0x11A9C, .otherPunctuation⟩,
   ⟨0x11A9D, 0x11A9D, .otherLetter⟩, ⟨0x11A9E, 0x11AA2, .otherPunctuation⟩, ⟨0x11AB0, 0x11AF8, .otherLetter⟩,
   ⟨0x11B00, 0x11B09, .otherPunctuation⟩, ⟨0x11B0A, 0x11B0A, .otherLetter⟩, ⟨0x11B60, 0x11B60, .nonspacingMark⟩,
   ⟨0x11B61, 0x11B61, .spacingMark⟩, ⟨0x11B62, 0x11B64, .nonspacingMark⟩, ⟨0x11B65, 0x11B65, .spacingMark⟩,
   ⟨0x11B66, 0x11B66, .nonspacingMark⟩, ⟨0x11B67, 0x11B67, .spacingMark⟩, ⟨0x11BC0, 0x11BE0, .otherLetter⟩,
   ⟨0x11BE1, 0x11BE1, .otherPunctuation⟩, ⟨0x11BF0, 0x11BF9, .decimalNumber⟩, ⟨0x11C00, 0x11C08, .otherLetter⟩,
   ⟨0x11C0A, 0x11C2E, .otherLetter⟩, ⟨0x11C2F, 0x11C2F, .spacingMark⟩, ⟨0x11C30, 0x11C36, .nonspacingMark⟩,
   ⟨0x11C38, 0x11C3D, .nonspacingMark⟩, ⟨0x11C3E, 0x11C3E, .spacingMark⟩, ⟨0x11C3F, 0x11C3F, .nonspacingMark⟩,
   ⟨0x11C40, 0x11C40, .otherLetter⟩, ⟨0x11C41, 0x11C45, .otherPunctuation⟩, ⟨0x11C50, 0x11C59, .decimalNumber⟩,
   ⟨0x11C5A, 0x11C6C, .otherNumber⟩, ⟨0x11C70, 0x11C71, .otherPunctuation⟩, ⟨0x11C72, 0x11C8F, .otherLetter⟩,
   ⟨0x11C92, 0x11CA7, .nonspacingMark⟩, ⟨0x11CA9, 0x11CA9, .spacingMark⟩, ⟨0x11CAA, 0x11CB0, .nonspacingMark⟩,
   ⟨0x11CB1, 0x11CB1, .spacingMark⟩, ⟨0x11CB2, 0x11CB3, .nonspacingMark⟩, ⟨0x11CB4, 0x11CB4, .spacingMark⟩,
   ⟨0x11CB5, 0x11CB6, .nonspacingMark⟩, ⟨0x11D00, 0x11D06, .otherLetter⟩, ⟨0x11D08, 0x11D09, .otherLetter⟩,
   ⟨0x11D0B, 0x11D30, .otherLetter⟩, ⟨0x11D31, 0x11D36, .nonspacingMark⟩, ⟨0x11D3A, 0x11D3A, .nonspacingMark⟩,
   ⟨0x11D3C, 0x11D3D, .nonspacingMark⟩, ⟨0x11D3F, 0x11D45, .nonspacingMark⟩, ⟨0x11D46, 0x11D46, .otherLetter⟩,
   ⟨0x11D47, 0x11D47, .nonspacingMark⟩, ⟨0x11D50, 0x11D59, .decimalNumber⟩, ⟨0x11D60, 0x11D65, .otherLetter⟩,
   ⟨0x11D67, 0x11D68, .otherLetter⟩, ⟨0x11D6A, 0x11D89, .otherLetter⟩, ⟨0x11D8A, 0x11D8E, .spacingMark⟩,
   ⟨0x11D90, 0x11D91, .nonspacingMark⟩, ⟨0x11D93, 0x11D94, .spacingMark⟩, ⟨0x11D95, 0x11D95, .nonspacingMark⟩,
   ⟨0x11D96, 0x11D96, .spacingMark⟩, ⟨0x11D97, 0x11D97, .nonspacingMark⟩, ⟨0x11D98, 0x11D98, .otherLetter⟩,
   ⟨0x11DA0, 0x11DA9, .decimalNumber⟩, ⟨0x11DB0, 0x11DD8, .otherLetter⟩, ⟨0x11DD9, 0x11DD9, .modifierLetter⟩,
   ⟨0x11DDA, 0x11DDB, .otherLetter⟩, ⟨0x11DE0, 0x11DE9, .decimalNumber⟩, ⟨0x11DF0, 0x11DF0, .nonspacingMark⟩,
   ⟨0x11DF1, 0x11DF1, .otherLetter⟩, ⟨0x11EE0, 0x11EF2, .otherLetter⟩, ⟨0x11EF3, 0x11EF4, .nonspacingMark⟩,
   ⟨0x11EF5, 0x11EF6, .spacingMark⟩, ⟨0x11EF7, 0x11EF8, .otherPunctuation⟩, ⟨0x11F00, 0x11F01, .nonspacingMark⟩,
   ⟨0x11F02, 0x11F02, .otherLetter⟩, ⟨0x11F03, 0x11F03, .spacingMark⟩, ⟨0x11F04, 0x11F10, .otherLetter⟩,
   ⟨0x11F12, 0x11F33, .otherLetter⟩, ⟨0x11F34, 0x11F35, .spacingMark⟩, ⟨0x11F36, 0x11F3A, .nonspacingMark⟩,
   ⟨0x11F3E, 0x11F3F, .spacingMark⟩, ⟨0x11F40, 0x11F40, .nonspacingMark⟩, ⟨0x11F41, 0x11F41, .spacingMark⟩,
   ⟨0x11F42, 0x11F42, .nonspacingMark⟩, ⟨0x11F43, 0x11F4F, .otherPunctuation⟩, ⟨0x11F50, 0x11F59, .decimalNumber⟩,
   ⟨0x11F5A, 0x11F5A, .nonspacingMark⟩, ⟨0x11FB0, 0x11FB0, .otherLetter⟩, ⟨0x11FC0, 0x11FD4, .otherNumber⟩,
   ⟨0x11FD5, 0x11FDC, .otherSymbol⟩, ⟨0x11FDD, 0x11FE0, .currencySymbol⟩, ⟨0x11FE1, 0x11FF1, .otherSymbol⟩,
   ⟨0x11FFF, 0x11FFF, .otherPunctuation⟩, ⟨0x12000, 0x12399, .otherLetter⟩, ⟨0x12400, 0x1246F, .letterNumber⟩,
   ⟨0x12470, 0x12474, .otherPunctuation⟩, ⟨0x12475, 0x1247F, .letterNumber⟩, ⟨0x12480, 0x12543, .otherLetter⟩,
   ⟨0x12550, 0x12686, .letterNumber⟩, ⟨0x12F90, 0x12FF0, .otherLetter⟩, ⟨0x12FF1, 0x12FF2, .otherPunctuation⟩,
   ⟨0x13000, 0x1342F, .otherLetter⟩, ⟨0x13430, 0x1343F, .format⟩, ⟨0x13440, 0x13440, .nonspacingMark⟩,
   ⟨0x13441, 0x13446, .otherLetter⟩, ⟨0x13447, 0x13455, .nonspacingMark⟩]

def runs13460 : List (Run GeneralCategory) :=
  [⟨0x13460, 0x143FA, .otherLetter⟩, ⟨0x14400, 0x14646, .otherLetter⟩, ⟨0x16100, 0x1611D, .otherLetter⟩,
   ⟨0x1611E, 0x16129, .nonspacingMark⟩, ⟨0x1612A, 0x1612C, .spacingMark⟩, ⟨0x1612D, 0x1612F, .nonspacingMark⟩,
   ⟨0x16130, 0x16139, .decimalNumber⟩, ⟨0x16800, 0x16A38, .otherLetter⟩, ⟨0x16A40, 0x16A5E, .otherLetter⟩,
   ⟨0x16A60, 0x16A69, .decimalNumber⟩, ⟨0x16A6E, 0x16A6F, .otherPunctuation⟩, ⟨0x16A70, 0x16ABE, .otherLetter⟩,
   ⟨0x16AC0, 0x16AC9, .decimalNumber⟩, ⟨0x16AD0, 0x16AED, .otherLetter⟩, ⟨0x16AF0, 0x16AF4, .nonspacingMark⟩,
   ⟨0x16AF5, 0x16AF5, .otherPunctuation⟩, ⟨0x16B00, 0x16B2F, .otherLetter⟩, ⟨0x16B30, 0x16B36, .nonspacingMark⟩,
   ⟨0x16B37, 0x16B3B, .otherPunctuation⟩, ⟨0x16B3C, 0x16B3F, .otherSymbol⟩, ⟨0x16B40, 0x16B43, .modifierLetter⟩,
   ⟨0x16B44, 0x16B44, .otherPunctuation⟩, ⟨0x16B45, 0x16B45, .otherSymbol⟩, ⟨0x16B50, 0x16B59, .decimalNumber⟩,
   ⟨0x16B5B, 0x16B61, .otherNumber⟩, ⟨0x16B63, 0x16B77, .otherLetter⟩, ⟨0x16B7D, 0x16B8F, .otherLetter⟩,
   ⟨0x16D40, 0x16D42, .modifierLetter⟩, ⟨0x16D43, 0x16D6A, .otherLetter⟩, ⟨0x16D6B, 0x16D6C, .modifierLetter⟩,
   ⟨0x16D6D, 0x16D6F, .otherPunctuation⟩, ⟨0x16D70, 0x16D79, .decimalNumber⟩, ⟨0x16E40, 0x16E5F, .uppercaseLetter⟩,
   ⟨0x16E60, 0x16E7F, .lowercaseLetter⟩, ⟨0x16E80, 0x16E96, .otherNumber⟩, ⟨0x16E97, 0x16E9A, .otherPunctuation⟩,
   ⟨0x16EA0, 0x16EB8, .uppercaseLetter⟩, ⟨0x16EBB, 0x16ED3, .lowercaseLetter⟩, ⟨0x16F00, 0x16F4A, .otherLetter⟩,
   ⟨0x16F4F, 0x16F4F, .nonspacingMark⟩, ⟨0x16F50, 0x16F50, .otherLetter⟩, ⟨0x16F51, 0x16F87, .spacingMark⟩,
   ⟨0x16F8F, 0x16F92, .nonspacingMark⟩, ⟨0x16F93, 0x16F9F, .modifierLetter⟩, ⟨0x16FE0, 0x16FE1, .modifierLetter⟩,
   ⟨0x16FE2, 0x16FE2, .otherPunctuation⟩, ⟨0x16FE3, 0x16FE3, .modifierLetter⟩, ⟨0x16FE4, 0x16FE4, .nonspacingMark⟩,
   ⟨0x16FF0, 0x16FF1, .spacingMark⟩, ⟨0x16FF2, 0x16FF3, .modifierLetter⟩, ⟨0x16FF4, 0x16FF6, .letterNumber⟩,
   ⟨0x17000, 0x18CDA, .otherLetter⟩, ⟨0x18CFF, 0x18D20, .otherLetter⟩, ⟨0x18D80, 0x18DF2, .otherLetter⟩,
   ⟨0x18E00, 0x19191, .otherLetter⟩, ⟨0x191A0, 0x191D2, .otherLetter⟩, ⟨0x1AFF0, 0x1AFF3, .modifierLetter⟩,
   ⟨0x1AFF5, 0x1AFFB, .modifierLetter⟩, ⟨0x1AFFD, 0x1AFFE, .modifierLetter⟩, ⟨0x1B000, 0x1B128, .otherLetter⟩,
   ⟨0x1B132, 0x1B132, .otherLetter⟩, ⟨0x1B150, 0x1B152, .otherLetter⟩, ⟨0x1B155, 0x1B155, .otherLetter⟩,
   ⟨0x1B164, 0x1B168, .otherLetter⟩, ⟨0x1B170, 0x1B2FB, .otherLetter⟩, ⟨0x1BC00, 0x1BC6A, .otherLetter⟩,
   ⟨0x1BC70, 0x1BC7C, .otherLetter⟩, ⟨0x1BC80, 0x1BC88, .otherLetter⟩, ⟨0x1BC90, 0x1BC99, .otherLetter⟩,
   ⟨0x1BC9C, 0x1BC9C, .otherSymbol⟩, ⟨0x1BC9D, 0x1BC9E, .nonspacingMark⟩, ⟨0x1BC9F, 0x1BC9F, .otherPunctuation⟩,
   ⟨0x1BCA0, 0x1BCA3, .format⟩, ⟨0x1CC00, 0x1CCEF, .otherSymbol⟩, ⟨0x1CCF0, 0x1CCF9, .decimalNumber⟩,
   ⟨0x1CCFA, 0x1CCFC, .otherSymbol⟩, ⟨0x1CD00, 0x1CEB3, .otherSymbol⟩, ⟨0x1CEBA, 0x1CED0, .otherSymbol⟩,
   ⟨0x1CED2, 0x1CED4, .otherSymbol⟩, ⟨0x1CEDD, 0x1CEDF, .mathSymbol⟩, ⟨0x1CEE0, 0x1CEEF, .otherSymbol⟩,
   ⟨0x1CEF0, 0x1CEFD, .mathSymbol⟩, ⟨0x1CF00, 0x1CF2D, .nonspacingMark⟩, ⟨0x1CF30, 0x1CF46, .nonspacingMark⟩,
   ⟨0x1CF50, 0x1CFC3, .otherSymbol⟩, ⟨0x1D000, 0x1D0F5, .otherSymbol⟩, ⟨0x1D100, 0x1D126, .otherSymbol⟩,
   ⟨0x1D127, 0x1D128, .nonspacingMark⟩, ⟨0x1D129, 0x1D164, .otherSymbol⟩, ⟨0x1D165, 0x1D166, .spacingMark⟩,
   ⟨0x1D167, 0x1D169, .nonspacingMark⟩, ⟨0x1D16A, 0x1D16C, .otherSymbol⟩, ⟨0x1D16D, 0x1D172, .spacingMark⟩,
   ⟨0x1D173, 0x1D17A, .format⟩, ⟨0x1D17B, 0x1D182, .nonspacingMark⟩, ⟨0x1D183, 0x1D184, .otherSymbol⟩,
   ⟨0x1D185, 0x1D18B, .nonspacingMark⟩, ⟨0x1D18C, 0x1D1A9, .otherSymbol⟩, ⟨0x1D1AA, 0x1D1AD, .nonspacingMark⟩,
   ⟨0x1D1AE, 0x1D241, .otherSymbol⟩, ⟨0x1D242, 0x1D244, .nonspacingMark⟩, ⟨0x1D245, 0x1D245, .otherSymbol⟩,
   ⟨0x1D250, 0x1D252, .spacingMark⟩, ⟨0x1D253, 0x1D25A, .otherSymbol⟩, ⟨0x1D25B, 0x1D25C, .nonspacingMark⟩,
   ⟨0x1D25D, 0x1D25E, .otherSymbol⟩, ⟨0x1D25F, 0x1D25F, .spacingMark⟩, ⟨0x1D260, 0x1D27F, .otherSymbol⟩,
   ⟨0x1D280, 0x1D281, .spacingMark⟩, ⟨0x1D2C0, 0x1D2D3, .otherNumber⟩, ⟨0x1D2E0, 0x1D2F3, .otherNumber⟩,
   ⟨0x1D300, 0x1D356, .otherSymbol⟩, ⟨0x1D360, 0x1D378, .otherNumber⟩, ⟨0x1D400, 0x1D419, .uppercaseLetter⟩,
   ⟨0x1D41A, 0x1D433, .lowercaseLetter⟩, ⟨0x1D434, 0x1D44D, .uppercaseLetter⟩, ⟨0x1D44E, 0x1D454, .lowercaseLetter⟩,
   ⟨0x1D456, 0x1D467, .lowercaseLetter⟩, ⟨0x1D468, 0x1D481, .uppercaseLetter⟩, ⟨0x1D482, 0x1D49B, .lowercaseLetter⟩,
   ⟨0x1D49C, 0x1D49C, .uppercaseLetter⟩, ⟨0x1D49E, 0x1D49F, .uppercaseLetter⟩, ⟨0x1D4A2, 0x1D4A2, .uppercaseLetter⟩,
   ⟨0x1D4A5, 0x1D4A6, .uppercaseLetter⟩, ⟨0x1D4A9, 0x1D4AC, .uppercaseLetter⟩, ⟨0x1D4AE, 0x1D4B5, .uppercaseLetter⟩,
   ⟨0x1D4B6, 0x1D4B9, .lowercaseLetter⟩, ⟨0x1D4BB, 0x1D4BB, .lowercaseLetter⟩]

def runs1D4BD : List (Run GeneralCategory) :=
  [⟨0x1D4BD, 0x1D4C3, .lowercaseLetter⟩, ⟨0x1D4C5, 0x1D4CF, .lowercaseLetter⟩, ⟨0x1D4D0, 0x1D4E9, .uppercaseLetter⟩,
   ⟨0x1D4EA, 0x1D503, .lowercaseLetter⟩, ⟨0x1D504, 0x1D505, .uppercaseLetter⟩, ⟨0x1D507, 0x1D50A, .uppercaseLetter⟩,
   ⟨0x1D50D, 0x1D514, .uppercaseLetter⟩, ⟨0x1D516, 0x1D51C, .uppercaseLetter⟩, ⟨0x1D51E, 0x1D537, .lowercaseLetter⟩,
   ⟨0x1D538, 0x1D539, .uppercaseLetter⟩, ⟨0x1D53B, 0x1D53E, .uppercaseLetter⟩, ⟨0x1D540, 0x1D544, .uppercaseLetter⟩,
   ⟨0x1D546, 0x1D546, .uppercaseLetter⟩, ⟨0x1D54A, 0x1D550, .uppercaseLetter⟩, ⟨0x1D552, 0x1D56B, .lowercaseLetter⟩,
   ⟨0x1D56C, 0x1D585, .uppercaseLetter⟩, ⟨0x1D586, 0x1D59F, .lowercaseLetter⟩, ⟨0x1D5A0, 0x1D5B9, .uppercaseLetter⟩,
   ⟨0x1D5BA, 0x1D5D3, .lowercaseLetter⟩, ⟨0x1D5D4, 0x1D5ED, .uppercaseLetter⟩, ⟨0x1D5EE, 0x1D607, .lowercaseLetter⟩,
   ⟨0x1D608, 0x1D621, .uppercaseLetter⟩, ⟨0x1D622, 0x1D63B, .lowercaseLetter⟩, ⟨0x1D63C, 0x1D655, .uppercaseLetter⟩,
   ⟨0x1D656, 0x1D66F, .lowercaseLetter⟩, ⟨0x1D670, 0x1D689, .uppercaseLetter⟩, ⟨0x1D68A, 0x1D6A6, .lowercaseLetter⟩,
   ⟨0x1D6A8, 0x1D6C0, .uppercaseLetter⟩, ⟨0x1D6C1, 0x1D6C1, .mathSymbol⟩, ⟨0x1D6C2, 0x1D6DA, .lowercaseLetter⟩,
   ⟨0x1D6DB, 0x1D6DB, .mathSymbol⟩, ⟨0x1D6DC, 0x1D6E1, .lowercaseLetter⟩, ⟨0x1D6E2, 0x1D6FA, .uppercaseLetter⟩,
   ⟨0x1D6FB, 0x1D6FB, .mathSymbol⟩, ⟨0x1D6FC, 0x1D714, .lowercaseLetter⟩, ⟨0x1D715, 0x1D715, .mathSymbol⟩,
   ⟨0x1D716, 0x1D71B, .lowercaseLetter⟩, ⟨0x1D71C, 0x1D734, .uppercaseLetter⟩, ⟨0x1D735, 0x1D735, .mathSymbol⟩,
   ⟨0x1D736, 0x1D74E, .lowercaseLetter⟩, ⟨0x1D74F, 0x1D74F, .mathSymbol⟩, ⟨0x1D750, 0x1D755, .lowercaseLetter⟩,
   ⟨0x1D756, 0x1D76E, .uppercaseLetter⟩, ⟨0x1D76F, 0x1D76F, .mathSymbol⟩, ⟨0x1D770, 0x1D788, .lowercaseLetter⟩,
   ⟨0x1D789, 0x1D789, .mathSymbol⟩, ⟨0x1D78A, 0x1D78F, .lowercaseLetter⟩, ⟨0x1D790, 0x1D7A8, .uppercaseLetter⟩,
   ⟨0x1D7A9, 0x1D7A9, .mathSymbol⟩, ⟨0x1D7AA, 0x1D7C2, .lowercaseLetter⟩, ⟨0x1D7C3, 0x1D7C3, .mathSymbol⟩,
   ⟨0x1D7C4, 0x1D7C9, .lowercaseLetter⟩, ⟨0x1D7CA, 0x1D7CA, .uppercaseLetter⟩, ⟨0x1D7CB, 0x1D7CB, .lowercaseLetter⟩,
   ⟨0x1D7CE, 0x1D7FF, .decimalNumber⟩, ⟨0x1D800, 0x1D9FF, .otherSymbol⟩, ⟨0x1DA00, 0x1DA36, .nonspacingMark⟩,
   ⟨0x1DA37, 0x1DA3A, .otherSymbol⟩, ⟨0x1DA3B, 0x1DA6C, .nonspacingMark⟩, ⟨0x1DA6D, 0x1DA74, .otherSymbol⟩,
   ⟨0x1DA75, 0x1DA75, .nonspacingMark⟩, ⟨0x1DA76, 0x1DA83, .otherSymbol⟩, ⟨0x1DA84, 0x1DA84, .nonspacingMark⟩,
   ⟨0x1DA85, 0x1DA86, .otherSymbol⟩, ⟨0x1DA87, 0x1DA8B, .otherPunctuation⟩, ⟨0x1DA9B, 0x1DA9F, .nonspacingMark⟩,
   ⟨0x1DAA1, 0x1DAAF, .nonspacingMark⟩, ⟨0x1DB00, 0x1DB1C, .mathSymbol⟩, ⟨0x1DF00, 0x1DF09, .lowercaseLetter⟩,
   ⟨0x1DF0A, 0x1DF0A, .otherLetter⟩, ⟨0x1DF0B, 0x1DF3F, .lowercaseLetter⟩, ⟨0x1DF40, 0x1DF40, .uppercaseLetter⟩,
   ⟨0x1DF41, 0x1DF47, .lowercaseLetter⟩, ⟨0x1DF48, 0x1DF48, .uppercaseLetter⟩, ⟨0x1DF49, 0x1DF49, .lowercaseLetter⟩,
   ⟨0x1DF4A, 0x1DF4A, .uppercaseLetter⟩, ⟨0x1DF4B, 0x1DF4C, .lowercaseLetter⟩, ⟨0x1DF4D, 0x1DF4D, .uppercaseLetter⟩,
   ⟨0x1DF4E, 0x1DF50, .lowercaseLetter⟩, ⟨0x1DF51, 0x1DF51, .uppercaseLetter⟩, ⟨0x1DF52, 0x1DF67, .lowercaseLetter⟩,
   ⟨0x1DF68, 0x1DF68, .uppercaseLetter⟩, ⟨0x1DF69, 0x1DF69, .lowercaseLetter⟩, ⟨0x1DF6A, 0x1DF6A, .uppercaseLetter⟩,
   ⟨0x1DF6B, 0x1DF6B, .lowercaseLetter⟩, ⟨0x1DF6C, 0x1DF6C, .uppercaseLetter⟩, ⟨0x1DF6D, 0x1DF6D, .lowercaseLetter⟩,
   ⟨0x1DF6E, 0x1DF6E, .uppercaseLetter⟩, ⟨0x1DF6F, 0x1DF71, .lowercaseLetter⟩, ⟨0x1DF72, 0x1DF72, .uppercaseLetter⟩,
   ⟨0x1DF73, 0x1DF73, .lowercaseLetter⟩, ⟨0x1DF74, 0x1DF74, .uppercaseLetter⟩, ⟨0x1DF75, 0x1DF75, .lowercaseLetter⟩,
   ⟨0x1DF76, 0x1DF76, .uppercaseLetter⟩, ⟨0x1DF77, 0x1DF77, .lowercaseLetter⟩, ⟨0x1DF78, 0x1DF78, .uppercaseLetter⟩,
   ⟨0x1DF79, 0x1DF79, .lowercaseLetter⟩, ⟨0x1DF7A, 0x1DF7A, .uppercaseLetter⟩, ⟨0x1DF7B, 0x1DF7B, .lowercaseLetter⟩,
   ⟨0x1DF7C, 0x1DF7C, .uppercaseLetter⟩, ⟨0x1DF7D, 0x1DF7D, .lowercaseLetter⟩, ⟨0x1DF7E, 0x1DF7E, .uppercaseLetter⟩,
   ⟨0x1DF7F, 0x1DF7F, .lowercaseLetter⟩, ⟨0x1DF80, 0x1DF81, .otherLetter⟩, ⟨0x1DF90, 0x1DF96, .lowercaseLetter⟩,
   ⟨0x1DFCD, 0x1DFFF, .modifierLetter⟩, ⟨0x1E000, 0x1E006, .nonspacingMark⟩, ⟨0x1E008, 0x1E018, .nonspacingMark⟩,
   ⟨0x1E01B, 0x1E021, .nonspacingMark⟩, ⟨0x1E023, 0x1E024, .nonspacingMark⟩, ⟨0x1E026, 0x1E02A, .nonspacingMark⟩,
   ⟨0x1E030, 0x1E06D, .modifierLetter⟩, ⟨0x1E08F, 0x1E08F, .nonspacingMark⟩, ⟨0x1E100, 0x1E12C, .otherLetter⟩,
   ⟨0x1E130, 0x1E136, .nonspacingMark⟩, ⟨0x1E137, 0x1E13D, .modifierLetter⟩, ⟨0x1E140, 0x1E149, .decimalNumber⟩,
   ⟨0x1E14E, 0x1E14E, .otherLetter⟩, ⟨0x1E14F, 0x1E14F, .otherSymbol⟩, ⟨0x1E290, 0x1E2AD, .otherLetter⟩,
   ⟨0x1E2AE, 0x1E2AE, .nonspacingMark⟩, ⟨0x1E2C0, 0x1E2EB, .otherLetter⟩, ⟨0x1E2EC, 0x1E2EF, .nonspacingMark⟩,
   ⟨0x1E2F0, 0x1E2F9, .decimalNumber⟩, ⟨0x1E2FF, 0x1E2FF, .currencySymbol⟩, ⟨0x1E4D0, 0x1E4EA, .otherLetter⟩,
   ⟨0x1E4EB, 0x1E4EB, .modifierLetter⟩, ⟨0x1E4EC, 0x1E4EF, .nonspacingMark⟩]

def runs1E4F0 : List (Run GeneralCategory) :=
  [⟨0x1E4F0, 0x1E4F9, .decimalNumber⟩, ⟨0x1E5D0, 0x1E5ED, .otherLetter⟩, ⟨0x1E5EE, 0x1E5EF, .nonspacingMark⟩,
   ⟨0x1E5F0, 0x1E5F0, .otherLetter⟩, ⟨0x1E5F1, 0x1E5FA, .decimalNumber⟩, ⟨0x1E5FF, 0x1E5FF, .otherPunctuation⟩,
   ⟨0x1E6C0, 0x1E6DE, .otherLetter⟩, ⟨0x1E6E0, 0x1E6E2, .otherLetter⟩, ⟨0x1E6E3, 0x1E6E3, .nonspacingMark⟩,
   ⟨0x1E6E4, 0x1E6E5, .otherLetter⟩, ⟨0x1E6E6, 0x1E6E6, .nonspacingMark⟩, ⟨0x1E6E7, 0x1E6ED, .otherLetter⟩,
   ⟨0x1E6EE, 0x1E6EF, .nonspacingMark⟩, ⟨0x1E6F0, 0x1E6F4, .otherLetter⟩, ⟨0x1E6F5, 0x1E6F5, .nonspacingMark⟩,
   ⟨0x1E6FE, 0x1E6FE, .otherLetter⟩, ⟨0x1E6FF, 0x1E6FF, .modifierLetter⟩, ⟨0x1E7E0, 0x1E7E6, .otherLetter⟩,
   ⟨0x1E7E8, 0x1E7EB, .otherLetter⟩, ⟨0x1E7ED, 0x1E7EE, .otherLetter⟩, ⟨0x1E7F0, 0x1E7FE, .otherLetter⟩,
   ⟨0x1E800, 0x1E8C4, .otherLetter⟩, ⟨0x1E8C7, 0x1E8CF, .otherNumber⟩, ⟨0x1E8D0, 0x1E8D6, .nonspacingMark⟩,
   ⟨0x1E900, 0x1E921, .uppercaseLetter⟩, ⟨0x1E922, 0x1E943, .lowercaseLetter⟩, ⟨0x1E944, 0x1E94A, .nonspacingMark⟩,
   ⟨0x1E94B, 0x1E94B, .modifierLetter⟩, ⟨0x1E950, 0x1E959, .decimalNumber⟩, ⟨0x1E95E, 0x1E95F, .otherPunctuation⟩,
   ⟨0x1EC71, 0x1ECAB, .otherNumber⟩, ⟨0x1ECAC, 0x1ECAC, .otherSymbol⟩, ⟨0x1ECAD, 0x1ECAF, .otherNumber⟩,
   ⟨0x1ECB0, 0x1ECB0, .currencySymbol⟩, ⟨0x1ECB1, 0x1ECB4, .otherNumber⟩, ⟨0x1ED01, 0x1ED2D, .otherNumber⟩,
   ⟨0x1ED2E, 0x1ED2E, .otherSymbol⟩, ⟨0x1ED2F, 0x1ED3D, .otherNumber⟩, ⟨0x1EE00, 0x1EE03, .otherLetter⟩,
   ⟨0x1EE05, 0x1EE1F, .otherLetter⟩, ⟨0x1EE21, 0x1EE22, .otherLetter⟩, ⟨0x1EE24, 0x1EE24, .otherLetter⟩,
   ⟨0x1EE27, 0x1EE27, .otherLetter⟩, ⟨0x1EE29, 0x1EE32, .otherLetter⟩, ⟨0x1EE34, 0x1EE37, .otherLetter⟩,
   ⟨0x1EE39, 0x1EE39, .otherLetter⟩, ⟨0x1EE3B, 0x1EE3B, .otherLetter⟩, ⟨0x1EE42, 0x1EE42, .otherLetter⟩,
   ⟨0x1EE47, 0x1EE47, .otherLetter⟩, ⟨0x1EE49, 0x1EE49, .otherLetter⟩, ⟨0x1EE4B, 0x1EE4B, .otherLetter⟩,
   ⟨0x1EE4D, 0x1EE4F, .otherLetter⟩, ⟨0x1EE51, 0x1EE52, .otherLetter⟩, ⟨0x1EE54, 0x1EE54, .otherLetter⟩,
   ⟨0x1EE57, 0x1EE57, .otherLetter⟩, ⟨0x1EE59, 0x1EE59, .otherLetter⟩, ⟨0x1EE5B, 0x1EE5B, .otherLetter⟩,
   ⟨0x1EE5D, 0x1EE5D, .otherLetter⟩, ⟨0x1EE5F, 0x1EE5F, .otherLetter⟩, ⟨0x1EE61, 0x1EE62, .otherLetter⟩,
   ⟨0x1EE64, 0x1EE64, .otherLetter⟩, ⟨0x1EE67, 0x1EE6A, .otherLetter⟩, ⟨0x1EE6C, 0x1EE72, .otherLetter⟩,
   ⟨0x1EE74, 0x1EE77, .otherLetter⟩, ⟨0x1EE79, 0x1EE7C, .otherLetter⟩, ⟨0x1EE7E, 0x1EE7E, .otherLetter⟩,
   ⟨0x1EE80, 0x1EE89, .otherLetter⟩, ⟨0x1EE8B, 0x1EE9B, .otherLetter⟩, ⟨0x1EEA1, 0x1EEA3, .otherLetter⟩,
   ⟨0x1EEA5, 0x1EEA9, .otherLetter⟩, ⟨0x1EEAB, 0x1EEBB, .otherLetter⟩, ⟨0x1EEF0, 0x1EEF1, .mathSymbol⟩,
   ⟨0x1F000, 0x1F02B, .otherSymbol⟩, ⟨0x1F030, 0x1F093, .otherSymbol⟩, ⟨0x1F0A0, 0x1F0AE, .otherSymbol⟩,
   ⟨0x1F0B1, 0x1F0BF, .otherSymbol⟩, ⟨0x1F0C1, 0x1F0CF, .otherSymbol⟩, ⟨0x1F0D1, 0x1F0F5, .otherSymbol⟩,
   ⟨0x1F100, 0x1F10C, .otherNumber⟩, ⟨0x1F10D, 0x1F1AE, .otherSymbol⟩, ⟨0x1F1E6, 0x1F202, .otherSymbol⟩,
   ⟨0x1F210, 0x1F23B, .otherSymbol⟩, ⟨0x1F240, 0x1F248, .otherSymbol⟩, ⟨0x1F250, 0x1F251, .otherSymbol⟩,
   ⟨0x1F260, 0x1F265, .otherSymbol⟩, ⟨0x1F300, 0x1F3FA, .otherSymbol⟩, ⟨0x1F3FB, 0x1F3FF, .modifierSymbol⟩,
   ⟨0x1F400, 0x1F6D9, .otherSymbol⟩, ⟨0x1F6DC, 0x1F6EC, .otherSymbol⟩, ⟨0x1F6F0, 0x1F6FC, .otherSymbol⟩,
   ⟨0x1F700, 0x1F7DB, .otherSymbol⟩, ⟨0x1F7E0, 0x1F7EB, .otherSymbol⟩, ⟨0x1F7F0, 0x1F80B, .otherSymbol⟩,
   ⟨0x1F810, 0x1F847, .otherSymbol⟩, ⟨0x1F850, 0x1F859, .otherSymbol⟩, ⟨0x1F860, 0x1F887, .otherSymbol⟩,
   ⟨0x1F890, 0x1F8AD, .otherSymbol⟩, ⟨0x1F8B0, 0x1F8BB, .otherSymbol⟩, ⟨0x1F8C0, 0x1F8C1, .otherSymbol⟩,
   ⟨0x1F8D0, 0x1F8D8, .mathSymbol⟩, ⟨0x1F900, 0x1FA57, .otherSymbol⟩, ⟨0x1FA60, 0x1FA6D, .otherSymbol⟩,
   ⟨0x1FA70, 0x1FA7C, .otherSymbol⟩, ⟨0x1FA80, 0x1FAC6, .otherSymbol⟩, ⟨0x1FAC8, 0x1FAC8, .otherSymbol⟩,
   ⟨0x1FACC, 0x1FADD, .otherSymbol⟩, ⟨0x1FADF, 0x1FAEB, .otherSymbol⟩, ⟨0x1FAEF, 0x1FAFA, .otherSymbol⟩,
   ⟨0x1FB00, 0x1FB92, .otherSymbol⟩, ⟨0x1FB94, 0x1FBEF, .otherSymbol⟩, ⟨0x1FBF0, 0x1FBF9, .decimalNumber⟩,
   ⟨0x1FBFA, 0x1FBFA, .otherSymbol⟩, ⟨0x20000, 0x2A6DF, .otherLetter⟩, ⟨0x2A700, 0x2B81E, .otherLetter⟩,
   ⟨0x2B820, 0x2CEAD, .otherLetter⟩, ⟨0x2CEB0, 0x2EBE0, .otherLetter⟩, ⟨0x2EBF0, 0x2EE5D, .otherLetter⟩,
   ⟨0x2F800, 0x2FA1D, .otherLetter⟩, ⟨0x30000, 0x3134A, .otherLetter⟩, ⟨0x31350, 0x33479, .otherLetter⟩,
   ⟨0x3D000, 0x3FC3F, .otherLetter⟩, ⟨0xE0001, 0xE0001, .format⟩, ⟨0xE0020, 0xE007F, .format⟩,
   ⟨0xE0100, 0xE01EF, .nonspacingMark⟩, ⟨0xF0000, 0xFFFFD, .privateUse⟩, ⟨0x100000, 0x10FFFD, .privateUse⟩]

/-- all runs from U+10000 on -/
def runs : List (Run GeneralCategory) :=
  [runs10000, runs10D4E, runs11341, runs11950, runs13460, runs1D4BD, runs1E4F0].flatten

end IdentifierText.Unicode.CategoryTable.HigherPlanes
