/-
General categories of the assigned code points below U+10000, as maximal runs in increasing order (Unicode 18.0).
Each list is named for its first code point.
-/
import IdentifierText.Unicode.Run
import IdentifierText.Unicode.GeneralCategory

namespace IdentifierText.Unicode.CategoryTable.BasicPlane

def runs0000 : List (Run GeneralCategory) :=
  [⟨0x0000, 0x001F, .control⟩, ⟨0x0020, 0x0020, .spaceSeparator⟩, ⟨0x0021, 0x0023, .otherPunctuation⟩,
   ⟨0x0024, 0x0024, .currencySymbol⟩, ⟨0x0025, 0x0027, .otherPunctuation⟩, ⟨0x0028, 0x0028, .openPunctuation⟩,
   ⟨0x0029, 0x0029, .closePunctuation⟩, ⟨0x002A, 0x002A, .otherPunctuation⟩, ⟨0x002B, 0x002B, .mathSymbol⟩,
   ⟨0x002C, 0x002C, .otherPunctuation⟩, ⟨0x002D, 0x002D, .dashPunctuation⟩, ⟨0x002E, 0x002F, .otherPunctuation⟩,
   ⟨0x0030, 0x0039, .decimalNumber⟩, ⟨0x003A, 0x003B, .otherPunctuation⟩, ⟨0x003C, 0x003E, .mathSymbol⟩,
   ⟨0x003F, 0x0040, .otherPunctuation⟩, ⟨0x0041, 0x005A, .uppercaseLetter⟩, ⟨0x005B, 0x005B, .openPunctuation⟩,
   ⟨0x005C, 0x005C, .otherPunctuation⟩, ⟨0x005D, 0x005D, .closePunctuation⟩, ⟨0x005E, 0x005E, .modifierSymbol⟩,
   ⟨0x005F, 0x005F, .connectorPunctuation⟩, ⟨0x0060, 0x0060, .modifierSymbol⟩, ⟨0x0061, 0x007A, .lowercaseLetter⟩,
   ⟨0x007B, 0x007B, .openPunctuation⟩, ⟨0x007C, 0x007C, .mathSymbol⟩, ⟨0x007D, 0x007D, .closePunctuation⟩,
   ⟨0x007E, 0x007E, .mathSymbol⟩, ⟨0x007F, 0x009F, .control⟩, ⟨0x00A0, 0x00A0, .spaceSeparator⟩,
   ⟨0x00A1, 0x00A1, .otherPunctuation⟩, ⟨0x00A2, 0x00A5, .currencySymbol⟩, ⟨0x00A6, 0x00A6, .otherSymbol⟩,
   ⟨0x00A7, 0x00A7, .otherPunctuation⟩, ⟨0x00A8, 0x00A8, .modifierSymbol⟩, ⟨0x00A9, 0x00A9, .otherSymbol⟩,
   ⟨0x00AA, 0x00AA, .otherLetter⟩, ⟨0x00AB, 0x00AB, .initialPunctuation⟩, ⟨0x00AC, 0x00AC, .mathSymbol⟩,
   ⟨0x00AD, 0x00AD, .format⟩, ⟨0x00AE, 0x00AE, .otherSymbol⟩, ⟨0x00AF, 0x00AF, .modifierSymbol⟩,
   ⟨0x00B0, 0x00B0, .otherSymbol⟩, ⟨0x00B1, 0x00B1, .mathSymbol⟩, ⟨0x00B2, 0x00B3, .otherNumber⟩,
   ⟨0x00B4, 0x00B4, .modifierSymbol⟩, ⟨0x00B5, 0x00B5, .lowercaseLetter⟩, ⟨0x00B6, 0x00B7, .otherPunctuation⟩,
   ⟨0x00B8, 0x00B8, .modifierSymbol⟩, ⟨0x00B9, 0x00B9, .otherNumber⟩, ⟨0x00BA, 0x00BA, .otherLetter⟩,
   ⟨0x00BB, 0x00BB, .finalPunctuation⟩, ⟨0x00BC, 0x00BE, .otherNumber⟩, ⟨0x00BF, 0x00BF, .otherPunctuation⟩,
   ⟨0x00C0, 0x00D6, .uppercaseLetter⟩, ⟨0x00D7, 0x00D7, .mathSymbol⟩, ⟨0x00D8, 0x00DE, .uppercaseLetter⟩,
   ⟨0x00DF, 0x00F6, .lowercaseLetter⟩, ⟨0x00F7, 0x00F7, .mathSymbol⟩, ⟨0x00F8, 0x00FF, .lowercaseLetter⟩,
   ⟨0x0100, 0x0100, .uppercaseLetter⟩, ⟨0x0101, 0x0101, .lowercaseLetter⟩, ⟨0x0102, 0x0102, .uppercaseLetter⟩,
   ⟨0x0103, 0x0103, .lowercaseLetter⟩, ⟨0x0104, 0x0104, .uppercaseLetter⟩, ⟨0x0105, 0x0105, .lowercaseLetter⟩,
   ⟨0x0106, 0x0106, .uppercaseLetter⟩, ⟨0x0107, 0x0107, .lowercaseLetter⟩, ⟨0x0108, 0x0108, .uppercaseLetter⟩,
   ⟨0x0109, 0x0109, .lowercaseLetter⟩, ⟨0x010A, 0x010A, .uppercaseLetter⟩, ⟨0x010B, 0x010B, .lowercaseLetter⟩,
   ⟨0x010C, 0x010C, .uppercaseLetter⟩, ⟨0x010D, 0x010D, .lowercaseLetter⟩, ⟨0x010E, 0x010E, .uppercaseLetter⟩,
   ⟨0x010F, 0x010F, .lowercaseLetter⟩, ⟨0x0110, 0x0110, .uppercaseLetter⟩, ⟨0x0111, 0x0111, .lowercaseLetter⟩,
   ⟨0x0112, 0x0112, .uppercaseLetter⟩, ⟨0x0113, 0x0113, .lowercaseLetter⟩, ⟨0x0114, 0x0114, .uppercaseLetter⟩,
   ⟨0x0115, 0x0115, .lowercaseLetter⟩, ⟨0x0116, 0x0116, .uppercaseLetter⟩, ⟨0x0117, 0x0117, .lowercaseLetter⟩,
   ⟨0x0118, 0x0118, .uppercaseLetter⟩, ⟨0x0119, 0x0119, .lowercaseLetter⟩, ⟨0x011A, 0x011A, .uppercaseLetter⟩,
   ⟨0x011B, 0x011B, .lowercaseLetter⟩, ⟨0x011C, 0x011C, .uppercaseLetter⟩, ⟨0x011D, 0x011D, .lowercaseLetter⟩,
   ⟨0x011E, 0x011E, .uppercaseLetter⟩, ⟨0x011F, 0x011F, .lowercaseLetter⟩, ⟨0x0120, 0x0120, .uppercaseLetter⟩,
   ⟨0x0121, 0x0121, .lowercaseLetter⟩, ⟨0x0122, 0x0122, .uppercaseLetter⟩, ⟨0x0123, 0x0123, .lowercaseLetter⟩,
   ⟨0x0124, 0x0124, .uppercaseLetter⟩, ⟨0x0125, 0x0125, .lowercaseLetter⟩, ⟨0x0126, 0x0126, .uppercaseLetter⟩,
   ⟨0x0127, 0x0127, .lowercaseLetter⟩, ⟨0x0128, 0x0128, .uppercaseLetter⟩, ⟨0x0129, 0x0129, .lowercaseLetter⟩,
   ⟨0x012A, 0x012A, .uppercaseLetter⟩, ⟨0x012B, 0x012B, .lowercaseLetter⟩, ⟨0x012C, 0x012C, .uppercaseLetter⟩,
   ⟨0x012D, 0x012D, .lowercaseLetter⟩, ⟨0x012E, 0x012E, .uppercaseLetter⟩, ⟨0x012F, 0x012F, .lowercaseLetter⟩,
   ⟨0x0130, 0x0130, .uppercaseLetter⟩, ⟨0x0131, 0x0131, .lowercaseLetter⟩, ⟨0x0132, 0x0132, .uppercaseLetter⟩,
   ⟨0x0133, 0x0133, .lowercaseLetter⟩, ⟨0x0134, 0x0134, .uppercaseLetter⟩, ⟨0x0135, 0x0135, .lowercaseLetter⟩,
   ⟨0x0136, 0x0136, .uppercaseLetter⟩, ⟨0x0137, 0x0138, .lowercaseLetter⟩, ⟨0x0139, 0x0139, .uppercaseLetter⟩,
   ⟨0x013A, 0x013A, .lowercaseLetter⟩, ⟨0x013B, 0x013B, .uppercaseLetter⟩, ⟨0x013C, 0x013C, .lowercaseLetter⟩,
   ⟨0x013D, 0x013D, .uppercaseLetter⟩, ⟨0x013E, 0x013E, .lowercaseLetter⟩, ⟨0x013F, 0x013F, .uppercaseLetter⟩,
   ⟨0x0140, 0x0140, .lowercaseLetter⟩, ⟨0x0141, 0x0141, .uppercaseLetter⟩, ⟨0x0142, 0x0142, .lowercaseLetter⟩,
   ⟨0x0143, 0x0143, .uppercaseLetter⟩, ⟨0x0144, 0x0144, .lowercaseLetter⟩]

def runs0145 : List (Run GeneralCategory) :=
  [⟨0x0145, 0x0145, .uppercaseLetter⟩, ⟨0x0146, 0x0146, .lowercaseLetter⟩, ⟨0x0147, 0x0147, .uppercaseLetter⟩,
   ⟨0x0148, 0x0149, .lowercaseLetter⟩, ⟨0x014A, 0x014A, .uppercaseLetter⟩, ⟨0x014B, 0x014B, .lowercaseLetter⟩,
   ⟨0x014C, 0x014C, .uppercaseLetter⟩, ⟨0x014D, 0x014D, .lowercaseLetter⟩, ⟨0x014E, 0x014E, .uppercaseLetter⟩,
   ⟨0x014F, 0x014F, .lowercaseLetter⟩, ⟨0x0150, 0x0150, .uppercaseLetter⟩, ⟨0x0151, 0x0151, .lowercaseLetter⟩,
   ⟨0x0152, 0x0152, .uppercaseLetter⟩, ⟨0x0153, 0x0153, .lowercaseLetter⟩, ⟨0x0154, 0x0154, .uppercaseLetter⟩,
   ⟨0x0155, 0x0155, .lowercaseLetter⟩, ⟨0x0156, 0x0156, .uppercaseLetter⟩, ⟨0x0157, 0x0157, .lowercaseLetter⟩,
   ⟨0x0158, 0x0158, .uppercaseLetter⟩, ⟨0x0159, 0x0159, .lowercaseLetter⟩, ⟨0x015A, 0x015A, .uppercaseLetter⟩,
   ⟨0x015B, 0x015B, .lowercaseLetter⟩, ⟨0x015C, 0x015C, .uppercaseLetter⟩, ⟨0x015D, 0x015D, .lowercaseLetter⟩,
   ⟨0x015E, 0x015E, .uppercaseLetter⟩, ⟨0x015F, 0x015F, .lowercaseLetter⟩, ⟨0x0160, 0x0160, .uppercaseLetter⟩,
   ⟨0x0161, 0x0161, .lowercaseLetter⟩, ⟨0x0162, 0x0162, .uppercaseLetter⟩, ⟨0x0163, 0x0163, .lowercaseLetter⟩,
   ⟨0x0164, 0x0164, .uppercaseLetter⟩, ⟨0x0165, 0x0165, .lowercaseLetter⟩, ⟨0x0166, 0x0166, .uppercaseLetter⟩,
   ⟨0x0167, 0x0167, .lowercaseLetter⟩, ⟨0x0168, 0x0168, .uppercaseLetter⟩, ⟨0x0169, 0x0169, .lowercaseLetter⟩,
   ⟨0x016A, 0x016A, .uppercaseLetter⟩, ⟨0x016B, 0x016B, .lowercaseLetter⟩, ⟨0x016C, 0x016C, .uppercaseLetter⟩,
   ⟨0x016D, 0x016D, .lowercaseLetter⟩, ⟨0x016E, 0x016E, .uppercaseLetter⟩, ⟨0x016F, 0x016F, .lowercaseLetter⟩,
   ⟨0x0170, 0x0170, .uppercaseLetter⟩, ⟨0x0171, 0x0171, .lowercaseLetter⟩, ⟨0x0172, 0x0172, .uppercaseLetter⟩,
   ⟨0x0173, 0x0173, .lowercaseLetter⟩, ⟨0x0174, 0x0174, .uppercaseLetter⟩, ⟨0x0175, 0x0175, .lowercaseLetter⟩,
   ⟨0x0176, 0x0176, .uppercaseLetter⟩, ⟨0x0177, 0x0177, .lowercaseLetter⟩, ⟨0x0178, 0x0179, .uppercaseLetter⟩,
   ⟨0x017A, 0x017A, .lowercaseLetter⟩, ⟨0x017B, 0x017B, .uppercaseLetter⟩, ⟨0x017C, 0x017C, .lowercaseLetter⟩,
   ⟨0x017D, 0x017D, .uppercaseLetter⟩, ⟨0x017E, 0x0180, .lowercaseLetter⟩, ⟨0x0181, 0x0182, .uppercaseLetter⟩,
   ⟨0x0183, 0x0183, .lowercaseLetter⟩, ⟨0x0184, 0x0184, .uppercaseLetter⟩, ⟨0x0185, 0x0185, .lowercaseLetter⟩,
   ⟨0x0186, 0x0187, .uppercaseLetter⟩, ⟨0x0188, 0x0188, .lowercaseLetter⟩, ⟨0x0189, 0x018B, .uppercaseLetter⟩,
   ⟨0x018C, 0x018D, .lowercaseLetter⟩, ⟨0x018E, 0x0191, .uppercaseLetter⟩, ⟨0x0192, 0x0192, .lowercaseLetter⟩,
   ⟨0x0193, 0x0194, .uppercaseLetter⟩, ⟨0x0195, 0x0195, .lowercaseLetter⟩, ⟨0x0196, 0x0198, .uppercaseLetter⟩,
   ⟨0x0199, 0x019B, .lowercaseLetter⟩, ⟨0x019C, 0x019D, .uppercaseLetter⟩, ⟨0x019E, 0x019E, .lowercaseLetter⟩,
   ⟨0x019F, 0x01A0, .uppercaseLetter⟩, ⟨0x01A1, 0x01A1, .lowercaseLetter⟩, ⟨0x01A2, 0x01A2, .uppercaseLetter⟩,
   ⟨0x01A3, 0x01A3, .lowercaseLetter⟩, ⟨0x01A4, 0x01A4, .uppercaseLetter⟩, ⟨0x01A5, 0x01A5, .lowercaseLetter⟩,
   ⟨0x01A6, 0x01A7, .uppercaseLetter⟩, ⟨0x01A8, 0x01A8, .lowercaseLetter⟩, ⟨0x01A9, 0x01A9, .uppercaseLetter⟩,
   ⟨0x01AA, 0x01AB, .lowercaseLetter⟩, ⟨0x01AC, 0x01AC, .uppercaseLetter⟩, ⟨0x01AD, 0x01AD, .lowercaseLetter⟩,
   ⟨0x01AE, 0x01AF, .uppercaseLetter⟩, ⟨0x01B0, 0x01B0, .lowercaseLetter⟩, ⟨0x01B1, 0x01B3, .uppercaseLetter⟩,
   ⟨0x01B4, 0x01B4, .lowercaseLetter⟩, ⟨0x01B5, 0x01B5, .uppercaseLetter⟩, ⟨0x01B6, 0x01B6, .lowercaseLetter⟩,
   ⟨0x01B7, 0x01B8, .uppercaseLetter⟩, ⟨0x01B9, 0x01BA, .lowercaseLetter⟩, ⟨0x01BB, 0x01BB, .otherLetter⟩,
   ⟨0x01BC, 0x01BC, .uppercaseLetter⟩, ⟨0x01BD, 0x01BF, .lowercaseLetter⟩, ⟨0x01C0, 0x01C3, .otherLetter⟩,
   ⟨0x01C4, 0x01C4, .uppercaseLetter⟩, ⟨0x01C5, 0x01C5, .titlecaseLetter⟩, ⟨0x01C6, 0x01C6, .lowercaseLetter⟩,
   ⟨0x01C7, 0x01C7, .uppercaseLetter⟩, ⟨0x01C8, 0x01C8, .titlecaseLetter⟩, ⟨0x01C9, 0x01C9, .lowercaseLetter⟩,
   ⟨0x01CA, 0x01CA, .uppercaseLetter⟩, ⟨0x01CB, 0x01CB, .titlecaseLetter⟩, ⟨0x01CC, 0x01CC, .lowercaseLetter⟩,
   ⟨0x01CD, 0x01CD, .uppercaseLetter⟩, ⟨0x01CE, 0x01CE, .lowercaseLetter⟩, ⟨0x01CF, 0x01CF, .uppercaseLetter⟩,
   ⟨0x01D0, 0x01D0, .lowercaseLetter⟩, ⟨0x01D1, 0x01D1, .uppercaseLetter⟩, ⟨0x01D2, 0x01D2, .lowercaseLetter⟩,
   ⟨0x01D3, 0x01D3, .uppercaseLetter⟩, ⟨0x01D4, 0x01D4, .lowercaseLetter⟩, ⟨0x01D5, 0x01D5, .uppercaseLetter⟩,
   ⟨0x01D6, 0x01D6, .lowercaseLetter⟩, ⟨0x01D7, 0x01D7, .uppercaseLetter⟩, ⟨0x01D8, 0x01D8, .lowercaseLetter⟩,
   ⟨0x01D9, 0x01D9, .uppercaseLetter⟩, ⟨0x01DA, 0x01DA, .lowercaseLetter⟩, ⟨0x01DB, 0x01DB, .uppercaseLetter⟩,
   ⟨0x01DC, 0x01DD, .lowercaseLetter⟩, ⟨0x01DE, 0x01DE, .uppercaseLetter⟩, ⟨0x01DF, 0x01DF, .lowercaseLetter⟩,
   ⟨0x01E0, 0x01E0, .uppercaseLetter⟩, ⟨0x01E1, 0x01E1, .lowercaseLetter⟩, ⟨0x01E2, 0x01E2, .uppercaseLetter⟩,
   ⟨0x01E3, 0x01E3, .lowercaseLetter⟩, ⟨0x01E4, 0x01E4, .uppercaseLetter⟩]

def runs01E5 : List (Run GeneralCategory) :=
  [⟨0x01E5, 0x01E5, .lowercaseLetter⟩, ⟨0x01E6, 0x01E6, .uppercaseLetter⟩, ⟨0x01E7, 0x01E7, .lowercaseLetter⟩,
   ⟨0x01E8, 0x01E8, .uppercaseLetter⟩, ⟨0x01E9, 0x01E9, .lowercaseLetter⟩, ⟨0x01EA, 0x01EA, .uppercaseLetter⟩,
   ⟨0x01EB, 0x01EB, .lowercaseLetter⟩, ⟨0x01EC, 0x01EC, .uppercaseLetter⟩, ⟨0x01ED, 0x01ED, .lowercaseLetter⟩,
   ⟨0x01EE, 0x01EE, .uppercaseLetter⟩, ⟨0x01EF, 0x01F0, .lowercaseLetter⟩, ⟨0x01F1, 0x01F1, .uppercaseLetter⟩,
   ⟨0x01F2, 0x01F2, .titlecaseLetter⟩, ⟨0x01F3, 0x01F3, .lowercaseLetter⟩, ⟨0x01F4, 0x01F4, .uppercaseLetter⟩,
   ⟨0x01F5, 0x01F5, .lowercaseLetter⟩, ⟨0x01F6, 0x01F8, .uppercaseLetter⟩, ⟨0x01F9, 0x01F9, .lowercaseLetter⟩,
   ⟨0x01FA, 0x01FA, .uppercaseLetter⟩, ⟨0x01FB, 0x01FB, .lowercaseLetter⟩, ⟨0x01FC, 0x01FC, .uppercaseLetter⟩,
   ⟨0x01FD, 0x01FD, .lowercaseLetter⟩, ⟨0x01FE, 0x01FE, .uppercaseLetter⟩, ⟨0x01FF, 0x01FF, .lowercaseLetter⟩,
   ⟨0x0200, 0x0200, .uppercaseLetter⟩, ⟨0x0201, 0x0201, .lowercaseLetter⟩, ⟨0x0202, 0x0202, .uppercaseLetter⟩,
   ⟨0x0203, 0x0203, .lowercaseLetter⟩, ⟨0x0204, 0x0204, .uppercaseLetter⟩, ⟨0x0205, 0x0205, .lowercaseLetter⟩,
   ⟨0x0206, 0x0206, .uppercaseLetter⟩, ⟨0x0207, 0x0207, .lowercaseLetter⟩, ⟨0x0208, 0x0208, .uppercaseLetter⟩,
   ⟨0x0209, 0x0209, .lowercaseLetter⟩, ⟨0x020A, 0x020A, .uppercaseLetter⟩, ⟨0x020B, 0x020B, .lowercaseLetter⟩,
   ⟨0x020C, 0x020C, .uppercaseLetter⟩, ⟨0x020D, 0x020D, .lowercaseLetter⟩, ⟨0x020E, 0x020E, .uppercaseLetter⟩,
   ⟨0x020F, 0x020F, .lowercaseLetter⟩, ⟨0x0210, 0x0210, .uppercaseLetter⟩, ⟨0x0211, 0x0211, .lowercaseLetter⟩,
   ⟨0x0212, 0x0212, .uppercaseLetter⟩, ⟨0x0213, 0x0213, .lowercaseLetter⟩, ⟨0x0214, 0x0214, .uppercaseLetter⟩,
   ⟨0x0215, 0x0215, .lowercaseLetter⟩, ⟨0x0216, 0x0216, .uppercaseLetter⟩, ⟨0x0217, 0x0217, .lowercaseLetter⟩,
   ⟨0x0218, 0x0218, .uppercaseLetter⟩, ⟨0x0219, 0x0219, .lowercaseLetter⟩, ⟨0x021A, 0x021A, .uppercaseLetter⟩,
   ⟨0x021B, 0x021B, .lowercaseLetter⟩, ⟨0x021C, 0x021C, .uppercaseLetter⟩, ⟨0x021D, 0x021D, .lowercaseLetter⟩,
   ⟨0x021E, 0x021E, .uppercaseLetter⟩, ⟨0x021F, 0x021F, .lowercaseLetter⟩, ⟨0x0220, 0x0220, .uppercaseLetter⟩,
   ⟨0x0221, 0x0221, .lowercaseLetter⟩, ⟨0x0222, 0x0222, .uppercaseLetter⟩, ⟨0x0223, 0x0223, .lowercaseLetter⟩,
   ⟨0x0224, 0x0224, .uppercaseLetter⟩, ⟨0x0225, 0x0225, .lowercaseLetter⟩, ⟨0x0226, 0x0226, .uppercaseLetter⟩,
   ⟨0x0227, 0x0227, .lowercaseLetter⟩, ⟨0x0228, 0x0228, .uppercaseLetter⟩, ⟨0x0229, 0x0229, .lowercaseLetter⟩,
   ⟨0x022A, 0x022A, .uppercaseLetter⟩, ⟨0x022B, 0x022B, .lowercaseLetter⟩, ⟨0x022C, 0x022C, .uppercaseLetter⟩,
   ⟨0x022D, 0x022D, .lowercaseLetter⟩, ⟨0x022E, 0x022E, .uppercaseLetter⟩, ⟨0x022F, 0x022F, .lowercaseLetter⟩,
   ⟨0x0230, 0x0230, .uppercaseLetter⟩, ⟨0x0231, 0x0231, .lowercaseLetter⟩, ⟨0x0232, 0x0232, .uppercaseLetter⟩,
   ⟨0x0233, 0x0239, .lowercaseLetter⟩, ⟨0x023A, 0x023B, .uppercaseLetter⟩, ⟨0x023C, 0x023C, .lowercaseLetter⟩,
   ⟨0x023D, 0x023E, .uppercaseLetter⟩, ⟨0x023F, 0x0240, .lowercaseLetter⟩, ⟨0x0241, 0x0241, .uppercaseLetter⟩,
   ⟨0x0242, 0x0242, .lowercaseLetter⟩, ⟨0x0243, 0x0246, .uppercaseLetter⟩, ⟨0x0247, 0x0247, .lowercaseLetter⟩,
   ⟨0x0248, 0x0248, .uppercaseLetter⟩, ⟨0x0249, 0x0249, .lowercaseLetter⟩, ⟨0x024A, 0x024A, .uppercaseLetter⟩,
   ⟨0x024B, 0x024B, .lowercaseLetter⟩, ⟨0x024C, 0x024C, .uppercaseLetter⟩, ⟨0x024D, 0x024D, .lowercaseLetter⟩,
   ⟨0x024E, 0x024E, .uppercaseLetter⟩, ⟨0x024F, 0x0293, .lowercaseLetter⟩, ⟨0x0294, 0x0295, .otherLetter⟩,
   ⟨0x0296, 0x02AF, .lowercaseLetter⟩, ⟨0x02B0, 0x02C1, .modifierLetter⟩, ⟨0x02C2, 0x02C5, .modifierSymbol⟩,
   ⟨0x02C6, 0x02D1, .modifierLetter⟩, ⟨0x02D2, 0x02DF, .modifierSymbol⟩, ⟨0x02E0, 0x02E4, .modifierLetter⟩,
   ⟨0x02E5, 0x02EB, .modifierSymbol⟩, ⟨0x02EC, 0x02EC, .modifierLetter⟩, ⟨0x02ED, 0x02ED, .modifierSymbol⟩,
   ⟨0x02EE, 0x02EE, .modifierLetter⟩, ⟨0x02EF, 0x02FF, .modifierSymbol⟩, ⟨0x0300, 0x036F, .nonspacingMark⟩,
   ⟨0x0370, 0x0370, .uppercaseLetter⟩, ⟨0x0371, 0x0371, .lowercaseLetter⟩, ⟨0x0372, 0x0372, .uppercaseLetter⟩,
   ⟨0x0373, 0x0373, .lowercaseLetter⟩, ⟨0x0374, 0x0374, .modifierLetter⟩, ⟨0x0375, 0x0375, .modifierSymbol⟩,
   ⟨0x0376, 0x0376, .uppercaseLetter⟩, ⟨0x0377, 0x0377, .lowercaseLetter⟩, ⟨0x037A, 0x037A, .modifierLetter⟩,
   ⟨0x037B, 0x037D, .lowercaseLetter⟩, ⟨0x037E, 0x037E, .otherPunctuation⟩, ⟨0x037F, 0x037F, .uppercaseLetter⟩,
   ⟨0x0384, 0x0385, .modifierSymbol⟩, ⟨0x0386, 0x0386, .uppercaseLetter⟩, ⟨0x0387, 0x0387, .otherPunctuation⟩,
   ⟨0x0388, 0x038A, .uppercaseLetter⟩, ⟨0x038C, 0x038C, .uppercaseLetter⟩, ⟨0x038E, 0x038F, .uppercaseLetter⟩,
   ⟨0x0390, 0x0390, .lowercaseLetter⟩, ⟨0x0391, 0x03A1, .uppercaseLetter⟩, ⟨0x03A3, 0x03AB, .uppercaseLetter⟩,
   ⟨0x03AC, 0x03CE, .lowercaseLetter⟩, ⟨0x03CF, 0x03CF, .uppercaseLetter⟩]

def runs03D0 : List (Run GeneralCategory) :=
  [⟨0x03D0, 0x03D1, .lowercaseLetter⟩, ⟨0x03D2, 0x03D4, .uppercaseLetter⟩, ⟨0x03D5, 0x03D7, .lowercaseLetter⟩,
   ⟨0x03D8, 0x03D8, .uppercaseLetter⟩, ⟨0x03D9, 0x03D9, .lowercaseLetter⟩, ⟨0x03DA, 0x03DA, .uppercaseLetter⟩,
   ⟨0x03DB, 0x03DB, .lowercaseLetter⟩, ⟨0x03DC, 0x03DC, .uppercaseLetter⟩, ⟨0x03DD, 0x03DD, .lowercaseLetter⟩,
   ⟨0x03DE, 0x03DE, .uppercaseLetter⟩, ⟨0x03DF, 0x03DF, .lowercaseLetter⟩, ⟨0x03E0, 0x03E0, .uppercaseLetter⟩,
   ⟨0x03E1, 0x03E1, .lowercaseLetter⟩, ⟨0x03E2, 0x03E2, .uppercaseLetter⟩, ⟨0x03E3, 0x03E3, .lowercaseLetter⟩,
   ⟨0x03E4, 0x03E4, .uppercaseLetter⟩, ⟨0x03E5, 0x03E5, .lowercaseLetter⟩, ⟨0x03E6, 0x03E6, .uppercaseLetter⟩,
   ⟨0x03E7, 0x03E7, .lowercaseLetter⟩, ⟨0x03E8, 0x03E8, .uppercaseLetter⟩, ⟨0x03E9, 0x03E9, .lowercaseLetter⟩,
   ⟨0x03EA, 0x03EA, .uppercaseLetter⟩, ⟨0x03EB, 0x03EB, .lowercaseLetter⟩, ⟨0x03EC, 0x03EC, .uppercaseLetter⟩,
   ⟨0x03ED, 0x03ED, .lowercaseLetter⟩, ⟨0x03EE, 0x03EE, .uppercaseLetter⟩, ⟨0x03EF, 0x03F3, .lowercaseLetter⟩,
   ⟨0x03F4, 0x03F4, .uppercaseLetter⟩, ⟨0x03F5, 0x03F5, .lowercaseLetter⟩, ⟨0x03F6, 0x03F6, .mathSymbol⟩,
   ⟨0x03F7, 0x03F7, .uppercaseLetter⟩, ⟨0x03F8, 0x03F8, .lowercaseLetter⟩, ⟨0x03F9, 0x03FA, .uppercaseLetter⟩,
   ⟨0x03FB, 0x03FC, .lowercaseLetter⟩, ⟨0x03FD, 0x042F, .uppercaseLetter⟩, ⟨0x0430, 0x045F, .lowercaseLetter⟩,
   ⟨0x0460, 0x0460, .uppercaseLetter⟩, ⟨0x0461, 0x0461, .lowercaseLetter⟩, ⟨0x0462, 0x0462, .uppercaseLetter⟩,
   ⟨0x0463, 0x0463, .lowercaseLetter⟩, ⟨0x0464, 0x0464, .uppercaseLetter⟩, ⟨0x0465, 0x0465, .lowercaseLetter⟩,
   ⟨0x0466, 0x0466, .uppercaseLetter⟩, ⟨0x0467, 0x0467, .lowercaseLetter⟩, ⟨0x0468, 0x0468, .uppercaseLetter⟩,
   ⟨0x0469, 0x0469, .lowercaseLetter⟩, ⟨0x046A, 0x046A, .uppercaseLetter⟩, ⟨0x046B, 0x046B, .lowercaseLetter⟩,
   ⟨0x046C, 0x046C, .uppercaseLetter⟩, ⟨0x046D, 0x046D, .lowercaseLetter⟩, ⟨0x046E, 0x046E, .uppercaseLetter⟩,
   ⟨0x046F, 0x046F, .lowercaseLetter⟩, ⟨0x0470, 0x0470, .uppercaseLetter⟩, ⟨0x0471, 0x0471, .lowercaseLetter⟩,
   ⟨0x0472, 0x0472, .uppercaseLetter⟩, ⟨0x0473, 0x0473, .lowercaseLetter⟩, ⟨0x0474, 0x0474, .uppercaseLetter⟩,
   ⟨0x0475, 0x0475, .lowercaseLetter⟩, ⟨0x0476, 0x0476, .uppercaseLetter⟩, ⟨0x0477, 0x0477, .lowercaseLetter⟩,
   ⟨0x0478, 0x0478, .uppercaseLetter⟩, ⟨0x0479, 0x0479, .lowercaseLetter⟩, ⟨0x047A, 0x047A, .uppercaseLetter⟩,
   ⟨0x047B, 0x047B, .lowercaseLetter⟩, ⟨0x047C, 0x047C, .uppercaseLetter⟩, ⟨0x047D, 0x047D, .lowercaseLetter⟩,
   ⟨0x047E, 0x047E, .uppercaseLetter⟩, ⟨0x047F, 0x047F, .lowercaseLetter⟩, ⟨0x0480, 0x0480, .uppercaseLetter⟩,
   ⟨0x0481, 0x0481, .lowercaseLetter⟩, ⟨0x0482, 0x0482, .otherSymbol⟩, ⟨0x0483, 0x0487, .nonspacingMark⟩,
   ⟨0x0488, 0x0489, .enclosingMark⟩, ⟨0x048A, 0x048A, .uppercaseLetter⟩, ⟨0x048B, 0x048B, .lowercaseLetter⟩,
   ⟨0x048C, 0x048C, .uppercaseLetter⟩, ⟨0x048D, 0x048D, .lowercaseLetter⟩, ⟨0x048E, 0x048E, .uppercaseLetter⟩,
   ⟨0x048F, 0x048F, .lowercaseLetter⟩, ⟨0x0490, 0x0490, .uppercaseLetter⟩, ⟨0x0491, 0x0491, .lowercaseLetter⟩,
   ⟨0x0492, 0x0492, .uppercaseLetter⟩, ⟨0x0493, 0x0493, .lowercaseLetter⟩, ⟨0x0494, 0x0494, .uppercaseLetter⟩,
   ⟨0x0495, 0x0495, .lowercaseLetter⟩, ⟨0x0496, 0x0496, .uppercaseLetter⟩, ⟨0x0497, 0x0497, .lowercaseLetter⟩,
   ⟨0x0498, 0x0498, .uppercaseLetter⟩, ⟨0x0499, 0x0499, .lowercaseLetter⟩, ⟨0x049A, 0x049A, .uppercaseLetter⟩,
   ⟨0x049B, 0x049B, .lowercaseLetter⟩, ⟨0x049C, 0x049C, .uppercaseLetter⟩, ⟨0x049D, 0x049D, .lowercaseLetter⟩,
   ⟨0x049E, 0x049E, .uppercaseLetter⟩, ⟨0x049F, 0x049F, .lowercaseLetter⟩, ⟨0x04A0, 0x04A0, .uppercaseLetter⟩,
   ⟨0x04A1, 0x04A1, .lowercaseLetter⟩, ⟨0x04A2, 0x04A2, .uppercaseLetter⟩, ⟨0x04A3, 0x04A3, .lowercaseLetter⟩,
   ⟨0x04A4, 0x04A4, .uppercaseLetter⟩, ⟨0x04A5, 0x04A5, .lowercaseLetter⟩, ⟨0x04A6, 0x04A6, .uppercaseLetter⟩,
   ⟨0x04A7, 0x04A7, .lowercaseLetter⟩, ⟨0x04A8, 0x04A8, .uppercaseLetter⟩, ⟨0x04A9, 0x04A9, .lowercaseLetter⟩,
   ⟨0x04AA, 0x04AA, .uppercaseLetter⟩, ⟨0x04AB, 0x04AB, .lowercaseLetter⟩, ⟨0x04AC, 0x04AC, .uppercaseLetter⟩,
   ⟨0x04AD, 0x04AD, .lowercaseLetter⟩, ⟨0x04AE, 0x04AE, .uppercaseLetter⟩, ⟨0x04AF, 0x04AF, .lowercaseLetter⟩,
   ⟨0x04B0, 0x04B0, .uppercaseLetter⟩, ⟨0x04B1, 0x04B1, .lowercaseLetter⟩, ⟨0x04B2, 0x04B2, .uppercaseLetter⟩,
   ⟨0x04B3, 0x04B3, .lowercaseLetter⟩, ⟨0x04B4, 0x04B4, .uppercaseLetter⟩, ⟨0x04B5, 0x04B5, .lowercaseLetter⟩,
   ⟨0x04B6, 0x04B6, .uppercaseLetter⟩, ⟨0x04B7, 0x04B7, .lowercaseLetter⟩, ⟨0x04B8, 0x04B8, .uppercaseLetter⟩,
   ⟨0x04B9, 0x04B9, .lowercaseLetter⟩, ⟨0x04BA, 0x04BA, .uppercaseLetter⟩, ⟨0x04BB, 0x04BB, .lowercaseLetter⟩,
   ⟨0x04BC, 0x04BC, .uppercaseLetter⟩, ⟨0x04BD, 0x04BD, .lowercaseLetter⟩, ⟨0x04BE, 0x04BE, .uppercaseLetter⟩,
   ⟨0x04BF, 0x04BF, .lowercaseLetter⟩, ⟨0x04C0, 0x04C1, .uppercaseLetter⟩]

def runs04C2 : List (Run GeneralCategory) :=
  [⟨0x04C2, 0x04C2, .lowercaseLetter⟩, ⟨0x04C3, 0x04C3, .uppercaseLetter⟩, ⟨0x04C4, 0x04C4, .lowercaseLetter⟩,
   ⟨0x04C5, 0x04C5, .uppercaseLetter⟩, ⟨0x04C6, 0x04C6, .lowercaseLetter⟩, ⟨0x04C7, 0x04C7, .uppercaseLetter⟩,
   ⟨0x04C8, 0x04C8, .lowercaseLetter⟩, ⟨0x04C9, 0x04C9, .uppercaseLetter⟩, ⟨0x04CA, 0x04CA, .lowercaseLetter⟩,
   ⟨0x04CB, 0x04CB, .uppercaseLetter⟩, ⟨0x04CC, 0x04CC, .lowercaseLetter⟩, ⟨0x04CD, 0x04CD, .uppercaseLetter⟩,
   ⟨0x04CE, 0x04CF, .lowercaseLetter⟩, ⟨0x04D0, 0x04D0, .uppercaseLetter⟩, ⟨0x04D1, 0x04D1, .lowercaseLetter⟩,
   ⟨0x04D2, 0x04D2, .uppercaseLetter⟩, ⟨0x04D3, 0x04D3, .lowercaseLetter⟩, ⟨0x04D4, 0x04D4, .uppercaseLetter⟩,
   ⟨0x04D5, 0x04D5, .lowercaseLetter⟩, ⟨0x04D6, 0x04D6, .uppercaseLetter⟩, ⟨0x04D7, 0x04D7, .lowercaseLetter⟩,
   ⟨0x04D8, 0x04D8, .uppercaseLetter⟩, ⟨0x04D9, 0x04D9, .lowercaseLetter⟩, ⟨0x04DA, 0x04DA, .uppercaseLetter⟩,
   ⟨0x04DB, 0x04DB, .lowercaseLetter⟩, ⟨0x04DC, 0x04DC, .uppercaseLetter⟩, ⟨0x04DD, 0x04DD, .lowercaseLetter⟩,
   ⟨0x04DE, 0x04DE, .uppercaseLetter⟩, ⟨0x04DF, 0x04DF, .lowercaseLetter⟩, ⟨0x04E0, 0x04E0, .uppercaseLetter⟩,
   ⟨0x04E1, 0x04E1, .lowercaseLetter⟩, ⟨0x04E2, 0x04E2, .uppercaseLetter⟩, ⟨0x04E3, 0x04E3, .lowercaseLetter⟩,
   ⟨0x04E4, 0x04E4, .uppercaseLetter⟩, ⟨0x04E5, 0x04E5, .lowercaseLetter⟩, ⟨0x04E6, 0x04E6, .uppercaseLetter⟩,
   ⟨0x04E7, 0x04E7, .lowercaseLetter⟩, ⟨0x04E8, 0x04E8, .uppercaseLetter⟩, ⟨0x04E9, 0x04E9, .lowercaseLetter⟩,
   ⟨0x04EA, 0x04EA, .uppercaseLetter⟩, ⟨0x04EB, 0x04EB, .lowercaseLetter⟩, ⟨0x04EC, 0x04EC, .uppercaseLetter⟩,
   ⟨0x04ED, 0x04ED, .lowercaseLetter⟩, ⟨0x04EE, 0x04EE, .uppercaseLetter⟩, ⟨0x04EF, 0x04EF, .lowercaseLetter⟩,
   ⟨0x04F0, 0x04F0, .uppercaseLetter⟩, ⟨0x04F1, 0x04F1, .lowercaseLetter⟩, ⟨0x04F2, 0x04F2, .uppercaseLetter⟩,
   ⟨0x04F3, 0x04F3, .lowercaseLetter⟩, ⟨0x04F4, 0x04F4, .uppercaseLetter⟩, ⟨0x04F5, 0x04F5, .lowercaseLetter⟩,
   ⟨0x04F6, 0x04F6, .uppercaseLetter⟩, ⟨0x04F7, 0x04F7, .lowercaseLetter⟩, ⟨0x04F8, 0x04F8, .uppercaseLetter⟩,
   ⟨0x04F9, 0x04F9, .lowercaseLetter⟩, ⟨0x04FA, 0x04FA, .uppercaseLetter⟩, ⟨0x04FB, 0x04FB, .lowercaseLetter⟩,
   ⟨0x04FC, 0x04FC, .uppercaseLetter⟩, ⟨0x04FD, 0x04FD, .lowercaseLetter⟩, ⟨0x04FE, 0x04FE, .uppercaseLetter⟩,
   ⟨0x04FF, 0x04FF, .lowercaseLetter⟩, ⟨0x0500, 0x0500, .uppercaseLetter⟩, ⟨0x0501, 0x0501, .lowercaseLetter⟩,
   ⟨0x0502, 0x0502, .uppercaseLetter⟩, ⟨0x0503, 0x0503, .lowercaseLetter⟩, ⟨0x0504, 0x0504, .uppercaseLetter⟩,
   ⟨0x0505, 0x0505, .lowercaseLetter⟩, ⟨0x0506, 0x0506, .uppercaseLetter⟩, ⟨0x0507, 0x0507, .lowercaseLetter⟩,
   ⟨0x0508, 0x0508, .uppercaseLetter⟩, ⟨0x0509, 0x0509, .lowercaseLetter⟩, ⟨0x050A, 0x050A, .uppercaseLetter⟩,
   ⟨0x050B, 0x050B, .lowercaseLetter⟩, ⟨0x050C, 0x050C, .uppercaseLetter⟩, ⟨0x050D, 0x050D, .lowercaseLetter⟩,
   ⟨0x050E, 0x050E, .uppercaseLetter⟩, ⟨0x050F, 0x050F, .lowercaseLetter⟩, ⟨0x0510, 0x0510, .uppercaseLetter⟩,
   ⟨0x0511, 0x0511, .lowercaseLetter⟩, ⟨0x0512, 0x0512, .uppercaseLetter⟩, ⟨0x0513, 0x0513, .lowercaseLetter⟩,
   ⟨0x0514, 0x0514, .uppercaseLetter⟩, ⟨0x0515, 0x0515, .lowercaseLetter⟩, ⟨0x0516, 0x0516, .uppercaseLetter⟩,
   ⟨0x0517, 0x0517, .lowercaseLetter⟩, ⟨0x0518, 0x0518, .uppercaseLetter⟩, ⟨0x0519, 0x0519, .lowercaseLetter⟩,
   ⟨0x051A, 0x051A, .uppercaseLetter⟩, ⟨0x051B, 0x051B, .lowercaseLetter⟩, ⟨0x051C, 0x051C, .uppercaseLetter⟩,
   ⟨0x051D, 0x051D, .lowercaseLetter⟩, ⟨0x051E, 0x051E, .uppercaseLetter⟩, ⟨0x051F, 0x051F, .lowercaseLetter⟩,
   ⟨0x0520, 0x0520, .uppercaseLetter⟩, ⟨0x0521, 0x0521, .lowercaseLetter⟩, ⟨0x0522, 0x0522, .uppercaseLetter⟩,
   ⟨0x0523, 0x0523, .lowercaseLetter⟩, ⟨0x0524, 0x0524, .uppercaseLetter⟩, ⟨0x0525, 0x0525, .lowercaseLetter⟩,
   ⟨0x0526, 0x0526, .uppercaseLetter⟩, ⟨0x0527, 0x0527, .lowercaseLetter⟩, ⟨0x0528, 0x0528, .uppercaseLetter⟩,
   ⟨0x0529, 0x0529, .lowercaseLetter⟩, ⟨0x052A, 0x052A, .uppercaseLetter⟩, ⟨0x052B, 0x052B, .lowercaseLetter⟩,
   ⟨0x052C, 0x052C, .uppercaseLetter⟩, ⟨0x052D, 0x052D, .lowercaseLetter⟩, ⟨0x052E, 0x052E, .uppercaseLetter⟩,
   ⟨0x052F, 0x052F, .lowercaseLetter⟩, ⟨0x0531, 0x0556, .uppercaseLetter⟩, ⟨0x0558, 0x0559, .modifierLetter⟩,
   ⟨0x055A, 0x055F, .otherPunctuation⟩, ⟨0x0560, 0x0588, .lowercaseLetter⟩, ⟨0x0589, 0x0589, .otherPunctuation⟩,
   ⟨0x058A, 0x058A, .dashPunctuation⟩, ⟨0x058B, 0x058C, .modifierLetter⟩, ⟨0x058D, 0x058E, .otherSymbol⟩,
   ⟨0x058F, 0x058F, .currencySymbol⟩, ⟨0x0591, 0x05BD, .nonspacingMark⟩, ⟨0x05BE, 0x05BE, .dashPunctuation⟩,
   ⟨0x05BF, 0x05BF, .nonspacingMark⟩, ⟨0x05C0, 0x05C0, .otherPunctuation⟩, ⟨0x05C1, 0x05C2, .nonspacingMark⟩,
   ⟨0x05C3, 0x05C3, .otherPunctuation⟩, ⟨0x05C4, 0x05C5, .nonspacingMark⟩, ⟨0x05C6, 0x05C6, .otherPunctuation⟩,
   ⟨0x05C7, 0x05C9, .nonspacingMark⟩, ⟨0x05D0, 0x05EA, .otherLetter⟩]

def runs05EF : List (Run GeneralCategory) :=
  [⟨0x05EF, 0x05F2, .otherLetter⟩, ⟨0x05F3, 0x05F4, .otherPunctuation⟩, ⟨0x0600, 0x0605, .format⟩,
   ⟨0x0606, 0x0608, .mathSymbol⟩, ⟨0x0609, 0x060A, .otherPunctuation⟩, ⟨0x060B, 0x060B, .currencySymbol⟩,
   ⟨0x060C, 0x060D, .otherPunctuation⟩, ⟨0x060E, 0x060F, .otherSymbol⟩, ⟨0x0610, 0x061A, .nonspacingMark⟩,
   ⟨0x061B, 0x061B, .otherPunctuation⟩, ⟨0x061C, 0x061C, .format⟩, ⟨0x061D, 0x061F, .otherPunctuation⟩,
   ⟨0x0620, 0x063F, .otherLetter⟩, ⟨0x0640, 0x0640, .modifierLetter⟩, ⟨0x0641, 0x064A, .otherLetter⟩,
   ⟨0x064B, 0x065F, .nonspacingMark⟩, ⟨0x0660, 0x0669, .decimalNumber⟩, ⟨0x066A, 0x066D, .otherPunctuation⟩,
   ⟨0x066E, 0x066F, .otherLetter⟩, ⟨0x0670, 0x0670, .nonspacingMark⟩, ⟨0x0671, 0x06D3, .otherLetter⟩,
   ⟨0x06D4, 0x06D4, .otherPunctuation⟩, ⟨0x06D5, 0x06D5, .otherLetter⟩, ⟨0x06D6, 0x06DC, .nonspacingMark⟩,
   ⟨0x06DD, 0x06DD, .format⟩, ⟨0x06DE, 0x06DE, .otherSymbol⟩, ⟨0x06DF, 0x06E4, .nonspacingMark⟩,
   ⟨0x06E5, 0x06E6, .modifierLetter⟩, ⟨0x06E7, 0x06E8, .nonspacingMark⟩, ⟨0x06E9, 0x06E9, .otherSymbol⟩,
   ⟨0x06EA, 0x06ED, .nonspacingMark⟩, ⟨0x06EE, 0x06EF, .otherLetter⟩, ⟨0x06F0, 0x06F9, .decimalNumber⟩,
   ⟨0x06FA, 0x06FC, .otherLetter⟩, ⟨0x06FD, 0x06FE, .otherSymbol⟩, ⟨0x06FF, 0x06FF, .otherLetter⟩,
   ⟨0x0700, 0x070D, .otherPunctuation⟩, ⟨0x070F, 0x070F, .format⟩, ⟨0x0710, 0x0710, .otherLetter⟩,
   ⟨0x0711, 0x0711, .nonspacingMark⟩, ⟨0x0712, 0x072F, .otherLetter⟩, ⟨0x0730, 0x074A, .nonspacingMark⟩,
   ⟨0x074D, 0x07A5, .otherLetter⟩, ⟨0x07A6, 0x07B0, .nonspacingMark⟩, ⟨0x07B1, 0x07B1, .otherLetter⟩,
   ⟨0x07C0, 0x07C9, .decimalNumber⟩, ⟨0x07CA, 0x07EA, .otherLetter⟩, ⟨0x07EB, 0x07F3, .nonspacingMark⟩,
   ⟨0x07F4, 0x07F5, .modifierLetter⟩, ⟨0x07F6, 0x07F6, .otherSymbol⟩, ⟨0x07F7, 0x07F9, .otherPunctuation⟩,
   ⟨0x07FA, 0x07FA, .modifierLetter⟩, ⟨0x07FD, 0x07FD, .nonspacingMark⟩, ⟨0x07FE, 0x07FF, .currencySymbol⟩,
   ⟨0x0800, 0x0815, .otherLetter⟩, ⟨0x0816, 0x0819, .nonspacingMark⟩, ⟨0x081A, 0x081A, .modifierLetter⟩,
   ⟨0x081B, 0x0823, .nonspacingMark⟩, ⟨0x0824, 0x0824, .modifierLetter⟩, ⟨0x0825, 0x0827, .nonspacingMark⟩,
   ⟨0x0828, 0x0828, .modifierLetter⟩, ⟨0x0829, 0x082D, .nonspacingMark⟩, ⟨0x0830, 0x083E, .otherPunctuation⟩,
   ⟨0x0840, 0x0858, .otherLetter⟩, ⟨0x0859, 0x085B, .nonspacingMark⟩, ⟨0x085E, 0x085E, .otherPunctuation⟩,
   ⟨0x0860, 0x086A, .otherLetter⟩, ⟨0x0870, 0x0887, .otherLetter⟩, ⟨0x0888, 0x0888, .modifierSymbol⟩,
   ⟨0x0889, 0x088F, .otherLetter⟩, ⟨0x0890, 0x0891, .format⟩, ⟨0x0897, 0x089F, .nonspacingMark⟩,
   ⟨0x08A0, 0x08C8, .otherLetter⟩, ⟨0x08C9, 0x08C9, .modifierLetter⟩, ⟨0x08CA, 0x08E1, .nonspacingMark⟩,
   ⟨0x08E2, 0x08E2, .format⟩, ⟨0x08E3, 0x0902, .nonspacingMark⟩, ⟨0x0903, 0x0903, .spacingMark⟩,
   ⟨0x0904, 0x0939, .otherLetter⟩, ⟨0x093A, 0x093A, .nonspacingMark⟩, ⟨0x093B, 0x093B, .spacingMark⟩,
   ⟨0x093C, 0x093C, .nonspacingMark⟩, ⟨0x093D, 0x093D, .otherLetter⟩, ⟨0x093E, 0x0940, .spacingMark⟩,
   ⟨0x0941, 0x0948, .nonspacingMark⟩, ⟨0x0949, 0x094C, .spacingMark⟩, ⟨0x094D, 0x094D, .nonspacingMark⟩,
   ⟨0x094E, 0x094F, .spacingMark⟩, ⟨0x0950, 0x0950, .otherLetter⟩, ⟨0x0951, 0x0957, .nonspacingMark⟩,
   ⟨0x0958, 0x0961, .otherLetter⟩, ⟨0x0962, 0x0963, .nonspacingMark⟩, ⟨0x0964, 0x0965, .otherPunctuation⟩,
   ⟨0x0966, 0x096F, .decimalNumber⟩, ⟨0x0970, 0x0970, .otherPunctuation⟩, ⟨0x0971, 0x0971, .modifierLetter⟩,
   ⟨0x0972, 0x0980, .otherLetter⟩, ⟨0x0981, 0x0981, .nonspacingMark⟩, ⟨0x0982, 0x0983, .spacingMark⟩,
   ⟨0x0985, 0x098C, .otherLetter⟩, ⟨0x098F, 0x0990, .otherLetter⟩, ⟨0x0993, 0x09A8, .otherLetter⟩,
   ⟨0x09AA, 0x09B0, .otherLetter⟩, ⟨0x09B2, 0x09B2, .otherLetter⟩, ⟨0x09B6, 0x09B9, .otherLetter⟩,
   ⟨0x09BC, 0x09BC, .nonspacingMark⟩, ⟨0x09BD, 0x09BD, .otherLetter⟩, ⟨0x09BE, 0x09C0, .spacingMark⟩,
   ⟨0x09C1, 0x09C4, .nonspacingMark⟩, ⟨0x09C7, 0x09C8, .spacingMark⟩, ⟨0x09CB, 0x09CC, .spacingMark⟩,
   ⟨0x09CD, 0x09CD, .nonspacingMark⟩, ⟨0x09CE, 0x09CE, .otherLetter⟩, ⟨0x09D7, 0x09D7, .spacingMark⟩,
   ⟨0x09DC, 0x09DD, .otherLetter⟩, ⟨0x09DF, 0x09E1, .otherLetter⟩, ⟨0x09E2, 0x09E3, .nonspacingMark⟩,
   ⟨0x09E6, 0x09EF, .decimalNumber⟩, ⟨0x09F0, 0x09F1, .otherLetter⟩, ⟨0x09F2, 0x09F3, .currencySymbol⟩,
   ⟨0x09F4, 0x09F9, .otherNumber⟩, ⟨0x09FA, 0x09FA, .otherSymbol⟩, ⟨0x09FB, 0x09FB, .currencySymbol⟩,
   ⟨0x09FC, 0x09FC, .otherLetter⟩, ⟨0x09FD, 0x09FD, .otherPunctuation⟩, ⟨0x09FE, 0x09FE, .nonspacingMark⟩,
   ⟨0x0A01, 0x0A02, .nonspacingMark⟩, ⟨0x0A03, 0x0A03, .spacingMark⟩]

def runs0A05 : List (Run GeneralCategory) :=
  [⟨0x0A05, 0x0A0A, .otherLetter⟩, ⟨0x0A0F, 0x0A10, .otherLetter⟩, ⟨0x0A13, 0x0A28, .otherLetter⟩,
   ⟨0x0A2A, 0x0A30, .otherLetter⟩, ⟨0x0A32, 0x0A33, .otherLetter⟩, ⟨0x0A35, 0x0A36, .otherLetter⟩,
   ⟨0x0A38, 0x0A39, .otherLetter⟩, ⟨0x0A3C, 0x0A3C, .nonspacingMark⟩, ⟨0x0A3E, 0x0A40, .spacingMark⟩,
   ⟨0x0A41, 0x0A42, .nonspacingMark⟩, ⟨0x0A47, 0x0A48, .nonspacingMark⟩, ⟨0x0A4B, 0x0A4D, .nonspacingMark⟩,
   ⟨0x0A51, 0x0A51, .nonspacingMark⟩, ⟨0x0A59, 0x0A5C, .otherLetter⟩, ⟨0x0A5E, 0x0A5E, .otherLetter⟩,
   ⟨0x0A66, 0x0A6F, .decimalNumber⟩, ⟨0x0A70, 0x0A71, .nonspacingMark⟩, ⟨0x0A72, 0x0A74, .otherLetter⟩,
   ⟨0x0A75, 0x0A75, .nonspacingMark⟩, ⟨0x0A76, 0x0A76, .otherPunctuation⟩, ⟨0x0A81, 0x0A82, .nonspacingMark⟩,
   ⟨0x0A83, 0x0A83, .spacingMark⟩, ⟨0x0A85, 0x0A8D, .otherLetter⟩, ⟨0x0A8F, 0x0A91, .otherLetter⟩,
   ⟨0x0A93, 0x0AA8, .otherLetter⟩, ⟨0x0AAA, 0x0AB0, .otherLetter⟩, ⟨0x0AB2, 0x0AB3, .otherLetter⟩,
   ⟨0x0AB5, 0x0AB9, .otherLetter⟩, ⟨0x0ABC, 0x0ABC, .nonspacingMark⟩, ⟨0x0ABD, 0x0ABD, .otherLetter⟩,
   ⟨0x0ABE, 0x0AC0, .spacingMark⟩, ⟨0x0AC1, 0x0AC5, .nonspacingMark⟩, ⟨0x0AC7, 0x0AC8, .nonspacingMark⟩,
   ⟨0x0AC9, 0x0AC9, .spacingMark⟩, ⟨0x0ACB, 0x0ACC, .spacingMark⟩, ⟨0x0ACD, 0x0ACD, .nonspacingMark⟩,
   ⟨0x0AD0, 0x0AD0, .otherLetter⟩, ⟨0x0AE0, 0x0AE1, .otherLetter⟩, ⟨0x0AE2, 0x0AE3, .nonspacingMark⟩,
   ⟨0x0AE6, 0x0AEF, .decimalNumber⟩, ⟨0x0AF0, 0x0AF0, .otherPunctuation⟩, ⟨0x0AF1, 0x0AF1, .currencySymbol⟩,
   ⟨0x0AF9, 0x0AF9, .otherLetter⟩, ⟨0x0AFA, 0x0AFF, .nonspacingMark⟩, ⟨0x0B01, 0x0B01, .nonspacingMark⟩,
   ⟨0x0B02, 0x0B03, .spacingMark⟩, ⟨0x0B05, 0x0B0C, .otherLetter⟩, ⟨0x0B0F, 0x0B10, .otherLetter⟩,
   ⟨0x0B13, 0x0B28, .otherLetter⟩, ⟨0x0B2A, 0x0B30, .otherLetter⟩, ⟨0x0B32, 0x0B33, .otherLetter⟩,
   ⟨0x0B35, 0x0B39, .otherLetter⟩, ⟨0x0B3C, 0x0B3C, .nonspacingMark⟩, ⟨0x0B3D, 0x0B3D, .otherLetter⟩,
   ⟨0x0B3E, 0x0B3E, .spacingMark⟩, ⟨0x0B3F, 0x0B3F, .nonspacingMark⟩, ⟨0x0B40, 0x0B40, .spacingMark⟩,
   ⟨0x0B41, 0x0B44, .nonspacingMark⟩, ⟨0x0B47, 0x0B48, .spacingMark⟩, ⟨0x0B4B, 0x0B4C, .spacingMark⟩,
   ⟨0x0B4D, 0x0B4D, .nonspacingMark⟩, ⟨0x0B53, 0x0B56, .nonspacingMark⟩, ⟨0x0B57, 0x0B57, .spacingMark⟩,
   ⟨0x0B5C, 0x0B5D, .otherLetter⟩, ⟨0x0B5F, 0x0B61, .otherLetter⟩, ⟨0x0B62, 0x0B63, .nonspacingMark⟩,
   ⟨0x0B66, 0x0B6F, .decimalNumber⟩, ⟨0x0B70, 0x0B70, .otherSymbol⟩, ⟨0x0B71, 0x0B71, .otherLetter⟩,
   ⟨0x0B72, 0x0B77, .otherNumber⟩, ⟨0x0B82, 0x0B82, .nonspacingMark⟩, ⟨0x0B83, 0x0B83, .otherLetter⟩,
   ⟨0x0B85, 0x0B8A, .otherLetter⟩, ⟨0x0B8E, 0x0B90, .otherLetter⟩, ⟨0x0B92, 0x0B95, .otherLetter⟩,
   ⟨0x0B99, 0x0B9A, .otherLetter⟩, ⟨0x0B9C, 0x0B9C, .otherLetter⟩, ⟨0x0B9E, 0x0B9F, .otherLetter⟩,
   ⟨0x0BA3, 0x0BA4, .otherLetter⟩, ⟨0x0BA8, 0x0BAA, .otherLetter⟩, ⟨0x0BAE, 0x0BB9, .otherLetter⟩,
   ⟨0x0BBE, 0x0BBF, .spacingMark⟩, ⟨0x0BC0, 0x0BC0, .nonspacingMark⟩, ⟨0x0BC1, 0x0BC2, .spacingMark⟩,
   ⟨0x0BC6, 0x0BC8, .spacingMark⟩, ⟨0x0BCA, 0x0BCC, .spacingMark⟩, ⟨0x0BCD, 0x0BCD, .nonspacingMark⟩,
   ⟨0x0BD0, 0x0BD0, .otherLetter⟩, ⟨0x0BD7, 0x0BD7, .spacingMark⟩, ⟨0x0BE6, 0x0BEF, .decimalNumber⟩,
   ⟨0x0BF0, 0x0BF2, .otherNumber⟩, ⟨0x0BF3, 0x0BF8, .otherSymbol⟩, ⟨0x0BF9, 0x0BF9, .currencySymbol⟩,
   ⟨0x0BFA, 0x0BFA, .otherSymbol⟩, ⟨0x0C00, 0x0C00, .nonspacingMark⟩, ⟨0x0C01, 0x0C03, .spacingMark⟩,
   ⟨0x0C04, 0x0C04, .nonspacingMark⟩, ⟨0x0C05, 0x0C0C, .otherLetter⟩, ⟨0x0C0E, 0x0C10, .otherLetter⟩,
   ⟨0x0C12, 0x0C28, .otherLetter⟩, ⟨0x0C2A, 0x0C39, .otherLetter⟩, ⟨0x0C3C, 0x0C3C, .nonspacingMark⟩,
   ⟨0x0C3D, 0x0C3D, .otherLetter⟩, ⟨0x0C3E, 0x0C40, .nonspacingMark⟩, ⟨0x0C41, 0x0C44, .spacingMark⟩,
   ⟨0x0C46, 0x0C48, .nonspacingMark⟩, ⟨0x0C4A, 0x0C4D, .nonspacingMark⟩, ⟨0x0C55, 0x0C56, .nonspacingMark⟩,
   ⟨0x0C58, 0x0C5A, .otherLetter⟩, ⟨0x0C5C, 0x0C5D, .otherLetter⟩, ⟨0x0C60, 0x0C61, .otherLetter⟩,
   ⟨0x0C62, 0x0C63, .nonspacingMark⟩, ⟨0x0C66, 0x0C6F, .decimalNumber⟩, ⟨0x0C77, 0x0C77, .otherPunctuation⟩,
   ⟨0x0C78, 0x0C7E, .otherNumber⟩, ⟨0x0C7F, 0x0C7F, .otherSymbol⟩, ⟨0x0C80, 0x0C80, .otherLetter⟩,
   ⟨0x0C81, 0x0C81, .nonspacingMark⟩, ⟨0x0C82, 0x0C83, .spacingMark⟩, ⟨0x0C84, 0x0C84, .otherPunctuation⟩,
   ⟨0x0C85, 0x0C8C, .otherLetter⟩, ⟨0x0C8E, 0x0C90, .otherLetter⟩, ⟨0x0C92, 0x0CA8, .otherLetter⟩,
   ⟨0x0CAA, 0x0CB3, .otherLetter⟩, ⟨0x0CB5, 0x0CB9, .otherLetter⟩, ⟨0x0CBC, 0x0CBC, .nonspacingMark⟩,
   ⟨0x0CBD, 0x0CBD, .otherLetter⟩, ⟨0x0CBE, 0x0CBE, .spacingMark⟩]

def runs0CBF : List (Run GeneralCategory) :=
  [⟨0x0CBF, 0x0CBF, .nonspacingMark⟩, ⟨0x0CC0, 0x0CC4, .spacingMark⟩, ⟨0x0CC6, 0x0CC6, .nonspacingMark⟩,
   ⟨0x0CC7, 0x0CC8, .spacingMark⟩, ⟨0x0CCA, 0x0CCB, .spacingMark⟩, ⟨0x0CCC, 0x0CCD, .nonspacingMark⟩,
   ⟨0x0CD5, 0x0CD6, .spacingMark⟩, ⟨0x0CDC, 0x0CDE, .otherLetter⟩, ⟨0x0CE0, 0x0CE1, .otherLetter⟩,
   ⟨0x0CE2, 0x0CE3, .nonspacingMark⟩, ⟨0x0CE6, 0x0CEF, .decimalNumber⟩, ⟨0x0CF1, 0x0CF2, .otherLetter⟩,
   ⟨0x0CF3, 0x0CF3, .spacingMark⟩, ⟨0x0D00, 0x0D01, .nonspacingMark⟩, ⟨0x0D02, 0x0D03, .spacingMark⟩,
   ⟨0x0D04, 0x0D0C, .otherLetter⟩, ⟨0x0D0E, 0x0D10, .otherLetter⟩, ⟨0x0D12, 0x0D3A, .otherLetter⟩,
   ⟨0x0D3B, 0x0D3C, .nonspacingMark⟩, ⟨0x0D3D, 0x0D3D, .otherLetter⟩, ⟨0x0D3E, 0x0D40, .spacingMark⟩,
   ⟨0x0D41, 0x0D44, .nonspacingMark⟩, ⟨0x0D46, 0x0D48, .spacingMark⟩, ⟨0x0D4A, 0x0D4C, .spacingMark⟩,
   ⟨0x0D4D, 0x0D4D, .nonspacingMark⟩, ⟨0x0D4E, 0x0D4E, .otherLetter⟩, ⟨0x0D4F, 0x0D4F, .otherSymbol⟩,
   ⟨0x0D54, 0x0D56, .otherLetter⟩, ⟨0x0D57, 0x0D57, .spacingMark⟩, ⟨0x0D58, 0x0D5E, .otherNumber⟩,
   ⟨0x0D5F, 0x0D61, .otherLetter⟩, ⟨0x0D62, 0x0D63, .nonspacingMark⟩, ⟨0x0D66, 0x0D6F, .decimalNumber⟩,
   ⟨0x0D70, 0x0D78, .otherNumber⟩, ⟨0x0D79, 0x0D79, .otherSymbol⟩, ⟨0x0D7A, 0x0D7F, .otherLetter⟩,
   ⟨0x0D81, 0x0D81, .nonspacingMark⟩, ⟨0x0D82, 0x0D83, .spacingMark⟩, ⟨0x0D85, 0x0D96, .otherLetter⟩,
   ⟨0x0D9A, 0x0DB1, .otherLetter⟩, ⟨0x0DB3, 0x0DBB, .otherLetter⟩, ⟨0x0DBD, 0x0DBD, .otherLetter⟩,
   ⟨0x0DC0, 0x0DC6, .otherLetter⟩, ⟨0x0DCA, 0x0DCA, .nonspacingMark⟩, ⟨0x0DCF, 0x0DD1, .spacingMark⟩,
   ⟨0x0DD2, 0x0DD4, .nonspacingMark⟩, ⟨0x0DD6, 0x0DD6, .nonspacingMark⟩, ⟨0x0DD8, 0x0DDF, .spacingMark⟩,
   ⟨0x0DE6, 0x0DEF, .decimalNumber⟩, ⟨0x0DF2, 0x0DF3, .spacingMark⟩, ⟨0x0DF4, 0x0DF4, .otherPunctuation⟩,
   ⟨0x0E01, 0x0E30, .otherLetter⟩, ⟨0x0E31, 0x0E31, .nonspacingMark⟩, ⟨0x0E32, 0x0E33, .otherLetter⟩,
   ⟨0x0E34, 0x0E3A, .nonspacingMark⟩, ⟨0x0E3F, 0x0E3F, .currencySymbol⟩, ⟨0x0E40, 0x0E45, .otherLetter⟩,
   ⟨0x0E46, 0x0E46, .modifierLetter⟩, ⟨0x0E47, 0x0E4E, .nonspacingMark⟩, ⟨0x0E4F, 0x0E4F, .otherPunctuation⟩,
   ⟨0x0E50, 0x0E59, .decimalNumber⟩, ⟨0x0E5A, 0x0E5B, .otherPunctuation⟩, ⟨0x0E81, 0x0E82, .otherLetter⟩,
   ⟨0x0E84, 0x0E84, .otherLetter⟩, ⟨0x0E86, 0x0E8A, .otherLetter⟩, ⟨0x0E8C, 0x0EA3, .otherLetter⟩,
   ⟨0x0EA5, 0x0EA5, .otherLetter⟩, ⟨0x0EA7, 0x0EB0, .otherLetter⟩, ⟨0x0EB1, 0x0EB1, .nonspacingMark⟩,
   ⟨0x0EB2, 0x0EB3, .otherLetter⟩, ⟨0x0EB4, 0x0EBC, .nonspacingMark⟩, ⟨0x0EBD, 0x0EBD, .otherLetter⟩,
   ⟨0x0EC0, 0x0EC4, .otherLetter⟩, ⟨0x0EC6, 0x0EC6, .modifierLetter⟩, ⟨0x0EC8, 0x0ECE, .nonspacingMark⟩,
   ⟨0x0ED0, 0x0ED9, .decimalNumber⟩, ⟨0x0EDC, 0x0EDF, .otherLetter⟩, ⟨0x0F00, 0x0F00, .otherLetter⟩,
   ⟨0x0F01, 0x0F03, .otherSymbol⟩, ⟨0x0F04, 0x0F12, .otherPunctuation⟩, ⟨0x0F13, 0x0F13, .otherSymbol⟩,
   ⟨0x0F14, 0x0F14, .otherPunctuation⟩, ⟨0x0F15, 0x0F17, .otherSymbol⟩, ⟨0x0F18, 0x0F19, .nonspacingMark⟩,
   ⟨0x0F1A, 0x0F1F, .otherSymbol⟩, ⟨0x0F20, 0x0F29, .decimalNumber⟩, ⟨0x0F2A, 0x0F33, .otherNumber⟩,
   ⟨0x0F34, 0x0F34, .otherSymbol⟩, ⟨0x0F35, 0x0F35, .nonspacingMark⟩, ⟨0x0F36, 0x0F36, .otherSymbol⟩,
   ⟨0x0F37, 0x0F37, .nonspacingMark⟩, ⟨0x0F38, 0x0F38, .otherSymbol⟩, ⟨0x0F39, 0x0F39, .nonspacingMark⟩,
   ⟨0x0F3A, 0x0F3A, .openPunctuation⟩, ⟨0x0F3B, 0x0F3B, .closePunctuation⟩, ⟨0x0F3C, 0x0F3C, .openPunctuation⟩,
   ⟨0x0F3D, 0x0F3D, .closePunctuation⟩, ⟨0x0F3E, 0x0F3F, .spacingMark⟩, ⟨0x0F40, 0x0F47, .otherLetter⟩,
   ⟨0x0F49, 0x0F6C, .otherLetter⟩, ⟨0x0F71, 0x0F7E, .nonspacingMark⟩, ⟨0x0F7F, 0x0F7F, .spacingMark⟩,
   ⟨0x0F80, 0x0F84, .nonspacingMark⟩, ⟨0x0F85, 0x0F85, .otherPunctuation⟩, ⟨0x0F86, 0x0F87, .nonspacingMark⟩,
   ⟨0x0F88, 0x0F8C, .otherLetter⟩, ⟨0x0F8D, 0x0F97, .nonspacingMark⟩, ⟨0x0F99, 0x0FBC, .nonspacingMark⟩,
   ⟨0x0FBE, 0x0FC5, .otherSymbol⟩, ⟨0x0FC6, 0x0FC6, .nonspacingMark⟩, ⟨0x0FC7, 0x0FCC, .otherSymbol⟩,
   ⟨0x0FCE, 0x0FCF, .otherSymbol⟩, ⟨0x0FD0, 0x0FD4, .otherPunctuation⟩, ⟨0x0FD5, 0x0FD8, .otherSymbol⟩,
   ⟨0x0FD9, 0x0FDA, .otherPunctuation⟩, ⟨0x1000, 0x102A, .otherLetter⟩, ⟨0x102B, 0x102C, .spacingMark⟩,
   ⟨0x102D, 0x1030, .nonspacingMark⟩, ⟨0x1031, 0x1031, .spacingMark⟩, ⟨0x1032, 0x1037, .nonspacingMark⟩,
   ⟨0x1038, 0x1038, .spacingMark⟩, ⟨0x1039, 0x103A, .nonspacingMark⟩, ⟨0x103B, 0x103C, .spacingMark⟩,
   ⟨0x103D, 0x103E, .nonspacingMark⟩, ⟨0x103F, 0x103F, .otherLetter⟩, ⟨0x1040, 0x1049, .decimalNumber⟩,
   ⟨0x104A, 0x104F, .otherPunctuation⟩, ⟨0x1050, 0x1055, .otherLetter⟩]

def runs1056 : List (Run GeneralCategory) :=
  [⟨0x1056, 0x1057, .spacingMark⟩, ⟨0x1058, 0x1059, .nonspacingMark⟩, ⟨0x105A, 0x105D, .otherLetter⟩,
   ⟨0x105E, 0x1060, .nonspacingMark⟩, ⟨0x1061, 0x1061, .otherLetter⟩, ⟨0x1062, 0x1064, .spacingMark⟩,
   ⟨0x1065, 0x1066, .otherLetter⟩, ⟨0x1067, 0x106D, .spacingMark⟩, ⟨0x106E, 0x1070, .otherLetter⟩,
   ⟨0x1071, 0x1074, .nonspacingMark⟩, ⟨0x1075, 0x1081, .otherLetter⟩, ⟨0x1082, 0x1082, .nonspacingMark⟩,
   ⟨0x1083, 0x1084, .spacingMark⟩, ⟨0x1085, 0x1086, .nonspacingMark⟩, ⟨0x1087, 0x108C, .spacingMark⟩,
   ⟨0x108D, 0x108D, .nonspacingMark⟩, ⟨0x108E, 0x108E, .otherLetter⟩, ⟨0x108F, 0x108F, .spacingMark⟩,
   ⟨0x1090, 0x1099, .decimalNumber⟩, ⟨0x109A, 0x109C, .spacingMark⟩, ⟨0x109D, 0x109D, .nonspacingMark⟩,
   ⟨0x109E, 0x109F, .otherSymbol⟩, ⟨0x10A0, 0x10C5, .uppercaseLetter⟩, ⟨0x10C7, 0x10C7, .uppercaseLetter⟩,
   ⟨0x10CD, 0x10CD, .uppercaseLetter⟩, ⟨0x10D0, 0x10FA, .lowercaseLetter⟩, ⟨0x10FB, 0x10FB, .otherPunctuation⟩,
   ⟨0x10FC, 0x10FC, .modifierLetter⟩, ⟨0x10FD, 0x10FF, .lowercaseLetter⟩, ⟨0x1100, 0x1248, .otherLetter⟩,
   ⟨0x124A, 0x124D, .otherLetter⟩, ⟨0x1250, 0x1256, .otherLetter⟩, ⟨0x1258, 0x1258, .otherLetter⟩,
   ⟨0x125A, 0x125D, .otherLetter⟩, ⟨0x1260, 0x1288, .otherLetter⟩, ⟨0x128A, 0x128D, .otherLetter⟩,
   ⟨0x1290, 0x12B0, .otherLetter⟩, ⟨0x12B2, 0x12B5, .otherLetter⟩, ⟨0x12B8, 0x12BE, .otherLetter⟩,
   ⟨0x12C0, 0x12C0, .otherLetter⟩, ⟨0x12C2, 0x12C5, .otherLetter⟩, ⟨0x12C8, 0x12D6, .otherLetter⟩,
   ⟨0x12D8, 0x1310, .otherLetter⟩, ⟨0x1312, 0x1315, .otherLetter⟩, ⟨0x1318, 0x135A, .otherLetter⟩,
   ⟨0x135D, 0x135F, .nonspacingMark⟩, ⟨0x1360, 0x1368, .otherPunctuation⟩, ⟨0x1369, 0x137C, .otherNumber⟩,
   ⟨0x1380, 0x138F, .otherLetter⟩, ⟨0x1390, 0x1399, .otherSymbol⟩, ⟨0x13A0, 0x13F5, .uppercaseLetter⟩,
   ⟨0x13F8, 0x13FD, .lowercaseLetter⟩, ⟨0x1400, 0x1400, .dashPunctuation⟩, ⟨0x1401, 0x166C, .otherLetter⟩,
   ⟨0x166D, 0x166D, .otherSymbol⟩, ⟨0x166E, 0x166E, .otherPunctuation⟩, ⟨0x166F, 0x167F, .otherLetter⟩,
   ⟨0x1680, 0x1680, .spaceSeparator⟩, ⟨0x1681, 0x169A, .otherLetter⟩, ⟨0x169B, 0x169B, .openPunctuation⟩,
   ⟨0x169C, 0x169C, .closePunctuation⟩, ⟨0x16A0, 0x16EA, .otherLetter⟩, ⟨0x16EB, 0x16ED, .otherPunctuation⟩,
   ⟨0x16EE, 0x16F0, .letterNumber⟩, ⟨0x16F1, 0x16F8, .otherLetter⟩, ⟨0x1700, 0x1711, .otherLetter⟩,
   ⟨0x1712, 0x1714, .nonspacingMark⟩, ⟨0x1715, 0x1715, .spacingMark⟩, ⟨0x171F, 0x1731, .otherLetter⟩,
   ⟨0x1732, 0x1733, .nonspacingMark⟩, ⟨0x1734, 0x1734, .spacingMark⟩, ⟨0x1735, 0x1736, .otherPunctuation⟩,
   ⟨0x1740, 0x1751, .otherLetter⟩, ⟨0x1752, 0x1753, .nonspacingMark⟩, ⟨0x1760, 0x176C, .otherLetter⟩,
   ⟨0x176E, 0x1770, .otherLetter⟩, ⟨0x1772, 0x1773, .nonspacingMark⟩, ⟨0x1780, 0x17B3, .otherLetter⟩,
   ⟨0x17B4, 0x17B5, .nonspacingMark⟩, ⟨0x17B6, 0x17B6, .spacingMark⟩, ⟨0x17B7, 0x17BD, .nonspacingMark⟩,
   ⟨0x17BE, 0x17C5, .spacingMark⟩, ⟨0x17C6, 0x17C6, .nonspacingMark⟩, ⟨0x17C7, 0x17C8, .spacingMark⟩,
   ⟨0x17C9, 0x17D3, .nonspacingMark⟩, ⟨0x17D4, 0x17D6, .otherPunctuation⟩, ⟨0x17D7, 0x17D7, .modifierLetter⟩,
   ⟨0x17D8, 0x17DA, .otherPunctuation⟩, ⟨0x17DB, 0x17DB, .currencySymbol⟩, ⟨0x17DC, 0x17DC, .otherLetter⟩,
   ⟨0x17DD, 0x17DD, .nonspacingMark⟩, ⟨0x17E0, 0x17E9, .decimalNumber⟩, ⟨0x17F0, 0x17F9, .otherNumber⟩,
   ⟨0x1800, 0x1805, .otherPunctuation⟩, ⟨0x1806, 0x1806, .dashPunctuation⟩, ⟨0x1807, 0x180A, .otherPunctuation⟩,
   ⟨0x180B, 0x180D, .nonspacingMark⟩, ⟨0x180E, 0x180E, .format⟩, ⟨0x180F, 0x180F, .nonspacingMark⟩,
   ⟨0x1810, 0x1819, .decimalNumber⟩, ⟨0x1820, 0x1842, .otherLetter⟩, ⟨0x1843, 0x1843, .modifierLetter⟩,
   ⟨0x1844, 0x1878, .otherLetter⟩, ⟨0x1880, 0x1884, .otherLetter⟩, ⟨0x1885, 0x1886, .nonspacingMark⟩,
   ⟨0x1887, 0x18A8, .otherLetter⟩, ⟨0x18A9, 0x18A9, .nonspacingMark⟩, ⟨0x18AA, 0x18AA, .otherLetter⟩,
   ⟨0x18B0, 0x18F5, .otherLetter⟩, ⟨0x1900, 0x191E, .otherLetter⟩, ⟨0x1920, 0x1922, .nonspacingMark⟩,
   ⟨0x1923, 0x1926, .spacingMark⟩, ⟨0x1927, 0x1928, .nonspacingMark⟩, ⟨0x1929, 0x192B, .spacingMark⟩,
   ⟨0x1930, 0x1931, .spacingMark⟩, ⟨0x1932, 0x1932, .nonspacingMark⟩, ⟨0x1933, 0x1938, .spacingMark⟩,
   ⟨0x1939, 0x193B, .nonspacingMark⟩, ⟨0x1940, 0x1940, .otherSymbol⟩, ⟨0x1944, 0x1945, .otherPunctuation⟩,
   ⟨0x1946, 0x194F, .decimalNumber⟩, ⟨0x1950, 0x196D, .otherLetter⟩, ⟨0x1970, 0x1974, .otherLetter⟩,
   ⟨0x1980, 0x19AB, .otherLetter⟩, ⟨0x19B0, 0x19C9, .otherLetter⟩, ⟨0x19D0, 0x19D9, .decimalNumber⟩,
   ⟨0x19DA, 0x19DA, .otherNumber⟩, ⟨0x19DE, 0x19FF, .otherSymbol⟩]

def runs1A00 : List (Run GeneralCategory) :=
  [⟨0x1A00, 0x1A16, .otherLetter⟩, ⟨0x1A17, 0x1A18, .nonspacingMark⟩, ⟨0x1A19, 0x1A1A, .spacingMark⟩,
   ⟨0x1A1B, 0x1A1B, .nonspacingMark⟩, ⟨0x1A1E, 0x1A1F, .otherPunctuation⟩, ⟨0x1A20, 0x1A54, .otherLetter⟩,
   ⟨0x1A55, 0x1A55, .spacingMark⟩, ⟨0x1A56, 0x1A56, .nonspacingMark⟩, ⟨0x1A57, 0x1A57, .spacingMark⟩,
   ⟨0x1A58, 0x1A5E, .nonspacingMark⟩, ⟨0x1A60, 0x1A60, .nonspacingMark⟩, ⟨0x1A61, 0x1A61, .spacingMark⟩,
   ⟨0x1A62, 0x1A62, .nonspacingMark⟩, ⟨0x1A63, 0x1A64, .spacingMark⟩, ⟨0x1A65, 0x1A6C, .nonspacingMark⟩,
   ⟨0x1A6D, 0x1A72, .spacingMark⟩, ⟨0x1A73, 0x1A7C, .nonspacingMark⟩, ⟨0x1A7F, 0x1A7F, .nonspacingMark⟩,
   ⟨0x1A80, 0x1A89, .decimalNumber⟩, ⟨0x1A90, 0x1A99, .decimalNumber⟩, ⟨0x1AA0, 0x1AA6, .otherPunctuation⟩,
   ⟨0x1AA7, 0x1AA7, .modifierLetter⟩, ⟨0x1AA8, 0x1AAD, .otherPunctuation⟩, ⟨0x1AB0, 0x1ABD, .nonspacingMark⟩,
   ⟨0x1ABE, 0x1ABE, .enclosingMark⟩, ⟨0x1ABF, 0x1AF0, .nonspacingMark⟩, ⟨0x1B00, 0x1B03, .nonspacingMark⟩,
   ⟨0x1B04, 0x1B04, .spacingMark⟩, ⟨0x1B05, 0x1B33, .otherLetter⟩, ⟨0x1B34, 0x1B34, .nonspacingMark⟩,
   ⟨0x1B35, 0x1B35, .spacingMark⟩, ⟨0x1B36, 0x1B3A, .nonspacingMark⟩, ⟨0x1B3B, 0x1B3B, .spacingMark⟩,
   ⟨0x1B3C, 0x1B3C, .nonspacingMark⟩, ⟨0x1B3D, 0x1B41, .spacingMark⟩, ⟨0x1B42, 0x1B42, .nonspacingMark⟩,
   ⟨0x1B43, 0x1B44, .spacingMark⟩, ⟨0x1B45, 0x1B4C, .otherLetter⟩, ⟨0x1B4E, 0x1B4F, .otherPunctuation⟩,
   ⟨0x1B50, 0x1B59, .decimalNumber⟩, ⟨0x1B5A, 0x1B60, .otherPunctuation⟩, ⟨0x1B61, 0x1B6A, .otherSymbol⟩,
   ⟨0x1B6B, 0x1B73, .nonspacingMark⟩, ⟨0x1B74, 0x1B7C, .otherSymbol⟩, ⟨0x1B7D, 0x1B7F, .otherPunctuation⟩,
   ⟨0x1B80, 0x1B81, .nonspacingMark⟩, ⟨0x1B82, 0x1B82, .spacingMark⟩, ⟨0x1B83, 0x1BA0, .otherLetter⟩,
   ⟨0x1BA1, 0x1BA1, .spacingMark⟩, ⟨0x1BA2, 0x1BA5, .nonspacingMark⟩, ⟨0x1BA6, 0x1BA7, .spacingMark⟩,
   ⟨0x1BA8, 0x1BA9, .nonspacingMark⟩, ⟨0x1BAA, 0x1BAA, .spacingMark⟩, ⟨0x1BAB, 0x1BAD, .nonspacingMark⟩,
   ⟨0x1BAE, 0x1BAF, .otherLetter⟩, ⟨0x1BB0, 0x1BB9, .decimalNumber⟩, ⟨0x1BBA, 0x1BE5, .otherLetter⟩,
   ⟨0x1BE6, 0x1BE6, .nonspacingMark⟩, ⟨0x1BE7, 0x1BE7, .spacingMark⟩, ⟨0x1BE8, 0x1BE9, .nonspacingMark⟩,
   ⟨0x1BEA, 0x1BEC, .spacingMark⟩, ⟨0x1BED, 0x1BED, .nonspacingMark⟩, ⟨0x1BEE, 0x1BEE, .spacingMark⟩,
   ⟨0x1BEF, 0x1BF1, .nonspacingMark⟩, ⟨0x1BF2, 0x1BF3, .spacingMark⟩, ⟨0x1BFC, 0x1BFF, .otherPunctuation⟩,
   ⟨0x1C00, 0x1C23, .otherLetter⟩, ⟨0x1C24, 0x1C2B, .spacingMark⟩, ⟨0x1C2C, 0x1C33, .nonspacingMark⟩,
   ⟨0x1C34, 0x1C35, .spacingMark⟩, ⟨0x1C36, 0x1C37, .nonspacingMark⟩, ⟨0x1C3B, 0x1C3F, .otherPunctuation⟩,
   ⟨0x1C40, 0x1C49, .decimalNumber⟩, ⟨0x1C4D, 0x1C4F, .otherLetter⟩, ⟨0x1C50, 0x1C59, .decimalNumber⟩,
   ⟨0x1C5A, 0x1C77, .otherLetter⟩, ⟨0x1C78, 0x1C7D, .modifierLetter⟩, ⟨0x1C7E, 0x1C7F, .otherPunctuation⟩,
   ⟨0x1C80, 0x1C88, .lowercaseLetter⟩, ⟨0x1C89, 0x1C89, .uppercaseLetter⟩, ⟨0x1C8A, 0x1C8A, .lowercaseLetter⟩,
   ⟨0x1C90, 0x1CBA, .uppercaseLetter⟩, ⟨0x1CBD, 0x1CBF, .uppercaseLetter⟩, ⟨0x1CC0, 0x1CC7, .otherPunctuation⟩,
   ⟨0x1CD0, 0x1CD2, .nonspacingMark⟩, ⟨0x1CD3, 0x1CD3, .otherPunctuation⟩, ⟨0x1CD4, 0x1CE0, .nonspacingMark⟩,
   ⟨0x1CE1, 0x1CE1, .spacingMark⟩, ⟨0x1CE2, 0x1CE8, .nonspacingMark⟩, ⟨0x1CE9, 0x1CEC, .otherLetter⟩,
   ⟨0x1CED, 0x1CED, .nonspacingMark⟩, ⟨0x1CEE, 0x1CF3, .otherLetter⟩, ⟨0x1CF4, 0x1CF4, .nonspacingMark⟩,
   ⟨0x1CF5, 0x1CF6, .otherLetter⟩, ⟨0x1CF7, 0x1CF7, .spacingMark⟩, ⟨0x1CF8, 0x1CF9, .nonspacingMark⟩,
   ⟨0x1CFA, 0x1CFA, .otherLetter⟩, ⟨0x1D00, 0x1D2B, .lowercaseLetter⟩, ⟨0x1D2C, 0x1D6A, .modifierLetter⟩,
   ⟨0x1D6B, 0x1D77, .lowercaseLetter⟩, ⟨0x1D78, 0x1D78, .modifierLetter⟩, ⟨0x1D79, 0x1D9A, .lowercaseLetter⟩,
   ⟨0x1D9B, 0x1DBF, .modifierLetter⟩, ⟨0x1DC0, 0x1DFF, .nonspacingMark⟩, ⟨0x1E00, 0x1E00, .uppercaseLetter⟩,
   ⟨0x1E01, 0x1E01, .lowercaseLetter⟩, ⟨0x1E02, 0x1E02, .uppercaseLetter⟩, ⟨0x1E03, 0x1E03, .lowercaseLetter⟩,
   ⟨0x1E04, 0x1E04, .uppercaseLetter⟩, ⟨0x1E05, 0x1E05, .lowercaseLetter⟩, ⟨0x1E06, 0x1E06, .uppercaseLetter⟩,
   ⟨0x1E07, 0x1E07, .lowercaseLetter⟩, ⟨0x1E08, 0x1E08, .uppercaseLetter⟩, ⟨0x1E09, 0x1E09, .lowercaseLetter⟩,
   ⟨0x1E0A, 0x1E0A, .uppercaseLetter⟩, ⟨0x1E0B, 0x1E0B, .lowercaseLetter⟩, ⟨0x1E0C, 0x1E0C, .uppercaseLetter⟩,
   ⟨0x1E0D, 0x1E0D, .lowercaseLetter⟩, ⟨0x1E0E, 0x1E0E, .uppercaseLetter⟩, ⟨0x1E0F, 0x1E0F, .lowercaseLetter⟩,
   ⟨0x1E10, 0x1E10, .uppercaseLetter⟩, ⟨0x1E11, 0x1E11, .lowercaseLetter⟩, ⟨0x1E12, 0x1E12, .uppercaseLetter⟩,
   ⟨0x1E13, 0x1E13, .lowercaseLetter⟩, ⟨0x1E14, 0x1E14, .uppercaseLetter⟩, ⟨0x1E15, 0x1E15, .lowercaseLetter⟩,
   ⟨0x1E16, 0x1E16, .uppercaseLetter⟩, ⟨0x1E17, 0x1E17, .lowercaseLetter⟩]

def runs1E18 : List (Run GeneralCategory) :=
  [⟨0x1E18, 0x1E18, .uppercaseLetter⟩, ⟨0x1E19, 0x1E19, .lowercaseLetter⟩, ⟨0x1E1A, 0x1E1A, .uppercaseLetter⟩,
   ⟨0x1E1B, 0x1E1B, .lowercaseLetter⟩, ⟨0x1E1C, 0x1E1C, .uppercaseLetter⟩, ⟨0x1E1D, 0x1E1D, .lowercaseLetter⟩,
   ⟨0x1E1E, 0x1E1E, .uppercaseLetter⟩, ⟨0x1E1F, 0x1E1F, .lowercaseLetter⟩, ⟨0x1E20, 0x1E20, .uppercaseLetter⟩,
   ⟨0x1E21, 0x1E21, .lowercaseLetter⟩, ⟨0x1E22, 0x1E22, .uppercaseLetter⟩, ⟨0x1E23, 0x1E23, .lowercaseLetter⟩,
   ⟨0x1E24, 0x1E24, .uppercaseLetter⟩, ⟨0x1E25, 0x1E25, .lowercaseLetter⟩, ⟨0x1E26, 0x1E26, .uppercaseLetter⟩,
   ⟨0x1E27, 0x1E27, .lowercaseLetter⟩, ⟨0x1E28, 0x1E28, .uppercaseLetter⟩, ⟨0x1E29, 0x1E29, .lowercaseLetter⟩,
   ⟨0x1E2A, 0x1E2A, .uppercaseLetter⟩, ⟨0x1E2B, 0x1E2B, .lowercaseLetter⟩, ⟨0x1E2C, 0x1E2C, .uppercaseLetter⟩,
   ⟨0x1E2D, 0x1E2D, .lowercaseLetter⟩, ⟨0x1E2E, 0x1E2E, .uppercaseLetter⟩, ⟨0x1E2F, 0x1E2F, .lowercaseLetter⟩,
   ⟨0x1E30, 0x1E30, .uppercaseLetter⟩, ⟨0x1E31, 0x1E31, .lowercaseLetter⟩, ⟨0x1E32, 0x1E32, .uppercaseLetter⟩,
   ⟨0x1E33, 0x1E33, .lowercaseLetter⟩, ⟨0x1E34, 0x1E34, .uppercaseLetter⟩, ⟨0x1E35, 0x1E35, .lowercaseLetter⟩,
   ⟨0x1E36, 0x1E36, .uppercaseLetter⟩, ⟨0x1E37, 0x1E37, .lowercaseLetter⟩, ⟨0x1E38, 0x1E38, .uppercaseLetter⟩,
   ⟨0x1E39, 0x1E39, .lowercaseLetter⟩, ⟨0x1E3A, 0x1E3A, .uppercaseLetter⟩, ⟨0x1E3B, 0x1E3B, .lowercaseLetter⟩,
   ⟨0x1E3C, 0x1E3C, .uppercaseLetter⟩, ⟨0x1E3D, 0x1E3D, .lowercaseLetter⟩, ⟨0x1E3E, 0x1E3E, .uppercaseLetter⟩,
   ⟨0x1E3F, 0x1E3F, .lowercaseLetter⟩, ⟨0x1E40, 0x1E40, .uppercaseLetter⟩, ⟨0x1E41, 0x1E41, .lowercaseLetter⟩,
   ⟨0x1E42, 0x1E42, .uppercaseLetter⟩, ⟨0x1E43, 0x1E43, .lowercaseLetter⟩, ⟨0x1E44, 0x1E44, .uppercaseLetter⟩,
   ⟨0x1E45, 0x1E45, .lowercaseLetter⟩, ⟨0x1E46, 0x1E46, .uppercaseLetter⟩, ⟨0x1E47, 0x1E47, .lowercaseLetter⟩,
   ⟨0x1E48, 0x1E48, .uppercaseLetter⟩, ⟨0x1E49, 0x1E49, .lowercaseLetter⟩, ⟨0x1E4A, 0x1E4A, .uppercaseLetter⟩,
   ⟨0x1E4B, 0x1E4B, .lowercaseLetter⟩, ⟨0x1E4C, 0x1E4C, .uppercaseLetter⟩, ⟨0x1E4D, 0x1E4D, .lowercaseLetter⟩,
   ⟨0x1E4E, 0x1E4E, .uppercaseLetter⟩, ⟨0x1E4F, 0x1E4F, .lowercaseLetter⟩, ⟨0x1E50, 0x1E50, .uppercaseLetter⟩,
   ⟨0x1E51, 0x1E51, .lowercaseLetter⟩, ⟨0x1E52, 0x1E52, .uppercaseLetter⟩, ⟨0x1E53, 0x1E53, .lowercaseLetter⟩,
   ⟨0x1E54, 0x1E54, .uppercaseLetter⟩, ⟨0x1E55, 0x1E55, .lowercaseLetter⟩, ⟨0x1E56, 0x1E56, .uppercaseLetter⟩,
   ⟨0x1E57, 0x1E57, .lowercaseLetter⟩, ⟨0x1E58, 0x1E58, .uppercaseLetter⟩, ⟨0x1E59, 0x1E59, .lowercaseLetter⟩,
   ⟨0x1E5A, 0x1E5A, .uppercaseLetter⟩, ⟨0x1E5B, 0x1E5B, .lowercaseLetter⟩, ⟨0x1E5C, 0x1E5C, .uppercaseLetter⟩,
   ⟨0x1E5D, 0x1E5D, .lowercaseLetter⟩, ⟨0x1E5E, 0x1E5E, .uppercaseLetter⟩, ⟨0x1E5F, 0x1E5F, .lowercaseLetter⟩,
   ⟨0x1E60, 0x1E60, .uppercaseLetter⟩, ⟨0x1E61, 0x1E61, .lowercaseLetter⟩, ⟨0x1E62, 0x1E62, .uppercaseLetter⟩,
   ⟨0x1E63, 0x1E63, .lowercaseLetter⟩, ⟨0x1E64, 0x1E64, .uppercaseLetter⟩, ⟨0x1E65, 0x1E65, .lowercaseLetter⟩,
   ⟨0x1E66, 0x1E66, .uppercaseLetter⟩, ⟨0x1E67, 0x1E67, .lowercaseLetter⟩, ⟨0x1E68, 0x1E68, .uppercaseLetter⟩,
   ⟨0x1E69, 0x1E69, .lowercaseLetter⟩, ⟨0x1E6A, 0x1E6A, .uppercaseLetter⟩, ⟨0x1E6B, 0x1E6B, .lowercaseLetter⟩,
   ⟨0x1E6C, 0x1E6C, .uppercaseLetter⟩, ⟨0x1E6D, 0x1E6D, .lowercaseLetter⟩, ⟨0x1E6E, 0x1E6E, .uppercaseLetter⟩,
   ⟨0x1E6F, 0x1E6F, .lowercaseLetter⟩, ⟨0x1E70, 0x1E70, .uppercaseLetter⟩, ⟨0x1E71, 0x1E71, .lowercaseLetter⟩,
   ⟨0x1E72, 0x1E72, .uppercaseLetter⟩, ⟨0x1E73, 0x1E73, .lowercaseLetter⟩, ⟨0x1E74, 0x1E74, .uppercaseLetter⟩,
   ⟨0x1E75, 0x1E75, .lowercaseLetter⟩, ⟨0x1E76, 0x1E76, .uppercaseLetter⟩, ⟨0x1E77, 0x1E77, .lowercaseLetter⟩,
   ⟨0x1E78, 0x1E78, .uppercaseLetter⟩, ⟨0x1E79, 0x1E79, .lowercaseLetter⟩, ⟨0x1E7A, 0x1E7A, .uppercaseLetter⟩,
   ⟨0x1E7B, 0x1E7B, .lowercaseLetter⟩, ⟨0x1E7C, 0x1E7C, .uppercaseLetter⟩, ⟨0x1E7D, 0x1E7D, .lowercaseLetter⟩,
   ⟨0x1E7E, 0x1E7E, .uppercaseLetter⟩, ⟨0x1E7F, 0x1E7F, .lowercaseLetter⟩, ⟨0x1E80, 0x1E80, .uppercaseLetter⟩,
   ⟨0x1E81, 0x1E81, .lowercaseLetter⟩, ⟨0x1E82, 0x1E82, .uppercaseLetter⟩, ⟨0x1E83, 0x1E83, .lowercaseLetter⟩,
   ⟨0x1E84, 0x1E84, .uppercaseLetter⟩, ⟨0x1E85, 0x1E85, .lowercaseLetter⟩, ⟨0x1E86, 0x1E86, .uppercaseLetter⟩,
   ⟨0x1E87, 0x1E87, .lowercaseLetter⟩, ⟨0x1E88, 0x1E88, .uppercaseLetter⟩, ⟨0x1E89, 0x1E89, .lowercaseLetter⟩,
   ⟨0x1E8A, 0x1E8A, .uppercaseLetter⟩, ⟨0x1E8B, 0x1E8B, .lowercaseLetter⟩, ⟨0x1E8C, 0x1E8C, .uppercaseLetter⟩,
   ⟨0x1E8D, 0x1E8D, .lowercaseLetter⟩, ⟨0x1E8E, 0x1E8E, .uppercaseLetter⟩, ⟨0x1E8F, 0x1E8F, .lowercaseLetter⟩,
   ⟨0x1E90, 0x1E90, .uppercaseLetter⟩, ⟨0x1E91, 0x1E91, .lowercaseLetter⟩, ⟨0x1E92, 0x1E92, .uppercaseLetter⟩,
   ⟨0x1E93, 0x1E93, .lowercaseLetter⟩, ⟨0x1E94, 0x1E94, .uppercaseLetter⟩, ⟨0x1E95, 0x1E9D, .lowercaseLetter⟩,
   ⟨0x1E9E, 0x1E9E, .uppercaseLetter⟩, ⟨0x1E9F, 0x1E9F, .lowercaseLetter⟩]

def runs1EA0 : List (Run GeneralCategory) :=
  [⟨0x1EA0, 0x1EA0, .uppercaseLetter⟩, ⟨0x1EA1, 0x1EA1, .lowercaseLetter⟩, ⟨0x1EA2, 0x1EA2, .uppercaseLetter⟩,
   ⟨0x1EA3, 0x1EA3, .lowercaseLetter⟩, ⟨0x1EA4, 0x1EA4, .uppercaseLetter⟩, ⟨0x1EA5, 0x1EA5, .lowercaseLetter⟩,
   ⟨0x1EA6, 0x1EA6, .uppercaseLetter⟩, ⟨0x1EA7, 0x1EA7, .lowercaseLetter⟩, ⟨0x1EA8, 0x1EA8, .uppercaseLetter⟩,
   ⟨0x1EA9, 0x1EA9, .lowercaseLetter⟩, ⟨0x1EAA, 0x1EAA, .uppercaseLetter⟩, ⟨0x1EAB, 0x1EAB, .lowercaseLetter⟩,
   ⟨0x1EAC, 0x1EAC, .uppercaseLetter⟩, ⟨0x1EAD, 0x1EAD, .lowercaseLetter⟩, ⟨0x1EAE, 0x1EAE, .uppercaseLetter⟩,
   ⟨0x1EAF, 0x1EAF, .lowercaseLetter⟩, ⟨0x1EB0, 0x1EB0, .uppercaseLetter⟩, ⟨0x1EB1, 0x1EB1, .lowercaseLetter⟩,
   ⟨0x1EB2, 0x1EB2, .uppercaseLetter⟩, ⟨0x1EB3, 0x1EB3, .lowercaseLetter⟩, ⟨0x1EB4, 0x1EB4, .uppercaseLetter⟩,
   ⟨0x1EB5, 0x1EB5, .lowercaseLetter⟩, ⟨0x1EB6, 0x1EB6, .uppercaseLetter⟩, ⟨0x1EB7, 0x1EB7, .lowercaseLetter⟩,
   ⟨0x1EB8, 0x1EB8, .uppercaseLetter⟩, ⟨0x1EB9, 0x1EB9, .lowercaseLetter⟩, ⟨0x1EBA, 0x1EBA, .uppercaseLetter⟩,
   ⟨0x1EBB, 0x1EBB, .lowercaseLetter⟩, ⟨0x1EBC, 0x1EBC, .uppercaseLetter⟩, ⟨0x1EBD, 0x1EBD, .lowercaseLetter⟩,
   ⟨0x1EBE, 0x1EBE, .uppercaseLetter⟩, ⟨0x1EBF, 0x1EBF, .lowercaseLetter⟩, ⟨0x1EC0, 0x1EC0, .uppercaseLetter⟩,
   ⟨0x1EC1, 0x1EC1, .lowercaseLetter⟩, ⟨0x1EC2, 0x1EC2, .uppercaseLetter⟩, ⟨0x1EC3, 0x1EC3, .lowercaseLetter⟩,
   ⟨0x1EC4, 0x1EC4, .uppercaseLetter⟩, ⟨0x1EC5, 0x1EC5, .lowercaseLetter⟩, ⟨0x1EC6, 0x1EC6, .uppercaseLetter⟩,
   ⟨0x1EC7, 0x1EC7, .lowercaseLetter⟩, ⟨0x1EC8, 0x1EC8, .uppercaseLetter⟩, ⟨0x1EC9, 0x1EC9, .lowercaseLetter⟩,
   ⟨0x1ECA, 0x1ECA, .uppercaseLetter⟩, ⟨0x1ECB, 0x1ECB, .lowercaseLetter⟩, ⟨0x1ECC, 0x1ECC, .uppercaseLetter⟩,
   ⟨0x1ECD, 0x1ECD, .lowercaseLetter⟩, ⟨0x1ECE, 0x1ECE, .uppercaseLetter⟩, ⟨0x1ECF, 0x1ECF, .lowercaseLetter⟩,
   ⟨0x1ED0, 0x1ED0, .uppercaseLetter⟩, ⟨0x1ED1, 0x1ED1, .lowercaseLetter⟩, ⟨0x1ED2, 0x1ED2, .uppercaseLetter⟩,
   ⟨0x1ED3, 0x1ED3, .lowercaseLetter⟩, ⟨0x1ED4, 0x1ED4, .uppercaseLetter⟩, ⟨0x1ED5, 0x1ED5, .lowercaseLetter⟩,
   ⟨0x1ED6, 0x1ED6, .uppercaseLetter⟩, ⟨0x1ED7, 0x1ED7, .lowercaseLetter⟩, ⟨0x1ED8, 0x1ED8, .uppercaseLetter⟩,
   ⟨0x1ED9, 0x1ED9, .lowercaseLetter⟩, ⟨0x1EDA, 0x1EDA, .uppercaseLetter⟩, ⟨0x1EDB, 0x1EDB, .lowercaseLetter⟩,
   ⟨0x1EDC, 0x1EDC, .uppercaseLetter⟩, ⟨0x1EDD, 0x1EDD, .lowercaseLetter⟩, ⟨0x1EDE, 0x1EDE, .uppercaseLetter⟩,
   ⟨0x1EDF, 0x1EDF, .lowercaseLetter⟩, ⟨0x1EE0, 0x1EE0, .uppercaseLetter⟩, ⟨0x1EE1, 0x1EE1, .lowercaseLetter⟩,
   ⟨0x1EE2, 0x1EE2, .uppercaseLetter⟩, ⟨0x1EE3, 0x1EE3, .lowercaseLetter⟩, ⟨0x1EE4, 0x1EE4, .uppercaseLetter⟩,
   ⟨0x1EE5, 0x1EE5, .lowercaseLetter⟩, ⟨0x1EE6, 0x1EE6, .uppercaseLetter⟩, ⟨0x1EE7, 0x1EE7, .lowercaseLetter⟩,
   ⟨0x1EE8, 0x1EE8, .uppercaseLetter⟩, ⟨0x1EE9, 0x1EE9, .lowercaseLetter⟩, ⟨0x1EEA, 0x1EEA, .uppercaseLetter⟩,
   ⟨0x1EEB, 0x1EEB, .lowercaseLetter⟩, ⟨0x1EEC, 0x1EEC, .uppercaseLetter⟩, ⟨0x1EED, 0x1EED, .lowercaseLetter⟩,
   ⟨0x1EEE, 0x1EEE, .uppercaseLetter⟩, ⟨0x1EEF, 0x1EEF, .lowercaseLetter⟩, ⟨0x1EF0, 0x1EF0, .uppercaseLetter⟩,
   ⟨0x1EF1, 0x1EF1, .lowercaseLetter⟩, ⟨0x1EF2, 0x1EF2, .uppercaseLetter⟩, ⟨0x1EF3, 0x1EF3, .lowercaseLetter⟩,
   ⟨0x1EF4, 0x1EF4, .uppercaseLetter⟩, ⟨0x1EF5, 0x1EF5, .lowercaseLetter⟩, ⟨0x1EF6, 0x1EF6, .uppercaseLetter⟩,
   ⟨0x1EF7, 0x1EF7, .lowercaseLetter⟩, ⟨0x1EF8, 0x1EF8, .uppercaseLetter⟩, ⟨0x1EF9, 0x1EF9, .lowercaseLetter⟩,
   ⟨0x1EFA, 0x1EFA, .uppercaseLetter⟩, ⟨0x1EFB, 0x1EFB, .lowercaseLetter⟩, ⟨0x1EFC, 0x1EFC, .uppercaseLetter⟩,
   ⟨0x1EFD, 0x1EFD, .lowercaseLetter⟩, ⟨0x1EFE, 0x1EFE, .uppercaseLetter⟩, ⟨0x1EFF, 0x1F07, .lowercaseLetter⟩,
   ⟨0x1F08, 0x1F0F, .uppercaseLetter⟩, ⟨0x1F10, 0x1F15, .lowercaseLetter⟩, ⟨0x1F18, 0x1F1D, .uppercaseLetter⟩,
   ⟨0x1F20, 0x1F27, .lowercaseLetter⟩, ⟨0x1F28, 0x1F2F, .uppercaseLetter⟩, ⟨0x1F30, 0x1F37, .lowercaseLetter⟩,
   ⟨0x1F38, 0x1F3F, .uppercaseLetter⟩, ⟨0x1F40, 0x1F45, .lowercaseLetter⟩, ⟨0x1F48, 0x1F4D, .uppercaseLetter⟩,
   ⟨0x1F50, 0x1F57, .lowercaseLetter⟩, ⟨0x1F59, 0x1F59, .uppercaseLetter⟩, ⟨0x1F5B, 0x1F5B, .uppercaseLetter⟩,
   ⟨0x1F5D, 0x1F5D, .uppercaseLetter⟩, ⟨0x1F5F, 0x1F5F, .uppercaseLetter⟩, ⟨0x1F60, 0x1F67, .lowercaseLetter⟩,
   ⟨0x1F68, 0x1F6F, .uppercaseLetter⟩, ⟨0x1F70, 0x1F7D, .lowercaseLetter⟩, ⟨0x1F80, 0x1F87, .lowercaseLetter⟩,
   ⟨0x1F88, 0x1F8F, .titlecaseLetter⟩, ⟨0x1F90, 0x1F97, .lowercaseLetter⟩, ⟨0x1F98, 0x1F9F, .titlecaseLetter⟩,
   ⟨0x1FA0, 0x1FA7, .lowercaseLetter⟩, ⟨0x1FA8, 0x1FAF, .titlecaseLetter⟩, ⟨0x1FB0, 0x1FB4, .lowercaseLetter⟩,
   ⟨0x1FB6, 0x1FB7, .lowercaseLetter⟩, ⟨0x1FB8, 0x1FBB, .uppercaseLetter⟩, ⟨0x1FBC, 0x1FBC, .titlecaseLetter⟩,
   ⟨0x1FBD, 0x1FBD, .modifierSymbol⟩, ⟨0x1FBE, 0x1FBE, .lowercaseLetter⟩, ⟨0x1FBF, 0x1FC1, .modifierSymbol⟩,
   ⟨0x1FC2, 0x1FC4, .lowercaseLetter⟩, ⟨0x1FC6, 0x1FC7, .lowercaseLetter⟩]

def runs1FC8 : List (Run GeneralCategory) :=
  [⟨0x1FC8, 0x1FCB, .uppercaseLetter⟩, ⟨0x1FCC, 0x1FCC, .titlecaseLetter⟩, ⟨0x1FCD, 0x1FCF, .modifierSymbol⟩,
   ⟨0x1FD0, 0x1FD3, .lowercaseLetter⟩, ⟨0x1FD6, 0x1FD7, .lowercaseLetter⟩, ⟨0x1FD8, 0x1FDB, .uppercaseLetter⟩,
   ⟨0x1FDD, 0x1FDF, .modifierSymbol⟩, ⟨0x1FE0, 0x1FE7, .lowercaseLetter⟩, ⟨0x1FE8, 0x1FEC, .uppercaseLetter⟩,
   ⟨0x1FED, 0x1FEF, .modifierSymbol⟩, ⟨0x1FF2, 0x1FF4, .lowercaseLetter⟩, ⟨0x1FF6, 0x1FF7, .lowercaseLetter⟩,
   ⟨0x1FF8, 0x1FFB, .uppercaseLetter⟩, ⟨0x1FFC, 0x1FFC, .titlecaseLetter⟩, ⟨0x1FFD, 0x1FFE, .modifierSymbol⟩,
   ⟨0x2000, 0x200A, .spaceSeparator⟩, ⟨0x200B, 0x200F, .format⟩, ⟨0x2010, 0x2015, .dashPunctuation⟩,
   ⟨0x2016, 0x2017, .otherPunctuation⟩, ⟨0x2018, 0x2018, .initialPunctuation⟩, ⟨0x2019, 0x2019, .finalPunctuation⟩,
   ⟨0x201A, 0x201A, .openPunctuation⟩, ⟨0x201B, 0x201C, .initialPunctuation⟩, ⟨0x201D, 0x201D, .finalPunctuation⟩,
   ⟨0x201E, 0x201E, .openPunctuation⟩, ⟨0x201F, 0x201F, .initialPunctuation⟩, ⟨0x2020, 0x2027, .otherPunctuation⟩,
   ⟨0x2028, 0x2028, .lineSeparator⟩, ⟨0x2029, 0x2029, .paragraphSeparator⟩, ⟨0x202A, 0x202E, .format⟩,
   ⟨0x202F, 0x202F, .spaceSeparator⟩, ⟨0x2030, 0x2038, .otherPunctuation⟩, ⟨0x2039, 0x2039, .initialPunctuation⟩,
   ⟨0x203A, 0x203A, .finalPunctuation⟩, ⟨0x203B, 0x203E, .otherPunctuation⟩, ⟨0x203F, 0x2040, .connectorPunctuation⟩,
   ⟨0x2041, 0x2043, .otherPunctuation⟩, ⟨0x2044, 0x2044, .mathSymbol⟩, ⟨0x2045, 0x2045, .openPunctuation⟩,
   ⟨0x2046, 0x2046, .closePunctuation⟩, ⟨0x2047, 0x2051, .otherPunctuation⟩, ⟨0x2052, 0x2052, .mathSymbol⟩,
   ⟨0x2053, 0x2053, .otherPunctuation⟩, ⟨0x2054, 0x2054, .connectorPunctuation⟩, ⟨0x2055, 0x205E, .otherPunctuation⟩,
   ⟨0x205F, 0x205F, .spaceSeparator⟩, ⟨0x2060, 0x2064, .format⟩, ⟨0x2066, 0x206F, .format⟩,
   ⟨0x2070, 0x2070, .otherNumber⟩, ⟨0x2071, 0x2071, .modifierLetter⟩, ⟨0x2074, 0x2079, .otherNumber⟩,
   ⟨0x207A, 0x207C, .mathSymbol⟩, ⟨0x207D, 0x207D, .openPunctuation⟩, ⟨0x207E, 0x207E, .closePunctuation⟩,
   ⟨0x207F, 0x207F, .modifierLetter⟩, ⟨0x2080, 0x2089, .otherNumber⟩, ⟨0x208A, 0x208C, .mathSymbol⟩,
   ⟨0x208D, 0x208D, .openPunctuation⟩, ⟨0x208E, 0x208E, .closePunctuation⟩, ⟨0x208F, 0x209F, .modifierLetter⟩,
   ⟨0x20A0, 0x20C4, .currencySymbol⟩, ⟨0x20D0, 0x20DC, .nonspacingMark⟩, ⟨0x20DD, 0x20E0, .enclosingMark⟩,
   ⟨0x20E1, 0x20E1, .nonspacingMark⟩, ⟨0x20E2, 0x20E4, .enclosingMark⟩, ⟨0x20E5, 0x20F0, .nonspacingMark⟩,
   ⟨0x2100, 0x2101, .otherSymbol⟩, ⟨0x2102, 0x2102, .uppercaseLetter⟩, ⟨0x2103, 0x2106, .otherSymbol⟩,
   ⟨0x2107, 0x2107, .uppercaseLetter⟩, ⟨0x2108, 0x2109, .otherSymbol⟩, ⟨0x210A, 0x210A, .lowercaseLetter⟩,
   ⟨0x210B, 0x210D, .uppercaseLetter⟩, ⟨0x210E, 0x210F, .lowercaseLetter⟩, ⟨0x2110, 0x2112, .uppercaseLetter⟩,
   ⟨0x2113, 0x2113, .lowercaseLetter⟩, ⟨0x2114, 0x2114, .otherSymbol⟩, ⟨0x2115, 0x2115, .uppercaseLetter⟩,
   ⟨0x2116, 0x2117, .otherSymbol⟩, ⟨0x2118, 0x2118, .mathSymbol⟩, ⟨0x2119, 0x211D, .uppercaseLetter⟩,
   ⟨0x211E, 0x2123, .otherSymbol⟩, ⟨0x2124, 0x2124, .uppercaseLetter⟩, ⟨0x2125, 0x2125, .otherSymbol⟩,
   ⟨0x2126, 0x2126, .uppercaseLetter⟩, ⟨0x2127, 0x2127, .otherSymbol⟩, ⟨0x2128, 0x2128, .uppercaseLetter⟩,
   ⟨0x2129, 0x2129, .otherSymbol⟩, ⟨0x212A, 0x212D, .uppercaseLetter⟩, ⟨0x212E, 0x212E, .otherSymbol⟩,
   ⟨0x212F, 0x212F, .lowercaseLetter⟩, ⟨0x2130, 0x2133, .uppercaseLetter⟩, ⟨0x2134, 0x2134, .lowercaseLetter⟩,
   ⟨0x2135, 0x2138, .otherLetter⟩, ⟨0x2139, 0x2139, .lowercaseLetter⟩, ⟨0x213A, 0x213B, .otherSymbol⟩,
   ⟨0x213C, 0x213D, .lowercaseLetter⟩, ⟨0x213E, 0x213F, .uppercaseLetter⟩, ⟨0x2140, 0x2144, .mathSymbol⟩,
   ⟨0x2145, 0x2145, .uppercaseLetter⟩, ⟨0x2146, 0x2149, .lowercaseLetter⟩, ⟨0x214A, 0x214A, .otherSymbol⟩,
   ⟨0x214B, 0x214B, .mathSymbol⟩, ⟨0x214C, 0x214D, .otherSymbol⟩, ⟨0x214E, 0x214E, .lowercaseLetter⟩,
   ⟨0x214F, 0x214F, .otherSymbol⟩, ⟨0x2150, 0x215F, .otherNumber⟩, ⟨0x2160, 0x2182, .letterNumber⟩,
   ⟨0x2183, 0x2183, .uppercaseLetter⟩, ⟨0x2184, 0x2184, .lowercaseLetter⟩, ⟨0x2185, 0x2188, .letterNumber⟩,
   ⟨0x2189, 0x2189, .otherNumber⟩, ⟨0x218A, 0x218B, .otherSymbol⟩, ⟨0x2190, 0x2194, .mathSymbol⟩,
   ⟨0x2195, 0x2199, .otherSymbol⟩, ⟨0x219A, 0x219B, .mathSymbol⟩, ⟨0x219C, 0x219F, .otherSymbol⟩,
   ⟨0x21A0, 0x21A0, .mathSymbol⟩, ⟨0x21A1, 0x21A2, .otherSymbol⟩, ⟨0x21A3, 0x21A3, .mathSymbol⟩,
   ⟨0x21A4, 0x21A5, .otherSymbol⟩, ⟨0x21A6, 0x21A6, .mathSymbol⟩, ⟨0x21A7, 0x21AD, .otherSymbol⟩,
   ⟨0x21AE, 0x21AE, .mathSymbol⟩, ⟨0x21AF, 0x21CD, .otherSymbol⟩, ⟨0x21CE, 0x21CF, .mathSymbol⟩,
   ⟨0x21D0, 0x21D1, .otherSymbol⟩, ⟨0x21D2, 0x21D2, .mathSymbol⟩]

def runs21D3 : List (Run GeneralCategory) :=
  [⟨0x21D3, 0x21D3, .otherSymbol⟩, ⟨0x21D4, 0x21D4, .mathSymbol⟩, ⟨0x21D5, 0x21F3, .otherSymbol⟩,
   ⟨0x21F4, 0x22FF, .mathSymbol⟩, ⟨0x2300, 0x2307, .otherSymbol⟩, ⟨0x2308, 0x2308, .openPunctuation⟩,
   ⟨0x2309, 0x2309, .closePunctuation⟩, ⟨0x230A, 0x230A, .openPunctuation⟩, ⟨0x230B, 0x230B, .closePunctuation⟩,
   ⟨0x230C, 0x231F, .otherSymbol⟩, ⟨0x2320, 0x2321, .mathSymbol⟩, ⟨0x2322, 0x2328, .otherSymbol⟩,
   ⟨0x2329, 0x2329, .openPunctuation⟩, ⟨0x232A, 0x232A, .closePunctuation⟩, ⟨0x232B, 0x237B, .otherSymbol⟩,
   ⟨0x237C, 0x237C, .mathSymbol⟩, ⟨0x237D, 0x239A, .otherSymbol⟩, ⟨0x239B, 0x23B3, .mathSymbol⟩,
   ⟨0x23B4, 0x23DB, .otherSymbol⟩, ⟨0x23DC, 0x23E1, .mathSymbol⟩, ⟨0x23E2, 0x2429, .otherSymbol⟩,
   ⟨0x2440, 0x244A, .otherSymbol⟩, ⟨0x2460, 0x249B, .otherNumber⟩, ⟨0x249C, 0x24E9, .otherSymbol⟩,
   ⟨0x24EA, 0x24FF, .otherNumber⟩, ⟨0x2500, 0x25B6, .otherSymbol⟩, ⟨0x25B7, 0x25B7, .mathSymbol⟩,
   ⟨0x25B8, 0x25C0, .otherSymbol⟩, ⟨0x25C1, 0x25C1, .mathSymbol⟩, ⟨0x25C2, 0x25F7, .otherSymbol⟩,
   ⟨0x25F8, 0x25FF, .mathSymbol⟩, ⟨0x2600, 0x266E, .otherSymbol⟩, ⟨0x266F, 0x266F, .mathSymbol⟩,
   ⟨0x2670, 0x2767, .otherSymbol⟩, ⟨0x2768, 0x2768, .openPunctuation⟩, ⟨0x2769, 0x2769, .closePunctuation⟩,
   ⟨0x276A, 0x276A, .openPunctuation⟩, ⟨0x276B, 0x276B, .closePunctuation⟩, ⟨0x276C, 0x276C, .openPunctuation⟩,
   ⟨0x276D, 0x276D, .closePunctuation⟩, ⟨0x276E, 0x276E, .openPunctuation⟩, ⟨0x276F, 0x276F, .closePunctuation⟩,
   ⟨0x2770, 0x2770, .openPunctuation⟩, ⟨0x2771, 0x2771, .closePunctuation⟩, ⟨0x2772, 0x2772, .openPunctuation⟩,
   ⟨0x2773, 0x2773, .closePunctuation⟩, ⟨0x2774, 0x2774, .openPunctuation⟩, ⟨0x2775, 0x2775, .closePunctuation⟩,
   ⟨0x2776, 0x2793, .otherNumber⟩, ⟨0x2794, 0x27BF, .otherSymbol⟩, ⟨0x27C0, 0x27C4, .mathSymbol⟩,
   ⟨0x27C5, 0x27C5, .openPunctuation⟩, ⟨0x27C6, 0x27C6, .closePunctuation⟩, ⟨0x27C7, 0x27E5, .mathSymbol⟩,
   ⟨0x27E6, 0x27E6, .openPunctuation⟩, ⟨0x27E7, 0x27E7, .closePunctuation⟩, ⟨0x27E8, 0x27E8, .openPunctuation⟩,
   ⟨0x27E9, 0x27E9, .closePunctuation⟩, ⟨0x27EA, 0x27EA, .openPunctuation⟩, ⟨0x27EB, 0x27EB, .closePunctuation⟩,
   ⟨0x27EC, 0x27EC, .openPunctuation⟩, ⟨0x27ED, 0x27ED, .closePunctuation⟩, ⟨0x27EE, 0x27EE, .openPunctuation⟩,
   ⟨0x27EF, 0x27EF, .closePunctuation⟩, ⟨0x27F0, 0x27FF, .mathSymbol⟩, ⟨0x2800, 0x28FF, .otherSymbol⟩,
   ⟨0x2900, 0x2982, .mathSymbol⟩, ⟨0x2983, 0x2983, .openPunctuation⟩, ⟨0x2984, 0x2984, .closePunctuation⟩,
   ⟨0x2985, 0x2985, .openPunctuation⟩, ⟨0x2986, 0x2986, .closePunctuation⟩, ⟨0x2987, 0x2987, .openPunctuation⟩,
   ⟨0x2988, 0x2988, .closePunctuation⟩, ⟨0x2989, 0x2989, .openPunctuation⟩, ⟨0x298A, 0x298A, .closePunctuation⟩,
   ⟨0x298B, 0x298B, .openPunctuation⟩, ⟨0x298C, 0x298C, .closePunctuation⟩, ⟨0x298D, 0x298D, .openPunctuation⟩,
   ⟨0x298E, 0x298E, .closePunctuation⟩, ⟨0x298F, 0x298F, .openPunctuation⟩, ⟨0x2990, 0x2990, .closePunctuation⟩,
   ⟨0x2991, 0x2991, .openPunctuation⟩, ⟨0x2992, 0x2992, .closePunctuation⟩, ⟨0x2993, 0x2993, .openPunctuation⟩,
   ⟨0x2994, 0x2994, .closePunctuation⟩, ⟨0x2995, 0x2995, .openPunctuation⟩, ⟨0x2996, 0x2996, .closePunctuation⟩,
   ⟨0x2997, 0x2997, .openPunctuation⟩, ⟨0x2998, 0x2998, .closePunctuation⟩, ⟨0x2999, 0x29D7, .mathSymbol⟩,
   ⟨0x29D8, 0x29D8, .openPunctuation⟩, ⟨0x29D9, 0x29D9, .closePunctuation⟩, ⟨0x29DA, 0x29DA, .openPunctuation⟩,
   ⟨0x29DB, 0x29DB, .closePunctuation⟩, ⟨0x29DC, 0x29FB, .mathSymbol⟩, ⟨0x29FC, 0x29FC, .openPunctuation⟩,
   ⟨0x29FD, 0x29FD, .closePunctuation⟩, ⟨0x29FE, 0x2AFF, .mathSymbol⟩, ⟨0x2B00, 0x2B2F, .otherSymbol⟩,
   ⟨0x2B30, 0x2B44, .mathSymbol⟩, ⟨0x2B45, 0x2B46, .otherSymbol⟩, ⟨0x2B47, 0x2B4C, .mathSymbol⟩,
   ⟨0x2B4D, 0x2B73, .otherSymbol⟩, ⟨0x2B76, 0x2BFF, .otherSymbol⟩, ⟨0x2C00, 0x2C2F, .uppercaseLetter⟩,
   ⟨0x2C30, 0x2C5F, .lowercaseLetter⟩, ⟨0x2C60, 0x2C60, .uppercaseLetter⟩, ⟨0x2C61, 0x2C61, .lowercaseLetter⟩,
   ⟨0x2C62, 0x2C64, .uppercaseLetter⟩, ⟨0x2C65, 0x2C66, .lowercaseLetter⟩, ⟨0x2C67, 0x2C67, .uppercaseLetter⟩,
   ⟨0x2C68, 0x2C68, .lowercaseLetter⟩, ⟨0x2C69, 0x2C69, .uppercaseLetter⟩, ⟨0x2C6A, 0x2C6A, .lowercaseLetter⟩,
   ⟨0x2C6B, 0x2C6B, .uppercaseLetter⟩, ⟨0x2C6C, 0x2C6C, .lowercaseLetter⟩, ⟨0x2C6D, 0x2C70, .uppercaseLetter⟩,
   ⟨0x2C71, 0x2C71, .lowercaseLetter⟩, ⟨0x2C72, 0x2C72, .uppercaseLetter⟩, ⟨0x2C73, 0x2C74, .lowercaseLetter⟩,
   ⟨0x2C75, 0x2C75, .uppercaseLetter⟩, ⟨0x2C76, 0x2C7B, .lowercaseLetter⟩, ⟨0x2C7C, 0x2C7D, .modifierLetter⟩,
   ⟨0x2C7E, 0x2C80, .uppercaseLetter⟩, ⟨0x2C81, 0x2C81, .lowercaseLetter⟩, ⟨0x2C82, 0x2C82, .uppercaseLetter⟩,
   ⟨0x2C83, 0x2C83, .lowercaseLetter⟩, ⟨0x2C84, 0x2C84, .uppercaseLetter⟩]

def runs2C85 : List (Run GeneralCategory) :=
  [⟨0x2C85, 0x2C85, .lowercaseLetter⟩, ⟨0x2C86, 0x2C86, .uppercaseLetter⟩, ⟨0x2C87, 0x2C87, .lowercaseLetter⟩,
   ⟨0x2C88, 0x2C88, .uppercaseLetter⟩, ⟨0x2C89, 0x2C89, .lowercaseLetter⟩, ⟨0x2C8A, 0x2C8A, .uppercaseLetter⟩,
   ⟨0x2C8B, 0x2C8B, .lowercaseLetter⟩, ⟨0x2C8C, 0x2C8C, .uppercaseLetter⟩, ⟨0x2C8D, 0x2C8D, .lowercaseLetter⟩,
   ⟨0x2C8E, 0x2C8E, .uppercaseLetter⟩, ⟨0x2C8F, 0x2C8F, .lowercaseLetter⟩, ⟨0x2C90, 0x2C90, .uppercaseLetter⟩,
   ⟨0x2C91, 0x2C91, .lowercaseLetter⟩, ⟨0x2C92, 0x2C92, .uppercaseLetter⟩, ⟨0x2C93, 0x2C93, .lowercaseLetter⟩,
   ⟨0x2C94, 0x2C94, .uppercaseLetter⟩, ⟨0x2C95, 0x2C95, .lowercaseLetter⟩, ⟨0x2C96, 0x2C96, .uppercaseLetter⟩,
   ⟨0x2C97, 0x2C97, .lowercaseLetter⟩, ⟨0x2C98, 0x2C98, .uppercaseLetter⟩, ⟨0x2C99, 0x2C99, .lowercaseLetter⟩,
   ⟨0x2C9A, 0x2C9A, .uppercaseLetter⟩, ⟨0x2C9B, 0x2C9B, .lowercaseLetter⟩, ⟨0x2C9C, 0x2C9C, .uppercaseLetter⟩,
   ⟨0x2C9D, 0x2C9D, .lowercaseLetter⟩, ⟨0x2C9E, 0x2C9E, .uppercaseLetter⟩, ⟨0x2C9F, 0x2C9F, .lowercaseLetter⟩,
   ⟨0x2CA0, 0x2CA0, .uppercaseLetter⟩, ⟨0x2CA1, 0x2CA1, .lowercaseLetter⟩, ⟨0x2CA2, 0x2CA2, .uppercaseLetter⟩,
   ⟨0x2CA3, 0x2CA3, .lowercaseLetter⟩, ⟨0x2CA4, 0x2CA4, .uppercaseLetter⟩, ⟨0x2CA5, 0x2CA5, .lowercaseLetter⟩,
   ⟨0x2CA6, 0x2CA6, .uppercaseLetter⟩, ⟨0x2CA7, 0x2CA7, .lowercaseLetter⟩, ⟨0x2CA8, 0x2CA8, .uppercaseLetter⟩,
   ⟨0x2CA9, 0x2CA9, .lowercaseLetter⟩, ⟨0x2CAA, 0x2CAA, .uppercaseLetter⟩, ⟨0x2CAB, 0x2CAB, .lowercaseLetter⟩,
   ⟨0x2CAC, 0x2CAC, .uppercaseLetter⟩, ⟨0x2CAD, 0x2CAD, .lowercaseLetter⟩, ⟨0x2CAE, 0x2CAE, .uppercaseLetter⟩,
   ⟨0x2CAF, 0x2CAF, .lowercaseLetter⟩, ⟨0x2CB0, 0x2CB0, .uppercaseLetter⟩, ⟨0x2CB1, 0x2CB1, .lowercaseLetter⟩,
   ⟨0x2CB2, 0x2CB2, .uppercaseLetter⟩, ⟨0x2CB3, 0x2CB3, .lowercaseLetter⟩, ⟨0x2CB4, 0x2CB4, .uppercaseLetter⟩,
   ⟨0x2CB5, 0x2CB5, .lowercaseLetter⟩, ⟨0x2CB6, 0x2CB6, .uppercaseLetter⟩, ⟨0x2CB7, 0x2CB7, .lowercaseLetter⟩,
   ⟨0x2CB8, 0x2CB8, .uppercaseLetter⟩, ⟨0x2CB9, 0x2CB9, .lowercaseLetter⟩, ⟨0x2CBA, 0x2CBA, .uppercaseLetter⟩,
   ⟨0x2CBB, 0x2CBB, .lowercaseLetter⟩, ⟨0x2CBC, 0x2CBC, .uppercaseLetter⟩, ⟨0x2CBD, 0x2CBD, .lowercaseLetter⟩,
   ⟨0x2CBE, 0x2CBE, .uppercaseLetter⟩, ⟨0x2CBF, 0x2CBF, .lowercaseLetter⟩, ⟨0x2CC0, 0x2CC0, .uppercaseLetter⟩,
   ⟨0x2CC1, 0x2CC1, .lowercaseLetter⟩, ⟨0x2CC2, 0x2CC2, .uppercaseLetter⟩, ⟨0x2CC3, 0x2CC3, .lowercaseLetter⟩,
   ⟨0x2CC4, 0x2CC4, .uppercaseLetter⟩, ⟨0x2CC5, 0x2CC5, .lowercaseLetter⟩, ⟨0x2CC6, 0x2CC6, .uppercaseLetter⟩,
   ⟨0x2CC7, 0x2CC7, .lowercaseLetter⟩, ⟨0x2CC8, 0x2CC8, .uppercaseLetter⟩, ⟨0x2CC9, 0x2CC9, .lowercaseLetter⟩,
   ⟨0x2CCA, 0x2CCA, .uppercaseLetter⟩, ⟨0x2CCB, 0x2CCB, .lowercaseLetter⟩, ⟨0x2CCC, 0x2CCC, .uppercaseLetter⟩,
   ⟨0x2CCD, 0x2CCD, .lowercaseLetter⟩, ⟨0x2CCE, 0x2CCE, .uppercaseLetter⟩, ⟨0x2CCF, 0x2CCF, .lowercaseLetter⟩,
   ⟨0x2CD0, 0x2CD0, .uppercaseLetter⟩, ⟨0x2CD1, 0x2CD1, .lowercaseLetter⟩, ⟨0x2CD2, 0x2CD2, .uppercaseLetter⟩,
   ⟨0x2CD3, 0x2CD3, .lowercaseLetter⟩, ⟨0x2CD4, 0x2CD4, .uppercaseLetter⟩, ⟨0x2CD5, 0x2CD5, .lowercaseLetter⟩,
   ⟨0x2CD6, 0x2CD6, .uppercaseLetter⟩, ⟨0x2CD7, 0x2CD7, .lowercaseLetter⟩, ⟨0x2CD8, 0x2CD8, .uppercaseLetter⟩,
   ⟨0x2CD9, 0x2CD9, .lowercaseLetter⟩, ⟨0x2CDA, 0x2CDA, .uppercaseLetter⟩, ⟨0x2CDB, 0x2CDB, .lowercaseLetter⟩,
   ⟨0x2CDC, 0x2CDC, .uppercaseLetter⟩, ⟨0x2CDD, 0x2CDD, .lowercaseLetter⟩, ⟨0x2CDE, 0x2CDE, .uppercaseLetter⟩,
   ⟨0x2CDF, 0x2CDF, .lowercaseLetter⟩, ⟨0x2CE0, 0x2CE0, .uppercaseLetter⟩, ⟨0x2CE1, 0x2CE1, .lowercaseLetter⟩,
   ⟨0x2CE2, 0x2CE2, .uppercaseLetter⟩, ⟨0x2CE3, 0x2CE4, .lowercaseLetter⟩, ⟨0x2CE5, 0x2CEA, .otherSymbol⟩,
   ⟨0x2CEB, 0x2CEB, .uppercaseLetter⟩, ⟨0x2CEC, 0x2CEC, .lowercaseLetter⟩, ⟨0x2CED, 0x2CED, .uppercaseLetter⟩,
   ⟨0x2CEE, 0x2CEE, .lowercaseLetter⟩, ⟨0x2CEF, 0x2CF1, .nonspacingMark⟩, ⟨0x2CF2, 0x2CF2, .uppercaseLetter⟩,
   ⟨0x2CF3, 0x2CF3, .lowercaseLetter⟩, ⟨0x2CF9, 0x2CFC, .otherPunctuation⟩, ⟨0x2CFD, 0x2CFD, .otherNumber⟩,
   ⟨0x2CFE, 0x2CFF, .otherPunctuation⟩, ⟨0x2D00, 0x2D25, .lowercaseLetter⟩, ⟨0x2D27, 0x2D27, .lowercaseLetter⟩,
   ⟨0x2D2D, 0x2D2D, .lowercaseLetter⟩, ⟨0x2D30, 0x2D67, .otherLetter⟩, ⟨0x2D6F, 0x2D6F, .modifierLetter⟩,
   ⟨0x2D70, 0x2D70, .otherPunctuation⟩, ⟨0x2D7F, 0x2D7F, .nonspacingMark⟩, ⟨0x2D80, 0x2D96, .otherLetter⟩,
   ⟨0x2DA0, 0x2DA6, .otherLetter⟩, ⟨0x2DA8, 0x2DAE, .otherLetter⟩, ⟨0x2DB0, 0x2DB6, .otherLetter⟩,
   ⟨0x2DB8, 0x2DBE, .otherLetter⟩, ⟨0x2DC0, 0x2DC6, .otherLetter⟩, ⟨0x2DC8, 0x2DCE, .otherLetter⟩,
   ⟨0x2DD0, 0x2DD6, .otherLetter⟩, ⟨0x2DD8, 0x2DDE, .otherLetter⟩, ⟨0x2DE0, 0x2DFF, .nonspacingMark⟩,
   ⟨0x2E00, 0x2E01, .otherPunctuation⟩, ⟨0x2E02, 0x2E02, .initialPunctuation⟩, ⟨0x2E03, 0x2E03, .finalPunctuation⟩,
   ⟨0x2E04, 0x2E04, .initialPunctuation⟩, ⟨0x2E05, 0x2E05, .finalPunctuation⟩]

def runs2E06 : List (Run GeneralCategory) :=
  [⟨0x2E06, 0x2E08, .otherPunctuation⟩, ⟨0x2E09, 0x2E09, .initialPunctuation⟩, ⟨0x2E0A, 0x2E0A, .finalPunctuation⟩,
   ⟨0x2E0B, 0x2E0B, .otherPunctuation⟩, ⟨0x2E0C, 0x2E0C, .initialPunctuation⟩, ⟨0x2E0D, 0x2E0D, .finalPunctuation⟩,
   ⟨0x2E0E, 0x2E16, .otherPunctuation⟩, ⟨0x2E17, 0x2E17, .dashPunctuation⟩, ⟨0x2E18, 0x2E19, .otherPunctuation⟩,
   ⟨0x2E1A, 0x2E1A, .dashPunctuation⟩, ⟨0x2E1B, 0x2E1B, .otherPunctuation⟩, ⟨0x2E1C, 0x2E1C, .initialPunctuation⟩,
   ⟨0x2E1D, 0x2E1D, .finalPunctuation⟩, ⟨0x2E1E, 0x2E1F, .otherPunctuation⟩, ⟨0x2E20, 0x2E20, .initialPunctuation⟩,
   ⟨0x2E21, 0x2E21, .finalPunctuation⟩, ⟨0x2E22, 0x2E22, .openPunctuation⟩, ⟨0x2E23, 0x2E23, .closePunctuation⟩,
   ⟨0x2E24, 0x2E24, .openPunctuation⟩, ⟨0x2E25, 0x2E25, .closePunctuation⟩, ⟨0x2E26, 0x2E26, .openPunctuation⟩,
   ⟨0x2E27, 0x2E27, .closePunctuation⟩, ⟨0x2E28, 0x2E28, .openPunctuation⟩, ⟨0x2E29, 0x2E29, .closePunctuation⟩,
   ⟨0x2E2A, 0x2E2E, .otherPunctuation⟩, ⟨0x2E2F, 0x2E2F, .modifierLetter⟩, ⟨0x2E30, 0x2E39, .otherPunctuation⟩,
   ⟨0x2E3A, 0x2E3B, .dashPunctuation⟩, ⟨0x2E3C, 0x2E3F, .otherPunctuation⟩, ⟨0x2E40, 0x2E40, .dashPunctuation⟩,
   ⟨0x2E41, 0x2E41, .otherPunctuation⟩, ⟨0x2E42, 0x2E42, .openPunctuation⟩, ⟨0x2E43, 0x2E4F, .otherPunctuation⟩,
   ⟨0x2E50, 0x2E51, .otherSymbol⟩, ⟨0x2E52, 0x2E54, .otherPunctuation⟩, ⟨0x2E55, 0x2E55, .openPunctuation⟩,
   ⟨0x2E56, 0x2E56, .closePunctuation⟩, ⟨0x2E57, 0x2E57, .openPunctuation⟩, ⟨0x2E58, 0x2E58, .closePunctuation⟩,
   ⟨0x2E59, 0x2E59, .openPunctuation⟩, ⟨0x2E5A, 0x2E5A, .closePunctuation⟩, ⟨0x2E5B, 0x2E5B, .openPunctuation⟩,
   ⟨0x2E5C, 0x2E5C, .closePunctuation⟩, ⟨0x2E5D, 0x2E5D, .dashPunctuation⟩, ⟨0x2E60, 0x2E61, .otherPunctuation⟩,
   ⟨0x2E62, 0x2E62, .openPunctuation⟩, ⟨0x2E63, 0x2E63, .closePunctuation⟩, ⟨0x2E80, 0x2E99, .otherSymbol⟩,
   ⟨0x2E9B, 0x2EF3, .otherSymbol⟩, ⟨0x2F00, 0x2FD5, .otherSymbol⟩, ⟨0x2FF0, 0x2FFF, .otherSymbol⟩,
   ⟨0x3000, 0x3000, .spaceSeparator⟩, ⟨0x3001, 0x3003, .otherPunctuation⟩, ⟨0x3004, 0x3004, .otherSymbol⟩,
   ⟨0x3005, 0x3005, .modifierLetter⟩, ⟨0x3006, 0x3006, .otherLetter⟩, ⟨0x3007, 0x3007, .letterNumber⟩,
   ⟨0x3008, 0x3008, .openPunctuation⟩, ⟨0x3009, 0x3009, .closePunctuation⟩, ⟨0x300A, 0x300A, .openPunctuation⟩,
   ⟨0x300B, 0x300B, .closePunctuation⟩, ⟨0x300C, 0x300C, .openPunctuation⟩, ⟨0x300D, 0x300D, .closePunctuation⟩,
   ⟨0x300E, 0x300E, .openPunctuation⟩, ⟨0x300F, 0x300F, .closePunctuation⟩, ⟨0x3010, 0x3010, .openPunctuation⟩,
   ⟨0x3011, 0x3011, .closePunctuation⟩, ⟨0x3012, 0x3013, .otherSymbol⟩, ⟨0x3014, 0x3014, .openPunctuation⟩,
   ⟨0x3015, 0x3015, .closePunctuation⟩, ⟨0x3016, 0x3016, .openPunctuation⟩, ⟨0x3017, 0x3017, .closePunctuation⟩,
   ⟨0x3018, 0x3018, .openPunctuation⟩, ⟨0x3019, 0x3019, .closePunctuation⟩, ⟨0x301A, 0x301A, .openPunctuation⟩,
   ⟨0x301B, 0x301B, .closePunctuation⟩, ⟨0x301C, 0x301C, .dashPunctuation⟩, ⟨0x301D, 0x301D, .openPunctuation⟩,
   ⟨0x301E, 0x301F, .closePunctuation⟩, ⟨0x3020, 0x3020, .otherSymbol⟩, ⟨0x3021, 0x3029, .letterNumber⟩,
   ⟨0x302A, 0x302D, .nonspacingMark⟩, ⟨0x302E, 0x302F, .spacingMark⟩, ⟨0x3030, 0x3030, .dashPunctuation⟩,
   ⟨0x3031, 0x3035, .modifierLetter⟩, ⟨0x3036, 0x3037, .otherSymbol⟩, ⟨0x3038, 0x303A, .letterNumber⟩,
   ⟨0x303B, 0x303B, .modifierLetter⟩, ⟨0x303C, 0x303C, .otherLetter⟩, ⟨0x303D, 0x303D, .otherPunctuation⟩,
   ⟨0x303E, 0x303F, .otherSymbol⟩, ⟨0x3041, 0x3096, .otherLetter⟩, ⟨0x3099, 0x309A, .nonspacingMark⟩,
   ⟨0x309B, 0x309C, .modifierSymbol⟩, ⟨0x309D, 0x309E, .modifierLetter⟩, ⟨0x309F, 0x309F, .otherLetter⟩,
   ⟨0x30A0, 0x30A0, .dashPunctuation⟩, ⟨0x30A1, 0x30FA, .otherLetter⟩, ⟨0x30FB, 0x30FB, .otherPunctuation⟩,
   ⟨0x30FC, 0x30FE, .modifierLetter⟩, ⟨0x30FF, 0x30FF, .otherLetter⟩, ⟨0x3105, 0x312F, .otherLetter⟩,
   ⟨0x3131, 0x318E, .otherLetter⟩, ⟨0x3190, 0x3191, .otherSymbol⟩, ⟨0x3192, 0x3195, .otherNumber⟩,
   ⟨0x3196, 0x319F, .otherSymbol⟩, ⟨0x31A0, 0x31BF, .otherLetter⟩, ⟨0x31C0, 0x31E5, .otherSymbol⟩,
   ⟨0x31EF, 0x31EF, .otherSymbol⟩, ⟨0x31F0, 0x31FF, .otherLetter⟩, ⟨0x3200, 0x321E, .otherSymbol⟩,
   ⟨0x3220, 0x3229, .otherNumber⟩, ⟨0x322A, 0x3247, .otherSymbol⟩, ⟨0x3248, 0x324F, .otherNumber⟩,
   ⟨0x3250, 0x3250, .otherSymbol⟩, ⟨0x3251, 0x325F, .otherNumber⟩, ⟨0x3260, 0x327F, .otherSymbol⟩,
   ⟨0x3280, 0x3289, .otherNumber⟩, ⟨0x328A, 0x32B0, .otherSymbol⟩, ⟨0x32B1, 0x32BF, .otherNumber⟩,
   ⟨0x32C0, 0x33FF, .otherSymbol⟩, ⟨0x3400, 0x4DBF, .otherLetter⟩, ⟨0x4DC0, 0x4DFF, .otherSymbol⟩,
   ⟨0x4E00, 0xA014, .otherLetter⟩, ⟨0xA015, 0xA015, .modifierLetter⟩, ⟨0xA016, 0xA48C, .otherLetter⟩,
   ⟨0xA490, 0xA4C6, .otherSymbol⟩, ⟨0xA4D0, 0xA4F7, .otherLetter⟩]

def runsA4F8 : List (Run GeneralCategory) :=
  [⟨0xA4F8, 0xA4FD, .modifierLetter⟩, ⟨0xA4FE, 0xA4FF, .otherPunctuation⟩, ⟨0xA500, 0xA60B, .otherLetter⟩,
   ⟨0xA60C, 0xA60C, .modifierLetter⟩, ⟨0xA60D, 0xA60F, .otherPunctuation⟩, ⟨0xA610, 0xA61F, .otherLetter⟩,
   ⟨0xA620, 0xA629, .decimalNumber⟩, ⟨0xA62A, 0xA62B, .otherLetter⟩, ⟨0xA640, 0xA640, .uppercaseLetter⟩,
   ⟨0xA641, 0xA641, .lowercaseLetter⟩, ⟨0xA642, 0xA642, .uppercaseLetter⟩, ⟨0xA643, 0xA643, .lowercaseLetter⟩,
   ⟨0xA644, 0xA644, .uppercaseLetter⟩, ⟨0xA645, 0xA645, .lowercaseLetter⟩, ⟨0xA646, 0xA646, .uppercaseLetter⟩,
   ⟨0xA647, 0xA647, .lowercaseLetter⟩, ⟨0xA648, 0xA648, .uppercaseLetter⟩, ⟨0xA649, 0xA649, .lowercaseLetter⟩,
   ⟨0xA64A, 0xA64A, .uppercaseLetter⟩, ⟨0xA64B, 0xA64B, .lowercaseLetter⟩, ⟨0xA64C, 0xA64C, .uppercaseLetter⟩,
   ⟨0xA64D, 0xA64D, .lowercaseLetter⟩, ⟨0xA64E, 0xA64E, .uppercaseLetter⟩, ⟨0xA64F, 0xA64F, .lowercaseLetter⟩,
   ⟨0xA650, 0xA650, .uppercaseLetter⟩, ⟨0xA651, 0xA651, .lowercaseLetter⟩, ⟨0xA652, 0xA652, .uppercaseLetter⟩,
   ⟨0xA653, 0xA653, .lowercaseLetter⟩, ⟨0xA654, 0xA654, .uppercaseLetter⟩, ⟨0xA655, 0xA655, .lowercaseLetter⟩,
   ⟨0xA656, 0xA656, .uppercaseLetter⟩, ⟨0xA657, 0xA657, .lowercaseLetter⟩, ⟨0xA658, 0xA658, .uppercaseLetter⟩,
   ⟨0xA659, 0xA659, .lowercaseLetter⟩, ⟨0xA65A, 0xA65A, .uppercaseLetter⟩, ⟨0xA65B, 0xA65B, .lowercaseLetter⟩,
   ⟨0xA65C, 0xA65C, .uppercaseLetter⟩, ⟨0xA65D, 0xA65D, .lowercaseLetter⟩, ⟨0xA65E, 0xA65E, .uppercaseLetter⟩,
   ⟨0xA65F, 0xA65F, .lowercaseLetter⟩, ⟨0xA660, 0xA660, .uppercaseLetter⟩, ⟨0xA661, 0xA661, .lowercaseLetter⟩,
   ⟨0xA662, 0xA662, .uppercaseLetter⟩, ⟨0xA663, 0xA663, .lowercaseLetter⟩, ⟨0xA664, 0xA664, .uppercaseLetter⟩,
   ⟨0xA665, 0xA665, .lowercaseLetter⟩, ⟨0xA666, 0xA666, .uppercaseLetter⟩, ⟨0xA667, 0xA667, .lowercaseLetter⟩,
   ⟨0xA668, 0xA668, .uppercaseLetter⟩, ⟨0xA669, 0xA669, .lowercaseLetter⟩, ⟨0xA66A, 0xA66A, .uppercaseLetter⟩,
   ⟨0xA66B, 0xA66B, .lowercaseLetter⟩, ⟨0xA66C, 0xA66C, .uppercaseLetter⟩, ⟨0xA66D, 0xA66D, .lowercaseLetter⟩,
   ⟨0xA66E, 0xA66E, .otherLetter⟩, ⟨0xA66F, 0xA66F, .nonspacingMark⟩, ⟨0xA670, 0xA672, .enclosingMark⟩,
   ⟨0xA673, 0xA673, .otherPunctuation⟩, ⟨0xA674, 0xA67D, .nonspacingMark⟩, ⟨0xA67E, 0xA67E, .otherPunctuation⟩,
   ⟨0xA67F, 0xA67F, .modifierLetter⟩, ⟨0xA680, 0xA680, .uppercaseLetter⟩, ⟨0xA681, 0xA681, .lowercaseLetter⟩,
   ⟨0xA682, 0xA682, .uppercaseLetter⟩, ⟨0xA683, 0xA683, .lowercaseLetter⟩, ⟨0xA684, 0xA684, .uppercaseLetter⟩,
   ⟨0xA685, 0xA685, .lowercaseLetter⟩, ⟨0xA686, 0xA686, .uppercaseLetter⟩, ⟨0xA687, 0xA687, .lowercaseLetter⟩,
   ⟨0xA688, 0xA688, .uppercaseLetter⟩, ⟨0xA689, 0xA689, .lowercaseLetter⟩, ⟨0xA68A, 0xA68A, .uppercaseLetter⟩,
   ⟨0xA68B, 0xA68B, .lowercaseLetter⟩, ⟨0xA68C, 0xA68C, .uppercaseLetter⟩, ⟨0xA68D, 0xA68D, .lowercaseLetter⟩,
   ⟨0xA68E, 0xA68E, .uppercaseLetter⟩, ⟨0xA68F, 0xA68F, .lowercaseLetter⟩, ⟨0xA690, 0xA690, .uppercaseLetter⟩,
   ⟨0xA691, 0xA691, .lowercaseLetter⟩, ⟨0xA692, 0xA692, .uppercaseLetter⟩, ⟨0xA693, 0xA693, .lowercaseLetter⟩,
   ⟨0xA694, 0xA694, .uppercaseLetter⟩, ⟨0xA695, 0xA695, .lowercaseLetter⟩, ⟨0xA696, 0xA696, .uppercaseLetter⟩,
   ⟨0xA697, 0xA697, .lowercaseLetter⟩, ⟨0xA698, 0xA698, .uppercaseLetter⟩, ⟨0xA699, 0xA699, .lowercaseLetter⟩,
   ⟨0xA69A, 0xA69A, .uppercaseLetter⟩, ⟨0xA69B, 0xA69B, .lowercaseLetter⟩, ⟨0xA69C, 0xA69D, .modifierLetter⟩,
   ⟨0xA69E, 0xA69F, .nonspacingMark⟩, ⟨0xA6A0, 0xA6E5, .otherLetter⟩, ⟨0xA6E6, 0xA6EF, .letterNumber⟩,
   ⟨0xA6F0, 0xA6F1, .nonspacingMark⟩, ⟨0xA6F2, 0xA6F7, .otherPunctuation⟩, ⟨0xA700, 0xA716, .modifierSymbol⟩,
   ⟨0xA717, 0xA71F, .modifierLetter⟩, ⟨0xA720, 0xA721, .modifierSymbol⟩, ⟨0xA722, 0xA722, .uppercaseLetter⟩,
   ⟨0xA723, 0xA723, .lowercaseLetter⟩, ⟨0xA724, 0xA724, .uppercaseLetter⟩, ⟨0xA725, 0xA725, .lowercaseLetter⟩,
   ⟨0xA726, 0xA726, .uppercaseLetter⟩, ⟨0xA727, 0xA727, .lowercaseLetter⟩, ⟨0xA728, 0xA728, .uppercaseLetter⟩,
   ⟨0xA729, 0xA729, .lowercaseLetter⟩, ⟨0xA72A, 0xA72A, .uppercaseLetter⟩, ⟨0xA72B, 0xA72B, .lowercaseLetter⟩,
   ⟨0xA72C, 0xA72C, .uppercaseLetter⟩, ⟨0xA72D, 0xA72D, .lowercaseLetter⟩, ⟨0xA72E, 0xA72E, .uppercaseLetter⟩,
   ⟨0xA72F, 0xA731, .lowercaseLetter⟩, ⟨0xA732, 0xA732, .uppercaseLetter⟩, ⟨0xA733, 0xA733, .lowercaseLetter⟩,
   ⟨0xA734, 0xA734, .uppercaseLetter⟩, ⟨0xA735, 0xA735, .lowercaseLetter⟩, ⟨0xA736, 0xA736, .uppercaseLetter⟩,
   ⟨0xA737, 0xA737, .lowercaseLetter⟩, ⟨0xA738, 0xA738, .uppercaseLetter⟩, ⟨0xA739, 0xA739, .lowercaseLetter⟩,
   ⟨0xA73A, 0xA73A, .uppercaseLetter⟩, ⟨0xA73B, 0xA73B, .lowercaseLetter⟩, ⟨0xA73C, 0xA73C, .uppercaseLetter⟩,
   ⟨0xA73D, 0xA73D, .lowercaseLetter⟩, ⟨0xA73E, 0xA73E, .uppercaseLetter⟩, ⟨0xA73F, 0xA73F, .lowercaseLetter⟩,
   ⟨0xA740, 0xA740, .uppercaseLetter⟩, ⟨0xA741, 0xA741, .lowercaseLetter⟩]

def runsA742 : List (Run GeneralCategory) :=
  [⟨0xA742, 0xA742, .uppercaseLetter⟩, ⟨0xA743, 0xA743, .lowercaseLetter⟩, ⟨0xA744, 0xA744, .uppercaseLetter⟩,
   ⟨0xA745, 0xA745, .lowercaseLetter⟩, ⟨0xA746, 0xA746, .uppercaseLetter⟩, ⟨0xA747, 0xA747, .lowercaseLetter⟩,
   ⟨0xA748, 0xA748, .uppercaseLetter⟩, ⟨0xA749, 0xA749, .lowercaseLetter⟩, ⟨0xA74A, 0xA74A, .uppercaseLetter⟩,
   ⟨0xA74B, 0xA74B, .lowercaseLetter⟩, ⟨0xA74C, 0xA74C, .uppercaseLetter⟩, ⟨0xA74D, 0xA74D, .lowercaseLetter⟩,
   ⟨0xA74E, 0xA74E, .uppercaseLetter⟩, ⟨0xA74F, 0xA74F, .lowercaseLetter⟩, ⟨0xA750, 0xA750, .uppercaseLetter⟩,
   ⟨0xA751, 0xA751, .lowercaseLetter⟩, ⟨0xA752, 0xA752, .uppercaseLetter⟩, ⟨0xA753, 0xA753, .lowercaseLetter⟩,
   ⟨0xA754, 0xA754, .uppercaseLetter⟩, ⟨0xA755, 0xA755, .lowercaseLetter⟩, ⟨0xA756, 0xA756, .uppercaseLetter⟩,
   ⟨0xA757, 0xA757, .lowercaseLetter⟩, ⟨0xA758, 0xA758, .uppercaseLetter⟩, ⟨0xA759, 0xA759, .lowercaseLetter⟩,
   ⟨0xA75A, 0xA75A, .uppercaseLetter⟩, ⟨0xA75B, 0xA75B, .lowercaseLetter⟩, ⟨0xA75C, 0xA75C, .uppercaseLetter⟩,
   ⟨0xA75D, 0xA75D, .lowercaseLetter⟩, ⟨0xA75E, 0xA75E, .uppercaseLetter⟩, ⟨0xA75F, 0xA75F, .lowercaseLetter⟩,
   ⟨0xA760, 0xA760, .uppercaseLetter⟩, ⟨0xA761, 0xA761, .lowercaseLetter⟩, ⟨0xA762, 0xA762, .uppercaseLetter⟩,
   ⟨0xA763, 0xA763, .lowercaseLetter⟩, ⟨0xA764, 0xA764, .uppercaseLetter⟩, ⟨0xA765, 0xA765, .lowercaseLetter⟩,
   ⟨0xA766, 0xA766, .uppercaseLetter⟩, ⟨0xA767, 0xA767, .lowercaseLetter⟩, ⟨0xA768, 0xA768, .uppercaseLetter⟩,
   ⟨0xA769, 0xA769, .lowercaseLetter⟩, ⟨0xA76A, 0xA76A, .uppercaseLetter⟩, ⟨0xA76B, 0xA76B, .lowercaseLetter⟩,
   ⟨0xA76C, 0xA76C, .uppercaseLetter⟩, ⟨0xA76D, 0xA76D, .lowercaseLetter⟩, ⟨0xA76E, 0xA76E, .uppercaseLetter⟩,
   ⟨0xA76F, 0xA76F, .lowercaseLetter⟩, ⟨0xA770, 0xA770, .modifierLetter⟩, ⟨0xA771, 0xA778, .lowercaseLetter⟩,
   ⟨0xA779, 0xA779, .uppercaseLetter⟩, ⟨0xA77A, 0xA77A, .lowercaseLetter⟩, ⟨0xA77B, 0xA77B, .uppercaseLetter⟩,
   ⟨0xA77C, 0xA77C, .lowercaseLetter⟩, ⟨0xA77D, 0xA77E, .uppercaseLetter⟩, ⟨0xA77F, 0xA77F, .lowercaseLetter⟩,
   ⟨0xA780, 0xA780, .uppercaseLetter⟩, ⟨0xA781, 0xA781, .lowercaseLetter⟩, ⟨0xA782, 0xA782, .uppercaseLetter⟩,
   ⟨0xA783, 0xA783, .lowercaseLetter⟩, ⟨0xA784, 0xA784, .uppercaseLetter⟩, ⟨0xA785, 0xA785, .lowercaseLetter⟩,
   ⟨0xA786, 0xA786, .uppercaseLetter⟩, ⟨0xA787, 0xA787, .lowercaseLetter⟩, ⟨0xA788, 0xA788, .modifierLetter⟩,
   ⟨0xA789, 0xA78A, .modifierSymbol⟩, ⟨0xA78B, 0xA78B, .uppercaseLetter⟩, ⟨0xA78C, 0xA78C, .lowercaseLetter⟩,
   ⟨0xA78D, 0xA78D, .uppercaseLetter⟩, ⟨0xA78E, 0xA78E, .lowercaseLetter⟩, ⟨0xA78F, 0xA78F, .otherLetter⟩,
   ⟨0xA790, 0xA790, .uppercaseLetter⟩, ⟨0xA791, 0xA791, .lowercaseLetter⟩, ⟨0xA792, 0xA792, .uppercaseLetter⟩,
   ⟨0xA793, 0xA795, .lowercaseLetter⟩, ⟨0xA796, 0xA796, .uppercaseLetter⟩, ⟨0xA797, 0xA797, .lowercaseLetter⟩,
   ⟨0xA798, 0xA798, .uppercaseLetter⟩, ⟨0xA799, 0xA799, .lowercaseLetter⟩, ⟨0xA79A, 0xA79A, .uppercaseLetter⟩,
   ⟨0xA79B, 0xA79B, .lowercaseLetter⟩, ⟨0xA79C, 0xA79C, .uppercaseLetter⟩, ⟨0xA79D, 0xA79D, .lowercaseLetter⟩,
   ⟨0xA79E, 0xA79E, .uppercaseLetter⟩, ⟨0xA79F, 0xA79F, .lowercaseLetter⟩, ⟨0xA7A0, 0xA7A0, .uppercaseLetter⟩,
   ⟨0xA7A1, 0xA7A1, .lowercaseLetter⟩, ⟨0xA7A2, 0xA7A2, .uppercaseLetter⟩, ⟨0xA7A3, 0xA7A3, .lowercaseLetter⟩,
   ⟨0xA7A4, 0xA7A4, .uppercaseLetter⟩, ⟨0xA7A5, 0xA7A5, .lowercaseLetter⟩, ⟨0xA7A6, 0xA7A6, .uppercaseLetter⟩,
   ⟨0xA7A7, 0xA7A7, .lowercaseLetter⟩, ⟨0xA7A8, 0xA7A8, .uppercaseLetter⟩, ⟨0xA7A9, 0xA7A9, .lowercaseLetter⟩,
   ⟨0xA7AA, 0xA7AE, .uppercaseLetter⟩, ⟨0xA7AF, 0xA7AF, .lowercaseLetter⟩, ⟨0xA7B0, 0xA7B4, .uppercaseLetter⟩,
   ⟨0xA7B5, 0xA7B5, .lowercaseLetter⟩, ⟨0xA7B6, 0xA7B6, .uppercaseLetter⟩, ⟨0xA7B7, 0xA7B7, .lowercaseLetter⟩,
   ⟨0xA7B8, 0xA7B8, .uppercaseLetter⟩, ⟨0xA7B9, 0xA7B9, .lowercaseLetter⟩, ⟨0xA7BA, 0xA7BA, .uppercaseLetter⟩,
   ⟨0xA7BB, 0xA7BB, .lowercaseLetter⟩, ⟨0xA7BC, 0xA7BC, .uppercaseLetter⟩, ⟨0xA7BD, 0xA7BD, .lowercaseLetter⟩,
   ⟨0xA7BE, 0xA7BE, .uppercaseLetter⟩, ⟨0xA7BF, 0xA7BF, .lowercaseLetter⟩, ⟨0xA7C0, 0xA7C0, .uppercaseLetter⟩,
   ⟨0xA7C1, 0xA7C1, .lowercaseLetter⟩, ⟨0xA7C2, 0xA7C2, .uppercaseLetter⟩, ⟨0xA7C3, 0xA7C3, .lowercaseLetter⟩,
   ⟨0xA7C4, 0xA7C7, .uppercaseLetter⟩, ⟨0xA7C8, 0xA7C8, .lowercaseLetter⟩, ⟨0xA7C9, 0xA7C9, .uppercaseLetter⟩,
   ⟨0xA7CA, 0xA7CA, .lowercaseLetter⟩, ⟨0xA7CB, 0xA7CC, .uppercaseLetter⟩, ⟨0xA7CD, 0xA7CD, .lowercaseLetter⟩,
   ⟨0xA7CE, 0xA7CE, .uppercaseLetter⟩, ⟨0xA7CF, 0xA7CF, .lowercaseLetter⟩, ⟨0xA7D0, 0xA7D0, .uppercaseLetter⟩,
   ⟨0xA7D1, 0xA7D1, .lowercaseLetter⟩, ⟨0xA7D2, 0xA7D2, .uppercaseLetter⟩, ⟨0xA7D3, 0xA7D3, .lowercaseLetter⟩,
   ⟨0xA7D4, 0xA7D4, .uppercaseLetter⟩, ⟨0xA7D5, 0xA7D5, .lowercaseLetter⟩, ⟨0xA7D6, 0xA7D6, .uppercaseLetter⟩,
   ⟨0xA7D7, 0xA7D7, .lowercaseLetter⟩, ⟨0xA7D8, 0xA7D8, .uppercaseLetter⟩]

def runsA7D9 : List (Run GeneralCategory) :=
  [⟨0xA7D9, 0xA7D9, .lowercaseLetter⟩, ⟨0xA7DA, 0xA7DA, .uppercaseLetter⟩, ⟨0xA7DB, 0xA7DB, .lowercaseLetter⟩,
   ⟨0xA7DC, 0xA7DD, .uppercaseLetter⟩, ⟨0xA7E2, 0xA7E2, .uppercaseLetter⟩, ⟨0xA7F1, 0xA7F4, .modifierLetter⟩,
   ⟨0xA7F5, 0xA7F5, .uppercaseLetter⟩, ⟨0xA7F6, 0xA7F6, .lowercaseLetter⟩, ⟨0xA7F7, 0xA7F7, .otherLetter⟩,
   ⟨0xA7F8, 0xA7F9, .modifierLetter⟩, ⟨0xA7FA, 0xA7FA, .lowercaseLetter⟩, ⟨0xA7FB, 0xA801, .otherLetter⟩,
   ⟨0xA802, 0xA802, .nonspacingMark⟩, ⟨0xA803, 0xA805, .otherLetter⟩, ⟨0xA806, 0xA806, .nonspacingMark⟩,
   ⟨0xA807, 0xA80A, .otherLetter⟩, ⟨0xA80B, 0xA80B, .nonspacingMark⟩, ⟨0xA80C, 0xA822, .otherLetter⟩,
   ⟨0xA823, 0xA824, .spacingMark⟩, ⟨0xA825, 0xA826, .nonspacingMark⟩, ⟨0xA827, 0xA827, .spacingMark⟩,
   ⟨0xA828, 0xA82B, .otherSymbol⟩, ⟨0xA82C, 0xA82C, .nonspacingMark⟩, ⟨0xA830, 0xA835, .otherNumber⟩,
   ⟨0xA836, 0xA837, .otherSymbol⟩, ⟨0xA838, 0xA838, .currencySymbol⟩, ⟨0xA839, 0xA839, .otherSymbol⟩,
   ⟨0xA840, 0xA873, .otherLetter⟩, ⟨0xA874, 0xA877, .otherPunctuation⟩, ⟨0xA880, 0xA881, .spacingMark⟩,
   ⟨0xA882, 0xA8B3, .otherLetter⟩, ⟨0xA8B4, 0xA8C3, .spacingMark⟩, ⟨0xA8C4, 0xA8C5, .nonspacingMark⟩,
   ⟨0xA8CE, 0xA8CF, .otherPunctuation⟩, ⟨0xA8D0, 0xA8D9, .decimalNumber⟩, ⟨0xA8E0, 0xA8F1, .nonspacingMark⟩,
   ⟨0xA8F2, 0xA8F7, .otherLetter⟩, ⟨0xA8F8, 0xA8FA, .otherPunctuation⟩, ⟨0xA8FB, 0xA8FB, .otherLetter⟩,
   ⟨0xA8FC, 0xA8FC, .otherPunctuation⟩, ⟨0xA8FD, 0xA8FE, .otherLetter⟩, ⟨0xA8FF, 0xA8FF, .nonspacingMark⟩,
   ⟨0xA900, 0xA909, .decimalNumber⟩, ⟨0xA90A, 0xA925, .otherLetter⟩, ⟨0xA926, 0xA92D, .nonspacingMark⟩,
   ⟨0xA92E, 0xA92F, .otherPunctuation⟩, ⟨0xA930, 0xA946, .otherLetter⟩, ⟨0xA947, 0xA951, .nonspacingMark⟩,
   ⟨0xA952, 0xA953, .spacingMark⟩, ⟨0xA95F, 0xA95F, .otherPunctuation⟩, ⟨0xA960, 0xA97C, .otherLetter⟩,
   ⟨0xA980, 0xA982, .nonspacingMark⟩, ⟨0xA983, 0xA983, .spacingMark⟩, ⟨0xA984, 0xA9B2, .otherLetter⟩,
   ⟨0xA9B3, 0xA9B3, .nonspacingMark⟩, ⟨0xA9B4, 0xA9B5, .spacingMark⟩, ⟨0xA9B6, 0xA9B9, .nonspacingMark⟩,
   ⟨0xA9BA, 0xA9BB, .spacingMark⟩, ⟨0xA9BC, 0xA9BD, .nonspacingMark⟩, ⟨0xA9BE, 0xA9C0, .spacingMark⟩,
   ⟨0xA9C1, 0xA9CD, .otherPunctuation⟩, ⟨0xA9CF, 0xA9CF, .modifierLetter⟩, ⟨0xA9D0, 0xA9D9, .decimalNumber⟩,
   ⟨0xA9DE, 0xA9DF, .otherPunctuation⟩, ⟨0xA9E0, 0xA9E4, .otherLetter⟩, ⟨0xA9E5, 0xA9E5, .nonspacingMark⟩,
   ⟨0xA9E6, 0xA9E6, .modifierLetter⟩, ⟨0xA9E7, 0xA9EF, .otherLetter⟩, ⟨0xA9F0, 0xA9F9, .decimalNumber⟩,
   ⟨0xA9FA, 0xA9FE, .otherLetter⟩, ⟨0xAA00, 0xAA28, .otherLetter⟩, ⟨0xAA29, 0xAA2E, .nonspacingMark⟩,
   ⟨0xAA2F, 0xAA30, .spacingMark⟩, ⟨0xAA31, 0xAA32, .nonspacingMark⟩, ⟨0xAA33, 0xAA34, .spacingMark⟩,
   ⟨0xAA35, 0xAA36, .nonspacingMark⟩, ⟨0xAA40, 0xAA42, .otherLetter⟩, ⟨0xAA43, 0xAA43, .nonspacingMark⟩,
   ⟨0xAA44, 0xAA4B, .otherLetter⟩, ⟨0xAA4C, 0xAA4C, .nonspacingMark⟩, ⟨0xAA4D, 0xAA4D, .spacingMark⟩,
   ⟨0xAA50, 0xAA59, .decimalNumber⟩, ⟨0xAA5C, 0xAA5F, .otherPunctuation⟩, ⟨0xAA60, 0xAA6F, .otherLetter⟩,
   ⟨0xAA70, 0xAA70, .modifierLetter⟩, ⟨0xAA71, 0xAA76, .otherLetter⟩, ⟨0xAA77, 0xAA79, .otherSymbol⟩,
   ⟨0xAA7A, 0xAA7A, .otherLetter⟩, ⟨0xAA7B, 0xAA7B, .spacingMark⟩, ⟨0xAA7C, 0xAA7C, .nonspacingMark⟩,
   ⟨0xAA7D, 0xAA7D, .spacingMark⟩, ⟨0xAA7E, 0xAAAF, .otherLetter⟩, ⟨0xAAB0, 0xAAB0, .nonspacingMark⟩,
   ⟨0xAAB1, 0xAAB1, .otherLetter⟩, ⟨0xAAB2, 0xAAB4, .nonspacingMark⟩, ⟨0xAAB5, 0xAAB6, .otherLetter⟩,
   ⟨0xAAB7, 0xAAB8, .nonspacingMark⟩, ⟨0xAAB9, 0xAABD, .otherLetter⟩, ⟨0xAABE, 0xAABF, .nonspacingMark⟩,
   ⟨0xAAC0, 0xAAC0, .otherLetter⟩, ⟨0xAAC1, 0xAAC1, .nonspacingMark⟩, ⟨0xAAC2, 0xAAC2, .otherLetter⟩,
   ⟨0xAADB, 0xAADC, .otherLetter⟩, ⟨0xAADD, 0xAADD, .modifierLetter⟩, ⟨0xAADE, 0xAADF, .otherPunctuation⟩,
   ⟨0xAAE0, 0xAAEA, .otherLetter⟩, ⟨0xAAEB, 0xAAEB, .spacingMark⟩, ⟨0xAAEC, 0xAAED, .nonspacingMark⟩,
   ⟨0xAAEE, 0xAAEF, .spacingMark⟩, ⟨0xAAF0, 0xAAF1, .otherPunctuation⟩, ⟨0xAAF2, 0xAAF2, .otherLetter⟩,
   ⟨0xAAF3, 0xAAF4, .modifierLetter⟩, ⟨0xAAF5, 0xAAF5, .spacingMark⟩, ⟨0xAAF6, 0xAAF6, .nonspacingMark⟩,
   ⟨0xAB01, 0xAB06, .otherLetter⟩, ⟨0xAB09, 0xAB0E, .otherLetter⟩, ⟨0xAB11, 0xAB16, .otherLetter⟩,
   ⟨0xAB20, 0xAB26, .otherLetter⟩, ⟨0xAB28, 0xAB2E, .otherLetter⟩, ⟨0xAB30, 0xAB5A, .lowercaseLetter⟩,
   ⟨0xAB5B, 0xAB5B, .modifierSymbol⟩, ⟨0xAB5C, 0xAB5F, .modifierLetter⟩, ⟨0xAB60, 0xAB68, .lowercaseLetter⟩,
   ⟨0xAB69, 0xAB69, .modifierLetter⟩, ⟨0xAB6A, 0xAB6B, .modifierSymbol⟩, ⟨0xAB6C, 0xAB6D, .uppercaseLetter⟩,
   ⟨0xAB70, 0xABBF, .lowercaseLetter⟩, ⟨0xABC0, 0xABE2, .otherLetter⟩]

def runsABE3 : List (Run GeneralCategory) :=
  [⟨0xABE3, 0xABE4, .spacingMark⟩, ⟨0xABE5, 0xABE5, .nonspacingMark⟩, ⟨0xABE6, 0xABE7, .spacingMark⟩,
   ⟨0xABE8, 0xABE8, .nonspacingMark⟩, ⟨0xABE9, 0xABEA, .spacingMark⟩, ⟨0xABEB, 0xABEB, .otherPunctuation⟩,
   ⟨0xABEC, 0xABEC, .spacingMark⟩, ⟨0xABED, 0xABED, .nonspacingMark⟩, ⟨0xABF0, 0xABF9, .decimalNumber⟩,
   ⟨0xAC00, 0xD7A3, .otherLetter⟩, ⟨0xD7B0, 0xD7C6, .otherLetter⟩, ⟨0xD7CB, 0xD7FB, .otherLetter⟩,
   ⟨0xD800, 0xDFFF, .surrogate⟩, ⟨0xE000, 0xF8FF, .privateUse⟩, ⟨0xF900, 0xFA6D, .otherLetter⟩,
   ⟨0xFA70, 0xFAD9, .otherLetter⟩, ⟨0xFB00, 0xFB06, .lowercaseLetter⟩, ⟨0xFB13, 0xFB17, .lowercaseLetter⟩,
   ⟨0xFB1D, 0xFB1D, .otherLetter⟩, ⟨0xFB1E, 0xFB1E, .nonspacingMark⟩, ⟨0xFB1F, 0xFB28, .otherLetter⟩,
   ⟨0xFB29, 0xFB29, .mathSymbol⟩, ⟨0xFB2A, 0xFB36, .otherLetter⟩, ⟨0xFB38, 0xFB3C, .otherLetter⟩,
   ⟨0xFB3E, 0xFB3E, .otherLetter⟩, ⟨0xFB40, 0xFB41, .otherLetter⟩, ⟨0xFB43, 0xFB44, .otherLetter⟩,
   ⟨0xFB46, 0xFBB1, .otherLetter⟩, ⟨0xFBB2, 0xFBC2, .modifierSymbol⟩, ⟨0xFBC3, 0xFBD2, .otherSymbol⟩,
   ⟨0xFBD3, 0xFD3D, .otherLetter⟩, ⟨0xFD3E, 0xFD3E, .closePunctuation⟩, ⟨0xFD3F, 0xFD3F, .openPunctuation⟩,
   ⟨0xFD40, 0xFD4F, .otherSymbol⟩, ⟨0xFD50, 0xFD8F, .otherLetter⟩, ⟨0xFD90, 0xFD91, .otherSymbol⟩,
   ⟨0xFD92, 0xFDC7, .otherLetter⟩, ⟨0xFDC8, 0xFDCF, .otherSymbol⟩, ⟨0xFDF0, 0xFDFB, .otherLetter⟩,
   ⟨0xFDFC, 0xFDFC, .currencySymbol⟩, ⟨0xFDFD, 0xFDFF, .otherSymbol⟩, ⟨0xFE00, 0xFE0F, .nonspacingMark⟩,
   ⟨0xFE10, 0xFE16, .otherPunctuation⟩, ⟨0xFE17, 0xFE17, .openPunctuation⟩, ⟨0xFE18, 0xFE18, .closePunctuation⟩,
   ⟨0xFE19, 0xFE19, .otherPunctuation⟩, ⟨0xFE20, 0xFE2F, .nonspacingMark⟩, ⟨0xFE30, 0xFE30, .otherPunctuation⟩,
   ⟨0xFE31, 0xFE32, .dashPunctuation⟩, ⟨0xFE33, 0xFE34, .connectorPunctuation⟩, ⟨0xFE35, 0xFE35, .openPunctuation⟩,
   ⟨0xFE36, 0xFE36, .closePunctuation⟩, ⟨0xFE37, 0xFE37, .openPunctuation⟩, ⟨0xFE38, 0xFE38, .closePunctuation⟩,
   ⟨0xFE39, 0xFE39, .openPunctuation⟩, ⟨0xFE3A, 0xFE3A, .closePunctuation⟩, ⟨0xFE3B, 0xFE3B, .openPunctuation⟩,
   ⟨0xFE3C, 0xFE3C, .closePunctuation⟩, ⟨0xFE3D, 0xFE3D, .openPunctuation⟩, ⟨0xFE3E, 0xFE3E, .closePunctuation⟩,
   ⟨0xFE3F, 0xFE3F, .openPunctuation⟩, ⟨0xFE40, 0xFE40, .closePunctuation⟩, ⟨0xFE41, 0xFE41, .openPunctuation⟩,
   ⟨0xFE42, 0xFE42, .closePunctuation⟩, ⟨0xFE43, 0xFE43, .openPunctuation⟩, ⟨0xFE44, 0xFE44, .closePunctuation⟩,
   ⟨0xFE45, 0xFE46, .otherPunctuation⟩, ⟨0xFE47, 0xFE47, .openPunctuation⟩, ⟨0xFE48, 0xFE48, .closePunctuation⟩,
   ⟨0xFE49, 0xFE4C, .otherPunctuation⟩, ⟨0xFE4D, 0xFE4F, .connectorPunctuation⟩, ⟨0xFE50, 0xFE52, .otherPunctuation⟩,
   ⟨0xFE54, 0xFE57, .otherPunctuation⟩, ⟨0xFE58, 0xFE58, .dashPunctuation⟩, ⟨0xFE59, 0xFE59, .openPunctuation⟩,
   ⟨0xFE5A, 0xFE5A, .closePunctuation⟩, ⟨0xFE5B, 0xFE5B, .openPunctuation⟩, ⟨0xFE5C, 0xFE5C, .closePunctuation⟩,
   ⟨0xFE5D, 0xFE5D, .openPunctuation⟩, ⟨0xFE5E, 0xFE5E, .closePunctuation⟩, ⟨0xFE5F, 0xFE61, .otherPunctuation⟩,
   ⟨0xFE62, 0xFE62, .mathSymbol⟩, ⟨0xFE63, 0xFE63, .dashPunctuation⟩, ⟨0xFE64, 0xFE66, .mathSymbol⟩,
   ⟨0xFE68, 0xFE68, .otherPunctuation⟩, ⟨0xFE69, 0xFE69, .currencySymbol⟩, ⟨0xFE6A, 0xFE6B, .otherPunctuation⟩,
   ⟨0xFE70, 0xFE74, .otherLetter⟩, ⟨0xFE76, 0xFEFC, .otherLetter⟩, ⟨0xFEFF, 0xFEFF, .format⟩,
   ⟨0xFF01, 0xFF03, .otherPunctuation⟩, ⟨0xFF04, 0xFF04, .currencySymbol⟩, ⟨0xFF05, 0xFF07, .otherPunctuation⟩,
   ⟨0xFF08, 0xFF08, .openPunctuation⟩, ⟨0xFF09, 0xFF09, .closePunctuation⟩, ⟨0xFF0A, 0xFF0A, .otherPunctuation⟩,
   ⟨0xFF0B, 0xFF0B, .mathSymbol⟩, ⟨0xFF0C, 0xFF0C, .otherPunctuation⟩, ⟨0xFF0D, 0xFF0D, .dashPunctuation⟩,
   ⟨0xFF0E, 0xFF0F, .otherPunctuation⟩, ⟨0xFF10, 0xFF19, .decimalNumber⟩, ⟨0xFF1A, 0xFF1B, .otherPunctuation⟩,
   ⟨0xFF1C, 0xFF1E, .mathSymbol⟩, ⟨0xFF1F, 0xFF20, .otherPunctuation⟩, ⟨0xFF21, 0xFF3A, .uppercaseLetter⟩,
   ⟨0xFF3B, 0xFF3B, .openPunctuation⟩, ⟨0xFF3C, 0xFF3C, .otherPunctuation⟩, ⟨0xFF3D, 0xFF3D, .closePunctuation⟩,
   ⟨0xFF3E, 0xFF3E, .modifierSymbol⟩, ⟨0xFF3F, 0xFF3F, .connectorPunctuation⟩, ⟨0xFF40, 0xFF40, .modifierSymbol⟩,
   ⟨0xFF41, 0xFF5A, .lowercaseLetter⟩, ⟨0xFF5B, 0xFF5B, .openPunctuation⟩, ⟨0xFF5C, 0xFF5C, .mathSymbol⟩,
   ⟨0xFF5D, 0xFF5D, .closePunctuation⟩, ⟨0xFF5E, 0xFF5E, .mathSymbol⟩, ⟨0xFF5F, 0xFF5F, .openPunctuation⟩,
   ⟨0xFF60, 0xFF60, .closePunctuation⟩, ⟨0xFF61, 0xFF61, .otherPunctuation⟩, ⟨0xFF62, 0xFF62, .openPunctuation⟩,
   ⟨0xFF63, 0xFF63, .closePunctuation⟩, ⟨0xFF64, 0xFF65, .otherPunctuation⟩, ⟨0xFF66, 0xFF6F, .otherLetter⟩,
   ⟨0xFF70, 0xFF70, .modifierLetter⟩, ⟨0xFF71, 0xFF9D, .otherLetter⟩, ⟨0xFF9E, 0xFF9F, .modifierLetter⟩,
   ⟨0xFFA0, 0xFFBE, .otherLetter⟩, ⟨0xFFC2, 0xFFC7, .otherLetter⟩]

def runsFFCA : List (Run GeneralCategory) :=
  [⟨0xFFCA, 0xFFCF, .otherLetter⟩, ⟨0xFFD2, 0xFFD7, .otherLetter⟩, ⟨0xFFDA, 0xFFDC, .otherLetter⟩,
   ⟨0xFFE0, 0xFFE1, .currencySymbol⟩, ⟨0xFFE2, 0xFFE2, .mathSymbol⟩, ⟨0xFFE3, 0xFFE3, .modifierSymbol⟩,
   ⟨0xFFE4, 0xFFE4, .otherSymbol⟩, ⟨0xFFE5, 0xFFE6, .currencySymbol⟩, ⟨0xFFE8, 0xFFE8, .otherSymbol⟩,
   ⟨0xFFE9, 0xFFEC, .mathSymbol⟩, ⟨0xFFED, 0xFFEE, .otherSymbol⟩, ⟨0xFFF9, 0xFFFB, .format⟩,
   ⟨0xFFFC, 0xFFFD, .otherSymbol⟩]

/-- all runs below U+10000 -/
def runs : List (Run GeneralCategory) :=
  [runs0000, runs0145, runs01E5, runs03D0, runs04C2, runs05EF, runs0A05, runs0CBF, runs1056, runs1A00, runs1E18,
    runs1EA0, runs1FC8, runs21D3, runs2C85, runs2E06, runsA4F8, runsA742, runsA7D9, runsABE3, runsFFCA].flatten

end IdentifierText.Unicode.CategoryTable.BasicPlane
