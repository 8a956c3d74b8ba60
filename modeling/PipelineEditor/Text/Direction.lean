import PipelineEditor.Text.Table

/-!
Bidirectional classes of characters, by Unicode 17.0.

Every character has a class that says how it takes part in the ordering of mixed left-to-right
and right-to-left text; characters outside the table are left-to-right letters.
-/

namespace PipelineEditor

/-- The bidirectional class of a character. -/
inductive BidiClass where
  | leftToRight | rightToLeft | arabicLetter | europeanNumber | europeanSeparator
  | europeanTerminator | arabicNumber | commonSeparator | nonspacingMark | boundaryNeutral
  | paragraphSeparator | segmentSeparator | whiteSpace | otherNeutral | embeddingOrIsolate
  deriving BEq, Inhabited, Repr

namespace BidiClass

/-- The ranges of characters that are not left-to-right letters, with their class as a number: 1 right-to-left, 2 Arabic letter, 3 European number, 4 European separator, 5 European terminator, 6 Arabic number, 7 common separator, 8 non-spacing mark, 9 boundary neutral, 10 paragraph separator, 11 segment separator, 12 white space, 13 other neutral, and 14 to 22 the embedding, override and isolate controls. -/
def classText : String :=
  String.join [
    "0.8:9 9.9:B A.A:A B.B:B C.C:C D.D:A E.1B:9 1C.1E:A 1F.1F:B 20.20:C 21.22:D 23.25:5 26.2A:D ",
    "2B.2B:4 2C.2C:7 2D.2D:4 2E.2F:7 30.39:3 3A.3A:7 3B.40:D 5B.60:D 7B.7E:D 7F.84:9 85.85:A 86.9F:9 ",
    "A0.A0:7 A1.A1:D A2.A5:5 A6.A9:D AB.AC:D AD.AD:9 AE.AF:D B0.B1:5 B2.B3:3 B4.B4:D B6.B8:D B9.B9:3 ",
    "BB.BF:D D7.D7:D F7.F7:D 2B9.2BA:D 2C2.2CF:D 2D2.2DF:D 2E5.2ED:D 2EF.2FF:D 300.36F:8 374.375:D ",
    "37E.37E:D 384.385:D 387.387:D 3F6.3F6:D 483.489:8 58A.58A:D 58D.58E:D 58F.58F:5 590.590:1 ",
    "591.5BD:8 5BE.5BE:1 5BF.5BF:8 5C0.5C0:1 5C1.5C2:8 5C3.5C3:1 5C4.5C5:8 5C6.5C6:1 5C7.5C7:8 ",
    "5C8.5FF:1 600.605:6 606.607:D 608.608:2 609.60A:5 60B.60B:2 60C.60C:7 60D.60D:2 60E.60F:D ",
    "610.61A:8 61B.64A:2 64B.65F:8 660.669:6 66A.66A:5 66B.66C:6 66D.66F:2 670.670:8 671.6D5:2 ",
    "6D6.6DC:8 6DD.6DD:6 6DE.6DE:D 6DF.6E4:8 6E5.6E6:2 6E7.6E8:8 6E9.6E9:D 6EA.6ED:8 6EE.6EF:2 ",
    "6F0.6F9:3 6FA.710:2 711.711:8 712.72F:2 730.74A:8 74B.7A5:2 7A6.7B0:8 7B1.7BF:2 7C0.7EA:1 ",
    "7EB.7F3:8 7F4.7F5:1 7F6.7F9:D 7FA.7FC:1 7FD.7FD:8 7FE.815:1 816.819:8 81A.81A:1 81B.823:8 ",
    "824.824:1 825.827:8 828.828:1 829.82D:8 82E.858:1 859.85B:8 85C.85F:1 860.88F:2 890.891:6 ",
    "892.896:2 897.89F:8 8A0.8C9:2 8CA.8E1:8 8E2.8E2:6 8E3.902:8 93A.93A:8 93C.93C:8 941.948:8 ",
    "94D.94D:8 951.957:8 962.963:8 981.981:8 9BC.9BC:8 9C1.9C4:8 9CD.9CD:8 9E2.9E3:8 9F2.9F3:5 ",
    "9FB.9FB:5 9FE.9FE:8 A01.A02:8 A3C.A3C:8 A41.A42:8 A47.A48:8 A4B.A4D:8 A51.A51:8 A70.A71:8 ",
    "A75.A75:8 A81.A82:8 ABC.ABC:8 AC1.AC5:8 AC7.AC8:8 ACD.ACD:8 AE2.AE3:8 AF1.AF1:5 AFA.AFF:8 ",
    "B01.B01:8 B3C.B3C:8 B3F.B3F:8 B41.B44:8 B4D.B4D:8 B55.B56:8 B62.B63:8 B82.B82:8 BC0.BC0:8 ",
    "BCD.BCD:8 BF3.BF8:D BF9.BF9:5 BFA.BFA:D C00.C00:8 C04.C04:8 C3C.C3C:8 C3E.C40:8 C46.C48:8 ",
    "C4A.C4D:8 C55.C56:8 C62.C63:8 C78.C7E:D C81.C81:8 CBC.CBC:8 CCC.CCD:8 CE2.CE3:8 D00.D01:8 ",
    "D3B.D3C:8 D41.D44:8 D4D.D4D:8 D62.D63:8 D81.D81:8 DCA.DCA:8 DD2.DD4:8 DD6.DD6:8 E31.E31:8 ",
    "E34.E3A:8 E3F.E3F:5 E47.E4E:8 EB1.EB1:8 EB4.EBC:8 EC8.ECE:8 F18.F19:8 F35.F35:8 F37.F37:8 ",
    "F39.F39:8 F3A.F3D:D F71.F7E:8 F80.F84:8 F86.F87:8 F8D.F97:8 F99.FBC:8 FC6.FC6:8 102D.1030:8 ",
    "1032.1037:8 1039.103A:8 103D.103E:8 1058.1059:8 105E.1060:8 1071.1074:8 1082.1082:8 1085.1086:8 ",
    "108D.108D:8 109D.109D:8 135D.135F:8 1390.1399:D 1400.1400:D 1680.1680:C 169B.169C:D 1712.1714:8 ",
    "1732.1733:8 1752.1753:8 1772.1773:8 17B4.17B5:8 17B7.17BD:8 17C6.17C6:8 17C9.17D3:8 17DB.17DB:5 ",
    "17DD.17DD:8 17F0.17F9:D 1800.180A:D 180B.180D:8 180E.180E:9 180F.180F:8 1885.1886:8 18A9.18A9:8 ",
    "1920.1922:8 1927.1928:8 1932.1932:8 1939.193B:8 1940.1940:D 1944.1945:D 19DE.19FF:D 1A17.1A18:8 ",
    "1A1B.1A1B:8 1A56.1A56:8 1A58.1A5E:8 1A60.1A60:8 1A62.1A62:8 1A65.1A6C:8 1A73.1A7C:8 1A7F.1A7F:8 ",
    "1AB0.1ADD:8 1AE0.1AEB:8 1B00.1B03:8 1B34.1B34:8 1B36.1B3A:8 1B3C.1B3C:8 1B42.1B42:8 1B6B.1B73:8 ",
    "1B80.1B81:8 1BA2.1BA5:8 1BA8.1BA9:8 1BAB.1BAD:8 1BE6.1BE6:8 1BE8.1BE9:8 1BED.1BED:8 1BEF.1BF1:8 ",
    "1C2C.1C33:8 1C36.1C37:8 1CD0.1CD2:8 1CD4.1CE0:8 1CE2.1CE8:8 1CED.1CED:8 1CF4.1CF4:8 1CF8.1CF9:8 ",
    "1DC0.1DFF:8 1FBD.1FBD:D 1FBF.1FC1:D 1FCD.1FCF:D 1FDD.1FDF:D 1FED.1FEF:D 1FFD.1FFE:D 2000.200A:C ",
    "200B.200D:9 200F.200F:1 2010.2027:D 2028.2028:C 2029.2029:A 202A.202A:E 202B.202B:10 ",
    "202C.202C:12 202D.202D:F 202E.202E:11 202F.202F:7 2030.2034:5 2035.2043:D 2044.2044:7 ",
    "2045.205E:D 205F.205F:C 2060.2065:9 2066.2066:13 2067.2067:14 2068.2068:15 2069.2069:16 ",
    "206A.206F:9 2070.2070:3 2074.2079:3 207A.207B:4 207C.207E:D 2080.2089:3 208A.208B:4 208C.208E:D ",
    "20A0.20CF:5 20D0.20F0:8 2100.2101:D 2103.2106:D 2108.2109:D 2114.2114:D 2116.2118:D 211E.2123:D ",
    "2125.2125:D 2127.2127:D 2129.2129:D 212E.212E:5 213A.213B:D 2140.2144:D 214A.214D:D 2150.215F:D ",
    "2189.218B:D 2190.2211:D 2212.2212:4 2213.2213:5 2214.2335:D 237B.2394:D 2396.2429:D 2440.244A:D ",
    "2460.2487:D 2488.249B:3 24EA.26AB:D 26AD.27FF:D 2900.2B73:D 2B76.2BFF:D 2CE5.2CEA:D 2CEF.2CF1:8 ",
    "2CF9.2CFF:D 2D7F.2D7F:8 2DE0.2DFF:8 2E00.2E5D:D 2E80.2E99:D 2E9B.2EF3:D 2F00.2FD5:D 2FF0.2FFF:D ",
    "3000.3000:C 3001.3004:D 3008.3020:D 302A.302D:8 3030.3030:D 3036.3037:D 303D.303F:D 3099.309A:8 ",
    "309B.309C:D 30A0.30A0:D 30FB.30FB:D 31C0.31E5:D 31EF.31EF:D 321D.321E:D 3250.325F:D 327C.327E:D ",
    "32B1.32BF:D 32CC.32CF:D 3377.337A:D 33DE.33DF:D 33FF.33FF:D 4DC0.4DFF:D A490.A4C6:D A60D.A60F:D ",
    "A66F.A672:8 A673.A673:D A674.A67D:8 A67E.A67F:D A69E.A69F:8 A6F0.A6F1:8 A700.A721:D A788.A788:D ",
    "A802.A802:8 A806.A806:8 A80B.A80B:8 A825.A826:8 A828.A82B:D A82C.A82C:8 A838.A839:5 A874.A877:D ",
    "A8C4.A8C5:8 A8E0.A8F1:8 A8FF.A8FF:8 A926.A92D:8 A947.A951:8 A980.A982:8 A9B3.A9B3:8 A9B6.A9B9:8 ",
    "A9BC.A9BD:8 A9E5.A9E5:8 AA29.AA2E:8 AA31.AA32:8 AA35.AA36:8 AA43.AA43:8 AA4C.AA4C:8 AA7C.AA7C:8 ",
    "AAB0.AAB0:8 AAB2.AAB4:8 AAB7.AAB8:8 AABE.AABF:8 AAC1.AAC1:8 AAEC.AAED:8 AAF6.AAF6:8 AB6A.AB6B:D ",
    "ABE5.ABE5:8 ABE8.ABE8:8 ABED.ABED:8 FB1D.FB1D:1 FB1E.FB1E:8 FB1F.FB28:1 FB29.FB29:4 FB2A.FB4F:1 ",
    "FB50.FD3D:2 FD3E.FD4F:D FD50.FDCE:2 FDCF.FDCF:D FDD0.FDEF:9 FDF0.FDFC:2 FDFD.FDFF:D FE00.FE0F:8 ",
    "FE10.FE19:D FE20.FE2F:8 FE30.FE4F:D FE50.FE50:7 FE51.FE51:D FE52.FE52:7 FE54.FE54:D FE55.FE55:7 ",
    "FE56.FE5E:D FE5F.FE5F:5 FE60.FE61:D FE62.FE63:4 FE64.FE66:D FE68.FE68:D FE69.FE6A:5 FE6B.FE6B:D ",
    "FE70.FEFE:2 FEFF.FEFF:9 FF01.FF02:D FF03.FF05:5 FF06.FF0A:D FF0B.FF0B:4 FF0C.FF0C:7 FF0D.FF0D:4 ",
    "FF0E.FF0F:7 FF10.FF19:3 FF1A.FF1A:7 FF1B.FF20:D FF3B.FF40:D FF5B.FF65:D FFE0.FFE1:5 FFE2.FFE4:D ",
    "FFE5.FFE6:5 FFE8.FFEE:D FFF0.FFF8:9 FFF9.FFFD:D FFFE.FFFF:9 10101.10101:D 10140.1018C:D ",
    "10190.1019C:D 101A0.101A0:D 101FD.101FD:8 102E0.102E0:8 102E1.102FB:3 10376.1037A:8 ",
    "10800.1091E:1 1091F.1091F:D 10920.10A00:1 10A01.10A03:8 10A04.10A04:1 10A05.10A06:8 ",
    "10A07.10A0B:1 10A0C.10A0F:8 10A10.10A37:1 10A38.10A3A:8 10A3B.10A3E:1 10A3F.10A3F:8 ",
    "10A40.10AE4:1 10AE5.10AE6:8 10AE7.10B38:1 10B39.10B3F:D 10B40.10CFF:1 10D00.10D23:2 ",
    "10D24.10D27:8 10D28.10D2F:2 10D30.10D39:6 10D3A.10D3F:2 10D40.10D49:6 10D4A.10D68:1 ",
    "10D69.10D6D:8 10D6E.10E5F:1 10E60.10E7E:6 10E7F.10EAA:1 10EAB.10EAC:8 10EAD.10EBF:1 ",
    "10EC0.10EF9:2 10EFA.10EFF:8 10F00.10F2F:1 10F30.10F45:2 10F46.10F50:8 10F51.10F6F:2 ",
    "10F70.10F81:1 10F82.10F85:8 10F86.10FFF:1 11001.11001:8 11038.11046:8 11052.11065:D ",
    "11070.11070:8 11073.11074:8 1107F.11081:8 110B3.110B6:8 110B9.110BA:8 110C2.110C2:8 ",
    "11100.11102:8 11127.1112B:8 1112D.11134:8 11173.11173:8 11180.11181:8 111B6.111BE:8 ",
    "111C9.111CC:8 111CF.111CF:8 1122F.11231:8 11234.11234:8 11236.11237:8 1123E.1123E:8 ",
    "11241.11241:8 112DF.112DF:8 112E3.112EA:8 11300.11301:8 1133B.1133C:8 11340.11340:8 ",
    "11366.1136C:8 11370.11374:8 113BB.113C0:8 113CE.113CE:8 113D0.113D0:8 113D2.113D2:8 ",
    "113E1.113E2:8 11438.1143F:8 11442.11444:8 11446.11446:8 1145E.1145E:8 114B3.114B8:8 ",
    "114BA.114BA:8 114BF.114C0:8 114C2.114C3:8 115B2.115B5:8 115BC.115BD:8 115BF.115C0:8 ",
    "115DC.115DD:8 11633.1163A:8 1163D.1163D:8 1163F.11640:8 11660.1166C:D 116AB.116AB:8 ",
    "116AD.116AD:8 116B0.116B5:8 116B7.116B7:8 1171D.1171F:8 11722.11725:8 11727.1172B:8 ",
    "1182F.11837:8 11839.1183A:8 1193B.1193C:8 1193E.1193E:8 11943.11943:8 119D4.119D7:8 ",
    "119DA.119DB:8 119E0.119E0:8 11A01.11A06:8 11A09.11A0A:8 11A33.11A38:8 11A3B.11A3E:8 ",
    "11A47.11A47:8 11A51.11A56:8 11A59.11A5B:8 11A8A.11A96:8 11A98.11A99:8 11B60.11B60:8 ",
    "11B62.11B64:8 11B66.11B66:8 11C30.11C36:8 11C38.11C3D:8 11C92.11CA7:8 11CAA.11CB0:8 ",
    "11CB2.11CB3:8 11CB5.11CB6:8 11D31.11D36:8 11D3A.11D3A:8 11D3C.11D3D:8 11D3F.11D45:8 ",
    "11D47.11D47:8 11D90.11D91:8 11D95.11D95:8 11D97.11D97:8 11EF3.11EF4:8 11F00.11F01:8 ",
    "11F36.11F3A:8 11F40.11F40:8 11F42.11F42:8 11F5A.11F5A:8 11FD5.11FDC:D 11FDD.11FE0:5 ",
    "11FE1.11FF1:D 13440.13440:8 13447.13455:8 1611E.16129:8 1612D.1612F:8 16AF0.16AF4:8 ",
    "16B30.16B36:8 16F4F.16F4F:8 16F8F.16F92:8 16FE2.16FE2:D 16FE4.16FE4:8 1BC9D.1BC9E:8 ",
    "1BCA0.1BCA3:9 1CC00.1CCEF:D 1CCFA.1CCFC:D 1CD00.1CEB3:D 1CEBA.1CED0:D 1CEE0.1CEF0:D ",
    "1CF00.1CF2D:8 1CF30.1CF46:8 1D167.1D169:8 1D173.1D17A:9 1D17B.1D182:8 1D185.1D18B:8 ",
    "1D1AA.1D1AD:8 1D1E9.1D1EA:D 1D200.1D241:D 1D242.1D244:8 1D245.1D245:D 1D300.1D356:D ",
    "1D6DB.1D6DB:D 1D715.1D715:D 1D74F.1D74F:D 1D789.1D789:D 1D7C3.1D7C3:D 1D7CE.1D7FF:3 ",
    "1DA00.1DA36:8 1DA3B.1DA6C:8 1DA75.1DA75:8 1DA84.1DA84:8 1DA9B.1DA9F:8 1DAA1.1DAAF:8 ",
    "1E000.1E006:8 1E008.1E018:8 1E01B.1E021:8 1E023.1E024:8 1E026.1E02A:8 1E08F.1E08F:8 ",
    "1E130.1E136:8 1E2AE.1E2AE:8 1E2EC.1E2EF:8 1E2FF.1E2FF:5 1E4EC.1E4EF:8 1E5EE.1E5EF:8 ",
    "1E6E3.1E6E3:8 1E6E6.1E6E6:8 1E6EE.1E6EF:8 1E6F5.1E6F5:8 1E800.1E8CF:1 1E8D0.1E8D6:8 ",
    "1E8D7.1E943:1 1E944.1E94A:8 1E94B.1EC6F:1 1EC70.1ECBF:2 1ECC0.1ECFF:1 1ED00.1ED4F:2 ",
    "1ED50.1EDFF:1 1EE00.1EEEF:2 1EEF0.1EEF1:D 1EEF2.1EEFF:2 1EF00.1EFFF:1 1F000.1F02B:D ",
    "1F030.1F093:D 1F0A0.1F0AE:D 1F0B1.1F0BF:D 1F0C1.1F0CF:D 1F0D1.1F0F5:D 1F100.1F10A:3 ",
    "1F10B.1F10F:D 1F12F.1F12F:D 1F16A.1F16F:D 1F1AD.1F1AD:D 1F260.1F265:D 1F300.1F6D8:D ",
    "1F6DC.1F6EC:D 1F6F0.1F6FC:D 1F700.1F7D9:D 1F7E0.1F7EB:D 1F7F0.1F7F0:D 1F800.1F80B:D ",
    "1F810.1F847:D 1F850.1F859:D 1F860.1F887:D 1F890.1F8AD:D 1F8B0.1F8BB:D 1F8C0.1F8C1:D ",
    "1F8D0.1F8D8:D 1F900.1FA57:D 1FA60.1FA6D:D 1FA70.1FA7C:D 1FA80.1FA8A:D 1FA8E.1FAC6:D ",
    "1FAC8.1FAC8:D 1FACD.1FADC:D 1FADF.1FAEA:D 1FAEF.1FAF8:D 1FB00.1FB92:D 1FB94.1FBEF:D ",
    "1FBF0.1FBF9:3 1FBFA.1FBFA:D 1FFFE.1FFFF:9 2FFFE.2FFFF:9 3FFFE.3FFFF:9 4FFFE.4FFFF:9 ",
    "5FFFE.5FFFF:9 6FFFE.6FFFF:9 7FFFE.7FFFF:9 8FFFE.8FFFF:9 9FFFE.9FFFF:9 AFFFE.AFFFF:9 ",
    "BFFFE.BFFFF:9 CFFFE.CFFFF:9 DFFFE.E00FF:9 E0100.E01EF:8 E01F0.E0FFF:9 EFFFE.EFFFF:9 ",
    "FFFFE.FFFFF:9 10FFFE.10FFFF:9 "]

/-- The class ranges. -/
def ranges : CodeTable.RangeTable := .ofText classText

/-- The class of a number of the table. -/
def ofCode : Nat → BidiClass
  | 1 => .rightToLeft
  | 2 => .arabicLetter
  | 3 => .europeanNumber
  | 4 => .europeanSeparator
  | 5 => .europeanTerminator
  | 6 => .arabicNumber
  | 7 => .commonSeparator
  | 8 => .nonspacingMark
  | 9 => .boundaryNeutral
  | 10 => .paragraphSeparator
  | 11 => .segmentSeparator
  | 12 => .whiteSpace
  | 13 => .otherNeutral
  | 0 => .leftToRight
  | _ => .embeddingOrIsolate

/-- The bidirectional class of a character. -/
def of (c : Char) : BidiClass := ((ranges.find? c.toNat).map ofCode).getD .leftToRight

end BidiClass

end PipelineEditor
