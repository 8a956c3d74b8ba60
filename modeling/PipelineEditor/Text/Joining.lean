import PipelineEditor.Text.Table

/-!
Joining types of characters in cursive scripts, by Unicode 17.0: how a letter connects to its
neighbours. Characters outside the table do not join.
-/

namespace PipelineEditor

/-- How a character joins its neighbours. -/
inductive JoiningType where
  /-- It causes joining without joining itself. -/
  | causing
  /-- It joins on both sides. -/
  | dual
  /-- It joins to the character after it in logical order. -/
  | left
  /-- It joins to the character before it in logical order. -/
  | right
  /-- It is skipped when looking for a neighbour to join. -/
  | transparent
  /-- It does not join. -/
  | nonJoining
  deriving BEq, Inhabited, Repr

namespace JoiningType

/-- The ranges of joining characters with their type: 0 causing, 1 dual, 2 left, 3 right, 4 transparent. -/
def typeText : String :=
  String.join [
    "AD.AD:4 300.36F:4 483.489:4 591.5BD:4 5BF.5BF:4 5C1.5C2:4 5C4.5C5:4 5C7.5C7:4 610.61A:4 ",
    "61C.61C:4 620.620:1 622.625:3 626.626:1 627.627:3 628.628:1 629.629:3 62A.62E:1 62F.632:3 ",
    "633.63F:1 640.640:0 641.647:1 648.648:3 649.64A:1 64B.65F:4 66E.66F:1 670.670:4 671.673:3 ",
    "675.677:3 678.687:1 688.699:3 69A.6BF:1 6C0.6C0:3 6C1.6C2:1 6C3.6CB:3 6CC.6CC:1 6CD.6CD:3 ",
    "6CE.6CE:1 6CF.6CF:3 6D0.6D1:1 6D2.6D3:3 6D5.6D5:3 6D6.6DC:4 6DF.6E4:4 6E7.6E8:4 6EA.6ED:4 ",
    "6EE.6EF:3 6FA.6FC:1 6FF.6FF:1 70F.70F:4 710.710:3 711.711:4 712.714:1 715.719:3 71A.71D:1 ",
    "71E.71E:3 71F.727:1 728.728:3 729.729:1 72A.72A:3 72B.72B:1 72C.72C:3 72D.72E:1 72F.72F:3 ",
    "730.74A:4 74D.74D:3 74E.758:1 759.75B:3 75C.76A:1 76B.76C:3 76D.770:1 771.771:3 772.772:1 ",
    "773.774:3 775.777:1 778.779:3 77A.77F:1 7A6.7B0:4 7CA.7EA:1 7EB.7F3:4 7FA.7FA:0 7FD.7FD:4 ",
    "816.819:4 81B.823:4 825.827:4 829.82D:4 840.840:3 841.845:1 846.847:3 848.848:1 849.849:3 ",
    "84A.853:1 854.854:3 855.855:1 856.858:3 859.85B:4 860.860:1 862.865:1 867.867:3 868.868:1 ",
    "869.86A:3 870.882:3 883.885:0 886.886:1 889.88D:1 88E.88E:3 88F.88F:1 897.89F:4 8A0.8A9:1 ",
    "8AA.8AC:3 8AE.8AE:3 8AF.8B0:1 8B1.8B2:3 8B3.8B8:1 8B9.8B9:3 8BA.8C8:1 8CA.8E1:4 8E3.902:4 ",
    "93A.93A:4 93C.93C:4 941.948:4 94D.94D:4 951.957:4 962.963:4 981.981:4 9BC.9BC:4 9C1.9C4:4 ",
    "9CD.9CD:4 9E2.9E3:4 9FE.9FE:4 A01.A02:4 A3C.A3C:4 A41.A42:4 A47.A48:4 A4B.A4D:4 A51.A51:4 ",
    "A70.A71:4 A75.A75:4 A81.A82:4 ABC.ABC:4 AC1.AC5:4 AC7.AC8:4 ACD.ACD:4 AE2.AE3:4 AFA.AFF:4 ",
    "B01.B01:4 B3C.B3C:4 B3F.B3F:4 B41.B44:4 B4D.B4D:4 B55.B56:4 B62.B63:4 B82.B82:4 BC0.BC0:4 ",
    "BCD.BCD:4 C00.C00:4 C04.C04:4 C3C.C3C:4 C3E.C40:4 C46.C48:4 C4A.C4D:4 C55.C56:4 C62.C63:4 ",
    "C81.C81:4 CBC.CBC:4 CBF.CBF:4 CC6.CC6:4 CCC.CCD:4 CE2.CE3:4 D00.D01:4 D3B.D3C:4 D41.D44:4 ",
    "D4D.D4D:4 D62.D63:4 D81.D81:4 DCA.DCA:4 DD2.DD4:4 DD6.DD6:4 E31.E31:4 E34.E3A:4 E47.E4E:4 ",
    "EB1.EB1:4 EB4.EBC:4 EC8.ECE:4 F18.F19:4 F35.F35:4 F37.F37:4 F39.F39:4 F71.F7E:4 F80.F84:4 ",
    "F86.F87:4 F8D.F97:4 F99.FBC:4 FC6.FC6:4 102D.1030:4 1032.1037:4 1039.103A:4 103D.103E:4 ",
    "1058.1059:4 105E.1060:4 1071.1074:4 1082.1082:4 1085.1086:4 108D.108D:4 109D.109D:4 135D.135F:4 ",
    "1712.1714:4 1732.1733:4 1752.1753:4 1772.1773:4 17B4.17B5:4 17B7.17BD:4 17C6.17C6:4 17C9.17D3:4 ",
    "17DD.17DD:4 1807.1807:1 180A.180A:0 180B.180D:4 180F.180F:4 1820.1878:1 1885.1886:4 1887.18A8:1 ",
    "18A9.18A9:4 18AA.18AA:1 1920.1922:4 1927.1928:4 1932.1932:4 1939.193B:4 1A17.1A18:4 1A1B.1A1B:4 ",
    "1A56.1A56:4 1A58.1A5E:4 1A60.1A60:4 1A62.1A62:4 1A65.1A6C:4 1A73.1A7C:4 1A7F.1A7F:4 1AB0.1ADD:4 ",
    "1AE0.1AEB:4 1B00.1B03:4 1B34.1B34:4 1B36.1B3A:4 1B3C.1B3C:4 1B42.1B42:4 1B6B.1B73:4 1B80.1B81:4 ",
    "1BA2.1BA5:4 1BA8.1BA9:4 1BAB.1BAD:4 1BE6.1BE6:4 1BE8.1BE9:4 1BED.1BED:4 1BEF.1BF1:4 1C2C.1C33:4 ",
    "1C36.1C37:4 1CD0.1CD2:4 1CD4.1CE0:4 1CE2.1CE8:4 1CED.1CED:4 1CF4.1CF4:4 1CF8.1CF9:4 1DC0.1DFF:4 ",
    "200B.200B:4 200D.200D:0 200E.200F:4 202A.202E:4 2060.2064:4 206A.206F:4 20D0.20F0:4 2CEF.2CF1:4 ",
    "2D7F.2D7F:4 2DE0.2DFF:4 302A.302D:4 3099.309A:4 A66F.A672:4 A674.A67D:4 A69E.A69F:4 A6F0.A6F1:4 ",
    "A802.A802:4 A806.A806:4 A80B.A80B:4 A825.A826:4 A82C.A82C:4 A840.A871:1 A872.A872:2 A8C4.A8C5:4 ",
    "A8E0.A8F1:4 A8FF.A8FF:4 A926.A92D:4 A947.A951:4 A980.A982:4 A9B3.A9B3:4 A9B6.A9B9:4 A9BC.A9BD:4 ",
    "A9E5.A9E5:4 AA29.AA2E:4 AA31.AA32:4 AA35.AA36:4 AA43.AA43:4 AA4C.AA4C:4 AA7C.AA7C:4 AAB0.AAB0:4 ",
    "AAB2.AAB4:4 AAB7.AAB8:4 AABE.AABF:4 AAC1.AAC1:4 AAEC.AAED:4 AAF6.AAF6:4 ABE5.ABE5:4 ABE8.ABE8:4 ",
    "ABED.ABED:4 FB1E.FB1E:4 FE00.FE0F:4 FE20.FE2F:4 FEFF.FEFF:4 FFF9.FFFB:4 101FD.101FD:4 ",
    "102E0.102E0:4 10376.1037A:4 10A01.10A03:4 10A05.10A06:4 10A0C.10A0F:4 10A38.10A3A:4 ",
    "10A3F.10A3F:4 10AC0.10AC4:1 10AC5.10AC5:3 10AC7.10AC7:3 10AC9.10ACA:3 10ACD.10ACD:2 ",
    "10ACE.10AD2:3 10AD3.10AD6:1 10AD7.10AD7:2 10AD8.10ADC:1 10ADD.10ADD:3 10ADE.10AE0:1 ",
    "10AE1.10AE1:3 10AE4.10AE4:3 10AE5.10AE6:4 10AEB.10AEE:1 10AEF.10AEF:3 10B80.10B80:1 ",
    "10B81.10B81:3 10B82.10B82:1 10B83.10B85:3 10B86.10B88:1 10B89.10B89:3 10B8A.10B8B:1 ",
    "10B8C.10B8C:3 10B8D.10B8D:1 10B8E.10B8F:3 10B90.10B90:1 10B91.10B91:3 10BA9.10BAC:3 ",
    "10BAD.10BAE:1 10D00.10D00:2 10D01.10D21:1 10D22.10D22:3 10D23.10D23:1 10D24.10D27:4 ",
    "10D69.10D6D:4 10EAB.10EAC:4 10EC2.10EC2:3 10EC3.10EC4:1 10EC6.10EC7:1 10EFA.10EFF:4 ",
    "10F30.10F32:1 10F33.10F33:3 10F34.10F44:1 10F46.10F50:4 10F51.10F53:1 10F54.10F54:3 ",
    "10F70.10F73:1 10F74.10F75:3 10F76.10F81:1 10F82.10F85:4 10FB0.10FB0:1 10FB2.10FB3:1 ",
    "10FB4.10FB6:3 10FB8.10FB8:1 10FB9.10FBA:3 10FBB.10FBC:1 10FBD.10FBD:3 10FBE.10FBF:1 ",
    "10FC1.10FC1:1 10FC2.10FC3:3 10FC4.10FC4:1 10FC9.10FC9:3 10FCA.10FCA:1 10FCB.10FCB:2 ",
    "11001.11001:4 11038.11046:4 11070.11070:4 11073.11074:4 1107F.11081:4 110B3.110B6:4 ",
    "110B9.110BA:4 110C2.110C2:4 11100.11102:4 11127.1112B:4 1112D.11134:4 11173.11173:4 ",
    "11180.11181:4 111B6.111BE:4 111C9.111CC:4 111CF.111CF:4 1122F.11231:4 11234.11234:4 ",
    "11236.11237:4 1123E.1123E:4 11241.11241:4 112DF.112DF:4 112E3.112EA:4 11300.11301:4 ",
    "1133B.1133C:4 11340.11340:4 11366.1136C:4 11370.11374:4 113BB.113C0:4 113CE.113CE:4 ",
    "113D0.113D0:4 113D2.113D2:4 113E1.113E2:4 11438.1143F:4 11442.11444:4 11446.11446:4 ",
    "1145E.1145E:4 114B3.114B8:4 114BA.114BA:4 114BF.114C0:4 114C2.114C3:4 115B2.115B5:4 ",
    "115BC.115BD:4 115BF.115C0:4 115DC.115DD:4 11633.1163A:4 1163D.1163D:4 1163F.11640:4 ",
    "116AB.116AB:4 116AD.116AD:4 116B0.116B5:4 116B7.116B7:4 1171D.1171D:4 1171F.1171F:4 ",
    "11722.11725:4 11727.1172B:4 1182F.11837:4 11839.1183A:4 1193B.1193C:4 1193E.1193E:4 ",
    "11943.11943:4 119D4.119D7:4 119DA.119DB:4 119E0.119E0:4 11A01.11A0A:4 11A33.11A38:4 ",
    "11A3B.11A3E:4 11A47.11A47:4 11A51.11A56:4 11A59.11A5B:4 11A8A.11A96:4 11A98.11A99:4 ",
    "11B60.11B60:4 11B62.11B64:4 11B66.11B66:4 11C30.11C36:4 11C38.11C3D:4 11C3F.11C3F:4 ",
    "11C92.11CA7:4 11CAA.11CB0:4 11CB2.11CB3:4 11CB5.11CB6:4 11D31.11D36:4 11D3A.11D3A:4 ",
    "11D3C.11D3D:4 11D3F.11D45:4 11D47.11D47:4 11D90.11D91:4 11D95.11D95:4 11D97.11D97:4 ",
    "11EF3.11EF4:4 11F00.11F01:4 11F36.11F3A:4 11F40.11F40:4 11F42.11F42:4 11F5A.11F5A:4 ",
    "13430.13440:4 13447.13455:4 1611E.16129:4 1612D.1612F:4 16AF0.16AF4:4 16B30.16B36:4 ",
    "16F4F.16F4F:4 16F8F.16F92:4 16FE4.16FE4:4 1BC9D.1BC9E:4 1BCA0.1BCA3:4 1CF00.1CF2D:4 ",
    "1CF30.1CF46:4 1D167.1D169:4 1D173.1D182:4 1D185.1D18B:4 1D1AA.1D1AD:4 1D242.1D244:4 ",
    "1DA00.1DA36:4 1DA3B.1DA6C:4 1DA75.1DA75:4 1DA84.1DA84:4 1DA9B.1DA9F:4 1DAA1.1DAAF:4 ",
    "1E000.1E006:4 1E008.1E018:4 1E01B.1E021:4 1E023.1E024:4 1E026.1E02A:4 1E08F.1E08F:4 ",
    "1E130.1E136:4 1E2AE.1E2AE:4 1E2EC.1E2EF:4 1E4EC.1E4EF:4 1E5EE.1E5EF:4 1E6E3.1E6E3:4 ",
    "1E6E6.1E6E6:4 1E6EE.1E6EF:4 1E6F5.1E6F5:4 1E8D0.1E8D6:4 1E900.1E943:1 1E944.1E94B:4 ",
    "E0001.E0001:4 E0020.E007F:4 E0100.E01EF:4 "]

/-- The type ranges. -/
def ranges : CodeTable.RangeTable := .ofText typeText

/-- The joining type of a character. -/
def of (c : Char) : JoiningType :=
  match ranges.find? c.toNat with
  | some 0 => .causing
  | some 1 => .dual
  | some 2 => .left
  | some 3 => .right
  | some 4 => .transparent
  | _ => .nonJoining

end JoiningType

end PipelineEditor
