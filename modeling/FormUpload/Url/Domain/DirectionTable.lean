/-!
# Joining types and writing directions, as data

Rows are separated by blanks and hold hexadecimal numbers separated by points.
-/

namespace FormUpload.Url.Domain

/-- Joining types.  A row holds the first and the last character of a range and the type:
1 dual, 2 left, 3 right, 4 causing, 5 transparent. -/
def joiningRows : String := "AD.AD.5 300.36F.5 483.489.5 591.5BD.5 5BF.5BF.5 5C1.5C2.5 5C4.5C5.5 5C7.5C7.5 610.61A.5
61C.61C.5 620.620.1 622.625.3 626.626.1 627.627.3 628.628.1 629.629.3 62A.62E.1 62F.632.3
633.63F.1 640.640.4 641.647.1 648.648.3 649.64A.1 64B.65F.5 66E.66F.1 670.670.5 671.673.3
675.677.3 678.687.1 688.699.3 69A.6BF.1 6C0.6C0.3 6C1.6C2.1 6C3.6CB.3 6CC.6CC.1 6CD.6CD.3
6CE.6CE.1 6CF.6CF.3 6D0.6D1.1 6D2.6D3.3 6D5.6D5.3 6D6.6DC.5 6DF.6E4.5 6E7.6E8.5 6EA.6ED.5
6EE.6EF.3 6FA.6FC.1 6FF.6FF.1 70F.70F.5 710.710.3 711.711.5 712.714.1 715.719.3 71A.71D.1
71E.71E.3 71F.727.1 728.728.3 729.729.1 72A.72A.3 72B.72B.1 72C.72C.3 72D.72E.1 72F.72F.3
730.74A.5 74D.74D.3 74E.758.1 759.75B.3 75C.76A.1 76B.76C.3 76D.770.1 771.771.3 772.772.1
773.774.3 775.777.1 778.779.3 77A.77F.1 7A6.7B0.5 7CA.7EA.1 7EB.7F3.5 7FA.7FA.4 7FD.7FD.5
816.819.5 81B.823.5 825.827.5 829.82D.5 840.840.3 841.845.1 846.847.3 848.848.1 849.849.3
84A.853.1 854.854.3 855.855.1 856.858.3 859.85B.5 860.860.1 862.865.1 867.867.3 868.868.1
869.86A.3 870.882.3 883.885.4 886.886.1 889.88D.1 88E.88E.3 88F.88F.1 897.89F.5 8A0.8A9.1
8AA.8AC.3 8AE.8AE.3 8AF.8B0.1 8B1.8B2.3 8B3.8B8.1 8B9.8B9.3 8BA.8C8.1 8CA.8E1.5 8E3.902.5
93A.93A.5 93C.93C.5 941.948.5 94D.94D.5 951.957.5 962.963.5 981.981.5 9BC.9BC.5 9C1.9C4.5
9CD.9CD.5 9E2.9E3.5 9FE.9FE.5 A01.A02.5 A3C.A3C.5 A41.A42.5 A47.A48.5 A4B.A4D.5 A51.A51.5
A70.A71.5 A75.A75.5 A81.A82.5 ABC.ABC.5 AC1.AC5.5 AC7.AC8.5 ACD.ACD.5 AE2.AE3.5 AFA.AFF.5
B01.B01.5 B3C.B3C.5 B3F.B3F.5 B41.B44.5 B4D.B4D.5 B55.B56.5 B62.B63.5 B82.B82.5 BC0.BC0.5
BCD.BCD.5 C00.C00.5 C04.C04.5 C3C.C3C.5 C3E.C40.5 C46.C48.5 C4A.C4D.5 C55.C56.5 C62.C63.5
C81.C81.5 CBC.CBC.5 CBF.CBF.5 CC6.CC6.5 CCC.CCD.5 CE2.CE3.5 D00.D01.5 D3B.D3C.5 D41.D44.5
D4D.D4D.5 D62.D63.5 D81.D81.5 DCA.DCA.5 DD2.DD4.5 DD6.DD6.5 E31.E31.5 E34.E3A.5 E47.E4E.5
EB1.EB1.5 EB4.EBC.5 EC8.ECE.5 F18.F19.5 F35.F35.5 F37.F37.5 F39.F39.5 F71.F7E.5 F80.F84.5
F86.F87.5 F8D.F97.5 F99.FBC.5 FC6.FC6.5 102D.1030.5 1032.1037.5 1039.103A.5 103D.103E.5
1058.1059.5 105E.1060.5 1071.1074.5 1082.1082.5 1085.1086.5 108D.108D.5 109D.109D.5
135D.135F.5 1712.1714.5 1732.1733.5 1752.1753.5 1772.1773.5 17B4.17B5.5 17B7.17BD.5
17C6.17C6.5 17C9.17D3.5 17DD.17DD.5 1807.1807.1 180A.180A.4 180B.180D.5 180F.180F.5
1820.1878.1 1885.1886.5 1887.18A8.1 18A9.18A9.5 18AA.18AA.1 1920.1922.5 1927.1928.5
1932.1932.5 1939.193B.5 1A17.1A18.5 1A1B.1A1B.5 1A56.1A56.5 1A58.1A5E.5 1A60.1A60.5
1A62.1A62.5 1A65.1A6C.5 1A73.1A7C.5 1A7F.1A7F.5 1AB0.1ADD.5 1AE0.1AEB.5 1B00.1B03.5
1B34.1B34.5 1B36.1B3A.5 1B3C.1B3C.5 1B42.1B42.5 1B6B.1B73.5 1B80.1B81.5 1BA2.1BA5.5
1BA8.1BA9.5 1BAB.1BAD.5 1BE6.1BE6.5 1BE8.1BE9.5 1BED.1BED.5 1BEF.1BF1.5 1C2C.1C33.5
1C36.1C37.5 1CD0.1CD2.5 1CD4.1CE0.5 1CE2.1CE8.5 1CED.1CED.5 1CF4.1CF4.5 1CF8.1CF9.5
1DC0.1DFF.5 200B.200B.5 200D.200D.4 200E.200F.5 202A.202E.5 2060.2064.5 206A.206F.5
20D0.20F0.5 2CEF.2CF1.5 2D7F.2D7F.5 2DE0.2DFF.5 302A.302D.5 3099.309A.5 A66F.A672.5
A674.A67D.5 A69E.A69F.5 A6F0.A6F1.5 A802.A802.5 A806.A806.5 A80B.A80B.5 A825.A826.5
A82C.A82C.5 A840.A871.1 A872.A872.2 A8C4.A8C5.5 A8E0.A8F1.5 A8FF.A8FF.5 A926.A92D.5
A947.A951.5 A980.A982.5 A9B3.A9B3.5 A9B6.A9B9.5 A9BC.A9BD.5 A9E5.A9E5.5 AA29.AA2E.5
AA31.AA32.5 AA35.AA36.5 AA43.AA43.5 AA4C.AA4C.5 AA7C.AA7C.5 AAB0.AAB0.5 AAB2.AAB4.5
AAB7.AAB8.5 AABE.AABF.5 AAC1.AAC1.5 AAEC.AAED.5 AAF6.AAF6.5 ABE5.ABE5.5 ABE8.ABE8.5
ABED.ABED.5 FB1E.FB1E.5 FE00.FE0F.5 FE20.FE2F.5 FEFF.FEFF.5 FFF9.FFFB.5 101FD.101FD.5
102E0.102E0.5 10376.1037A.5 10A01.10A03.5 10A05.10A06.5 10A0C.10A0F.5 10A38.10A3A.5
10A3F.10A3F.5 10AC0.10AC4.1 10AC5.10AC5.3 10AC7.10AC7.3 10AC9.10ACA.3 10ACD.10ACD.2
10ACE.10AD2.3 10AD3.10AD6.1 10AD7.10AD7.2 10AD8.10ADC.1 10ADD.10ADD.3 10ADE.10AE0.1
10AE1.10AE1.3 10AE4.10AE4.3 10AE5.10AE6.5 10AEB.10AEE.1 10AEF.10AEF.3 10B80.10B80.1
10B81.10B81.3 10B82.10B82.1 10B83.10B85.3 10B86.10B88.1 10B89.10B89.3 10B8A.10B8B.1
10B8C.10B8C.3 10B8D.10B8D.1 10B8E.10B8F.3 10B90.10B90.1 10B91.10B91.3 10BA9.10BAC.3
10BAD.10BAE.1 10D00.10D00.2 10D01.10D21.1 10D22.10D22.3 10D23.10D23.1 10D24.10D27.5
10D69.10D6D.5 10EAB.10EAC.5 10EC2.10EC2.3 10EC3.10EC4.1 10EC6.10EC7.1 10EFA.10EFF.5
10F30.10F32.1 10F33.10F33.3 10F34.10F44.1 10F46.10F50.5 10F51.10F53.1 10F54.10F54.3
10F70.10F73.1 10F74.10F75.3 10F76.10F81.1 10F82.10F85.5 10FB0.10FB0.1 10FB2.10FB3.1
10FB4.10FB6.3 10FB8.10FB8.1 10FB9.10FBA.3 10FBB.10FBC.1 10FBD.10FBD.3 10FBE.10FBF.1
10FC1.10FC1.1 10FC2.10FC3.3 10FC4.10FC4.1 10FC9.10FC9.3 10FCA.10FCA.1 10FCB.10FCB.2
11001.11001.5 11038.11046.5 11070.11070.5 11073.11074.5 1107F.11081.5 110B3.110B6.5
110B9.110BA.5 110C2.110C2.5 11100.11102.5 11127.1112B.5 1112D.11134.5 11173.11173.5
11180.11181.5 111B6.111BE.5 111C9.111CC.5 111CF.111CF.5 1122F.11231.5 11234.11234.5
11236.11237.5 1123E.1123E.5 11241.11241.5 112DF.112DF.5 112E3.112EA.5 11300.11301.5
1133B.1133C.5 11340.11340.5 11366.1136C.5 11370.11374.5 113BB.113C0.5 113CE.113CE.5
113D0.113D0.5 113D2.113D2.5 113E1.113E2.5 11438.1143F.5 11442.11444.5 11446.11446.5
1145E.1145E.5 114B3.114B8.5 114BA.114BA.5 114BF.114C0.5 114C2.114C3.5 115B2.115B5.5
115BC.115BD.5 115BF.115C0.5 115DC.115DD.5 11633.1163A.5 1163D.1163D.5 1163F.11640.5
116AB.116AB.5 116AD.116AD.5 116B0.116B5.5 116B7.116B7.5 1171D.1171D.5 1171F.1171F.5
11722.11725.5 11727.1172B.5 1182F.11837.5 11839.1183A.5 1193B.1193C.5 1193E.1193E.5
11943.11943.5 119D4.119D7.5 119DA.119DB.5 119E0.119E0.5 11A01.11A0A.5 11A33.11A38.5
11A3B.11A3E.5 11A47.11A47.5 11A51.11A56.5 11A59.11A5B.5 11A8A.11A96.5 11A98.11A99.5
11B60.11B60.5 11B62.11B64.5 11B66.11B66.5 11C30.11C36.5 11C38.11C3D.5 11C3F.11C3F.5
11C92.11CA7.5 11CAA.11CB0.5 11CB2.11CB3.5 11CB5.11CB6.5 11D31.11D36.5 11D3A.11D3A.5
11D3C.11D3D.5 11D3F.11D45.5 11D47.11D47.5 11D90.11D91.5 11D95.11D95.5 11D97.11D97.5
11EF3.11EF4.5 11F00.11F01.5 11F36.11F3A.5 11F40.11F40.5 11F42.11F42.5 11F5A.11F5A.5
13430.13440.5 13447.13455.5 1611E.16129.5 1612D.1612F.5 16AF0.16AF4.5 16B30.16B36.5
16F4F.16F4F.5 16F8F.16F92.5 16FE4.16FE4.5 1BC9D.1BC9E.5 1BCA0.1BCA3.5 1CF00.1CF2D.5
1CF30.1CF46.5 1D167.1D169.5 1D173.1D182.5 1D185.1D18B.5 1D1AA.1D1AD.5 1D242.1D244.5
1DA00.1DA36.5 1DA3B.1DA6C.5 1DA75.1DA75.5 1DA84.1DA84.5 1DA9B.1DA9F.5 1DAA1.1DAAF.5
1E000.1E006.5 1E008.1E018.5 1E01B.1E021.5 1E023.1E024.5 1E026.1E02A.5 1E08F.1E08F.5
1E130.1E136.5 1E2AE.1E2AE.5 1E2EC.1E2EF.5 1E4EC.1E4EF.5 1E5EE.1E5EF.5 1E6E3.1E6E3.5
1E6E6.1E6E6.5 1E6EE.1E6EF.5 1E6F5.1E6F5.5 1E8D0.1E8D6.5 1E900.1E943.1 1E944.1E94B.5
E0001.E0001.5 E0020.E007F.5 E0100.E01EF.5"

/-- Writing directions other than left to right.  A row holds the first and the last character of
a range and the direction: 1 right to left, 2 Arabic letter, 3 Arabic number, 4 European number,
5 separator, 6 common separator, 7 terminator, 8 neutral, 9 boundary, 10 mark. -/
def directionRows : String := "0.8.9 9.9.8 A.A.8 B.B.8 C.C.8 D.D.8 E.1B.9 1C.1E.8 1F.1F.8 20.20.8 21.22.8 23.25.7 26.2A.8
2B.2B.5 2C.2C.6 2D.2D.5 2E.2F.6 30.39.4 3A.3A.6 3B.40.8 5B.60.8 7B.7E.8 7F.7F.9 A0.A0.6
A1.A1.8 A2.A5.7 A6.A9.8 AB.AC.8 AD.AD.9 AE.AF.8 B0.B1.7 B2.B3.4 B4.B4.8 B6.B8.8 B9.B9.4
BB.BF.8 D7.D7.8 F7.F7.8 2B9.2BA.8 2C2.2CF.8 2D2.2DF.8 2E5.2ED.8 2EF.2FF.8 300.36F.A
374.375.8 37E.37E.8 384.385.8 387.387.8 3F6.3F6.8 483.489.A 58A.58E.8 58F.58F.7 591.5BD.A
5BE.5BE.1 5BF.5BF.A 5C0.5C0.1 5C1.5C2.A 5C3.5C3.1 5C4.5C5.A 5C6.5C6.1 5C7.5C7.A 5D0.5F4.1
606.607.8 608.608.2 609.60A.7 60B.60B.2 60C.60C.6 60D.60D.2 60E.60F.8 610.61A.A 61B.64A.2
64B.65F.A 660.669.3 66A.66A.7 66B.66C.3 66D.66F.2 670.670.A 671.6D5.2 6D6.6DC.A 6DE.6DE.8
6DF.6E4.A 6E5.6E6.2 6E7.6E8.A 6E9.6E9.8 6EA.6ED.A 6EE.6EF.2 6F0.6F9.4 6FA.710.2 711.711.A
712.72F.2 730.74A.A 74D.7A5.2 7A6.7B0.A 7B1.7B1.2 7C0.7EA.1 7EB.7F3.A 7F4.7F5.1 7F6.7F9.8
7FA.7FA.1 7FD.7FD.A 7FE.815.1 816.819.A 81A.81A.1 81B.823.A 824.824.1 825.827.A 828.828.1
829.82D.A 830.858.1 859.85B.A 85E.85E.1 860.88E.2 898.89F.A 8A0.8C9.2 8CA.902.A 93A.93A.A
93C.93C.A 941.948.A 94D.94D.A 951.957.A 962.963.A 981.981.A 9BC.9BC.A 9C1.9C4.A 9CD.9CD.A
9E2.9E3.A 9F2.9F3.7 9FB.9FB.7 9FE.A02.A A3C.A3C.A A41.A51.A A70.A71.A A75.A75.A A81.A82.A
ABC.ABC.A AC1.AC8.A ACD.ACD.A AE2.AE3.A AF1.AF1.7 AFA.B01.A B3C.B3C.A B3F.B3F.A B41.B44.A
B4D.B56.A B62.B63.A B82.B82.A BC0.BC0.A BCD.BCD.A BF3.BF8.8 BF9.BF9.7 BFA.BFA.8 C00.C00.A
C04.C04.A C3C.C3C.A C3E.C40.A C46.C56.A C62.C63.A C78.C7E.8 C81.C81.A CBC.CBC.A CCC.CCD.A
CE2.CE3.A D00.D01.A D3B.D3C.A D41.D44.A D4D.D4D.A D62.D63.A D81.D81.A DCA.DCA.A DD2.DD6.A
E31.E31.A E34.E3A.A E3F.E3F.7 E47.E4E.A EB1.EB1.A EB4.EBC.A EC8.ECE.A F18.F19.A F35.F35.A
F37.F37.A F39.F39.A F3A.F3D.8 F71.F7E.A F80.F84.A F86.F87.A F8D.FBC.A FC6.FC6.A 102D.1030.A
1032.1037.A 1039.103A.A 103D.103E.A 1058.1059.A 105E.1060.A 1071.1074.A 1082.1082.A
1085.1086.A 108D.108D.A 109D.109D.A 135D.135F.A 1390.1399.8 1400.1400.8 169B.169C.8
1712.1714.A 1732.1733.A 1752.1753.A 1772.1773.A 17B4.17B5.A 17B7.17BD.A 17C6.17C6.A
17C9.17D3.A 17DB.17DB.7 17DD.17DD.A 17F0.180A.8 180B.180D.A 180E.180E.9 180F.180F.A
1885.1886.A 18A9.18A9.A 1920.1922.A 1927.1928.A 1932.1932.A 1939.193B.A 1940.1945.8
19DE.19FF.8 1A17.1A18.A 1A1B.1A1B.A 1A56.1A56.A 1A58.1A60.A 1A62.1A62.A 1A65.1A6C.A
1A73.1A7F.A 1AB0.1ACE.A 1B00.1B03.A 1B34.1B34.A 1B36.1B3A.A 1B3C.1B3C.A 1B42.1B42.A
1B6B.1B73.A 1B80.1B81.A 1BA2.1BA5.A 1BA8.1BA9.A 1BAB.1BAD.A 1BE6.1BE6.A 1BE8.1BE9.A
1BED.1BED.A 1BEF.1BF1.A 1C2C.1C33.A 1C36.1C37.A 1CD0.1CD2.A 1CD4.1CE0.A 1CE2.1CE8.A
1CED.1CED.A 1CF4.1CF4.A 1CF8.1CF9.A 1DC0.1DFF.A 1FBD.1FBD.8 1FBF.1FC1.8 1FCD.1FCF.8
1FDD.1FDF.8 1FED.1FEF.8 1FFD.1FFE.8 2000.200A.8 200B.200D.9 2010.2027.8 202F.202F.6
2030.2034.7 2035.2043.8 2044.2044.6 2045.205E.8 205F.205F.8 2060.206F.9 2070.2070.4
2074.2079.4 207A.207B.5 207C.207E.8 2080.2089.4 208A.208B.5 208C.208E.8 20A0.20C0.7
20D0.20F0.A 2100.2101.8 2103.2106.8 2108.2109.8 2114.2114.8 2116.2118.8 211E.2123.8
2125.2125.8 2127.2127.8 2129.2129.8 212E.212E.7 213A.213B.8 2140.2144.8 214A.214D.8
2150.215F.8 2189.2211.8 2212.2212.5 2213.2213.7 2214.2335.8 237B.2394.8 2396.2426.8
2440.2487.8 24EA.26AB.8 26AD.27FF.8 2900.2B95.8 2B97.2BFF.8 2CE5.2CEA.8 2CEF.2CF1.A
2CF9.2CFF.8 2D7F.2D7F.A 2DE0.2DFF.A 2E00.2FD5.8 3000.3000.8 3001.3004.8 3008.3020.8
302A.302D.A 3030.3030.8 3036.3037.8 303D.303F.8 3099.309A.A 309B.309C.8 30A0.30A0.8
30FB.30FB.8 31C0.31E3.8 321D.321E.8 3250.325F.8 327C.327E.8 32B1.32BF.8 32CC.32CF.8
3377.337A.8 33DE.33DF.8 33FF.33FF.8 4DC0.4DFF.8 A490.A4C6.8 A60D.A60F.8 A66F.A672.A
A673.A673.8 A674.A67D.A A67E.A67F.8 A69E.A69F.A A6F0.A6F1.A A700.A721.8 A788.A788.8
A802.A802.A A806.A806.A A80B.A80B.A A825.A826.A A828.A82B.8 A82C.A82C.A A838.A839.7
A874.A877.8 A8C4.A8C5.A A8E0.A8F1.A A8FF.A8FF.A A926.A92D.A A947.A951.A A980.A982.A
A9B3.A9B3.A A9B6.A9B9.A A9BC.A9BD.A A9E5.A9E5.A AA29.AA2E.A AA31.AA32.A AA35.AA36.A
AA43.AA43.A AA4C.AA4C.A AA7C.AA7C.A AAB0.AAB0.A AAB2.AAB4.A AAB7.AAB8.A AABE.AABF.A
AAC1.AAC1.A AAEC.AAED.A AAF6.AAF6.A AB6A.AB6B.8 ABE5.ABE5.A ABE8.ABE8.A ABED.ABED.A
FB1D.FB1D.1 FB1E.FB1E.A FB1F.FB28.1 FB29.FB29.5 FB2A.FB4F.1 FB50.FBC2.2 FBD3.FD3D.2
FD3E.FD4F.8 FD50.FD8F.2 FD92.FDC7.2 FDCF.FDCF.8 FDF0.FDFC.2 FDFD.FDFF.8 FE00.FE0F.A
FE10.FE18.8 FE20.FE2F.A FE31.FE4F.8 FE50.FE50.6 FE51.FE54.8 FE55.FE55.6 FE56.FE5E.8
FE5F.FE5F.7 FE60.FE61.8 FE62.FE63.5 FE64.FE68.8 FE69.FE6A.7 FE6B.FE6B.8 FE70.FEFC.2
FEFF.FEFF.9 FF01.FF02.8 FF03.FF05.7 FF06.FF0A.8 FF0B.FF0B.5 FF0C.FF0C.6 FF0D.FF0D.5
FF0E.FF0F.6 FF10.FF19.4 FF1A.FF1A.6 FF1B.FF20.8 FF3B.FF40.8 FF5B.FF65.8 FFE0.FFE1.7
FFE2.FFE4.8 FFE5.FFE6.7 FFE8.FFEE.8 10101.10101.8 10140.1018C.8 10190.101A0.8 101FD.101FD.A
102E0.102E0.A 102E1.102FB.4 10376.1037A.A 10800.1091B.1 1091F.1091F.8 10920.1093F.1
10980.10A00.1 10A01.10A0F.A 10A10.10A35.1 10A38.10A3F.A 10A40.10AE4.1 10AE5.10AE6.A
10AEB.10B35.1 10B39.10B3F.8 10B40.10CFF.1 10D00.10D23.2 10D24.10D27.A 10D30.10D39.3
10E60.10E7E.3 10E80.10EA9.1 10EAB.10EAC.A 10EAD.10EB1.1 10EFD.10EFF.A 10F00.10F27.1
10F30.10F45.2 10F46.10F50.A 10F51.10F59.2 10F70.10F81.1 10F82.10F85.A 10F86.10FF6.1
11001.11001.A 11038.11046.A 11052.11065.8 11070.11070.A 11073.11074.A 1107F.11081.A
110B3.110B6.A 110B9.110BA.A 110C2.110C2.A 11100.11102.A 11127.1112B.A 1112D.11134.A
11173.11173.A 11180.11181.A 111B6.111BE.A 111C9.111CC.A 111CF.111CF.A 1122F.11231.A
11234.11234.A 11236.11237.A 1123E.1123E.A 11241.11241.A 112DF.112DF.A 112E3.112EA.A
11300.11301.A 1133B.1133C.A 11340.11340.A 11366.11374.A 11438.1143F.A 11442.11444.A
11446.11446.A 1145E.1145E.A 114B3.114B8.A 114BA.114BA.A 114BF.114C0.A 114C2.114C3.A
115B2.115B5.A 115BC.115BD.A 115BF.115C0.A 115DC.115DD.A 11633.1163A.A 1163D.1163D.A
1163F.11640.A 11660.1166C.8 116AB.116AB.A 116AD.116AD.A 116B0.116B5.A 116B7.116B7.A
1171D.1171F.A 11722.11725.A 11727.1172B.A 1182F.11837.A 11839.1183A.A 1193B.1193C.A
1193E.1193E.A 11943.11943.A 119D4.119DB.A 119E0.119E0.A 11A01.11A06.A 11A09.11A0A.A
11A33.11A38.A 11A3B.11A3E.A 11A47.11A47.A 11A51.11A56.A 11A59.11A5B.A 11A8A.11A96.A
11A98.11A99.A 11C30.11C3D.A 11C92.11CA7.A 11CAA.11CB0.A 11CB2.11CB3.A 11CB5.11CB6.A
11D31.11D45.A 11D47.11D47.A 11D90.11D91.A 11D95.11D95.A 11D97.11D97.A 11EF3.11EF4.A
11F00.11F01.A 11F36.11F3A.A 11F40.11F40.A 11F42.11F42.A 11FD5.11FDC.8 11FDD.11FE0.7
11FE1.11FF1.8 13440.13440.A 13447.13455.A 16AF0.16AF4.A 16B30.16B36.A 16F4F.16F4F.A
16F8F.16F92.A 16FE2.16FE2.8 16FE4.16FE4.A 1BC9D.1BC9E.A 1BCA0.1BCA3.9 1CF00.1CF46.A
1D167.1D169.A 1D173.1D17A.9 1D17B.1D182.A 1D185.1D18B.A 1D1AA.1D1AD.A 1D1E9.1D241.8
1D242.1D244.A 1D245.1D245.8 1D300.1D356.8 1D6DB.1D6DB.8 1D715.1D715.8 1D74F.1D74F.8
1D789.1D789.8 1D7C3.1D7C3.8 1D7CE.1D7FF.4 1DA00.1DA36.A 1DA3B.1DA6C.A 1DA75.1DA75.A
1DA84.1DA84.A 1DA9B.1DAAF.A 1E000.1E02A.A 1E08F.1E08F.A 1E130.1E136.A 1E2AE.1E2AE.A
1E2EC.1E2EF.A 1E2FF.1E2FF.7 1E4EC.1E4EF.A 1E800.1E8CF.1 1E8D0.1E8D6.A 1E900.1E943.1
1E944.1E94A.A 1E94B.1E95F.1 1EC71.1EEBB.2 1EEF0.1F0F5.8 1F101.1F10A.4 1F10B.1F10F.8
1F12F.1F12F.8 1F16A.1F16F.8 1F1AD.1F1AD.8 1F260.1F6D7.8 1F6DC.1F776.8 1F77B.1F8B1.8
1F900.1FA53.8 1FA60.1FA88.8 1FA90.1FABD.8 1FABF.1FAC5.8 1FACE.1FADB.8 1FAE0.1FAE8.8
1FAF0.1FBCA.8 1FBF0.1FBF9.4 E0001.E0001.9 E0020.E007F.9 E0100.E01EF.A"

end FormUpload.Url.Domain
