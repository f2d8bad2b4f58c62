/-!
# The compatibility mapping of domain names, as data

Rows are separated by blanks and hold hexadecimal numbers separated by points.
Characters that stand in no row are kept.
-/

namespace FormUpload.Url.Domain

/-- Characters that become one other character.  A row holds the first character, how many
follow, their step, the first replacement and the step of the replacements. -/
def runRows : String := "41.1A.1.61.1 A0.1.1.20.0 AA.1.1.61.0 B2.2.1.32.1 B5.1.1.3BC.0 B9.1.1.31.0 BA.1.1.6F.0
C0.17.1.E0.1 D8.7.1.F8.1 100.18.2.101.2 134.2.2.135.2 139.3.2.13A.2 141.4.2.142.2
14A.17.2.14B.2 178.1.1.FF.0 179.3.2.17A.2 17F.1.1.73.0 181.1.1.253.0 182.2.2.183.2
186.1.1.254.0 187.1.1.188.0 189.2.1.256.1 18B.1.1.18C.0 18E.1.1.1DD.0 18F.2.1.259.2
191.1.1.192.0 193.1.1.260.0 194.1.1.263.0 196.1.1.269.0 197.1.1.268.0 198.1.1.199.0
19C.1.1.26F.0 19D.1.1.272.0 19F.1.1.275.0 1A0.3.2.1A1.2 1A6.1.1.280.0 1A7.1.1.1A8.0
1A9.1.1.283.0 1AC.1.1.1AD.0 1AE.1.1.288.0 1AF.1.1.1B0.0 1B1.2.1.28A.1 1B3.2.2.1B4.2
1B7.1.1.292.0 1B8.1.1.1B9.0 1BC.1.1.1BD.0 1CD.8.2.1CE.2 1DE.9.2.1DF.2 1F4.1.1.1F5.0
1F6.1.1.195.0 1F7.1.1.1BF.0 1F8.14.2.1F9.2 220.1.1.19E.0 222.9.2.223.2 23A.1.1.2C65.0
23B.1.1.23C.0 23D.1.1.19A.0 23E.1.1.2C66.0 241.1.1.242.0 243.1.1.180.0 244.1.1.289.0
245.1.1.28C.0 246.5.2.247.2 2B0.1.1.68.0 2B1.1.1.266.0 2B2.1.1.6A.0 2B3.1.1.72.0
2B4.2.1.279.2 2B6.1.1.281.0 2B7.2.1.77.2 2E0.1.1.263.0 2E1.1.1.6C.0 2E2.1.1.73.0
2E3.1.1.78.0 2E4.1.1.295.0 340.2.1.300.1 343.1.1.313.0 345.1.1.3B9.0 370.2.2.371.2
374.1.1.2B9.0 376.1.1.377.0 37E.1.1.3B.0 37F.1.1.3F3.0 386.1.1.3AC.0 387.1.1.B7.0
388.3.1.3AD.1 38C.2.2.3CC.1 38F.1.1.3CE.0 391.11.1.3B1.1 3A3.9.1.3C3.1 3CF.1.1.3D7.0
3D0.1.1.3B2.0 3D1.1.1.3B8.0 3D2.1.1.3C5.0 3D3.1.1.3CD.0 3D4.1.1.3CB.0 3D5.1.1.3C6.0
3D6.1.1.3C0.0 3D8.C.2.3D9.2 3F0.1.1.3BA.0 3F1.2.1.3C1.2 3F4.1.1.3B8.0 3F5.1.1.3B5.0
3F7.1.1.3F8.0 3F9.1.1.3C3.0 3FA.1.1.3FB.0 3FD.3.1.37B.1 400.10.1.450.1 410.20.1.430.1
460.11.2.461.2 48A.1B.2.48B.2 4C0.1.1.4CF.0 4C1.7.2.4C2.2 4D0.30.2.4D1.2 531.26.1.561.1
F0C.1.1.F0B.0 10A0.26.1.2D00.1 10C7.1.1.2D27.0 10CD.1.1.2D2D.0 10FC.1.1.10DC.0
13F8.6.1.13F0.1 1C80.2.1.432.2 1C82.1.1.43E.0 1C83.2.1.441.1 1C85.1.1.442.0 1C86.1.1.44A.0
1C87.1.1.463.0 1C88.1.1.A64B.0 1C89.1.1.1C8A.0 1C90.2B.1.10D0.1 1CBD.3.1.10FD.1
1D2C.1.1.61.0 1D2D.1.1.E6.0 1D2E.2.2.62.2 1D31.1.1.65.0 1D32.1.1.1DD.0 1D33.8.1.67.1
1D3C.1.1.6F.0 1D3D.1.1.223.0 1D3E.3.1.70.2 1D41.2.1.75.2 1D43.1.1.61.0 1D44.2.1.250.1
1D46.1.1.1D02.0 1D47.2.1.62.2 1D49.1.1.65.0 1D4A.2.1.259.2 1D4C.1.1.25C.0 1D4D.1.1.67.0
1D4F.2.1.6B.2 1D51.1.1.14B.0 1D52.1.1.6F.0 1D53.1.1.254.0 1D54.2.1.1D16.1 1D56.1.1.70.0
1D57.2.1.74.1 1D59.1.1.1D1D.0 1D5A.1.1.26F.0 1D5B.1.1.76.0 1D5C.1.1.1D25.0 1D5D.3.1.3B2.1
1D60.2.1.3C6.1 1D62.1.1.69.0 1D63.1.1.72.0 1D64.2.1.75.1 1D66.2.1.3B2.1 1D68.1.1.3C1.0
1D69.2.1.3C6.1 1D78.1.1.43D.0 1D9B.1.1.252.0 1D9C.1.1.63.0 1D9D.1.1.255.0 1D9E.1.1.F0.0
1D9F.1.1.25C.0 1DA0.1.1.66.0 1DA1.2.1.25F.2 1DA3.1.1.265.0 1DA4.3.1.268.1 1DA7.1.1.1D7B.0
1DA8.1.1.29D.0 1DA9.1.1.26D.0 1DAA.1.1.1D85.0 1DAB.1.1.29F.0 1DAC.1.1.271.0 1DAD.2.1.270.2
1DAF.3.1.273.1 1DB2.1.1.278.0 1DB3.2.1.282.1 1DB5.1.1.1AB.0 1DB6.2.1.289.1 1DB8.1.1.1D1C.0
1DB9.2.1.28B.1 1DBB.1.1.7A.0 1DBC.3.1.290.1 1DBF.1.1.3B8.0 1E00.4B.2.1E01.2 1E9B.1.1.1E61.0
1E9E.1.1.DF.0 1EA0.30.2.1EA1.2 1F08.8.1.1F00.1 1F18.6.1.1F10.1 1F28.8.1.1F20.1
1F38.8.1.1F30.1 1F48.6.1.1F40.1 1F59.4.2.1F51.2 1F68.8.1.1F60.1 1F71.4.2.3AC.1
1F79.3.2.3CC.1 1FB8.2.1.1FB0.1 1FBA.1.1.1F70.0 1FBB.1.1.3AC.0 1FBE.1.1.3B9.0 1FC8.1.1.1F72.0
1FC9.1.1.3AD.0 1FCA.1.1.1F74.0 1FCB.1.1.3AE.0 1FD3.1.1.390.0 1FD8.2.1.1FD0.1 1FDA.1.1.1F76.0
1FDB.1.1.3AF.0 1FE3.1.1.3B0.0 1FE8.2.1.1FE0.1 1FEA.1.1.1F7A.0 1FEB.1.1.3CD.0 1FEC.1.1.1FE5.0
1FEF.1.1.60.0 1FF8.1.1.1F78.0 1FF9.1.1.3CC.0 1FFA.1.1.1F7C.0 1FFB.1.1.3CE.0 2000.B.1.20.0
2011.1.1.2010.0 202F.1.1.20.0 205F.1.1.20.0 2070.1.1.30.0 2071.1.1.69.0 2074.6.1.34.1
207A.1.1.2B.0 207B.1.1.2212.0 207C.1.1.3D.0 207D.2.1.28.1 207F.1.1.6E.0 2080.A.1.30.1
208A.1.1.2B.0 208B.1.1.2212.0 208C.1.1.3D.0 208D.2.1.28.1 2090.1.1.61.0 2091.1.1.65.0
2092.1.1.6F.0 2093.1.1.78.0 2094.1.1.259.0 2095.1.1.68.0 2096.4.1.6B.1 209A.1.1.70.0
209B.2.1.73.1 2102.1.1.63.0 2107.1.1.25B.0 210A.2.1.67.1 210C.3.1.68.0 210F.1.1.127.0
2110.2.1.69.0 2112.2.1.6C.0 2115.1.1.6E.0 2119.3.1.70.1 211C.2.1.72.0 2124.1.1.7A.0
2126.1.1.3C9.0 2128.1.1.7A.0 212A.1.1.6B.0 212B.1.1.E5.0 212C.2.1.62.1 212F.2.1.65.0
2131.1.1.66.0 2132.1.1.214E.0 2133.2.1.6D.2 2135.4.1.5D0.1 2139.1.1.69.0 213C.1.1.3C0.0
213D.2.1.3B3.0 213F.1.1.3C0.0 2140.1.1.2211.0 2145.2.1.64.0 2147.1.1.65.0 2148.2.1.69.1
2160.1.1.69.0 2164.1.1.76.0 2169.1.1.78.0 216C.1.1.6C.0 216D.2.1.63.1 216F.1.1.6D.0
2170.1.1.69.0 2174.1.1.76.0 2179.1.1.78.0 217C.1.1.6C.0 217D.2.1.63.1 217F.1.1.6D.0
2183.1.1.2184.0 2329.2.1.3008.1 2460.9.1.31.1 24B6.1A.1.61.1 24D0.1A.1.61.1 24EA.1.1.30.0
2C00.30.1.2C30.1 2C60.1.1.2C61.0 2C62.1.1.26B.0 2C63.1.1.1D7D.0 2C64.1.1.27D.0
2C67.3.2.2C68.2 2C6D.1.1.251.0 2C6E.1.1.271.0 2C6F.2.1.250.2 2C72.1.1.2C73.0 2C75.1.1.2C76.0
2C7C.1.1.6A.0 2C7D.1.1.76.0 2C7E.2.1.23F.1 2C80.32.2.2C81.2 2CEB.2.2.2CEC.2 2CF2.1.1.2CF3.0
2D6F.1.1.2D61.0 2E9F.1.1.6BCD.0 2EF3.1.1.9F9F.0 2F00.1.1.4E00.0 2F01.1.1.4E28.0
2F02.1.1.4E36.0 2F03.1.1.4E3F.0 2F04.1.1.4E59.0 2F05.1.1.4E85.0 2F06.1.1.4E8C.0
2F07.1.1.4EA0.0 2F08.1.1.4EBA.0 2F09.1.1.513F.0 2F0A.1.1.5165.0 2F0B.1.1.516B.0
2F0C.1.1.5182.0 2F0D.1.1.5196.0 2F0E.1.1.51AB.0 2F0F.1.1.51E0.0 2F10.1.1.51F5.0
2F11.1.1.5200.0 2F12.1.1.529B.0 2F13.1.1.52F9.0 2F14.1.1.5315.0 2F15.1.1.531A.0
2F16.1.1.5338.0 2F17.1.1.5341.0 2F18.1.1.535C.0 2F19.1.1.5369.0 2F1A.1.1.5382.0
2F1B.1.1.53B6.0 2F1C.1.1.53C8.0 2F1D.1.1.53E3.0 2F1E.1.1.56D7.0 2F1F.1.1.571F.0
2F20.1.1.58EB.0 2F21.1.1.5902.0 2F22.1.1.590A.0 2F23.1.1.5915.0 2F24.1.1.5927.0
2F25.1.1.5973.0 2F26.1.1.5B50.0 2F27.1.1.5B80.0 2F28.1.1.5BF8.0 2F29.1.1.5C0F.0
2F2A.1.1.5C22.0 2F2B.1.1.5C38.0 2F2C.1.1.5C6E.0 2F2D.1.1.5C71.0 2F2E.1.1.5DDB.0
2F2F.1.1.5DE5.0 2F30.1.1.5DF1.0 2F31.1.1.5DFE.0 2F32.1.1.5E72.0 2F33.1.1.5E7A.0
2F34.1.1.5E7F.0 2F35.1.1.5EF4.0 2F36.1.1.5EFE.0 2F37.1.1.5F0B.0 2F38.1.1.5F13.0
2F39.1.1.5F50.0 2F3A.1.1.5F61.0 2F3B.1.1.5F73.0 2F3C.1.1.5FC3.0 2F3D.1.1.6208.0
2F3E.1.1.6236.0 2F3F.1.1.624B.0 2F40.1.1.652F.0 2F41.1.1.6534.0 2F42.1.1.6587.0
2F43.1.1.6597.0 2F44.1.1.65A4.0 2F45.1.1.65B9.0 2F46.1.1.65E0.0 2F47.1.1.65E5.0
2F48.1.1.66F0.0 2F49.1.1.6708.0 2F4A.1.1.6728.0 2F4B.1.1.6B20.0 2F4C.1.1.6B62.0
2F4D.1.1.6B79.0 2F4E.1.1.6BB3.0 2F4F.1.1.6BCB.0 2F50.1.1.6BD4.0 2F51.1.1.6BDB.0
2F52.1.1.6C0F.0 2F53.1.1.6C14.0 2F54.1.1.6C34.0 2F55.1.1.706B.0 2F56.1.1.722A.0
2F57.1.1.7236.0 2F58.1.1.723B.0 2F59.1.1.723F.0 2F5A.1.1.7247.0 2F5B.2.1.7259.2
2F5D.1.1.72AC.0 2F5E.1.1.7384.0 2F5F.1.1.7389.0 2F60.1.1.74DC.0 2F61.1.1.74E6.0
2F62.1.1.7518.0 2F63.1.1.751F.0 2F64.1.1.7528.0 2F65.1.1.7530.0 2F66.1.1.758B.0
2F67.1.1.7592.0 2F68.1.1.7676.0 2F69.1.1.767D.0 2F6A.1.1.76AE.0 2F6B.1.1.76BF.0
2F6C.1.1.76EE.0 2F6D.1.1.77DB.0 2F6E.1.1.77E2.0 2F6F.1.1.77F3.0 2F70.1.1.793A.0
2F71.1.1.79B8.0 2F72.1.1.79BE.0 2F73.1.1.7A74.0 2F74.1.1.7ACB.0 2F75.1.1.7AF9.0
2F76.1.1.7C73.0 2F77.1.1.7CF8.0 2F78.1.1.7F36.0 2F79.1.1.7F51.0 2F7A.1.1.7F8A.0
2F7B.1.1.7FBD.0 2F7C.1.1.8001.0 2F7D.1.1.800C.0 2F7E.1.1.8012.0 2F7F.1.1.8033.0
2F80.1.1.807F.0 2F81.1.1.8089.0 2F82.1.1.81E3.0 2F83.1.1.81EA.0 2F84.1.1.81F3.0
2F85.1.1.81FC.0 2F86.1.1.820C.0 2F87.1.1.821B.0 2F88.1.1.821F.0 2F89.1.1.826E.0
2F8A.1.1.8272.0 2F8B.1.1.8278.0 2F8C.1.1.864D.0 2F8D.1.1.866B.0 2F8E.1.1.8840.0
2F8F.1.1.884C.0 2F90.1.1.8863.0 2F91.1.1.897E.0 2F92.1.1.898B.0 2F93.1.1.89D2.0
2F94.1.1.8A00.0 2F95.1.1.8C37.0 2F96.1.1.8C46.0 2F97.1.1.8C55.0 2F98.1.1.8C78.0
2F99.1.1.8C9D.0 2F9A.1.1.8D64.0 2F9B.1.1.8D70.0 2F9C.1.1.8DB3.0 2F9D.1.1.8EAB.0
2F9E.1.1.8ECA.0 2F9F.1.1.8F9B.0 2FA0.1.1.8FB0.0 2FA1.1.1.8FB5.0 2FA2.1.1.9091.0
2FA3.1.1.9149.0 2FA4.1.1.91C6.0 2FA5.1.1.91CC.0 2FA6.1.1.91D1.0 2FA7.1.1.9577.0
2FA8.1.1.9580.0 2FA9.1.1.961C.0 2FAA.1.1.96B6.0 2FAB.1.1.96B9.0 2FAC.1.1.96E8.0
2FAD.1.1.9751.0 2FAE.1.1.975E.0 2FAF.1.1.9762.0 2FB0.1.1.9769.0 2FB1.1.1.97CB.0
2FB2.1.1.97ED.0 2FB3.1.1.97F3.0 2FB4.1.1.9801.0 2FB5.1.1.98A8.0 2FB6.1.1.98DB.0
2FB7.1.1.98DF.0 2FB8.1.1.9996.0 2FB9.1.1.9999.0 2FBA.1.1.99AC.0 2FBB.1.1.9AA8.0
2FBC.1.1.9AD8.0 2FBD.1.1.9ADF.0 2FBE.1.1.9B25.0 2FBF.1.1.9B2F.0 2FC0.1.1.9B32.0
2FC1.1.1.9B3C.0 2FC2.1.1.9B5A.0 2FC3.1.1.9CE5.0 2FC4.1.1.9E75.0 2FC5.1.1.9E7F.0
2FC6.1.1.9EA5.0 2FC7.1.1.9EBB.0 2FC8.1.1.9EC3.0 2FC9.1.1.9ECD.0 2FCA.1.1.9ED1.0
2FCB.1.1.9EF9.0 2FCC.1.1.9EFD.0 2FCD.1.1.9F0E.0 2FCE.1.1.9F13.0 2FCF.1.1.9F20.0
2FD0.1.1.9F3B.0 2FD1.1.1.9F4A.0 2FD2.1.1.9F52.0 2FD3.1.1.9F8D.0 2FD4.1.1.9F9C.0
2FD5.1.1.9FA0.0 3000.1.1.20.0 3002.1.1.2E.0 3036.1.1.3012.0 3038.1.1.5341.0 3039.2.1.5344.1
3131.2.1.1100.1 3133.1.1.11AA.0 3134.1.1.1102.0 3135.2.1.11AC.1 3137.3.1.1103.1
313A.6.1.11B0.1 3140.1.1.111A.0 3141.3.1.1106.1 3144.1.1.1121.0 3145.A.1.1109.1
314F.15.1.1161.1 3165.2.1.1114.1 3167.2.1.11C7.1 3169.2.1.11CC.2 316B.1.1.11D3.0
316C.2.1.11D7.2 316E.1.1.111C.0 316F.2.1.11DD.2 3171.2.1.111D.1 3173.2.1.1120.2
3175.1.1.1123.0 3176.3.1.1127.2 3179.4.1.112C.1 317D.1.1.1132.0 317E.1.1.1136.0
317F.1.1.1140.0 3180.1.1.1147.0 3181.1.1.114C.0 3182.2.1.11F1.1 3184.3.1.1157.1
3187.2.1.1184.1 3189.1.1.1188.0 318A.2.1.1191.1 318C.1.1.1194.0 318D.1.1.119E.0
318E.1.1.11A1.0 3192.1.1.4E00.0 3193.1.1.4E8C.0 3194.1.1.4E09.0 3195.1.1.56DB.0
3196.1.1.4E0A.0 3197.1.1.4E2D.0 3198.1.1.4E0B.0 3199.1.1.7532.0 319A.1.1.4E59.0
319B.1.1.4E19.0 319C.1.1.4E01.0 319D.1.1.5929.0 319E.1.1.5730.0 319F.1.1.4EBA.0
3244.1.1.554F.0 3245.1.1.5E7C.0 3246.1.1.6587.0 3247.1.1.7B8F.0 3260.2.1.1100.2
3262.2.1.1103.2 3264.2.1.1106.1 3266.2.1.1109.2 3268.2.1.110C.2 326A.4.1.110F.1
326E.1.1.AC00.0 326F.1.1.B098.0 3270.1.1.B2E4.0 3271.1.1.B77C.0 3272.1.1.B9C8.0
3273.1.1.BC14.0 3274.1.1.C0AC.0 3275.1.1.C544.0 3276.1.1.C790.0 3277.1.1.CC28.0
3278.1.1.CE74.0 3279.1.1.D0C0.0 327A.1.1.D30C.0 327B.1.1.D558.0 327E.1.1.C6B0.0
3280.1.1.4E00.0 3281.1.1.4E8C.0 3282.1.1.4E09.0 3283.1.1.56DB.0 3284.1.1.4E94.0
3285.1.1.516D.0 3286.1.1.4E03.0 3287.1.1.516B.0 3288.1.1.4E5D.0 3289.1.1.5341.0
328A.1.1.6708.0 328B.1.1.706B.0 328C.1.1.6C34.0 328D.1.1.6728.0 328E.1.1.91D1.0
328F.1.1.571F.0 3290.1.1.65E5.0 3291.1.1.682A.0 3292.1.1.6709.0 3293.1.1.793E.0
3294.1.1.540D.0 3295.1.1.7279.0 3296.1.1.8CA1.0 3297.1.1.795D.0 3298.1.1.52B4.0
3299.1.1.79D8.0 329A.1.1.7537.0 329B.1.1.5973.0 329C.1.1.9069.0 329D.1.1.512A.0
329E.1.1.5370.0 329F.1.1.6CE8.0 32A0.1.1.9805.0 32A1.1.1.4F11.0 32A2.1.1.5199.0
32A3.1.1.6B63.0 32A4.1.1.4E0A.0 32A5.1.1.4E2D.0 32A6.1.1.4E0B.0 32A7.1.1.5DE6.0
32A8.1.1.53F3.0 32A9.1.1.533B.0 32AA.1.1.5B97.0 32AB.1.1.5B66.0 32AC.1.1.76E3.0
32AD.1.1.4F01.0 32AE.1.1.8CC7.0 32AF.1.1.5354.0 32B0.1.1.591C.0 32D0.5.1.30A2.2
32D5.C.1.30AB.2 32E1.4.1.30C4.2 32E5.5.1.30CB.1 32EA.1.1.30D2.0 32EB.1.1.30D5.0
32EC.1.1.30D8.0 32ED.1.1.30DB.0 32EE.5.1.30DE.1 32F3.3.1.30E4.2 32F6.5.1.30E9.1
32FB.4.1.30EF.1 A640.17.2.A641.2 A680.E.2.A681.2 A69C.2.1.44A.2 A722.7.2.A723.2
A732.1F.2.A733.2 A770.1.1.A76F.0 A779.2.2.A77A.2 A77D.1.1.1D79.0 A77E.5.2.A77F.2
A78B.1.1.A78C.0 A78D.1.1.265.0 A790.2.2.A791.2 A796.A.2.A797.2 A7AA.1.1.266.0 A7AB.1.1.25C.0
A7AC.1.1.261.0 A7AD.1.1.26C.0 A7AE.1.1.26A.0 A7B0.1.1.29E.0 A7B1.1.1.287.0 A7B2.1.1.29D.0
A7B3.1.1.AB53.0 A7B4.8.2.A7B5.2 A7C4.1.1.A794.0 A7C5.1.1.282.0 A7C6.1.1.1D8E.0
A7C7.2.2.A7C8.2 A7CB.1.1.264.0 A7CC.8.2.A7CD.2 A7DC.1.1.19B.0 A7F1.1.1.73.0 A7F2.1.1.63.0
A7F3.1.1.66.0 A7F4.1.1.71.0 A7F5.1.1.A7F6.0 A7F8.1.1.127.0 A7F9.1.1.153.0 AB5C.1.1.A727.0
AB5D.1.1.AB37.0 AB5E.1.1.26B.0 AB5F.1.1.AB52.0 AB69.1.1.28D.0 AB70.50.1.13A0.1
F900.1.1.8C48.0 F901.1.1.66F4.0 F902.1.1.8ECA.0 F903.1.1.8CC8.0 F904.1.1.6ED1.0
F905.1.1.4E32.0 F906.1.1.53E5.0 F907.2.1.9F9C.0 F909.1.1.5951.0 F90A.1.1.91D1.0
F90B.1.1.5587.0 F90C.1.1.5948.0 F90D.1.1.61F6.0 F90E.1.1.7669.0 F90F.1.1.7F85.0
F910.1.1.863F.0 F911.1.1.87BA.0 F912.1.1.88F8.0 F913.1.1.908F.0 F914.1.1.6A02.0
F915.1.1.6D1B.0 F916.1.1.70D9.0 F917.1.1.73DE.0 F918.1.1.843D.0 F919.1.1.916A.0
F91A.1.1.99F1.0 F91B.1.1.4E82.0 F91C.1.1.5375.0 F91D.1.1.6B04.0 F91E.1.1.721B.0
F91F.1.1.862D.0 F920.1.1.9E1E.0 F921.1.1.5D50.0 F922.1.1.6FEB.0 F923.1.1.85CD.0
F924.1.1.8964.0 F925.1.1.62C9.0 F926.1.1.81D8.0 F927.1.1.881F.0 F928.1.1.5ECA.0
F929.1.1.6717.0 F92A.1.1.6D6A.0 F92B.1.1.72FC.0 F92C.1.1.90CE.0 F92D.1.1.4F86.0
F92E.1.1.51B7.0 F92F.1.1.52DE.0 F930.1.1.64C4.0 F931.1.1.6AD3.0 F932.1.1.7210.0
F933.1.1.76E7.0 F934.1.1.8001.0 F935.1.1.8606.0 F936.1.1.865C.0 F937.1.1.8DEF.0
F938.1.1.9732.0 F939.1.1.9B6F.0 F93A.1.1.9DFA.0 F93B.1.1.788C.0 F93C.1.1.797F.0
F93D.1.1.7DA0.0 F93E.1.1.83C9.0 F93F.1.1.9304.0 F940.1.1.9E7F.0 F941.1.1.8AD6.0
F942.1.1.58DF.0 F943.1.1.5F04.0 F944.1.1.7C60.0 F945.1.1.807E.0 F946.1.1.7262.0
F947.1.1.78CA.0 F948.1.1.8CC2.0 F949.1.1.96F7.0 F94A.1.1.58D8.0 F94B.1.1.5C62.0
F94C.1.1.6A13.0 F94D.1.1.6DDA.0 F94E.1.1.6F0F.0 F94F.1.1.7D2F.0 F950.1.1.7E37.0
F951.1.1.964B.0 F952.1.1.52D2.0 F953.1.1.808B.0 F954.1.1.51DC.0 F955.1.1.51CC.0
F956.1.1.7A1C.0 F957.1.1.7DBE.0 F958.1.1.83F1.0 F959.1.1.9675.0 F95A.1.1.8B80.0
F95B.1.1.62CF.0 F95C.1.1.6A02.0 F95D.1.1.8AFE.0 F95E.1.1.4E39.0 F95F.1.1.5BE7.0
F960.1.1.6012.0 F961.1.1.7387.0 F962.1.1.7570.0 F963.1.1.5317.0 F964.1.1.78FB.0
F965.1.1.4FBF.0 F966.1.1.5FA9.0 F967.1.1.4E0D.0 F968.1.1.6CCC.0 F969.1.1.6578.0
F96A.1.1.7D22.0 F96B.1.1.53C3.0 F96C.1.1.585E.0 F96D.1.1.7701.0 F96E.1.1.8449.0
F96F.1.1.8AAA.0 F970.1.1.6BBA.0 F971.1.1.8FB0.0 F972.1.1.6C88.0 F973.1.1.62FE.0
F974.1.1.82E5.0 F975.1.1.63A0.0 F976.1.1.7565.0 F977.1.1.4EAE.0 F978.1.1.5169.0
F979.1.1.51C9.0 F97A.1.1.6881.0 F97B.1.1.7CE7.0 F97C.1.1.826F.0 F97D.1.1.8AD2.0
F97E.1.1.91CF.0 F97F.1.1.52F5.0 F980.1.1.5442.0 F981.1.1.5973.0 F982.1.1.5EEC.0
F983.1.1.65C5.0 F984.1.1.6FFE.0 F985.1.1.792A.0 F986.1.1.95AD.0 F987.1.1.9A6A.0
F988.1.1.9E97.0 F989.1.1.9ECE.0 F98A.1.1.529B.0 F98B.1.1.66C6.0 F98C.1.1.6B77.0
F98D.1.1.8F62.0 F98E.1.1.5E74.0 F98F.1.1.6190.0 F990.1.1.6200.0 F991.1.1.649A.0
F992.1.1.6F23.0 F993.1.1.7149.0 F994.1.1.7489.0 F995.1.1.79CA.0 F996.1.1.7DF4.0
F997.1.1.806F.0 F998.1.1.8F26.0 F999.1.1.84EE.0 F99A.1.1.9023.0 F99B.1.1.934A.0
F99C.1.1.5217.0 F99D.1.1.52A3.0 F99E.1.1.54BD.0 F99F.1.1.70C8.0 F9A0.1.1.88C2.0
F9A1.1.1.8AAA.0 F9A2.1.1.5EC9.0 F9A3.1.1.5FF5.0 F9A4.1.1.637B.0 F9A5.1.1.6BAE.0
F9A6.1.1.7C3E.0 F9A7.1.1.7375.0 F9A8.1.1.4EE4.0 F9A9.1.1.56F9.0 F9AA.1.1.5BE7.0
F9AB.1.1.5DBA.0 F9AC.1.1.601C.0 F9AD.1.1.73B2.0 F9AE.1.1.7469.0 F9AF.1.1.7F9A.0
F9B0.1.1.8046.0 F9B1.1.1.9234.0 F9B2.1.1.96F6.0 F9B3.1.1.9748.0 F9B4.1.1.9818.0
F9B5.1.1.4F8B.0 F9B6.1.1.79AE.0 F9B7.1.1.91B4.0 F9B8.1.1.96B8.0 F9B9.1.1.60E1.0
F9BA.1.1.4E86.0 F9BB.1.1.50DA.0 F9BC.1.1.5BEE.0 F9BD.1.1.5C3F.0 F9BE.1.1.6599.0
F9BF.1.1.6A02.0 F9C0.1.1.71CE.0 F9C1.1.1.7642.0 F9C2.1.1.84FC.0 F9C3.1.1.907C.0
F9C4.1.1.9F8D.0 F9C5.1.1.6688.0 F9C6.1.1.962E.0 F9C7.1.1.5289.0 F9C8.1.1.677B.0
F9C9.1.1.67F3.0 F9CA.1.1.6D41.0 F9CB.1.1.6E9C.0 F9CC.1.1.7409.0 F9CD.1.1.7559.0
F9CE.1.1.786B.0 F9CF.1.1.7D10.0 F9D0.1.1.985E.0 F9D1.1.1.516D.0 F9D2.1.1.622E.0
F9D3.1.1.9678.0 F9D4.1.1.502B.0 F9D5.1.1.5D19.0 F9D6.1.1.6DEA.0 F9D7.1.1.8F2A.0
F9D8.1.1.5F8B.0 F9D9.1.1.6144.0 F9DA.1.1.6817.0 F9DB.1.1.7387.0 F9DC.1.1.9686.0
F9DD.1.1.5229.0 F9DE.1.1.540F.0 F9DF.1.1.5C65.0 F9E0.1.1.6613.0 F9E1.1.1.674E.0
F9E2.1.1.68A8.0 F9E3.1.1.6CE5.0 F9E4.1.1.7406.0 F9E5.1.1.75E2.0 F9E6.1.1.7F79.0
F9E7.1.1.88CF.0 F9E8.1.1.88E1.0 F9E9.1.1.91CC.0 F9EA.1.1.96E2.0 F9EB.1.1.533F.0
F9EC.1.1.6EBA.0 F9ED.1.1.541D.0 F9EE.1.1.71D0.0 F9EF.1.1.7498.0 F9F0.1.1.85FA.0
F9F1.1.1.96A3.0 F9F2.1.1.9C57.0 F9F3.1.1.9E9F.0 F9F4.1.1.6797.0 F9F5.1.1.6DCB.0
F9F6.1.1.81E8.0 F9F7.1.1.7ACB.0 F9F8.1.1.7B20.0 F9F9.1.1.7C92.0 F9FA.1.1.72C0.0
F9FB.1.1.7099.0 F9FC.1.1.8B58.0 F9FD.1.1.4EC0.0 F9FE.1.1.8336.0 F9FF.1.1.523A.0
FA00.1.1.5207.0 FA01.1.1.5EA6.0 FA02.1.1.62D3.0 FA03.1.1.7CD6.0 FA04.1.1.5B85.0
FA05.1.1.6D1E.0 FA06.1.1.66B4.0 FA07.1.1.8F3B.0 FA08.1.1.884C.0 FA09.1.1.964D.0
FA0A.1.1.898B.0 FA0B.1.1.5ED3.0 FA0C.1.1.5140.0 FA0D.1.1.55C0.0 FA10.1.1.585A.0
FA12.1.1.6674.0 FA15.1.1.51DE.0 FA16.1.1.732A.0 FA17.1.1.76CA.0 FA18.1.1.793C.0
FA19.1.1.795E.0 FA1A.1.1.7965.0 FA1B.1.1.798F.0 FA1C.1.1.9756.0 FA1D.1.1.7CBE.0
FA1E.1.1.7FBD.0 FA20.1.1.8612.0 FA22.1.1.8AF8.0 FA25.1.1.9038.0 FA26.1.1.90FD.0
FA2A.1.1.98EF.0 FA2B.1.1.98FC.0 FA2C.1.1.9928.0 FA2D.1.1.9DB4.0 FA2E.1.1.90DE.0
FA2F.1.1.96B7.0 FA30.1.1.4FAE.0 FA31.1.1.50E7.0 FA32.1.1.514D.0 FA33.1.1.52C9.0
FA34.1.1.52E4.0 FA35.1.1.5351.0 FA36.1.1.559D.0 FA37.1.1.5606.0 FA38.1.1.5668.0
FA39.1.1.5840.0 FA3A.1.1.58A8.0 FA3B.1.1.5C64.0 FA3C.1.1.5C6E.0 FA3D.1.1.6094.0
FA3E.1.1.6168.0 FA3F.1.1.618E.0 FA40.1.1.61F2.0 FA41.1.1.654F.0 FA42.1.1.65E2.0
FA43.1.1.6691.0 FA44.1.1.6885.0 FA45.1.1.6D77.0 FA46.1.1.6E1A.0 FA47.1.1.6F22.0
FA48.1.1.716E.0 FA49.1.1.722B.0 FA4A.1.1.7422.0 FA4B.1.1.7891.0 FA4C.1.1.793E.0
FA4D.1.1.7949.0 FA4E.1.1.7948.0 FA4F.1.1.7950.0 FA50.1.1.7956.0 FA51.1.1.795D.0
FA52.2.1.798D.1 FA54.1.1.7A40.0 FA55.1.1.7A81.0 FA56.1.1.7BC0.0 FA57.1.1.7DF4.0
FA58.1.1.7E09.0 FA59.1.1.7E41.0 FA5A.1.1.7F72.0 FA5B.1.1.8005.0 FA5C.1.1.81ED.0
FA5D.2.1.8279.0 FA5F.1.1.8457.0 FA60.1.1.8910.0 FA61.1.1.8996.0 FA62.1.1.8B01.0
FA63.1.1.8B39.0 FA64.1.1.8CD3.0 FA65.1.1.8D08.0 FA66.1.1.8FB6.0 FA67.1.1.9038.0
FA68.1.1.96E3.0 FA69.1.1.97FF.0 FA6A.1.1.983B.0 FA6B.1.1.6075.0 FA6C.1.1.242EE.0
FA6D.1.1.8218.0 FA70.1.1.4E26.0 FA71.1.1.51B5.0 FA72.1.1.5168.0 FA73.1.1.4F80.0
FA74.1.1.5145.0 FA75.1.1.5180.0 FA76.1.1.52C7.0 FA77.1.1.52FA.0 FA78.1.1.559D.0
FA79.1.1.5555.0 FA7A.1.1.5599.0 FA7B.1.1.55E2.0 FA7C.1.1.585A.0 FA7D.1.1.58B3.0
FA7E.1.1.5944.0 FA7F.1.1.5954.0 FA80.1.1.5A62.0 FA81.1.1.5B28.0 FA82.1.1.5ED2.0
FA83.1.1.5ED9.0 FA84.1.1.5F69.0 FA85.1.1.5FAD.0 FA86.1.1.60D8.0 FA87.1.1.614E.0
FA88.1.1.6108.0 FA89.1.1.618E.0 FA8A.1.1.6160.0 FA8B.1.1.61F2.0 FA8C.1.1.6234.0
FA8D.1.1.63C4.0 FA8E.1.1.641C.0 FA8F.1.1.6452.0 FA90.1.1.6556.0 FA91.1.1.6674.0
FA92.1.1.6717.0 FA93.1.1.671B.0 FA94.1.1.6756.0 FA95.1.1.6B79.0 FA96.1.1.6BBA.0
FA97.1.1.6D41.0 FA98.1.1.6EDB.0 FA99.1.1.6ECB.0 FA9A.1.1.6F22.0 FA9B.1.1.701E.0
FA9C.1.1.716E.0 FA9D.1.1.77A7.0 FA9E.1.1.7235.0 FA9F.1.1.72AF.0 FAA0.1.1.732A.0
FAA1.1.1.7471.0 FAA2.1.1.7506.0 FAA3.1.1.753B.0 FAA4.2.1.761D.2 FAA6.1.1.76CA.0
FAA7.1.1.76DB.0 FAA8.1.1.76F4.0 FAA9.1.1.774A.0 FAAA.1.1.7740.0 FAAB.1.1.78CC.0
FAAC.1.1.7AB1.0 FAAD.1.1.7BC0.0 FAAE.1.1.7C7B.0 FAAF.1.1.7D5B.0 FAB0.1.1.7DF4.0
FAB1.1.1.7F3E.0 FAB2.1.1.8005.0 FAB3.1.1.8352.0 FAB4.1.1.83EF.0 FAB5.1.1.8779.0
FAB6.1.1.8941.0 FAB7.1.1.8986.0 FAB8.1.1.8996.0 FAB9.1.1.8ABF.0 FABA.1.1.8AF8.0
FABB.1.1.8ACB.0 FABC.1.1.8B01.0 FABD.1.1.8AFE.0 FABE.1.1.8AED.0 FABF.1.1.8B39.0
FAC0.1.1.8B8A.0 FAC1.1.1.8D08.0 FAC2.1.1.8F38.0 FAC3.1.1.9072.0 FAC4.1.1.9199.0
FAC5.1.1.9276.0 FAC6.1.1.967C.0 FAC7.1.1.96E3.0 FAC8.1.1.9756.0 FAC9.1.1.97DB.0
FACA.1.1.97FF.0 FACB.1.1.980B.0 FACC.1.1.983B.0 FACD.1.1.9B12.0 FACE.1.1.9F9C.0
FACF.1.1.2284A.0 FAD0.1.1.22844.0 FAD1.1.1.233D5.0 FAD2.1.1.3B9D.0 FAD3.1.1.4018.0
FAD4.1.1.4039.0 FAD5.1.1.25249.0 FAD6.1.1.25CD0.0 FAD7.1.1.27ED3.0 FAD8.1.1.9F43.0
FAD9.1.1.9F8E.0 FB20.1.1.5E2.0 FB21.1.1.5D0.0 FB22.2.1.5D3.1 FB24.3.1.5DB.1 FB27.2.1.5E8.2
FB29.1.1.2B.0 FB50.2.1.671.0 FB52.4.1.67B.0 FB56.4.1.67E.0 FB5A.4.1.680.0 FB5E.4.1.67A.0
FB62.4.1.67F.0 FB66.4.1.679.0 FB6A.4.1.6A4.0 FB6E.4.1.6A6.0 FB72.4.1.684.0 FB76.4.1.683.0
FB7A.4.1.686.0 FB7E.4.1.687.0 FB82.2.1.68D.0 FB84.2.1.68C.0 FB86.2.1.68E.0 FB88.2.1.688.0
FB8A.2.1.698.0 FB8C.2.1.691.0 FB8E.4.1.6A9.0 FB92.4.1.6AF.0 FB96.4.1.6B3.0 FB9A.4.1.6B1.0
FB9E.2.1.6BA.0 FBA0.4.1.6BB.0 FBA4.2.1.6C0.0 FBA6.4.1.6C1.0 FBAA.4.1.6BE.0 FBAE.2.1.6D2.0
FBB0.2.1.6D3.0 FBD3.4.1.6AD.0 FBD7.2.1.6C7.0 FBD9.2.1.6C6.0 FBDB.2.1.6C8.0 FBDE.2.1.6CB.0
FBE0.2.1.6C5.0 FBE2.2.1.6C9.0 FBE4.4.1.6D0.0 FBE8.2.1.649.0 FBFC.4.1.6CC.0 FE10.1.1.2C.0
FE11.1.1.3001.0 FE13.2.1.3A.1 FE15.1.1.21.0 FE16.1.1.3F.0 FE17.2.1.3016.1 FE31.1.1.2014.0
FE32.1.1.2013.0 FE33.2.1.5F.0 FE35.2.1.28.1 FE37.2.1.7B.2 FE39.2.1.3014.1 FE3B.2.1.3010.1
FE3D.2.1.300A.1 FE3F.2.1.3008.1 FE41.4.1.300C.1 FE47.2.1.5B.2 FE4D.3.1.5F.0 FE50.1.1.2C.0
FE51.1.1.3001.0 FE54.1.1.3B.0 FE55.1.1.3A.0 FE56.1.1.3F.0 FE57.1.1.21.0 FE58.1.1.2014.0
FE59.2.1.28.1 FE5B.2.1.7B.2 FE5D.2.1.3014.1 FE5F.1.1.23.0 FE60.1.1.26.0 FE61.2.1.2A.1
FE63.1.1.2D.0 FE64.2.1.3C.2 FE66.1.1.3D.0 FE68.1.1.5C.0 FE69.2.1.24.1 FE6B.1.1.40.0
FE80.2.1.621.1 FE82.2.1.622.1 FE84.2.1.623.1 FE86.2.1.624.1 FE88.2.1.625.1 FE8A.3.1.626.0
FE8D.2.1.627.0 FE8F.4.1.628.0 FE93.2.1.629.0 FE95.4.1.62A.0 FE99.4.1.62B.0 FE9D.4.1.62C.0
FEA1.4.1.62D.0 FEA5.4.1.62E.0 FEA9.2.1.62F.0 FEAB.2.1.630.0 FEAD.2.1.631.0 FEAF.2.1.632.0
FEB1.4.1.633.0 FEB5.4.1.634.0 FEB9.4.1.635.0 FEBD.4.1.636.0 FEC1.4.1.637.0 FEC5.4.1.638.0
FEC9.4.1.639.0 FECD.4.1.63A.0 FED1.4.1.641.0 FED5.4.1.642.0 FED9.4.1.643.0 FEDD.4.1.644.0
FEE1.4.1.645.0 FEE5.4.1.646.0 FEE9.4.1.647.0 FEED.2.1.648.0 FEEF.2.1.649.0 FEF1.4.1.64A.0
FF01.20.1.21.1 FF21.1A.1.61.1 FF3B.24.1.5B.1 FF5F.2.1.2985.1 FF61.1.1.2E.0 FF62.2.1.300C.1
FF64.1.1.3001.0 FF65.1.1.30FB.0 FF66.1.1.30F2.0 FF67.5.1.30A1.2 FF6C.3.1.30E3.2
FF6F.1.1.30C3.0 FF70.1.1.30FC.0 FF71.5.1.30A2.2 FF76.C.1.30AB.2 FF82.4.1.30C4.2
FF86.5.1.30CB.1 FF8B.1.1.30D2.0 FF8C.1.1.30D5.0 FF8D.1.1.30D8.0 FF8E.1.1.30DB.0
FF8F.5.1.30DE.1 FF94.3.1.30E4.2 FF97.5.1.30E9.1 FF9C.1.1.30EF.0 FF9D.1.1.30F3.0
FF9E.2.1.3099.1 FFA1.2.1.1100.1 FFA3.1.1.11AA.0 FFA4.1.1.1102.0 FFA5.2.1.11AC.1
FFA7.3.1.1103.1 FFAA.6.1.11B0.1 FFB0.1.1.111A.0 FFB1.3.1.1106.1 FFB4.1.1.1121.0
FFB5.A.1.1109.1 FFC2.6.1.1161.1 FFCA.6.1.1167.1 FFD2.6.1.116D.1 FFDA.3.1.1173.1
FFE0.2.1.A2.1 FFE2.1.1.AC.0 FFE4.1.1.A6.0 FFE5.1.1.A5.0 FFE6.1.1.20A9.0 FFE8.1.1.2502.0
FFE9.4.1.2190.1 FFED.1.1.25A0.0 FFEE.1.1.25CB.0 10400.28.1.10428.1 104B0.24.1.104D8.1
10570.B.1.10597.1 1057C.F.1.105A3.1 1058C.7.1.105B3.1 10594.2.1.105BB.1 10781.2.1.2D0.1
10783.1.1.E6.0 10784.1.1.299.0 10785.1.1.253.0 10787.1.1.2A3.0 10788.1.1.AB66.0
10789.1.1.2A5.0 1078A.1.1.2A4.0 1078B.2.1.256.1 1078D.1.1.1D91.0 1078E.1.1.258.0
1078F.1.1.25E.0 10790.1.1.2A9.0 10791.1.1.264.0 10792.1.1.262.0 10793.1.1.260.0
10794.1.1.29B.0 10795.1.1.127.0 10796.1.1.29C.0 10797.1.1.267.0 10798.1.1.284.0
10799.2.1.2AA.1 1079B.1.1.26C.0 1079C.1.1.1DF04.0 1079D.1.1.A78E.0 1079E.1.1.26E.0
1079F.1.1.1DF05.0 107A0.1.1.28E.0 107A1.1.1.1DF06.0 107A2.1.1.F8.0 107A3.2.1.276.1
107A5.1.1.71.0 107A6.1.1.27A.0 107A7.1.1.1DF08.0 107A8.2.1.27D.1 107AA.1.1.280.0
107AB.1.1.2A8.0 107AC.1.1.2A6.0 107AD.1.1.AB67.0 107AE.1.1.2A7.0 107AF.1.1.288.0
107B0.1.1.2C71.0 107B2.1.1.28F.0 107B3.2.1.2A1.1 107B5.1.1.298.0 107B6.3.1.1C0.1
107B9.1.1.1DF0A.0 107BA.1.1.1DF1E.0 10C80.33.1.10CC0.1 10D50.16.1.10D70.1 118A0.20.1.118C0.1
16E40.20.1.16E60.1 16EA0.19.1.16EBB.1 1CCD6.1A.1.61.1 1CCF0.A.1.30.1 1D400.1A.1.61.1
1D41A.1A.1.61.1 1D434.1A.1.61.1 1D44E.7.1.61.1 1D456.12.1.69.1 1D468.1A.1.61.1
1D482.1A.1.61.1 1D49C.2.2.61.2 1D49F.1.1.64.0 1D4A2.1.1.67.0 1D4A5.2.1.6A.1 1D4A9.4.1.6E.1
1D4AE.8.1.73.1 1D4B6.4.1.61.1 1D4BB.2.2.66.2 1D4BE.6.1.69.1 1D4C5.B.1.70.1 1D4D0.1A.1.61.1
1D4EA.1A.1.61.1 1D504.2.1.61.1 1D507.4.1.64.1 1D50D.8.1.6A.1 1D516.7.1.73.1 1D51E.1A.1.61.1
1D538.2.1.61.1 1D53B.4.1.64.1 1D540.5.1.69.1 1D546.1.1.6F.0 1D54A.7.1.73.1 1D552.1A.1.61.1
1D56C.1A.1.61.1 1D586.1A.1.61.1 1D5A0.1A.1.61.1 1D5BA.1A.1.61.1 1D5D4.1A.1.61.1
1D5EE.1A.1.61.1 1D608.1A.1.61.1 1D622.1A.1.61.1 1D63C.1A.1.61.1 1D656.1A.1.61.1
1D670.1A.1.61.1 1D68A.1A.1.61.1 1D6A4.1.1.131.0 1D6A5.1.1.237.0 1D6A8.11.1.3B1.1
1D6B9.1.1.3B8.0 1D6BA.7.1.3C3.1 1D6C1.1.1.2207.0 1D6C2.11.1.3B1.1 1D6D3.2.1.3C3.0
1D6D5.6.1.3C4.1 1D6DB.1.1.2202.0 1D6DC.1.1.3B5.0 1D6DD.2.1.3B8.2 1D6DF.1.1.3C6.0
1D6E0.1.1.3C1.0 1D6E1.1.1.3C0.0 1D6E2.11.1.3B1.1 1D6F3.1.1.3B8.0 1D6F4.7.1.3C3.1
1D6FB.1.1.2207.0 1D6FC.11.1.3B1.1 1D70D.2.1.3C3.0 1D70F.6.1.3C4.1 1D715.1.1.2202.0
1D716.1.1.3B5.0 1D717.2.1.3B8.2 1D719.1.1.3C6.0 1D71A.1.1.3C1.0 1D71B.1.1.3C0.0
1D71C.11.1.3B1.1 1D72D.1.1.3B8.0 1D72E.7.1.3C3.1 1D735.1.1.2207.0 1D736.11.1.3B1.1
1D747.2.1.3C3.0 1D749.6.1.3C4.1 1D74F.1.1.2202.0 1D750.1.1.3B5.0 1D751.2.1.3B8.2
1D753.1.1.3C6.0 1D754.1.1.3C1.0 1D755.1.1.3C0.0 1D756.11.1.3B1.1 1D767.1.1.3B8.0
1D768.7.1.3C3.1 1D76F.1.1.2207.0 1D770.11.1.3B1.1 1D781.2.1.3C3.0 1D783.6.1.3C4.1
1D789.1.1.2202.0 1D78A.1.1.3B5.0 1D78B.2.1.3B8.2 1D78D.1.1.3C6.0 1D78E.1.1.3C1.0
1D78F.1.1.3C0.0 1D790.11.1.3B1.1 1D7A1.1.1.3B8.0 1D7A2.7.1.3C3.1 1D7A9.1.1.2207.0
1D7AA.11.1.3B1.1 1D7BB.2.1.3C3.0 1D7BD.6.1.3C4.1 1D7C3.1.1.2202.0 1D7C4.1.1.3B5.0
1D7C5.2.1.3B8.2 1D7C7.1.1.3C6.0 1D7C8.1.1.3C1.0 1D7C9.1.1.3C0.0 1D7CA.2.1.3DD.0
1D7CE.A.1.30.1 1D7D8.A.1.30.1 1D7E2.A.1.30.1 1D7EC.A.1.30.1 1D7F6.A.1.30.1 1E030.9.1.430.1
1E039.3.1.43A.1 1E03C.B.1.43E.1 1E047.2.1.44B.2 1E049.1.1.44E.0 1E04A.1.1.A689.0
1E04B.1.1.4D9.0 1E04C.2.1.456.2 1E04E.1.1.4E9.0 1E04F.1.1.4AF.0 1E050.1.1.4CF.0
1E051.9.1.430.1 1E05A.2.1.43A.1 1E05C.2.1.43E.1 1E05E.2.1.441.2 1E060.5.1.444.1
1E065.2.1.44A.1 1E067.1.1.491.0 1E068.1.1.456.0 1E069.1.1.455.0 1E06A.1.1.45F.0
1E06B.1.1.4AB.0 1E06C.1.1.A651.0 1E06D.1.1.4B1.0 1E900.22.1.1E922.1 1EE00.2.1.627.1
1EE02.1.1.62C.0 1EE03.1.1.62F.0 1EE05.1.1.648.0 1EE06.1.1.632.0 1EE07.1.1.62D.0
1EE08.1.1.637.0 1EE09.1.1.64A.0 1EE0A.4.1.643.1 1EE0E.1.1.633.0 1EE0F.1.1.639.0
1EE10.1.1.641.0 1EE11.1.1.635.0 1EE12.1.1.642.0 1EE13.1.1.631.0 1EE14.1.1.634.0
1EE15.2.1.62A.1 1EE17.2.1.62E.2 1EE19.3.1.636.2 1EE1C.1.1.66E.0 1EE1D.1.1.6BA.0
1EE1E.1.1.6A1.0 1EE1F.1.1.66F.0 1EE21.1.1.628.0 1EE22.1.1.62C.0 1EE24.1.1.647.0
1EE27.1.1.62D.0 1EE29.1.1.64A.0 1EE2A.4.1.643.1 1EE2E.1.1.633.0 1EE2F.1.1.639.0
1EE30.1.1.641.0 1EE31.1.1.635.0 1EE32.1.1.642.0 1EE34.1.1.634.0 1EE35.2.1.62A.1
1EE37.1.1.62E.0 1EE39.1.1.636.0 1EE3B.1.1.63A.0 1EE42.1.1.62C.0 1EE47.1.1.62D.0
1EE49.1.1.64A.0 1EE4B.2.2.644.2 1EE4E.1.1.633.0 1EE4F.1.1.639.0 1EE51.1.1.635.0
1EE52.1.1.642.0 1EE54.1.1.634.0 1EE57.1.1.62E.0 1EE59.1.1.636.0 1EE5B.1.1.63A.0
1EE5D.1.1.6BA.0 1EE5F.1.1.66F.0 1EE61.1.1.628.0 1EE62.1.1.62C.0 1EE64.1.1.647.0
1EE67.1.1.62D.0 1EE68.1.1.637.0 1EE69.1.1.64A.0 1EE6A.2.2.643.2 1EE6D.1.1.646.0
1EE6E.1.1.633.0 1EE6F.1.1.639.0 1EE70.1.1.641.0 1EE71.1.1.635.0 1EE72.1.1.642.0
1EE74.1.1.634.0 1EE75.2.1.62A.1 1EE77.1.1.62E.0 1EE79.3.1.636.2 1EE7C.1.1.66E.0
1EE7E.1.1.6A1.0 1EE80.2.1.627.1 1EE82.1.1.62C.0 1EE83.1.1.62F.0 1EE84.2.1.647.1
1EE86.1.1.632.0 1EE87.1.1.62D.0 1EE88.1.1.637.0 1EE89.1.1.64A.0 1EE8B.3.1.644.1
1EE8E.1.1.633.0 1EE8F.1.1.639.0 1EE90.1.1.641.0 1EE91.1.1.635.0 1EE92.1.1.642.0
1EE93.1.1.631.0 1EE94.1.1.634.0 1EE95.2.1.62A.1 1EE97.2.1.62E.2 1EE99.3.1.636.2
1EEA1.1.1.628.0 1EEA2.1.1.62C.0 1EEA3.1.1.62F.0 1EEA5.1.1.648.0 1EEA6.1.1.632.0
1EEA7.1.1.62D.0 1EEA8.1.1.637.0 1EEA9.1.1.64A.0 1EEAB.3.1.644.1 1EEAE.1.1.633.0
1EEAF.1.1.639.0 1EEB0.1.1.641.0 1EEB1.1.1.635.0 1EEB2.1.1.642.0 1EEB3.1.1.631.0
1EEB4.1.1.634.0 1EEB5.2.1.62A.1 1EEB7.2.1.62E.2 1EEB9.3.1.636.2 1F12B.1.1.63.0
1F12C.1.1.72.0 1F130.1A.1.61.1 1F202.1.1.30B5.0 1F210.1.1.624B.0 1F211.1.1.5B57.0
1F212.1.1.53CC.0 1F213.1.1.30C7.0 1F214.1.1.4E8C.0 1F215.1.1.591A.0 1F216.1.1.89E3.0
1F217.1.1.5929.0 1F218.1.1.4EA4.0 1F219.1.1.6620.0 1F21A.1.1.7121.0 1F21B.1.1.6599.0
1F21C.1.1.524D.0 1F21D.1.1.5F8C.0 1F21E.1.1.518D.0 1F21F.1.1.65B0.0 1F220.1.1.521D.0
1F221.1.1.7D42.0 1F222.1.1.751F.0 1F223.1.1.8CA9.0 1F224.1.1.58F0.0 1F225.1.1.5439.0
1F226.1.1.6F14.0 1F227.1.1.6295.0 1F228.1.1.6355.0 1F229.1.1.4E00.0 1F22A.1.1.4E09.0
1F22B.1.1.904A.0 1F22C.1.1.5DE6.0 1F22D.1.1.4E2D.0 1F22E.1.1.53F3.0 1F22F.1.1.6307.0
1F230.1.1.8D70.0 1F231.1.1.6253.0 1F232.1.1.7981.0 1F233.1.1.7A7A.0 1F234.1.1.5408.0
1F235.1.1.6E80.0 1F236.1.1.6709.0 1F237.1.1.6708.0 1F238.1.1.7533.0 1F239.1.1.5272.0
1F23A.1.1.55B6.0 1F23B.1.1.914D.0 1F250.1.1.5F97.0 1F251.1.1.53EF.0 1FBF0.A.1.30.1
2F800.1.1.4E3D.0 2F801.1.1.4E38.0 2F802.1.1.4E41.0 2F803.1.1.20122.0 2F804.1.1.4F60.0
2F805.1.1.4FAE.0 2F806.1.1.4FBB.0 2F807.1.1.5002.0 2F808.1.1.507A.0 2F809.1.1.5099.0
2F80A.1.1.50E7.0 2F80B.1.1.50CF.0 2F80C.1.1.349E.0 2F80D.1.1.2063A.0 2F80E.1.1.514D.0
2F80F.1.1.5154.0 2F810.1.1.5164.0 2F811.1.1.5177.0 2F812.1.1.2051C.0 2F813.1.1.34B9.0
2F814.1.1.5167.0 2F815.1.1.518D.0 2F816.1.1.2054B.0 2F817.1.1.5197.0 2F818.1.1.51A4.0
2F819.1.1.4ECC.0 2F81A.1.1.51AC.0 2F81B.1.1.51B5.0 2F81C.1.1.291DF.0 2F81D.1.1.51F5.0
2F81E.1.1.5203.0 2F81F.1.1.34DF.0 2F820.1.1.523B.0 2F821.1.1.5246.0 2F822.1.1.5272.0
2F823.1.1.5277.0 2F824.1.1.3515.0 2F825.2.1.52C7.2 2F827.1.1.52E4.0 2F828.1.1.52FA.0
2F829.2.1.5305.1 2F82B.1.1.5317.0 2F82C.1.1.5349.0 2F82D.1.1.5351.0 2F82E.1.1.535A.0
2F82F.1.1.5373.0 2F830.2.1.537D.2 2F832.2.1.537F.0 2F834.1.1.20A2C.0 2F835.1.1.7070.0
2F836.1.1.53CA.0 2F837.1.1.53DF.0 2F838.1.1.20B63.0 2F839.1.1.53EB.0 2F83A.1.1.53F1.0
2F83B.1.1.5406.0 2F83C.1.1.549E.0 2F83D.1.1.5438.0 2F83E.1.1.5448.0 2F83F.1.1.5468.0
2F840.1.1.54A2.0 2F841.1.1.54F6.0 2F842.1.1.5510.0 2F843.1.1.5553.0 2F844.1.1.5563.0
2F845.2.1.5584.0 2F847.1.1.5599.0 2F848.1.1.55AB.0 2F849.1.1.55B3.0 2F84A.1.1.55C2.0
2F84B.1.1.5716.0 2F84C.1.1.5606.0 2F84D.1.1.5717.0 2F84E.1.1.5651.0 2F84F.1.1.5674.0
2F850.1.1.5207.0 2F851.1.1.58EE.0 2F852.1.1.57CE.0 2F853.1.1.57F4.0 2F854.1.1.580D.0
2F855.1.1.578B.0 2F856.1.1.5832.0 2F857.1.1.5831.0 2F858.1.1.58AC.0 2F859.1.1.214E4.0
2F85A.1.1.58F2.0 2F85B.1.1.58F7.0 2F85C.1.1.5906.0 2F85D.1.1.591A.0 2F85E.1.1.5922.0
2F85F.1.1.5962.0 2F860.1.1.216A8.0 2F861.1.1.216EA.0 2F862.1.1.59EC.0 2F863.1.1.5A1B.0
2F864.1.1.5A27.0 2F865.1.1.59D8.0 2F866.1.1.5A66.0 2F867.1.1.36EE.0 2F868.1.1.36FC.0
2F869.1.1.5B08.0 2F86A.2.1.5B3E.0 2F86C.1.1.219C8.0 2F86D.1.1.5BC3.0 2F86E.1.1.5BD8.0
2F86F.1.1.5BE7.0 2F870.1.1.5BF3.0 2F871.1.1.21B18.0 2F872.1.1.5BFF.0 2F873.1.1.5C06.0
2F874.1.1.5F53.0 2F875.1.1.5C22.0 2F876.1.1.3781.0 2F877.1.1.5C60.0 2F878.1.1.5C6E.0
2F879.1.1.5CC0.0 2F87A.1.1.5C8D.0 2F87B.1.1.21DE4.0 2F87C.1.1.5D43.0 2F87D.1.1.21DE6.0
2F87E.1.1.5D6E.0 2F87F.1.1.5D6B.0 2F880.1.1.5D7C.0 2F881.2.1.5DE1.1 2F883.1.1.382F.0
2F884.1.1.5DFD.0 2F885.1.1.5E28.0 2F886.1.1.5E3D.0 2F887.1.1.5E69.0 2F888.1.1.3862.0
2F889.1.1.22183.0 2F88A.1.1.387C.0 2F88B.1.1.5EB0.0 2F88C.1.1.5EB3.0 2F88D.1.1.5EB6.0
2F88E.1.1.5ECA.0 2F88F.1.1.2A392.0 2F890.1.1.5EFE.0 2F891.2.1.22331.0 2F893.1.1.8201.0
2F894.2.1.5F22.0 2F896.1.1.38C7.0 2F897.1.1.232B8.0 2F898.1.1.261DA.0 2F899.1.1.5F62.0
2F89A.1.1.5F6B.0 2F89B.1.1.38E3.0 2F89C.1.1.5F9A.0 2F89D.1.1.5FCD.0 2F89E.1.1.5FD7.0
2F89F.1.1.5FF9.0 2F8A0.1.1.6081.0 2F8A1.1.1.393A.0 2F8A2.1.1.391C.0 2F8A3.1.1.6094.0
2F8A4.1.1.226D4.0 2F8A5.1.1.60C7.0 2F8A6.1.1.6148.0 2F8A7.2.1.614C.2 2F8A9.1.1.614C.0
2F8AA.1.1.617A.0 2F8AB.1.1.618E.0 2F8AC.1.1.61B2.0 2F8AD.1.1.61A4.0 2F8AE.1.1.61AF.0
2F8AF.1.1.61DE.0 2F8B0.1.1.61F2.0 2F8B1.1.1.61F6.0 2F8B2.1.1.6210.0 2F8B3.1.1.621B.0
2F8B4.1.1.625D.0 2F8B5.1.1.62B1.0 2F8B6.1.1.62D4.0 2F8B7.1.1.6350.0 2F8B8.1.1.22B0C.0
2F8B9.1.1.633D.0 2F8BA.1.1.62FC.0 2F8BB.1.1.6368.0 2F8BC.1.1.6383.0 2F8BD.1.1.63E4.0
2F8BE.1.1.22BF1.0 2F8BF.1.1.6422.0 2F8C0.1.1.63C5.0 2F8C1.1.1.63A9.0 2F8C2.1.1.3A2E.0
2F8C3.1.1.6469.0 2F8C4.1.1.647E.0 2F8C5.1.1.649D.0 2F8C6.1.1.6477.0 2F8C7.1.1.3A6C.0
2F8C8.1.1.654F.0 2F8C9.1.1.656C.0 2F8CA.1.1.2300A.0 2F8CB.1.1.65E3.0 2F8CC.1.1.66F8.0
2F8CD.1.1.6649.0 2F8CE.1.1.3B19.0 2F8CF.1.1.6691.0 2F8D0.1.1.3B08.0 2F8D1.1.1.3AE4.0
2F8D2.1.1.5192.0 2F8D3.1.1.5195.0 2F8D4.1.1.6700.0 2F8D5.1.1.669C.0 2F8D6.1.1.80AD.0
2F8D7.1.1.43D9.0 2F8D8.1.1.6717.0 2F8D9.1.1.671B.0 2F8DA.1.1.6721.0 2F8DB.1.1.675E.0
2F8DC.1.1.6753.0 2F8DD.1.1.233C3.0 2F8DE.1.1.3B49.0 2F8DF.1.1.67FA.0 2F8E0.1.1.6785.0
2F8E1.1.1.6852.0 2F8E2.1.1.6885.0 2F8E3.1.1.2346D.0 2F8E4.1.1.688E.0 2F8E5.1.1.681F.0
2F8E6.1.1.6914.0 2F8E7.1.1.3B9D.0 2F8E8.1.1.6942.0 2F8E9.1.1.69A3.0 2F8EA.1.1.69EA.0
2F8EB.1.1.6AA8.0 2F8EC.1.1.236A3.0 2F8ED.1.1.6ADB.0 2F8EE.1.1.3C18.0 2F8EF.1.1.6B21.0
2F8F0.1.1.238A7.0 2F8F1.1.1.6B54.0 2F8F2.1.1.3C4E.0 2F8F3.1.1.6B72.0 2F8F4.1.1.6B9F.0
2F8F5.2.1.6BBA.1 2F8F7.1.1.23A8D.0 2F8F8.1.1.21D0B.0 2F8F9.1.1.23AFA.0 2F8FA.1.1.6C4E.0
2F8FB.1.1.23CBC.0 2F8FC.1.1.6CBF.0 2F8FD.1.1.6CCD.0 2F8FE.1.1.6C67.0 2F8FF.1.1.6D16.0
2F900.1.1.6D3E.0 2F901.1.1.6D77.0 2F902.1.1.6D41.0 2F903.1.1.6D69.0 2F904.1.1.6D78.0
2F905.1.1.6D85.0 2F906.1.1.23D1E.0 2F907.1.1.6D34.0 2F908.1.1.6E2F.0 2F909.1.1.6E6E.0
2F90A.1.1.3D33.0 2F90B.1.1.6ECB.0 2F90C.1.1.6EC7.0 2F90D.1.1.23ED1.0 2F90E.1.1.6DF9.0
2F90F.1.1.6F6E.0 2F910.1.1.23F5E.0 2F911.1.1.23F8E.0 2F912.1.1.6FC6.0 2F913.1.1.7039.0
2F914.1.1.701E.0 2F915.1.1.701B.0 2F916.1.1.3D96.0 2F917.1.1.704A.0 2F918.1.1.707D.0
2F919.1.1.7077.0 2F91A.1.1.70AD.0 2F91B.1.1.20525.0 2F91C.1.1.7145.0 2F91D.1.1.24263.0
2F91E.1.1.719C.0 2F91F.1.1.243AB.0 2F920.1.1.7228.0 2F921.1.1.7235.0 2F922.1.1.7250.0
2F923.1.1.24608.0 2F924.1.1.7280.0 2F925.1.1.7295.0 2F926.1.1.24735.0 2F927.1.1.24814.0
2F928.1.1.737A.0 2F929.1.1.738B.0 2F92A.1.1.3EAC.0 2F92B.1.1.73A5.0 2F92C.2.1.3EB8.0
2F92E.1.1.7447.0 2F92F.1.1.745C.0 2F930.1.1.7471.0 2F931.1.1.7485.0 2F932.1.1.74CA.0
2F933.1.1.3F1B.0 2F934.1.1.7524.0 2F935.1.1.24C36.0 2F936.1.1.753E.0 2F937.1.1.24C92.0
2F938.1.1.7570.0 2F939.1.1.2219F.0 2F93A.1.1.7610.0 2F93B.1.1.24FA1.0 2F93C.1.1.24FB8.0
2F93D.1.1.25044.0 2F93E.1.1.3FFC.0 2F93F.1.1.4008.0 2F940.1.1.76F4.0 2F941.1.1.250F3.0
2F942.1.1.250F2.0 2F943.1.1.25119.0 2F944.1.1.25133.0 2F945.2.1.771E.1 2F947.1.1.771F.0
2F948.1.1.774A.0 2F949.1.1.4039.0 2F94A.1.1.778B.0 2F94B.1.1.4046.0 2F94C.1.1.4096.0
2F94D.1.1.2541D.0 2F94E.1.1.784E.0 2F94F.1.1.788C.0 2F950.1.1.78CC.0 2F951.1.1.40E3.0
2F952.1.1.25626.0 2F953.1.1.7956.0 2F954.1.1.2569A.0 2F955.1.1.256C5.0 2F956.1.1.798F.0
2F957.1.1.79EB.0 2F958.1.1.412F.0 2F959.1.1.7A40.0 2F95A.1.1.7A4A.0 2F95B.1.1.7A4F.0
2F95C.1.1.2597C.0 2F95D.2.1.25AA7.0 2F95F.1.1.7AEE.0 2F960.1.1.4202.0 2F961.1.1.25BAB.0
2F962.1.1.7BC6.0 2F963.1.1.7BC9.0 2F964.1.1.4227.0 2F965.1.1.25C80.0 2F966.1.1.7CD2.0
2F967.1.1.42A0.0 2F968.1.1.7CE8.0 2F969.1.1.7CE3.0 2F96A.1.1.7D00.0 2F96B.1.1.25F86.0
2F96C.1.1.7D63.0 2F96D.1.1.4301.0 2F96E.1.1.7DC7.0 2F96F.1.1.7E02.0 2F970.1.1.7E45.0
2F971.1.1.4334.0 2F972.1.1.26228.0 2F973.1.1.26247.0 2F974.1.1.4359.0 2F975.1.1.262D9.0
2F976.1.1.7F7A.0 2F977.1.1.2633E.0 2F978.1.1.7F95.0 2F979.1.1.7FFA.0 2F97A.1.1.8005.0
2F97B.1.1.264DA.0 2F97C.1.1.26523.0 2F97D.1.1.8060.0 2F97E.1.1.265A8.0 2F97F.1.1.8070.0
2F980.1.1.2335F.0 2F981.1.1.43D5.0 2F982.1.1.80B2.0 2F983.1.1.8103.0 2F984.1.1.440B.0
2F985.1.1.813E.0 2F986.1.1.5AB5.0 2F987.1.1.267A7.0 2F988.1.1.267B5.0 2F989.1.1.23393.0
2F98A.1.1.2339C.0 2F98B.1.1.8201.0 2F98C.1.1.8204.0 2F98D.1.1.8F9E.0 2F98E.1.1.446B.0
2F98F.1.1.8291.0 2F990.1.1.828B.0 2F991.1.1.829D.0 2F992.1.1.52B3.0 2F993.2.1.82B1.2
2F995.1.1.82BD.0 2F996.1.1.82E6.0 2F997.1.1.26B3C.0 2F998.1.1.82E5.0 2F999.1.1.831D.0
2F99A.1.1.8363.0 2F99B.1.1.83AD.0 2F99C.1.1.8323.0 2F99D.1.1.83BD.0 2F99E.1.1.83E7.0
2F99F.1.1.8457.0 2F9A0.1.1.8353.0 2F9A1.2.1.83CA.2 2F9A3.1.1.83DC.0 2F9A4.1.1.26C36.0
2F9A5.1.1.26D6B.0 2F9A6.1.1.26CD5.0 2F9A7.1.1.452B.0 2F9A8.2.1.84F1.2 2F9AA.1.1.8516.0
2F9AB.1.1.273CA.0 2F9AC.1.1.8564.0 2F9AD.1.1.26F2C.0 2F9AE.1.1.455D.0 2F9AF.1.1.4561.0
2F9B0.1.1.26FB1.0 2F9B1.1.1.270D2.0 2F9B2.1.1.456B.0 2F9B3.1.1.8650.0 2F9B4.1.1.865C.0
2F9B5.2.1.8667.2 2F9B7.1.1.86A9.0 2F9B8.1.1.8688.0 2F9B9.1.1.870E.0 2F9BA.1.1.86E2.0
2F9BB.1.1.8779.0 2F9BC.1.1.8728.0 2F9BD.1.1.876B.0 2F9BE.1.1.8786.0 2F9BF.1.1.45D7.0
2F9C0.1.1.87E1.0 2F9C1.1.1.8801.0 2F9C2.1.1.45F9.0 2F9C3.1.1.8860.0 2F9C4.1.1.8863.0
2F9C5.1.1.27667.0 2F9C6.1.1.88D7.0 2F9C7.1.1.88DE.0 2F9C8.1.1.4635.0 2F9C9.1.1.88FA.0
2F9CA.1.1.34BB.0 2F9CB.1.1.278AE.0 2F9CC.1.1.27966.0 2F9CD.1.1.46BE.0 2F9CE.1.1.46C7.0
2F9CF.1.1.8AA0.0 2F9D0.1.1.8AED.0 2F9D1.1.1.8B8A.0 2F9D2.1.1.8C55.0 2F9D3.1.1.27CA8.0
2F9D4.1.1.8CAB.0 2F9D5.1.1.8CC1.0 2F9D6.1.1.8D1B.0 2F9D7.1.1.8D77.0 2F9D8.1.1.27F2F.0
2F9D9.1.1.20804.0 2F9DA.1.1.8DCB.0 2F9DB.1.1.8DBC.0 2F9DC.1.1.8DF0.0 2F9DD.1.1.208DE.0
2F9DE.1.1.8ED4.0 2F9DF.1.1.8F38.0 2F9E0.1.1.285D2.0 2F9E1.1.1.285ED.0 2F9E2.1.1.9094.0
2F9E3.1.1.90F1.0 2F9E4.1.1.9111.0 2F9E5.1.1.2872E.0 2F9E6.1.1.911B.0 2F9E7.1.1.9238.0
2F9E8.2.1.92D7.1 2F9EA.1.1.927C.0 2F9EB.1.1.93F9.0 2F9EC.1.1.9415.0 2F9ED.1.1.28BFA.0
2F9EE.1.1.958B.0 2F9EF.1.1.4995.0 2F9F0.1.1.95B7.0 2F9F1.1.1.28D77.0 2F9F2.1.1.49E6.0
2F9F3.1.1.96C3.0 2F9F4.1.1.5DB2.0 2F9F5.1.1.9723.0 2F9F6.1.1.29145.0 2F9F7.1.1.2921A.0
2F9F8.1.1.4A6E.0 2F9F9.1.1.4A76.0 2F9FA.1.1.97E0.0 2F9FB.1.1.2940A.0 2F9FC.1.1.4AB2.0
2F9FD.1.1.29496.0 2F9FE.2.1.980B.0 2FA00.1.1.9829.0 2FA01.1.1.295B6.0 2FA02.1.1.98E2.0
2FA03.1.1.4B33.0 2FA04.1.1.9929.0 2FA05.1.1.99A7.0 2FA06.1.1.99C2.0 2FA07.1.1.99FE.0
2FA08.1.1.4BCE.0 2FA09.1.1.29B30.0 2FA0A.1.1.9B12.0 2FA0B.1.1.9C40.0 2FA0C.1.1.9CFD.0
2FA0D.1.1.4CCE.0 2FA0E.1.1.4CED.0 2FA0F.1.1.9D67.0 2FA10.1.1.2A0CE.0 2FA11.1.1.4CF8.0
2FA12.1.1.2A105.0 2FA13.1.1.2A20E.0 2FA14.1.1.2A291.0 2FA15.1.1.9EBB.0 2FA16.1.1.4D56.0
2FA17.1.1.9EF9.0 2FA18.1.1.9EFE.0 2FA19.1.1.9F05.0 2FA1A.1.1.9F0F.0 2FA1B.1.1.9F16.0
2FA1C.1.1.9F3B.0 2FA1D.1.1.2A600.0"

/-- Characters that become several.  A row holds the character and its replacements. -/
def textRows : String := "A8.20.308 AF.20.304 B4.20.301 B8.20.327 BC.31.2044.34 BD.31.2044.32 BE.33.2044.34 130.69.307
132.69.6A 133.69.6A 13F.6C.B7 140.6C.B7 149.2BC.6E 1C4.64.17E 1C5.64.17E 1C6.64.17E
1C7.6C.6A 1C8.6C.6A 1C9.6C.6A 1CA.6E.6A 1CB.6E.6A 1CC.6E.6A 1F1.64.7A 1F2.64.7A 1F3.64.7A
2D8.20.306 2D9.20.307 2DA.20.30A 2DB.20.328 2DC.20.303 2DD.20.30B 344.308.301 37A.20.3B9
384.20.301 385.20.308.301 587.565.582 675.627.674 676.648.674 677.6C7.674 678.64A.674
958.915.93C 959.916.93C 95A.917.93C 95B.91C.93C 95C.921.93C 95D.922.93C 95E.92B.93C
95F.92F.93C 9DC.9A1.9BC 9DD.9A2.9BC 9DF.9AF.9BC A33.A32.A3C A36.A38.A3C A59.A16.A3C
A5A.A17.A3C A5B.A1C.A3C A5E.A2B.A3C B5C.B21.B3C B5D.B22.B3C E33.E4D.E32 EB3.ECD.EB2
EDC.EAB.E99 EDD.EAB.EA1 F43.F42.FB7 F4D.F4C.FB7 F52.F51.FB7 F57.F56.FB7 F5C.F5B.FB7
F69.F40.FB5 F73.F71.F72 F75.F71.F74 F76.FB2.F80 F77.FB2.F71.F80 F78.FB3.F80 F79.FB3.F71.F80
F81.F71.F80 F93.F92.FB7 F9D.F9C.FB7 FA2.FA1.FB7 FA7.FA6.FB7 FAC.FAB.FB7 FB9.F90.FB5
1E9A.61.2BE 1F80.1F00.3B9 1F81.1F01.3B9 1F82.1F02.3B9 1F83.1F03.3B9 1F84.1F04.3B9
1F85.1F05.3B9 1F86.1F06.3B9 1F87.1F07.3B9 1F88.1F00.3B9 1F89.1F01.3B9 1F8A.1F02.3B9
1F8B.1F03.3B9 1F8C.1F04.3B9 1F8D.1F05.3B9 1F8E.1F06.3B9 1F8F.1F07.3B9 1F90.1F20.3B9
1F91.1F21.3B9 1F92.1F22.3B9 1F93.1F23.3B9 1F94.1F24.3B9 1F95.1F25.3B9 1F96.1F26.3B9
1F97.1F27.3B9 1F98.1F20.3B9 1F99.1F21.3B9 1F9A.1F22.3B9 1F9B.1F23.3B9 1F9C.1F24.3B9
1F9D.1F25.3B9 1F9E.1F26.3B9 1F9F.1F27.3B9 1FA0.1F60.3B9 1FA1.1F61.3B9 1FA2.1F62.3B9
1FA3.1F63.3B9 1FA4.1F64.3B9 1FA5.1F65.3B9 1FA6.1F66.3B9 1FA7.1F67.3B9 1FA8.1F60.3B9
1FA9.1F61.3B9 1FAA.1F62.3B9 1FAB.1F63.3B9 1FAC.1F64.3B9 1FAD.1F65.3B9 1FAE.1F66.3B9
1FAF.1F67.3B9 1FB2.1F70.3B9 1FB3.3B1.3B9 1FB4.3AC.3B9 1FB7.1FB6.3B9 1FBC.3B1.3B9 1FBD.20.313
1FBF.20.313 1FC0.20.342 1FC1.20.308.342 1FC2.1F74.3B9 1FC3.3B7.3B9 1FC4.3AE.3B9
1FC7.1FC6.3B9 1FCC.3B7.3B9 1FCD.20.313.300 1FCE.20.313.301 1FCF.20.313.342 1FDD.20.314.300
1FDE.20.314.301 1FDF.20.314.342 1FED.20.308.300 1FEE.20.308.301 1FF2.1F7C.3B9 1FF3.3C9.3B9
1FF4.3CE.3B9 1FF7.1FF6.3B9 1FFC.3C9.3B9 1FFD.20.301 1FFE.20.314 2017.20.333 2033.2032.2032
2034.2032.2032.2032 2036.2035.2035 2037.2035.2035.2035 203C.21.21 203E.20.305 2047.3F.3F
2048.3F.21 2049.21.3F 2057.2032.2032.2032.2032 20A8.72.73 2100.61.2F.63 2101.61.2F.73
2103.B0.63 2105.63.2F.6F 2106.63.2F.75 2109.B0.66 2116.6E.6F 2120.73.6D 2121.74.65.6C
2122.74.6D 213B.66.61.78 2150.31.2044.37 2151.31.2044.39 2152.31.2044.31.30 2153.31.2044.33
2154.32.2044.33 2155.31.2044.35 2156.32.2044.35 2157.33.2044.35 2158.34.2044.35
2159.31.2044.36 215A.35.2044.36 215B.31.2044.38 215C.33.2044.38 215D.35.2044.38
215E.37.2044.38 215F.31.2044 2161.69.69 2162.69.69.69 2163.69.76 2165.76.69 2166.76.69.69
2167.76.69.69.69 2168.69.78 216A.78.69 216B.78.69.69 2171.69.69 2172.69.69.69 2173.69.76
2175.76.69 2176.76.69.69 2177.76.69.69.69 2178.69.78 217A.78.69 217B.78.69.69
2189.30.2044.33 222C.222B.222B 222D.222B.222B.222B 222F.222E.222E 2230.222E.222E.222E
2469.31.30 246A.31.31 246B.31.32 246C.31.33 246D.31.34 246E.31.35 246F.31.36 2470.31.37
2471.31.38 2472.31.39 2473.32.30 2474.28.31.29 2475.28.32.29 2476.28.33.29 2477.28.34.29
2478.28.35.29 2479.28.36.29 247A.28.37.29 247B.28.38.29 247C.28.39.29 247D.28.31.30.29
247E.28.31.31.29 247F.28.31.32.29 2480.28.31.33.29 2481.28.31.34.29 2482.28.31.35.29
2483.28.31.36.29 2484.28.31.37.29 2485.28.31.38.29 2486.28.31.39.29 2487.28.32.30.29
249C.28.61.29 249D.28.62.29 249E.28.63.29 249F.28.64.29 24A0.28.65.29 24A1.28.66.29
24A2.28.67.29 24A3.28.68.29 24A4.28.69.29 24A5.28.6A.29 24A6.28.6B.29 24A7.28.6C.29
24A8.28.6D.29 24A9.28.6E.29 24AA.28.6F.29 24AB.28.70.29 24AC.28.71.29 24AD.28.72.29
24AE.28.73.29 24AF.28.74.29 24B0.28.75.29 24B1.28.76.29 24B2.28.77.29 24B3.28.78.29
24B4.28.79.29 24B5.28.7A.29 2A0C.222B.222B.222B.222B 2A74.3A.3A.3D 2A75.3D.3D 2A76.3D.3D.3D
2ADC.2ADD.338 309B.20.3099 309C.20.309A 309F.3088.308A 30FF.30B3.30C8 3200.28.1100.29
3201.28.1102.29 3202.28.1103.29 3203.28.1105.29 3204.28.1106.29 3205.28.1107.29
3206.28.1109.29 3207.28.110B.29 3208.28.110C.29 3209.28.110E.29 320A.28.110F.29
320B.28.1110.29 320C.28.1111.29 320D.28.1112.29 320E.28.AC00.29 320F.28.B098.29
3210.28.B2E4.29 3211.28.B77C.29 3212.28.B9C8.29 3213.28.BC14.29 3214.28.C0AC.29
3215.28.C544.29 3216.28.C790.29 3217.28.CC28.29 3218.28.CE74.29 3219.28.D0C0.29
321A.28.D30C.29 321B.28.D558.29 321C.28.C8FC.29 321D.28.C624.C804.29 321E.28.C624.D6C4.29
3220.28.4E00.29 3221.28.4E8C.29 3222.28.4E09.29 3223.28.56DB.29 3224.28.4E94.29
3225.28.516D.29 3226.28.4E03.29 3227.28.516B.29 3228.28.4E5D.29 3229.28.5341.29
322A.28.6708.29 322B.28.706B.29 322C.28.6C34.29 322D.28.6728.29 322E.28.91D1.29
322F.28.571F.29 3230.28.65E5.29 3231.28.682A.29 3232.28.6709.29 3233.28.793E.29
3234.28.540D.29 3235.28.7279.29 3236.28.8CA1.29 3237.28.795D.29 3238.28.52B4.29
3239.28.4EE3.29 323A.28.547C.29 323B.28.5B66.29 323C.28.76E3.29 323D.28.4F01.29
323E.28.8CC7.29 323F.28.5354.29 3240.28.796D.29 3241.28.4F11.29 3242.28.81EA.29
3243.28.81F3.29 3250.70.74.65 3251.32.31 3252.32.32 3253.32.33 3254.32.34 3255.32.35
3256.32.36 3257.32.37 3258.32.38 3259.32.39 325A.33.30 325B.33.31 325C.33.32 325D.33.33
325E.33.34 325F.33.35 327C.CC38.ACE0 327D.C8FC.C758 32B1.33.36 32B2.33.37 32B3.33.38
32B4.33.39 32B5.34.30 32B6.34.31 32B7.34.32 32B8.34.33 32B9.34.34 32BA.34.35 32BB.34.36
32BC.34.37 32BD.34.38 32BE.34.39 32BF.35.30 32C0.31.6708 32C1.32.6708 32C2.33.6708
32C3.34.6708 32C4.35.6708 32C5.36.6708 32C6.37.6708 32C7.38.6708 32C8.39.6708
32C9.31.30.6708 32CA.31.31.6708 32CB.31.32.6708 32CC.68.67 32CD.65.72.67 32CE.65.76
32CF.6C.74.64 32FF.4EE4.548C 3300.30A2.30D1.30FC.30C8 3301.30A2.30EB.30D5.30A1
3302.30A2.30F3.30DA.30A2 3303.30A2.30FC.30EB 3304.30A4.30CB.30F3.30B0 3305.30A4.30F3.30C1
3306.30A6.30A9.30F3 3307.30A8.30B9.30AF.30FC.30C9 3308.30A8.30FC.30AB.30FC
3309.30AA.30F3.30B9 330A.30AA.30FC.30E0 330B.30AB.30A4.30EA 330C.30AB.30E9.30C3.30C8
330D.30AB.30ED.30EA.30FC 330E.30AC.30ED.30F3 330F.30AC.30F3.30DE 3310.30AE.30AC
3311.30AE.30CB.30FC 3312.30AD.30E5.30EA.30FC 3313.30AE.30EB.30C0.30FC 3314.30AD.30ED
3315.30AD.30ED.30B0.30E9.30E0 3316.30AD.30ED.30E1.30FC.30C8.30EB
3317.30AD.30ED.30EF.30C3.30C8 3318.30B0.30E9.30E0 3319.30B0.30E9.30E0.30C8.30F3
331A.30AF.30EB.30BC.30A4.30ED 331B.30AF.30ED.30FC.30CD 331C.30B1.30FC.30B9
331D.30B3.30EB.30CA 331E.30B3.30FC.30DD 331F.30B5.30A4.30AF.30EB
3320.30B5.30F3.30C1.30FC.30E0 3321.30B7.30EA.30F3.30B0 3322.30BB.30F3.30C1
3323.30BB.30F3.30C8 3324.30C0.30FC.30B9 3325.30C7.30B7 3326.30C9.30EB 3327.30C8.30F3
3328.30CA.30CE 3329.30CE.30C3.30C8 332A.30CF.30A4.30C4 332B.30D1.30FC.30BB.30F3.30C8
332C.30D1.30FC.30C4 332D.30D0.30FC.30EC.30EB 332E.30D4.30A2.30B9.30C8.30EB
332F.30D4.30AF.30EB 3330.30D4.30B3 3331.30D3.30EB 3332.30D5.30A1.30E9.30C3.30C9
3333.30D5.30A3.30FC.30C8 3334.30D6.30C3.30B7.30A7.30EB 3335.30D5.30E9.30F3
3336.30D8.30AF.30BF.30FC.30EB 3337.30DA.30BD 3338.30DA.30CB.30D2 3339.30D8.30EB.30C4
333A.30DA.30F3.30B9 333B.30DA.30FC.30B8 333C.30D9.30FC.30BF 333D.30DD.30A4.30F3.30C8
333E.30DC.30EB.30C8 333F.30DB.30F3 3340.30DD.30F3.30C9 3341.30DB.30FC.30EB
3342.30DB.30FC.30F3 3343.30DE.30A4.30AF.30ED 3344.30DE.30A4.30EB 3345.30DE.30C3.30CF
3346.30DE.30EB.30AF 3347.30DE.30F3.30B7.30E7.30F3 3348.30DF.30AF.30ED.30F3 3349.30DF.30EA
334A.30DF.30EA.30D0.30FC.30EB 334B.30E1.30AC 334C.30E1.30AC.30C8.30F3
334D.30E1.30FC.30C8.30EB 334E.30E4.30FC.30C9 334F.30E4.30FC.30EB 3350.30E6.30A2.30F3
3351.30EA.30C3.30C8.30EB 3352.30EA.30E9 3353.30EB.30D4.30FC 3354.30EB.30FC.30D6.30EB
3355.30EC.30E0 3356.30EC.30F3.30C8.30B2.30F3 3357.30EF.30C3.30C8 3358.30.70B9 3359.31.70B9
335A.32.70B9 335B.33.70B9 335C.34.70B9 335D.35.70B9 335E.36.70B9 335F.37.70B9 3360.38.70B9
3361.39.70B9 3362.31.30.70B9 3363.31.31.70B9 3364.31.32.70B9 3365.31.33.70B9 3366.31.34.70B9
3367.31.35.70B9 3368.31.36.70B9 3369.31.37.70B9 336A.31.38.70B9 336B.31.39.70B9
336C.32.30.70B9 336D.32.31.70B9 336E.32.32.70B9 336F.32.33.70B9 3370.32.34.70B9
3371.68.70.61 3372.64.61 3373.61.75 3374.62.61.72 3375.6F.76 3376.70.63 3377.64.6D
3378.64.6D.32 3379.64.6D.33 337A.69.75 337B.5E73.6210 337C.662D.548C 337D.5927.6B63
337E.660E.6CBB 337F.682A.5F0F.4F1A.793E 3380.70.61 3381.6E.61 3382.3BC.61 3383.6D.61
3384.6B.61 3385.6B.62 3386.6D.62 3387.67.62 3388.63.61.6C 3389.6B.63.61.6C 338A.70.66
338B.6E.66 338C.3BC.66 338D.3BC.67 338E.6D.67 338F.6B.67 3390.68.7A 3391.6B.68.7A
3392.6D.68.7A 3393.67.68.7A 3394.74.68.7A 3395.3BC.6C 3396.6D.6C 3397.64.6C 3398.6B.6C
3399.66.6D 339A.6E.6D 339B.3BC.6D 339C.6D.6D 339D.63.6D 339E.6B.6D 339F.6D.6D.32
33A0.63.6D.32 33A1.6D.32 33A2.6B.6D.32 33A3.6D.6D.33 33A4.63.6D.33 33A5.6D.33 33A6.6B.6D.33
33A7.6D.2215.73 33A8.6D.2215.73.32 33A9.70.61 33AA.6B.70.61 33AB.6D.70.61 33AC.67.70.61
33AD.72.61.64 33AE.72.61.64.2215.73 33AF.72.61.64.2215.73.32 33B0.70.73 33B1.6E.73
33B2.3BC.73 33B3.6D.73 33B4.70.76 33B5.6E.76 33B6.3BC.76 33B7.6D.76 33B8.6B.76 33B9.6D.76
33BA.70.77 33BB.6E.77 33BC.3BC.77 33BD.6D.77 33BE.6B.77 33BF.6D.77 33C0.6B.3C9 33C1.6D.3C9
33C3.62.71 33C4.63.63 33C5.63.64 33C6.63.2215.6B.67 33C8.64.62 33C9.67.79 33CA.68.61
33CB.68.70 33CC.69.6E 33CD.6B.6B 33CE.6B.6D 33CF.6B.74 33D0.6C.6D 33D1.6C.6E 33D2.6C.6F.67
33D3.6C.78 33D4.6D.62 33D5.6D.69.6C 33D6.6D.6F.6C 33D7.70.68 33D9.70.70.6D 33DA.70.72
33DB.73.72 33DC.73.76 33DD.77.62 33DE.76.2215.6D 33DF.61.2215.6D 33E0.31.65E5 33E1.32.65E5
33E2.33.65E5 33E3.34.65E5 33E4.35.65E5 33E5.36.65E5 33E6.37.65E5 33E7.38.65E5 33E8.39.65E5
33E9.31.30.65E5 33EA.31.31.65E5 33EB.31.32.65E5 33EC.31.33.65E5 33ED.31.34.65E5
33EE.31.35.65E5 33EF.31.36.65E5 33F0.31.37.65E5 33F1.31.38.65E5 33F2.31.39.65E5
33F3.32.30.65E5 33F4.32.31.65E5 33F5.32.32.65E5 33F6.32.33.65E5 33F7.32.34.65E5
33F8.32.35.65E5 33F9.32.36.65E5 33FA.32.37.65E5 33FB.32.38.65E5 33FC.32.39.65E5
33FD.33.30.65E5 33FE.33.31.65E5 33FF.67.61.6C FB00.66.66 FB01.66.69 FB02.66.6C FB03.66.66.69
FB04.66.66.6C FB05.73.74 FB06.73.74 FB13.574.576 FB14.574.565 FB15.574.56B FB16.57E.576
FB17.574.56D FB1D.5D9.5B4 FB1F.5F2.5B7 FB2A.5E9.5C1 FB2B.5E9.5C2 FB2C.5E9.5BC.5C1
FB2D.5E9.5BC.5C2 FB2E.5D0.5B7 FB2F.5D0.5B8 FB30.5D0.5BC FB31.5D1.5BC FB32.5D2.5BC
FB33.5D3.5BC FB34.5D4.5BC FB35.5D5.5BC FB36.5D6.5BC FB38.5D8.5BC FB39.5D9.5BC FB3A.5DA.5BC
FB3B.5DB.5BC FB3C.5DC.5BC FB3E.5DE.5BC FB40.5E0.5BC FB41.5E1.5BC FB43.5E3.5BC FB44.5E4.5BC
FB46.5E6.5BC FB47.5E7.5BC FB48.5E8.5BC FB49.5E9.5BC FB4A.5EA.5BC FB4B.5D5.5B9 FB4C.5D1.5BF
FB4D.5DB.5BF FB4E.5E4.5BF FB4F.5D0.5DC FBDD.6C7.674 FBEA.626.627 FBEB.626.627 FBEC.626.6D5
FBED.626.6D5 FBEE.626.648 FBEF.626.648 FBF0.626.6C7 FBF1.626.6C7 FBF2.626.6C6 FBF3.626.6C6
FBF4.626.6C8 FBF5.626.6C8 FBF6.626.6D0 FBF7.626.6D0 FBF8.626.6D0 FBF9.626.649 FBFA.626.649
FBFB.626.649 FC00.626.62C FC01.626.62D FC02.626.645 FC03.626.649 FC04.626.64A FC05.628.62C
FC06.628.62D FC07.628.62E FC08.628.645 FC09.628.649 FC0A.628.64A FC0B.62A.62C FC0C.62A.62D
FC0D.62A.62E FC0E.62A.645 FC0F.62A.649 FC10.62A.64A FC11.62B.62C FC12.62B.645 FC13.62B.649
FC14.62B.64A FC15.62C.62D FC16.62C.645 FC17.62D.62C FC18.62D.645 FC19.62E.62C FC1A.62E.62D
FC1B.62E.645 FC1C.633.62C FC1D.633.62D FC1E.633.62E FC1F.633.645 FC20.635.62D FC21.635.645
FC22.636.62C FC23.636.62D FC24.636.62E FC25.636.645 FC26.637.62D FC27.637.645 FC28.638.645
FC29.639.62C FC2A.639.645 FC2B.63A.62C FC2C.63A.645 FC2D.641.62C FC2E.641.62D FC2F.641.62E
FC30.641.645 FC31.641.649 FC32.641.64A FC33.642.62D FC34.642.645 FC35.642.649 FC36.642.64A
FC37.643.627 FC38.643.62C FC39.643.62D FC3A.643.62E FC3B.643.644 FC3C.643.645 FC3D.643.649
FC3E.643.64A FC3F.644.62C FC40.644.62D FC41.644.62E FC42.644.645 FC43.644.649 FC44.644.64A
FC45.645.62C FC46.645.62D FC47.645.62E FC48.645.645 FC49.645.649 FC4A.645.64A FC4B.646.62C
FC4C.646.62D FC4D.646.62E FC4E.646.645 FC4F.646.649 FC50.646.64A FC51.647.62C FC52.647.645
FC53.647.649 FC54.647.64A FC55.64A.62C FC56.64A.62D FC57.64A.62E FC58.64A.645 FC59.64A.649
FC5A.64A.64A FC5B.630.670 FC5C.631.670 FC5D.649.670 FC5E.20.64C.651 FC5F.20.64D.651
FC60.20.64E.651 FC61.20.64F.651 FC62.20.650.651 FC63.20.651.670 FC64.626.631 FC65.626.632
FC66.626.645 FC67.626.646 FC68.626.649 FC69.626.64A FC6A.628.631 FC6B.628.632 FC6C.628.645
FC6D.628.646 FC6E.628.649 FC6F.628.64A FC70.62A.631 FC71.62A.632 FC72.62A.645 FC73.62A.646
FC74.62A.649 FC75.62A.64A FC76.62B.631 FC77.62B.632 FC78.62B.645 FC79.62B.646 FC7A.62B.649
FC7B.62B.64A FC7C.641.649 FC7D.641.64A FC7E.642.649 FC7F.642.64A FC80.643.627 FC81.643.644
FC82.643.645 FC83.643.649 FC84.643.64A FC85.644.645 FC86.644.649 FC87.644.64A FC88.645.627
FC89.645.645 FC8A.646.631 FC8B.646.632 FC8C.646.645 FC8D.646.646 FC8E.646.649 FC8F.646.64A
FC90.649.670 FC91.64A.631 FC92.64A.632 FC93.64A.645 FC94.64A.646 FC95.64A.649 FC96.64A.64A
FC97.626.62C FC98.626.62D FC99.626.62E FC9A.626.645 FC9B.626.647 FC9C.628.62C FC9D.628.62D
FC9E.628.62E FC9F.628.645 FCA0.628.647 FCA1.62A.62C FCA2.62A.62D FCA3.62A.62E FCA4.62A.645
FCA5.62A.647 FCA6.62B.645 FCA7.62C.62D FCA8.62C.645 FCA9.62D.62C FCAA.62D.645 FCAB.62E.62C
FCAC.62E.645 FCAD.633.62C FCAE.633.62D FCAF.633.62E FCB0.633.645 FCB1.635.62D FCB2.635.62E
FCB3.635.645 FCB4.636.62C FCB5.636.62D FCB6.636.62E FCB7.636.645 FCB8.637.62D FCB9.638.645
FCBA.639.62C FCBB.639.645 FCBC.63A.62C FCBD.63A.645 FCBE.641.62C FCBF.641.62D FCC0.641.62E
FCC1.641.645 FCC2.642.62D FCC3.642.645 FCC4.643.62C FCC5.643.62D FCC6.643.62E FCC7.643.644
FCC8.643.645 FCC9.644.62C FCCA.644.62D FCCB.644.62E FCCC.644.645 FCCD.644.647 FCCE.645.62C
FCCF.645.62D FCD0.645.62E FCD1.645.645 FCD2.646.62C FCD3.646.62D FCD4.646.62E FCD5.646.645
FCD6.646.647 FCD7.647.62C FCD8.647.645 FCD9.647.670 FCDA.64A.62C FCDB.64A.62D FCDC.64A.62E
FCDD.64A.645 FCDE.64A.647 FCDF.626.645 FCE0.626.647 FCE1.628.645 FCE2.628.647 FCE3.62A.645
FCE4.62A.647 FCE5.62B.645 FCE6.62B.647 FCE7.633.645 FCE8.633.647 FCE9.634.645 FCEA.634.647
FCEB.643.644 FCEC.643.645 FCED.644.645 FCEE.646.645 FCEF.646.647 FCF0.64A.645 FCF1.64A.647
FCF2.640.64E.651 FCF3.640.64F.651 FCF4.640.650.651 FCF5.637.649 FCF6.637.64A FCF7.639.649
FCF8.639.64A FCF9.63A.649 FCFA.63A.64A FCFB.633.649 FCFC.633.64A FCFD.634.649 FCFE.634.64A
FCFF.62D.649 FD00.62D.64A FD01.62C.649 FD02.62C.64A FD03.62E.649 FD04.62E.64A FD05.635.649
FD06.635.64A FD07.636.649 FD08.636.64A FD09.634.62C FD0A.634.62D FD0B.634.62E FD0C.634.645
FD0D.634.631 FD0E.633.631 FD0F.635.631 FD10.636.631 FD11.637.649 FD12.637.64A FD13.639.649
FD14.639.64A FD15.63A.649 FD16.63A.64A FD17.633.649 FD18.633.64A FD19.634.649 FD1A.634.64A
FD1B.62D.649 FD1C.62D.64A FD1D.62C.649 FD1E.62C.64A FD1F.62E.649 FD20.62E.64A FD21.635.649
FD22.635.64A FD23.636.649 FD24.636.64A FD25.634.62C FD26.634.62D FD27.634.62E FD28.634.645
FD29.634.631 FD2A.633.631 FD2B.635.631 FD2C.636.631 FD2D.634.62C FD2E.634.62D FD2F.634.62E
FD30.634.645 FD31.633.647 FD32.634.647 FD33.637.645 FD34.633.62C FD35.633.62D FD36.633.62E
FD37.634.62C FD38.634.62D FD39.634.62E FD3A.637.645 FD3B.638.645 FD3C.627.64B FD3D.627.64B
FD50.62A.62C.645 FD51.62A.62D.62C FD52.62A.62D.62C FD53.62A.62D.645 FD54.62A.62E.645
FD55.62A.645.62C FD56.62A.645.62D FD57.62A.645.62E FD58.62C.645.62D FD59.62C.645.62D
FD5A.62D.645.64A FD5B.62D.645.649 FD5C.633.62D.62C FD5D.633.62C.62D FD5E.633.62C.649
FD5F.633.645.62D FD60.633.645.62D FD61.633.645.62C FD62.633.645.645 FD63.633.645.645
FD64.635.62D.62D FD65.635.62D.62D FD66.635.645.645 FD67.634.62D.645 FD68.634.62D.645
FD69.634.62C.64A FD6A.634.645.62E FD6B.634.645.62E FD6C.634.645.645 FD6D.634.645.645
FD6E.636.62D.649 FD6F.636.62E.645 FD70.636.62E.645 FD71.637.645.62D FD72.637.645.62D
FD73.637.645.645 FD74.637.645.64A FD75.639.62C.645 FD76.639.645.645 FD77.639.645.645
FD78.639.645.649 FD79.63A.645.645 FD7A.63A.645.64A FD7B.63A.645.649 FD7C.641.62E.645
FD7D.641.62E.645 FD7E.642.645.62D FD7F.642.645.645 FD80.644.62D.645 FD81.644.62D.64A
FD82.644.62D.649 FD83.644.62C.62C FD84.644.62C.62C FD85.644.62E.645 FD86.644.62E.645
FD87.644.645.62D FD88.644.645.62D FD89.645.62D.62C FD8A.645.62D.645 FD8B.645.62D.64A
FD8C.645.62C.62D FD8D.645.62C.645 FD8E.645.62E.62C FD8F.645.62E.645 FD92.645.62C.62E
FD93.647.645.62C FD94.647.645.645 FD95.646.62D.645 FD96.646.62D.649 FD97.646.62C.645
FD98.646.62C.645 FD99.646.62C.649 FD9A.646.645.64A FD9B.646.645.649 FD9C.64A.645.645
FD9D.64A.645.645 FD9E.628.62E.64A FD9F.62A.62C.64A FDA0.62A.62C.649 FDA1.62A.62E.64A
FDA2.62A.62E.649 FDA3.62A.645.64A FDA4.62A.645.649 FDA5.62C.645.64A FDA6.62C.62D.649
FDA7.62C.645.649 FDA8.633.62E.649 FDA9.635.62D.64A FDAA.634.62D.64A FDAB.636.62D.64A
FDAC.644.62C.64A FDAD.644.645.64A FDAE.64A.62D.64A FDAF.64A.62C.64A FDB0.64A.645.64A
FDB1.645.645.64A FDB2.642.645.64A FDB3.646.62D.64A FDB4.642.645.62D FDB5.644.62D.645
FDB6.639.645.64A FDB7.643.645.64A FDB8.646.62C.62D FDB9.645.62E.64A FDBA.644.62C.645
FDBB.643.645.645 FDBC.644.62C.645 FDBD.646.62C.62D FDBE.62C.62D.64A FDBF.62D.62C.64A
FDC0.645.62C.64A FDC1.641.645.64A FDC2.628.62D.64A FDC3.643.645.645 FDC4.639.62C.645
FDC5.635.645.645 FDC6.633.62E.64A FDC7.646.62C.64A FDF0.635.644.6D2 FDF1.642.644.6D2
FDF2.627.644.644.647 FDF3.627.643.628.631 FDF4.645.62D.645.62F FDF5.635.644.639.645
FDF6.631.633.648.644 FDF7.639.644.64A.647 FDF8.648.633.644.645 FDF9.635.644.649
FDFA.635.644.649.20.627.644.644.647.20.639.644.64A.647.20.648.633.644.645
FDFB.62C.644.20.62C.644.627.644.647 FDFC.631.6CC.627.644 FE49.20.305 FE4A.20.305 FE4B.20.305
FE4C.20.305 FE70.20.64B FE71.640.64B FE72.20.64C FE74.20.64D FE76.20.64E FE77.640.64E
FE78.20.64F FE79.640.64F FE7A.20.650 FE7B.640.650 FE7C.20.651 FE7D.640.651 FE7E.20.652
FE7F.640.652 FEF5.644.622 FEF6.644.622 FEF7.644.623 FEF8.644.623 FEF9.644.625 FEFA.644.625
FEFB.644.627 FEFC.644.627 FFE3.20.304 1D15E.1D157.1D165 1D15F.1D158.1D165
1D160.1D158.1D165.1D16E 1D161.1D158.1D165.1D16F 1D162.1D158.1D165.1D170
1D163.1D158.1D165.1D171 1D164.1D158.1D165.1D172 1D1BB.1D1B9.1D165 1D1BC.1D1BA.1D165
1D1BD.1D1B9.1D165.1D16E 1D1BE.1D1BA.1D165.1D16E 1D1BF.1D1B9.1D165.1D16F
1D1C0.1D1BA.1D165.1D16F 1F101.30.2C 1F102.31.2C 1F103.32.2C 1F104.33.2C 1F105.34.2C
1F106.35.2C 1F107.36.2C 1F108.37.2C 1F109.38.2C 1F10A.39.2C 1F110.28.61.29 1F111.28.62.29
1F112.28.63.29 1F113.28.64.29 1F114.28.65.29 1F115.28.66.29 1F116.28.67.29 1F117.28.68.29
1F118.28.69.29 1F119.28.6A.29 1F11A.28.6B.29 1F11B.28.6C.29 1F11C.28.6D.29 1F11D.28.6E.29
1F11E.28.6F.29 1F11F.28.70.29 1F120.28.71.29 1F121.28.72.29 1F122.28.73.29 1F123.28.74.29
1F124.28.75.29 1F125.28.76.29 1F126.28.77.29 1F127.28.78.29 1F128.28.79.29 1F129.28.7A.29
1F12A.3014.73.3015 1F12D.63.64 1F12E.77.7A 1F14A.68.76 1F14B.6D.76 1F14C.73.64 1F14D.73.73
1F14E.70.70.76 1F14F.77.63 1F16A.6D.63 1F16B.6D.64 1F16C.6D.72 1F190.64.6A 1F200.307B.304B
1F201.30B3.30B3 1F240.3014.672C.3015 1F241.3014.4E09.3015 1F242.3014.4E8C.3015
1F243.3014.5B89.3015 1F244.3014.70B9.3015 1F245.3014.6253.3015 1F246.3014.76D7.3015
1F247.3014.52DD.3015 1F248.3014.6557.3015"

/-- Characters that vanish.  A row holds the first and the last of a range. -/
def ignoredRows : String := "AD.AD 34F.34F 115F.1160 17B4.17B5 180B.180F 200B.200B 2060.2064 206A.206F 3164.3164
FE00.FE0F FEFF.FEFF FFA0.FFA0 1BCA0.1BCA3 1D173.1D17A E0100.E01EF"

/-- Characters that no domain name may hold.  A row holds the first and the last of a range. -/
def refusedRows : String := "80.9F 378.379 380.383 38B.38B 38D.38D 3A2.3A2 530.530 557.558 58B.58C 590.590 5C8.5CF
5EB.5EE 5F5.605 61C.61C 6DD.6DD 70E.70F 74B.74C 7B2.7BF 7FB.7FC 82E.82F 83F.83F 85C.85D
85F.85F 86B.86F 890.896 8E2.8E2 984.984 98D.98E 991.992 9A9.9A9 9B1.9B1 9B3.9B5 9BA.9BB
9C5.9C6 9C9.9CA 9CF.9D6 9D8.9DB 9DE.9DE 9E4.9E5 9FF.A00 A04.A04 A0B.A0E A11.A12 A29.A29
A31.A31 A34.A34 A37.A37 A3A.A3B A3D.A3D A43.A46 A49.A4A A4E.A50 A52.A58 A5D.A5D A5F.A65
A77.A80 A84.A84 A8E.A8E A92.A92 AA9.AA9 AB1.AB1 AB4.AB4 ABA.ABB AC6.AC6 ACA.ACA ACE.ACF
AD1.ADF AE4.AE5 AF2.AF8 B00.B00 B04.B04 B0D.B0E B11.B12 B29.B29 B31.B31 B34.B34 B3A.B3B
B45.B46 B49.B4A B4E.B54 B58.B5B B5E.B5E B64.B65 B78.B81 B84.B84 B8B.B8D B91.B91 B96.B98
B9B.B9B B9D.B9D BA0.BA2 BA5.BA7 BAB.BAD BBA.BBD BC3.BC5 BC9.BC9 BCE.BCF BD1.BD6 BD8.BE5
BFB.BFF C0D.C0D C11.C11 C29.C29 C3A.C3B C45.C45 C49.C49 C4E.C54 C57.C57 C5B.C5B C5E.C5F
C64.C65 C70.C76 C8D.C8D C91.C91 CA9.CA9 CB4.CB4 CBA.CBB CC5.CC5 CC9.CC9 CCE.CD4 CD7.CDB
CDF.CDF CE4.CE5 CF0.CF0 CF4.CFF D0D.D0D D11.D11 D45.D45 D49.D49 D50.D53 D64.D65 D80.D80
D84.D84 D97.D99 DB2.DB2 DBC.DBC DBE.DBF DC7.DC9 DCB.DCE DD5.DD5 DD7.DD7 DE0.DE5 DF0.DF1
DF5.E00 E3B.E3E E5C.E80 E83.E83 E85.E85 E8B.E8B EA4.EA4 EA6.EA6 EBE.EBF EC5.EC5 EC7.EC7
ECF.ECF EDA.EDB EE0.EFF F48.F48 F6D.F70 F98.F98 FBD.FBD FCD.FCD FDB.FFF 10C6.10C6 10C8.10CC
10CE.10CF 1249.1249 124E.124F 1257.1257 1259.1259 125E.125F 1289.1289 128E.128F 12B1.12B1
12B6.12B7 12BF.12BF 12C1.12C1 12C6.12C7 12D7.12D7 1311.1311 1316.1317 135B.135C 137D.137F
139A.139F 13F6.13F7 13FE.13FF 1680.1680 169D.169F 16F9.16FF 1716.171E 1737.173F 1754.175F
176D.176D 1771.1771 1774.177F 17DE.17DF 17EA.17EF 17FA.17FF 181A.181F 1879.187F 18AB.18AF
18F6.18FF 191F.191F 192C.192F 193C.193F 1941.1943 196E.196F 1975.197F 19AC.19AF 19CA.19CF
19DB.19DD 1A1C.1A1D 1A5F.1A5F 1A7D.1A7E 1A8A.1A8F 1A9A.1A9F 1AAE.1AAF 1ADE.1ADF 1AEC.1AFF
1B4D.1B4D 1BF4.1BFB 1C38.1C3A 1C4A.1C4C 1C8B.1C8F 1CBB.1CBC 1CC8.1CCF 1CFB.1CFF 1F16.1F17
1F1E.1F1F 1F46.1F47 1F4E.1F4F 1F58.1F58 1F5A.1F5A 1F5C.1F5C 1F5E.1F5E 1F7E.1F7F 1FB5.1FB5
1FC5.1FC5 1FD4.1FD5 1FDC.1FDC 1FF0.1FF1 1FF5.1FF5 1FFF.1FFF 200E.200F 2024.2026 2028.202E
2065.2069 2072.2073 208F.208F 209D.209F 20C2.20CF 20F1.20FF 218C.218F 242A.243F 244B.245F
2488.249B 2B74.2B75 2CF4.2CF8 2D26.2D26 2D28.2D2C 2D2E.2D2F 2D68.2D6E 2D71.2D7E 2D97.2D9F
2DA7.2DA7 2DAF.2DAF 2DB7.2DB7 2DBF.2DBF 2DC7.2DC7 2DCF.2DCF 2DD7.2DD7 2DDF.2DDF 2E5E.2E7F
2E9A.2E9A 2EF4.2EFF 2FD6.2FFF 3040.3040 3097.3098 3100.3104 3130.3130 318F.318F 31E6.31EF
321F.321F 33C2.33C2 33C7.33C7 33D8.33D8 A48D.A48F A4C7.A4CF A62C.A63F A6F8.A6FF A7DD.A7F0
A82D.A82F A83A.A83F A878.A87F A8C6.A8CD A8DA.A8DF A954.A95E A97D.A97F A9CE.A9CE A9DA.A9DD
A9FF.A9FF AA37.AA3F AA4E.AA4F AA5A.AA5B AAC3.AADA AAF7.AB00 AB07.AB08 AB0F.AB10 AB17.AB1F
AB27.AB27 AB2F.AB2F AB6C.AB6F ABEE.ABEF ABFA.ABFF D7A4.D7AF D7C7.D7CA D7FC.F8FF FA6E.FA6F
FADA.FAFF FB07.FB12 FB18.FB1C FB37.FB37 FB3D.FB3D FB3F.FB3F FB42.FB42 FB45.FB45 FDD0.FDEF
FE12.FE12 FE19.FE1F FE30.FE30 FE52.FE53 FE67.FE67 FE6C.FE6F FE75.FE75 FEFD.FEFE FF00.FF00
FFBF.FFC1 FFC8.FFC9 FFD0.FFD1 FFD8.FFD9 FFDD.FFDF FFE7.FFE7 FFEF.FFFF 1000C.1000C
10027.10027 1003B.1003B 1003E.1003E 1004E.1004F 1005E.1007F 100FB.100FF 10103.10106
10134.10136 1018F.1018F 1019D.1019F 101A1.101CF 101FE.1027F 1029D.1029F 102D1.102DF
102FC.102FF 10324.1032C 1034B.1034F 1037B.1037F 1039E.1039E 103C4.103C7 103D6.103FF
1049E.1049F 104AA.104AF 104D4.104D7 104FC.104FF 10528.1052F 10564.1056E 1057B.1057B
1058B.1058B 10593.10593 10596.10596 105A2.105A2 105B2.105B2 105BA.105BA 105BD.105BF
105F4.105FF 10737.1073F 10756.1075F 10768.1077F 10786.10786 107B1.107B1 107BB.107FF
10806.10807 10809.10809 10836.10836 10839.1083B 1083D.1083E 10856.10856 1089F.108A6
108B0.108DF 108F3.108F3 108F6.108FA 1091C.1091E 1093A.1093E 1095A.1097F 109B8.109BB
109D0.109D1 10A04.10A04 10A07.10A0B 10A14.10A14 10A18.10A18 10A36.10A37 10A3B.10A3E
10A49.10A4F 10A59.10A5F 10AA0.10ABF 10AE7.10AEA 10AF7.10AFF 10B36.10B38 10B56.10B57
10B73.10B77 10B92.10B98 10B9D.10BA8 10BB0.10BFF 10C49.10C7F 10CB3.10CBF 10CF3.10CF9
10D28.10D2F 10D3A.10D3F 10D66.10D68 10D86.10D8D 10D90.10E5F 10E7F.10E7F 10EAA.10EAA
10EAE.10EAF 10EB2.10EC1 10EC8.10ECF 10ED9.10EF9 10F28.10F2F 10F5A.10F6F 10F8A.10FAF
10FCC.10FDF 10FF7.10FFF 1104E.11051 11076.1107E 110BD.110BD 110C3.110CF 110E9.110EF
110FA.110FF 11135.11135 11148.1114F 11177.1117F 111E0.111E0 111F5.111FF 11212.11212
11242.1127F 11287.11287 11289.11289 1128E.1128E 1129E.1129E 112AA.112AF 112EB.112EF
112FA.112FF 11304.11304 1130D.1130E 11311.11312 11329.11329 11331.11331 11334.11334
1133A.1133A 11345.11346 11349.1134A 1134E.1134F 11351.11356 11358.1135C 11364.11365
1136D.1136F 11375.1137F 1138A.1138A 1138C.1138D 1138F.1138F 113B6.113B6 113C1.113C1
113C3.113C4 113C6.113C6 113CB.113CB 113D6.113D6 113D9.113E0 113E3.113FF 1145C.1145C
11462.1147F 114C8.114CF 114DA.1157F 115B6.115B7 115DE.115FF 11645.1164F 1165A.1165F
1166D.1167F 116BA.116BF 116CA.116CF 116E4.116FF 1171B.1171C 1172C.1172F 11747.117FF
1183C.1189F 118F3.118FE 11907.11908 1190A.1190B 11914.11914 11917.11917 11936.11936
11939.1193A 11947.1194F 1195A.1199F 119A8.119A9 119D8.119D9 119E5.119FF 11A48.11A4F
11AA3.11AAF 11AF9.11AFF 11B0A.11B5F 11B68.11BBF 11BE2.11BEF 11BFA.11BFF 11C09.11C09
11C37.11C37 11C46.11C4F 11C6D.11C6F 11C90.11C91 11CA8.11CA8 11CB7.11CFF 11D07.11D07
11D0A.11D0A 11D37.11D39 11D3B.11D3B 11D3E.11D3E 11D48.11D4F 11D5A.11D5F 11D66.11D66
11D69.11D69 11D8F.11D8F 11D92.11D92 11D99.11D9F 11DAA.11DAF 11DDC.11DDF 11DEA.11EDF
11EF9.11EFF 11F11.11F11 11F3B.11F3D 11F5B.11FAF 11FB1.11FBF 11FF2.11FFE 1239A.123FF
1246F.1246F 12475.1247F 12544.12F8F 12FF3.12FFF 13430.1343F 13456.1345F 143FB.143FF
14647.160FF 1613A.167FF 16A39.16A3F 16A5F.16A5F 16A6A.16A6D 16ABF.16ABF 16ACA.16ACF
16AEE.16AEF 16AF6.16AFF 16B46.16B4F 16B5A.16B5A 16B62.16B62 16B78.16B7C 16B90.16D3F
16D7A.16E3F 16E9B.16E9F 16EB9.16EBA 16ED4.16EFF 16F4B.16F4E 16F88.16F8E 16FA0.16FDF
16FE5.16FEF 16FF7.16FFF 18CD6.18CFE 18D1F.18D7F 18DF3.1AFEF 1AFF4.1AFF4 1AFFC.1AFFC
1AFFF.1AFFF 1B123.1B131 1B133.1B14F 1B153.1B154 1B156.1B163 1B168.1B16F 1B2FC.1BBFF
1BC6B.1BC6F 1BC7D.1BC7F 1BC89.1BC8F 1BC9A.1BC9B 1BCA4.1CBFF 1CCFD.1CCFF 1CEB4.1CEB9
1CED1.1CEDF 1CEF1.1CEFF 1CF2E.1CF2F 1CF47.1CF4F 1CFC4.1CFFF 1D0F6.1D0FF 1D127.1D128
1D1EB.1D1FF 1D246.1D2BF 1D2D4.1D2DF 1D2F4.1D2FF 1D357.1D35F 1D379.1D3FF 1D455.1D455
1D49D.1D49D 1D4A0.1D4A1 1D4A3.1D4A4 1D4A7.1D4A8 1D4AD.1D4AD 1D4BA.1D4BA 1D4BC.1D4BC
1D4C4.1D4C4 1D506.1D506 1D50B.1D50C 1D515.1D515 1D51D.1D51D 1D53A.1D53A 1D53F.1D53F
1D545.1D545 1D547.1D549 1D551.1D551 1D6A6.1D6A7 1D7CC.1D7CD 1DA8C.1DA9A 1DAA0.1DAA0
1DAB0.1DEFF 1DF1F.1DF24 1DF2B.1DFFF 1E007.1E007 1E019.1E01A 1E022.1E022 1E025.1E025
1E02B.1E02F 1E06E.1E08E 1E090.1E0FF 1E12D.1E12F 1E13E.1E13F 1E14A.1E14D 1E150.1E28F
1E2AF.1E2BF 1E2FA.1E2FE 1E300.1E4CF 1E4FA.1E5CF 1E5FB.1E5FE 1E600.1E6BF 1E6DF.1E6DF
1E6F6.1E6FD 1E700.1E7DF 1E7E7.1E7E7 1E7EC.1E7EC 1E7EF.1E7EF 1E7FF.1E7FF 1E8C5.1E8C6
1E8D7.1E8FF 1E94C.1E94F 1E95A.1E95D 1E960.1EC70 1ECB5.1ED00 1ED3E.1EDFF 1EE04.1EE04
1EE20.1EE20 1EE23.1EE23 1EE25.1EE26 1EE28.1EE28 1EE33.1EE33 1EE38.1EE38 1EE3A.1EE3A
1EE3C.1EE41 1EE43.1EE46 1EE48.1EE48 1EE4A.1EE4A 1EE4C.1EE4C 1EE50.1EE50 1EE53.1EE53
1EE55.1EE56 1EE58.1EE58 1EE5A.1EE5A 1EE5C.1EE5C 1EE5E.1EE5E 1EE60.1EE60 1EE63.1EE63
1EE65.1EE66 1EE6B.1EE6B 1EE73.1EE73 1EE78.1EE78 1EE7D.1EE7D 1EE7F.1EE7F 1EE8A.1EE8A
1EE9C.1EEA0 1EEA4.1EEA4 1EEAA.1EEAA 1EEBC.1EEEF 1EEF2.1EFFF 1F02C.1F02F 1F094.1F09F
1F0AF.1F0B0 1F0C0.1F0C0 1F0D0.1F0D0 1F0F6.1F100 1F1AE.1F1E5 1F203.1F20F 1F23C.1F23F
1F249.1F24F 1F252.1F25F 1F266.1F2FF 1F6D9.1F6DB 1F6ED.1F6EF 1F6FD.1F6FF 1F7DA.1F7DF
1F7EC.1F7EF 1F7F1.1F7FF 1F80C.1F80F 1F848.1F84F 1F85A.1F85F 1F888.1F88F 1F8AE.1F8AF
1F8BC.1F8BF 1F8C2.1F8CF 1F8D9.1F8FF 1FA58.1FA5F 1FA6E.1FA6F 1FA7D.1FA7F 1FA8B.1FA8D
1FAC7.1FAC7 1FAC9.1FACC 1FADD.1FADE 1FAEB.1FAEE 1FAF9.1FAFF 1FB93.1FB93 1FBFB.1FFFF
2A6E0.2A6FF 2B81E.2B81F 2CEAE.2CEAF 2EBE1.2EBEF 2EE5E.2F7FF 2FA1E.2FFFF 3134B.3134F
3347A.E00FF E01F0.10FFFF"

end FormUpload.Url.Domain
