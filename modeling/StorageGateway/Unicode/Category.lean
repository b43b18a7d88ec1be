import StorageGateway.Unicode.Table

/-!
# General categories

The general category of every code point, as consecutive runs of one category each, and the
properties that patterns need beside it.
-/

namespace StorageGateway.Unicode

/-- The runs of general categories, from code point 0 to the last. -/
def categoryRuns : String := String.join [
  "Cc32Zs1Po3Sc1Po3Ps1Pe1Po1Sm1Po1Pd1Po2Nd10Po2Sm3Po2Lu26Ps1Po1Pe1Sk1Pc1Sk1Ll26Ps1Sm1Pe1Sm1Cc33",
  "Zs1Po1Sc4So1Po1Sk1So1Lo1Pi1Sm1Cf1So1Sk1So1Sm1No2Sk1Ll1Po2Sk1No1Lo1Pf1No3Po1Lu23Sm1Lu7Ll24Sm1",
  "Ll8Lu1Ll1Lu1Ll1Lu1Ll1Lu1Ll1Lu1Ll1Lu1Ll1Lu1Ll1Lu1Ll1Lu1Ll1Lu1Ll1Lu1Ll1Lu1Ll1Lu1Ll1Lu1Ll1Lu1Ll",
  "1Lu1Ll1Lu1Ll1Lu1Ll1Lu1Ll1Lu1Ll1Lu1Ll1Lu1Ll1Lu1Ll1Lu1Ll1Lu1Ll1Lu1Ll1Lu1Ll1Lu1Ll2Lu1Ll1Lu1Ll1L",
  "u1Ll1Lu1Ll1Lu1Ll1Lu1Ll1Lu1Ll1Lu1Ll2Lu1Ll1Lu1Ll1Lu1Ll1Lu1Ll1Lu1Ll1Lu1Ll1Lu1Ll1Lu1Ll1Lu1Ll1Lu1",
  "Ll1Lu1Ll1Lu1Ll1Lu1Ll1Lu1Ll1Lu1Ll1Lu1Ll1Lu1Ll1Lu1Ll1Lu1Ll1Lu1Ll1Lu1Ll1Lu1Ll1Lu1Ll1Lu2Ll1Lu1Ll",
  "1Lu1Ll3Lu2Ll1Lu1Ll1Lu2Ll1Lu3Ll2Lu4Ll1Lu2Ll1Lu3Ll3Lu2Ll1Lu2Ll1Lu1Ll1Lu1Ll1Lu2Ll1Lu1Ll2Lu1Ll1L",
  "u2Ll1Lu3Ll1Lu1Ll1Lu2Ll2Lo1Lu1Ll3Lo4Lu1Lt1Ll1Lu1Lt1Ll1Lu1Lt1Ll1Lu1Ll1Lu1Ll1Lu1Ll1Lu1Ll1Lu1Ll1",
  "Lu1Ll1Lu1Ll1Lu1Ll2Lu1Ll1Lu1Ll1Lu1Ll1Lu1Ll1Lu1Ll1Lu1Ll1Lu1Ll1Lu1Ll1Lu1Ll2Lu1Lt1Ll1Lu1Ll1Lu3Ll",
  "1Lu1Ll1Lu1Ll1Lu1Ll1Lu1Ll1Lu1Ll1Lu1Ll1Lu1Ll1Lu1Ll1Lu1Ll1Lu1Ll1Lu1Ll1Lu1Ll1Lu1Ll1Lu1Ll1Lu1Ll1L",
  "u1Ll1Lu1Ll1Lu1Ll1Lu1Ll1Lu1Ll1Lu1Ll1Lu1Ll1Lu1Ll1Lu1Ll1Lu1Ll1Lu1Ll1Lu1Ll1Lu1Ll1Lu1Ll7Lu2Ll1Lu2",
  "Ll2Lu1Ll1Lu4Ll1Lu1Ll1Lu1Ll1Lu1Ll1Lu1Ll69Lo1Ll27Lm18Sk4Lm12Sk14Lm5Sk7Lm1Sk1Lm1Sk17Mn112Lu1Ll1",
  "Lu1Ll1Lm1Sk1Lu1Ll1Cn2Lm1Ll3Po1Lu1Cn4Sk2Lu1Po1Lu3Cn1Lu1Cn1Lu2Ll1Lu17Cn1Lu9Ll35Lu1Ll2Lu3Ll3Lu1",
  "Ll1Lu1Ll1Lu1Ll1Lu1Ll1Lu1Ll1Lu1Ll1Lu1Ll1Lu1Ll1Lu1Ll1Lu1Ll1Lu1Ll1Lu1Ll5Lu1Ll1Sm1Lu1Ll1Lu2Ll2Lu",
  "51Ll48Lu1Ll1Lu1Ll1Lu1Ll1Lu1Ll1Lu1Ll1Lu1Ll1Lu1Ll1Lu1Ll1Lu1Ll1Lu1Ll1Lu1Ll1Lu1Ll1Lu1Ll1Lu1Ll1Lu",
  "1Ll1Lu1Ll1Lu1Ll1So1Mn5Me2Lu1Ll1Lu1Ll1Lu1Ll1Lu1Ll1Lu1Ll1Lu1Ll1Lu1Ll1Lu1Ll1Lu1Ll1Lu1Ll1Lu1Ll1L",
  "u1Ll1Lu1Ll1Lu1Ll1Lu1Ll1Lu1Ll1Lu1Ll1Lu1Ll1Lu1Ll1Lu1Ll1Lu1Ll1Lu1Ll1Lu1Ll1Lu1Ll1Lu1Ll1Lu1Ll1Lu1",
  "Ll1Lu2Ll1Lu1Ll1Lu1Ll1Lu1Ll1Lu1Ll1Lu1Ll1Lu1Ll2Lu1Ll1Lu1Ll1Lu1Ll1Lu1Ll1Lu1Ll1Lu1Ll1Lu1Ll1Lu1Ll",
  "1Lu1Ll1Lu1Ll1Lu1Ll1Lu1Ll1Lu1Ll1Lu1Ll1Lu1Ll1Lu1Ll1Lu1Ll1Lu1Ll1Lu1Ll1Lu1Ll1Lu1Ll1Lu1Ll1Lu1Ll1L",
  "u1Ll1Lu1Ll1Lu1Ll1Lu1Ll1Lu1Ll1Lu1Ll1Lu1Ll1Lu1Ll1Lu1Ll1Lu1Ll1Lu1Ll1Lu1Ll1Lu1Ll1Lu1Ll1Lu1Ll1Lu1",
  "Ll1Lu1Ll1Lu1Ll1Lu1Ll1Lu1Ll1Lu1Ll1Lu1Ll1Lu1Ll1Lu1Ll1Lu1Ll1Cn1Lu38Cn2Lm1Po6Ll41Po1Pd1Cn2So2Sc1",
  "Cn1Mn45Pd1Mn1Po1Mn2Po1Mn2Po1Mn1Cn8Lo27Cn4Lo4Po2Cn11Cf6Sm3Po2Sc1Po2So2Mn11Po1Cf1Po3Lo32Lm1Lo1",
  "0Mn21Nd10Po4Lo2Mn1Lo99Po1Lo1Mn7Cf1So1Mn6Lm2Mn2So1Mn4Lo2Nd10Lo3So2Lo1Po14Cn1Cf1Lo1Mn1Lo30Mn27",
  "Cn2Lo89Mn11Lo1Cn14Nd10Lo33Mn9Lm2So1Po3Lm1Cn2Mn1Sc2Lo22Mn4Lm1Mn9Lm1Mn3Lm1Mn5Cn2Po15Cn1Lo25Mn3",
  "Cn2Po1Cn1Lo11Cn5Lo24Sk1Lo6Cn1Cf2Cn6Mn8Lo41Lm1Mn24Cf1Mn32Mc1Lo54Mn1Mc1Mn1Lo1Mc3Mn8Mc4Mn1Mc2Lo",
  "1Mn7Lo10Mn2Po2Nd10Po1Lm1Lo15Mn1Mc2Cn1Lo8Cn2Lo2Cn2Lo22Cn1Lo7Cn1Lo1Cn3Lo4Cn2Mn1Lo1Mc3Mn4Cn2Mc2",
  "Cn2Mc2Mn1Lo1Cn8Mc1Cn4Lo2Cn1Lo3Mn2Cn2Nd10Lo2Sc2No6So1Sc1Lo1Po1Mn1Cn2Mn2Mc1Cn1Lo6Cn4Lo2Cn2Lo22",
  "Cn1Lo7Cn1Lo2Cn1Lo2Cn1Lo2Cn2Mn1Cn1Mc3Mn2Cn4Mn2Cn2Mn3Cn3Mn1Cn7Lo4Cn1Lo1Cn7Nd10Mn2Lo3Mn1Po1Cn10",
  "Mn2Mc1Cn1Lo9Cn1Lo3Cn1Lo22Cn1Lo7Cn1Lo2Cn1Lo5Cn2Mn1Lo1Mc3Mn5Cn1Mn2Mc1Cn1Mc2Mn1Cn2Lo1Cn15Lo2Mn2",
  "Cn2Nd10Po1Sc1Cn7Lo1Mn6Cn1Mn1Mc2Cn1Lo8Cn2Lo2Cn2Lo22Cn1Lo7Cn1Lo2Cn1Lo5Cn2Mn1Lo1Mc1Mn1Mc1Mn4Cn2",
  "Mc2Cn2Mc2Mn1Cn7Mn2Mc1Cn4Lo2Cn1Lo3Mn2Cn2Nd10So1Lo1No6Cn10Mn1Lo1Cn1Lo6Cn3Lo3Cn1Lo4Cn3Lo2Cn1Lo1",
  "Cn1Lo2Cn3Lo2Cn3Lo3Cn3Lo12Cn4Mc2Mn1Mc2Cn3Mc3Cn1Mc3Mn1Cn2Lo1Cn6Mc1Cn14Nd10No3So6Sc1So1Cn5Mn1Mc",
  "3Mn1Lo8Cn1Lo3Cn1Lo23Cn1Lo16Cn2Mn1Lo1Mn3Mc4Cn1Mn3Cn1Mn4Cn7Mn2Cn1Lo3Cn2Lo1Cn2Lo2Mn2Cn2Nd10Cn7P",
  "o1No7So1Lo1Mn1Mc2Po1Lo8Cn1Lo3Cn1Lo23Cn1Lo10Cn1Lo5Cn2Mn1Lo1Mc1Mn1Mc5Cn1Mn1Mc2Cn1Mc2Mn2Cn7Mc2C",
  "n6Lo2Cn1Lo2Mn2Cn2Nd10Cn1Lo2Mc1Cn12Mn2Mc2Lo9Cn1Lo3Cn1Lo41Mn2Lo1Mc3Mn4Cn1Mc3Cn1Mc3Mn1Lo1So1Cn4",
  "Lo3Mc1No7Lo3Mn2Cn2Nd10No9So1Lo6Cn1Mn1Mc2Cn1Lo18Cn3Lo24Cn1Lo9Cn1Lo1Cn2Lo7Cn3Mn1Cn4Mc3Mn3Cn1Mn",
  "1Cn1Mc8Cn6Nd10Cn2Mc2Po1Cn12Lo48Mn1Lo2Mn7Cn4Sc1Lo6Lm1Mn8Po1Nd10Po2Cn37Lo2Cn1Lo1Cn1Lo5Cn1Lo24C",
  "n1Lo1Cn1Lo10Mn1Lo2Mn9Lo1Cn2Lo5Cn1Lm1Cn1Mn7Cn1Nd10Cn2Lo4Cn32Lo1So3Po15So1Po1So3Mn2So6Nd10No10",
  "So1Mn1So1Mn1So1Mn1Ps1Pe1Ps1Pe1Mc2Lo8Cn1Lo36Cn4Mn14Mc1Mn5Po1Mn2Lo5Mn11Cn1Mn36Cn1So8Mn1So6Cn1S",
  "o2Po5So4Po2Cn37Lo43Mc2Mn4Mc1Mn6Mc1Mn2Mc2Mn2Lo1Nd10Po6Lo6Mc2Mn2Lo4Mn3Lo1Mc3Lo2Mc7Lo3Mn4Lo13Mn",
  "1Mc2Mn2Mc6Mn1Lo1Mc1Nd10Mc3Mn1So2Lu38Cn1Lu1Cn5Lu1Cn2Ll43Po1Lm1Ll3Lo329Cn1Lo4Cn2Lo7Cn1Lo1Cn1Lo",
  "4Cn2Lo41Cn1Lo4Cn2Lo33Cn1Lo4Cn2Lo7Cn1Lo1Cn1Lo4Cn2Lo15Cn1Lo57Cn1Lo4Cn2Lo67Cn2Mn3Po9No20Cn3Lo16",
  "So10Cn6Lu86Cn2Ll6Cn2Pd1Lo620So1Po1Lo17Zs1Lo26Ps1Pe1Cn3Lo75Po3Nl3Lo8Cn7Lo18Mn3Mc1Cn9Lo19Mn2Mc",
  "1Po2Cn9Lo18Mn2Cn12Lo13Cn1Lo3Cn1Mn2Cn12Lo52Mn2Mc1Mn7Mc8Mn1Mc2Mn11Po3Lm1Po3Sc1Lo1Mn1Cn2Nd10Cn6",
  "No10Cn6Po6Pd1Po4Mn3Cf1Mn1Nd10Cn6Lo35Lm1Lo53Cn7Lo5Mn2Lo34Mn1Lo1Cn5Lo70Cn10Lo31Cn1Mn3Mc4Mn2Mc3",
  "Cn4Mc2Mn1Mc6Mn3Cn4So1Cn3Po2Nd10Lo30Cn2Lo5Cn11Lo44Cn4Lo26Cn6Nd10No1Cn3So34Lo23Mn2Mc2Mn1Cn2Po2",
  "Lo53Mc1Mn1Mc1Mn7Cn1Mn1Mc1Mn1Mc2Mn8Mc6Mn10Cn2Mn1Nd10Cn6Nd10Cn6Po7Lm1Po6Cn2Mn14Me1Mn16Cn49Mn4M",
  "c1Lo47Mn1Mc1Mn5Mc1Mn1Mc5Mn1Mc2Lo8Cn3Nd10Po7So10Mn9So9Po2Cn1Mn2Mc1Lo30Mc1Mn4Mc2Mn2Mc1Mn3Lo2Nd",
  "10Lo44Mn1Mc1Mn2Mc3Mn1Mc1Mn3Mc2Cn8Po4Lo36Mc8Mn8Mc2Mn2Cn3Po5Nd10Cn3Lo3Nd10Lo30Lm6Po2Ll9Cn7Lu43",
  "Cn2Lu3Po8Cn8Mn3Po1Mn13Mc1Mn7Lo4Mn1Lo6Mn1Lo2Mc1Mn2Lo1Cn5Ll44Lm63Ll13Lm1Ll34Lm37Mn64Lu1Ll1Lu1L",
  "l1Lu1Ll1Lu1Ll1Lu1Ll1Lu1Ll1Lu1Ll1Lu1Ll1Lu1Ll1Lu1Ll1Lu1Ll1Lu1Ll1Lu1Ll1Lu1Ll1Lu1Ll1Lu1Ll1Lu1Ll1",
  "Lu1Ll1Lu1Ll1Lu1Ll1Lu1Ll1Lu1Ll1Lu1Ll1Lu1Ll1Lu1Ll1Lu1Ll1Lu1Ll1Lu1Ll1Lu1Ll1Lu1Ll1Lu1Ll1Lu1Ll1Lu",
  "1Ll1Lu1Ll1Lu1Ll1Lu1Ll1Lu1Ll1Lu1Ll1Lu1Ll1Lu1Ll1Lu1Ll1Lu1Ll1Lu1Ll1Lu1Ll1Lu1Ll1Lu1Ll1Lu1Ll1Lu1L",
  "l1Lu1Ll1Lu1Ll1Lu1Ll1Lu1Ll1Lu1Ll1Lu1Ll1Lu1Ll1Lu1Ll1Lu1Ll1Lu1Ll1Lu1Ll1Lu1Ll1Lu1Ll1Lu1Ll1Lu1Ll1",
  "Lu1Ll1Lu1Ll1Lu1Ll1Lu1Ll1Lu1Ll1Lu1Ll1Lu1Ll1Lu1Ll1Lu1Ll1Lu1Ll1Lu1Ll1Lu1Ll9Lu1Ll1Lu1Ll1Lu1Ll1Lu",
  "1Ll1Lu1Ll1Lu1Ll1Lu1Ll1Lu1Ll1Lu1Ll1Lu1Ll1Lu1Ll1Lu1Ll1Lu1Ll1Lu1Ll1Lu1Ll1Lu1Ll1Lu1Ll1Lu1Ll1Lu1L",
  "l1Lu1Ll1Lu1Ll1Lu1Ll1Lu1Ll1Lu1Ll1Lu1Ll1Lu1Ll1Lu1Ll1Lu1Ll1Lu1Ll1Lu1Ll1Lu1Ll1Lu1Ll1Lu1Ll1Lu1Ll1",
  "Lu1Ll1Lu1Ll1Lu1Ll1Lu1Ll1Lu1Ll1Lu1Ll1Lu1Ll1Lu1Ll1Lu1Ll1Lu1Ll1Lu1Ll1Lu1Ll1Lu1Ll1Lu1Ll1Lu1Ll9Lu",
  "8Ll6Cn2Lu6Cn2Ll8Lu8Ll8Lu8Ll6Cn2Lu6Cn2Ll8Cn1Lu1Cn1Lu1Cn1Lu1Cn1Lu1Ll8Lu8Ll14Cn2Ll8Lt8Ll8Lt8Ll8",
  "Lt8Ll5Cn1Ll2Lu4Lt1Sk1Ll1Sk3Ll3Cn1Ll2Lu4Lt1Sk3Ll4Cn2Ll2Lu4Cn1Sk3Ll8Lu5Sk3Cn2Ll3Cn1Ll2Lu4Lt1Sk",
  "2Cn1Zs11Cf5Pd6Po2Pi1Pf1Ps1Pi2Pf1Ps1Pi1Po8Zl1Zp1Cf5Zs1Po9Pi1Pf1Po4Pc2Po3Sm1Ps1Pe1Po11Sm1Po1Pc",
  "1Po10Zs1Cf5Cn1Cf10No1Lm1Cn2No6Sm3Ps1Pe1Lm1No10Sm3Ps1Pe1Cn1Lm13Cn3Sc33Cn15Mn13Me4Mn1Me3Mn12Cn",
  "15So2Lu1So4Lu1So2Ll1Lu3Ll2Lu3Ll1So1Lu1So2Sm1Lu5So6Lu1So1Lu1So1Lu1So1Lu4So1Ll1Lu4Ll1Lo4Ll1So2",
  "Ll2Lu2Sm5Lu1Ll4So1Sm1So2Ll1So1No16Nl35Lu1Ll1Nl4No1So2Cn4Sm5So5Sm2So4Sm1So2Sm1So2Sm1So7Sm1So3",
  "1Sm2So2Sm1So1Sm1So31Sm268So8Ps1Pe1Ps1Pe1So20Sm2So7Ps1Pe1So81Sm1So30Sm25So40Sm6So69Cn25So11Cn",
  "21No60So78No22So183Sm1So9Sm1So54Sm8So111Sm1So248Ps1Pe1Ps1Pe1Ps1Pe1Ps1Pe1Ps1Pe1Ps1Pe1Ps1Pe1No",
  "30So44Sm5Ps1Pe1Sm31Ps1Pe1Ps1Pe1Ps1Pe1Ps1Pe1Ps1Pe1Sm16So256Sm131Ps1Pe1Ps1Pe1Ps1Pe1Ps1Pe1Ps1Pe",
  "1Ps1Pe1Ps1Pe1Ps1Pe1Ps1Pe1Ps1Pe1Ps1Pe1Sm63Ps1Pe1Ps1Pe1Sm32Ps1Pe1Sm258So48Sm21So2Sm6So39Cn2So3",
  "2Cn1So105Lu48Ll48Lu1Ll1Lu3Ll2Lu1Ll1Lu1Ll1Lu1Ll1Lu4Ll1Lu1Ll2Lu1Ll6Lm2Lu3Ll1Lu1Ll1Lu1Ll1Lu1Ll1",
  "Lu1Ll1Lu1Ll1Lu1Ll1Lu1Ll1Lu1Ll1Lu1Ll1Lu1Ll1Lu1Ll1Lu1Ll1Lu1Ll1Lu1Ll1Lu1Ll1Lu1Ll1Lu1Ll1Lu1Ll1Lu",
  "1Ll1Lu1Ll1Lu1Ll1Lu1Ll1Lu1Ll1Lu1Ll1Lu1Ll1Lu1Ll1Lu1Ll1Lu1Ll1Lu1Ll1Lu1Ll1Lu1Ll1Lu1Ll1Lu1Ll1Lu1L",
  "l1Lu1Ll1Lu1Ll1Lu1Ll1Lu1Ll1Lu1Ll1Lu1Ll1Lu1Ll1Lu1Ll1Lu1Ll1Lu1Ll1Lu1Ll1Lu1Ll1Lu1Ll1Lu1Ll1Lu1Ll2",
  "So6Lu1Ll1Lu1Ll1Mn3Lu1Ll1Cn5Po4No1Po2Ll38Cn1Ll1Cn5Ll1Cn2Lo56Cn7Lm1Po1Cn14Mn1Lo23Cn9Lo7Cn1Lo7C",
  "n1Lo7Cn1Lo7Cn1Lo7Cn1Lo7Cn1Lo7Cn1Lo7Cn1Mn32Po2Pi1Pf1Pi1Pf1Po3Pi1Pf1Po1Pi1Pf1Po9Pd1Po2Pd1Po1Pi",
  "1Pf1Po2Pi1Pf1Ps1Pe1Ps1Pe1Ps1Pe1Ps1Pe1Po5Lm1Po10Pd2Po4Pd1Po1Ps1Po13So2Po3Ps1Pe1Ps1Pe1Ps1Pe1Ps",
  "1Pe1Pd1Cn34So26Cn1So89Cn12So214Cn26So12Cn4Zs1Po3So1Lm1Lo1Nl1Ps1Pe1Ps1Pe1Ps1Pe1Ps1Pe1Ps1Pe1So",
  "2Ps1Pe1Ps1Pe1Ps1Pe1Ps1Pe1Pd1Ps1Pe2So1Nl9Mn4Mc2Pd1Lm5So2Nl3Lm1Lo1Po1So2Cn1Lo86Cn2Mn2Sk2Lm2Lo1",
  "Pd1Lo90Po1Lm3Lo1Cn5Lo43Cn1Lo94Cn1So2No4So10Lo32So36Cn12Lo16So31Cn1No10So30No8So1No15So32No10",
  "So39No15So320Lo6592So64Lo21013Lm1Lo1143Cn3So55Cn9Lo40Lm6Po2Lo268Lm1Po3Lo16Nd10Lo2Cn20Lu1Ll1L",
  "u1Ll1Lu1Ll1Lu1Ll1Lu1Ll1Lu1Ll1Lu1Ll1Lu1Ll1Lu1Ll1Lu1Ll1Lu1Ll1Lu1Ll1Lu1Ll1Lu1Ll1Lu1Ll1Lu1Ll1Lu1",
  "Ll1Lu1Ll1Lu1Ll1Lu1Ll1Lu1Ll1Lu1Ll1Lu1Ll1Lo1Mn1Me3Po1Mn10Po1Lm1Lu1Ll1Lu1Ll1Lu1Ll1Lu1Ll1Lu1Ll1L",
  "u1Ll1Lu1Ll1Lu1Ll1Lu1Ll1Lu1Ll1Lu1Ll1Lu1Ll1Lu1Ll1Lu1Ll1Lm2Mn2Lo70Nl10Mn2Po6Cn8Sk23Lm9Sk2Lu1Ll1",
  "Lu1Ll1Lu1Ll1Lu1Ll1Lu1Ll1Lu1Ll1Lu1Ll3Lu1Ll1Lu1Ll1Lu1Ll1Lu1Ll1Lu1Ll1Lu1Ll1Lu1Ll1Lu1Ll1Lu1Ll1Lu",
  "1Ll1Lu1Ll1Lu1Ll1Lu1Ll1Lu1Ll1Lu1Ll1Lu1Ll1Lu1Ll1Lu1Ll1Lu1Ll1Lu1Ll1Lu1Ll1Lu1Ll1Lu1Ll1Lu1Ll1Lu1L",
  "l1Lu1Ll1Lu1Ll1Lu1Ll1Lu1Ll1Lu1Ll1Lu1Ll1Lm1Ll8Lu1Ll1Lu1Ll1Lu2Ll1Lu1Ll1Lu1Ll1Lu1Ll1Lu1Ll1Lm1Sk2",
  "Lu1Ll1Lu1Ll1Lo1Lu1Ll1Lu1Ll3Lu1Ll1Lu1Ll1Lu1Ll1Lu1Ll1Lu1Ll1Lu1Ll1Lu1Ll1Lu1Ll1Lu1Ll1Lu1Ll1Lu5Ll",
  "1Lu5Ll1Lu1Ll1Lu1Ll1Lu1Ll1Lu1Ll1Lu1Ll1Lu1Ll1Lu1Ll1Lu4Ll1Lu1Ll1Cn5Lu1Ll1Cn1Ll1Cn1Ll1Lu1Ll1Lu1L",
  "l1Cn24Lm3Lu1Ll1Lo1Lm2Ll1Lo7Mn1Lo3Mn1Lo4Mn1Lo23Mc2Mn2Mc1So4Mn1Cn3No6So2Sc1So1Cn6Lo52Po4Cn8Mc2",
  "Lo50Mc16Mn2Cn8Po2Nd10Cn6Mn18Lo6Po3Lo1Po1Lo2Mn1Nd10Lo28Mn8Po2Lo23Mn11Mc2Cn11Po1Lo29Cn3Mn3Mc1L",
  "o47Mn1Mc2Mn4Mc2Mn2Mc3Po13Cn1Lm1Nd10Cn4Po2Lo5Mn1Lm1Lo9Nd10Lo5Cn1Lo41Mn6Mc2Mn2Mc2Mn2Cn9Lo3Mn1L",
  "o8Mn1Mc1Cn2Nd10Cn2Po4Lo16Lm1Lo6So3Lo1Mc1Mn1Mc1Lo50Mn1Lo1Mn3Lo2Mn2Lo5Mn2Lo1Mn1Lo1Cn24Lo2Lm1Po",
  "2Lo11Mc1Mn2Mc2Po2Lo1Lm2Mc1Mn1Cn10Lo6Cn2Lo6Cn2Lo6Cn9Lo7Cn1Lo7Cn1Ll43Sk1Lm4Ll9Lm1Sk2Cn4Ll80Lo3",
  "5Mc2Mn1Mc2Mn1Mc2Po1Mc1Mn1Cn2Nd10Cn6Lo11172Cn12Lo23Cn4Lo49Cn4Cs2048Co6400Lo366Cn2Lo106Cn38Ll7",
  "Cn12Ll5Cn5Lo1Mn1Lo10Sm1Lo13Cn1Lo5Cn1Lo1Cn1Lo2Cn1Lo2Cn1Lo108Sk17Cn16Lo363Pe1Ps1So16Lo64Cn2Lo5",
  "4Cn7So1Cn32Lo12Sc1So3Mn16Po7Ps1Pe1Po1Cn6Mn16Po1Pd2Pc2Ps1Pe1Ps1Pe1Ps1Pe1Ps1Pe1Ps1Pe1Ps1Pe1Ps1",
  "Pe1Ps1Pe1Po2Ps1Pe1Po4Pc3Po3Cn1Po4Pd1Ps1Pe1Ps1Pe1Ps1Pe1Po3Sm1Pd1Sm3Cn1Po1Sc1Po2Cn4Lo5Cn1Lo135",
  "Cn2Cf1Cn1Po3Sc1Po3Ps1Pe1Po1Sm1Po1Pd1Po2Nd10Po2Sm3Po2Lu26Ps1Po1Pe1Sk1Pc1Sk1Ll26Ps1Sm1Pe1Sm1Ps",
  "1Pe1Po1Ps1Pe1Po2Lo10Lm1Lo45Lm2Lo31Cn3Lo6Cn2Lo6Cn2Lo6Cn2Lo3Cn3Sc2Sm1Sk1So1Sc2Cn1So1Sm4So2Cn10",
  "Cf3So2Cn2Lo12Cn1Lo26Cn1Lo19Cn1Lo2Cn1Lo15Cn2Lo14Cn34Lo123Cn5Po3Cn4No45Cn3So9Nl53No4So17No2So3",
  "Cn1So13Cn3So1Cn47So45Mn1Cn130Lo29Cn3Lo49Cn15Mn1No27Cn4Lo32No4Cn9Lo20Nl1Lo8Nl1Cn5Lo38Mn5Cn5Lo",
  "30Cn1Po1Lo36Cn4Lo8Po1Nl5Cn42Lu40Ll40Lo78Cn2Nd10Cn6Lu36Cn4Ll36Cn4Lo40Cn8Lo52Cn11Po1Lu11Cn1Lu1",
  "5Cn1Lu7Cn1Lu2Cn1Ll11Cn1Ll15Cn1Ll7Cn1Ll2Cn67Lo311Cn9Lo22Cn10Lo8Cn24Lm6Cn1Lm42Cn1Lm9Cn69Lo6Cn2",
  "Lo1Cn1Lo44Cn1Lo2Cn3Lo1Cn2Lo23Cn1Po1No8Lo23So2No7Lo31Cn8No9Cn48Lo19Cn1Lo2Cn5No5Lo22No6Cn3Po1L",
  "o26Cn5Po1Cn64Lo56Cn4No2Lo2No16Cn2No46Lo1Mn3Cn1Mn2Cn5Mn4Lo4Cn1Lo3Cn1Lo29Cn2Mn3Cn4Mn1No9Cn7Po9",
  "Cn7Lo29No2Po1Lo29No3Cn32Lo8So1Lo28Mn2Cn4No5Po7Cn9Lo54Cn3Po7Lo22Cn2No8Lo19Cn5No8Lo18Cn7Po4Cn1",
  "2No7Cn80Lo73Cn55Lu51Cn13Ll51Cn7No6Lo36Mn4Cn8Nd10Cn294No31Cn1Lo42Cn1Mn2Pd1Cn2Lo2Cn75Mn3Lo29No",
  "10Lo1Cn8Lo22Mn11No4Po5Cn22Lo18Mn4Po4Cn38Lo21No7Cn20Lo23Cn9Mc1Mn1Mc1Lo53Mn15Po7Cn4No20Nd10Mn1",
  "Lo2Mn2Lo1Cn9Mn3Mc1Lo45Mc3Mn4Mc2Mn2Po2Cf1Po4Mn1Cn10Cf1Cn2Lo25Cn7Nd10Cn6Mn3Lo36Mn5Mc1Mn8Cn1Nd1",
  "0Po4Lo1Mc2Lo1Cn8Lo35Mn1Po2Lo1Cn9Mn2Mc1Lo48Mc3Mn9Mc2Lo4Po4Mn4Po1Mc1Mn1Nd10Lo1Po1Lo1Po3Cn1No20",
  "Cn11Lo18Cn1Lo25Mc3Mn3Mc2Mn1Mc1Mn2Po6Mn1Lo2Mn1Cn62Lo7Cn1Lo1Cn1Lo4Cn1Lo15Cn1Lo10Po1Cn6Lo47Mn1M",
  "c3Mn8Cn5Nd10Cn6Mn2Mc2Cn1Lo8Cn2Lo2Cn2Lo22Cn1Lo7Cn1Lo2Cn1Lo5Cn1Mn2Lo1Mc2Mn1Mc4Cn2Mc2Cn2Mc3Cn2L",
  "o1Cn6Mc1Cn5Lo5Mc2Cn2Mn7Cn3Mn5Cn139Lo53Mc3Mn8Mc2Mn3Mc1Mn1Lo4Po5Nd10Po2Cn1Po1Mn1Lo3Cn30Lo48Mc3",
  "Mn6Mc1Mn1Mc4Mn2Mc1Mn2Lo2Po1Lo1Cn8Nd10Cn166Lo47Mc3Mn4Cn2Mc4Mn2Mc1Mn2Po23Lo4Mn2Cn34Lo48Mc3Mn8M",
  "c2Mn1Mc1Mn2Po3Lo1Cn11Nd10Cn6Po13Cn19Lo43Mn1Mc1Mn1Mc2Mn6Mc1Mn1Lo1Po1Cn6Nd10Cn54Lo27Cn2Mn3Mc2M",
  "n4Mc1Mn5Cn4Nd10No2Po3So1Lo7Cn185Lo44Mc3Mn9Mc1Mn2Po1Cn100Lu32Ll32Nd10No9Cn12Lo8Cn2Lo1Cn2Lo8Cn",
  "1Lo2Cn1Lo24Mc6Cn1Mc2Cn2Mn2Mc1Mn1Lo1Mc1Lo1Mc1Mn1Po3Cn9Nd10Cn70Lo8Cn2Lo39Mc3Mn4Cn2Mn2Mc4Mn1Lo1",
  "Po1Lo1Mc1Cn27Lo1Mn10Lo40Mn6Mc1Lo1Mn4Po8Mn1Cn8Lo1Mn6Mc2Mn3Lo46Mn13Mc1Mn2Po3Lo1Po5Cn13Lo73Cn7P",
  "o10Cn246Lo9Cn1Lo37Mc1Mn7Cn1Mn6Mc1Mn1Lo1Po5Cn10Nd10No19Cn3Po2Lo30Cn2Mn22Cn1Mc1Mn7Mc1Mn2Mc1Mn2",
  "Cn73Lo7Cn1Lo2Cn1Lo38Mn6Cn3Mn1Cn1Mn2Cn1Mn7Lo1Mn1Cn8Nd10Cn6Lo6Cn1Lo2Cn1Lo32Mc5Cn1Mn2Cn1Mc2Mn1M",
  "c1Mn1Lo1Cn7Nd10Cn310Lo19Mn2Mc2Po2Cn7Mn2Lo1Mc1Lo13Cn1Lo34Mc2Mn5Cn3Mc2Mn1Mc1Mn1Po13Nd10Cn86Lo1",
  "Cn15No21So8Sc4So17Cn13Po1Lo922Cn102Nl111Cn1Po5Cn11Lo196Cn2636Lo97Po2Cn13Lo1072Cf16Mn1Lo6Mn15",
  "Cn4010Lo583Cn8633Lo569Cn7Lo31Cn1Nd10Cn4Po2Lo79Cn1Nd10Cn6Lo30Cn2Mn5Po1Cn10Lo48Mn7Po5So4Lm4Po1",
  "So1Cn10Nd10Cn1No7Cn1Lo21Cn5Lo19Cn688Lu32Ll32No23Po4Cn101Lo75Cn4Mn1Lo1Mc55Cn7Mn4Lm13Cn64Lm2Po",
  "1Lm1Mn1Cn11Mc2Cn14Lo6136Cn8Lo1238Cn42Lo9Cn8935Lm4Cn1Lm7Cn1Lm2Cn1Lo291Cn15Lo1Cn29Lo3Cn2Lo1Cn1",
  "4Lo4Cn8Lo396Cn2308Lo107Cn5Lo13Cn3Lo9Cn7Lo10Cn2So1Mn2Po1Cf4Cn4700Mn46Cn2Mn23Cn9So116Cn60So246",
  "Cn10So39Cn2So60Mc2Mn3So3Mc6Cf8Mn8So2Mn7So30Mn4So61Cn21So66Mn3So1Cn122No20Cn12No20Cn12So87Cn9",
  "No25Cn135Lu26Ll26Lu26Ll7Cn1Ll18Lu26Ll26Lu1Cn1Lu2Cn2Lu1Cn2Lu2Cn2Lu4Cn1Lu8Ll4Cn1Ll1Cn1Ll7Cn1Ll",
  "11Lu26Ll26Lu2Cn1Lu4Cn2Lu8Cn1Lu7Cn1Ll26Lu2Cn1Lu4Cn1Lu5Cn1Lu1Cn3Lu7Cn1Ll26Lu26Ll26Lu26Ll26Lu26",
  "Ll26Lu26Ll26Lu26Ll26Lu26Ll28Cn2Lu25Sm1Ll25Sm1Ll6Lu25Sm1Ll25Sm1Ll6Lu25Sm1Ll25Sm1Ll6Lu25Sm1Ll2",
  "5Sm1Ll6Lu25Sm1Ll25Sm1Ll6Lu1Ll1Cn2Nd50So512Mn55So4Mn50So8Mn1So14Mn1So2Po5Cn15Mn5Cn1Mn15Cn1104",
  "Ll10Lo1Ll20Cn6Ll6Cn213Mn7Cn1Mn17Cn2Mn7Cn1Mn2Cn1Mn5Cn5Lm62Cn33Mn1Cn112Lo45Cn3Mn7Lm7Cn2Nd10Cn4",
  "Lo1So1Cn320Lo30Mn1Cn17Lo44Mn4Nd10Cn5Sc1Cn464Lo27Lm1Mn4Nd10Cn742Lo7Cn1Lo4Cn1Lo2Cn1Lo15Cn1Lo19",
  "7Cn2No9Mn7Cn41Lu34Ll34Mn7Lm1Cn4Nd10Cn4Po2Cn785No59So1No3Sc1No4Cn76No45So1No15Cn194Lo4Cn1Lo27",
  "Cn1Lo2Cn1Lo1Cn2Lo1Cn1Lo10Cn1Lo4Cn1Lo1Cn1Lo1Cn6Lo1Cn4Lo1Cn1Lo1Cn1Lo1Cn1Lo3Cn1Lo2Cn1Lo1Cn2Lo1C",
  "n1Lo1Cn1Lo1Cn1Lo1Cn1Lo1Cn1Lo2Cn1Lo1Cn2Lo4Cn1Lo7Cn1Lo4Cn1Lo4Cn1Lo1Cn1Lo10Cn1Lo17Cn5Lo3Cn1Lo5C",
  "n1Lo17Cn52Sm2Cn270So44Cn4So100Cn12So15Cn2So15Cn1So15Cn1So37Cn10No13So161Cn56So29Cn13So44Cn4S",
  "o9Cn7So2Cn14So6Cn154So251Sk5So728Cn4So17Cn3So13Cn3So119Cn4So95Cn6So12Cn4So1Cn15So12Cn4So56Cn",
  "8So10Cn6So40Cn8So30Cn2So2Cn78So340Cn12So14Cn2So13Cn3So9Cn7So46Cn1So7Cn8So14Cn4So9Cn7So9Cn7So",
  "147Cn1So55Cn37Nd10Cn1030Lo42720Cn32Lo4154Cn6Lo222Cn2Lo5762Cn14Lo7473Cn3103Lo542Cn1506Lo4939C",
  "n5Lo4192Cn711761Cf1Cn30Cf96Cn128Mn240Cn65040Co65534Cn2Co65534Cn2"]

/-- The general category of a code point. -/
def categories : Table := Table.decode categoryRuns

/-- The runs of the property Alphabetic: `y` has it, `n` lacks it. -/
def alphabeticRuns : String := String.join [
  "n65y26n6y26n47y1n10y1n4y1n5y23n1y31n1y458n4y12n14y5n7y1n1y1n86y1n42y5n1y2n2y4n1y1n6y1n1y3n1y",
  "1n1y20n1y83n1y139n8y166n1y38n2y1n6y41n39y14n1y1n1y2n1y2n1y1n8y27n4y4n29y11n5y56n1y7n14y102n1",
  "y8n4y8n4y3n10y3n2y1n16y48n13y101n24y33n9y2n4y1n5y24n2y19n19y25n7y11n5y24n1y6n17y42n10y12n3y7",
  "n6y76n1y16n1y3n4y15n13y19n1y8n2y2n2y22n1y7n1y1n3y4n3y8n2y2n2y2n1y1n8y1n4y2n1y5n12y2n10y1n4y3",
  "n1y6n4y2n2y22n1y7n1y2n1y2n1y2n4y5n4y2n2y2n4y1n7y4n1y1n17y6n11y3n1y9n1y3n1y22n1y7n1y2n1y5n3y9",
  "n1y3n1y2n3y1n15y4n21y4n4y3n1y8n2y2n2y22n1y7n1y2n1y5n3y8n2y2n2y2n9y2n4y2n1y5n13y1n16y2n1y6n3y",
  "3n1y4n3y2n1y1n1y2n3y2n3y3n3y12n4y5n3y3n1y3n3y1n6y1n40y13n1y3n1y23n1y16n3y8n1y3n1y3n8y2n1y3n2",
  "y1n2y4n28y4n1y8n1y3n1y23n1y10n1y5n3y8n1y3n1y3n8y2n6y2n1y4n13y3n12y13n1y3n1y41n2y8n1y3n1y3n1y",
  "1n5y4n7y5n22y6n1y3n1y18n3y24n1y9n1y1n2y7n8y6n1y1n1y8n18y2n13y58n5y7n6y1n51y2n1y1n1y5n1y24n1y",
  "1n1y19n1y3n2y5n1y1n6y1n14y4n32y1n63y8n1y36n4y19n4y16n1y36n67y55n1y1n2y5n16y64n10y4n2y38n1y1n",
  "5y1n2y43n1y333n1y4n2y7n1y1n1y4n2y41n1y4n2y33n1y4n2y7n1y1n1y4n2y15n1y57n1y4n2y67n37y16n16y86n",
  "2y6n3y620n2y17n1y26n5y75n3y11n7y20n11y21n12y20n12y13n1y3n1y2n12y52n2y19n14y1n4y1n67y89n7y43n",
  "5y70n10y31n1y12n4y9n23y30n2y5n11y44n4y26n54y28n4y63n2y20n50y1n23y2n11y3n49y52n1y15n1y8n51y42",
  "n2y4n10y44n1y11n14y55n22y3n10y36n2y9n7y43n2y3n41y4n1y6n1y2n3y1n5y192n39y14n11y278n2y6n2y38n2",
  "y6n2y8n1y1n1y1n1y1n1y31n2y53n1y7n1y1n3y3n1y7n3y4n2y6n4y13n5y3n1y7n116y1n13y1n16y13n101y1n4y1",
  "n2y10n1y1n3y5n6y1n1y1n1y1n1y4n1y11n2y4n5y5n4y1n17y41n813y52n1814y229n6y4n3y2n12y38n1y1n5y1n2",
  "y56n7y1n16y23n9y7n1y7n1y7n1y7n1y7n1y7n1y7n1y7n1y32n47y1n469y3n25y9n7y5n2y5n4y86n6y3n1y90n1y4",
  "n5y43n1y94n17y32n48y16n512y6592n64y22157n67y46n2y269n3y16n10y2n20y47n5y8n3y113n39y9n2y103n2y",
  "64n5y2n1y1n1y5n24y20n1y33n24y52n12y68n1y1n44y6n3y1n1y3n10y33n5y35n13y29n3y51n1y12n15y1n16y16",
  "n10y5n1y55n9y14n18y23n3y69n1y1n1y1n24y3n2y16n2y4n11y6n2y6n2y6n9y7n1y7n1y43n1y14n6y123n21y111",
  "72n12y23n4y49n8452y366n2y106n38y7n12y5n5y12n1y13n1y5n1y1n1y2n1y2n1y108n33y363n18y64n2y54n40y",
  "12n116y5n1y135n36y26n6y26n11y89n3y6n2y6n2y6n2y3n35y12n1y26n1y19n1y2n1y15n2y14n34y123n69y53n2",
  "67y29n3y49n47y32n13y30n5y43n5y30n2y36n4y8n1y5n42y158n18y36n4y36n4y40n8y52n12y11n1y15n1y7n1y2",
  "n1y11n1y15n1y7n1y2n67y311n9y22n10y8n24y6n1y42n1y9n69y6n2y1n1y44n1y2n3y1n2y23n10y23n9y31n65y1",
  "9n1y2n10y22n10y26n70y56n6y2n64y4n1y2n5y8n1y3n1y29n42y29n3y29n35y8n1y28n27y54n10y22n10y19n13y",
  "18n110y73n55y51n13y51n13y40n344y42n1y2n3y2n78y29n10y1n8y22n42y18n46y21n27y23n9y70n43y5n10y57",
  "n9y1n13y25n23y51n17y4n8y35n3y1n9y64n1y4n9y2n10y1n1y1n35y18n1y34n2y1n6y4n62y7n1y1n1y4n1y15n1y",
  "10n7y57n23y4n1y8n2y2n2y22n1y7n1y2n1y5n3y8n2y2n2y2n3y1n6y1n5y7n156y66n1y3n1y4n20y3n30y66n2y2n",
  "1y1n184y54n2y7n25y6n34y63n1y1n3y1n59y54n2y1n71y27n2y14n21y7n185y57n103y64n31y8n2y1n2y8n1y2n1",
  "y30n1y2n2y2n2y4n93y8n2y46n2y6n1y1n1y2n27y51n2y10n17y72n5y1n18y73n263y9n1y45n1y7n1y1n49y30n2y",
  "22n1y14n73y7n1y2n1y44n3y1n1y2n1y3n1y1n2y2n24y6n1y2n1y37n1y2n1y4n1y1n327y23n9y17n1y41n3y3n111",
  "y1n79y922n102y111n17y196n2636y97n15y1072n17y6n4025y583n8633y569n7y31n17y79n17y30n18y48n16y4n",
  "31y21n5y19n688y64n128y75n4y57n7y17n64y2n1y1n12y2n14y6136n8y1238n42y9n8935y4n1y7n1y2n1y291n15",
  "y1n29y3n2y1n14y4n8y396n2308y107n5y13n3y9n7y10n4y1n5985y85n1y71n1y2n2y1n2y2n2y4n1y12n1y1n1y7n",
  "1y65n1y4n2y8n1y7n1y28n1y4n1y5n1y1n3y7n1y340n2y25n1y25n1y31n1y25n1y31n1y25n1y31n1y25n1y31n1y2",
  "5n1y8n1844y31n6y6n213y7n1y17n2y7n1y2n1y5n5y62n33y1n112y45n10y7n16y1n321y30n18y44n484y28n756y",
  "7n1y4n1y2n1y15n1y197n59y68n3y1n3y1n1204y4n1y27n1y2n1y1n2y1n1y10n1y4n1y1n1y1n6y1n4y1n1y1n1y1n",
  "1y3n1y2n1y1n2y1n1y1n1y1n1y1n1y1n1y2n1y1n2y4n1y7n1y4n1y4n1y1n1y10n1y17n5y3n1y5n1y17n628y26n6y",
  "26n6y26n3702y42720n32y4154n6y222n2y5762n14y7473n3103y542n1506y4939n5y4192n908368"]

/-- The property Alphabetic. -/
def alphabetic : Table := Table.decode alphabeticRuns

/-- The runs of the property Lowercase. -/
def lowercaseRuns : String := String.join [
  "n97y26n47y1n10y1n4y1n36y24n1y8n1y1n1y1n1y1n1y1n1y1n1y1n1y1n1y1n1y1n1y1n1y1n1y1n1y1n1y1n1y1n1",
  "y1n1y1n1y1n1y1n1y1n1y1n1y1n1y1n1y1n1y1n1y1n1y1n1y2n1y1n1y1n1y1n1y1n1y1n1y1n1y1n1y2n1y1n1y1n1",
  "y1n1y1n1y1n1y1n1y1n1y1n1y1n1y1n1y1n1y1n1y1n1y1n1y1n1y1n1y1n1y1n1y1n1y1n1y1n1y1n1y1n2y1n1y1n1",
  "y3n2y1n1y1n2y1n3y2n4y1n2y1n3y3n2y1n2y1n1y1n1y1n2y1n1y2n1y1n2y1n3y1n1y1n2y2n2y3n6y1n2y1n2y1n1",
  "y1n1y1n1y1n1y1n1y1n1y1n1y1n1y2n1y1n1y1n1y1n1y1n1y1n1y1n1y1n1y1n1y2n2y1n1y1n3y1n1y1n1y1n1y1n1",
  "y1n1y1n1y1n1y1n1y1n1y1n1y1n1y1n1y1n1y1n1y1n1y1n1y1n1y1n1y1n1y1n1y1n1y1n1y1n1y1n1y1n1y1n1y1n1",
  "y1n1y1n1y7n2y1n2y2n1y1n4y1n1y1n1y1n1y1n1y69n1y36n7y2n30y5n96y1n43y1n1y1n3y1n2y4n18y1n27y35n1",
  "y2n3y3n1y1n1y1n1y1n1y1n1y1n1y1n1y1n1y1n1y1n1y1n1y1n1y5n1y1n2y1n2y2n51y48n1y1n1y1n1y1n1y1n1y1",
  "n1y1n1y1n1y1n1y1n1y1n1y1n1y1n1y1n1y1n1y1n1y1n1y1n9y1n1y1n1y1n1y1n1y1n1y1n1y1n1y1n1y1n1y1n1y1",
  "n1y1n1y1n1y1n1y1n1y1n1y1n1y1n1y1n1y1n1y1n1y1n1y1n1y1n1y1n1y1n1y1n2y1n1y1n1y1n1y1n1y1n1y1n1y2",
  "n1y1n1y1n1y1n1y1n1y1n1y1n1y1n1y1n1y1n1y1n1y1n1y1n1y1n1y1n1y1n1y1n1y1n1y1n1y1n1y1n1y1n1y1n1y1",
  "n1y1n1y1n1y1n1y1n1y1n1y1n1y1n1y1n1y1n1y1n1y1n1y1n1y1n1y1n1y1n1y1n1y1n1y1n1y1n1y1n1y1n1y1n1y1",
  "n1y1n1y1n48y41n2887y43n1y4n760y6n2178y9n119y192n65y1n1y1n1y1n1y1n1y1n1y1n1y1n1y1n1y1n1y1n1y1",
  "n1y1n1y1n1y1n1y1n1y1n1y1n1y1n1y1n1y1n1y1n1y1n1y1n1y1n1y1n1y1n1y1n1y1n1y1n1y1n1y1n1y1n1y1n1y1",
  "n1y1n1y1n1y1n1y1n1y1n1y1n1y1n1y1n1y1n1y1n1y1n1y1n1y1n1y1n1y1n1y1n1y1n1y1n1y1n1y1n1y1n1y1n1y1",
  "n1y1n1y1n1y1n1y1n1y1n1y1n1y1n1y1n1y1n1y1n1y1n1y1n1y1n1y1n1y1n1y1n1y1n1y9n1y1n1y1n1y1n1y1n1y1",
  "n1y1n1y1n1y1n1y1n1y1n1y1n1y1n1y1n1y1n1y1n1y1n1y1n1y1n1y1n1y1n1y1n1y1n1y1n1y1n1y1n1y1n1y1n1y1",
  "n1y1n1y1n1y1n1y1n1y1n1y1n1y1n1y1n1y1n1y1n1y1n1y1n1y1n1y1n1y1n1y1n1y1n1y1n1y1n1y1n1y9n8y6n10y",
  "8n8y8n8y6n10y8n8y8n8y14n2y8n8y8n8y8n8y5n1y2n6y1n3y3n1y2n8y4n2y2n8y8n10y3n1y2n121y1n13y1n16y1",
  "3n109y1n3y2n3y1n27y1n4y1n4y1n2y2n8y4n4y1n33y16n4y1n843y26n1862y48n1y1n3y2n1y1n1y1n1y1n4y1n1y",
  "2n1y8n3y1n1y1n1y1n1y1n1y1n1y1n1y1n1y1n1y1n1y1n1y1n1y1n1y1n1y1n1y1n1y1n1y1n1y1n1y1n1y1n1y1n1y",
  "1n1y1n1y1n1y1n1y1n1y1n1y1n1y1n1y1n1y1n1y1n1y1n1y1n1y1n1y1n1y1n1y1n1y1n1y1n1y1n1y1n1y1n1y1n1y",
  "1n1y1n1y1n1y1n1y1n1y2n7y1n1y1n4y1n12y38n1y1n5y1n30995y1n1y1n1y1n1y1n1y1n1y1n1y1n1y1n1y1n1y1n",
  "1y1n1y1n1y1n1y1n1y1n1y1n1y1n1y1n1y1n1y1n1y1n1y1n1y1n19y1n1y1n1y1n1y1n1y1n1y1n1y1n1y1n1y1n1y1",
  "n1y1n1y1n1y1n1y3n133y1n1y1n1y1n1y1n1y1n1y1n1y3n1y1n1y1n1y1n1y1n1y1n1y1n1y1n1y1n1y1n1y1n1y1n1",
  "y1n1y1n1y1n1y1n1y1n1y1n1y1n1y1n1y1n1y1n1y1n1y1n1y1n1y1n1y1n1y1n1y1n1y1n1y1n1y10n1y1n1y1n2y1n",
  "1y1n1y1n1y1n1y1n4y1n1y1n2y1n1y3n1y1n1y1n1y1n1y1n1y1n1y1n1y1n1y1n1y1n1y1n5y1n5y1n1y1n1y1n1y1n",
  "1y1n1y1n1y1n1y1n4y1n1y1n6y1n1y1n1y1n1y1n1y1n24y3n1y1n1y3n821y43n1y14n6y80n20288y7n12y5n1065y",
  "26n1229y40n136y36n155y11n1y15n1y7n1y2n451y1n2y3n1y42n1y9n1285y51n3021y32n21888y32n26010y26n2",
  "6y7n1y18n26y26n26y4n1y1n1y7n1y11n26y26n26y26n26y26n26y26n26y26n26y26n26y26n26y26n26y28n28y25",
  "n1y6n26y25n1y6n26y25n1y6n26y25n1y6n26y25n1y6n1y1n1844y10n1y20n6y6n261y62n2228y34n988860"]

/-- The property Lowercase. -/
def lowercase : Table := Table.decode lowercaseRuns

/-- The runs of the property Uppercase. -/
def uppercaseRuns : String := String.join [
  "n65y26n101y23n1y7n33y1n1y1n1y1n1y1n1y1n1y1n1y1n1y1n1y1n1y1n1y1n1y1n1y1n1y1n1y1n1y1n1y1n1y1n1",
  "y1n1y1n1y1n1y1n1y1n1y1n1y1n1y1n1y1n1y1n2y1n1y1n1y1n1y1n1y1n1y1n1y1n1y1n2y1n1y1n1y1n1y1n1y1n1",
  "y1n1y1n1y1n1y1n1y1n1y1n1y1n1y1n1y1n1y1n1y1n1y1n1y1n1y1n1y1n1y1n1y1n1y1n1y2n1y1n1y1n3y2n1y1n1",
  "y2n1y3n2y4n1y2n1y3n3y2n1y2n1y1n1y1n1y2n1y1n2y1n1y2n1y3n1y1n1y2n3y1n7y1n2y1n2y1n2y1n1y1n1y1n1",
  "y1n1y1n1y1n1y1n1y1n2y1n1y1n1y1n1y1n1y1n1y1n1y1n1y1n1y1n2y1n2y1n1y3n1y1n1y1n1y1n1y1n1y1n1y1n1",
  "y1n1y1n1y1n1y1n1y1n1y1n1y1n1y1n1y1n1y1n1y1n1y1n1y1n1y1n1y1n1y1n1y1n1y1n1y1n1y1n1y1n1y1n1y1n7",
  "y2n1y2n2y1n1y4n1y1n1y1n1y1n1y1n289y1n1y1n3y1n8y1n6y1n1y3n1y1n1y2n1y17n1y9n35y1n2y3n3y1n1y1n1",
  "y1n1y1n1y1n1y1n1y1n1y1n1y1n1y1n1y1n1y1n5y1n2y1n1y2n2y51n48y1n1y1n1y1n1y1n1y1n1y1n1y1n1y1n1y1",
  "n1y1n1y1n1y1n1y1n1y1n1y1n1y1n1y1n9y1n1y1n1y1n1y1n1y1n1y1n1y1n1y1n1y1n1y1n1y1n1y1n1y1n1y1n1y1",
  "n1y1n1y1n1y1n1y1n1y1n1y1n1y1n1y1n1y1n1y1n1y1n1y1n1y2n1y1n1y1n1y1n1y1n1y1n1y1n2y1n1y1n1y1n1y1",
  "n1y1n1y1n1y1n1y1n1y1n1y1n1y1n1y1n1y1n1y1n1y1n1y1n1y1n1y1n1y1n1y1n1y1n1y1n1y1n1y1n1y1n1y1n1y1",
  "n1y1n1y1n1y1n1y1n1y1n1y1n1y1n1y1n1y1n1y1n1y1n1y1n1y1n1y1n1y1n1y1n1y1n1y1n1y1n1y1n1y1n2y38n28",
  "89y38n1y1n5y1n722y86n2202y43n2y3n320y1n1y1n1y1n1y1n1y1n1y1n1y1n1y1n1y1n1y1n1y1n1y1n1y1n1y1n1",
  "y1n1y1n1y1n1y1n1y1n1y1n1y1n1y1n1y1n1y1n1y1n1y1n1y1n1y1n1y1n1y1n1y1n1y1n1y1n1y1n1y1n1y1n1y1n1",
  "y1n1y1n1y1n1y1n1y1n1y1n1y1n1y1n1y1n1y1n1y1n1y1n1y1n1y1n1y1n1y1n1y1n1y1n1y1n1y1n1y1n1y1n1y1n1",
  "y1n1y1n1y1n1y1n1y1n1y1n1y1n1y1n1y1n1y1n1y1n1y1n1y1n1y1n1y1n9y1n1y1n1y1n1y1n1y1n1y1n1y1n1y1n1",
  "y1n1y1n1y1n1y1n1y1n1y1n1y1n1y1n1y1n1y1n1y1n1y1n1y1n1y1n1y1n1y1n1y1n1y1n1y1n1y1n1y1n1y1n1y1n1",
  "y1n1y1n1y1n1y1n1y1n1y1n1y1n1y1n1y1n1y1n1y1n1y1n1y1n1y1n1y1n1y1n1y1n1y1n9y8n8y6n10y8n8y8n8y6n",
  "11y1n1y1n1y1n1y1n8y8n72y4n12y4n12y4n12y5n11y4n262y1n4y1n3y3n2y3n2y1n3y5n6y1n1y1n1y1n1y4n2y4n",
  "10y2n5y1n26y16n19y1n818y26n1840y48n48y1n1y3n2y1n1y1n1y1n1y4n1y1n2y1n8y3n1y1n1y1n1y1n1y1n1y1n",
  "1y1n1y1n1y1n1y1n1y1n1y1n1y1n1y1n1y1n1y1n1y1n1y1n1y1n1y1n1y1n1y1n1y1n1y1n1y1n1y1n1y1n1y1n1y1n",
  "1y1n1y1n1y1n1y1n1y1n1y1n1y1n1y1n1y1n1y1n1y1n1y1n1y1n1y1n1y1n1y1n1y1n1y1n1y1n1y1n1y1n8y1n1y1n",
  "4y1n31053y1n1y1n1y1n1y1n1y1n1y1n1y1n1y1n1y1n1y1n1y1n1y1n1y1n1y1n1y1n1y1n1y1n1y1n1y1n1y1n1y1n",
  "1y1n1y1n19y1n1y1n1y1n1y1n1y1n1y1n1y1n1y1n1y1n1y1n1y1n1y1n1y1n1y1n135y1n1y1n1y1n1y1n1y1n1y1n1",
  "y1n3y1n1y1n1y1n1y1n1y1n1y1n1y1n1y1n1y1n1y1n1y1n1y1n1y1n1y1n1y1n1y1n1y1n1y1n1y1n1y1n1y1n1y1n1",
  "y1n1y1n1y1n1y1n1y1n1y1n1y1n1y1n1y1n10y1n1y1n1y2n1y1n1y1n1y1n1y1n4y1n1y1n2y1n1y1n3y1n1y1n1y1n",
  "1y1n1y1n1y1n1y1n1y1n1y1n1y1n1y5n1y5n1y1n1y1n1y1n1y1n1y1n1y1n1y1n1y4n1y1n6y1n5y1n1y1n28y1n223",
  "15y26n1221y40n136y36n156y11n1y15n1y7n1y2n1770y51n3053y32n21888y32n26016y26n26y26n26y26n26y1n",
  "1y2n2y1n2y2n2y4n1y8n26y26n26y2n1y4n2y8n1y7n27y2n1y4n1y5n1y1n3y7n27y26n26y26n26y26n26y26n26y2",
  "6n26y26n30y25n33y25n33y25n33y25n33y25n33y1n4405y34n2062y26n6y26n6y26n986742"]

/-- The property Uppercase. -/
def uppercase : Table := Table.decode uppercaseRuns

/-- Whether a table of `y` and `n` says `y` of a code point. -/
def Table.holds (t : Table) (n : Nat) : Bool := t.find n == "y"

end StorageGateway.Unicode
