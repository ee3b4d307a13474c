/-!
# How domain names are mapped

For every character that is not kept as it is: what it is mapped to, whether it is dropped, or
that a domain name may not hold it.
-/

set_option autoImplicit false

namespace FeedIngest.Url.Idna

/-- Characters at equal distances that are all moved by the same number. -/
structure Shift where
  first : Nat
  last : Nat
  stride : Nat
  offset : Int

def shifts : List Shift :=
  [ ⟨0x41, 0x5A, 1, 32⟩, ⟨0xB2, 0xB3, 1, -128⟩, ⟨0xC0, 0xD6, 1, 32⟩, ⟨0xD8, 0xDE, 1, 32⟩,
    ⟨0x100, 0x12E, 2, 1⟩, ⟨0x134, 0x136, 2, 1⟩, ⟨0x139, 0x13D, 2, 1⟩, ⟨0x141, 0x147, 2, 1⟩,
    ⟨0x14A, 0x176, 2, 1⟩, ⟨0x179, 0x17D, 2, 1⟩, ⟨0x182, 0x184, 2, 1⟩, ⟨0x189, 0x18A, 1, 205⟩,
    ⟨0x1A0, 0x1A4, 2, 1⟩, ⟨0x1B1, 0x1B2, 1, 217⟩, ⟨0x1B3, 0x1B5, 2, 1⟩, ⟨0x1CD, 0x1DB, 2, 1⟩,
    ⟨0x1DE, 0x1EE, 2, 1⟩, ⟨0x1F8, 0x21E, 2, 1⟩, ⟨0x222, 0x232, 2, 1⟩, ⟨0x246, 0x24E, 2, 1⟩,
    ⟨0x340, 0x341, 1, -64⟩, ⟨0x370, 0x372, 2, 1⟩, ⟨0x388, 0x38A, 1, 37⟩, ⟨0x38E, 0x38F, 1, 63⟩,
    ⟨0x391, 0x3A1, 1, 32⟩, ⟨0x3A3, 0x3AB, 1, 32⟩, ⟨0x3D8, 0x3EE, 2, 1⟩, ⟨0x3FD, 0x3FF, 1, -130⟩,
    ⟨0x400, 0x40F, 1, 80⟩, ⟨0x410, 0x42F, 1, 32⟩, ⟨0x460, 0x480, 2, 1⟩, ⟨0x48A, 0x4BE, 2, 1⟩,
    ⟨0x4C1, 0x4CD, 2, 1⟩, ⟨0x4D0, 0x52E, 2, 1⟩, ⟨0x531, 0x556, 1, 48⟩, ⟨0x13F8, 0x13FD, 1, -8⟩,
    ⟨0x1C83, 0x1C84, 1, -6210⟩, ⟨0x1C90, 0x1CBA, 1, -3008⟩, ⟨0x1CBD, 0x1CBF, 1, -3008⟩,
    ⟨0x1D2E, 0x1D30, 2, -7372⟩, ⟨0x1D33, 0x1D3A, 1, -7372⟩, ⟨0x1D40, 0x1D41, 1, -7372⟩,
    ⟨0x1D44, 0x1D45, 1, -6900⟩, ⟨0x1D48, 0x1D49, 1, -7396⟩, ⟨0x1D4B, 0x1D4C, 1, -6896⟩,
    ⟨0x1D54, 0x1D55, 1, -62⟩, ⟨0x1D57, 0x1D58, 1, -7395⟩, ⟨0x1D5D, 0x1D5F, 1, -6571⟩,
    ⟨0x1D60, 0x1D61, 1, -6554⟩, ⟨0x1D64, 0x1D65, 1, -7407⟩, ⟨0x1D66, 0x1D67, 1, -6580⟩,
    ⟨0x1D69, 0x1D6A, 1, -6563⟩, ⟨0x1DA4, 0x1DA6, 1, -6972⟩, ⟨0x1DAE, 0x1DB1, 1, -6972⟩,
    ⟨0x1DB3, 0x1DB4, 1, -6961⟩, ⟨0x1DB6, 0x1DB7, 1, -6957⟩, ⟨0x1DB9, 0x1DBA, 1, -6958⟩,
    ⟨0x1DBC, 0x1DBE, 1, -6956⟩, ⟨0x1E00, 0x1E94, 2, 1⟩, ⟨0x1EA0, 0x1EFE, 2, 1⟩,
    ⟨0x1F08, 0x1F0F, 1, -8⟩, ⟨0x1F18, 0x1F1D, 1, -8⟩, ⟨0x1F28, 0x1F2F, 1, -8⟩,
    ⟨0x1F38, 0x1F3F, 1, -8⟩, ⟨0x1F48, 0x1F4D, 1, -8⟩, ⟨0x1F59, 0x1F5F, 2, -8⟩,
    ⟨0x1F68, 0x1F6F, 1, -8⟩, ⟨0x1FB8, 0x1FB9, 1, -8⟩, ⟨0x1FD8, 0x1FD9, 1, -8⟩,
    ⟨0x1FE8, 0x1FE9, 1, -8⟩, ⟨0x2074, 0x2079, 1, -8256⟩, ⟨0x207D, 0x207E, 1, -8277⟩,
    ⟨0x2080, 0x2089, 1, -8272⟩, ⟨0x208D, 0x208E, 1, -8293⟩, ⟨0x2096, 0x2099, 1, -8235⟩,
    ⟨0x209B, 0x209C, 1, -8232⟩, ⟨0x210A, 0x210B, 1, -8355⟩, ⟨0x2113, 0x2115, 2, -8359⟩,
    ⟨0x2119, 0x211B, 1, -8361⟩, ⟨0x212C, 0x212D, 1, -8394⟩, ⟨0x2130, 0x2131, 1, -8395⟩,
    ⟨0x2135, 0x2138, 1, -7013⟩, ⟨0x2146, 0x2147, 1, -8418⟩, ⟨0x2148, 0x2149, 1, -8415⟩,
    ⟨0x216D, 0x216E, 1, -8458⟩, ⟨0x217D, 0x217E, 1, -8474⟩, ⟨0x2329, 0x232A, 1, 3295⟩,
    ⟨0x2460, 0x2468, 1, -9263⟩, ⟨0x24B6, 0x24CF, 1, -9301⟩, ⟨0x24D0, 0x24E9, 1, -9327⟩,
    ⟨0x2C00, 0x2C2F, 1, 48⟩, ⟨0x2C67, 0x2C6B, 2, 1⟩, ⟨0x2C7E, 0x2C7F, 1, -10815⟩,
    ⟨0x2C80, 0x2CE2, 2, 1⟩, ⟨0x2CEB, 0x2CED, 2, 1⟩, ⟨0x3039, 0x303A, 1, 8971⟩,
    ⟨0x3131, 0x3132, 1, -8241⟩, ⟨0x3135, 0x3136, 1, -8073⟩, ⟨0x3137, 0x3139, 1, -8244⟩,
    ⟨0x313A, 0x313F, 1, -8074⟩, ⟨0x3141, 0x3143, 1, -8251⟩, ⟨0x3145, 0x314E, 1, -8252⟩,
    ⟨0x314F, 0x3163, 1, -8174⟩, ⟨0x3165, 0x3166, 1, -8273⟩, ⟨0x3167, 0x3168, 1, -8096⟩,
    ⟨0x3171, 0x3172, 1, -8276⟩, ⟨0x3174, 0x3175, 1, -8274⟩, ⟨0x3178, 0x317C, 1, -8269⟩,
    ⟨0x3182, 0x3183, 1, -8081⟩, ⟨0x3184, 0x3186, 1, -8237⟩, ⟨0x3187, 0x3188, 1, -8195⟩,
    ⟨0x318A, 0x318B, 1, -8185⟩, ⟨0x3261, 0x3262, 1, -8543⟩, ⟨0x3263, 0x3265, 1, -8542⟩,
    ⟨0x3267, 0x3268, 1, -8540⟩, ⟨0x3269, 0x326D, 1, -8539⟩, ⟨0x32D4, 0x32D5, 1, -554⟩,
    ⟨0x32E4, 0x32E9, 1, -538⟩, ⟨0x32EE, 0x32F2, 1, -528⟩, ⟨0x32F5, 0x32FA, 1, -525⟩,
    ⟨0x32FB, 0x32FE, 1, -524⟩, ⟨0xA640, 0xA66C, 2, 1⟩, ⟨0xA680, 0xA69A, 2, 1⟩,
    ⟨0xA722, 0xA72E, 2, 1⟩, ⟨0xA732, 0xA76E, 2, 1⟩, ⟨0xA779, 0xA77B, 2, 1⟩,
    ⟨0xA77E, 0xA786, 2, 1⟩, ⟨0xA790, 0xA792, 2, 1⟩, ⟨0xA796, 0xA7A8, 2, 1⟩,
    ⟨0xA7B4, 0xA7C2, 2, 1⟩, ⟨0xA7C7, 0xA7C9, 2, 1⟩, ⟨0xA7D6, 0xA7D8, 2, 1⟩,
    ⟨0xAB70, 0xABBF, 1, -38864⟩, ⟨0xFA52, 0xFA53, 1, -32965⟩, ⟨0xFB22, 0xFB23, 1, -62799⟩,
    ⟨0xFB24, 0xFB26, 1, -62793⟩, ⟨0xFB7D, 0xFB7E, 1, -62711⟩, ⟨0xFB9F, 0xFBA0, 1, -62693⟩,
    ⟨0xFBA5, 0xFBA6, 1, -62693⟩, ⟨0xFBAF, 0xFBB0, 1, -62685⟩, ⟨0xFE13, 0xFE14, 1, -64985⟩,
    ⟨0xFE17, 0xFE18, 1, -52737⟩, ⟨0xFE35, 0xFE36, 1, -65037⟩, ⟨0xFE39, 0xFE3A, 1, -52773⟩,
    ⟨0xFE3B, 0xFE3C, 1, -52779⟩, ⟨0xFE3D, 0xFE3E, 1, -52787⟩, ⟨0xFE3F, 0xFE40, 1, -52791⟩,
    ⟨0xFE41, 0xFE44, 1, -52789⟩, ⟨0xFE59, 0xFE5A, 1, -65073⟩, ⟨0xFE5D, 0xFE5E, 1, -52809⟩,
    ⟨0xFE61, 0xFE62, 1, -65079⟩, ⟨0xFE69, 0xFE6A, 1, -65093⟩, ⟨0xFE80, 0xFE81, 1, -63583⟩,
    ⟨0xFE82, 0xFE83, 1, -63584⟩, ⟨0xFE84, 0xFE85, 1, -63585⟩, ⟨0xFE86, 0xFE87, 1, -63586⟩,
    ⟨0xFE88, 0xFE89, 1, -63587⟩, ⟨0xFE8C, 0xFE8D, 1, -63590⟩, ⟨0xFE8E, 0xFE8F, 1, -63591⟩,
    ⟨0xFE92, 0xFE93, 1, -63594⟩, ⟨0xFE94, 0xFE95, 1, -63595⟩, ⟨0xFE98, 0xFE99, 1, -63598⟩,
    ⟨0xFE9C, 0xFE9D, 1, -63601⟩, ⟨0xFEA0, 0xFEA1, 1, -63604⟩, ⟨0xFEA4, 0xFEA5, 1, -63607⟩,
    ⟨0xFEA8, 0xFEA9, 1, -63610⟩, ⟨0xFEAA, 0xFEAB, 1, -63611⟩, ⟨0xFEAC, 0xFEAD, 1, -63612⟩,
    ⟨0xFEAE, 0xFEAF, 1, -63613⟩, ⟨0xFEB0, 0xFEB1, 1, -63614⟩, ⟨0xFEB4, 0xFEB5, 1, -63617⟩,
    ⟨0xFEB8, 0xFEB9, 1, -63620⟩, ⟨0xFEBC, 0xFEBD, 1, -63623⟩, ⟨0xFEC0, 0xFEC1, 1, -63626⟩,
    ⟨0xFEC4, 0xFEC5, 1, -63629⟩, ⟨0xFEC8, 0xFEC9, 1, -63632⟩, ⟨0xFECC, 0xFECD, 1, -63635⟩,
    ⟨0xFED4, 0xFED5, 1, -63635⟩, ⟨0xFED8, 0xFED9, 1, -63638⟩, ⟨0xFEDC, 0xFEDD, 1, -63641⟩,
    ⟨0xFEE0, 0xFEE1, 1, -63644⟩, ⟨0xFEE4, 0xFEE5, 1, -63647⟩, ⟨0xFEE8, 0xFEE9, 1, -63650⟩,
    ⟨0xFEEC, 0xFEED, 1, -63653⟩, ⟨0xFEEE, 0xFEEF, 1, -63654⟩, ⟨0xFEF0, 0xFEF1, 1, -63655⟩,
    ⟨0xFF01, 0xFF20, 1, -65248⟩, ⟨0xFF21, 0xFF3A, 1, -65216⟩, ⟨0xFF3B, 0xFF5E, 1, -65248⟩,
    ⟨0xFF5F, 0xFF60, 1, -54746⟩, ⟨0xFF62, 0xFF63, 1, -53078⟩, ⟨0xFF75, 0xFF76, 1, -52939⟩,
    ⟨0xFF85, 0xFF8A, 1, -52923⟩, ⟨0xFF8F, 0xFF93, 1, -52913⟩, ⟨0xFF96, 0xFF9B, 1, -52910⟩,
    ⟨0xFF9E, 0xFF9F, 1, -52997⟩, ⟨0xFFA1, 0xFFA2, 1, -61089⟩, ⟨0xFFA5, 0xFFA6, 1, -60921⟩,
    ⟨0xFFA7, 0xFFA9, 1, -61092⟩, ⟨0xFFAA, 0xFFAF, 1, -60922⟩, ⟨0xFFB1, 0xFFB3, 1, -61099⟩,
    ⟨0xFFB5, 0xFFBE, 1, -61100⟩, ⟨0xFFC2, 0xFFC7, 1, -61025⟩, ⟨0xFFCA, 0xFFCF, 1, -61027⟩,
    ⟨0xFFD2, 0xFFD7, 1, -61029⟩, ⟨0xFFDA, 0xFFDC, 1, -61031⟩, ⟨0xFFE0, 0xFFE1, 1, -65342⟩,
    ⟨0xFFE9, 0xFFEC, 1, -56921⟩, ⟨0x10400, 0x10427, 1, 40⟩, ⟨0x104B0, 0x104D3, 1, 40⟩,
    ⟨0x10570, 0x1057A, 1, 39⟩, ⟨0x1057C, 0x1058A, 1, 39⟩, ⟨0x1058C, 0x10592, 1, 39⟩,
    ⟨0x10594, 0x10595, 1, 39⟩, ⟨0x10781, 0x10782, 1, -66737⟩, ⟨0x1078B, 0x1078C, 1, -66869⟩,
    ⟨0x10799, 0x1079A, 1, -66799⟩, ⟨0x107A3, 0x107A4, 1, -66861⟩, ⟨0x107A8, 0x107A9, 1, -66859⟩,
    ⟨0x107B3, 0x107B4, 1, -66834⟩, ⟨0x107B6, 0x107B8, 1, -67062⟩, ⟨0x10C80, 0x10CB2, 1, 64⟩,
    ⟨0x118A0, 0x118BF, 1, 32⟩, ⟨0x16E40, 0x16E5F, 1, 32⟩, ⟨0x1D400, 0x1D419, 1, -119711⟩,
    ⟨0x1D41A, 0x1D433, 1, -119737⟩, ⟨0x1D434, 0x1D44D, 1, -119763⟩,
    ⟨0x1D44E, 0x1D454, 1, -119789⟩, ⟨0x1D456, 0x1D467, 1, -119789⟩,
    ⟨0x1D468, 0x1D481, 1, -119815⟩, ⟨0x1D482, 0x1D49B, 1, -119841⟩,
    ⟨0x1D49C, 0x1D49E, 2, -119867⟩, ⟨0x1D4A5, 0x1D4A6, 1, -119867⟩,
    ⟨0x1D4A9, 0x1D4AC, 1, -119867⟩, ⟨0x1D4AE, 0x1D4B5, 1, -119867⟩,
    ⟨0x1D4B6, 0x1D4B9, 1, -119893⟩, ⟨0x1D4BD, 0x1D4C3, 1, -119893⟩,
    ⟨0x1D4C5, 0x1D4CF, 1, -119893⟩, ⟨0x1D4D0, 0x1D4E9, 1, -119919⟩,
    ⟨0x1D4EA, 0x1D503, 1, -119945⟩, ⟨0x1D504, 0x1D505, 1, -119971⟩,
    ⟨0x1D507, 0x1D50A, 1, -119971⟩, ⟨0x1D50D, 0x1D514, 1, -119971⟩,
    ⟨0x1D516, 0x1D51C, 1, -119971⟩, ⟨0x1D51E, 0x1D537, 1, -119997⟩,
    ⟨0x1D538, 0x1D539, 1, -120023⟩, ⟨0x1D53B, 0x1D53E, 1, -120023⟩,
    ⟨0x1D540, 0x1D544, 1, -120023⟩, ⟨0x1D54A, 0x1D550, 1, -120023⟩,
    ⟨0x1D552, 0x1D56B, 1, -120049⟩, ⟨0x1D56C, 0x1D585, 1, -120075⟩,
    ⟨0x1D586, 0x1D59F, 1, -120101⟩, ⟨0x1D5A0, 0x1D5B9, 1, -120127⟩,
    ⟨0x1D5BA, 0x1D5D3, 1, -120153⟩, ⟨0x1D5D4, 0x1D5ED, 1, -120179⟩,
    ⟨0x1D5EE, 0x1D607, 1, -120205⟩, ⟨0x1D608, 0x1D621, 1, -120231⟩,
    ⟨0x1D622, 0x1D63B, 1, -120257⟩, ⟨0x1D63C, 0x1D655, 1, -120283⟩,
    ⟨0x1D656, 0x1D66F, 1, -120309⟩, ⟨0x1D670, 0x1D689, 1, -120335⟩,
    ⟨0x1D68A, 0x1D6A3, 1, -120361⟩, ⟨0x1D6A8, 0x1D6B8, 1, -119543⟩,
    ⟨0x1D6BA, 0x1D6C0, 1, -119543⟩, ⟨0x1D6C2, 0x1D6D2, 1, -119569⟩,
    ⟨0x1D6D4, 0x1D6DA, 1, -119569⟩, ⟨0x1D6E2, 0x1D6F2, 1, -119601⟩,
    ⟨0x1D6F4, 0x1D6FA, 1, -119601⟩, ⟨0x1D6FC, 0x1D70C, 1, -119627⟩,
    ⟨0x1D70E, 0x1D714, 1, -119627⟩, ⟨0x1D71C, 0x1D72C, 1, -119659⟩,
    ⟨0x1D72E, 0x1D734, 1, -119659⟩, ⟨0x1D736, 0x1D746, 1, -119685⟩,
    ⟨0x1D748, 0x1D74E, 1, -119685⟩, ⟨0x1D756, 0x1D766, 1, -119717⟩,
    ⟨0x1D768, 0x1D76E, 1, -119717⟩, ⟨0x1D770, 0x1D780, 1, -119743⟩,
    ⟨0x1D782, 0x1D788, 1, -119743⟩, ⟨0x1D790, 0x1D7A0, 1, -119775⟩,
    ⟨0x1D7A2, 0x1D7A8, 1, -119775⟩, ⟨0x1D7AA, 0x1D7BA, 1, -119801⟩,
    ⟨0x1D7BC, 0x1D7C2, 1, -119801⟩, ⟨0x1D7CE, 0x1D7D7, 1, -120734⟩,
    ⟨0x1D7D8, 0x1D7E1, 1, -120744⟩, ⟨0x1D7E2, 0x1D7EB, 1, -120754⟩,
    ⟨0x1D7EC, 0x1D7F5, 1, -120764⟩, ⟨0x1D7F6, 0x1D7FF, 1, -120774⟩,
    ⟨0x1E030, 0x1E038, 1, -121856⟩, ⟨0x1E039, 0x1E03B, 1, -121855⟩,
    ⟨0x1E03C, 0x1E046, 1, -121854⟩, ⟨0x1E048, 0x1E049, 1, -121851⟩,
    ⟨0x1E051, 0x1E059, 1, -121889⟩, ⟨0x1E05A, 0x1E05B, 1, -121888⟩,
    ⟨0x1E05C, 0x1E05D, 1, -121886⟩, ⟨0x1E05F, 0x1E064, 1, -121884⟩,
    ⟨0x1E065, 0x1E066, 1, -121883⟩, ⟨0x1E900, 0x1E921, 1, 34⟩, ⟨0x1EE00, 0x1EE01, 1, -124889⟩,
    ⟨0x1EE0A, 0x1EE0D, 1, -124871⟩, ⟨0x1EE15, 0x1EE16, 1, -124907⟩,
    ⟨0x1EE2A, 0x1EE2D, 1, -124903⟩, ⟨0x1EE35, 0x1EE36, 1, -124939⟩,
    ⟨0x1EE4B, 0x1EE4D, 2, -124935⟩, ⟨0x1EE6A, 0x1EE6C, 2, -124967⟩,
    ⟨0x1EE75, 0x1EE76, 1, -125003⟩, ⟨0x1EE80, 0x1EE81, 1, -125017⟩,
    ⟨0x1EE84, 0x1EE85, 1, -124989⟩, ⟨0x1EE8B, 0x1EE8D, 1, -124999⟩,
    ⟨0x1EE95, 0x1EE96, 1, -125035⟩, ⟨0x1EEAB, 0x1EEAD, 1, -125031⟩,
    ⟨0x1EEB5, 0x1EEB6, 1, -125067⟩, ⟨0x1F130, 0x1F149, 1, -127183⟩,
    ⟨0x1FBF0, 0x1FBF9, 1, -129984⟩, ⟨0x2F829, 0x2F82A, 1, -173348⟩,
    ⟨0x2F881, 0x2F882, 1, -170656⟩, ⟨0x2F8F5, 0x2F8F6, 1, -167227⟩,
    ⟨0x2F945, 0x2F946, 1, -164391⟩, ⟨0x2F9E8, 0x2F9E9, 1, -157457⟩ ]

def pairText : String :=
    "\u00a0 ªaµμ¹1ºoŸÿſsƁɓƆɔƇƈƋƌƎǝƏəƐɛƑƒƓɠƔɣƖɩƗɨƘƙƜɯƝɲƟɵƦʀƧƨƩʃƬƭƮʈƯưƷʒƸƹƼƽǴǵǶƕǷƿȠƞȺⱥȻȼȽƚ" ++
    "ȾⱦɁɂɃƀɄʉɅʌʰhʱɦʲjʳrʴɹʵɻʶʁʷwʸyˠɣˡlˢsˣxˤʕ\u0343\u0313\u0345ιʹʹͶͷ;;ͿϳΆά··ΌόϏϗϐβϑθϒυϓύϔϋ" ++
    "ϕφϖπϰκϱρϲσϴθϵεϷϸϹσϺϻ༌་ჇⴧჍⴭჼნᲀвᲁдᲂоᲅтᲆъᲇѣᲈꙋᴬaᴭæᴱeᴲǝᴼoᴽȣᴾpᴿrᵂwᵃaᵆᴂᵇbᵊəᵍgᵏkᵐmᵑŋᵒoᵓɔᵖpᵙᴝ" ++
    "ᵚɯᵛvᵜᴥᵢiᵣrᵨρᵸнᶛɒᶜcᶝɕᶞðᶟɜᶠfᶡɟᶢɡᶣɥᶧᵻᶨʝᶩɭᶪᶅᶫʟᶬɱᶭɰᶲɸᶵƫᶸᴜᶻzᶿθẛṡάάέέήήίίόόύύώώᾺὰΆάιιῈὲΈέῊὴ" ++
    "ΉήΐΐῚὶΊίΰΰῪὺΎύῬῥ``ῸὸΌόῺὼΏώ\u2000 \u2001 \u2002 \u2003 \u2004 \u2005 \u2006 \u2007 " ++
    "\u2008 \u2009 \u200a ‑‐\u202f \u205f ⁰0ⁱi⁺+⁻−⁼=ⁿn₊+₋−₌=ₐaₑeₒoₓxₔəₕhₚpℂcℇɛℌhℍhℎhℏħℐi" ++
    "ℑiℒlℜrℝrℤzΩωℨzKkÅåℯeℳmℴoℹiℼπℽγℾγℿπ⅀∑ⅅdⅠiⅤvⅩxⅬlⅯmⅰiⅴvⅹxⅼlⅿm⓪0ⱠⱡⱢɫⱣᵽⱤɽⱭɑⱮɱⱯɐⱰɒⱲⱳⱵⱶⱼjⱽv" ++
    "Ⳳⳳⵯⵡ⺟母⻳龟⼀一⼁丨⼂丶⼃丿⼄乙⼅亅⼆二⼇亠⼈人⼉儿⼊入⼋八⼌冂⼍冖⼎冫⼏几⼐凵⼑刀⼒力⼓勹⼔匕⼕匚⼖匸⼗十⼘卜⼙卩⼚厂⼛厶⼜又⼝口⼞囗⼟土⼠士⼡夂⼢夊⼣夕⼤大⼥女" ++
    "⼦子⼧宀⼨寸⼩小⼪尢⼫尸⼬屮⼭山⼮巛⼯工⼰己⼱巾⼲干⼳幺⼴广⼵廴⼶廾⼷弋⼸弓⼹彐⼺彡⼻彳⼼心⼽戈⼾戶⼿手⽀支⽁攴⽂文⽃斗⽄斤⽅方⽆无⽇日⽈曰⽉月⽊木⽋欠⽌止⽍歹⽎殳⽏毋" ++
    "⽐比⽑毛⽒氏⽓气⽔水⽕火⽖爪⽗父⽘爻⽙爿⽚片⽛牙⽜牛⽝犬⽞玄⽟玉⽠瓜⽡瓦⽢甘⽣生⽤用⽥田⽦疋⽧疒⽨癶⽩白⽪皮⽫皿⽬目⽭矛⽮矢⽯石⽰示⽱禸⽲禾⽳穴⽴立⽵竹⽶米⽷糸⽸缶⽹网" ++
    "⽺羊⽻羽⽼老⽽而⽾耒⽿耳⾀聿⾁肉⾂臣⾃自⾄至⾅臼⾆舌⾇舛⾈舟⾉艮⾊色⾋艸⾌虍⾍虫⾎血⾏行⾐衣⾑襾⾒見⾓角⾔言⾕谷⾖豆⾗豕⾘豸⾙貝⾚赤⾛走⾜足⾝身⾞車⾟辛⾠辰⾡辵⾢邑⾣酉" ++
    "⾤釆⾥里⾦金⾧長⾨門⾩阜⾪隶⾫隹⾬雨⾭靑⾮非⾯面⾰革⾱韋⾲韭⾳音⾴頁⾵風⾶飛⾷食⾸首⾹香⾺馬⾻骨⾼高⾽髟⾾鬥⾿鬯⿀鬲⿁鬼⿂魚⿃鳥⿄鹵⿅鹿⿆麥⿇麻⿈黃⿉黍⿊黑⿋黹⿌黽⿍鼎" ++
    "⿎鼓⿏鼠⿐鼻⿑齊⿒齒⿓龍⿔龜⿕龠\u3000 。.〶〒〸十ㄳᆪㄴᄂㅀᄚㅄᄡㅩᇌㅪᇎㅫᇓㅬᇗㅭᇙㅮᄜㅯᇝㅰᇟㅳᄠㅶᄧㅷᄩㅽᄲㅾᄶㅿᅀㆀᅇㆁᅌㆉᆈㆌᆔㆍᆞㆎᆡ㆒一㆓二㆔三" ++
    "㆕四㆖上㆗中㆘下㆙甲㆚乙㆛丙㆜丁㆝天㆞地㆟人㉄問㉅幼㉆文㉇箏㉠ᄀ㉦ᄉ㉮가㉯나㉰다㉱라㉲마㉳바㉴사㉵아㉶자㉷차㉸카㉹타㉺파㉻하㉾우㊀一㊁二㊂三㊃四㊄五㊅六㊆七㊇八㊈九㊉十" ++
    "㊊月㊋火㊌水㊍木㊎金㊏土㊐日㊑株㊒有㊓社㊔名㊕特㊖財㊗祝㊘労㊙秘㊚男㊛女㊜適㊝優㊞印㊟注㊠項㊡休㊢写㊣正㊤上㊥中㊦下㊧左㊨右㊩医㊪宗㊫学㊬監㊭企㊮資㊯協㊰夜㋐ア㋑イ㋒ウ" ++
    "㋓エ㋖キ㋗ク㋘ケ㋙コ㋚サ㋛シ㋜ス㋝セ㋞ソ㋟タ㋠チ㋡ツ㋢テ㋣ト㋪ヒ㋫フ㋬ヘ㋭ホ㋳ヤ㋴ユꚜъꚝьꝰꝯꝽᵹꞋꞌꞍɥꞪɦꞫɜꞬɡꞭɬꞮɪꞰʞꞱʇꞲʝꞳꭓꟄꞔꟅʂꟆᶎꟐꟑꟲcꟳf" ++
    "ꟴqꟵꟶꟸħꟹœꭜꜧꭝꬷꭞɫꭟꭒꭩʍ豈豈更更車車賈賈滑滑串串句句龜龜龜龜契契金金喇喇奈奈懶懶癩癩羅羅蘿蘿螺螺裸裸邏邏樂樂洛洛烙烙珞珞落落酪酪駱駱亂亂卵卵欄欄爛爛蘭蘭鸞鸞" ++
    "嵐嵐濫濫藍藍襤襤拉拉臘臘蠟蠟廊廊朗朗浪浪狼狼郎郎來來冷冷勞勞擄擄櫓櫓爐爐盧盧老老蘆蘆虜虜路路露露魯魯鷺鷺碌碌祿祿綠綠菉菉錄錄鹿鹿論論壟壟弄弄籠籠聾聾牢牢磊磊賂賂雷雷壘壘" ++
    "屢屢樓樓淚淚漏漏累累縷縷陋陋勒勒肋肋凜凜凌凌稜稜綾綾菱菱陵陵讀讀拏拏樂樂諾諾丹丹寧寧怒怒率率異異北北磻磻便便復復不不泌泌數數索索參參塞塞省省葉葉說說殺殺辰辰沈沈拾拾若若" ++
    "掠掠略略亮亮兩兩凉凉梁梁糧糧良良諒諒量量勵勵呂呂女女廬廬旅旅濾濾礪礪閭閭驪驪麗麗黎黎力力曆曆歷歷轢轢年年憐憐戀戀撚撚漣漣煉煉璉璉秊秊練練聯聯輦輦蓮蓮連連鍊鍊列列劣劣咽咽" ++
    "烈烈裂裂說說廉廉念念捻捻殮殮簾簾獵獵令令囹囹寧寧嶺嶺怜怜玲玲瑩瑩羚羚聆聆鈴鈴零零靈靈領領例例禮禮醴醴隸隸惡惡了了僚僚寮寮尿尿料料樂樂燎燎療療蓼蓼遼遼龍龍暈暈阮阮劉劉杻杻" ++
    "柳柳流流溜溜琉琉留留硫硫紐紐類類六六戮戮陸陸倫倫崙崙淪淪輪輪律律慄慄栗栗率率隆隆利利吏吏履履易易李李梨梨泥泥理理痢痢罹罹裏裏裡裡里里離離匿匿溺溺吝吝燐燐璘璘藺藺隣隣鱗鱗" ++
    "麟麟林林淋淋臨臨立立笠笠粒粒狀狀炙炙識識什什茶茶刺刺切切度度拓拓糖糖宅宅洞洞暴暴輻輻行行降降見見廓廓兀兀嗀嗀塚塚晴晴凞凞猪猪益益礼礼神神祥祥福福靖靖精精羽羽蘒蘒諸諸逸逸" ++
    "都都飯飯飼飼館館鶴鶴郞郞隷隷侮侮僧僧免免勉勉勤勤卑卑喝喝嘆嘆器器塀塀墨墨層層屮屮悔悔慨慨憎憎懲懲敏敏既既暑暑梅梅海海渚渚漢漢煮煮爫爫琢琢碑碑社社祉祉祈祈祐祐祖祖祝祝穀穀" ++
    "突突節節練練縉縉繁繁署署者者臭臭艹艹艹艹著著褐褐視視謁謁謹謹賓賓贈贈辶辶逸逸難難響響頻頻恵恵𤋮𤋮舘舘並並况况全全侀侀充充冀冀勇勇勺勺喝喝啕啕喙喙嗢嗢塚塚墳墳奄奄奔奔婢婢" ++
    "嬨嬨廒廒廙廙彩彩徭徭惘惘慎慎愈愈憎憎慠慠懲懲戴戴揄揄搜搜摒摒敖敖晴晴朗朗望望杖杖歹歹殺殺流流滛滛滋滋漢漢瀞瀞煮煮瞧瞧爵爵犯犯猪猪瑱瑱甆甆画画瘝瘝瘟瘟益益盛盛直直睊睊着着" ++
    "磌磌窱窱節節类类絛絛練練缾缾者者荒荒華華蝹蝹襁襁覆覆視視調調諸諸請請謁謁諾諾諭諭謹謹變變贈贈輸輸遲遲醙醙鉶鉶陼陼難難靖靖韛韛響響頋頋頻頻鬒鬒龜龜𢡊𢡊𢡄𢡄𣏕𣏕㮝㮝䀘䀘䀹䀹" ++
    "𥉉𥉉𥳐𥳐𧻓𧻓齃齃龎龎\ufb20\u05e2\ufb21\u05d0\ufb27\u05e8\ufb28\u05ea\ufb29+\ufb50\u0671" ++
    "\ufb51\u0671\ufb52\u067b\ufb53\u067b\ufb54\u067b\ufb55\u067b\ufb56\u067e\ufb57\u067e" ++
    "\ufb58\u067e\ufb59\u067e\ufb5a\u0680\ufb5b\u0680\ufb5c\u0680\ufb5d\u0680\ufb5e\u067a" ++
    "\ufb5f\u067a\ufb60\u067a\ufb61\u067a\ufb62\u067f\ufb63\u067f\ufb64\u067f\ufb65\u067f" ++
    "\ufb66\u0679\ufb67\u0679\ufb68\u0679\ufb69\u0679\ufb6a\u06a4\ufb6b\u06a4\ufb6c\u06a4" ++
    "\ufb6d\u06a4\ufb6e\u06a6\ufb6f\u06a6\ufb70\u06a6\ufb71\u06a6\ufb72\u0684\ufb73\u0684" ++
    "\ufb74\u0684\ufb75\u0684\ufb76\u0683\ufb77\u0683\ufb78\u0683\ufb79\u0683\ufb7a\u0686" ++
    "\ufb7b\u0686\ufb7c\u0686\ufb7f\u0687\ufb80\u0687\ufb81\u0687\ufb82\u068d\ufb83\u068d" ++
    "\ufb84\u068c\ufb85\u068c\ufb86\u068e\ufb87\u068e\ufb88\u0688\ufb89\u0688\ufb8a\u0698" ++
    "\ufb8b\u0698\ufb8c\u0691\ufb8d\u0691\ufb8e\u06a9\ufb8f\u06a9\ufb90\u06a9\ufb91\u06a9" ++
    "\ufb92\u06af\ufb93\u06af\ufb94\u06af\ufb95\u06af\ufb96\u06b3\ufb97\u06b3\ufb98\u06b3" ++
    "\ufb99\u06b3\ufb9a\u06b1\ufb9b\u06b1\ufb9c\u06b1\ufb9d\u06b1\ufb9e\u06ba\ufba1\u06bb" ++
    "\ufba2\u06bb\ufba3\u06bb\ufba4\u06c0\ufba7\u06c1\ufba8\u06c1\ufba9\u06c1\ufbaa\u06be" ++
    "\ufbab\u06be\ufbac\u06be\ufbad\u06be\ufbae\u06d2\ufbb1\u06d3\ufbd3\u06ad\ufbd4\u06ad" ++
    "\ufbd5\u06ad\ufbd6\u06ad\ufbd7\u06c7\ufbd8\u06c7\ufbd9\u06c6\ufbda\u06c6\ufbdb\u06c8" ++
    "\ufbdc\u06c8\ufbde\u06cb\ufbdf\u06cb\ufbe0\u06c5\ufbe1\u06c5\ufbe2\u06c9\ufbe3\u06c9" ++
    "\ufbe4\u06d0\ufbe5\u06d0\ufbe6\u06d0\ufbe7\u06d0\ufbe8\u0649\ufbe9\u0649\ufbfc\u06cc" ++
    "\ufbfd\u06cc\ufbfe\u06cc\ufbff\u06cc︐,︑、︕!︖?︱—︲–︳_︴_︷\x7b︸\x7d﹇[﹈]﹍_﹎_﹏_﹐,﹑、﹔;﹕:﹖?﹗!" ++
    "﹘—﹛\x7b﹜\x7d﹟#﹠&﹣-﹤<﹥>﹦=﹨\x5c﹫@\ufe8a\u0626\ufe8b\u0626\ufe90\u0628\ufe91\u0628" ++
    "\ufe96\u062a\ufe97\u062a\ufe9a\u062b\ufe9b\u062b\ufe9e\u062c\ufe9f\u062c\ufea2\u062d" ++
    "\ufea3\u062d\ufea6\u062e\ufea7\u062e\ufeb2\u0633\ufeb3\u0633\ufeb6\u0634\ufeb7\u0634" ++
    "\ufeba\u0635\ufebb\u0635\ufebe\u0636\ufebf\u0636\ufec2\u0637\ufec3\u0637\ufec6\u0638" ++
    "\ufec7\u0638\ufeca\u0639\ufecb\u0639\ufece\u063a\ufecf\u063a\ufed0\u063a\ufed1\u0641" ++
    "\ufed2\u0641\ufed3\u0641\ufed6\u0642\ufed7\u0642\ufeda\u0643\ufedb\u0643\ufede\u0644" ++
    "\ufedf\u0644\ufee2\u0645\ufee3\u0645\ufee6\u0646\ufee7\u0646\ufeea\u0647\ufeeb\u0647" ++
    "\ufef2\u064a\ufef3\u064a\ufef4\u064a｡.､、･・ｦヲｧァｨィｩゥｪェｫォｬャｭュｮョｯッｰーｱアｲイｳウｴエｷキｸクｹケｺコｻサｼシ" ++
    "ｽスｾセｿソﾀタﾁチﾂツﾃテﾄトﾋヒﾌフﾍヘﾎホﾔヤﾕユﾜワﾝンﾣᆪﾤᄂﾰᄚﾴᄡ￢¬￤¦￥¥￦₩￨│￭■￮○𐞃æ𐞄ʙ𐞅ɓ𐞇ʣ𐞈ꭦ𐞉ʥ𐞊ʤ𐞍ᶑ𐞎ɘ𐞏ɞ𐞐ʩ𐞑ɤ𐞒ɢ𐞓ɠ𐞔ʛ" ++
    "𐞕ħ𐞖ʜ𐞗ɧ𐞘ʄ𐞛ɬ𐞜𝼄𐞝ꞎ𐞞ɮ𐞟𝼅𐞠ʎ𐞡𝼆𐞢ø𐞥q𐞦ɺ𐞧𝼈𐞪ʀ𐞫ʨ𐞬ʦ𐞭ꭧ𐞮ʧ𐞯ʈ𐞰ⱱ𐞲ʏ𐞵ʘ𐞹𝼊𐞺𝼞𝒟d𝒢g𝒻f𝕆o𝚤ı𝚥ȷ𝚹θ𝛁∇𝛓σ𝛛∂𝛜ε𝛝θ𝛞κ𝛟φ𝛠ρ𝛡π" ++
    "𝛳θ𝛻∇𝜍σ𝜕∂𝜖ε𝜗θ𝜘κ𝜙φ𝜚ρ𝜛π𝜭θ𝜵∇𝝇σ𝝏∂𝝐ε𝝑θ𝝒κ𝝓φ𝝔ρ𝝕π𝝧θ𝝯∇𝞁σ𝞉∂𝞊ε𝞋θ𝞌κ𝞍φ𝞎ρ𝞏π𝞡θ𝞩∇𝞻σ𝟃∂𝟄ε𝟅θ𝟆κ𝟇φ𝟈ρ𝟉π𝟊ϝ𝟋ϝ" ++
    "𞁇ы𞁊ꚉ𞁋ә𞁌і𞁍ј𞁎ө𞁏ү𞁐ӏ𞁞с𞁧ґ𞁨і𞁩ѕ𞁪џ𞁫ҫ𞁬ꙑ𞁭ұ𞸂\u062c𞸃\u062f𞸅\u0648𞸆\u0632𞸇\u062d𞸈\u0637𞸉\u064a" ++
    "𞸎\u0633𞸏\u0639𞸐\u0641𞸑\u0635𞸒\u0642𞸓\u0631𞸔\u0634𞸗\u062e𞸘\u0630𞸙\u0636𞸚\u0638𞸛\u063a" ++
    "𞸜\u066e𞸝\u06ba𞸞\u06a1𞸟\u066f𞸡\u0628𞸢\u062c𞸤\u0647𞸧\u062d𞸩\u064a𞸮\u0633𞸯\u0639𞸰\u0641" ++
    "𞸱\u0635𞸲\u0642𞸴\u0634𞸷\u062e𞸹\u0636𞸻\u063a𞹂\u062c𞹇\u062d𞹉\u064a𞹎\u0633𞹏\u0639𞹑\u0635" ++
    "𞹒\u0642𞹔\u0634𞹗\u062e𞹙\u0636𞹛\u063a𞹝\u06ba𞹟\u066f𞹡\u0628𞹢\u062c𞹤\u0647𞹧\u062d𞹨\u0637" ++
    "𞹩\u064a𞹭\u0646𞹮\u0633𞹯\u0639𞹰\u0641𞹱\u0635𞹲\u0642𞹴\u0634𞹷\u062e𞹹\u0636𞹺\u0638𞹻\u063a" ++
    "𞹼\u066e𞹾\u06a1𞺂\u062c𞺃\u062f𞺆\u0632𞺇\u062d𞺈\u0637𞺉\u064a𞺎\u0633𞺏\u0639𞺐\u0641𞺑\u0635" ++
    "𞺒\u0642𞺓\u0631𞺔\u0634𞺗\u062e𞺘\u0630𞺙\u0636𞺚\u0638𞺛\u063a𞺡\u0628𞺢\u062c𞺣\u062f𞺥\u0648" ++
    "𞺦\u0632𞺧\u062d𞺨\u0637𞺩\u064a𞺮\u0633𞺯\u0639𞺰\u0641𞺱\u0635𞺲\u0642𞺳\u0631𞺴\u0634𞺷\u062e" ++
    "𞺸\u0630𞺹\u0636𞺺\u0638𞺻\u063a🄫c🄬r🈂サ🈐手🈑字🈒双🈓デ🈔二🈕多🈖解🈗天🈘交🈙映🈚無🈛料🈜前🈝後🈞再🈟新🈠初🈡終🈢生🈣販🈤声🈥吹🈦演🈧投🈨捕" ++
    "🈩一🈪三🈫遊🈬左🈭中🈮右🈯指🈰走🈱打🈲禁🈳空🈴合🈵満🈶有🈷月🈸申🈹割🈺営🈻配🉐得🉑可丽丽丸丸乁乁𠄢𠄢你你侮侮侻侻倂倂偺偺備備僧僧像像㒞㒞𠘺𠘺免免兔兔兤兤具具𠔜𠔜㒹㒹內內" ++
    "再再𠕋𠕋冗冗冤冤仌仌冬冬况况𩇟𩇟凵凵刃刃㓟㓟刻刻剆剆割割剷剷㔕㔕勇勇勉勉勤勤勺勺北北卉卉卑卑博博即即卽卽卿卿卿卿卿卿𠨬𠨬灰灰及及叟叟𠭣𠭣叫叫叱叱吆吆咞咞吸吸呈呈周周咢咢" ++
    "哶哶唐唐啓啓啣啣善善善善喙喙喫喫喳喳嗂嗂圖圖嘆嘆圗圗噑噑噴噴切切壮壮城城埴埴堍堍型型堲堲報報墬墬𡓤𡓤売売壷壷夆夆多多夢夢奢奢𡚨𡚨𡛪𡛪姬姬娛娛娧娧姘姘婦婦㛮㛮嬈嬈嬾嬾嬾嬾" ++
    "𡧈𡧈寃寃寘寘寧寧寳寳𡬘𡬘寿寿将将尢尢㞁㞁屠屠屮屮峀峀岍岍𡷤𡷤嵃嵃𡷦𡷦嵮嵮嵫嵫嵼嵼㠯㠯巽巽帨帨帽帽幩幩㡢㡢𢆃𢆃㡼㡼庰庰庳庳庶庶廊廊𪎒𪎒廾廾𢌱𢌱𢌱𢌱舁舁弢弢弢弢㣇㣇𣊸𣊸𦇚𦇚" ++
    "形形彫彫㣣㣣徚徚忍忍志志忹忹悁悁㤺㤺㤜㤜悔悔𢛔𢛔惇惇慈慈慌慌慎慎慌慌慺慺憎憎憲憲憤憤憯憯懞懞懲懲懶懶成成戛戛扝扝抱抱拔拔捐捐𢬌𢬌挽挽拼拼捨捨掃掃揤揤𢯱𢯱搢搢揅揅掩掩㨮㨮" ++
    "摩摩摾摾撝撝摷摷㩬㩬敏敏敬敬𣀊𣀊旣旣書書晉晉㬙㬙暑暑㬈㬈㫤㫤冒冒冕冕最最暜暜肭肭䏙䏙朗朗望望朡朡杞杞杓杓𣏃𣏃㭉㭉柺柺枅枅桒桒梅梅𣑭𣑭梎梎栟栟椔椔㮝㮝楂楂榣榣槪槪檨檨𣚣𣚣" ++
    "櫛櫛㰘㰘次次𣢧𣢧歔歔㱎㱎歲歲殟殟𣪍𣪍𡴋𡴋𣫺𣫺汎汎𣲼𣲼沿沿泍泍汧汧洖洖派派海海流流浩浩浸浸涅涅𣴞𣴞洴洴港港湮湮㴳㴳滋滋滇滇𣻑𣻑淹淹潮潮𣽞𣽞𣾎𣾎濆濆瀹瀹瀞瀞瀛瀛㶖㶖灊灊災災" ++
    "灷灷炭炭𠔥𠔥煅煅𤉣𤉣熜熜爨爨爵爵牐牐𤘈𤘈犀犀犕犕𤜵𤜵𤠔𤠔獺獺王王㺬㺬玥玥㺸㺸㺸㺸瑇瑇瑜瑜瑱瑱璅璅瓊瓊㼛㼛甤甤𤰶𤰶甾甾𤲒𤲒異異𢆟𢆟瘐瘐𤾡𤾡𤾸𤾸𥁄𥁄㿼㿼䀈䀈直直𥃳𥃳𥃲𥃲𥄙𥄙" ++
    "𥄳𥄳真真睊睊䀹䀹瞋瞋䁆䁆䂖䂖𥐝𥐝硎硎碌碌磌磌䃣䃣𥘦𥘦祖祖𥚚𥚚𥛅𥛅福福秫秫䄯䄯穀穀穊穊穏穏𥥼𥥼𥪧𥪧𥪧𥪧䈂䈂𥮫𥮫篆篆築築䈧䈧𥲀𥲀糒糒䊠䊠糨糨糣糣紀紀𥾆𥾆絣絣䌁䌁緇緇縂縂繅繅" ++
    "䌴䌴𦈨𦈨𦉇𦉇䍙䍙𦋙𦋙罺罺𦌾𦌾羕羕翺翺者者𦓚𦓚𦔣𦔣聠聠𦖨𦖨聰聰𣍟𣍟䏕䏕育育脃脃䐋䐋脾脾媵媵𦞧𦞧𦞵𦞵𣎓𣎓𣎜𣎜舁舁舄舄辞辞䑫䑫芑芑芋芋芝芝劳劳花花芳芳芽芽苦苦𦬼𦬼若若茝茝荣荣" ++
    "莭莭茣茣莽莽菧菧著著荓荓菊菊菌菌菜菜𦰶𦰶𦵫𦵫𦳕𦳕䔫䔫蓱蓱蓳蓳蔖蔖𧏊𧏊蕤蕤𦼬𦼬䕝䕝䕡䕡𦾱𦾱𧃒𧃒䕫䕫虐虐虜虜虧虧虩虩蚩蚩蚈蚈蜎蜎蛢蛢蝹蝹蜨蜨蝫蝫螆螆蟡蟡蠁蠁䗹䗹衠衠衣衣𧙧𧙧" ++
    "裗裗裞裞䘵䘵裺裺㒻㒻𧢮𧢮𧥦𧥦䚾䚾䛇䛇誠誠諭諭變變豕豕𧲨𧲨貫貫賁賁贛贛起起𧼯𧼯𠠄𠠄跋跋趼趼跰跰𠣞𠣞軔軔輸輸𨗒𨗒𨗭𨗭邔邔郱郱鄑鄑𨜮𨜮鄛鄛鈸鈸鉼鉼鏹鏹鐕鐕𨯺𨯺開開䦕䦕閷閷𨵷𨵷" ++
    "䧦䧦雃雃嶲嶲霣霣𩅅𩅅𩈚𩈚䩮䩮䩶䩶韠韠𩐊𩐊䪲䪲𩒖𩒖頋頋頋頋頩頩𩖶𩖶飢飢䬳䬳餩餩馧馧駂駂駾駾䯎䯎𩬰𩬰鬒鬒鱀鱀鳽鳽䳎䳎䳭䳭鵧鵧𪃎𪃎䳸䳸𪄅𪄅𪈎𪈎𪊑𪊑麻麻䵖䵖黹黹黾黾鼅鼅鼏鼏鼖鼖" ++
    "鼻鼻𪘀𪘀"

def expansionText : String :=
    "¨ \u0308|¯ \u0304|´ \u0301|¸ \u0327|¼1⁄4|½1⁄2|¾3⁄4|İi\u0307|Ĳij|ĳij|Ŀl·|ŀl·|ŉʼn|Ǆdž|" ++
    "ǅdž|ǆdž|Ǉlj|ǈlj|ǉlj|Ǌnj|ǋnj|ǌnj|Ǳdz|ǲdz|ǳdz|˘ \u0306|˙ \u0307|˚ \u030a|˛ \u0328|" ++
    "˜ \u0303|˝ \u030b|\u0344\u0308\u0301|ͺ ι|΄ \u0301|΅ \u0308\u0301|ևեւ|" ++
    "\u0675\u0627\u0674|\u0676\u0648\u0674|\u0677\u06c7\u0674|\u0678\u064a\u0674|" ++
    "क़क\u093c|ख़ख\u093c|ग़ग\u093c|ज़ज\u093c|ड़ड\u093c|ढ़ढ\u093c|फ़फ\u093c|य़य\u093c|ড়ড\u09bc|" ++
    "ঢ়ঢ\u09bc|য়য\u09bc|ਲ਼ਲ\u0a3c|ਸ਼ਸ\u0a3c|ਖ਼ਖ\u0a3c|ਗ਼ਗ\u0a3c|ਜ਼ਜ\u0a3c|ਫ਼ਫ\u0a3c|ଡ଼ଡ\u0b3c|" ++
    "ଢ଼ଢ\u0b3c|ำ\u0e4dา|ຳ\u0ecdາ|ໜຫນ|ໝຫມ|གྷག\u0fb7|ཌྷཌ\u0fb7|དྷད\u0fb7|བྷབ\u0fb7|ཛྷཛ\u0fb7|" ++
    "ཀྵཀ\u0fb5|\u0f73\u0f71\u0f72|\u0f75\u0f71\u0f74|\u0f76\u0fb2\u0f80|" ++
    "\u0f77\u0fb2\u0f71\u0f80|\u0f78\u0fb3\u0f80|\u0f79\u0fb3\u0f71\u0f80|" ++
    "\u0f81\u0f71\u0f80|\u0f93\u0f92\u0fb7|\u0f9d\u0f9c\u0fb7|\u0fa2\u0fa1\u0fb7|" ++
    "\u0fa7\u0fa6\u0fb7|\u0fac\u0fab\u0fb7|\u0fb9\u0f90\u0fb5|ẚaʾ|ẞss|ᾀἀι|ᾁἁι|ᾂἂι|ᾃἃι|" ++
    "ᾄἄι|ᾅἅι|ᾆἆι|ᾇἇι|ᾈἀι|ᾉἁι|ᾊἂι|ᾋἃι|ᾌἄι|ᾍἅι|ᾎἆι|ᾏἇι|ᾐἠι|ᾑἡι|ᾒἢι|ᾓἣι|ᾔἤι|ᾕἥι|ᾖἦι|ᾗἧι|ᾘἠι|" ++
    "ᾙἡι|ᾚἢι|ᾛἣι|ᾜἤι|ᾝἥι|ᾞἦι|ᾟἧι|ᾠὠι|ᾡὡι|ᾢὢι|ᾣὣι|ᾤὤι|ᾥὥι|ᾦὦι|ᾧὧι|ᾨὠι|ᾩὡι|ᾪὢι|ᾫὣι|ᾬὤι|ᾭὥι|" ++
    "ᾮὦι|ᾯὧι|ᾲὰι|ᾳαι|ᾴάι|ᾷᾶι|ᾼαι|᾽ \u0313|᾿ \u0313|῀ \u0342|῁ \u0308\u0342|ῂὴι|ῃηι|ῄήι|" ++
    "ῇῆι|ῌηι|῍ \u0313\u0300|῎ \u0313\u0301|῏ \u0313\u0342|῝ \u0314\u0300|῞ \u0314\u0301|" ++
    "῟ \u0314\u0342|῭ \u0308\u0300|΅ \u0308\u0301|ῲὼι|ῳωι|ῴώι|ῷῶι|ῼωι|´ \u0301|῾ \u0314|" ++
    "‗ \u0333|″′′|‴′′′|‶‵‵|‷‵‵‵|‼!!|‾ \u0305|⁇??|⁈?!|⁉!?|⁗′′′′|₨rs|℀a/c|℁a/s|℃°c|℅c/o|" ++
    "℆c/u|℉°f|№no|℠sm|℡tel|™tm|℻fax|⅐1⁄7|⅑1⁄9|⅒1⁄10|⅓1⁄3|⅔2⁄3|⅕1⁄5|⅖2⁄5|⅗3⁄5|⅘4⁄5|⅙1⁄6|" ++
    "⅚5⁄6|⅛1⁄8|⅜3⁄8|⅝5⁄8|⅞7⁄8|⅟1⁄|Ⅱii|Ⅲiii|Ⅳiv|Ⅵvi|Ⅶvii|Ⅷviii|Ⅸix|Ⅺxi|Ⅻxii|ⅱii|ⅲiii|ⅳiv|" ++
    "ⅵvi|ⅶvii|ⅷviii|ⅸix|ⅺxi|ⅻxii|↉0⁄3|∬∫∫|∭∫∫∫|∯∮∮|∰∮∮∮|⑩10|⑪11|⑫12|⑬13|⑭14|⑮15|⑯16|⑰17|" ++
    "⑱18|⑲19|⑳20|⑴(1)|⑵(2)|⑶(3)|⑷(4)|⑸(5)|⑹(6)|⑺(7)|⑻(8)|⑼(9)|⑽(10)|⑾(11)|⑿(12)|⒀(13)|" ++
    "⒁(14)|⒂(15)|⒃(16)|⒄(17)|⒅(18)|⒆(19)|⒇(20)|⒜(a)|⒝(b)|⒞(c)|⒟(d)|⒠(e)|⒡(f)|⒢(g)|⒣(h)|" ++
    "⒤(i)|⒥(j)|⒦(k)|⒧(l)|⒨(m)|⒩(n)|⒪(o)|⒫(p)|⒬(q)|⒭(r)|⒮(s)|⒯(t)|⒰(u)|⒱(v)|⒲(w)|⒳(x)|" ++
    "⒴(y)|⒵(z)|⨌∫∫∫∫|⩴::=|⩵==|⩶===|⫝̸⫝\u0338|゛ \u3099|゜ \u309a|ゟより|ヿコト|㈀(ᄀ)|㈁(ᄂ)|㈂(ᄃ)|" ++
    "㈃(ᄅ)|㈄(ᄆ)|㈅(ᄇ)|㈆(ᄉ)|㈇(ᄋ)|㈈(ᄌ)|㈉(ᄎ)|㈊(ᄏ)|㈋(ᄐ)|㈌(ᄑ)|㈍(ᄒ)|㈎(가)|㈏(나)|㈐(다)|㈑(라)|㈒(마)|" ++
    "㈓(바)|㈔(사)|㈕(아)|㈖(자)|㈗(차)|㈘(카)|㈙(타)|㈚(파)|㈛(하)|㈜(주)|㈝(오전)|㈞(오후)|㈠(一)|㈡(二)|㈢(三)|㈣(四)|" ++
    "㈤(五)|㈥(六)|㈦(七)|㈧(八)|㈨(九)|㈩(十)|㈪(月)|㈫(火)|㈬(水)|㈭(木)|㈮(金)|㈯(土)|㈰(日)|㈱(株)|㈲(有)|㈳(社)|" ++
    "㈴(名)|㈵(特)|㈶(財)|㈷(祝)|㈸(労)|㈹(代)|㈺(呼)|㈻(学)|㈼(監)|㈽(企)|㈾(資)|㈿(協)|㉀(祭)|㉁(休)|㉂(自)|㉃(至)|" ++
    "㉐pte|㉑21|㉒22|㉓23|㉔24|㉕25|㉖26|㉗27|㉘28|㉙29|㉚30|㉛31|㉜32|㉝33|㉞34|㉟35|㉼참고|㉽주의|㊱36|㊲37|" ++
    "㊳38|㊴39|㊵40|㊶41|㊷42|㊸43|㊹44|㊺45|㊻46|㊼47|㊽48|㊾49|㊿50|㋀1月|㋁2月|㋂3月|㋃4月|㋄5月|㋅6月|㋆7月|㋇8月|" ++
    "㋈9月|㋉10月|㋊11月|㋋12月|㋌hg|㋍erg|㋎ev|㋏ltd|㋿令和|㌀アパート|㌁アルファ|㌂アンペア|㌃アール|㌄イニング|㌅インチ|㌆ウォン|" ++
    "㌇エスクード|㌈エーカー|㌉オンス|㌊オーム|㌋カイリ|㌌カラット|㌍カロリー|㌎ガロン|㌏ガンマ|㌐ギガ|㌑ギニー|㌒キュリー|㌓ギルダー|㌔キロ|㌕キログラム|" ++
    "㌖キロメートル|㌗キロワット|㌘グラム|㌙グラムトン|㌚クルゼイロ|㌛クローネ|㌜ケース|㌝コルナ|㌞コーポ|㌟サイクル|㌠サンチーム|㌡シリング|㌢センチ|㌣セント|" ++
    "㌤ダース|㌥デシ|㌦ドル|㌧トン|㌨ナノ|㌩ノット|㌪ハイツ|㌫パーセント|㌬パーツ|㌭バーレル|㌮ピアストル|㌯ピクル|㌰ピコ|㌱ビル|㌲ファラッド|㌳フィート|" ++
    "㌴ブッシェル|㌵フラン|㌶ヘクタール|㌷ペソ|㌸ペニヒ|㌹ヘルツ|㌺ペンス|㌻ページ|㌼ベータ|㌽ポイント|㌾ボルト|㌿ホン|㍀ポンド|㍁ホール|㍂ホーン|㍃マイクロ|" ++
    "㍄マイル|㍅マッハ|㍆マルク|㍇マンション|㍈ミクロン|㍉ミリ|㍊ミリバール|㍋メガ|㍌メガトン|㍍メートル|㍎ヤード|㍏ヤール|㍐ユアン|㍑リットル|㍒リラ|" ++
    "㍓ルピー|㍔ルーブル|㍕レム|㍖レントゲン|㍗ワット|㍘0点|㍙1点|㍚2点|㍛3点|㍜4点|㍝5点|㍞6点|㍟7点|㍠8点|㍡9点|㍢10点|㍣11点|㍤12点|" ++
    "㍥13点|㍦14点|㍧15点|㍨16点|㍩17点|㍪18点|㍫19点|㍬20点|㍭21点|㍮22点|㍯23点|㍰24点|㍱hpa|㍲da|㍳au|㍴bar|㍵ov|" ++
    "㍶pc|㍷dm|㍸dm2|㍹dm3|㍺iu|㍻平成|㍼昭和|㍽大正|㍾明治|㍿株式会社|㎀pa|㎁na|㎂μa|㎃ma|㎄ka|㎅kb|㎆mb|㎇gb|㎈cal|" ++
    "㎉kcal|㎊pf|㎋nf|㎌μf|㎍μg|㎎mg|㎏kg|㎐hz|㎑khz|㎒mhz|㎓ghz|㎔thz|㎕μl|㎖ml|㎗dl|㎘kl|㎙fm|㎚nm|㎛μm|" ++
    "㎜mm|㎝cm|㎞km|㎟mm2|㎠cm2|㎡m2|㎢km2|㎣mm3|㎤cm3|㎥m3|㎦km3|㎧m∕s|㎨m∕s2|㎩pa|㎪kpa|㎫mpa|㎬gpa|" ++
    "㎭rad|㎮rad∕s|㎯rad∕s2|㎰ps|㎱ns|㎲μs|㎳ms|㎴pv|㎵nv|㎶μv|㎷mv|㎸kv|㎹mv|㎺pw|㎻nw|㎼μw|㎽mw|㎾kw|㎿mw|" ++
    "㏀kω|㏁mω|㏃bq|㏄cc|㏅cd|㏆c∕kg|㏈db|㏉gy|㏊ha|㏋hp|㏌in|㏍kk|㏎km|㏏kt|㏐lm|㏑ln|㏒log|㏓lx|㏔mb|㏕mil|" ++
    "㏖mol|㏗ph|㏙ppm|㏚pr|㏛sr|㏜sv|㏝wb|㏞v∕m|㏟a∕m|㏠1日|㏡2日|㏢3日|㏣4日|㏤5日|㏥6日|㏦7日|㏧8日|㏨9日|㏩10日|" ++
    "㏪11日|㏫12日|㏬13日|㏭14日|㏮15日|㏯16日|㏰17日|㏱18日|㏲19日|㏳20日|㏴21日|㏵22日|㏶23日|㏷24日|㏸25日|㏹26日|" ++
    "㏺27日|㏻28日|㏼29日|㏽30日|㏾31日|㏿gal|ﬀff|ﬁfi|ﬂfl|ﬃffi|ﬄffl|ﬅst|ﬆst|ﬓմն|ﬔմե|ﬕմի|ﬖվն|ﬗմխ|" ++
    "\ufb1d\u05d9\u05b4|\ufb1f\u05f2\u05b7|\ufb2a\u05e9\u05c1|\ufb2b\u05e9\u05c2|" ++
    "\ufb2c\u05e9\u05bc\u05c1|\ufb2d\u05e9\u05bc\u05c2|\ufb2e\u05d0\u05b7|" ++
    "\ufb2f\u05d0\u05b8|\ufb30\u05d0\u05bc|\ufb31\u05d1\u05bc|\ufb32\u05d2\u05bc|" ++
    "\ufb33\u05d3\u05bc|\ufb34\u05d4\u05bc|\ufb35\u05d5\u05bc|\ufb36\u05d6\u05bc|" ++
    "\ufb38\u05d8\u05bc|\ufb39\u05d9\u05bc|\ufb3a\u05da\u05bc|\ufb3b\u05db\u05bc|" ++
    "\ufb3c\u05dc\u05bc|\ufb3e\u05de\u05bc|\ufb40\u05e0\u05bc|\ufb41\u05e1\u05bc|" ++
    "\ufb43\u05e3\u05bc|\ufb44\u05e4\u05bc|\ufb46\u05e6\u05bc|\ufb47\u05e7\u05bc|" ++
    "\ufb48\u05e8\u05bc|\ufb49\u05e9\u05bc|\ufb4a\u05ea\u05bc|\ufb4b\u05d5\u05b9|" ++
    "\ufb4c\u05d1\u05bf|\ufb4d\u05db\u05bf|\ufb4e\u05e4\u05bf|\ufb4f\u05d0\u05dc|" ++
    "\ufbdd\u06c7\u0674|\ufbea\u0626\u0627|\ufbeb\u0626\u0627|\ufbec\u0626\u06d5|" ++
    "\ufbed\u0626\u06d5|\ufbee\u0626\u0648|\ufbef\u0626\u0648|\ufbf0\u0626\u06c7|" ++
    "\ufbf1\u0626\u06c7|\ufbf2\u0626\u06c6|\ufbf3\u0626\u06c6|\ufbf4\u0626\u06c8|" ++
    "\ufbf5\u0626\u06c8|\ufbf6\u0626\u06d0|\ufbf7\u0626\u06d0|\ufbf8\u0626\u06d0|" ++
    "\ufbf9\u0626\u0649|\ufbfa\u0626\u0649|\ufbfb\u0626\u0649|\ufc00\u0626\u062c|" ++
    "\ufc01\u0626\u062d|\ufc02\u0626\u0645|\ufc03\u0626\u0649|\ufc04\u0626\u064a|" ++
    "\ufc05\u0628\u062c|\ufc06\u0628\u062d|\ufc07\u0628\u062e|\ufc08\u0628\u0645|" ++
    "\ufc09\u0628\u0649|\ufc0a\u0628\u064a|\ufc0b\u062a\u062c|\ufc0c\u062a\u062d|" ++
    "\ufc0d\u062a\u062e|\ufc0e\u062a\u0645|\ufc0f\u062a\u0649|\ufc10\u062a\u064a|" ++
    "\ufc11\u062b\u062c|\ufc12\u062b\u0645|\ufc13\u062b\u0649|\ufc14\u062b\u064a|" ++
    "\ufc15\u062c\u062d|\ufc16\u062c\u0645|\ufc17\u062d\u062c|\ufc18\u062d\u0645|" ++
    "\ufc19\u062e\u062c|\ufc1a\u062e\u062d|\ufc1b\u062e\u0645|\ufc1c\u0633\u062c|" ++
    "\ufc1d\u0633\u062d|\ufc1e\u0633\u062e|\ufc1f\u0633\u0645|\ufc20\u0635\u062d|" ++
    "\ufc21\u0635\u0645|\ufc22\u0636\u062c|\ufc23\u0636\u062d|\ufc24\u0636\u062e|" ++
    "\ufc25\u0636\u0645|\ufc26\u0637\u062d|\ufc27\u0637\u0645|\ufc28\u0638\u0645|" ++
    "\ufc29\u0639\u062c|\ufc2a\u0639\u0645|\ufc2b\u063a\u062c|\ufc2c\u063a\u0645|" ++
    "\ufc2d\u0641\u062c|\ufc2e\u0641\u062d|\ufc2f\u0641\u062e|\ufc30\u0641\u0645|" ++
    "\ufc31\u0641\u0649|\ufc32\u0641\u064a|\ufc33\u0642\u062d|\ufc34\u0642\u0645|" ++
    "\ufc35\u0642\u0649|\ufc36\u0642\u064a|\ufc37\u0643\u0627|\ufc38\u0643\u062c|" ++
    "\ufc39\u0643\u062d|\ufc3a\u0643\u062e|\ufc3b\u0643\u0644|\ufc3c\u0643\u0645|" ++
    "\ufc3d\u0643\u0649|\ufc3e\u0643\u064a|\ufc3f\u0644\u062c|\ufc40\u0644\u062d|" ++
    "\ufc41\u0644\u062e|\ufc42\u0644\u0645|\ufc43\u0644\u0649|\ufc44\u0644\u064a|" ++
    "\ufc45\u0645\u062c|\ufc46\u0645\u062d|\ufc47\u0645\u062e|\ufc48\u0645\u0645|" ++
    "\ufc49\u0645\u0649|\ufc4a\u0645\u064a|\ufc4b\u0646\u062c|\ufc4c\u0646\u062d|" ++
    "\ufc4d\u0646\u062e|\ufc4e\u0646\u0645|\ufc4f\u0646\u0649|\ufc50\u0646\u064a|" ++
    "\ufc51\u0647\u062c|\ufc52\u0647\u0645|\ufc53\u0647\u0649|\ufc54\u0647\u064a|" ++
    "\ufc55\u064a\u062c|\ufc56\u064a\u062d|\ufc57\u064a\u062e|\ufc58\u064a\u0645|" ++
    "\ufc59\u064a\u0649|\ufc5a\u064a\u064a|\ufc5b\u0630\u0670|\ufc5c\u0631\u0670|" ++
    "\ufc5d\u0649\u0670|\ufc5e \u064c\u0651|\ufc5f \u064d\u0651|\ufc60 \u064e\u0651|" ++
    "\ufc61 \u064f\u0651|\ufc62 \u0650\u0651|\ufc63 \u0651\u0670|\ufc64\u0626\u0631|" ++
    "\ufc65\u0626\u0632|\ufc66\u0626\u0645|\ufc67\u0626\u0646|\ufc68\u0626\u0649|" ++
    "\ufc69\u0626\u064a|\ufc6a\u0628\u0631|\ufc6b\u0628\u0632|\ufc6c\u0628\u0645|" ++
    "\ufc6d\u0628\u0646|\ufc6e\u0628\u0649|\ufc6f\u0628\u064a|\ufc70\u062a\u0631|" ++
    "\ufc71\u062a\u0632|\ufc72\u062a\u0645|\ufc73\u062a\u0646|\ufc74\u062a\u0649|" ++
    "\ufc75\u062a\u064a|\ufc76\u062b\u0631|\ufc77\u062b\u0632|\ufc78\u062b\u0645|" ++
    "\ufc79\u062b\u0646|\ufc7a\u062b\u0649|\ufc7b\u062b\u064a|\ufc7c\u0641\u0649|" ++
    "\ufc7d\u0641\u064a|\ufc7e\u0642\u0649|\ufc7f\u0642\u064a|\ufc80\u0643\u0627|" ++
    "\ufc81\u0643\u0644|\ufc82\u0643\u0645|\ufc83\u0643\u0649|\ufc84\u0643\u064a|" ++
    "\ufc85\u0644\u0645|\ufc86\u0644\u0649|\ufc87\u0644\u064a|\ufc88\u0645\u0627|" ++
    "\ufc89\u0645\u0645|\ufc8a\u0646\u0631|\ufc8b\u0646\u0632|\ufc8c\u0646\u0645|" ++
    "\ufc8d\u0646\u0646|\ufc8e\u0646\u0649|\ufc8f\u0646\u064a|\ufc90\u0649\u0670|" ++
    "\ufc91\u064a\u0631|\ufc92\u064a\u0632|\ufc93\u064a\u0645|\ufc94\u064a\u0646|" ++
    "\ufc95\u064a\u0649|\ufc96\u064a\u064a|\ufc97\u0626\u062c|\ufc98\u0626\u062d|" ++
    "\ufc99\u0626\u062e|\ufc9a\u0626\u0645|\ufc9b\u0626\u0647|\ufc9c\u0628\u062c|" ++
    "\ufc9d\u0628\u062d|\ufc9e\u0628\u062e|\ufc9f\u0628\u0645|\ufca0\u0628\u0647|" ++
    "\ufca1\u062a\u062c|\ufca2\u062a\u062d|\ufca3\u062a\u062e|\ufca4\u062a\u0645|" ++
    "\ufca5\u062a\u0647|\ufca6\u062b\u0645|\ufca7\u062c\u062d|\ufca8\u062c\u0645|" ++
    "\ufca9\u062d\u062c|\ufcaa\u062d\u0645|\ufcab\u062e\u062c|\ufcac\u062e\u0645|" ++
    "\ufcad\u0633\u062c|\ufcae\u0633\u062d|\ufcaf\u0633\u062e|\ufcb0\u0633\u0645|" ++
    "\ufcb1\u0635\u062d|\ufcb2\u0635\u062e|\ufcb3\u0635\u0645|\ufcb4\u0636\u062c|" ++
    "\ufcb5\u0636\u062d|\ufcb6\u0636\u062e|\ufcb7\u0636\u0645|\ufcb8\u0637\u062d|" ++
    "\ufcb9\u0638\u0645|\ufcba\u0639\u062c|\ufcbb\u0639\u0645|\ufcbc\u063a\u062c|" ++
    "\ufcbd\u063a\u0645|\ufcbe\u0641\u062c|\ufcbf\u0641\u062d|\ufcc0\u0641\u062e|" ++
    "\ufcc1\u0641\u0645|\ufcc2\u0642\u062d|\ufcc3\u0642\u0645|\ufcc4\u0643\u062c|" ++
    "\ufcc5\u0643\u062d|\ufcc6\u0643\u062e|\ufcc7\u0643\u0644|\ufcc8\u0643\u0645|" ++
    "\ufcc9\u0644\u062c|\ufcca\u0644\u062d|\ufccb\u0644\u062e|\ufccc\u0644\u0645|" ++
    "\ufccd\u0644\u0647|\ufcce\u0645\u062c|\ufccf\u0645\u062d|\ufcd0\u0645\u062e|" ++
    "\ufcd1\u0645\u0645|\ufcd2\u0646\u062c|\ufcd3\u0646\u062d|\ufcd4\u0646\u062e|" ++
    "\ufcd5\u0646\u0645|\ufcd6\u0646\u0647|\ufcd7\u0647\u062c|\ufcd8\u0647\u0645|" ++
    "\ufcd9\u0647\u0670|\ufcda\u064a\u062c|\ufcdb\u064a\u062d|\ufcdc\u064a\u062e|" ++
    "\ufcdd\u064a\u0645|\ufcde\u064a\u0647|\ufcdf\u0626\u0645|\ufce0\u0626\u0647|" ++
    "\ufce1\u0628\u0645|\ufce2\u0628\u0647|\ufce3\u062a\u0645|\ufce4\u062a\u0647|" ++
    "\ufce5\u062b\u0645|\ufce6\u062b\u0647|\ufce7\u0633\u0645|\ufce8\u0633\u0647|" ++
    "\ufce9\u0634\u0645|\ufcea\u0634\u0647|\ufceb\u0643\u0644|\ufcec\u0643\u0645|" ++
    "\ufced\u0644\u0645|\ufcee\u0646\u0645|\ufcef\u0646\u0647|\ufcf0\u064a\u0645|" ++
    "\ufcf1\u064a\u0647|\ufcf2\u0640\u064e\u0651|\ufcf3\u0640\u064f\u0651|" ++
    "\ufcf4\u0640\u0650\u0651|\ufcf5\u0637\u0649|\ufcf6\u0637\u064a|\ufcf7\u0639\u0649|" ++
    "\ufcf8\u0639\u064a|\ufcf9\u063a\u0649|\ufcfa\u063a\u064a|\ufcfb\u0633\u0649|" ++
    "\ufcfc\u0633\u064a|\ufcfd\u0634\u0649|\ufcfe\u0634\u064a|\ufcff\u062d\u0649|" ++
    "\ufd00\u062d\u064a|\ufd01\u062c\u0649|\ufd02\u062c\u064a|\ufd03\u062e\u0649|" ++
    "\ufd04\u062e\u064a|\ufd05\u0635\u0649|\ufd06\u0635\u064a|\ufd07\u0636\u0649|" ++
    "\ufd08\u0636\u064a|\ufd09\u0634\u062c|\ufd0a\u0634\u062d|\ufd0b\u0634\u062e|" ++
    "\ufd0c\u0634\u0645|\ufd0d\u0634\u0631|\ufd0e\u0633\u0631|\ufd0f\u0635\u0631|" ++
    "\ufd10\u0636\u0631|\ufd11\u0637\u0649|\ufd12\u0637\u064a|\ufd13\u0639\u0649|" ++
    "\ufd14\u0639\u064a|\ufd15\u063a\u0649|\ufd16\u063a\u064a|\ufd17\u0633\u0649|" ++
    "\ufd18\u0633\u064a|\ufd19\u0634\u0649|\ufd1a\u0634\u064a|\ufd1b\u062d\u0649|" ++
    "\ufd1c\u062d\u064a|\ufd1d\u062c\u0649|\ufd1e\u062c\u064a|\ufd1f\u062e\u0649|" ++
    "\ufd20\u062e\u064a|\ufd21\u0635\u0649|\ufd22\u0635\u064a|\ufd23\u0636\u0649|" ++
    "\ufd24\u0636\u064a|\ufd25\u0634\u062c|\ufd26\u0634\u062d|\ufd27\u0634\u062e|" ++
    "\ufd28\u0634\u0645|\ufd29\u0634\u0631|\ufd2a\u0633\u0631|\ufd2b\u0635\u0631|" ++
    "\ufd2c\u0636\u0631|\ufd2d\u0634\u062c|\ufd2e\u0634\u062d|\ufd2f\u0634\u062e|" ++
    "\ufd30\u0634\u0645|\ufd31\u0633\u0647|\ufd32\u0634\u0647|\ufd33\u0637\u0645|" ++
    "\ufd34\u0633\u062c|\ufd35\u0633\u062d|\ufd36\u0633\u062e|\ufd37\u0634\u062c|" ++
    "\ufd38\u0634\u062d|\ufd39\u0634\u062e|\ufd3a\u0637\u0645|\ufd3b\u0638\u0645|" ++
    "\ufd3c\u0627\u064b|\ufd3d\u0627\u064b|\ufd50\u062a\u062c\u0645|" ++
    "\ufd51\u062a\u062d\u062c|\ufd52\u062a\u062d\u062c|\ufd53\u062a\u062d\u0645|" ++
    "\ufd54\u062a\u062e\u0645|\ufd55\u062a\u0645\u062c|\ufd56\u062a\u0645\u062d|" ++
    "\ufd57\u062a\u0645\u062e|\ufd58\u062c\u0645\u062d|\ufd59\u062c\u0645\u062d|" ++
    "\ufd5a\u062d\u0645\u064a|\ufd5b\u062d\u0645\u0649|\ufd5c\u0633\u062d\u062c|" ++
    "\ufd5d\u0633\u062c\u062d|\ufd5e\u0633\u062c\u0649|\ufd5f\u0633\u0645\u062d|" ++
    "\ufd60\u0633\u0645\u062d|\ufd61\u0633\u0645\u062c|\ufd62\u0633\u0645\u0645|" ++
    "\ufd63\u0633\u0645\u0645|\ufd64\u0635\u062d\u062d|\ufd65\u0635\u062d\u062d|" ++
    "\ufd66\u0635\u0645\u0645|\ufd67\u0634\u062d\u0645|\ufd68\u0634\u062d\u0645|" ++
    "\ufd69\u0634\u062c\u064a|\ufd6a\u0634\u0645\u062e|\ufd6b\u0634\u0645\u062e|" ++
    "\ufd6c\u0634\u0645\u0645|\ufd6d\u0634\u0645\u0645|\ufd6e\u0636\u062d\u0649|" ++
    "\ufd6f\u0636\u062e\u0645|\ufd70\u0636\u062e\u0645|\ufd71\u0637\u0645\u062d|" ++
    "\ufd72\u0637\u0645\u062d|\ufd73\u0637\u0645\u0645|\ufd74\u0637\u0645\u064a|" ++
    "\ufd75\u0639\u062c\u0645|\ufd76\u0639\u0645\u0645|\ufd77\u0639\u0645\u0645|" ++
    "\ufd78\u0639\u0645\u0649|\ufd79\u063a\u0645\u0645|\ufd7a\u063a\u0645\u064a|" ++
    "\ufd7b\u063a\u0645\u0649|\ufd7c\u0641\u062e\u0645|\ufd7d\u0641\u062e\u0645|" ++
    "\ufd7e\u0642\u0645\u062d|\ufd7f\u0642\u0645\u0645|\ufd80\u0644\u062d\u0645|" ++
    "\ufd81\u0644\u062d\u064a|\ufd82\u0644\u062d\u0649|\ufd83\u0644\u062c\u062c|" ++
    "\ufd84\u0644\u062c\u062c|\ufd85\u0644\u062e\u0645|\ufd86\u0644\u062e\u0645|" ++
    "\ufd87\u0644\u0645\u062d|\ufd88\u0644\u0645\u062d|\ufd89\u0645\u062d\u062c|" ++
    "\ufd8a\u0645\u062d\u0645|\ufd8b\u0645\u062d\u064a|\ufd8c\u0645\u062c\u062d|" ++
    "\ufd8d\u0645\u062c\u0645|\ufd8e\u0645\u062e\u062c|\ufd8f\u0645\u062e\u0645|" ++
    "\ufd92\u0645\u062c\u062e|\ufd93\u0647\u0645\u062c|\ufd94\u0647\u0645\u0645|" ++
    "\ufd95\u0646\u062d\u0645|\ufd96\u0646\u062d\u0649|\ufd97\u0646\u062c\u0645|" ++
    "\ufd98\u0646\u062c\u0645|\ufd99\u0646\u062c\u0649|\ufd9a\u0646\u0645\u064a|" ++
    "\ufd9b\u0646\u0645\u0649|\ufd9c\u064a\u0645\u0645|\ufd9d\u064a\u0645\u0645|" ++
    "\ufd9e\u0628\u062e\u064a|\ufd9f\u062a\u062c\u064a|\ufda0\u062a\u062c\u0649|" ++
    "\ufda1\u062a\u062e\u064a|\ufda2\u062a\u062e\u0649|\ufda3\u062a\u0645\u064a|" ++
    "\ufda4\u062a\u0645\u0649|\ufda5\u062c\u0645\u064a|\ufda6\u062c\u062d\u0649|" ++
    "\ufda7\u062c\u0645\u0649|\ufda8\u0633\u062e\u0649|\ufda9\u0635\u062d\u064a|" ++
    "\ufdaa\u0634\u062d\u064a|\ufdab\u0636\u062d\u064a|\ufdac\u0644\u062c\u064a|" ++
    "\ufdad\u0644\u0645\u064a|\ufdae\u064a\u062d\u064a|\ufdaf\u064a\u062c\u064a|" ++
    "\ufdb0\u064a\u0645\u064a|\ufdb1\u0645\u0645\u064a|\ufdb2\u0642\u0645\u064a|" ++
    "\ufdb3\u0646\u062d\u064a|\ufdb4\u0642\u0645\u062d|\ufdb5\u0644\u062d\u0645|" ++
    "\ufdb6\u0639\u0645\u064a|\ufdb7\u0643\u0645\u064a|\ufdb8\u0646\u062c\u062d|" ++
    "\ufdb9\u0645\u062e\u064a|\ufdba\u0644\u062c\u0645|\ufdbb\u0643\u0645\u0645|" ++
    "\ufdbc\u0644\u062c\u0645|\ufdbd\u0646\u062c\u062d|\ufdbe\u062c\u062d\u064a|" ++
    "\ufdbf\u062d\u062c\u064a|\ufdc0\u0645\u062c\u064a|\ufdc1\u0641\u0645\u064a|" ++
    "\ufdc2\u0628\u062d\u064a|\ufdc3\u0643\u0645\u0645|\ufdc4\u0639\u062c\u0645|" ++
    "\ufdc5\u0635\u0645\u0645|\ufdc6\u0633\u062e\u064a|\ufdc7\u0646\u062c\u064a|" ++
    "\ufdf0\u0635\u0644\u06d2|\ufdf1\u0642\u0644\u06d2|\ufdf2\u0627\u0644\u0644\u0647|" ++
    "\ufdf3\u0627\u0643\u0628\u0631|\ufdf4\u0645\u062d\u0645\u062f|" ++
    "\ufdf5\u0635\u0644\u0639\u0645|\ufdf6\u0631\u0633\u0648\u0644|" ++
    "\ufdf7\u0639\u0644\u064a\u0647|\ufdf8\u0648\u0633\u0644\u0645|" ++
    "\ufdf9\u0635\u0644\u0649|" ++
    "\ufdfa\u0635\u0644\u0649 \u0627\u0644\u0644\u0647 \u0639\u0644\u064a\u0647 \u0648\u0633\u0644\u0645|" ++
    "\ufdfb\u062c\u0644 \u062c\u0644\u0627\u0644\u0647|\ufdfc\u0631\u06cc\u0627\u0644|" ++
    "﹉ \u0305|﹊ \u0305|﹋ \u0305|﹌ \u0305|\ufe70 \u064b|\ufe71\u0640\u064b|\ufe72 \u064c|" ++
    "\ufe74 \u064d|\ufe76 \u064e|\ufe77\u0640\u064e|\ufe78 \u064f|\ufe79\u0640\u064f|" ++
    "\ufe7a \u0650|\ufe7b\u0640\u0650|\ufe7c \u0651|\ufe7d\u0640\u0651|\ufe7e \u0652|" ++
    "\ufe7f\u0640\u0652|\ufef5\u0644\u0622|\ufef6\u0644\u0622|\ufef7\u0644\u0623|" ++
    "\ufef8\u0644\u0623|\ufef9\u0644\u0625|\ufefa\u0644\u0625|\ufefb\u0644\u0627|" ++
    "\ufefc\u0644\u0627|￣ \u0304|𝅗𝅥𝅗𝅥|𝅘𝅥𝅘𝅥|𝅘𝅥𝅮𝅘𝅥𝅮|𝅘𝅥𝅯𝅘𝅥𝅯|𝅘𝅥𝅰𝅘𝅥𝅰|𝅘𝅥𝅱𝅘𝅥𝅱|𝅘𝅥𝅲𝅘𝅥𝅲|𝆹𝅥𝆹𝅥|𝆺𝅥𝆺𝅥|𝆹𝅥𝅮𝆹𝅥𝅮|𝆺𝅥𝅮𝆺𝅥𝅮|𝆹𝅥𝅯𝆹𝅥𝅯|" ++
    "𝆺𝅥𝅯𝆺𝅥𝅯|🄁0,|🄂1,|🄃2,|🄄3,|🄅4,|🄆5,|🄇6,|🄈7,|🄉8,|🄊9,|🄐(a)|🄑(b)|🄒(c)|🄓(d)|🄔(e)|🄕(f)|🄖(g)|" ++
    "🄗(h)|🄘(i)|🄙(j)|🄚(k)|🄛(l)|🄜(m)|🄝(n)|🄞(o)|🄟(p)|🄠(q)|🄡(r)|🄢(s)|🄣(t)|🄤(u)|🄥(v)|🄦(w)|" ++
    "🄧(x)|🄨(y)|🄩(z)|🄪〔s〕|🄭cd|🄮wz|🅊hv|🅋mv|🅌sd|🅍ss|🅎ppv|🅏wc|🅪mc|🅫md|🅬mr|🆐dj|🈀ほか|🈁ココ|🉀〔本〕|" ++
    "🉁〔三〕|🉂〔二〕|🉃〔安〕|🉄〔点〕|🉅〔打〕|🉆〔盗〕|🉇〔勝〕|🉈〔敗〕|"

def droppedRuns : List (Nat × Nat) :=
  [ (0xAD, 0xAD), (0x34F, 0x34F), (0x180B, 0x180D), (0x180F, 0x180F), (0x200B, 0x200B),
    (0x2060, 0x2060), (0x2064, 0x2064), (0xFE00, 0xFE0F), (0xFEFF, 0xFEFF), (0x1BCA0, 0x1BCA3),
    (0xE0100, 0xE01EF) ]

/-- The first and last characters of the runs that a domain name may not hold. -/
def forbiddenRuns : List (Nat × Nat) :=
  [ (0x80, 0x9F), (0x4C0, 0x4C0), (0x600, 0x605), (0x61C, 0x61C), (0x6DD, 0x6DD), (0x70F, 0x70F),
    (0x890, 0x891), (0x8E2, 0x8E2), (0x10A0, 0x10C5), (0x115F, 0x1160), (0x1680, 0x1680),
    (0x17B4, 0x17B5), (0x1806, 0x1806), (0x180E, 0x180E), (0x200E, 0x200F), (0x2024, 0x2026),
    (0x2028, 0x202E), (0x2061, 0x2063), (0x2066, 0x206F), (0x2132, 0x2132), (0x2183, 0x2183),
    (0x2488, 0x249B), (0x2FF0, 0x2FFB), (0x3164, 0x3164), (0x33C2, 0x33C2), (0x33C7, 0x33C7),
    (0x33D8, 0x33D8), (0xD800, 0xF8FF), (0xFDD0, 0xFDEF), (0xFE12, 0xFE12), (0xFE19, 0xFE19),
    (0xFE30, 0xFE30), (0xFE52, 0xFE52), (0xFFA0, 0xFFA0), (0xFFF9, 0xFFFF), (0x110BD, 0x110BD),
    (0x110CD, 0x110CD), (0x13430, 0x13438), (0x1D173, 0x1D17A), (0x1F100, 0x1F100),
    (0x1FFFE, 0x1FFFF), (0x2F868, 0x2F868), (0x2F874, 0x2F874), (0x2F91F, 0x2F91F),
    (0x2F95F, 0x2F95F), (0x2F9BF, 0x2F9BF), (0x2FFFE, 0x2FFFF), (0x3FFFE, 0x3FFFF),
    (0x4FFFE, 0x4FFFF), (0x5FFFE, 0x5FFFF), (0x6FFFE, 0x6FFFF), (0x7FFFE, 0x7FFFF),
    (0x8FFFE, 0x8FFFF), (0x9FFFE, 0x9FFFF), (0xAFFFE, 0xAFFFF), (0xBFFFE, 0xBFFFF),
    (0xCFFFE, 0xCFFFF), (0xDFFFE, 0xDFFFF), (0xE0001, 0xE0001), (0xE0020, 0xE007F),
    (0xEFFFE, 0xFFFFF) ]

end FeedIngest.Url.Idna
