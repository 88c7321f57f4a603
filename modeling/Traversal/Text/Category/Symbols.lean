import Traversal.Text.Property

/-! # Symbols by general category

Each general category with its names and its code points. -/

namespace Traversal.Text

/-- The mathematical symbols. -/
def mathematicalSymbols : Property :=
  ⟨["sm", "mathsymbol"],
   "2B 3C-3E 7C 7E AC B1 D7 F7 3F6 606-608 2044 2052 207A-207C 208A-208C 2118 2140-2144 214B
    2190-2194 219A-219B 21A0 21A3 21A6 21AE 21CE-21CF 21D2 21D4 21F4-22FF 2320-2321 237C 239B-23B3
    23DC-23E1 25B7 25C1 25F8-25FF 266F 27C0-27C4 27C7-27E5 27F0-27FF 2900-2982 2999-29D7 29DC-29FB
    29FE-2AFF 2B30-2B44 2B47-2B4C FB29 FE62 FE64-FE66 FF0B FF1C-FF1E FF5C FF5E FFE2 FFE9-FFEC
    10D8E-10D8F 1D6C1 1D6DB 1D6FB 1D715 1D735 1D74F 1D76F 1D789 1D7A9 1D7C3 1EEF0-1EEF1"⟩

/-- The currency symbols. -/
def currencySymbols : Property :=
  ⟨["sc", "currencysymbol"],
   "24 A2-A5 58F 60B 7FE-7FF 9F2-9F3 9FB AF1 BF9 E3F 17DB 20A0-20C0 A838 FDFC FE69 FF04 FFE0-FFE1
    FFE5-FFE6 11FDD-11FE0 1E2FF 1ECB0"⟩

/-- The modifier symbols. -/
def modifierSymbols : Property :=
  ⟨["sk", "modifiersymbol"],
   "5E 60 A8 AF B4 B8 2C2-2C5 2D2-2DF 2E5-2EB 2ED 2EF-2FF 375 384-385 888 1FBD 1FBF-1FC1 1FCD-1FCF
    1FDD-1FDF 1FED-1FEF 1FFD-1FFE 309B-309C A700-A716 A720-A721 A789-A78A AB5B AB6A-AB6B FBB2-FBC2
    FF3E FF40 FFE3 1F3FB-1F3FF"⟩

/-- The other symbols. -/
def otherSymbols : Property :=
  ⟨["so", "othersymbol"],
   "A6 A9 AE B0 482 58D-58E 60E-60F 6DE 6E9 6FD-6FE 7F6 9FA B70 BF3-BF8 BFA C7F D4F D79 F01-F03
    F13 F15-F17 F1A-F1F F34 F36 F38 FBE-FC5 FC7-FCC FCE-FCF FD5-FD8 109E-109F 1390-1399 166D 1940
    19DE-19FF 1B61-1B6A 1B74-1B7C 2100-2101 2103-2106 2108-2109 2114 2116-2117 211E-2123 2125 2127
    2129 212E 213A-213B 214A 214C-214D 214F 218A-218B 2195-2199 219C-219F 21A1-21A2 21A4-21A5
    21A7-21AD 21AF-21CD 21D0-21D1 21D3 21D5-21F3 2300-2307 230C-231F 2322-2328 232B-237B 237D-239A
    23B4-23DB 23E2-2429 2440-244A 249C-24E9 2500-25B6 25B8-25C0 25C2-25F7 2600-266E 2670-2767
    2794-27BF 2800-28FF 2B00-2B2F 2B45-2B46 2B4D-2B73 2B76-2B95 2B97-2BFF 2CE5-2CEA 2E50-2E51
    2E80-2E99 2E9B-2EF3 2F00-2FD5 2FF0-2FFF 3004 3012-3013 3020 3036-3037 303E-303F 3190-3191
    3196-319F 31C0-31E5 31EF 3200-321E 322A-3247 3250 3260-327F 328A-32B0 32C0-33FF 4DC0-4DFF
    A490-A4C6 A828-A82B A836-A837 A839 AA77-AA79 FD40-FD4F FDCF FDFD-FDFF FFE4 FFE8 FFED-FFEE
    FFFC-FFFD 10137-1013F 10179-10189 1018C-1018E 10190-1019C 101A0 101D0-101FC 10877-10878 10AC8
    1173F 11FD5-11FDC 11FE1-11FF1 16B3C-16B3F 16B45 1BC9C 1CC00-1CCEF 1CD00-1CEB3 1CF50-1CFC3
    1D000-1D0F5 1D100-1D126 1D129-1D164 1D16A-1D16C 1D183-1D184 1D18C-1D1A9 1D1AE-1D1EA
    1D200-1D241 1D245 1D300-1D356 1D800-1D9FF 1DA37-1DA3A 1DA6D-1DA74 1DA76-1DA83 1DA85-1DA86
    1E14F 1ECAC 1ED2E 1F000-1F02B 1F030-1F093 1F0A0-1F0AE 1F0B1-1F0BF 1F0C1-1F0CF 1F0D1-1F0F5
    1F10D-1F1AD 1F1E6-1F202 1F210-1F23B 1F240-1F248 1F250-1F251 1F260-1F265 1F300-1F3FA
    1F400-1F6D7 1F6DC-1F6EC 1F6F0-1F6FC 1F700-1F776 1F77B-1F7D9 1F7E0-1F7EB 1F7F0 1F800-1F80B
    1F810-1F847 1F850-1F859 1F860-1F887 1F890-1F8AD 1F8B0-1F8BB 1F8C0-1F8C1 1F900-1FA53
    1FA60-1FA6D 1FA70-1FA7C 1FA80-1FA89 1FA8F-1FAC6 1FACE-1FADC 1FADF-1FAE9 1FAF0-1FAF8
    1FB00-1FB92 1FB94-1FBEF"⟩

end Traversal.Text
