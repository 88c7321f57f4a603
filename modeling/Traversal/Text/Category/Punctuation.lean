import Traversal.Text.Property

/-! # Punctuation by general category

Each general category with its names and its code points. -/

namespace Traversal.Text

/-- The connectors. -/
def connectors : Property :=
  ⟨["pc", "connectorpunctuation"], "5F 203F-2040 2054 FE33-FE34 FE4D-FE4F FF3F"⟩

/-- The dashes. -/
def dashes : Property :=
  ⟨["pd", "dashpunctuation"],
   "2D 58A 5BE 1400 1806 2010-2015 2E17 2E1A 2E3A-2E3B 2E40 2E5D 301C 3030 30A0 FE31-FE32 FE58
    FE63 FF0D 10D6E 10EAD"⟩

/-- The opening punctuation. -/
def openings : Property :=
  ⟨["ps", "openpunctuation"],
   "28 5B 7B F3A F3C 169B 201A 201E 2045 207D 208D 2308 230A 2329 2768 276A 276C 276E 2770 2772
    2774 27C5 27E6 27E8 27EA 27EC 27EE 2983 2985 2987 2989 298B 298D 298F 2991 2993 2995 2997 29D8
    29DA 29FC 2E22 2E24 2E26 2E28 2E42 2E55 2E57 2E59 2E5B 3008 300A 300C 300E 3010 3014 3016 3018
    301A 301D FD3F FE17 FE35 FE37 FE39 FE3B FE3D FE3F FE41 FE43 FE47 FE59 FE5B FE5D FF08 FF3B FF5B
    FF5F FF62"⟩

/-- The closing punctuation. -/
def closings : Property :=
  ⟨["pe", "closepunctuation"],
   "29 5D 7D F3B F3D 169C 2046 207E 208E 2309 230B 232A 2769 276B 276D 276F 2771 2773 2775 27C6
    27E7 27E9 27EB 27ED 27EF 2984 2986 2988 298A 298C 298E 2990 2992 2994 2996 2998 29D9 29DB 29FD
    2E23 2E25 2E27 2E29 2E56 2E58 2E5A 2E5C 3009 300B 300D 300F 3011 3015 3017 3019 301B 301E-301F
    FD3E FE18 FE36 FE38 FE3A FE3C FE3E FE40 FE42 FE44 FE48 FE5A FE5C FE5E FF09 FF3D FF5D FF60 FF63"⟩

/-- The initial quotes. -/
def initialQuotes : Property :=
  ⟨["pi", "initialpunctuation"], "AB 2018 201B-201C 201F 2039 2E02 2E04 2E09 2E0C 2E1C 2E20"⟩

/-- The final quotes. -/
def finalQuotes : Property :=
  ⟨["pf", "finalpunctuation"], "BB 2019 201D 203A 2E03 2E05 2E0A 2E0D 2E1D 2E21"⟩

/-- The other punctuation. -/
def otherPunctuation : Property :=
  ⟨["po", "otherpunctuation"],
   "21-23 25-27 2A 2C 2E-2F 3A-3B 3F-40 5C A1 A7 B6-B7 BF 37E 387 55A-55F 589 5C0 5C3 5C6 5F3-5F4
    609-60A 60C-60D 61B 61D-61F 66A-66D 6D4 700-70D 7F7-7F9 830-83E 85E 964-965 970 9FD A76 AF0
    C77 C84 DF4 E4F E5A-E5B F04-F12 F14 F85 FD0-FD4 FD9-FDA 104A-104F 10FB 1360-1368 166E
    16EB-16ED 1735-1736 17D4-17D6 17D8-17DA 1800-1805 1807-180A 1944-1945 1A1E-1A1F 1AA0-1AA6
    1AA8-1AAD 1B4E-1B4F 1B5A-1B60 1B7D-1B7F 1BFC-1BFF 1C3B-1C3F 1C7E-1C7F 1CC0-1CC7 1CD3 2016-2017
    2020-2027 2030-2038 203B-203E 2041-2043 2047-2051 2053 2055-205E 2CF9-2CFC 2CFE-2CFF 2D70
    2E00-2E01 2E06-2E08 2E0B 2E0E-2E16 2E18-2E19 2E1B 2E1E-2E1F 2E2A-2E2E 2E30-2E39 2E3C-2E3F 2E41
    2E43-2E4F 2E52-2E54 3001-3003 303D 30FB A4FE-A4FF A60D-A60F A673 A67E A6F2-A6F7 A874-A877
    A8CE-A8CF A8F8-A8FA A8FC A92E-A92F A95F A9C1-A9CD A9DE-A9DF AA5C-AA5F AADE-AADF AAF0-AAF1 ABEB
    FE10-FE16 FE19 FE30 FE45-FE46 FE49-FE4C FE50-FE52 FE54-FE57 FE5F-FE61 FE68 FE6A-FE6B FF01-FF03
    FF05-FF07 FF0A FF0C FF0E-FF0F FF1A-FF1B FF1F-FF20 FF3C FF61 FF64-FF65 10100-10102 1039F 103D0
    1056F 10857 1091F 1093F 10A50-10A58 10A7F 10AF0-10AF6 10B39-10B3F 10B99-10B9C 10F55-10F59
    10F86-10F89 11047-1104D 110BB-110BC 110BE-110C1 11140-11143 11174-11175 111C5-111C8 111CD
    111DB 111DD-111DF 11238-1123D 112A9 113D4-113D5 113D7-113D8 1144B-1144F 1145A-1145B 1145D
    114C6 115C1-115D7 11641-11643 11660-1166C 116B9 1173C-1173E 1183B 11944-11946 119E2
    11A3F-11A46 11A9A-11A9C 11A9E-11AA2 11B00-11B09 11BE1 11C41-11C45 11C70-11C71 11EF7-11EF8
    11F43-11F4F 11FFF 12470-12474 12FF1-12FF2 16A6E-16A6F 16AF5 16B37-16B3B 16B44 16D6D-16D6F
    16E97-16E9A 16FE2 1BC9F 1DA87-1DA8B 1E5FF 1E95E-1E95F"⟩

end Traversal.Text
