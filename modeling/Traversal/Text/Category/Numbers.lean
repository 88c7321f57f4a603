import Traversal.Text.Property

/-! # Numbers by general category

Each general category with its names and its code points. -/

namespace Traversal.Text

/-- The decimal digits. -/
def decimalDigits : Property :=
  ⟨["nd", "decimalnumber", "digit"],
   "30-39 660-669 6F0-6F9 7C0-7C9 966-96F 9E6-9EF A66-A6F AE6-AEF B66-B6F BE6-BEF C66-C6F CE6-CEF
    D66-D6F DE6-DEF E50-E59 ED0-ED9 F20-F29 1040-1049 1090-1099 17E0-17E9 1810-1819 1946-194F
    19D0-19D9 1A80-1A89 1A90-1A99 1B50-1B59 1BB0-1BB9 1C40-1C49 1C50-1C59 A620-A629 A8D0-A8D9
    A900-A909 A9D0-A9D9 A9F0-A9F9 AA50-AA59 ABF0-ABF9 FF10-FF19 104A0-104A9 10D30-10D39
    10D40-10D49 11066-1106F 110F0-110F9 11136-1113F 111D0-111D9 112F0-112F9 11450-11459
    114D0-114D9 11650-11659 116C0-116C9 116D0-116E3 11730-11739 118E0-118E9 11950-11959
    11BF0-11BF9 11C50-11C59 11D50-11D59 11DA0-11DA9 11F50-11F59 16130-16139 16A60-16A69
    16AC0-16AC9 16B50-16B59 16D70-16D79 1CCF0-1CCF9 1D7CE-1D7FF 1E140-1E149 1E2F0-1E2F9
    1E4F0-1E4F9 1E5F1-1E5FA 1E950-1E959 1FBF0-1FBF9"⟩

/-- The numbers that are letters. -/
def letterNumbers : Property :=
  ⟨["nl", "letternumber"],
   "16EE-16F0 2160-2182 2185-2188 3007 3021-3029 3038-303A A6E6-A6EF 10140-10174 10341 1034A
    103D1-103D5 12400-1246E"⟩

/-- The other numbers. -/
def otherNumbers : Property :=
  ⟨["no", "othernumber"],
   "B2-B3 B9 BC-BE 9F4-9F9 B72-B77 BF0-BF2 C78-C7E D58-D5E D70-D78 F2A-F33 1369-137C 17F0-17F9
    19DA 2070 2074-2079 2080-2089 2150-215F 2189 2460-249B 24EA-24FF 2776-2793 2CFD 3192-3195
    3220-3229 3248-324F 3251-325F 3280-3289 32B1-32BF A830-A835 10107-10133 10175-10178
    1018A-1018B 102E1-102FB 10320-10323 10858-1085F 10879-1087F 108A7-108AF 108FB-108FF
    10916-1091B 109BC-109BD 109C0-109CF 109D2-109FF 10A40-10A48 10A7D-10A7E 10A9D-10A9F
    10AEB-10AEF 10B58-10B5F 10B78-10B7F 10BA9-10BAF 10CFA-10CFF 10E60-10E7E 10F1D-10F26
    10F51-10F54 10FC5-10FCB 11052-11065 111E1-111F4 1173A-1173B 118EA-118F2 11C5A-11C6C
    11FC0-11FD4 16B5B-16B61 16E80-16E96 1D2C0-1D2D3 1D2E0-1D2F3 1D360-1D378 1E8C7-1E8CF
    1EC71-1ECAB 1ECAD-1ECAF 1ECB1-1ECB4 1ED01-1ED2D 1ED2F-1ED3D 1F100-1F10C"⟩

end Traversal.Text
