/-! # White space

The characters with the Unicode property White_Space, and trimming by it. Zero-width space and the
byte order mark do not have the property. -/

namespace Traversal.Text

/-- The property White_Space, which holds of 25 characters. -/
def isBlank (c : Char) : Bool :=
  (0x9 ≤ c.toNat && c.toNat ≤ 0xD) || c.toNat == 0x20 || c.toNat == 0x85 || c.toNat == 0xA0
    || c.toNat == 0x1680 || (0x2000 ≤ c.toNat && c.toNat ≤ 0x200A) || c.toNat == 0x2028
    || c.toNat == 0x2029 || c.toNat == 0x202F || c.toNat == 0x205F || c.toNat == 0x3000

/-- Drops white space at both ends. -/
def trimChars (cs : List Char) : List Char :=
  ((cs.dropWhile isBlank).reverse.dropWhile isBlank).reverse

def trim (s : String) : String :=
  String.ofList (trimChars s.toList)

end Traversal.Text
