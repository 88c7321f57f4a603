import Traversal.Text.CharSet

/-! # Ranges of bytes

The UTF-8 forms of a span of characters are the words of a few sequences of byte ranges. A sequence
is cut where a byte that is not the last would have to range while a later byte does not take all
its values. -/

namespace Traversal.Text

structure ByteRange where
  first : Nat
  last : Nat
deriving DecidableEq, Repr, Hashable

/-- The sequences for numbers from `first` to `last` that take a first byte, which counts from
`base`, and the given number of further bytes of six bits each. -/
def byteSequences (base : Nat) : Nat → Nat → Nat → List (List ByteRange)
  | 0, first, last => [[⟨base + first, base + last⟩]]
  | more + 1, first, last =>
    let unit := Nat.pow 64 (more + 1)
    let below (lead first last : Nat) : List (List ByteRange) :=
      (byteSequences 0x80 more first last).map (⟨base + lead, base + lead⟩ :: ·)
    let low := first / unit
    let high := last / unit
    if low = high then below low (first % unit) (last % unit)
    else
      let wholeLow := if first % unit = 0 then low else low + 1
      let wholeHigh := if last % unit = unit - 1 then high + 1 else high
      let head := if first % unit = 0 then [] else below low (first % unit) (unit - 1)
      let whole :=
        if wholeLow < wholeHigh then
          [⟨base + wholeLow, base + wholeHigh - 1⟩ :: List.replicate (more + 1) ⟨0x80, 0xBF⟩]
        else []
      let tail := if last % unit = unit - 1 then [] else below high 0 (last % unit)
      head ++ whole ++ tail

/-- The sequences for the code points from `first` to `last` among those from `low` to `high`. -/
def byteSequencesWithin (base more low high first last : Nat) : List (List ByteRange) :=
  let first := max first low
  let last := min last high
  if first ≤ last then byteSequences base more first last else []

/-- The sequences for a span of characters, in order. -/
def Span.byteSequences (s : Span) : List (List ByteRange) :=
  let first := codeOfNumber s.first
  let last := codeOfNumber s.last
  byteSequencesWithin 0 0 0 0x7F first last
    ++ byteSequencesWithin 0xC0 1 0x80 0x7FF first last
    ++ byteSequencesWithin 0xE0 2 0x800 0xD7FF first last
    ++ byteSequencesWithin 0xE0 2 0xE000 0xFFFF first last
    ++ byteSequencesWithin 0xF0 3 0x10000 0x10FFFF first last

def CharSet.byteSequences (set : CharSet) : List (List ByteRange) :=
  set.spans.toList.flatMap Span.byteSequences

end Traversal.Text
