/-! Ranges of code points: the look-up in a table of a property that many scattered characters have. -/

namespace ImageHeader.Ranges

/-- Whether a code point lies in one of the ranges from `low` up to `high`, which is not included. -/
def search (ranges : Array (Nat × Nat)) (code : Nat) : Nat → Nat → Nat → Bool
  | 0, _, _ => false
  | fuel + 1, low, high =>
    -- Halving the stretch finds the only range that can hold the code point.
    if high ≤ low then false
    else
      let middle := (low + high) / 2
      match ranges[middle]? with
      | none => false
      | some (first, last) =>
        if code < first then search ranges code fuel low middle
        else if last < code then search ranges code fuel (middle + 1) high
        else true

/-- Whether a character lies in one of some ascending ranges. -/
def contains (ranges : Array (Nat × Nat)) (char : Char) : Bool :=
  search ranges char.toNat (ranges.size + 1) 0 ranges.size

end ImageHeader.Ranges
