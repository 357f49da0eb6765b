/-! Blank characters: Unicode's White_Space property, and the trimming of texts by it. -/

namespace ImageHeader.Blank

/-- The ranges of code points with the White_Space property, in ascending order. -/
def ranges : List (Nat × Nat) :=
  [(0x09, 0x0D), (0x20, 0x20), (0x85, 0x85), (0xA0, 0xA0), (0x1680, 0x1680), (0x2000, 0x200A),
    (0x2028, 0x2029), (0x202F, 0x202F), (0x205F, 0x205F), (0x3000, 0x3000)]

/-- Whether a character has the White_Space property. -/
def isBlank (char : Char) : Bool :=
  ranges.any fun (first, last) => first ≤ char.toNat && char.toNat ≤ last

/-- The characters without those at the end that satisfy a test. -/
def dropTrailing (test : Char → Bool) (chars : List Char) : List Char :=
  (chars.reverse.dropWhile test).reverse

/-- The characters without blank ones at either end. -/
def trimChars (chars : List Char) : List Char :=
  -- Blanks between other characters stay.
  dropTrailing isBlank (chars.dropWhile isBlank)

/-- The text without blank characters at either end. -/
def trim (text : String) : String :=
  String.ofList (trimChars text.toList)

end ImageHeader.Blank
