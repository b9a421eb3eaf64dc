/-!
# White space

The characters with the Unicode property `White_Space`, and texts trimmed of them.
-/

namespace ScenarioStubs.Text

/-- The Unicode property `White_Space`. -/
def isWhiteSpace (c : Char) : Bool :=
  let n := c.toNat
  (9 ≤ n && n ≤ 13) || n == 0x20 || n == 0x85 || n == 0xA0 || n == 0x1680 || (0x2000 ≤ n && n ≤ 0x200A) ||
    n == 0x2028 || n == 0x2029 || n == 0x202F || n == 0x205F || n == 0x3000

/-- The list without the longest run of characters with property `p` at either end. -/
def trimBoth (p : Char → Bool) (cs : List Char) : List Char :=
  ((cs.dropWhile p).reverse.dropWhile p).reverse

/-- The list without the white space at its ends. -/
def trim (cs : List Char) : List Char := trimBoth isWhiteSpace cs

end ScenarioStubs.Text
