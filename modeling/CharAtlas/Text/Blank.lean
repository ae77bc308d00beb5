/-! # Blank characters and trimming

`isBlank` is the Unicode property `White_Space`; `trim` drops blank characters from both ends of a
text and leaves those inside alone. -/

namespace CharAtlas.Text

def isBlank (c : Char) : Bool :=
  let n := c.toNat
  (0x09 ≤ n && n ≤ 0x0D) || n == 0x20 || n == 0x85 || n == 0xA0 || n == 0x1680 ||
    (0x2000 ≤ n && n ≤ 0x200A) || n == 0x2028 || n == 0x2029 || n == 0x202F || n == 0x205F ||
    n == 0x3000

def trimEnd (p : Char → Bool) (cs : List Char) : List Char :=
  (cs.reverse.dropWhile p).reverse

/-- The characters of `cs` without the blanks at its ends. -/
def trimmed (cs : List Char) : List Char :=
  trimEnd isBlank (cs.dropWhile isBlank)

def trim (s : String) : String :=
  String.ofList (trimmed s.toList)

/-- The text without the `c`s at its end. -/
def dropTrailing (c : Char) (s : String) : String :=
  String.ofList (trimEnd (· == c) s.toList)

end CharAtlas.Text
