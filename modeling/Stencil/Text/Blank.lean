/-!
# White space

White space is the Unicode property of that name. Trimming removes it from the ends of a text.
-/

namespace Stencil.Text

/-- The characters of the Unicode property White_Space. -/
def isBlank (c : Char) : Bool :=
  let n := c.toNat
  (9 ≤ n && n ≤ 13) || n == 0x20 || n == 0x85 || n == 0xA0 || n == 0x1680 ||
    (0x2000 ≤ n && n ≤ 0x200A) || n == 0x2028 || n == 0x2029 || n == 0x202F || n == 0x205F ||
    n == 0x3000

/-- Drops white space from the front. -/
def trimStart (text : List Char) : List Char := text.dropWhile isBlank

/-- Drops white space from the end. -/
def trimEnd (text : List Char) : List Char := (text.reverse.dropWhile isBlank).reverse

/-- Drops white space from both ends. -/
def trim (text : List Char) : List Char := trimEnd (trimStart text)

/-- The same for strings. -/
def trimmed (text : String) : String := String.ofList (trim text.toList)

end Stencil.Text
