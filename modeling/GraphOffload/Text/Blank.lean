/-!
# Blank characters

## Main definitions

* `GraphOffload.Text.isBlank` : the characters with the Unicode property of white space.
* `GraphOffload.Text.dropBlanks` : a text without the blanks it starts with.
-/

namespace GraphOffload.Text

/-- The characters with the Unicode property of white space. -/
def isBlank (c : Char) : Bool :=
  let n := c.toNat
  (9 ≤ n && n ≤ 13) || n = 0x20 || n = 0x85 || n = 0xA0 || n = 0x1680 ||
    (0x2000 ≤ n && n ≤ 0x200A) || n = 0x2028 || n = 0x2029 || n = 0x202F || n = 0x205F || n = 0x3000

/-- The text without the blanks it starts with. -/
def dropBlanks (text : List Char) : List Char :=
  text.dropWhile isBlank

end GraphOffload.Text
