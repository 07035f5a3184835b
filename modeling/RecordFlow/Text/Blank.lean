/-!
# Blank — white space and trimming

The blank characters are those with the Unicode property `White_Space`.  `trim` drops them from both
ends of a text.
-/

namespace RecordFlow
namespace Blank

def isBlank (c : Char) : Bool :=
  let n := c.toNat
  (9 ≤ n && n ≤ 13) || n == 0x20 || n == 0x85 || n == 0xa0 || n == 0x1680 ||
    (0x2000 ≤ n && n ≤ 0x200a) || n == 0x2028 || n == 0x2029 || n == 0x202f || n == 0x205f ||
    n == 0x3000

/-- The characters from the first to the last one that is not blank. -/
def trimChars (cs : List Char) : List Char :=
  ((cs.dropWhile isBlank).reverse.dropWhile isBlank).reverse

def trim (text : String) : String := String.ofList (trimChars text.toList)

/-- A text is blank when nothing is left of it. -/
def isBlankText (text : String) : Bool := text.toList.all isBlank

end Blank
end RecordFlow
