/-!
# Blank characters

The characters with the Unicode property `White_Space`, and the trimming that
goes by them.  A text is blank when nothing is left of it after trimming.
-/

namespace PatronGateway
namespace Text

/-- The code points with the Unicode property `White_Space`. -/
def isBlankChar (c : Char) : Bool :=
  let n := c.toNat
  (9 ≤ n && n ≤ 13) || n == 0x20 || n == 0x85 || n == 0xA0 || n == 0x1680 ||
    (0x2000 ≤ n && n ≤ 0x200A) || n == 0x2028 || n == 0x2029 || n == 0x202F ||
    n == 0x205F || n == 0x3000

/-- Drops the blank characters at the front. -/
def trimLeft (cs : List Char) : List Char :=
  cs.dropWhile isBlankChar

/-- Drops the blank characters at the end. -/
def trimRight (cs : List Char) : List Char :=
  (cs.reverse.dropWhile isBlankChar).reverse

/-- Drops the blank characters at both ends. -/
def trim (s : String) : String :=
  String.ofList (trimRight (trimLeft s.toList))

/-- A text that holds blank characters alone. -/
def isBlank (s : String) : Bool :=
  s.toList.all isBlankChar

end Text
end PatronGateway
