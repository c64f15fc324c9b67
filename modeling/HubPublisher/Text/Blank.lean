/-!
White space: the characters with the Unicode property White_Space, and trimming by them.

A text that holds nothing but white space counts as blank. Settings treat a blank value as an
absent one, and a blank correlation id is replaced by a fresh one, so both rest on this module.
-/
namespace HubPublisher.Text

/-- The characters with the Unicode property White_Space. -/
def isBlankChar (c : Char) : Bool :=
  let n := c.toNat
  (9 ≤ n && n ≤ 13) || n == 0x20 || n == 0x85 || n == 0xA0 || n == 0x1680
    || (0x2000 ≤ n && n ≤ 0x200A) || n == 0x2028 || n == 0x2029 || n == 0x202F
    || n == 0x205F || n == 0x3000

/-- The characters left when the leading members of a class are dropped at both ends. -/
def trimBy (p : Char → Bool) (cs : List Char) : List Char :=
  ((cs.dropWhile p).reverse.dropWhile p).reverse

/-- The text without leading and trailing white space. -/
def trim (s : String) : String := String.ofList (trimBy isBlankChar s.toList)

/-- A text is blank when every character of it is white space; the empty text is blank. -/
def isBlank (s : String) : Bool := s.toList.all isBlankChar

end HubPublisher.Text
