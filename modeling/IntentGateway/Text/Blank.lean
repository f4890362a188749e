import IntentGateway.Text.Ranges

/-! # White space and blanks

Two classes of empty-looking characters occur. *White space* is the Unicode property of that name,
25 characters; integers are read with white space around them. *Blanks* are white space and the four
information separators U+001C to U+001F; addresses and amounts are read with blanks around them.
-/

namespace IntentGateway.Text

/-- The code points of white space. -/
def spaceRanges : List (Nat × Nat) :=
  [(0x09, 0x0D), (0x20, 0x20), (0x85, 0x85), (0xA0, 0xA0), (0x1680, 0x1680), (0x2000, 0x200A),
    (0x2028, 0x2029), (0x202F, 0x202F), (0x205F, 0x205F), (0x3000, 0x3000)]

/-- White space: the 25 characters of the Unicode property. -/
def isSpace (c : Char) : Bool :=
  inRanges spaceRanges c.toNat

/-- A blank is white space or an information separator. -/
def isBlank (c : Char) : Bool :=
  isSpace c || inRanges [(0x1C, 0x1F)] c.toNat

/-- The six white space characters of ASCII. -/
def isAsciiSpace (c : Char) : Bool :=
  inRanges [(0x09, 0x0D), (0x20, 0x20)] c.toNat

/-- The text without the leading and trailing characters of a class. -/
def stripOf (class? : Char → Bool) (text : List Char) : List Char :=
  ((text.dropWhile class?).reverse.dropWhile class?).reverse

/-- The text without the blanks around it. -/
def strip (text : List Char) : List Char :=
  stripOf isBlank text

end IntentGateway.Text
