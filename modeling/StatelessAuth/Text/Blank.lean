/-
Characters that a reader passes over at the two ends of a text.

Two classes are in use. `isWhiteSpace` is the Unicode property White_Space;
`isBlank` adds the four information separators U+001C to U+001F, which
only delimit text as well. `trim` takes the class as its argument.
-/

namespace StatelessAuth.Text

/-- The Unicode property White_Space. -/
def isWhiteSpace (c : Char) : Bool :=
  let n := c.toNat
  (9 ≤ n && n ≤ 13) || n == 0x20 || n == 0x85 || n == 0xA0 || n == 0x1680
    || (0x2000 ≤ n && n ≤ 0x200A) || n == 0x2028 || n == 0x2029
    || n == 0x202F || n == 0x205F || n == 0x3000

/-- White space, and the information separators. -/
def isBlank (c : Char) : Bool :=
  isWhiteSpace c || (0x1C ≤ c.toNat && c.toNat ≤ 0x1F)

/-- The text without its longest run of characters of the class at either
end. -/
def trimChars (inClass : Char → Bool) (text : List Char) : List Char :=
  ((text.dropWhile inClass).reverse.dropWhile inClass).reverse

def trim (inClass : Char → Bool) (text : String) : String :=
  String.ofList (trimChars inClass text.toList)

end StatelessAuth.Text
