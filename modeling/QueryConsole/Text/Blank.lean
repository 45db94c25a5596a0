/-!
# White space

The characters with the Unicode property White_Space, and the two cuts the console makes at them:
taking them off the ends of a text, and splitting a line after its first word.

## Main definitions

- `Text.isBlank`: the property itself
- `Text.trim`, `Text.trimEnd`: a text without its outer (or trailing) white space
- `Text.splitWord`: the first word of a text and what follows the blank after it
- `Text.lower`: a text with its ASCII capitals made small
-/

namespace QueryConsole

namespace Text

/-- The Unicode property White_Space. The zero-width space and the byte-order mark do not have
it. -/
def isBlank (c : Char) : Bool :=
  let n := c.toNat
  (0x09 ≤ n && n ≤ 0x0D) || n == 0x20 || n == 0x85 || n == 0xA0 || n == 0x1680 ||
    (0x2000 ≤ n && n ≤ 0x200A) || n == 0x2028 || n == 0x2029 || n == 0x202F || n == 0x205F ||
    n == 0x3000

/-- The characters without the blank ones at their end. -/
def trimEndChars (cs : List Char) : List Char :=
  (cs.reverse.dropWhile isBlank).reverse

/-- The characters without the blank ones at either end. -/
def trimChars (cs : List Char) : List Char :=
  trimEndChars (cs.dropWhile isBlank)

/-- A text without white space at its end. -/
def trimEnd (s : String) : String :=
  String.ofList (trimEndChars s.toList)

/-- A text without white space at either end. -/
def trim (s : String) : String :=
  String.ofList (trimChars s.toList)

/-- The characters up to the first blank one, and those after it. -/
def splitWordChars (cs : List Char) : List Char × List Char :=
  (cs.takeWhile (!isBlank ·), (cs.dropWhile (!isBlank ·)).drop 1)

/-- The first word of a text and what follows the blank after it; a text of one word is followed
by the empty text. -/
def splitWord (s : String) : String × String :=
  let (word, rest) := splitWordChars s.toList
  (String.ofList word, String.ofList rest)

/-- A text with the letters `A` to `Z` made small; every other character stays. -/
def lower (s : String) : String :=
  String.ofList (s.toList.map Char.toLower)

end Text

end QueryConsole
