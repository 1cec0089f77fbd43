/-!
# Blanks in lines of text

The wire and grid layouts separate words by the characters that Unicode calls `White_Space`. The
script language has blanks of its own, which are bytes (`Byte.isBlank`).

* `Blank.words` cuts a text into its words.
* `Blank.trim` takes the blanks off both ends.
-/

namespace GridScript.Blank

/-- **A blank**: a character with the property `White_Space`. The separators U+001C to U+001F, the
zero width space U+200B and the byte order mark U+FEFF are not among them. -/
def isBlank (c : Char) : Bool :=
  let n := c.toNat
  (9 ≤ n && n ≤ 13) || n == 0x20 || n == 0x85 || n == 0xA0 || n == 0x1680 ||
    (0x2000 ≤ n && n ≤ 0x200A) || n == 0x2028 || n == 0x2029 || n == 0x202F || n == 0x205F ||
    n == 0x3000

/-- The characters with those at the end for which `p` holds taken off. -/
def dropAtEnd (p : Char → Bool) (cs : List Char) : List Char :=
  (cs.reverse.dropWhile p).reverse

/-- The characters without the blanks at both ends. -/
def trimChars (cs : List Char) : List Char :=
  dropAtEnd isBlank (cs.dropWhile isBlank)

/-- **A text without the blanks at both ends.** -/
def trim (s : String) : String :=
  String.ofList (trimChars s.toList)

/-- The words among the characters: the longest runs without a blank, in order. -/
def wordsOfChars (cs : List Char) : List (List Char) :=
  (cs.splitOnP isBlank).filter (!·.isEmpty)

/-- **The words of a text**, in order. -/
def words (s : String) : List String :=
  (wordsOfChars s.toList).map String.ofList

end GridScript.Blank
