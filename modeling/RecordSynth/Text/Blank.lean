/-!
# Blank characters

The white space of Unicode (property `White_Space`) and the trimming of text by it. Every reader of
names and settings in the library uses this one notion of a blank.
-/

namespace RecordSynth.Text

/-- The characters of the Unicode property `White_Space`. -/
def isBlank (c : Char) : Bool :=
  let n := c.toNat
  (0x09 ≤ n && n ≤ 0x0D) || n == 0x20 || n == 0x85 || n == 0xA0 || n == 0x1680 ||
    (0x2000 ≤ n && n ≤ 0x200A) || n == 0x2028 || n == 0x2029 || n == 0x202F || n == 0x205F ||
    n == 0x3000

/-- The text without the blanks in front. -/
def dropBlank (s : List Char) : List Char := s.dropWhile isBlank

/-- The text without the blanks at its end. -/
def dropBlankEnd (s : List Char) : List Char := (s.reverse.dropWhile isBlank).reverse

/-- The text without the blanks at both ends. -/
def trimChars (s : List Char) : List Char := dropBlankEnd (dropBlank s)

/-- The text without the blanks at both ends. -/
def trim (s : String) : String := String.ofList (trimChars s.toList)

/-- Whether a text has no character that is not blank. -/
def allBlank (s : String) : Bool := s.toList.all isBlank

/-- The text with the letters `A` to `Z` made small and all else kept. -/
def lowerAscii (s : String) : String := String.ofList (s.toList.map Char.toLower)

/-- Equality up to the case of the letters `A` to `Z`. -/
def equalIgnoringCase (a b : String) : Bool := lowerAscii a == lowerAscii b

theorem length_dropBlank_le (s : List Char) : (dropBlank s).length ≤ s.length := by
  simpa [dropBlank] using (List.dropWhile_sublist isBlank (l := s)).length_le

example : trim " \t a b\u3000\n" = "a b" := by decide
example : trim "\u200bx" = "\u200bx" := by decide

end RecordSynth.Text
