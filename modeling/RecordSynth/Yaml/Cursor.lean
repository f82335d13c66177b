/-!
# A place in a YAML text

The rest of a text together with the place where it starts. Lines are counted because an implicit
key must stay on one line, columns because blocks are told apart by indentation, and characters
because an implicit key may not be too long.
-/

namespace RecordSynth.Yaml

/-- Whether a character may occur in a document at all. -/
def isAllowed (c : Char) : Bool :=
  let n := c.toNat
  n == 0x09 || n == 0x0A || n == 0x0D || (0x20 ≤ n && n ≤ 0x7E) || n == 0x85 ||
    (0xA0 ≤ n && n ≤ 0xD7FF) || (0xE000 ≤ n && n ≤ 0xFFFD) || (0x10000 ≤ n && n ≤ 0x10FFFF)

/-- The characters that end a line. -/
def isBreak (c : Char) : Bool :=
  c == '\r' || c == '\n' || c == '\u0085' || c == '\u2028' || c == '\u2029'

/-- A blank or a tab. -/
def isBlank (c : Char) : Bool := c == ' ' || c == '\t'

/-- The characters of names of anchors, directives and tag handles. -/
def isWordChar (c : Char) : Bool := c.isAlphanum || c == '_' || c == '-'

/-- Whether a text starts with a blank or the end of a line, or is at its end. -/
def startsBlank : List Char → Bool
  | [] => true
  | c :: _ => isBlank c || isBreak c

/-- Whether a text starts with the end of a line, or is at its end. -/
def startsBreak : List Char → Bool
  | [] => true
  | c :: _ => isBreak c

/-- Whether a text starts with a line that begins or ends a document. -/
def startsDocumentMark : List Char → Bool
  | '-' :: '-' :: '-' :: r => startsBlank r
  | '.' :: '.' :: '.' :: r => startsBlank r
  | _ => false

/-- The rest of a text, and where it starts. -/
structure Cursor where
  rest : List Char
  index : Nat := 0
  line : Nat := 0
  column : Nat := 0

namespace Cursor

/-- Moves over `n` characters of a line. -/
def skip (c : Cursor) (n : Nat) : Cursor :=
  { c with rest := c.rest.drop n, index := c.index + n, column := c.column + n }

/-- Moves over the characters of a line that pass a test. -/
def skipWhile (p : Char → Bool) (c : Cursor) : Cursor := c.skip (c.rest.takeWhile p).length

/-- Moves over the rest of a line. -/
def skipLine (c : Cursor) : Cursor := c.skipWhile (!isBreak ·)

/-- Moves over the end of a line, if there is one here. -/
def skipBreak (c : Cursor) : Cursor :=
  match c.rest with
  | '\r' :: '\n' :: r => ⟨r, c.index + 2, c.line + 1, 0⟩
  | b :: r => if isBreak b then ⟨r, c.index + 1, c.line + 1, 0⟩ else c
  | [] => c

/-- What the end of a line here stands for: a line feed, or one of the separators of Unicode as it
is. -/
def breakText (c : Cursor) : List Char :=
  match c.rest with
  | b :: _ =>
    if b == '\u2028' || b == '\u2029' then [b] else if isBreak b then ['\n'] else []
  | [] => []

/-- Whether a document mark starts here. -/
def atDocumentMark (c : Cursor) : Bool := c.column == 0 && startsDocumentMark c.rest

/-- Moves over blanks and a comment to the end of the line; there may be nothing else on it. -/
def finishLine (c : Cursor) : Option Cursor :=
  let c := c.skipWhile isBlank
  let c := if c.rest.head? = some '#' then c.skipLine else c
  if startsBreak c.rest then some c.skipBreak else none

end Cursor

end RecordSynth.Yaml
