import RecordSynth.Json
import RecordSynth.Yaml.Cursor
import RecordSynth.Yaml.Plain
/-!
# Writing YAML

A value as a YAML document in block style. A text is written plain if it then reads back as a text;
otherwise between single quotes, and between double quotes if it has a character that needs an
escape or blanks that folding would lose. A text of several lines is a literal block.
-/

namespace RecordSynth.Yaml

/-! ## The form of a text -/

/-- Whether a character is written as it is between double quotes and in blocks. -/
def isPrintable (c : Char) : Bool :=
  let n := c.toNat
  n == 0x0A || (0x20 ≤ n && n ≤ 0x7E) || (0xA0 ≤ n && n ≤ 0xD7FF) ||
    (0xE000 ≤ n && n ≤ 0xFFFD && n ≠ 0xFEFF) || 0x10000 ≤ n

/-- Whether some character that passes one test is directly in front of one that passes another. -/
def hasPair (p q : Char → Bool) : List Char → Bool
  | a :: b :: s => p a && q b || hasPair p q (b :: s)
  | _ => false

/-- The characters that may not start a plain scalar. -/
def isIndicator (c : Char) : Bool := "#,[]\x7b\x7d&*!|>'\"%@`".toList.contains c

/-- Whether a text would be taken for something else at its start. -/
def startsMarked (s : List Char) : Bool :=
  match s with
  | [] => false
  | c :: r =>
    isIndicator c || "?:-".toList.contains c && startsBlank r ||
      ['-', '-', '-'].isPrefixOf s || ['.', '.', '.'].isPrefixOf s

/-- Whether a text has a colon or a comment mark that would end it. -/
def isCutShort : List Char → Bool
  | [] => false
  | c :: r =>
    c == ':' && startsBlank r || (isBlank c || isBreak c) && r.head? == some '#' || isCutShort r

/-- Whether a test holds of the first or the last character of a text. -/
def atEdge (p : Char → Bool) (s : List Char) : Bool := s.head?.any p || s.getLast?.any p

/-- Whether a text needs escapes: it has a character that would not be seen, or a blank at the end
of a line. -/
def needsEscapes (s : List Char) : Bool :=
  !s.all isPrintable || hasPair (· == ' ') isBreak s

/-- Whether a text may be written plain. -/
def allowsPlain (s : List Char) : Bool :=
  !needsEscapes s && !s.any isBreak && !atEdge (· == ' ') s && !startsMarked s && !isCutShort s

/-- Whether a text may be written between single quotes. -/
def allowsSingle (s : List Char) : Bool := !needsEscapes s && !hasPair isBreak (· == ' ') s

/-- Whether a text may be written as a block. -/
def allowsBlock (s : List Char) : Bool := !needsEscapes s && s.getLast? != some ' '

/-- Whether a text would be read as a text if it were written plain. -/
def readsAsText (s : String) : Bool :=
  !hasLeadingZero s.toList &&
    match plainValue? s with
    | some (.text _) => true
    | _ => false

/-- The style in which a text is written. -/
def styleOf (s : String) : ScalarStyle :=
  let cs := s.toList
  if cs.contains '\n' then if allowsBlock cs then .literal else .doubleQuoted
  else if readsAsText s && allowsPlain cs then .plain
  else if allowsSingle cs then .singleQuoted
  else .doubleQuoted

/-! ## Scalars -/

/-- Blanks. -/
def pad (n : Nat) : List Char := List.replicate n ' '

/-- A text with its lines moved to a column and its line ends kept; `breaks` says whether a line
starts in front of it. -/
def indented (indent : Nat) (breaks : Bool) (write : Char → List Char) : List Char → List Char
  | [] => []
  | c :: s =>
    if isBreak c then c :: indented indent true write s
    else (if breaks then pad indent else []) ++ write c ++ indented indent false write s

/-- A text without line feeds between single quotes. -/
def singleQuoted (indent : Nat) (s : List Char) : List Char :=
  let tail := if s.getLast?.any isBreak then pad indent else []
  '\'' :: indented indent false (fun c => if c = '\'' then ['\'', '\''] else [c]) s ++ tail ++
    ['\'']

/-- A digit of a code. -/
def hexDigit (n : Nat) : Char := if n < 10 then Char.ofNat (0x30 + n) else Char.ofNat (0x37 + n)

/-- A number in a given count of hexadecimal digits. -/
def hexDigits (n : Nat) : Nat → List Char
  | 0 => []
  | width + 1 => hexDigit (n / Nat.pow 16 width % 16) :: hexDigits n width

/-- The escape of a character. -/
def escapeChar (c : Char) : List Char :=
  match c.toNat with
  | 0x00 => ['\\', '0']
  | 0x07 => ['\\', 'a']
  | 0x08 => ['\\', 'b']
  | 0x09 => ['\\', 't']
  | 0x0A => ['\\', 'n']
  | 0x0B => ['\\', 'v']
  | 0x0C => ['\\', 'f']
  | 0x0D => ['\\', 'r']
  | 0x1B => ['\\', 'e']
  | 0x22 => ['\\', '"']
  | 0x5C => ['\\', '\\']
  | 0x85 => ['\\', 'N']
  | 0x2028 => ['\\', 'L']
  | 0x2029 => ['\\', 'P']
  | n =>
    if n ≤ 0xFF then '\\' :: 'x' :: hexDigits n 2
    else if n ≤ 0xFFFF then '\\' :: 'u' :: hexDigits n 4
    else '\\' :: 'U' :: hexDigits n 8

/-- A text between double quotes. -/
def doubleQuoted (s : List Char) : List Char :=
  let write (c : Char) : List Char :=
    if !isPrintable c || isBreak c || c == '"' || c == '\\' then escapeChar c else [c]
  '"' :: s.flatMap write ++ ['"']

/-- The indicators of a block: the indentation if the text does not show it, and what happens to
line ends at its end. -/
def blockIndicators (s : List Char) : List Char :=
  let indentation := if s.head?.any fun c => c == ' ' || isBreak c then ['2'] else []
  let chomping :=
    match s.reverse with
    | [] => ['-']
    | [c] => if isBreak c then ['+'] else ['-']
    | c :: d :: _ => if !isBreak c then ['-'] else if isBreak d then ['+'] else []
  indentation ++ chomping

/-- A text as a literal block. -/
def literal (indent : Nat) (s : List Char) : List Char :=
  '|' :: blockIndicators s ++ '\n' :: indented indent true (fun c => [c]) s

/-- A text with the end of its last line. -/
def writeText (indent : Nat) (s : String) : String :=
  let cs := s.toList
  String.ofList <|
    match styleOf s with
    | .literal | .folded => literal indent cs ++ if cs.getLast?.any isBreak then [] else ['\n']
    | .plain => cs ++ ['\n']
    | .singleQuoted => singleQuoted indent cs ++ ['\n']
    | .doubleQuoted => doubleQuoted cs ++ ['\n']

/-! ## Values -/

/-- Blanks in front of a line. -/
def margin (n : Nat) : String := String.ofList (pad n)

mutual

/-- A value behind a mark in a block at a column, with the end of its last line. Entries of a
mapping behind a dash start on its line; behind a key they start on the next one. -/
def writeValue (column : Nat) (behindDash : Bool) : Json → String
  | .null | .illFormed => " null\n"
  | .bool b => if b then " true\n" else " false\n"
  | .number n => " " ++ n.text ++ "\n"
  | .text s => " " ++ writeText (column + 2) s
  | .array [] => " []\n"
  | .array (v :: vs) =>
    let column := if behindDash then column + 2 else column
    let lead := if behindDash then " " else "\n" ++ margin column
    lead ++ Text.join (margin column) (writeItems column (v :: vs))
  | .object [] => " \x7b\x7d\n"
  | .object (m :: ms) =>
    let column := column + 2
    let lead := if behindDash then " " else "\n" ++ margin column
    lead ++ Text.join (margin column) (writeEntries column (m :: ms))

/-- The items of a sequence at a column. -/
def writeItems (column : Nat) : List Json → List String
  | [] => []
  | v :: vs => ("-" ++ writeValue column true v) :: writeItems column vs

/-- The entries of a mapping at a column; its keys are names that need no quotes. -/
def writeEntries (column : Nat) : List (String × Json) → List String
  | [] => []
  | (k, v) :: ms => (k ++ ":" ++ writeValue column false v) :: writeEntries column ms

end

/-- A value as a document. -/
def write : Json → String
  | .object (m :: ms) => Text.join "" (writeEntries 0 (m :: ms))
  | .array (v :: vs) => Text.join "" (writeItems 0 (v :: vs))
  | j => String.ofList ((writeValue 0 true j).toList.drop 1)

end RecordSynth.Yaml
