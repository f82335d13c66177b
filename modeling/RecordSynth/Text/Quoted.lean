import RecordSynth.Text.Unprintable
/-!
# Quoted text

Text between double quotes as messages show it: quotes and backslashes are escaped, line breaks and
tabs have their short escapes, and every other character that would not be seen is written as
`\u` with its code in small hexadecimal digits between braces.
-/

namespace RecordSynth.Text

/-- The small hexadecimal digits of a number, without leading zeros. -/
def hexDigits (n : Nat) : List Char := Nat.toDigits 16 n

/-- One character inside a quoted text. -/
def quoteChar (c : Char) : List Char :=
  match c with
  | '\x00' => ['\\', '0']
  | '\t' => ['\\', 't']
  | '\n' => ['\\', 'n']
  | '\r' => ['\\', 'r']
  | '"' => ['\\', '"']
  | '\'' => ['\\', '\'']
  | '\\' => ['\\', '\\']
  | c => if isUnprintable c then ['\\', 'u', '\x7b'] ++ hexDigits c.toNat ++ ['\x7d'] else [c]

/-- A text between double quotes, with what would not be seen escaped. -/
def quoted (s : String) : String :=
  String.ofList ('"' :: s.toList.flatMap quoteChar ++ ['"'])

example : quoted "a\"é\u200b" = "\"a\\\"é\\u\x7b200b\x7d\"" := by decide +kernel

end RecordSynth.Text
