import RecordSynth.Json
/-!
# Writing JSON

A value as JSON text, on one line or with one item on each line.
-/

namespace RecordSynth

namespace Json

/-- The small hexadecimal digit of a number below sixteen. -/
def hexDigit (n : Nat) : Char := Nat.digitChar n

/-- One character of a text. Quotes, backslashes and controls are escaped, all else stands for
itself. -/
def escapeChar (c : Char) : List Char :=
  match c with
  | '"' => ['\\', '"']
  | '\\' => ['\\', '\\']
  | '\x08' => ['\\', 'b']
  | '\x0c' => ['\\', 'f']
  | '\n' => ['\\', 'n']
  | '\r' => ['\\', 'r']
  | '\t' => ['\\', 't']
  | c =>
    if c.toNat < 0x20 then ['\\', 'u', '0', '0', hexDigit (c.toNat / 16), hexDigit (c.toNat % 16)]
    else [c]

/-- A text between quotes. -/
def writeText (s : String) : String :=
  "\"" ++ String.ofList (s.toList.flatMap escapeChar) ++ "\""

mutual

/-- The value on one line, without blanks. An ill-formed value is written like none at all. -/
def compact : Json → String
  | .null | .illFormed => "null"
  | .bool b => if b then "true" else "false"
  | .number n => n.text
  | .text s => writeText s
  | .array items => "[" ++ Text.join "," (compactItems items) ++ "]"
  | .object members => "\x7b" ++ Text.join "," (compactMembers members) ++ "\x7d"

/-- The items of an array, each on one line. -/
def compactItems : List Json → List String
  | [] => []
  | v :: vs => compact v :: compactItems vs

/-- The members of an object, each on one line. -/
def compactMembers : List (String × Json) → List String
  | [] => []
  | (k, v) :: ms => (writeText k ++ ":" ++ compact v) :: compactMembers ms

end

/-- The blanks in front of a line at the given depth. -/
def indent (depth : Nat) : String := String.ofList (List.replicate (2 * depth) ' ')

mutual

/-- The value with one item or member on each line. -/
def pretty (depth : Nat) : Json → String
  | .null | .illFormed => "null"
  | .bool b => if b then "true" else "false"
  | .number n => n.text
  | .text s => writeText s
  | .array items =>
    match items with
    | [] => "[]"
    | v :: vs =>
      "[\n" ++ Text.join ",\n" (prettyItems (depth + 1) (v :: vs)) ++ "\n" ++ indent depth ++ "]"
  | .object members =>
    match members with
    | [] => "\x7b\x7d"
    | p :: ps =>
      "\x7b\n" ++ Text.join ",\n" (prettyMembers (depth + 1) (p :: ps)) ++ "\n" ++ indent depth ++
        "\x7d"

/-- The items of an array, each on lines of its own. -/
def prettyItems (depth : Nat) : List Json → List String
  | [] => []
  | v :: vs => (indent depth ++ pretty depth v) :: prettyItems depth vs

/-- The members of an object, each on lines of its own. -/
def prettyMembers (depth : Nat) : List (String × Json) → List String
  | [] => []
  | (k, v) :: ms =>
    (indent depth ++ writeText k ++ ": " ++ pretty depth v) :: prettyMembers depth ms

end

end Json

end RecordSynth
