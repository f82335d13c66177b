import RecordSynth.Json.Reader
import RecordSynth.Yaml.Cursor
import RecordSynth.Yaml.Token
/-!
# Anchors, tags and directives

The properties that may stand in front of a node, and the lines in front of a document that set the
version of YAML or give tag handles a meaning. Escapes in tags give octets, which have to follow the
pattern of UTF-8 but need not be text.
-/

namespace RecordSynth.Yaml

/-- The octets of characters. -/
def octetsOf (s : List Char) : Octets := (String.ofList s).toUTF8.toList

/-- The characters that may follow a name without a blank. -/
def endsName : List Char → Bool
  | [] => true
  | c :: _ => isBlank c || isBreak c || "?:,]\x7d%@`".toList.contains c

/-- Reads the name behind the mark of an anchor or a reference. -/
def readName (c : Cursor) : Option (String × Cursor) :=
  let name := c.rest.takeWhile isWordChar
  let c := c.skip name.length
  if name ≠ [] ∧ endsName c.rest then some (String.ofList name, c) else none

/-! ## Tags -/

/-- The characters of a tag. Those that also mark the structure of a document are for tags that are
written in full. -/
def isTagChar (full : Bool) (c : Char) : Bool :=
  isWordChar c || ";/?:@&=+$.%!~*'()".toList.contains c || full && ",[]".toList.contains c

/-- The number of octets of the character that starts with an octet. -/
def sequenceLength (octet : Nat) : Nat :=
  if octet < 0x80 then 1
  else if octet < 0xC0 then 0
  else if octet < 0xE0 then 2
  else if octet < 0xF0 then 3
  else if octet < 0xF8 then 4
  else 0

/-- Reads one escaped octet. -/
def readOctet : List Char → Option (Nat × List Char)
  | '%' :: a :: b :: r => do some ((← Json.hexValue? a) * 16 + (← Json.hexValue? b), r)
  | _ => none

/-- Reads `n` escaped octets that continue a character. -/
def readContinuation : Nat → List Char → Option (Octets × List Char)
  | 0, s => some ([], s)
  | n + 1, s => do
    let (octet, r) ← readOctet s
    if octet / 64 = 2 then
      let (more, r) ← readContinuation n r
      some (octet.toUInt8 :: more, r)
    else none

/-- Reads the octets of one escaped character. -/
def readEscapes (s : List Char) : Option (Octets × List Char) := do
  let (octet, r) ← readOctet s
  match sequenceLength octet with
  | 0 => none
  | n + 1 =>
    let (more, r) ← readContinuation n r
    some (octet.toUInt8 :: more, r)

/-- Reads the characters of a tag with a budget. -/
def readTagChars (full : Bool) : Nat → List Char → Option (Octets × List Char)
  | 0, _ => none
  | fuel + 1, s =>
    match s with
    | [] => some ([], [])
    | c :: r =>
      if c = '%' then do
        let (octets, r) ← readEscapes s
        let (more, r) ← readTagChars full fuel r
        some (octets ++ more, r)
      else if isTagChar full c then do
        let (more, r) ← readTagChars full fuel r
        some (octetsOf [c] ++ more, r)
      else some ([], s)

/-- Reads the characters of a tag: its octets up to the first zero, the number of characters, and
where they end. -/
def readTagText (full : Bool) (c : Cursor) : Option (Octets × Nat × Cursor) := do
  let (octets, r) ← readTagChars full (c.rest.length + 1) c.rest
  let n := c.rest.length - r.length
  some (octets.takeWhile (· ≠ 0), n, c.skip n)

/-- The characters of a tag handle at the front of a text: an exclamation mark, word characters and
a second exclamation mark if there is one. -/
def tagHandle : List Char → Option (List Char)
  | '!' :: r =>
    let word := r.takeWhile isWordChar
    match r.drop word.length with
    | '!' :: _ => some ('!' :: word ++ ['!'])
    | _ => some ('!' :: word)
  | _ => none

/-- Whether characters are a handle with two exclamation marks. -/
def isNamedHandle (h : List Char) : Bool := 1 < h.length && h.getLast? == some '!'

/-- Reads a tag, written in full between angle brackets or as a handle and a suffix. A lone
exclamation mark is a tag of its own, without a handle. -/
def readTag (flow : Bool) (c : Cursor) : Option (Token × Cursor) := do
  let (handle, suffix, c) ← match c.rest with
    | '!' :: '<' :: _ => do
      let (suffix, n, c) ← readTagText true (c.skip 2)
      if n = 0 ∨ c.rest.head? ≠ some '>' then none else some ([], suffix, c.skip 1)
    | _ => do
      let head ← tagHandle c.rest
      let (suffix, n, c) ← readTagText false (c.skip head.length)
      if isNamedHandle head then
        if n = 0 then none else some (octetsOf head, suffix, c)
      else
        let suffix := octetsOf head.tail ++ suffix
        some (if suffix = [] then ([], octetsOf ['!'], c) else (octetsOf ['!'], suffix, c))
  if startsBlank c.rest ∨ flow ∧ c.rest.head? = some ',' then some (.tag handle suffix, c) else none

/-! ## Directives -/

/-- Reads a number of at most nine digits. -/
def readShortNumber (c : Cursor) : Option (Nat × Cursor) :=
  let ds := c.rest.takeWhile Char.isDigit
  if ds = [] ∨ 9 < ds.length then none
  else some (ds.foldl (fun n d => n * 10 + (d.toNat - '0'.toNat)) 0, c.skip ds.length)

/-- Reads the version behind the name of its directive. -/
def readVersion (c : Cursor) : Option (Token × Cursor) := do
  let (major, c) ← readShortNumber (c.skipWhile isBlank)
  if c.rest.head? ≠ some '.' then none
  else
    let (minor, c) ← readShortNumber (c.skip 1)
    some (.version major minor, c)

/-- Reads a handle and what it stands for behind the name of their directive. -/
def readHandle (c : Cursor) : Option (Token × Cursor) := do
  let c := c.skipWhile isBlank
  let name ← tagHandle c.rest
  let c := c.skip name.length
  if name ≠ ['!'] ∧ !isNamedHandle name ∨ !(c.rest.head?.map isBlank).getD false then none
  else
    let (start, n, c) ← readTagText true (c.skipWhile isBlank)
    if n = 0 ∨ !startsBlank c.rest then none else some (.handle (octetsOf name) start, c)

/-- Reads a directive with the rest of its line. -/
def readDirective (c : Cursor) : Option (Token × Cursor) := do
  let c := c.skip 1
  let name := c.rest.takeWhile isWordChar
  let c := c.skip name.length
  if !startsBlank c.rest then none
  else
    let (token, c) ← match String.ofList name with
      | "YAML" => readVersion c
      | "TAG" => readHandle c
      | _ => none
    some (token, ← c.finishLine)

end RecordSynth.Yaml
