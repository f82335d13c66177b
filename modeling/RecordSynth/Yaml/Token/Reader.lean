import RecordSynth.Yaml.Scalar
import RecordSynth.Yaml.Tag
/-!
# Reading tokens

The tokens of a YAML text. Outside brackets indentation opens and closes blocks. A key without a
mark of its own is known only by the colon behind it, so every place where one may start is
remembered and its token is put in there later; such a key stays on one line and has at most 1024
characters.
-/

namespace RecordSynth.Yaml

/-- A place where a key may have started. -/
structure PendingKey where
  /-- The number of tokens in front of it. -/
  place : Nat
  /-- Whether nothing but a key may stand there. -/
  required : Bool
  index : Nat
  line : Nat
  column : Nat
deriving Repr

/-- Whether a key that started there can no longer end at `c`. -/
def PendingKey.isStale (k : PendingKey) (c : Cursor) : Bool :=
  k.line < c.line || k.index + 1024 < c.index

/-- A pending key as it is seen from `c`; none at all if a key is required and too long. -/
def PendingKey.refresh (c : Cursor) : Option PendingKey → Option (Option PendingKey)
  | none => some none
  | some k => if !k.isStale c then some (some k) else if k.required then none else some none

/-- A text that is read in part. -/
structure Reading where
  cursor : Cursor
  /-- A budget for the steps of a scalar: more than the characters of the text. -/
  budget : Nat
  /-- The columns of the open blocks, the innermost one first. -/
  blocks : List Nat := []
  /-- Whether a key may start here. -/
  keyAllowed : Bool := true
  /-- The key that may have started in the innermost brackets. -/
  pending : Option PendingKey := none
  /-- The keys that may have started around each of the open brackets, the innermost first. -/
  around : List (Option PendingKey) := []
  /-- The names of anchors so far, each with the number of the anchor that has it now. -/
  names : List (String × Nat) := []
  tokens : Array Token := #[]

namespace Reading

/-- Whether the place is inside brackets. -/
def inFlow (s : Reading) : Bool := !s.around.isEmpty

/-- The column of the innermost block, or -1 if there is none. -/
def indent (s : Reading) : Int :=
  match s.blocks with
  | [] => -1
  | b :: _ => b

/-- Adds a token. -/
def push (s : Reading) (t : Token) : Reading := { s with tokens := s.tokens.push t }

/-- Opens a block that starts with the token number `place`, if the column is further right than
that of the innermost block. -/
def openBlock (s : Reading) (column place : Nat) (t : Token) : Reading :=
  if !s.inFlow ∧ s.indent < column then
    { s with blocks := column :: s.blocks, tokens := s.tokens.insertIdxIfInBounds place t }
  else s

/-- Closes the blocks that are further right than a column. -/
def closeBlocks (s : Reading) (column : Int) : Reading :=
  if s.inFlow then s
  else
    let closed := s.blocks.takeWhile fun b : Nat => column < b
    { s with
      blocks := s.blocks.drop closed.length
      tokens := s.tokens ++ List.replicate closed.length Token.blockEnd }

/-- Gives up the pending key, unless a key is required. -/
def dropKey (s : Reading) : Option Reading :=
  if (s.pending.map (·.required)).getD false then none else some { s with pending := none }

/-- Remembers the place as one where a key may start, if it may. -/
def saveKey (s : Reading) : Option Reading :=
  if s.keyAllowed then do
    let required := !s.inFlow && s.indent == s.cursor.column
    let c := s.cursor
    let key :=
      { place := s.tokens.size, required, index := c.index, line := c.line, column := c.column }
    some { ← s.dropKey with pending := some key }
  else some s

/-! ## Between tokens -/

/-- Moves over blanks, comments and line ends. Tabs count as blanks only where no key can start. -/
def skipBlank : Nat → Reading → Reading
  | 0, s => s
  | fuel + 1, s =>
    let c := s.cursor
    let c := if c.index = 0 ∧ c.rest.head? = some '\ufeff' then c.skip 1 else c
    let c := c.skipWhile fun a => a == ' ' || a == '\t' && (s.inFlow || !s.keyAllowed)
    let c := if c.rest.head? = some '#' then c.skipLine else c
    if c.rest ≠ [] ∧ startsBreak c.rest then
      skipBlank fuel { s with cursor := c.skipBreak, keyAllowed := s.keyAllowed || !s.inFlow }
    else { s with cursor := c }

/-- Moves to the next token: gives up keys that are too long and closes the blocks that end. -/
def advance (s : Reading) : Option Reading := do
  let s := skipBlank s.budget s
  let pending ← PendingKey.refresh s.cursor s.pending
  let around ← s.around.mapM (PendingKey.refresh s.cursor)
  some ({ s with pending, around }.closeBlocks s.cursor.column)

/-! ## Tokens -/

/-- Reads a mark of `n` characters. -/
def mark (s : Reading) (n : Nat) (t : Token) : Reading :=
  { s with cursor := s.cursor.skip n, tokens := s.tokens.push t }

/-- Leaves all blocks, as the lines between documents do. -/
def leaveBlocks (s : Reading) : Option Reading := do
  some { ← (s.closeBlocks (-1)).dropKey with keyAllowed := false }

/-- Reads the mark of a document. -/
def readDocumentMark (s : Reading) (t : Token) : Option Reading := do
  some ((← s.leaveBlocks).mark 3 t)

/-- Reads an opening bracket. -/
def readOpening (s : Reading) (t : Token) : Option Reading := do
  let s ← s.saveKey
  some ({ s with pending := none, around := s.pending :: s.around, keyAllowed := true }.mark 1 t)

/-- Reads a closing bracket. -/
def readClosing (s : Reading) (t : Token) : Option Reading := do
  let s ← s.dropKey
  let s := match s.around with
    | [] => s
    | k :: ks => { s with pending := k, around := ks }
  some ({ s with keyAllowed := false }.mark 1 t)

/-- Reads a comma. -/
def readComma (s : Reading) : Option Reading := do
  some ({ ← s.dropKey with keyAllowed := true }.mark 1 .flowEntry)

/-- Opens a block at a mark that starts an entry of one. -/
def openEntry (s : Reading) (t : Token) : Option Reading :=
  if s.inFlow then some s
  else if s.keyAllowed then some (s.openBlock s.cursor.column s.tokens.size t)
  else none

/-- Reads the mark of an entry of a sequence. -/
def readEntry (s : Reading) : Option Reading := do
  let s ← (← s.openEntry .blockSequenceStart).dropKey
  some ({ s with keyAllowed := true }.mark 1 .blockEntry)

/-- Reads the mark of a key. -/
def readKey (s : Reading) : Option Reading := do
  let s ← (← s.openEntry .blockMappingStart).dropKey
  some ({ s with keyAllowed := !s.inFlow }.mark 1 .key)

/-- Reads the mark of a value. If a key may have started, it did. -/
def readValue (s : Reading) : Option Reading :=
  match s.pending with
  | some k =>
    let s := { s with tokens := s.tokens.insertIdxIfInBounds k.place .key }
    let s := s.openBlock k.column k.place .blockMappingStart
    some ({ s with pending := none, keyAllowed := false }.mark 1 .value)
  | none => do
    let s ← s.openEntry .blockMappingStart
    some ({ s with keyAllowed := !s.inFlow }.mark 1 .value)

/-- Reads a token that a key may start with. -/
def readNode (s : Reading) (read : Cursor → Option (Token × Cursor)) : Option Reading := do
  let s ← s.saveKey
  let (t, cursor) ← read s.cursor
  some { s with cursor, keyAllowed := false, tokens := s.tokens.push t }

/-- Reads an anchor. Its number is that of the names so far; a name that is used again belongs to
the new anchor. -/
def readAnchor (s : Reading) : Option Reading := do
  let (name, cursor) ← readName (s.cursor.skip 1)
  let anchor := s.names.length
  let names := (name, anchor) :: s.names.filter (·.1 ≠ name)
  some { ← s.readNode fun _ => some (.anchor anchor, cursor) with names }

/-- Reads a reference to an anchor. -/
def readReference (s : Reading) : Option Reading :=
  s.readNode fun c => do
    let (name, c) ← readName (c.skip 1)
    some (.reference (← s.names.lookup name), c)

/-- Reads a quoted scalar. -/
def readQuotedScalar (s : Reading) (quote : Char) (style : ScalarStyle) : Option Reading :=
  s.readNode fun c =>
    (readQuoted quote s.budget (c.skip 1)).map fun (text, c) =>
      (.scalar (String.ofList text) style, c)

/-- Reads a block scalar. -/
def readBlockScalar (s : Reading) (style : ScalarStyle) : Option Reading := do
  let s ← s.dropKey
  let (text, cursor) ← readBlock (style == .folded) s.indent s.budget (s.cursor.skip 1)
  some ({ s with cursor, keyAllowed := true }.push (.scalar (String.ofList text) style))

/-- Reads a plain scalar. If it ends behind a line end, a key may start there. -/
def readPlainScalar (s : Reading) : Option Reading := do
  let s ← s.saveKey
  let (text, keyAllowed, cursor) ← readPlain s.inFlow s.indent s.budget {} s.cursor
  some ({ s with cursor, keyAllowed }.push (.scalar (String.ofList text) .plain))

/-- The characters with a meaning of their own at the start of a token. -/
def indicators : List Char := "-?:,[]\x7b\x7d#&*!|>'\"%@`".toList

/-- Whether a plain scalar may start with `c` in front of `r`. -/
def startsPlain (s : Reading) (c : Char) (r : List Char) : Bool :=
  !indicators.contains c || c == '-' || !s.inFlow && (c == '?' || c == ':') && !startsBlank r

/-- Reads the token that starts with `c` in front of `r`. -/
def readToken (s : Reading) (c : Char) (r : List Char) : Option Reading :=
  if s.cursor.column = 0 ∧ c = '%' then do
    let s ← s.leaveBlocks
    let (t, cursor) ← readDirective s.cursor
    some ({ s with cursor }.push t)
  else if s.cursor.atDocumentMark then
    s.readDocumentMark (if c = '-' then .documentStart else .documentEnd)
  else
    match c with
    | '[' => s.readOpening .flowSequenceStart
    | '\x7b' => s.readOpening .flowMappingStart
    | ']' => s.readClosing .flowSequenceEnd
    | '\x7d' => s.readClosing .flowMappingEnd
    | ',' => s.readComma
    | '*' => s.readReference
    | '&' => s.readAnchor
    | '!' => s.readNode (readTag s.inFlow)
    | '\'' => s.readQuotedScalar '\'' .singleQuoted
    | '"' => s.readQuotedScalar '"' .doubleQuoted
    | _ =>
      if c = '-' ∧ startsBlank r then s.readEntry
      else if c = '?' ∧ (s.inFlow ∨ startsBlank r) then s.readKey
      else if c = ':' ∧ (s.inFlow ∨ startsBlank r) then s.readValue
      else if c = '|' ∧ !s.inFlow then s.readBlockScalar .literal
      else if c = '>' ∧ !s.inFlow then s.readBlockScalar .folded
      else if s.startsPlain c r then s.readPlainScalar
      else none

/-- Reads all tokens, with a budget. -/
def readAll : Nat → Reading → Option (List Token)
  | 0, _ => none
  | fuel + 1, s => do
    let s ← s.advance
    match s.cursor.rest with
    | [] => return (← s.leaveBlocks).tokens.toList
    | c :: r => readAll fuel (← s.readToken c r)

end Reading

/-- The tokens of a text. -/
def Token.ofText? (s : List Char) : Option (List Token) :=
  if s.all isAllowed then
    let budget := s.length + 2
    Reading.readAll budget { cursor := { rest := s }, budget }
  else none

end RecordSynth.Yaml
