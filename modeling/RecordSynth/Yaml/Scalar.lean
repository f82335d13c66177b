import RecordSynth.Json.Reader
import RecordSynth.Yaml.Cursor
/-!
# Scalars of YAML

The five ways of writing a scalar. Where a scalar runs over several lines, a single line end inside
it is folded to a blank and further line ends are kept; only literal blocks keep all of them. Each
reader takes a budget that has to exceed the number of characters left.
-/

namespace RecordSynth.Yaml

/-- What separates two words of a scalar: blanks on one line, or line ends, of which the first one
is told apart. Blanks around line ends do not count. -/
structure Gap where
  blanks : List Char := []
  firstBreak : Option (List Char) := none
  moreBreaks : List Char := []

namespace Gap

/-- Whether the gap goes over a line end. -/
def isBroken (g : Gap) : Bool := g.firstBreak.isSome

/-- What the gap stands for when a word follows: one line end becomes a blank, of several the first
one is left out. -/
def text (g : Gap) : List Char :=
  match g.firstBreak with
  | none => g.blanks
  | some ['\n'] => if g.moreBreaks = [] then [' '] else g.moreBreaks
  | some b => b ++ g.moreBreaks

/-- The gap with one more blank. -/
def addBlank (g : Gap) (c : Char) : Gap :=
  if g.isBroken then g else { g with blanks := g.blanks ++ [c] }

/-- The gap with one more line end. -/
def addBreak (g : Gap) (b : List Char) : Gap :=
  if g.isBroken then { g with moreBreaks := g.moreBreaks ++ b } else { g with firstBreak := some b }

/-- Reads blanks and line ends. A tab at the start of a line in front of the column `margin` is
refused. -/
def read (margin : Nat) : Nat → Gap → Cursor → Option (Gap × Cursor)
  | 0, _, _ => none
  | fuel + 1, g, c =>
    match c.rest with
    | [] => some (g, c)
    | a :: _ =>
      if isBlank a then
        if g.isBroken ∧ c.column < margin ∧ a = '\t' then none
        else read margin fuel (g.addBlank a) (c.skip 1)
      else if isBreak a then read margin fuel (g.addBreak c.breakText) c.skipBreak
      else some (g, c)

end Gap

/-! ## Plain scalars -/

/-- The characters that end a plain scalar inside brackets. -/
def isFlowMark (c : Char) : Bool := c == ',' || c == '[' || c == ']' || c == '\x7b' || c == '\x7d'

/-- Whether a colon in front of `r` may not stand inside brackets. -/
def refusesColon : List Char → Bool
  | c :: _ => isFlowMark c || c == '?'
  | [] => false

/-- The word of a plain scalar at the front of a text; `flow` says whether it stands inside
brackets. -/
def plainWord (flow : Bool) : List Char → Option (List Char)
  | [] => some []
  | c :: r =>
    if isBlank c || isBreak c then some []
    else if flow && c == ':' && refusesColon r then none
    else if c == ':' && startsBlank r || flow && isFlowMark c then some []
    else (plainWord flow r).map (c :: ·)

/-- Reads a plain scalar behind the gap `gap`: its text, whether it stopped behind a line end, and
where. `indent` is the column of the block around it. -/
def readPlain (flow : Bool) (indent : Int) : Nat → Gap → Cursor → Option (List Char × Bool × Cursor)
  | 0, _, _ => none
  | fuel + 1, gap, c =>
    if c.atDocumentMark ∨ c.rest.head? = some '#' then some ([], gap.isBroken, c)
    else
      match plainWord flow c.rest with
      | none => none
      | some [] => some ([], gap.isBroken, c)
      | some word =>
        let c := c.skip word.length
        match Gap.read (indent + 1).toNat fuel {} c with
        | none => none
        | some (next, c') =>
          if c'.index = c.index then some (gap.text ++ word, false, c')
          else if !flow ∧ (c'.column : Int) < indent + 1 then
            some (gap.text ++ word, next.isBroken, c')
          else
            match readPlain flow indent fuel next c' with
            | none => none
            | some (more, broken, c'') => some (gap.text ++ word ++ more, broken, c'')

/-! ## Quoted scalars -/

/-- The character that an escape of one letter stands for. -/
def shortEscape? : Char → Option Char
  | '0' => some '\x00'
  | 'a' => some '\x07'
  | 'b' => some '\x08'
  | 't' => some '\t'
  | '\t' => some '\t'
  | 'n' => some '\n'
  | 'v' => some '\x0b'
  | 'f' => some '\x0c'
  | 'r' => some '\r'
  | 'e' => some '\x1b'
  | ' ' => some ' '
  | '"' => some '"'
  | '/' => some '/'
  | '\\' => some '\\'
  | 'N' => some '\u0085'
  | '_' => some '\u00a0'
  | 'L' => some '\u2028'
  | 'P' => some '\u2029'
  | _ => none

/-- The number of hexadecimal digits behind the letter of an escape by code. -/
def codeLength? : Char → Option Nat
  | 'x' => some 2
  | 'u' => some 4
  | 'U' => some 8
  | _ => none

/-- The character with a code given in hexadecimal digits. -/
def charOfHex? (digits : List Char) : Option Char := do
  let values ← digits.mapM Json.hexValue?
  let n := values.foldl (fun n d => n * 16 + d) 0
  if n.isValidChar then some (Char.ofNat n) else none

/-- The characters of a quoted scalar up to a blank, a line end or the closing quote, with the
number of characters read, and whether an escaped line end follows. -/
def quotedWord (quote : Char) : Nat → List Char → Option (List Char × Nat × Bool)
  | 0, _ => none
  | fuel + 1, s =>
    let next (c : Char) (n : Nat) (r : List Char) :=
      (quotedWord quote fuel r).map fun (cs, k, b) => (c :: cs, n + k, b)
    match s with
    | [] => some ([], 0, false)
    | c :: r =>
      if isBlank c || isBreak c then some ([], 0, false)
      else if c = quote then
        match quote, r with
        | '\'', '\'' :: r => next '\'' 2 r
        | _, _ => some ([], 0, false)
      else if c = '\\' ∧ quote = '"' then
        match r with
        | [] => none
        | e :: r =>
          if isBreak e then some ([], 1, true)
          else
            match shortEscape? e, codeLength? e with
            | some x, _ => next x 2 r
            | none, some n =>
              let code := r.take n
              if code.length < n then none
              else
                match charOfHex? code with
                | some x => next x (2 + n) (r.drop n)
                | none => none
            | none, none => none
      else next c 1 r

/-- Reads the rest of a quoted scalar, its closing quote included. -/
def readQuoted (quote : Char) : Nat → Cursor → Option (List Char × Cursor)
  | 0, _ => none
  | fuel + 1, c =>
    if c.atDocumentMark ∨ c.rest = [] then none
    else
      match quotedWord quote fuel c.rest with
      | none => none
      | some (word, n, escapedBreak) =>
        let c := c.skip n
        let c := if escapedBreak then c.skipBreak else c
        if c.rest.head? = some quote then some (word, c.skip 1)
        else
          let gap : Gap := if escapedBreak then { firstBreak := some [] } else {}
          match Gap.read 0 fuel gap c with
          | none => none
          | some (gap, c) =>
            (readQuoted quote fuel c).map fun (more, c) => (word ++ gap.text ++ more, c)

/-! ## Block scalars -/

/-- What happens to the line ends at the end of a block. -/
inductive Chomping where
  | strip
  | clip
  | keep
deriving DecidableEq, Repr

/-- The indicator of what happens to line ends. -/
def chomping? : Char → Option Chomping
  | '+' => some .keep
  | '-' => some .strip
  | _ => none

/-- The value of a digit from one to nine. -/
def increment? (c : Char) : Option Nat :=
  if '1' ≤ c ∧ c ≤ '9' then some (c.toNat - '0'.toNat) else none

/-- Reads the indicators behind the mark of a block, in either order. -/
def readIndicators (c : Cursor) : Option (Chomping × Option Nat × Cursor) :=
  match c.rest with
  | a :: r =>
    match chomping? a with
    | some chomp =>
      match r with
      | b :: _ =>
        if b.isDigit then (increment? b).map fun n => (chomp, some n, c.skip 2)
        else some (chomp, none, c.skip 1)
      | [] => some (chomp, none, c.skip 1)
    | none =>
      if a.isDigit then
        match increment? a with
        | none => none
        | some n =>
          match r.head?.bind chomping? with
          | some chomp => some (chomp, some n, c.skip 2)
          | none => some (.clip, some n, c.skip 1)
      else some (.clip, none, c)
  | [] => some (.clip, none, c)

/-- Reads the empty lines of a block and the indentation behind them: the line ends, the widest
indentation seen, and where the first line with a character is. Without an `indent` all blanks
count as indentation. -/
def readEmptyLines (indent : Option Nat) : Nat → Nat → Cursor → Option (List Char × Nat × Cursor)
  | 0, _, _ => none
  | fuel + 1, widest, c =>
    let blanks := (c.rest.takeWhile (· == ' ')).length
    let c := c.skip (match indent with
      | none => blanks
      | some n => min blanks (n - c.column))
    let widest := max widest c.column
    let inMargin : Bool := match indent with
      | none => true
      | some n => c.column < n
    if inMargin ∧ c.rest.head? = some '\t' then none
    else
      match c.rest with
      | a :: _ =>
        if isBreak a then
          (readEmptyLines indent fuel widest c.skipBreak).map fun (more, w, c') =>
            (c.breakText ++ more, w, c')
        else some ([], widest, c)
      | [] => some ([], widest, c)

/-- The line ends behind the last line of a block that was read: that of the line itself, and those
of empty lines. -/
structure BlockTail where
  last : List Char := []
  empty : List Char := []
  /-- Whether the line started with a blank. -/
  blank : Bool := false

/-- Reads the lines of a block that start at the column `indent`. -/
def readLines (folded : Bool) (indent : Nat) :
    Nat → BlockTail → Cursor → Option (List Char × BlockTail × Cursor)
  | 0, _, _ => none
  | fuel + 1, tail, c =>
    if c.column = indent ∧ c.rest ≠ [] then
      let startsWithBlank := (c.rest.head?.map isBlank).getD false
      let joint :=
        if folded ∧ tail.last = ['\n'] ∧ !tail.blank ∧ !startsWithBlank then
          if tail.empty = [] then [' '] else tail.empty
        else tail.last ++ tail.empty
      let line := c.rest.takeWhile (!isBreak ·)
      let c := c.skip line.length
      let last := c.breakText
      match readEmptyLines (some indent) fuel 0 c.skipBreak with
      | none => none
      | some (empty, _, c) =>
        match readLines folded indent fuel { last, empty, blank := startsWithBlank } c with
        | none => none
        | some (more, tail, c) => some (joint ++ line ++ more, tail, c)
    else some ([], tail, c)

/-- Reads a block behind its mark. `outer` is the column of the block around it. -/
def readBlock (folded : Bool) (outer : Int) (fuel : Nat) (c : Cursor) :
    Option (List Char × Cursor) := do
  let (chomp, increment, c) ← readIndicators c
  let c ← c.finishLine
  let given := increment.map fun n => if 0 ≤ outer then outer.toNat + n else n
  let (empty, widest, c) ← readEmptyLines given fuel 0 c
  let indent := given.getD (max (max widest (outer + 1).toNat) 1)
  let (text, tail, c) ← readLines folded indent fuel { empty } c
  let ending :=
    match chomp with
    | .strip => []
    | .clip => tail.last
    | .keep => tail.last ++ tail.empty
  some (text ++ ending, c)

end RecordSynth.Yaml
