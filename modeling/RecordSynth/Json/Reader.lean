import RecordSynth.Json
/-!
# Reading JSON

The grammar of JSON, without extensions. An integer that fits 64 bits is kept as such; any other
number becomes a floating-point number by scaling the digits that fit 64 bits with a power of ten,
where each step rounds, so that the result may differ from the nearest number in its last digit.
-/

namespace RecordSynth

namespace Json

/-- The blanks between tokens. -/
def isSpace (c : Char) : Bool := c == ' ' || c == '\t' || c == '\n' || c == '\r'

/-- The text without the blanks in front. -/
def skipSpace (s : List Char) : List Char := s.dropWhile isSpace

/-- The value of a hexadecimal digit. -/
def hexValue? (c : Char) : Option Nat :=
  if '0' ≤ c ∧ c ≤ '9' then some (c.toNat - '0'.toNat)
  else if 'a' ≤ c ∧ c ≤ 'f' then some (c.toNat - 'a'.toNat + 10)
  else if 'A' ≤ c ∧ c ≤ 'F' then some (c.toNat - 'A'.toNat + 10)
  else none

/-- The value of four hexadecimal digits. -/
def hexUnit? (a b c d : Char) : Option Nat := do
  let a ← hexValue? a
  let b ← hexValue? b
  let c ← hexValue? c
  let d ← hexValue? d
  some (((a * 16 + b) * 16 + c) * 16 + d)

/-- The units of a text: a character, or a code of sixteen bits that an escape gives. -/
inductive TextUnit where
  | char (c : Char)
  | code (n : Nat)
deriving DecidableEq, Repr

/-- The character of an escape of one letter. -/
def shortEscape? : Char → Option Char
  | '"' => some '"'
  | '\\' => some '\\'
  | '/' => some '/'
  | 'b' => some '\x08'
  | 'f' => some '\x0c'
  | 'n' => some '\n'
  | 'r' => some '\r'
  | 't' => some '\t'
  | _ => none

/-- The units of a text up to its closing quote, and what follows it. -/
def readUnits : List Char → Option (List TextUnit × List Char)
  | [] => none
  | '"' :: r => some ([], r)
  | '\\' :: 'u' :: a :: b :: c :: d :: r =>
    match hexUnit? a b c d, readUnits r with
    | some n, some (units, rest) => some (.code n :: units, rest)
    | _, _ => none
  | '\\' :: e :: r =>
    match shortEscape? e, readUnits r with
    | some c, some (units, rest) => some (.char c :: units, rest)
    | _, _ => none
  | c :: r =>
    if c.toNat < 0x20 then none
    else
      match readUnits r with
      | some (units, rest) => some (.char c :: units, rest)
      | none => none

/-- The text of units, if every code of a surrogate is one half of a pair. -/
def textOfUnits : List TextUnit → Option (List Char)
  | [] => some []
  | .char c :: r => (textOfUnits r).map (c :: ·)
  | .code a :: .code b :: r =>
    if 0xD800 ≤ a ∧ a < 0xDC00 then
      if 0xDC00 ≤ b ∧ b < 0xE000 then
        (textOfUnits r).map (Char.ofNat (0x10000 + (a - 0xD800) * 0x400 + (b - 0xDC00)) :: ·)
      else none
    else if 0xDC00 ≤ a ∧ a < 0xE000 then none
    else (textOfUnits (.code b :: r)).map (Char.ofNat a :: ·)
  | .code a :: r =>
    if 0xD800 ≤ a ∧ a < 0xE000 then none else (textOfUnits r).map (Char.ofNat a :: ·)

/-- A text behind its opening quote: none inside if it is ill-formed. -/
def readText (s : List Char) : Option (Option String × List Char) :=
  match readUnits s with
  | some (units, rest) => some ((textOfUnits units).map String.ofList, rest)
  | none => none

/-- The parts of a number as written. -/
structure Numeral where
  negative : Bool
  whole : List Char
  /-- The digits behind the point, if there is one. -/
  fraction : Option (List Char)
  exponent : Option Int
deriving DecidableEq, Repr

/-- The value of decimal digits. -/
def digitsValue (ds : List Char) : Nat := ds.foldl (fun n c => n * 10 + (c.toNat - '0'.toNat)) 0

/-- The digits in front of a text, and what follows them. -/
def spanDigits (s : List Char) : List Char × List Char :=
  (s.takeWhile Char.isDigit, s.dropWhile Char.isDigit)

/-- An exponent behind its mark. -/
def readExponent (s : List Char) : Option (Int × List Char) :=
  let (negative, s) :=
    match s with
    | '+' :: r => (false, r)
    | '-' :: r => (true, r)
    | _ => (false, s)
  match spanDigits s with
  | ([], _) => none
  | (ds, rest) =>
    some (if negative then -(digitsValue ds : Int) else digitsValue ds, rest)

/-- A number at the front of a text. -/
def readNumeral (s : List Char) : Option (Numeral × List Char) := do
  let (negative, s) :=
    match s with
    | '-' :: r => (true, r)
    | _ => (false, s)
  let (whole, s) := spanDigits s
  if whole = [] ∨ (whole.length > 1 ∧ whole.head? = some '0') then none
  let (fraction, s) ←
    match s with
    | '.' :: r =>
      match spanDigits r with
      | ([], _) => none
      | (ds, rest) => some (some ds, rest)
    | _ => some (none, s)
  let (exponent, s) ←
    match s with
    | 'e' :: r => (readExponent r).map fun (e, rest) => (some e, rest)
    | 'E' :: r => (readExponent r).map fun (e, rest) => (some e, rest)
    | _ => some (none, s)
  some ({ negative, whole, fraction, exponent }, s)

/-- The greatest number of 64 bits without a sign. -/
def maxWord : Nat := Nat.pow 2 64 - 1

/-- Takes digits into a significand of 64 bits as long as they fit: the significand, and the number
of digits that were not taken. -/
def takeDigits (significand : Nat) : List Char → Nat × Nat
  | [] => (significand, 0)
  | c :: r =>
    let next := significand * 10 + (c.toNat - '0'.toNat)
    if next ≤ maxWord then takeDigits next r else (significand, (c :: r).length)

/-- The greatest power of ten among the floating-point numbers. -/
def maxPower : Nat := 308

/-- Divides by powers of ten until the exponent is used up or nothing is left. -/
def scaleDown : Nat → Binary64 → Nat → Option Binary64
  | 0, _, _ => none
  | fuel + 1, x, n =>
    if n ≤ maxPower then do x.div? (← Binary64.ofNat? (Nat.pow 10 n))
    else if x.isZero then some x
    else do scaleDown fuel (← x.div? (← Binary64.ofNat? (Nat.pow 10 maxPower))) (n - maxPower)

/-- A significand scaled by a power of ten, rounding at each step; none if it is too great. -/
def scale? (significand : Nat) (exponent : Int) : Option Binary64 := do
  let x ← Binary64.ofNat? significand
  if 0 ≤ exponent then
    if exponent.toNat ≤ maxPower then x.mul? (← Binary64.ofNat? (Nat.pow 10 exponent.toNat))
    else if x.isZero then some x
    else none
  else scaleDown ((-exponent).toNat / maxPower + 2) x (-exponent).toNat

/-- The floating-point number that a numeral stands for, if it is not too great. -/
def Numeral.binary? (n : Numeral) : Option Binary64 :=
  let (high, dropped) := takeDigits 0 n.whole
  let (significand, places) :=
    match n.fraction with
    | none => (high, 0)
    | some ds =>
      let (all, left) := takeDigits high ds
      (all, ds.length - left)
  let exponent : Int := dropped - places + n.exponent.getD 0
  (scale? significand exponent).map (·.withSign n.negative)

/-- The number that a numeral stands for, if it is not too great. Zero with a sign is no integer. -/
def Numeral.value? (n : Numeral) : Option Number :=
  let value : Int := if n.negative then -(digitsValue n.whole : Int) else digitsValue n.whole
  if n.fraction = none ∧ n.exponent = none ∧ Number.fitsWord value ∧ (n.negative → value ≠ 0) then
    some (.integer value)
  else n.binary?.map .binary

/-- The rest of a text behind a word in front of it. -/
def dropWord (word : List Char) (s : List Char) : Option (List Char) :=
  if word.isPrefixOf s then some (s.drop word.length) else none

/-- An object of its members, if all keys are well formed. -/
def ofMembers (members : List (Option String × Json)) : Json :=
  match members.mapM fun (k, v) => k.map (·, v) with
  | some members => .object members
  | none => .illFormed

mutual

/-- The value at the front of a text, blanks in front of it allowed, with what follows it. -/
def readValue : Nat → List Char → Option (Json × List Char)
  | 0, _ => none
  | fuel + 1, s =>
    match skipSpace s with
    | '[' :: r =>
      match skipSpace r with
      | ']' :: rest => some (.array [], rest)
      | _ => (readItems fuel r).map fun (items, rest) => (.array items, rest)
    | '{' :: r =>
      match skipSpace r with
      | '}' :: rest => some (.object [], rest)
      | _ => (readMembers fuel r).map fun (members, rest) => (ofMembers members, rest)
    | '"' :: r =>
      match readText r with
      | some (some t, rest) => some (.text t, rest)
      | some (none, rest) => some (.illFormed, rest)
      | none => none
    | 'n' :: r => (dropWord ['u', 'l', 'l'] r).map (.null, ·)
    | 't' :: r => (dropWord ['r', 'u', 'e'] r).map (.bool true, ·)
    | 'f' :: r => (dropWord ['a', 'l', 's', 'e'] r).map (.bool false, ·)
    | r =>
      match readNumeral r with
      | some (n, rest) =>
        match n.value? with
        | some v => some (.number v, rest)
        | none => some (.illFormed, rest)
      | none => none

/-- The items of an array up to its closing bracket, which is read too. -/
def readItems : Nat → List Char → Option (List Json × List Char)
  | 0, _ => none
  | fuel + 1, s =>
    match readValue fuel s with
    | none => none
    | some (item, r) =>
      match skipSpace r with
      | ',' :: more => (readItems fuel more).map fun (items, rest) => (item :: items, rest)
      | ']' :: rest => some ([item], rest)
      | _ => none

/-- The members of an object up to its closing brace, which is read too. A key that is ill-formed is
none. -/
def readMembers : Nat → List Char → Option (List (Option String × Json) × List Char)
  | 0, _ => none
  | fuel + 1, s =>
    match skipSpace s with
    | '"' :: k =>
      match readText k with
      | none => none
      | some (key, r) =>
        match skipSpace r with
        | ':' :: v =>
          match readValue fuel v with
          | none => none
          | some (value, r) =>
            match skipSpace r with
            | ',' :: more =>
              (readMembers fuel more).map fun (members, rest) => ((key, value) :: members, rest)
            | '}' :: rest => some ([(key, value)], rest)
            | _ => none
        | _ => none
    | _ => none

end

/-- Reads a whole document. Every call of a reader is followed by the reading of a character, so
twice the length of the text bounds them. -/
def parse? (s : String) : Option Json :=
  let cs := s.toList
  match readValue (2 * cs.length + 2) cs with
  | some (value, rest) => if skipSpace rest = [] then some value else none
  | none => none

end Json

end RecordSynth
