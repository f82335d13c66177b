import RecordSynth.Json
import RecordSynth.Json.Reader
import RecordSynth.Yaml.Token
/-!
# Values of scalars

What a scalar stands for where any value may stand. A plain scalar is null, a truth value, a number
or a text by its form alone; tags of the core schema ask for one of these, and all other scalars are
texts.
-/

namespace RecordSynth.Yaml

/-- The words for null. -/
def isNull (s : String) : Bool := ["null", "Null", "NULL", "~"].contains s

/-- The words for truth values. -/
def bool? (s : String) : Option Bool :=
  if ["true", "True", "TRUE"].contains s then some true
  else if ["false", "False", "FALSE"].contains s then some false
  else none

/-! ## Integers -/

/-- The number that digits stand for; there has to be one, and each has to be below the radix. -/
def natOf? (radix : Nat) (ds : List Char) : Option Nat := do
  let values ← ds.mapM Json.hexValue?
  if values ≠ [] ∧ values.all (· < radix) then
    some (values.foldl (fun n d => n * radix + d) 0)
  else none

/-- The number behind a sign: digits, or digits of another radix behind its mark. -/
def magnitude? : List Char → Option Nat
  | '0' :: 'x' :: ds => natOf? 16 ds
  | '0' :: 'o' :: ds => natOf? 8 ds
  | '0' :: 'b' :: ds => natOf? 2 ds
  | ds => natOf? 10 ds

/-- The characters behind a sign. -/
def afterSign : List Char → List Char
  | '-' :: s => s
  | '+' :: s => s
  | s => s

/-- Whether a text is of digits with a zero too many in front. Such texts are no numbers. -/
def hasLeadingZero (s : List Char) : Bool :=
  match afterSign s with
  | '0' :: d :: ds => (d :: ds).all Char.isDigit
  | _ => false

/-- The integer that a text stands for. -/
def integer? (s : List Char) : Option Int :=
  if hasLeadingZero s then none
  else
    match s with
    | '-' :: ds => (magnitude? ds).map fun n => -(n : Int)
    | '+' :: ds => (magnitude? ds).map Int.ofNat
    | ds => (magnitude? ds).map Int.ofNat

/-- Whether an integer is beyond the words of a document but not beyond twice their width. Such
integers are refused. -/
def isWide (n : Int) : Bool := !Number.fitsWord n && -(Int.pow 2 127) ≤ n && n < Int.pow 2 128

/-- The value of an integer that fits a word. -/
def word? (n : Int) : Option Json :=
  if Number.fitsWord n then some (.number (.integer n)) else none

/-! ## Floating-point numbers -/

/-- The exponent at the end of a decimal. -/
def exponent? : List Char → Option Int
  | [] => some 0
  | e :: s =>
    if e = 'e' ∨ e = 'E' then
      match s with
      | '-' :: ds => (natOf? 10 ds).map fun n => -(n : Int)
      | '+' :: ds => (natOf? 10 ds).map Int.ofNat
      | ds => (natOf? 10 ds).map Int.ofNat
    else none

/-- The number nearest to a decimal without a sign: digits with a point at any place, and an
exponent if there is one. -/
def decimal? (s : List Char) : Option Binary64 := do
  let whole := s.takeWhile Char.isDigit
  let s := s.drop whole.length
  let (fraction, s) := match s with
    | '.' :: s => (s.takeWhile Char.isDigit, s.dropWhile Char.isDigit)
    | s => ([], s)
  let n ← natOf? 10 (whole ++ fraction)
  let e ← exponent? s
  Binary64.ofDecimal? n (e - fraction.length)

/-- The value of a floating-point number: null for what is not finite. -/
def float? (s : String) : Option Json :=
  if [".inf", ".Inf", ".INF", "+.inf", "+.Inf", "+.INF", "-.inf", "-.Inf", "-.INF", ".nan", ".NaN",
      ".NAN"].contains s then some .null
  else
    let number (negative : Bool) (s : List Char) : Option Json :=
      (decimal? s).map fun x => .number (.binary (x.withSign negative))
    match s.toList with
    | '-' :: s => number true s
    | '+' :: s => number false s
    | s => number false s

/-! ## Scalars -/

/-- The value of a plain scalar by its form. -/
def plainValue? (s : String) : Option Json :=
  if s = "" ∨ isNull s then some .null
  else
    match bool? s with
    | some b => some (.bool b)
    | none =>
      match integer? s.toList with
      | some n =>
        if isWide n then none else some ((word? n).getD ((float? s).getD (.text s)))
      | none =>
        if hasLeadingZero s.toList then some (.text s) else some ((float? s).getD (.text s))

/-- The octets of a tag of the core schema. -/
def coreTag (name : String) : Octets := ("tag:yaml.org,2002:" ++ name).toUTF8.toList

/-- Whether a tag is private to a document: an exclamation mark and a text. -/
def isPrivateTag : Octets → Bool
  | [] => false
  | t :: ts =>
    t == '!'.val.toUInt8 && (String.fromUTF8? ⟨(if ts = [] then [t] else ts).toArray⟩).isSome

/-- The value of a scalar with a tag. -/
def taggedValue? (tag : Octets) (s : String) (style : ScalarStyle) : Option Json :=
  if isPrivateTag tag then none
  else if tag = coreTag "bool" then (bool? s).map .bool
  else if tag = coreTag "int" then (integer? s.toList).bind word?
  else if tag = coreTag "float" then float? s
  else if tag = coreTag "null" then if isNull s then some .null else none
  else if tag.head? = some '!'.val.toUInt8 ∧ style = .plain then plainValue? s
  else some (.text s)

/-- The value of a scalar. -/
def scalarValue? (tag : Option Octets) (s : String) (style : ScalarStyle) : Option Json :=
  match tag with
  | some tag => taggedValue? tag s style
  | none => if style = .plain then plainValue? s else some (.text s)

end RecordSynth.Yaml
