import RecordSynth.Text.Alphanumeric
import RecordSynth.Text.LetterCase
/-!
# Camel case

Words of a name and the two camel-case spellings made of them. A character that is neither letter
nor digit separates words; inside a piece a new word starts at a capital after a small letter
(`userName`), and at the last of several capitals when a small letter follows it (`XMLFile`). A
digit or a letter without case starts no word.
-/

namespace RecordSynth.Text

/-- The case of the last letter with a case in the word being read. -/
inductive LastCase where
  | none
  | lower
  | upper
deriving DecidableEq, Repr

/-- The case seen after `c`, where `before` was seen up to it. -/
def LastCase.after (before : LastCase) (c : Char) : LastCase :=
  if isLowercase c then .lower else if isUppercase c then .upper else before

/-- The words of a piece without separators. `word` is the word begun so far, last character first,
and `seen` the case of its last cased letter. -/
def pieceWords (word : List Char) (seen : LastCase) : List Char → List (List Char)
  | [] => []
  | [c] => [(c :: word).reverse]
  | c :: next :: rest =>
    if seen.after c = .lower ∧ isUppercase next then
      (c :: word).reverse :: pieceWords [] .none (next :: rest)
    else if seen = .upper ∧ isUppercase c ∧ isLowercase next then
      word.reverse :: pieceWords [c] .none (next :: rest)
    else
      pieceWords (c :: word) (seen.after c) (next :: rest)

/-- The runs of letters and digits of a text, in order; the runs between two adjacent separators are
empty. -/
def wordPieces : List Char → List (List Char)
  | [] => [[]]
  | c :: r =>
    if isAlphanumeric c then
      match wordPieces r with
      | [] => [[c]]
      | p :: ps => (c :: p) :: ps
    else [] :: wordPieces r

/-- The words of a name, in order. -/
def words (s : List Char) : List (List Char) := (wordPieces s).flatMap (pieceWords [] .none)

/-- The word in small letters; a sigma at its end takes its final form. -/
def lowerWord : List Char → List Char
  | [] => []
  | [c] => if c = 'Σ' then ['ς'] else lowercase c
  | c :: r => lowercase c ++ lowerWord r

/-- The word with a capital first letter and small letters after it. -/
def capitalWord : List Char → List Char
  | [] => []
  | c :: r => uppercase c ++ lowerWord r

/-- The words of a name run together, each with a capital first letter. -/
def upperCamel (s : String) : String :=
  String.ofList ((words s.toList).flatMap capitalWord)

/-- The words of a name run together, each but the first with a capital first letter. -/
def lowerCamel (s : String) : String :=
  match words s.toList with
  | [] => ""
  | w :: ws => String.ofList (lowerWord w ++ ws.flatMap capitalWord)

end RecordSynth.Text
