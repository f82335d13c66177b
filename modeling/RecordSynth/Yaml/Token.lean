/-!
# Tokens of YAML

The marks and scalars of a YAML text, with the marks that indentation stands for. Tags are kept as
octets, since escapes in them may give octets that are no text.
-/

namespace RecordSynth.Yaml

/-- A tag, or a part of one. -/
abbrev Octets := List UInt8

/-- How a scalar is written. -/
inductive ScalarStyle where
  | plain
  | singleQuoted
  | doubleQuoted
  | literal
  | folded
deriving DecidableEq, Repr

/-- A token. -/
inductive Token where
  /-- The version of YAML that a document asks for. -/
  | version (major minor : Nat)
  /-- The meaning of a tag handle. -/
  | handle (name start : Octets)
  | documentStart
  | documentEnd
  | blockSequenceStart
  | blockMappingStart
  | blockEnd
  | flowSequenceStart
  | flowSequenceEnd
  | flowMappingStart
  | flowMappingEnd
  | blockEntry
  | flowEntry
  | key
  | value
  /-- A reference to the anchor with a number. -/
  | reference (anchor : Nat)
  | anchor (anchor : Nat)
  | tag (handle suffix : Octets)
  | scalar (text : String) (style : ScalarStyle)
deriving DecidableEq, Repr

end RecordSynth.Yaml
