import RecordSynth.Fields
import RecordSynth.Yaml.Node.Reader
import RecordSynth.Yaml.Plain
import RecordSynth.Yaml.Token.Reader
/-!
# Decoding documents

The records, lists and texts of a document. References are followed where a value is wanted; how
often this happens is counted, since references inside anchors could make a short document endless.
-/

namespace RecordSynth.Yaml

/-- A document with the nodes of its anchors. -/
structure Document where
  /-- What is written, unless there is nothing at all. -/
  root : Option Node
  /-- The nodes with anchors; the first one with a number is the one it stands for. -/
  anchors : List (Nat × Node) := []
  /-- How many references may be followed. -/
  limit : Nat := 0

namespace Document

/-- Reads a document. Every part of it allows for a hundred references. -/
def parse? (source : String) : Option Document := do
  match ← Node.ofTokens? (← Token.ofText? source.toList) with
  | none => some { root := none }
  | some n => some { root := n, anchors := n.anchored.reverse, limit := n.size * 100 }

end Document

/-- Steps of decoding: they read the document, count references and may refuse. -/
abbrev Decoding := ReaderT Document (StateT Nat Option)

namespace Decoding

/-- Refuses what is there. -/
def refuse {α : Type} : Decoding α := fun _ _ => none

/-- Takes a result or refuses. -/
def get {α : Type} : Option α → Decoding α
  | some a => pure a
  | none => refuse

/-- Decodes a whole document; `missing` is the result where there is none. -/
def run? {α : Type} (source : String) (missing : α) (act : Node → Decoding α) : Option α := do
  let d ← Document.parse? source
  match d.root with
  | none => some missing
  | some n => (act n d 0).map (·.1)

/-- The node that a node stands for. -/
def follow : Node → Decoding Node
  | .reference a => do
    let d ← read
    let n ← getThe Nat
    if n < d.limit then
      set (n + 1)
      get (d.anchors.lookup a)
    else refuse
  | n => pure n

/-- The text of a scalar, whatever its form. -/
def text (n : Node) : Decoding String := do
  match ← follow n with
  | .scalar _ s _ => pure s
  | _ => refuse

/-- A value that may be left out or be null, in front of `some`. -/
def optional {α : Type} (act : Node → Decoding α) (n : Node) : Decoding (Option α) := do
  let n ← follow n
  let isNone ← match n with
    | .scalar marks s .plain =>
      if marks.tag = some (coreTag "null") then if isNull s then pure true else refuse
      else pure (marks.tag.isNone && (s == "" || isNull s))
    | _ => pure false
  if isNone then pure none else some <$> act n

/-- The items of a sequence. An empty plain scalar is one without items. -/
def items (n : Node) : Decoding (List Node) := do
  match ← follow n with
  | .sequence _ ns => pure ns
  | .scalar _ "" .plain => pure []
  | _ => refuse

/-- The entries of a mapping with texts for keys. An empty plain scalar is one without entries. -/
def entries (n : Node) : Decoding (List (String × Node)) := do
  match ← follow n with
  | .mapping _ es => es.mapM fun (k, v) => do pure (← text k, v)
  | .scalar _ "" .plain => pure []
  | _ => refuse

/-- The fields of a record with the given names, in order. -/
def fields (names : List String) (n : Node) : Decoding (List (Option Node)) := do
  get (fieldsOf? names (← entries n))

/-- Any value, with at most `depth` levels of sequences and mappings. -/
def value (depth : Nat) (n : Node) : Decoding Json := do
  let allowed (marks : Marks) : Bool := !(marks.tag.map isPrivateTag).getD false
  match ← follow n with
  | .scalar marks s style => get (scalarValue? marks.tag s style)
  | .sequence marks ns =>
    match depth with
    | 0 => refuse
    | depth + 1 => if allowed marks then .array <$> ns.mapM (value depth) else refuse
  | .mapping marks es =>
    match depth with
    | 0 => refuse
    | depth + 1 =>
      if allowed marks then
        .object <$> es.mapM fun (k, v) => do pure (← text k, ← value depth v)
      else refuse
  | .reference _ => refuse

end Decoding

end RecordSynth.Yaml
