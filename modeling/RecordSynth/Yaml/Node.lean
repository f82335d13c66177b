import RecordSynth.Yaml.Token
/-!
# Nodes of YAML

A document as a tree. Anchors are numbers; a reference stands for the node with its number, wherever
that is.
-/

namespace RecordSynth.Yaml

/-- What may stand in front of a node. -/
structure Marks where
  anchor : Option Nat := none
  tag : Option Octets := none
deriving DecidableEq, Repr

/-- A node of a document. -/
inductive Node where
  | reference (anchor : Nat)
  | scalar (marks : Marks) (text : String) (style : ScalarStyle)
  | sequence (marks : Marks) (items : List Node)
  | mapping (marks : Marks) (entries : List (Node × Node))
deriving Repr

namespace Node

/-- The node where nothing is written. -/
def empty : Node := .scalar {} "" .plain

/-- The anchor of a node, with the node. -/
def mark? (marks : Marks) (n : Node) : List (Nat × Node) :=
  match marks.anchor with
  | none => []
  | some a => [(a, n)]

mutual

/-- The nodes with anchors, in the order of the text. -/
def anchored : Node → List (Nat × Node)
  | .reference _ => []
  | n@(.scalar marks _ _) => mark? marks n
  | n@(.sequence marks items) => mark? marks n ++ anchoredItems items
  | n@(.mapping marks entries) => mark? marks n ++ anchoredEntries entries

/-- The nodes with anchors in the items of a sequence. -/
def anchoredItems : List Node → List (Nat × Node)
  | [] => []
  | n :: ns => anchored n ++ anchoredItems ns

/-- The nodes with anchors in the entries of a mapping. -/
def anchoredEntries : List (Node × Node) → List (Nat × Node)
  | [] => []
  | (k, v) :: es => anchored k ++ anchored v ++ anchoredEntries es

end

mutual

/-- The number of scalars, references and brackets of a node. -/
def size : Node → Nat
  | .reference _ => 1
  | .scalar .. => 1
  | .sequence _ items => sizeItems items + 2
  | .mapping _ entries => sizeEntries entries + 2

/-- The size of the items of a sequence. -/
def sizeItems : List Node → Nat
  | [] => 0
  | n :: ns => size n + sizeItems ns

/-- The size of the entries of a mapping. -/
def sizeEntries : List (Node × Node) → Nat
  | [] => 0
  | (k, v) :: es => size k + size v + sizeEntries es

end

end Node

end RecordSynth.Yaml
