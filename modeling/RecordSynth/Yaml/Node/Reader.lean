import RecordSynth.Yaml.Node
import RecordSynth.Yaml.Tag
/-!
# Reading nodes

The tree of a list of tokens. Where a node may be left out, an empty plain scalar stands for it.
-/

namespace RecordSynth.Yaml

/-- Tag handles and what each stands for. -/
abbrev Handles := List (Octets × Octets)

/-- The handles that every document has unless it gives them another meaning. -/
def defaultHandles : Handles :=
  [(octetsOf ['!'], octetsOf ['!']),
    (octetsOf ['!', '!'], octetsOf "tag:yaml.org,2002:".toList)]

/-- The tag that a handle and a suffix stand for. A tag without a handle is written in full. -/
def resolveTag? (handles : Handles) (handle suffix : Octets) : Option Octets :=
  if handle = [] then some suffix else (handles.lookup handle).map (· ++ suffix)

/-- Reads an anchor and a tag, in either order. -/
def readMarks (handles : Handles) : List Token → Option (Marks × List Token)
  | .anchor a :: .tag h s :: ts => do some ({ anchor := a, tag := ← resolveTag? handles h s }, ts)
  | .tag h s :: .anchor a :: ts => do some ({ anchor := a, tag := ← resolveTag? handles h s }, ts)
  | .anchor a :: ts => some ({ anchor := a }, ts)
  | .tag h s :: ts => do some ({ tag := ← resolveTag? handles h s }, ts)
  | ts => some ({}, ts)

/-- A scalar behind its marks; a lone exclamation mark as its tag says no more than that it is
one. -/
def scalarNode (marks : Marks) (text : String) (style : ScalarStyle) : Node :=
  let marks := if marks.tag = some (octetsOf ['!']) then { marks with tag := none } else marks
  .scalar marks text style

/-- Whether the next token is one of some. -/
def nextIs (stops : List Token) (ts : List Token) : Bool := ts.head?.any stops.contains

mutual

/-- Reads a node. `block` says whether it may be a block, and `flat` whether it may be a sequence
that is no further right than the key in front of it. -/
def readNode (handles : Handles) (block flat : Bool) :
    Nat → List Token → Option (Node × List Token)
  | 0, _ => none
  | _ + 1, .reference a :: ts => some (.reference a, ts)
  | fuel + 1, ts => do
    let (marks, ts) ← readMarks handles ts
    let sequence (r : Option (List Node × List Token)) : Option (Node × List Token) :=
      r.map fun (items, ts) => (.sequence marks items, ts)
    let mapping (r : Option (List (Node × Node) × List Token)) : Option (Node × List Token) :=
      r.map fun (entries, ts) => (.mapping marks entries, ts)
    let other : Option (Node × List Token) :=
      if marks = {} then none else some (.scalar marks "" .plain, ts)
    match ts with
    | .blockEntry :: _ => if flat then sequence (readFlatItems handles fuel ts) else other
    | .scalar text style :: ts => some (scalarNode marks text style, ts)
    | .flowSequenceStart :: ts => sequence (readFlowItems handles true fuel ts)
    | .flowMappingStart :: ts => mapping (readFlowEntries handles true fuel ts)
    | .blockSequenceStart :: ts =>
      if block then sequence (readBlockItems handles fuel ts) else other
    | .blockMappingStart :: ts =>
      if block then mapping (readBlockEntries handles fuel ts) else other
    | _ => other

/-- Reads a node, or an empty one in front of one of some tokens. -/
def readUnless (handles : Handles) (stops : List Token) (block flat : Bool) :
    Nat → List Token → Option (Node × List Token)
  | 0, _ => none
  | fuel + 1, ts =>
    if nextIs stops ts then some (.empty, ts) else readNode handles block flat fuel ts

/-- Reads the items of a block sequence up to its end. -/
def readBlockItems (handles : Handles) : Nat → List Token → Option (List Node × List Token)
  | 0, _ => none
  | fuel + 1, .blockEntry :: ts => do
    let (n, ts) ← readUnless handles [.blockEntry, .blockEnd] true false fuel ts
    let (ns, ts) ← readBlockItems handles fuel ts
    some (n :: ns, ts)
  | _ + 1, .blockEnd :: ts => some ([], ts)
  | _ + 1, _ => none

/-- Reads the items of a sequence that has no end mark of its own. -/
def readFlatItems (handles : Handles) : Nat → List Token → Option (List Node × List Token)
  | 0, _ => none
  | fuel + 1, .blockEntry :: ts => do
    let (n, ts) ← readUnless handles [.blockEntry, .key, .value, .blockEnd] true false fuel ts
    let (ns, ts) ← readFlatItems handles fuel ts
    some (n :: ns, ts)
  | _ + 1, ts => some ([], ts)

/-- Reads the value behind a key, if there is one; it may not start with one of some tokens. -/
def readValueUnless (handles : Handles) (stops : List Token) (block : Bool) :
    Nat → List Token → Option (Node × List Token)
  | 0, _ => none
  | fuel + 1, .value :: ts => readUnless handles stops block block fuel ts
  | _ + 1, ts => some (.empty, ts)

/-- Reads the entries of a block mapping up to its end. -/
def readBlockEntries (handles : Handles) :
    Nat → List Token → Option (List (Node × Node) × List Token)
  | 0, _ => none
  | fuel + 1, .key :: ts => do
    let stops : List Token := [.key, .value, .blockEnd]
    let (k, ts) ← readUnless handles stops true true fuel ts
    let (v, ts) ← readValueUnless handles stops true fuel ts
    let (es, ts) ← readBlockEntries handles fuel ts
    some ((k, v) :: es, ts)
  | _ + 1, .blockEnd :: ts => some ([], ts)
  | _ + 1, _ => none

/-- Reads the items of a sequence in brackets up to its end; a comma stands in front of all but the
`first`. An item with a key is a mapping of one entry. Where its key is left out, the token that
shows this is passed over. -/
def readFlowItems (handles : Handles) (first : Bool) :
    Nat → List Token → Option (List Node × List Token)
  | 0, _ => none
  | _ + 1, .flowSequenceEnd :: ts => some ([], ts)
  | fuel + 1, ts => do
    let ts ← match first, ts with
      | true, ts => some ts
      | false, .flowEntry :: ts => some ts
      | false, _ => none
    match ts with
    | .flowSequenceEnd :: ts => some ([], ts)
    | .key :: ts =>
      let (k, ts) ←
        if nextIs [.value, .flowEntry, .flowSequenceEnd] ts then some (.empty, ts.drop 1)
        else readNode handles false false fuel ts
      let (v, ts) ← readValueUnless handles [.flowEntry, .flowSequenceEnd] false fuel ts
      let (ns, ts) ← readFlowItems handles false fuel ts
      some (.mapping {} [(k, v)] :: ns, ts)
    | ts =>
      let (n, ts) ← readNode handles false false fuel ts
      let (ns, ts) ← readFlowItems handles false fuel ts
      some (n :: ns, ts)

/-- Reads the entries of a mapping in brackets up to its end; a comma stands in front of all but the
`first`. A node that is not marked as a key is one without a value. -/
def readFlowEntries (handles : Handles) (first : Bool) :
    Nat → List Token → Option (List (Node × Node) × List Token)
  | 0, _ => none
  | _ + 1, .flowMappingEnd :: ts => some ([], ts)
  | fuel + 1, ts => do
    let ts ← match first, ts with
      | true, ts => some ts
      | false, .flowEntry :: ts => some ts
      | false, _ => none
    match ts with
    | .flowMappingEnd :: ts => some ([], ts)
    | .key :: ts =>
      let (k, ts) ← readUnless handles [.value, .flowEntry, .flowMappingEnd] false false fuel ts
      let (v, ts) ← readValueUnless handles [.flowEntry, .flowMappingEnd] false fuel ts
      let (es, ts) ← readFlowEntries handles false fuel ts
      some ((k, v) :: es, ts)
    | ts =>
      let (k, ts) ← readNode handles false false fuel ts
      let (es, ts) ← readFlowEntries handles false fuel ts
      some ((k, .empty) :: es, ts)

end

/-! ## Documents -/

/-- Reads the directives of a document: its handles, given that the version was `seen`. Only the
versions 1.1 and 1.2 can be asked for, and nothing may be set twice. -/
def readDirectives (seen : Bool) (handles : Handles) : List Token → Option (Handles × List Token)
  | .version major minor :: ts =>
    if !seen ∧ major = 1 ∧ (minor = 1 ∨ minor = 2) then readDirectives true handles ts else none
  | .handle name start :: ts =>
    if (handles.lookup name).isSome then none
    else readDirectives seen (handles ++ [(name, start)]) ts
  | ts => some (handles, ts)

/-- Whether a token ends the content of a document before it has started. -/
def endsContent : Token → Bool
  | .version .. | .handle .. | .documentStart | .documentEnd => true
  | _ => false

/-- Whether a token is in front of the content of a document. -/
def startsDocument : Token → Bool
  | .version .. | .handle .. | .documentStart => true
  | _ => false

/-- Reads the first document of a text. -/
def readDocument (ts : List Token) : Option (Node × List Token) :=
  let fuel := 3 * ts.length + 3
  if ts.head?.any startsDocument then do
    let (handles, ts) ← readDirectives false [] ts
    match ts with
    | .documentStart :: ts =>
      if ts.head?.all endsContent then some (.empty, ts)
      else readNode (handles ++ defaultHandles) true false fuel ts
    | _ => none
  else readNode defaultHandles true false fuel ts

/-- The node of the only document of a text, if it has one; none at all if it has more. -/
def Node.ofTokens? (ts : List Token) : Option (Option Node) :=
  if ts = [] then some none
  else do
    let (n, rest) ← readDocument ts
    if rest.all (· = .documentEnd) then some (some n) else none

end RecordSynth.Yaml
