import RecordSynth.Proofs.Declaration.Source
/-!
# The layout of a body

The body of a declaration is a list of rows: texts, each at a depth of its own below that of the
body, and gaps, one between each two members of a declaration. The four functions that print a body
all come down to its rows, so to move a body one level deeper is to put one indent in front of each
of its texts and to leave the gaps alone.
-/

namespace RecordSynth

namespace Source

/-! ## Rows -/

/-- A row of a body: a text at a depth below that of the body, or the empty line between two
members. -/
inductive Row where
  | text (below : Nat) (content : String)
  | gap
deriving DecidableEq, Repr

namespace Row

/-- The row as a line of a body at a depth. -/
def line (depth : Nat) : Row → String
  | text below content => indent (depth + below) ++ content
  | gap => ""

/-- The row one level deeper; a gap has no depth. -/
def deeper : Row → Row
  | text below content => text (below + 1) content
  | gap => gap

/-- The text of the row, without its indent. -/
def content : Row → String
  | text _ content => content
  | gap => ""

end Row

/-- Texts as rows that are not below the body. -/
def rowsOf (texts : List String) : List Row := texts.map (.text 0)

/-- The rows of a field: its comment, its annotations and its declaration. -/
def fieldRows (f : Field) : List Row :=
  rowsOf (docLines f.docLines ++ f.annotations ++
    [f.visibility.keyword ++ f.type.shortText ++ " " ++ f.name ++ ";"])

/-- The rows of a method: its annotations and its signature, and in a class also its body, one level
deeper, up to a brace. -/
def methodRows (owner : DeclarationKind) (m : Method) : List Row :=
  match owner with
  | .interfaceType => rowsOf (m.annotations ++ [signature m ++ ";"])
  | .classType =>
    rowsOf (m.annotations ++ [signature m ++ " \x7b"]) ++ (rowsOf m.bodyLines).map .deeper ++
      rowsOf ["\x7d"]

mutual

/-- The rows of a declaration: its annotations and its header, then one level deeper its members
with a gap between each two of them, and a brace. -/
def rows : Declaration → List Row
  | d@⟨_, _, _, _, _, _, _, _, _, nested⟩ =>
    rowsOf (d.annotations ++ [header d ++ " \x7b"]) ++
      ([Row.gap].intercalate (d.fields.map fieldRows ++ d.methods.map (methodRows d.kind) ++
        rowsAll nested)).map .deeper ++
      rowsOf ["\x7d"]

/-- The rows of each of several declarations. -/
def rowsAll : List Declaration → List (List Row)
  | [] => []
  | d :: ds => rows d :: rowsAll ds

end

/-! ## Bodies are their rows -/

/-- Rows as the text of a body at a depth: every row ends its line. -/
def print (depth : Nat) (rs : List Row) : String := lines 0 (rs.map (Row.line depth))

@[simp] theorem print_append (depth : Nat) (rs others : List Row) :
    print depth (rs ++ others) = print depth rs ++ print depth others := by
  rw [print, List.map_append, lines_append, print, print]

theorem line_deeper (depth : Nat) (r : Row) : r.deeper.line depth = r.line (depth + 1) := by
  cases r with
  | text below content =>
    have sum : depth + (below + 1) = depth + 1 + below := by omega
    rw [Row.deeper, Row.line, Row.line, sum]
  | gap => rfl

theorem print_deeper (depth : Nat) (rs : List Row) :
    print depth (rs.map .deeper) = print (depth + 1) rs := by
  simp [print, Function.comp_def, line_deeper]

theorem print_rowsOf (depth : Nat) (texts : List String) :
    print depth (rowsOf texts) = lines depth texts := by
  have each : ∀ t, Source.line 0 ((Row.text 0 t).line depth) = Source.line depth t := fun t =>
    line_zero _
  simp [print, rowsOf, lines, Function.comp_def, each]

theorem print_rowsOf_singleton (depth : Nat) (text : String) :
    print depth (rowsOf [text]) = line depth text := by
  simp [print_rowsOf, lines, String.join_cons]

theorem print_gap (depth : Nat) : print depth [Row.gap] = "\n" := by
  have ending : lines 0 [""] = "\n" := by decide
  exact ending

theorem field_eq (depth : Nat) : field depth = print depth ∘ fieldRows := by
  funext f
  rw [Function.comp_apply, fieldRows, print_rowsOf, field]

theorem method_eq (owner : DeclarationKind) (depth : Nat) :
    method owner depth = print depth ∘ methodRows owner := by
  funext m
  rw [Function.comp_apply]
  cases owner with
  | interfaceType => rw [methodRows, print_rowsOf, method]
  | classType =>
    rw [methodRows, print_append, print_append, print_deeper, print_rowsOf, print_rowsOf,
      print_rowsOf_singleton, method]

/-- The text that joins members is what a gap is printed as. -/
theorem join_print (depth : Nat) (blocks : List (List Row)) :
    Text.join "\n" (blocks.map (print depth)) = print depth ([Row.gap].intercalate blocks) := by
  induction blocks with
  | nil => rfl
  | cons block blocks ih =>
    cases blocks with
    | nil => simp [Text.join]
    | cons next blocks =>
      rw [List.intercalate_cons_cons, print_append, print_append, ← ih, print_gap]
      exact String.intercalate_cons_cons

mutual

theorem body_eq (depth : Nat) (d : Declaration) : body depth d = print depth (rows d) := by
  match d with
  | ⟨_, kind, _, _, _, _, fields, methods, _, nested⟩ =>
    have members : fields.map (field (depth + 1)) ++ methods.map (method kind (depth + 1)) ++
        bodies (depth + 1) nested =
          (fields.map fieldRows ++ methods.map (methodRows kind) ++ rowsAll nested).map
            (print (depth + 1)) := by
      simp [bodies_eq (depth + 1) nested, field_eq, method_eq]
    rw [rows, print_append, print_append, print_deeper, ← join_print, ← members, print_rowsOf,
      print_rowsOf_singleton, body]

theorem bodies_eq (depth : Nat) (ds : List Declaration) :
    bodies depth ds = (rowsAll ds).map (print depth) := by
  match ds with
  | [] => rfl
  | d :: ds => rw [bodies, rowsAll, List.map_cons, body_eq depth d, bodies_eq depth ds]

end

end Source

/-! ## Texts without ends of lines -/

/-- The texts that a field holds besides the names in its type. -/
def Field.texts (f : Field) : List String := f.docLines ++ f.annotations ++ [f.name]

/-- The texts that a method holds besides the names in its types. -/
def Method.texts (m : Method) : List String :=
  m.annotations ++ m.parameters.map (·.name) ++ m.bodyLines ++ [m.name]

/-- The texts that a declaration and its members hold besides the names of types. -/
def Declaration.texts (d : Declaration) : List String :=
  d.annotations ++ d.fields.flatMap (·.texts) ++ d.methods.flatMap (·.texts)

namespace Source

/-- The text has no end of line. -/
def OneLine (s : String) : Prop := '\n' ∉ s.toList

instance (s : String) : Decidable (OneLine s) := inferInstanceAs (Decidable ('\n' ∉ s.toList))

@[simp] theorem oneLine_append {s t : String} : OneLine (s ++ t) ↔ OneLine s ∧ OneLine t := by
  simp [OneLine]

theorem oneLine_join {sep : String} {texts : List String} (between : OneLine sep)
    (each : ∀ t ∈ texts, OneLine t) : OneLine (Text.join sep texts) := by
  intro member
  rw [Text.join, String.toList_intercalate] at member
  rcases Text.mem_or_mem_of_mem_intercalate member with inside | ⟨piece, among, inside⟩
  · exact between inside
  · obtain ⟨t, given, rfl⟩ := List.mem_map.1 among
    exact each t given inside

theorem oneLine_name (n : QualifiedName) : OneLine n.shortText := by
  rw [QualifiedName.shortText, oneLine_append]
  constructor
  · intro member
    exact absurd (Identifier.isRest_of_mem n.simple.accepts_text member) (by decide)
  · intro member
    rw [String.toList_ofList] at member
    exact absurd (QualifiedName.mem_brackets member) (by decide)

mutual

theorem oneLine_shortText (t : TypeExpr) : OneLine t.shortText := by
  match t with
  | ⟨n, []⟩ => exact oneLine_name n
  | ⟨n, a :: as⟩ =>
    have arguments :
        OneLine (Text.join ", " (TypeExpr.renderAll QualifiedName.shortText (a :: as))) :=
      oneLine_join (by decide) (oneLine_renderAll (a :: as))
    have brackets : OneLine "<" ∧ OneLine ">" := by decide
    simp [TypeExpr.shortText, TypeExpr.render, oneLine_name, arguments, brackets]

theorem oneLine_renderAll (ts : List TypeExpr) :
    ∀ s ∈ TypeExpr.renderAll QualifiedName.shortText ts, OneLine s := by
  match ts with
  | [] => simp [TypeExpr.renderAll]
  | t :: ts =>
    rw [TypeExpr.renderAll, List.forall_mem_cons]
    exact ⟨oneLine_shortText t, oneLine_renderAll ts⟩

end

theorem oneLine_keyword (v : Visibility) : OneLine v.keyword := by
  cases v <;> decide

theorem oneLine_parents (word : String) (plain : OneLine word) (types : List TypeExpr) :
    OneLine (parents word types) := by
  have names : OneLine (Text.join ", " (types.map (·.shortText))) := by
    apply oneLine_join (by decide)
    simp [oneLine_shortText]
  unfold parents
  split
  · decide
  · simp +decide [plain, names]

theorem oneLine_header (d : Declaration) : OneLine (header d) := by
  have extended := oneLine_parents "extends" (by decide)
  have implemented := oneLine_parents "implements" (by decide)
  unfold header
  cases d.kind <;> simp +decide [oneLine_keyword, oneLine_name, extended, implemented]

theorem oneLine_signature {m : Method} (single : ∀ s ∈ m.texts, OneLine s) :
    OneLine (signature m) := by
  have name : OneLine m.name := single m.name (by simp [Method.texts])
  have parameters : OneLine (Text.join ", "
      (m.parameters.map fun p => p.type.shortText ++ " " ++ p.name)) := by
    apply oneLine_join (by decide)
    intro t member
    obtain ⟨p, among, rfl⟩ := List.mem_map.1 member
    have known : OneLine p.name := single p.name (by simp [Method.texts, List.mem_map_of_mem among])
    simp +decide [oneLine_shortText, known]
  unfold signature
  cases m.returnType <;> simp +decide [oneLine_keyword, oneLine_shortText, name, parameters]

theorem oneLine_docLines {texts : List String} (single : ∀ s ∈ texts, OneLine s) :
    ∀ s ∈ docLines texts, OneLine s := by
  unfold docLines
  split
  · simp
  · have starred : ∀ t ∈ texts, OneLine (if t = "" then " *" else " * " ++ t) := by
      intro t member
      split
      · decide
      · simp +decide [single t member]
    simp only [List.forall_mem_append, List.forall_mem_singleton, List.forall_mem_map]
    exact ⟨⟨by decide, starred⟩, by decide⟩

theorem oneLine_deeper {rs : List Row} (single : ∀ r ∈ rs, OneLine r.content) :
    ∀ r ∈ rs.map Row.deeper, OneLine r.content := by
  rw [List.forall_mem_map]
  intro r member
  have same : r.deeper.content = r.content := by cases r <;> rfl
  rw [same]
  exact single r member

theorem oneLine_between {blocks : List (List Row)}
    (single : ∀ block ∈ blocks, ∀ r ∈ block, OneLine r.content) :
    ∀ r ∈ [Row.gap].intercalate blocks, OneLine r.content := by
  intro r member
  rcases Text.mem_or_mem_of_mem_intercalate member with gap | ⟨block, among, inside⟩
  · rw [List.mem_singleton.1 gap]
    decide
  · exact single block among r inside

theorem oneLine_rowsOf {texts : List String} (single : ∀ s ∈ texts, OneLine s) :
    ∀ r ∈ rowsOf texts, OneLine r.content := by
  simpa [rowsOf, Row.content] using single

theorem oneLine_fieldRows {f : Field} (single : ∀ s ∈ f.texts, OneLine s) :
    ∀ r ∈ fieldRows f, OneLine r.content := by
  simp only [Field.texts, List.forall_mem_append, List.forall_mem_singleton] at single
  obtain ⟨⟨comment, annotations⟩, name⟩ := single
  apply oneLine_rowsOf
  simp only [List.forall_mem_append, List.forall_mem_singleton]
  refine ⟨⟨oneLine_docLines comment, annotations⟩, ?_⟩
  simp +decide [oneLine_keyword, oneLine_shortText, name]

theorem oneLine_methodRows (owner : DeclarationKind) {m : Method}
    (single : ∀ s ∈ m.texts, OneLine s) : ∀ r ∈ methodRows owner m, OneLine r.content := by
  have signed := oneLine_signature single
  simp only [Method.texts, List.forall_mem_append, List.forall_mem_singleton] at single
  obtain ⟨⟨⟨annotations, -⟩, body⟩, -⟩ := single
  have introduced : ∀ ending, OneLine ending →
      ∀ r ∈ rowsOf (m.annotations ++ [signature m ++ ending]), OneLine r.content := by
    intro ending plain
    apply oneLine_rowsOf
    simp only [List.forall_mem_append, List.forall_mem_singleton]
    exact ⟨annotations, by simp [signed, plain]⟩
  cases owner with
  | interfaceType => exact introduced ";" (by decide)
  | classType =>
    simp only [methodRows, List.forall_mem_append]
    exact ⟨⟨introduced " \x7b" (by decide), oneLine_deeper (oneLine_rowsOf body)⟩,
      oneLine_rowsOf (by decide)⟩

end Source

/-- No text in the tree has an end of line. -/
def Declaration.OneLined (d : Declaration) : Prop :=
  d.Throughout fun x => ∀ s ∈ x.texts, Source.OneLine s

namespace Source

mutual

theorem oneLine_rows (d : Declaration) (lined : d.OneLined) :
    ∀ r ∈ rows d, OneLine r.content := by
  obtain ⟨own, nested⟩ := Declaration.throughout_iff.1 lined
  simp only [Declaration.texts, List.forall_mem_append, List.forall_mem_flatMap] at own
  obtain ⟨⟨annotations, fields⟩, methods⟩ := own
  match d with
  | ⟨_, kind, _, _, _, _, fs, ms, _, ds⟩ =>
    have members : ∀ block ∈ fs.map fieldRows ++ ms.map (methodRows kind) ++ rowsAll ds,
        ∀ r ∈ block, OneLine r.content := by
      simp only [List.forall_mem_append, List.forall_mem_map]
      exact ⟨⟨fun f member => oneLine_fieldRows (fields f member),
        fun m member => oneLine_methodRows kind (methods m member)⟩, oneLine_rowsAll ds nested⟩
    simp only [rows, List.forall_mem_append]
    refine ⟨⟨oneLine_rowsOf ?_, oneLine_deeper (oneLine_between members)⟩,
      oneLine_rowsOf (by decide)⟩
    simp only [List.forall_mem_append, List.forall_mem_singleton]
    exact ⟨annotations, by simp +decide [oneLine_header]⟩

theorem oneLine_rowsAll (ds : List Declaration) (lined : ∀ d ∈ ds, d.OneLined) :
    ∀ block ∈ rowsAll ds, ∀ r ∈ block, OneLine r.content := by
  match ds with
  | [] => simp [rowsAll]
  | d :: ds =>
    rw [List.forall_mem_cons] at lined
    rw [rowsAll, List.forall_mem_cons]
    exact ⟨oneLine_rows d lined.1, oneLine_rowsAll ds lined.2⟩

end

/-! ## Empty lines -/

theorem indent_eq_empty_iff {depth : Nat} : indent depth = "" ↔ depth = 0 := by
  rw [indent, ← String.toList_inj, String.toList_ofList]
  simp

theorem indent_succ (depth : Nat) : indent (depth + 1) = "    " ++ indent depth := by
  have spaces : 4 * (depth + 1) = 4 + 4 * depth := by omega
  rw [indent, spaces, List.replicate_add, String.ofList_append]
  rfl

theorem oneLine_indent (depth : Nat) : OneLine (indent depth) := by
  simp [OneLine, indent]

theorem line_text_eq_empty_iff {depth below : Nat} {content : String} :
    (Row.text below content).line depth = "" ↔ depth + below = 0 ∧ content = "" := by
  rw [Row.line, String.append_eq_empty_iff, indent_eq_empty_iff]

/-- Only annotations, the header and the closing brace are not below the body. -/
theorem text_zero_mem_rows {d : Declaration} {content : String} : Row.text 0 content ∈ rows d ↔
    content ∈ d.annotations ∨ content = header d ++ " \x7b" ∨ content = "\x7d" := by
  have deeper : ∀ r : Row, r.deeper ≠ .text 0 content := by
    intro r
    cases r <;> simp [Row.deeper]
  obtain ⟨_, _, _, _, _, _, _, _, _, _⟩ := d
  simp [rows, rowsOf, deeper]

/-- No line but a gap is empty, unless the body has no indent and some annotation is empty. -/
theorem empty_iff_gap {d : Declaration} {depth : Nat} :
    (∀ r ∈ rows d, r.line depth = "" ↔ r = .gap) ↔ 1 ≤ depth ∨ "" ∉ d.annotations := by
  constructor
  · intro only
    by_contra! blank
    obtain ⟨outermost, own⟩ := blank
    have shown := (only (.text 0 "") (text_zero_mem_rows.2 (.inl own))).1
      (line_text_eq_empty_iff.2 ⟨by omega, rfl⟩)
    cases shown
  · intro solid r member
    cases r with
    | gap => exact ⟨fun _ => rfl, fun _ => rfl⟩
    | text below content =>
      suffices (Row.text below content).line depth ≠ "" by simp [this]
      intro empty
      obtain ⟨outermost, rfl⟩ := line_text_eq_empty_iff.1 empty
      obtain ⟨rfl, rfl⟩ : depth = 0 ∧ below = 0 := by omega
      rcases text_zero_mem_rows.1 member with own | introduced | closed
      · simp [own] at solid
      · have brace := (String.append_eq_empty_iff.1 introduced.symm).2
        exact absurd brace (by decide)
      · exact absurd closed (by decide)

/-- The line with four blanks in front, unless it is empty. -/
def indented (line : String) : String := if line = "" then "" else "    " ++ line

/-- A row that is printed one level deeper gets an indent, unless it is a text that shows nothing. -/
theorem line_succ_eq_iff {depth : Nat} {r : Row} :
    r.line (depth + 1) = indented (r.line depth) ↔ (r.line depth = "" ↔ r = .gap) := by
  cases r with
  | gap => simp [Row.line, indented]
  | text below content =>
    have sum : depth + 1 + below = depth + below + 1 := by omega
    have longer : (Row.text below content).line (depth + 1) =
        "    " ++ (Row.text below content).line depth := by
      rw [Row.line, Row.line, sum, indent_succ, String.append_assoc]
    rw [longer, indented]
    by_cases empty : (Row.text below content).line depth = ""
    · simp [empty]
    · simp [empty]

/-! ## Gaps -/

theorem count_gap_rowsOf (texts : List String) : (rowsOf texts).count .gap = 0 := by
  rw [List.count_eq_zero]
  simp [rowsOf]

theorem count_gap_deeper (rs : List Row) : (rs.map Row.deeper).count .gap = rs.count .gap := by
  induction rs with
  | nil => rfl
  | cons r rs ih => cases r <;> simp [Row.deeper, ih]

theorem count_gap_between (blocks : List (List Row)) : ([Row.gap].intercalate blocks).count .gap =
    blocks.length - 1 + (blocks.map (·.count .gap)).sum := by
  induction blocks with
  | nil => rfl
  | cons block blocks ih =>
    cases blocks with
    | nil => simp
    | cons next blocks =>
      rw [List.intercalate_cons_cons, List.count_append, List.count_append, ih]
      simp
      omega

theorem count_gap_fieldRows (f : Field) : (fieldRows f).count .gap = 0 := count_gap_rowsOf _

theorem count_gap_methodRows (owner : DeclarationKind) (m : Method) :
    (methodRows owner m).count .gap = 0 := by
  cases owner <;> simp [methodRows, count_gap_rowsOf, count_gap_deeper]

end Source

namespace Declaration

/-- The number of fields, methods and nested declarations. -/
def memberCount (d : Declaration) : Nat := d.fields.length + d.methods.length + d.nested.length

mutual

/-- The declarations of the tree, each in front of those nested in it. -/
def family : Declaration → List Declaration
  | d@⟨_, _, _, _, _, _, _, _, _, nested⟩ => d :: familyAll nested

/-- The declarations of several trees. -/
def familyAll : List Declaration → List Declaration
  | [] => []
  | d :: ds => d.family ++ familyAll ds

end

end Declaration

namespace Source

open Declaration (familyAll)

mutual

/-- Each declaration of the tree has one gap less than it has members. -/
theorem count_gap_rows (d : Declaration) :
    (rows d).count .gap = (d.family.map fun x => x.memberCount - 1).sum := by
  match d with
  | ⟨_, kind, _, _, _, _, fields, methods, _, nested⟩ =>
    obtain ⟨length, inner⟩ := count_gap_rowsAll nested
    simp [rows, count_gap_rowsOf, count_gap_deeper, count_gap_between, length, inner,
      Declaration.family, Declaration.memberCount, Function.comp_def, count_gap_fieldRows,
      count_gap_methodRows, Nat.add_assoc]

theorem count_gap_rowsAll (ds : List Declaration) : (rowsAll ds).length = ds.length ∧
    ((rowsAll ds).map (·.count .gap)).sum =
      ((familyAll ds).map fun x => x.memberCount - 1).sum := by
  match ds with
  | [] => exact ⟨rfl, rfl⟩
  | d :: ds =>
    obtain ⟨length, others⟩ := count_gap_rowsAll ds
    simp [rowsAll, familyAll, length, others, count_gap_rows d]

end

/-! ## Bodies at other depths -/

theorem split_body {d : Declaration} (lined : d.OneLined) (depth : Nat) :
    Text.split '\n' (body depth d) = (rows d).map (Row.line depth) ++ [""] := by
  have single : ∀ line ∈ (rows d).map (Row.line depth), OneLine line := by
    rw [List.forall_mem_map]
    intro r member
    have plain := oneLine_rows d lined r member
    cases r with
    | gap => exact plain
    | text below content => exact oneLine_append.2 ⟨oneLine_indent _, plain⟩
  have last := split_lines_append single ""
  rwa [String.append_empty, ← print, ← body_eq] at last

/-- One level deeper, the body of a declaration is the same with four blanks in front of every line
that is not empty, as long as no text in it has an end of line; and the lines that are empty are the
gaps, one between each two members of a declaration of the tree. Only at depth zero an annotation of
the declaration itself may be a line that is empty too, and there is no other exception. -/
theorem split_body_deeper (d : Declaration) (lined : d.OneLined) :
    (rows d).count .gap = (d.family.map fun x => x.memberCount - 1).sum ∧
    ∀ depth, Text.split '\n' (body depth d) = (rows d).map (Row.line depth) ++ [""] ∧
      (Text.split '\n' (body (depth + 1) d) = (Text.split '\n' (body depth d)).map indented ↔
        1 ≤ depth ∨ "" ∉ d.annotations) ∧
      ((∀ r ∈ rows d, r.line depth = "" ↔ r = .gap) ↔ 1 ≤ depth ∨ "" ∉ d.annotations) := by
  refine ⟨count_gap_rows d, fun depth => ⟨split_body lined depth, ?_, empty_iff_gap⟩⟩
  have ending : [""] = [""].map indented := rfl
  rw [← empty_iff_gap, split_body lined, split_body lined, List.map_append, ← ending,
    List.append_cancel_right_eq, List.map_map, List.map_inj_left]
  simp only [Function.comp_apply, line_succ_eq_iff]

/-- A class inside a class that has a field: the one gap stays empty. -/
theorem split_body_deeper_nested :
    let named := fun (simple : Identifier) => TypeExpr.ofName { scope := [], simple }
    let outer : Declaration := .ofType .classType (named ⟨"Outer", by decide⟩)
    let inner : Declaration := .ofType .classType (named ⟨"Inner", by decide⟩)
    let size : Field := { name := "size", type := named ⟨"int", by decide⟩ }
    let d := (outer.addField size).addNested (inner.addField size)
    (rows d).count .gap = 1 ∧
      Text.split '\n' (body 1 d) = (Text.split '\n' (body 0 d)).map indented ∧
      Text.split '\n' (body 0 d) =
        ["class Outer \x7b", "    private int size;", "", "    class Inner \x7b",
          "        private int size;", "    \x7d", "\x7d", ""] := by
  intro named outer inner size d
  have lined : d.OneLined := by
    have leaf : (inner.addField size).OneLined :=
      Declaration.throughout_iff.2 ⟨by decide, fun _ member => absurd member List.not_mem_nil⟩
    refine Declaration.throughout_iff.2 ⟨by decide, fun n member => ?_⟩
    rwa [List.mem_singleton.1 member]
  obtain ⟨gaps, each⟩ := split_body_deeper d lined
  exact ⟨gaps.trans (by decide), (each 0).2.1.2 (.inr (by decide)), by decide +kernel⟩

end Source

end RecordSynth
