import RecordSynth.Proofs.Declaration.Imports
import RecordSynth.Proofs.TypeExpr.RoundTrip
/-!
# Short texts

The short text of a type is the text of another type: the tree with every name in it, at any depth,
without its package. So short texts are read as types too, and two of them are the same just if the
trees have the same shape and the same short names. Either text is what writing the type piece by
piece comes to, with a comma before each argument but the first.
-/

namespace RecordSynth

namespace TypeExpr

/-! ## Texts written piece by piece -/

mutual

/-- Writes a type behind a text. -/
def write (out : String) : TypeExpr → String
  | ⟨n, args⟩ =>
    match args with
    | [] => out ++ n.text
    | a :: as => writeMore (write (out ++ n.text ++ "<") a) as ++ ">"

/-- Writes further arguments behind a text, each after a comma. -/
def writeMore (out : String) : List TypeExpr → String
  | [] => out
  | t :: ts => writeMore (write (out ++ ", ") t) ts

end

theorem join_cons (t : String) (ts : List String) :
    Text.join ", " (t :: ts) = t ++ String.join (ts.map (", " ++ ·)) := by
  induction ts generalizing t with
  | nil => simp [Text.join]
  | cons u us ih =>
    have rest := ih u
    rw [Text.join] at rest ⊢
    rw [String.intercalate_cons_cons, rest, List.map_cons, String.join_cons]
    simp only [String.append_assoc]

theorem text_cons (n : QualifiedName) (a : TypeExpr) (as : List TypeExpr) :
    (⟨n, a :: as⟩ : TypeExpr).text =
      n.text ++ "<" ++ (a.text ++ String.join (as.map fun t => ", " ++ t.text)) ++ ">" := by
  rw [text, render, renderAll_eq_map, List.map_cons, join_cons, List.map_map]
  rfl

mutual

theorem write_eq (out : String) (t : TypeExpr) : write out t = out ++ t.text := by
  match t with
  | ⟨n, []⟩ => rw [write, text, render]
  | ⟨n, a :: as⟩ =>
    rw [write, writeMore_eq _ as, write_eq _ a, text_cons]
    simp only [String.append_assoc]

theorem writeMore_eq (out : String) (ts : List TypeExpr) :
    writeMore out ts = out ++ String.join (ts.map fun t => ", " ++ t.text) := by
  match ts with
  | [] => simp [writeMore]
  | t :: ts =>
    rw [writeMore, writeMore_eq _ ts, write_eq _ t, List.map_cons, String.join_cons]
    simp only [String.append_assoc]

end

/-! ## Types with short names -/

mutual

/-- The type with every name in it, at any depth, without its package. -/
def shortened : TypeExpr → TypeExpr
  | ⟨n, args⟩ => ⟨n.unqualified, shortenedAll args⟩

/-- The types with every name in them without its package. -/
def shortenedAll : List TypeExpr → List TypeExpr
  | [] => []
  | t :: ts => t.shortened :: shortenedAll ts

end

theorem length_shortenedAll (ts : List TypeExpr) : (shortenedAll ts).length = ts.length := by
  induction ts with
  | nil => rfl
  | cons t ts ih => rw [shortenedAll, List.length_cons, List.length_cons, ih]

mutual

theorem shortText_eq (t : TypeExpr) : t.shortText = t.shortened.text := by
  match t with
  | ⟨n, []⟩ =>
    rw [shortText, shortened, shortenedAll, text, render, render, QualifiedName.text_unqualified]
  | ⟨n, a :: as⟩ =>
    have inner := renderAll_shortenedAll (a :: as)
    rw [shortText, shortened]
    rw [shortenedAll] at inner ⊢
    rw [text, render, render, QualifiedName.text_unqualified, inner]

theorem renderAll_shortenedAll (ts : List TypeExpr) :
    renderAll QualifiedName.shortText ts = renderAll QualifiedName.text (shortenedAll ts) := by
  match ts with
  | [] => rfl
  | t :: ts =>
    have first := shortText_eq t
    rw [shortText, text] at first
    rw [shortenedAll, renderAll, renderAll, renderAll_shortenedAll ts, first]

end

mutual

/-- The types met in a shortened type are those met in the type, each one shortened. -/
theorem occurrences_shortened (t : TypeExpr) :
    t.shortened.occurrences = t.occurrences.map (·.shortened) := by
  match t with
  | ⟨n, ts⟩ =>
    rw [shortened, occurrences, occurrences, occurrencesAll_shortenedAll ts, List.map_cons,
      shortened]

theorem occurrencesAll_shortenedAll (ts : List TypeExpr) :
    occurrencesAll (shortenedAll ts) = (occurrencesAll ts).map (·.shortened) := by
  match ts with
  | [] => rfl
  | t :: ts =>
    rw [shortenedAll, occurrencesAll, occurrencesAll, occurrences_shortened t,
      occurrencesAll_shortenedAll ts, List.map_append]

end

mutual

/-- Shortening changes nothing exactly if no name has a package. -/
theorem shortened_eq_self_iff (t : TypeExpr) :
    t.shortened = t ↔ ∀ u ∈ t.occurrences, u.name.scope = [] := by
  match t with
  | ⟨⟨scope, simple, rank⟩, ts⟩ =>
    rw [shortened, mk.injEq, shortenedAll_eq_self_iff ts, occurrences, List.forall_mem_cons]
    refine and_congr_left' ?_
    rw [QualifiedName.unqualified, QualifiedName.mk.injEq]
    simp [eq_comm]

theorem shortenedAll_eq_self_iff (ts : List TypeExpr) :
    shortenedAll ts = ts ↔ ∀ u ∈ occurrencesAll ts, u.name.scope = [] := by
  match ts with
  | [] => exact ⟨fun _ => nofun, fun _ => rfl⟩
  | t :: ts =>
    rw [shortenedAll, List.cons.injEq, shortened_eq_self_iff t, shortenedAll_eq_self_iff ts,
      occurrencesAll, List.forall_mem_append]

end

theorem shortened_shortened (t : TypeExpr) : t.shortened.shortened = t.shortened := by
  rw [shortened_eq_self_iff, occurrences_shortened, List.forall_mem_map]
  rintro ⟨n, ts⟩ _
  rw [shortened]
  rfl

/-! ## Types with the same short text -/

mutual

/-- Two types have the same shape, and at every node names with the same short text. -/
inductive ShortAlike : TypeExpr → TypeExpr → Prop
  | node {n k : QualifiedName} {ts us : List TypeExpr} (name : n.shortText = k.shortText)
      (arguments : ShortAlikeAll ts us) : ShortAlike ⟨n, ts⟩ ⟨k, us⟩

/-- As many types on both sides, and those in the same place are alike. -/
inductive ShortAlikeAll : List TypeExpr → List TypeExpr → Prop
  | nil : ShortAlikeAll [] []
  | cons {t u : TypeExpr} {ts us : List TypeExpr} (first : ShortAlike t u)
      (rest : ShortAlikeAll ts us) : ShortAlikeAll (t :: ts) (u :: us)

end

mutual

theorem shortened_eq_iff (t u : TypeExpr) : t.shortened = u.shortened ↔ ShortAlike t u := by
  match t, u with
  | ⟨n, ts⟩, ⟨k, us⟩ =>
    rw [shortened, shortened, mk.injEq, QualifiedName.unqualified_eq_iff, shortenedAll_eq_iff ts us]
    constructor
    · rintro ⟨name, arguments⟩
      exact .node name arguments
    · rintro ⟨name, arguments⟩
      exact ⟨name, arguments⟩

theorem shortenedAll_eq_iff (ts us : List TypeExpr) :
    shortenedAll ts = shortenedAll us ↔ ShortAlikeAll ts us := by
  match ts, us with
  | [], [] => exact ⟨fun _ => .nil, fun _ => rfl⟩
  | [], _ :: _ => exact ⟨nofun, nofun⟩
  | _ :: _, [] => exact ⟨nofun, nofun⟩
  | t :: ts, u :: us =>
    rw [shortenedAll, shortenedAll, List.cons.injEq, shortened_eq_iff t u,
      shortenedAll_eq_iff ts us]
    constructor
    · rintro ⟨first, rest⟩
      exact .cons first rest
    · rintro (_ | ⟨first, rest⟩)
      exact ⟨first, rest⟩

end

/-- The short text of a type is read as a type: as the tree in which each node has as many arguments
and, for its name, the short text of the name. It is also what writing that tree comes to. So types
have the same short text exactly if they have the same shape and the same short names at every node,
and a type has its short text for a text exactly if no name in it has a package, as it is once it is
shortened. -/
theorem shortText_reads_shortened :
    (∀ t : TypeExpr, parse t.shortText = .ok t.shortened ∧ write "" t.shortened = t.shortText ∧
      t.shortened.occurrences.map (fun u => (u.name.text, u.arguments.length)) =
        t.occurrences.map fun u => (u.name.shortText, u.arguments.length)) ∧
    (∀ t u : TypeExpr, t.shortText = u.shortText ↔ ShortAlike t u) ∧
    ∀ t : TypeExpr, (t.shortText = t.text ↔ ∀ u ∈ t.occurrences, u.name.scope = []) ∧
      t.shortened.shortText = t.shortText := by
  refine ⟨?_, ?_, ?_⟩
  · intro t
    refine ⟨?_, ?_, ?_⟩
    · rw [shortText_eq, parse_text]
    · rw [write_eq, shortText_eq, String.empty_append]
    · rw [occurrences_shortened, List.map_map]
      refine List.map_congr_left ?_
      rintro ⟨n, ts⟩ _
      rw [Function.comp_apply, shortened, length_shortenedAll, QualifiedName.text_unqualified]
  · intro t u
    rw [shortText_eq, shortText_eq, ← shortened_eq_iff]
    exact ⟨text_injective, congrArg text⟩
  · intro t
    rw [shortText_eq t, shortText_eq t.shortened, shortened_shortened, ← shortened_eq_self_iff]
    exact ⟨⟨text_injective, congrArg text⟩, rfl⟩

end TypeExpr

end RecordSynth
