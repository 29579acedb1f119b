import SourceLayout.Proofs.Writing.Strokes

/-! The marked nodes of a tree, a node before those inside of it and otherwise from left to right.
A node knows the way to it and the strokes that are made before it.  The nodes inside of a node end
where it ends at the latest, and all other later nodes begin after its end. -/

namespace SourceLayout

/-- A marked node of a tree: the way to it from the root, the strokes before it, and the fragment
with its mark. -/
structure Node where
  path : List Nat
  before : List Stroke
  mark : Mark
  body : Fragment Value

namespace Node

/-- The node in a tree of which its own tree is the part of the number `i`, written after some
strokes. -/
def under (i : Nat) (earlier : List Stroke) (n : Node) : Node :=
  { n with path := i :: n.path, before := earlier ++ n.before }

/-- The strokes up to the end of the node. -/
def through (names : Assignment) (n : Node) : List Stroke := n.before ++ n.body.strokes names

/-- The nodes of parts, given by their nodes and their strokes, which are written after each other
with a separator between neighbours: the first has the number `i` and comes after `earlier`. -/
def ofParts (sep : List Stroke) :
    Nat → List Stroke → List (List Node × List Stroke) → List Node
  | _, _, [] => []
  | i, earlier, (nodes, strokes) :: parts =>
    nodes.map (under i earlier) ++ ofParts sep (i + 1) (earlier ++ strokes ++ sep) parts

end Node

namespace Fragment

open Node

mutual

/-- The marked nodes of a tree. -/
def nodes (names : Assignment) : Fragment Value → List Node
  | .seq fs => ofParts [] 0 [] (nodesOf names fs)
  | .table rows => ofParts [.lineBreak 0] 0 [] (nodesOfRows names rows)
  | .marked mark f => ⟨[], [], mark, f⟩ :: (nodes names f).map (under 0 [])
  | .text _ | .newline _ | .pending _ | .name _ | .foreign _ => []

/-- The marked nodes of each of the trees, with the strokes of the tree. -/
def nodesOf (names : Assignment) : List (Fragment Value) → List (List Node × List Stroke)
  | [] => []
  | f :: fs => (nodes names f, f.strokes names) :: nodesOf names fs

/-- The marked nodes of each of the rows, with the strokes of the row. -/
def nodesOfRows (names : Assignment) :
    List (List (Fragment Value)) → List (List Node × List Stroke)
  | [] => []
  | row :: rows =>
    (ofParts [.text " "] 0 [] (nodesOf names row), rowStrokes names row) :: nodesOfRows names rows

end

variable (names : Assignment)

/-- The nodes and the strokes of a tree. -/
def part (f : Fragment Value) : List Node × List Stroke := (f.nodes names, f.strokes names)

/-- The nodes and the strokes of a row. -/
def rowPart (row : List (Fragment Value)) : List Node × List Stroke :=
  (ofParts [.text " "] 0 [] (row.map (part names)), rowStrokes names row)

theorem nodesOf_eq_map (fs : List (Fragment Value)) : nodesOf names fs = fs.map (part names) := by
  induction fs with
  | nil => rfl
  | cons f fs ih => rw [nodesOf, ih, List.map_cons, part]

theorem nodesOfRows_eq_map (rows : List (List (Fragment Value))) :
    nodesOfRows names rows = rows.map (rowPart names) := by
  induction rows with
  | nil => rfl
  | cons row rows ih => rw [nodesOfRows, ih, List.map_cons, rowPart, nodesOf_eq_map]

@[simp] theorem nodes_seq (fs : List (Fragment Value)) :
    (seq fs).nodes names = ofParts [] 0 [] (fs.map (part names)) := by
  rw [nodes, nodesOf_eq_map]

@[simp] theorem nodes_table (rows : List (List (Fragment Value))) :
    (table rows).nodes names = ofParts [.lineBreak 0] 0 [] (rows.map (rowPart names)) := by
  rw [nodes, nodesOfRows_eq_map]

@[simp] theorem nodes_marked (mark : Mark) (f : Fragment Value) :
    (marked mark f).nodes names = ⟨[], [], mark, f⟩ :: (f.nodes names).map (under 0 []) := rfl

end Fragment

/-! ### How nodes lie to each other -/

namespace Node

variable {names : Assignment}

/-- A node comes before another one.  It begins no later, and if the other one is inside of it, it
ends no sooner than the other one ends; if not, it ends no later than the other one begins. -/
structure Precedes (names : Assignment) (m n : Node) : Prop where
  path : m.path < n.path
  before : m.before <+: n.before
  inside : m.path <+: n.path → n.through names <+: m.through names
  apart : ¬m.path <+: n.path → m.through names <+: n.before

@[simp] theorem through_under (i : Nat) (earlier : List Stroke) (n : Node) :
    (n.under i earlier).through names = earlier ++ n.through names :=
  List.append_assoc earlier n.before (n.body.strokes names)

theorem before_through (n : Node) : n.before <+: n.through names := List.prefix_append _ _

theorem Precedes.under {m n : Node} (h : Precedes names m n) (i : Nat) (earlier : List Stroke) :
    Precedes names (m.under i earlier) (n.under i earlier) where
  path := List.cons_lt_cons_iff.mpr (.inr ⟨rfl, h.path⟩)
  before := (List.prefix_append_right_inj earlier).mpr h.before
  inside hpath := by
    rw [through_under, through_under, List.prefix_append_right_inj]
    exact h.inside (List.cons_prefix_cons.mp hpath).2
  apart hpath := by
    rw [through_under]
    refine (List.prefix_append_right_inj earlier).mpr (h.apart fun hprefix => hpath ?_)
    exact List.cons_prefix_cons.mpr ⟨rfl, hprefix⟩

/-- A node of one part precedes a node of a later part that begins after its end. -/
theorem Precedes.of_parts {m n : Node} {i j : Nat} {earlier later : List Stroke} (hij : i < j)
    (h : (m.under i earlier).through names <+: later) :
    Precedes names (m.under i earlier) (n.under j later) where
  path := List.cons_lt_cons_iff.mpr (.inl hij)
  before := ((before_through _).trans h).trans (List.prefix_append later n.before)
  inside hpath := absurd (List.cons_prefix_cons.mp hpath).1 (Nat.ne_of_lt hij)
  apart _ := h.trans (List.prefix_append later n.before)

/-- The nodes of what is written with some strokes: each ends with these strokes at the latest, and
precedes those after it. -/
structure InOrder (names : Assignment) (nodes : List Node) (strokes : List Stroke) : Prop where
  bounded : ∀ n ∈ nodes, n.through names <+: strokes
  ordered : nodes.Pairwise (Precedes names)

theorem InOrder.nil (strokes : List Stroke) : InOrder names [] strokes :=
  ⟨fun _ h => (List.not_mem_nil h).elim, .nil⟩

theorem InOrder.under {nodes : List Node} {strokes : List Stroke} (h : InOrder names nodes strokes)
    (i : Nat) (earlier : List Stroke) :
    InOrder names (nodes.map (under i earlier)) (earlier ++ strokes) where
  bounded n hn := by
    obtain ⟨m, hm, rfl⟩ := List.mem_map.mp hn
    rw [through_under, List.prefix_append_right_inj]
    exact h.bounded m hm
  ordered := List.pairwise_map.mpr (h.ordered.imp fun hm => hm.under i earlier)

/-- A node of parts is a node of one of them, and begins after the strokes before the parts. -/
theorem exists_of_mem_ofParts {sep earlier : List Stroke} {i : Nat}
    {parts : List (List Node × List Stroke)} {n : Node} (h : n ∈ ofParts sep i earlier parts) :
    ∃ (j : Nat) (later : List Stroke) (part : List Node × List Stroke), ∃ m ∈ part.1,
      parts[j]? = some part ∧ n = m.under (i + j) later ∧ earlier <+: later := by
  induction parts generalizing i earlier with
  | nil => exact (List.not_mem_nil h).elim
  | cons part parts ih =>
    obtain ⟨nodes, strokes⟩ := part
    rcases List.mem_append.mp h with h | h
    · obtain ⟨m, hm, rfl⟩ := List.mem_map.mp h
      exact ⟨0, earlier, (nodes, strokes), m, hm, rfl, rfl, List.prefix_refl _⟩
    · obtain ⟨j, later, part, m, hm, hpart, rfl, hlater⟩ := ih h
      refine ⟨j + 1, later, part, m, hm, hpart, ?_, ?_⟩
      · rw [Nat.add_assoc, Nat.add_comm 1]
      · rw [List.append_assoc] at hlater
        exact (List.prefix_append earlier _).trans hlater

theorem InOrder.ofParts (sep : List Stroke) {parts : List (List Node × List Stroke)}
    (h : ∀ part ∈ parts, InOrder names part.1 part.2) (i : Nat) (earlier : List Stroke) :
    InOrder names (ofParts sep i earlier parts)
      (earlier ++ sep.intercalate (parts.map Prod.snd)) := by
  induction parts generalizing i earlier with
  | nil => exact .nil _
  | cons part parts ih =>
    obtain ⟨nodes, strokes⟩ := part
    rw [List.forall_mem_cons] at h
    have hfirst : InOrder names (nodes.map (Node.under i earlier)) (earlier ++ strokes) :=
      h.1.under i earlier
    have hrest := ih h.2 (i + 1) (earlier ++ strokes ++ sep)
    constructor
    · intro n hn
      rw [List.map_cons, Fragment.intercalate_cons, ← List.append_assoc]
      rcases List.mem_append.mp hn with hn | hn
      · exact (hfirst.bounded n hn).trans (List.prefix_append _ _)
      · cases parts with
        | nil => exact (List.not_mem_nil hn).elim
        | cons next parts =>
          have hbound := hrest.bounded n hn
          rw [List.map_cons, Fragment.intercalate_cons] at hbound
          simpa only [List.map_cons, List.flatMap_cons, List.append_assoc] using hbound
    · refine List.pairwise_append.mpr ⟨hfirst.ordered, hrest.ordered, fun m hm n hn => ?_⟩
      obtain ⟨m', -, rfl⟩ := List.mem_map.mp hm
      obtain ⟨j, later, part, n', -, -, rfl, hlater⟩ := exists_of_mem_ofParts hn
      refine .of_parts (by omega) ((hfirst.bounded _ hm).trans ?_)
      exact (List.prefix_append _ sep).trans hlater

end Node

namespace Fragment

variable {names : Assignment}

open Node

theorem inOrder_rowPart {row : List (Fragment Value)}
    (h : ∀ f ∈ row, InOrder names (f.nodes names) (f.strokes names)) :
    InOrder names (rowPart names row).1 (rowPart names row).2 := by
  have hparts : ∀ p ∈ row.map (part names), InOrder names p.1 p.2 :=
    List.forall_mem_map.mpr h
  have hrow := InOrder.ofParts [.text " "] hparts 0 []
  rwa [List.map_map] at hrow

/-- The marked nodes of a tree are in order. -/
theorem inOrder_nodes (f : Fragment Value) : InOrder names (f.nodes names) (f.strokes names) := by
  induction f with
  | text _ | newline _ | pending _ | name _ | foreign _ => exact .nil _
  | seq fs ih =>
    have hparts : ∀ p ∈ fs.map (part names), InOrder names p.1 p.2 :=
      List.forall_mem_map.mpr ih
    have hseq := InOrder.ofParts [] hparts 0 []
    rw [List.map_map, nil_intercalate] at hseq
    rw [nodes_seq, strokes_seq, List.flatMap_def]
    exact hseq
  | table rows ih =>
    have hparts : ∀ p ∈ rows.map (rowPart names), InOrder names p.1 p.2 :=
      List.forall_mem_map.mpr fun row hrow => inOrder_rowPart (ih row hrow)
    have htable := InOrder.ofParts [.lineBreak 0] hparts 0 []
    rw [List.map_map] at htable
    rw [nodes_table, strokes_table]
    exact htable
  | marked mark f ih =>
    have hinside := ih.under 0 []
    rw [nodes_marked, strokes_marked]
    refine ⟨List.forall_mem_cons.mpr ⟨List.prefix_refl _, hinside.bounded⟩, ?_⟩
    refine List.pairwise_cons.mpr ⟨fun n hn => ?_, hinside.ordered⟩
    obtain ⟨m, -, rfl⟩ := List.mem_map.mp hn
    exact ⟨List.nil_lt_cons _ _, List.nil_prefix, fun _ => hinside.bounded _ hn,
      fun hpath => absurd List.nil_prefix hpath⟩

end Fragment

/-! ### The nodes are the marked fragments -/

namespace Node

/-- One of the nodes has a way, a mark and a body. -/
def Among (path : List Nat) (mark : Mark) (body : Fragment Value)
    (nodes : List Node) : Prop := ∃ before, ⟨path, before, mark, body⟩ ∈ nodes

section

variable {path : List Nat} {mark : Mark} {body : Fragment Value}

theorem among_map_under (i : Nat) (earlier : List Stroke) {nodes : List Node} :
    Among path mark body (nodes.map (under i earlier)) ↔
      ∃ rest, path = i :: rest ∧ Among rest mark body nodes := by
  constructor
  · rintro ⟨before, h⟩
    obtain ⟨n, hn, heq⟩ := List.mem_map.mp h
    cases heq
    exact ⟨n.path, rfl, n.before, hn⟩
  · rintro ⟨rest, rfl, before, h⟩
    exact ⟨earlier ++ before, List.mem_map_of_mem h⟩

theorem among_ofParts {sep earlier : List Stroke} {i : Nat}
    {parts : List (List Node × List Stroke)} :
    Among path mark body (ofParts sep i earlier parts) ↔
      ∃ j rest p, path = (i + j) :: rest ∧ parts[j]? = some p ∧ Among rest mark body p.1 := by
  induction parts generalizing i earlier with
  | nil => simp [Among, ofParts]
  | cons p parts ih =>
    have happend : Among path mark body (ofParts sep i earlier (p :: parts)) ↔
        Among path mark body (p.1.map (under i earlier)) ∨
          Among path mark body (ofParts sep (i + 1) (earlier ++ p.2 ++ sep) parts) := by
      simp only [Among, ofParts, List.mem_append, exists_or]
    rw [happend, among_map_under, ih]
    constructor
    · rintro (⟨rest, hpath, h⟩ | ⟨j, rest, q, hpath, hq, h⟩)
      · exact ⟨0, rest, p, hpath, rfl, h⟩
      · exact ⟨j + 1, rest, q, by rw [hpath, Nat.add_assoc, Nat.add_comm 1], hq, h⟩
    · rintro ⟨j, rest, q, hpath, hq, h⟩
      cases j with
      | zero =>
        cases hq
        exact .inl ⟨rest, hpath, h⟩
      | succ j => exact .inr ⟨j, rest, q, by rw [hpath, Nat.add_assoc, Nat.add_comm 1], hq, h⟩

end

end Node

namespace Fragment

variable {names : Assignment}

open Node

/-- The fragment at the end of a way from the root, if the way stays in the tree: it goes to a child
by its number, to a cell by the numbers of its row and its place there, and to the fragment under a
mark by zero. -/
def at? {α : Type} : Fragment α → List Nat → Option (Fragment α)
  | f, [] => some f
  | .seq fs, i :: path => fs[i]?.bind fun f => at? f path
  | .table rows, i :: j :: path => (rows[i]?.bind (·[j]?)).bind fun f => at? f path
  | .marked _ f, 0 :: path => at? f path
  | _, _ => none

theorem among_ofParts_map {fs : List (Fragment Value)} {path : List Nat} {mark : Mark}
    {body : Fragment Value} (sep : List Stroke)
    (ih : ∀ f ∈ fs, ∀ path, Among path mark body (f.nodes names) ↔
      f.at? path = some (.marked mark body)) :
    Among path mark body (ofParts sep 0 [] (fs.map (part names))) ↔
      ∃ i rest f, path = i :: rest ∧ fs[i]? = some f ∧ f.at? rest = some (.marked mark body) := by
  rw [among_ofParts]
  constructor
  · rintro ⟨i, rest, p, rfl, hp, h⟩
    rw [List.getElem?_map, Option.map_eq_some_iff] at hp
    obtain ⟨f, hf, rfl⟩ := hp
    exact ⟨i, rest, f, by rw [Nat.zero_add], hf, (ih f (List.mem_of_getElem? hf) rest).mp h⟩
  · rintro ⟨i, rest, f, rfl, hf, h⟩
    refine ⟨i, rest, part names f, by rw [Nat.zero_add], by rw [List.getElem?_map, hf]; rfl, ?_⟩
    exact (ih f (List.mem_of_getElem? hf) rest).mpr h

/-- The nodes of a tree are the marked fragments in it, wherever they are. -/
theorem among_nodes_iff {f : Fragment Value} {path : List Nat} {mark : Mark}
    {body : Fragment Value} :
    Among path mark body (f.nodes names) ↔ f.at? path = some (.marked mark body) := by
  induction f generalizing path with
  | text _ | newline _ | pending _ | name _ | foreign _ =>
    cases path <;> simp [Among, nodes, at?]
  | seq fs ih =>
    rw [nodes_seq, among_ofParts_map [] fun f hf path => ih f hf]
    cases path with
    | nil => simp [at?]
    | cons i path => simp [at?, Option.bind_eq_some_iff]
  | table rows ih =>
    have hrow : ∀ row ∈ rows, ∀ path, Among path mark body (rowPart names row).1 ↔
        ∃ j rest f, path = j :: rest ∧ row[j]? = some f ∧ f.at? rest = some (.marked mark body) :=
      fun row hrow path => among_ofParts_map [.text " "] (ih row hrow)
    rw [nodes_table, among_ofParts]
    constructor
    · rintro ⟨i, rest, p, rfl, hp, h⟩
      rw [List.getElem?_map, Option.map_eq_some_iff] at hp
      obtain ⟨row, hi, rfl⟩ := hp
      obtain ⟨j, rest, f, rfl, hj, h⟩ := (hrow row (List.mem_of_getElem? hi) rest).mp h
      rw [Nat.zero_add, at?, hi, Option.bind_some, hj]
      exact h
    · intro h
      match path with
      | [] => simp [at?] at h
      | [i] => simp [at?] at h
      | i :: j :: rest =>
        rw [at?, Option.bind_eq_some_iff] at h
        obtain ⟨f, hf, h⟩ := h
        obtain ⟨row, hi, hj⟩ := Option.bind_eq_some_iff.mp hf
        refine ⟨i, j :: rest, rowPart names row, by rw [Nat.zero_add],
          by rw [List.getElem?_map, hi]; rfl, ?_⟩
        exact (hrow row (List.mem_of_getElem? hi) _).mpr ⟨j, rest, f, rfl, hj, h⟩
  | marked other f ih =>
    have hcons : Among path mark body ((marked other f).nodes names) ↔
        (path = [] ∧ mark = other ∧ body = f) ∨
          ∃ rest, path = 0 :: rest ∧ Among rest mark body (f.nodes names) := by
      rw [← among_map_under 0 [], nodes_marked]
      simp only [Among, List.mem_cons, Node.mk.injEq, exists_or, exists_and_left, exists_eq_left]
    rw [hcons]
    match path with
    | [] =>
      constructor
      · rintro (⟨-, rfl, rfl⟩ | ⟨rest, hpath, -⟩)
        · rfl
        · cases hpath
      · intro h
        cases h
        exact .inl ⟨rfl, rfl, rfl⟩
    | 0 :: rest =>
      rw [at?, ← ih]
      simp
    | (i + 1) :: rest => simp [at?]

end Fragment

end SourceLayout
