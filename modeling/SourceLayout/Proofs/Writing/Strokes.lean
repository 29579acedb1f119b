import Mathlib.Data.List.Basic
import SourceLayout.Proofs.Fragment.Leaves
import SourceLayout.Sheet

/-! The strokes of a tree: the texts and line breaks that writing it puts on a page, from left to
right, and the places where writing cannot go on.  A mark makes no stroke.  Writing a tree on a page
is drawing its strokes one after the other. -/

namespace SourceLayout

/-- One thing that writing puts on a page: a text, a line break with its change of indentation, or a
fault that ends the writing. -/
inductive Stroke where
  | text (content : String)
  | lineBreak (change : Int)
  | halt (fault : Fault)
deriving Inhabited

namespace Stroke

/-- The stroke neither halts nor changes the level. -/
def IsFlat : Stroke → Prop
  | .text _ => True
  | .lineBreak change => change = 0
  | .halt _ => False

/-- The page after a stroke. -/
def draw (indentation : String) (p : Page) : Stroke → Except Fault Page
  | .text content => p.write indentation content
  | .lineBreak change => p.breakLine change
  | .halt fault => .error fault

/-- The page after strokes, in order. -/
def drawAll (indentation : String) (p : Page) : List Stroke → Except Fault Page
  | [] => .ok p
  | s :: ss => (draw indentation p s).bind fun q => drawAll indentation q ss

@[simp] theorem drawAll_nil (indentation : String) (p : Page) :
    drawAll indentation p [] = .ok p := rfl

theorem drawAll_append (indentation : String) (p : Page) (ss ts : List Stroke) :
    drawAll indentation p (ss ++ ts) =
      (drawAll indentation p ss).bind fun q => drawAll indentation q ts := by
  induction ss generalizing p with
  | nil => rfl
  | cons s ss ih =>
    simp only [List.cons_append, drawAll]
    cases draw indentation p s with
    | error fault => rfl
    | ok q => exact ih q

theorem drawAll_singleton (indentation : String) (p : Page) (s : Stroke) :
    drawAll indentation p [s] = draw indentation p s := by
  simp only [drawAll]
  cases draw indentation p s <;> rfl

end Stroke

namespace Fragment

mutual

/-- The strokes of a tree: a space between neighbouring cells of a row, and a line break that
changes nothing between neighbouring rows of a table. -/
def strokes (names : Assignment) : Fragment Value → List Stroke
  | .text s => [.text s]
  | .newline change => [.lineBreak change]
  | .pending _ => [.halt .treeUnfinished]
  | .name n => [(names.get? n).elim (.halt (.unassigned n)) .text]
  | .seq fs => (strokesOf names fs).flatten
  | .table rows => [.lineBreak 0].intercalate (strokesOfRows names rows)
  | .marked _ f => strokes names f
  | .foreign v => [.halt (.unknownFragment v)]

/-- The strokes of each of the trees. -/
def strokesOf (names : Assignment) : List (Fragment Value) → List (List Stroke)
  | [] => []
  | f :: fs => strokes names f :: strokesOf names fs

/-- The strokes of each of the rows. -/
def strokesOfRows (names : Assignment) : List (List (Fragment Value)) → List (List Stroke)
  | [] => []
  | row :: rows => [.text " "].intercalate (strokesOf names row) :: strokesOfRows names rows

end

variable (names : Assignment)

theorem strokesOf_eq_map (fs : List (Fragment Value)) :
    strokesOf names fs = fs.map (strokes names) := by
  induction fs with
  | nil => rfl
  | cons f fs ih => rw [strokesOf, ih, List.map_cons]

/-- The strokes of a row. -/
def rowStrokes (row : List (Fragment Value)) : List Stroke :=
  [Stroke.text " "].intercalate (row.map (strokes names))

theorem strokesOfRows_eq_map (rows : List (List (Fragment Value))) :
    strokesOfRows names rows = rows.map (rowStrokes names) := by
  induction rows with
  | nil => rfl
  | cons row rows ih => rw [strokesOfRows, ih, strokesOf_eq_map, List.map_cons, rowStrokes]

@[simp] theorem strokes_seq (fs : List (Fragment Value)) :
    (seq fs).strokes names = fs.flatMap (strokes names) := by
  rw [strokes, strokesOf_eq_map, List.flatMap_def]

@[simp] theorem strokes_table (rows : List (List (Fragment Value))) :
    (table rows).strokes names =
      [Stroke.lineBreak 0].intercalate (rows.map (rowStrokes names)) := by
  rw [strokes, strokesOfRows_eq_map]

@[simp] theorem strokes_marked (mark : Mark) (f : Fragment Value) :
    (marked mark f).strokes names = f.strokes names := rfl

/-- One fragment and the sequence of it have the same strokes. -/
theorem strokes_ofList (fs : List (Fragment Value)) :
    (ofList fs).strokes names = fs.flatMap (strokes names) := by
  match fs with
  | [] => rfl
  | [f] => simp
  | f :: g :: fs => exact strokes_seq names (f :: g :: fs)

/-! ### Parts with separators -/

section Intercalate

variable {β : Type}

/-- Separators stand before all parts but the first. -/
theorem intercalate_cons (sep part : List β) (parts : List (List β)) :
    sep.intercalate (part :: parts) = part ++ parts.flatMap fun other => sep ++ other := by
  induction parts generalizing part with
  | nil => simp
  | cons other parts ih => simp [ih]

theorem nil_intercalate (parts : List (List β)) : [].intercalate parts = parts.flatten := by
  cases parts with
  | nil => rfl
  | cons part parts => simp [intercalate_cons, List.flatMap_def]

/-- What stands among parts with separators is from the separator or from a part. -/
theorem mem_of_mem_intercalate {x : β} {sep : List β} {parts : List (List β)}
    (h : x ∈ sep.intercalate parts) : x ∈ sep ∨ ∃ part ∈ parts, x ∈ part := by
  cases parts with
  | nil => simp at h
  | cons part parts =>
    rw [intercalate_cons, List.mem_append, List.mem_flatMap] at h
    rcases h with h | ⟨other, hother, h⟩
    · exact .inr ⟨part, List.mem_cons_self, h⟩
    · rcases List.mem_append.mp h with h | h
      · exact .inl h
      · exact .inr ⟨other, List.mem_cons_of_mem part hother, h⟩

end Intercalate

/-- A stroke of a tree is a stroke of one of its leaves, or stands between two cells or two rows. -/
theorem mem_strokes {names : Assignment} {f : Fragment Value} {s : Stroke}
    (h : s ∈ f.strokes names) :
    s = .text " " ∨ s = .lineBreak 0 ∨ ∃ leaf ∈ f.leaves, s ∈ leaf.strokes names := by
  induction f with
  | text _ | newline _ | pending _ | name _ | foreign _ =>
    exact .inr (.inr ⟨_, List.mem_singleton_self _, h⟩)
  | seq fs ih =>
    rw [strokes_seq, List.mem_flatMap] at h
    obtain ⟨f, hf, h⟩ := h
    refine (ih f hf h).imp_right (Or.imp_right fun ⟨leaf, hleaf, hs⟩ => ⟨leaf, ?_, hs⟩)
    rw [leaves_seq]
    exact List.mem_flatMap_of_mem hf hleaf
  | table rows ih =>
    rw [strokes_table] at h
    rcases mem_of_mem_intercalate h with h | ⟨part, hpart, h⟩
    · exact .inr (.inl (List.mem_singleton.mp h))
    obtain ⟨row, hrow, rfl⟩ := List.mem_map.mp hpart
    rcases mem_of_mem_intercalate h with h | ⟨part, hpart, h⟩
    · exact .inl (List.mem_singleton.mp h)
    obtain ⟨f, hf, rfl⟩ := List.mem_map.mp hpart
    refine (ih row hrow f hf h).imp_right (Or.imp_right fun ⟨leaf, hleaf, hs⟩ => ⟨leaf, ?_, hs⟩)
    rw [leaves_table]
    exact List.mem_flatMap_of_mem hrow (List.mem_flatMap_of_mem hf hleaf)
  | marked mark f ih => exact ih h

/-- The strokes of a tree halt at a pending break, a name without text or a foreign child. -/
theorem leaf_of_halt_mem {names : Assignment} {f : Fragment Value} {fault : Fault}
    (h : .halt fault ∈ f.strokes names) :
    (∃ index, .pending index ∈ f.leaves ∧ fault = .treeUnfinished) ∨
      (∃ n, .name n ∈ f.leaves ∧ names.get? n = none ∧ fault = .unassigned n) ∨
      ∃ v, .foreign v ∈ f.leaves ∧ fault = .unknownFragment v := by
  rcases mem_strokes h with h | h | ⟨leaf, hleaf, h⟩
  · cases h
  · cases h
  cases leaf with
  | text _ | newline _ => cases List.mem_singleton.mp h
  | pending index =>
    cases List.mem_singleton.mp h
    exact .inl ⟨index, hleaf, rfl⟩
  | name n =>
    rw [strokes, List.mem_singleton] at h
    cases hn : names.get? n with
    | none =>
      rw [hn] at h
      cases h
      exact .inr (.inl ⟨n, hleaf, hn, rfl⟩)
    | some s =>
      rw [hn] at h
      cases h
  | foreign v =>
    cases List.mem_singleton.mp h
    exact .inr (.inr ⟨v, hleaf, rfl⟩)
  | seq _ | table _ | marked _ _ => cases isLeaf_of_mem_leaves hleaf

/-- The leaf can be written on any line: it is a text, or a name with a text. -/
def IsWritable (names : Assignment) : Fragment Value → Prop
  | .text _ => True
  | .name n => ∃ s, names.get? n = some s
  | _ => False

/-- Writable leaves make texts, and line breaks that change no level between the rows of tables. -/
theorem isFlat_of_mem_strokes {names : Assignment} {f : Fragment Value}
    (h : ∀ leaf ∈ f.leaves, leaf.IsWritable names) : ∀ s ∈ f.strokes names, s.IsFlat := by
  intro s hs
  rcases mem_strokes hs with rfl | rfl | ⟨leaf, hleaf, hs⟩
  · trivial
  · rfl
  have hwritable := h leaf hleaf
  cases leaf with
  | text content =>
    rw [List.mem_singleton.mp hs]
    trivial
  | name n =>
    obtain ⟨content, hcontent⟩ := hwritable
    rw [strokes, hcontent] at hs
    rw [List.mem_singleton.mp hs]
    trivial
  | newline _ | pending _ | seq _ | table _ | marked _ _ | foreign _ => exact hwritable.elim

/-- Without line breaks of its own, a tree whose strokes do not halt changes no level. -/
theorem isFlat_of_newlines {names : Assignment} {f : Fragment Value} (hnewlines : f.newlines = [])
    (hhalt : ∀ fault, .halt fault ∉ f.strokes names) : ∀ s ∈ f.strokes names, s.IsFlat := by
  intro s hs
  rcases mem_strokes hs with rfl | rfl | ⟨leaf, hleaf, hstroke⟩
  · trivial
  · rfl
  cases s with
  | text content => trivial
  | halt fault => exact absurd hs (hhalt fault)
  | lineBreak change =>
    cases leaf with
    | newline other =>
      have hmem : other ∈ f.newlines := List.mem_filterMap.mpr ⟨_, hleaf, rfl⟩
      rw [hnewlines] at hmem
      cases hmem
    | name n =>
      rw [strokes, List.mem_singleton] at hstroke
      cases hn : names.get? n <;> simp [hn] at hstroke
    | text _ | pending _ | foreign _ => simp [strokes] at hstroke
    | seq _ | table _ | marked _ _ => cases isLeaf_of_mem_leaves hleaf

theorem pendings_eq_nil_of_writable {names : Assignment} {f : Fragment Value}
    (h : ∀ leaf ∈ f.leaves, leaf.IsWritable names) : f.pendings = [] := by
  rw [pendings, List.filterMap_eq_nil_iff]
  intro leaf hleaf
  have hwritable := h leaf hleaf
  cases leaf with
  | pending index => exact hwritable.elim
  | text _ | newline _ | name _ | seq _ | table _ | marked _ _ | foreign _ => rfl

end Fragment

namespace Written

/-- The page after what was written. -/
def page (w : Written) : Except Fault Page := w.map Prod.fst

@[simp] theorem page_nothing (p : Page) : (nothing p).page = .ok p := rfl

@[simp] theorem page_bind_nothing (e : Except Fault Page) : Written.page (e.bind nothing) = e := by
  cases e <;> rfl

@[simp] theorem page_andThen (first : Written) (next : Page → Written) :
    (first.andThen next).page = first.page.bind fun p => (next p).page := by
  cases first with
  | error fault => rfl
  | ok written =>
    simp only [andThen, page, Except.map, Except.bind, bind, pure, Except.pure]
    cases next written.1 <;> rfl

@[simp] theorem page_enclose (indentation : String) (mark : Mark) (start : Location)
    (body : Written) : (body.enclose indentation mark start).page = body.page := by
  cases body <;> rfl

end Written

/-- A line break that changes no indentation ends the line. -/
theorem Page.breakLine_zero (p : Page) : p.breakLine 0 = .ok p.endLine := by
  have h : ¬(p.level : Int) < 0 := by omega
  simp only [breakLine, Int.add_zero, if_neg h, Int.toNat_natCast]
  rfl

/-! ### Writing is drawing -/

namespace Fragment

variable (indentation : String) (names : Assignment)

/-- Writing a tree draws its strokes. -/
def Draws (f : Fragment Value) : Prop :=
  ∀ p, (f.writeOn indentation names p).page = Stroke.drawAll indentation p (f.strokes names)

variable {indentation names}

theorem page_writeAllOn {fs : List (Fragment Value)}
    (h : ∀ f ∈ fs, f.Draws indentation names) (p : Page) :
    (writeAllOn indentation names fs p).page =
      Stroke.drawAll indentation p (fs.flatMap (strokes names)) := by
  induction fs generalizing p with
  | nil => rfl
  | cons f fs ih =>
    simp only [List.forall_mem_cons] at h
    rw [writeAllOn, Written.page_andThen, h.1 p, List.flatMap_cons, Stroke.drawAll_append]
    congr 1
    funext q
    exact ih h.2 q

theorem page_writeCellsOn {fs : List (Fragment Value)}
    (h : ∀ f ∈ fs, f.Draws indentation names) (p : Page) :
    (writeCellsOn indentation names fs p).page =
      Stroke.drawAll indentation p
        ((fs.map (strokes names)).flatMap fun cell => [.text " "] ++ cell) := by
  induction fs generalizing p with
  | nil => rfl
  | cons f fs ih =>
    simp only [List.forall_mem_cons] at h
    rw [writeCellsOn, List.map_cons, List.flatMap_cons, List.append_assoc, Stroke.drawAll_append,
      Stroke.drawAll_singleton, Stroke.draw]
    cases p.write indentation " " with
    | error fault => rfl
    | ok spaced =>
      show Written.page (Written.andThen _ _) = Stroke.drawAll indentation spaced _
      rw [Written.page_andThen, h.1 spaced, Stroke.drawAll_append]
      congr 1
      funext q
      exact ih h.2 q

theorem page_writeRowOn {row : List (Fragment Value)}
    (h : ∀ f ∈ row, f.Draws indentation names) (p : Page) :
    (writeRowOn indentation names row p).page =
      Stroke.drawAll indentation p (rowStrokes names row) := by
  cases row with
  | nil => rfl
  | cons f fs =>
    simp only [List.forall_mem_cons] at h
    rw [writeRowOn, Written.page_andThen, h.1 p, rowStrokes, List.map_cons, intercalate_cons,
      Stroke.drawAll_append]
    congr 1
    funext q
    exact page_writeCellsOn h.2 q

theorem page_writeRowsOn {rows : List (List (Fragment Value))}
    (h : ∀ row ∈ rows, ∀ f ∈ row, f.Draws indentation names) (p : Page) :
    (writeRowsOn indentation names rows p).page =
      Stroke.drawAll indentation p
        ((rows.map (rowStrokes names)).flatMap fun row => [.lineBreak 0] ++ row) := by
  induction rows generalizing p with
  | nil => rfl
  | cons row rows ih =>
    simp only [List.forall_mem_cons] at h
    rw [writeRowsOn, Written.page_andThen, page_writeRowOn h.1, List.map_cons, List.flatMap_cons,
      List.append_assoc, Stroke.drawAll_append, Stroke.drawAll_singleton, Stroke.draw,
      Page.breakLine_zero]
    show _ = Stroke.drawAll indentation p.endLine _
    rw [Stroke.drawAll_append]
    congr 1
    funext q
    exact ih h.2 q

/-- The page that a tree is written to is the page with its strokes. -/
theorem page_writeOn (f : Fragment Value) : f.Draws indentation names := by
  intro p
  induction f generalizing p with
  | text s =>
    rw [writeOn, Written.page_bind_nothing, strokes, Stroke.drawAll_singleton, Stroke.draw]
  | newline change =>
    rw [writeOn, Written.page_bind_nothing, strokes, Stroke.drawAll_singleton, Stroke.draw]
  | pending index => rfl
  | name n =>
    rw [writeOn, strokes, Stroke.drawAll_singleton]
    cases names.get? n with
    | none => rfl
    | some s => exact Written.page_bind_nothing _
  | seq fs ih => rw [writeOn, page_writeAllOn ih, strokes_seq]
  | table rows ih =>
    cases rows with
    | nil => rfl
    | cons row rows =>
      simp only [List.forall_mem_cons] at ih
      rw [writeOn, Written.page_andThen, page_writeRowOn ih.1, strokes_table, List.map_cons,
        intercalate_cons, Stroke.drawAll_append]
      congr 1
      funext q
      exact page_writeRowsOn ih.2 q
  | marked mark f ih => rw [writeOn, Written.page_enclose, ih, strokes_marked]
  | foreign v => rfl

end Fragment

end SourceLayout
