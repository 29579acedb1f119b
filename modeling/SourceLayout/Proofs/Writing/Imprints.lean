import Mathlib.Algebra.BigOperators.Group.List.Basic
import SourceLayout.Proofs.Writing.Indentations

/-! The imprint of a tree: its strokes, with the spans of its marked fragments among them.  It is
all of a tree that decides what the tree is written to.  Imprints add up from left to right, so that
the imprint of a sequence is a sum, and that of a table is one with a line break between its rows
and a space between the cells of a row. -/

namespace SourceLayout

/-- A marked fragment among strokes: the strokes before it, and those up to its end. -/
structure Span where
  mark : Mark
  before : List Stroke
  through : List Stroke

namespace Span

/-- The span with more strokes before it. -/
def after (earlier : List Stroke) (s : Span) : Span :=
  ⟨s.mark, earlier ++ s.before, earlier ++ s.through⟩

@[simp] theorem after_nil (s : Span) : s.after [] = s := rfl

@[simp] theorem after_after (ss ts : List Stroke) (s : Span) :
    (s.after ts).after ss = s.after (ss ++ ts) := by
  simp [after, List.append_assoc]

@[simp] theorem map_after_nil (spans : List Span) : spans.map (after []) = spans :=
  List.map_id _

/-- The region of a sheet that a span comes to. -/
def region (indentation : String) (s : Span) : Region :=
  ⟨s.mark, Stretch.place indentation s.before, Stretch.place indentation s.through⟩

end Span

/-- Strokes, and spans among them. -/
@[ext] structure Imprint where
  strokes : List Stroke := []
  spans : List Span := []

namespace Imprint

/-- One imprint after another. -/
instance : Add Imprint where
  add o p := ⟨o.strokes ++ p.strokes, o.spans ++ p.spans.map (Span.after o.strokes)⟩

instance : Zero Imprint := ⟨{}⟩

theorem add_def (o p : Imprint) :
    o + p = ⟨o.strokes ++ p.strokes, o.spans ++ p.spans.map (Span.after o.strokes)⟩ := rfl

@[simp] theorem strokes_add (o p : Imprint) : (o + p).strokes = o.strokes ++ p.strokes := rfl

@[simp] theorem spans_zero : (0 : Imprint).spans = [] := rfl

instance : AddMonoid Imprint where
  add_assoc o p q := by simp [add_def, List.append_assoc]
  zero_add o := by
    show (⟨[] ++ o.strokes, [] ++ o.spans.map (Span.after [])⟩ : Imprint) = o
    rw [Span.map_after_nil]
    rfl
  add_zero o := by
    show (⟨o.strokes ++ [], o.spans ++ []⟩ : Imprint) = o
    rw [List.append_nil, List.append_nil]
  nsmul := nsmulRec

/-- An imprint without spans. -/
def ofStrokes (ss : List Stroke) : Imprint := ⟨ss, []⟩

/-- The imprint as that of a marked fragment. -/
def enclose (mark : Mark) (o : Imprint) : Imprint :=
  ⟨o.strokes, ⟨mark, [], o.strokes⟩ :: o.spans⟩

theorem strokes_sum (os : List Imprint) : os.sum.strokes = os.flatMap strokes := by
  induction os with
  | nil => rfl
  | cons o os ih => rw [List.sum_cons, strokes_add, ih, List.flatMap_cons]

end Imprint

/-- A function of parts and of the separator between them. -/
theorem map_intersperse {α β : Type} (f : α → β) (sep : α) (xs : List α) :
    (xs.intersperse sep).map f = (xs.map f).intersperse (f sep) := by
  match xs with
  | [] => rfl
  | [x] => rfl
  | x :: y :: xs =>
    have ih := map_intersperse f sep (y :: xs)
    rw [List.map_cons] at ih
    rw [List.intersperse_cons_cons, List.map_cons, List.map_cons, ih, List.map_cons, List.map_cons,
      List.intersperse_cons_cons]

/-- Without strokes, separators add nothing. -/
theorem Imprint.sum_intersperse_zero (os : List Imprint) : (os.intersperse 0).sum = os.sum := by
  match os with
  | [] => rfl
  | [o] => rfl
  | o :: p :: os =>
    rw [List.intersperse_cons_cons, List.sum_cons, List.sum_cons, zero_add,
      sum_intersperse_zero (p :: os)]
    exact List.sum_cons.symm

namespace Node

variable {names : Assignment}

/-- The span of a node. -/
def span (names : Assignment) (n : Node) : Span := ⟨n.mark, n.before, n.through names⟩

theorem span_under (i : Nat) (earlier : List Stroke) (n : Node) :
    (n.under i earlier).span names = (n.span names).after earlier := by
  rw [span, through_under]
  rfl

theorem map_span_under (i : Nat) (earlier : List Stroke) (nodes : List Node) :
    (nodes.map (under i earlier)).map (span names) =
      (nodes.map (span names)).map (Span.after earlier) := by
  rw [List.map_map, List.map_map]
  exact List.map_congr_left fun n _ => span_under i earlier n

/-- The imprint of a part. -/
def imprint (names : Assignment) (part : List Node × List Stroke) : Imprint :=
  ⟨part.2, part.1.map (span names)⟩

/-- The spans of parts are those of the sum of the parts, with the separators in between. -/
theorem spans_ofParts (sep : List Stroke) (i : Nat) (earlier : List Stroke)
    (parts : List (List Node × List Stroke)) :
    (ofParts sep i earlier parts).map (span names) =
      ((parts.map (imprint names)).intersperse (.ofStrokes sep)).sum.spans.map
        (Span.after earlier) := by
  induction parts generalizing i earlier with
  | nil => rfl
  | cons part parts ih =>
    obtain ⟨nodes, strokes⟩ := part
    rw [ofParts, List.map_append, map_span_under, ih]
    cases parts with
    | nil => simp [imprint]
    | cons next parts =>
      simp [List.intersperse_cons_cons, Imprint.add_def, imprint, Imprint.ofStrokes,
        List.append_assoc]

/-- Parts that are written after each other with their separators have the imprint of their sum. -/
theorem sum_intersperse (names : Assignment) (sep : List Stroke)
    (parts : List (List Node × List Stroke)) :
    ((parts.map (imprint names)).intersperse (.ofStrokes sep)).sum =
      imprint names (ofParts sep 0 [] parts, sep.intercalate (parts.map Prod.snd)) := by
  refine Imprint.ext ?_ ?_
  · rw [Imprint.strokes_sum, List.flatMap_def, map_intersperse, List.map_map]
    rfl
  · rw [imprint, spans_ofParts, Span.map_after_nil]

end Node

namespace Fragment

open Node

variable (names : Assignment)

/-- The imprint of a tree. -/
def imprint (f : Fragment Value) : Imprint := Node.imprint names (part names f)

/-- The imprint of a row. -/
def rowImprint (row : List (Fragment Value)) : Imprint :=
  ((row.map (imprint names)).intersperse (.ofStrokes [.text " "])).sum

theorem rowImprint_eq (row : List (Fragment Value)) :
    rowImprint names row = Node.imprint names (rowPart names row) := by
  have hsum := sum_intersperse names [.text " "] (row.map (part names))
  rw [List.map_map, List.map_map] at hsum
  exact hsum

@[simp] theorem imprint_seq (fs : List (Fragment Value)) :
    (seq fs).imprint names = (fs.map (imprint names)).sum := by
  have hsum := sum_intersperse names [] (fs.map (part names))
  rw [List.map_map, List.map_map, nil_intercalate] at hsum
  rw [imprint, part, nodes_seq, strokes_seq, List.flatMap_def]
  exact hsum.symm.trans (Imprint.sum_intersperse_zero _)

@[simp] theorem imprint_table (rows : List (List (Fragment Value))) :
    (table rows).imprint names =
      ((rows.map (rowImprint names)).intersperse (.ofStrokes [.lineBreak 0])).sum := by
  have hsum := sum_intersperse names [.lineBreak 0] (rows.map (rowPart names))
  rw [List.map_map, List.map_map] at hsum
  rw [imprint, part, nodes_table, strokes_table, funext (rowImprint_eq names)]
  exact hsum.symm

@[simp] theorem imprint_marked (mark : Mark) (f : Fragment Value) :
    (marked mark f).imprint names = (f.imprint names).enclose mark := by
  refine Imprint.ext rfl ?_
  show (Fragment.nodes names (.marked mark f)).map (span names) = _
  rw [nodes_marked, List.map_cons, map_span_under, Span.map_after_nil]
  rfl

/-- One fragment and the sequence of it have the same imprint. -/
@[simp] theorem imprint_ofList (fs : List (Fragment Value)) :
    (ofList fs).imprint names = (fs.map (imprint names)).sum := by
  match fs with
  | [] => rfl
  | [f] => simp
  | f :: g :: fs => exact imprint_seq names (f :: g :: fs)

variable {names}

/-- Trees with the same imprint are written to the same sheet, or fail alike. -/
theorem toSheet_congr {tree other : Fragment Value}
    (h : other.imprint names = tree.imprint names) (indentation : String) :
    other.toSheet names indentation = tree.toSheet names indentation := by
  have hstrokes : other.strokes names = tree.strokes names := congrArg Imprint.strokes h
  have hspans : (other.nodes names).map (span names) = (tree.nodes names).map (span names) :=
    congrArg Imprint.spans h
  cases htree : tree.toSheet names indentation with
  | error fault =>
    rw [toSheet_eq_error_iff] at htree ⊢
    rwa [hstrokes]
  | ok sheet =>
    cases hother : other.toSheet names indentation with
    | error fault =>
      rw [toSheet_eq_error_iff, hstrokes, ← toSheet_eq_error_iff, htree] at hother
      cases hother
    | ok more =>
      have hlines : more.lines = sheet.lines := by
        rw [lines_of_toSheet hother, lines_of_toSheet htree, hstrokes]
      have hregion : Node.region indentation names [] = Span.region indentation ∘ span names := rfl
      have hregions : more.regions = sheet.regions := by
        rw [regions_toSheet hother, regions_toSheet htree, hregion, ← List.map_map, hspans,
          List.map_map]
      cases sheet
      exact congrArg Except.ok (Sheet.mk.injEq .. ▸ ⟨hlines, hregions⟩)

end Fragment

end SourceLayout
