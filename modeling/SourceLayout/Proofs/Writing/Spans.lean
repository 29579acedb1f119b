import Mathlib.Data.List.Forall2
import Mathlib.Data.List.GetD
import SourceLayout.Proofs.Writing.Places
import SourceLayout.Proofs.Writing.Stretches

/-! What the regions of a sheet cut out of its lines: the text of the marked fragment, line by line.
A region that ends on the line on which it begins cuts out all of it.  Otherwise its first line goes
on to the end of the line, its last line begins after the margin, and the lines between are whole
lines. -/

namespace SourceLayout

namespace Text

/-- The part of a text from a column to another one.  Columns past the end of the text are its
end. -/
def slice (start stop : Nat) (s : String) : String :=
  String.ofList ((s.toList.take stop).drop start)

theorem slice_eq_iff {start stop : Nat} {s t : String} :
    slice start stop s = t ↔ (s.toList.take stop).drop start = t.toList := by
  rw [slice, ← String.toList_inj, String.toList_ofList]

end Text

namespace Stretch

open Stroke

variable {indentation : String}

/-- The margin that the line of a stretch begins with. -/
def margin (indentation : String) (c : Stretch) : String :=
  if c.text = "" then "" else Text.repeated c.level.toNat indentation

/-- The texts of strokes between their line breaks. -/
def texts (ss : List Stroke) : List String := (cuts {} ss).map text

/-! ### Slices of a line -/

section

variable (level : Int) (t u v : String)

theorem length_toList_repeated :
    (Text.repeated level.toNat indentation).toList.length =
      indentation.length * level.toNat := by
  rw [String.length_toList, Text.length_repeated]

/-- The part of a line between two places in its text. -/
theorem slice_line :
    Text.slice (indentation.length * level.toNat + t.length)
      (indentation.length * level.toNat + (t ++ u).length)
      (line indentation ⟨level, t ++ (u ++ v)⟩) = u := by
  rw [Text.slice_eq_iff]
  by_cases htext : t ++ (u ++ v) = ""
  · obtain ⟨-, huv⟩ := String.append_eq_empty_iff.mp htext
    simp [line, (String.append_eq_empty_iff.mp huv).1]
  · rw [line_of_ne htext, ← length_toList_repeated, ← String.length_toList,
      ← String.length_toList]
    simp [List.take_append, List.drop_append]

/-- The part of a line from a place in its text on. -/
theorem slice_line_end :
    Text.slice (indentation.length * level.toNat + t.length)
      (line indentation ⟨level, t ++ u⟩).length (line indentation ⟨level, t ++ u⟩) = u := by
  rw [Text.slice_eq_iff]
  by_cases htext : t ++ u = ""
  · obtain ⟨ht, hu⟩ := String.append_eq_empty_iff.mp htext
    simp [line, ht, hu]
  · rw [line_of_ne htext, ← length_toList_repeated, ← String.length_toList,
      ← String.length_toList]
    simp [List.take_append, List.drop_append]

/-- The part of a line up to a place in its text. -/
theorem slice_line_start :
    Text.slice 0 (indentation.length * level.toNat + u.length)
      (line indentation ⟨level, u ++ v⟩) = margin indentation ⟨level, u ++ v⟩ ++ u := by
  rw [Text.slice_eq_iff]
  by_cases htext : u ++ v = ""
  · obtain ⟨hu, hv⟩ := String.append_eq_empty_iff.mp htext
    simp [line, margin, hu, hv]
  · rw [line_of_ne htext, margin, if_neg htext, ← length_toList_repeated,
      ← String.length_toList]
    simp [List.take_append, List.take_of_length_le]

end

/-! ### The stretches of a region -/

theorem length_cuts (c : Stretch) (ss : List Stroke) : (cuts c ss).length = breaks ss + 1 := by
  induction ss generalizing c with
  | nil => rfl
  | cons s ss ih =>
    cases s with
    | text content => exact ih _
    | lineBreak change =>
      rw [cuts, List.length_cons, ih, breaks, breaks, List.countP_cons_of_pos rfl]
    | halt fault => exact ih _

theorem getD_texts (ss : List Stroke) (i : Nat) :
    (texts ss).getD i "" = ((cuts {} ss).getD i {}).text := by
  rw [texts, List.getD_eq_getElem?_getD, List.getD_eq_getElem?_getD, List.getElem?_map]
  cases (cuts {} ss)[i]? <;> rfl

/-- The text of the open stretch stands before the first text of the strokes, and before no
other. -/
theorem text_getD_cuts (c : Stretch) (ss : List Stroke) (i : Nat) :
    ((cuts c ss).getD i {}).text =
      (if i = 0 then c.text else "") ++ ((cuts {} ss).getD i {}).text := by
  induction ss generalizing c i with
  | nil => cases i <;> simp [cuts]
  | cons s ss ih =>
    cases s with
    | text content =>
      rw [cuts, cuts, ih, ih (add {} _)]
      cases i <;> simp [add, String.append_assoc]
    | lineBreak change =>
      rw [cuts, cuts]
      cases i with
      | zero => simp
      | succ i =>
        rw [List.getD_cons_succ, List.getD_cons_succ, ih, ih (add {} _)]
        simp [add]
    | halt fault => exact ih c i

/-- The stretch that strokes leave open is the last that they are cut to. -/
theorem getD_cuts_breaks (c : Stretch) (ss : List Stroke) :
    (cuts c ss).getD (breaks ss) {} = ss.foldl add c := by
  induction ss generalizing c with
  | nil => rfl
  | cons s ss ih =>
    rw [List.foldl_cons]
    cases s with
    | text content => exact ih _
    | lineBreak change =>
      rw [cuts, breaks, List.countP_cons_of_pos rfl, List.getD_cons_succ]
      exact ih _
    | halt fault => exact ih _

/-- A line past the end counts as the empty line. -/
theorem getD_linesOf (cs : List Stretch) (i : Nat) :
    (linesOf indentation cs).getD i "" = (cs.getD i {}).line indentation := by
  induction cs generalizing i with
  | nil => rfl
  | cons c cs ih =>
    cases cs with
    | nil =>
      rw [linesOf]
      split
      · next h => cases i <;> simp [line, h]
      · cases i <;> rfl
    | cons d cs =>
      rw [linesOf]
      cases i with
      | zero => rfl
      | succ i => exact ih i

theorem length_dropLast_cuts (c : Stretch) (ss : List Stroke) :
    (cuts c ss).dropLast.length = breaks ss := by
  rw [List.length_dropLast, length_cuts, Nat.add_sub_cancel]

/-- After their breaks, strokes are cut as from the stretch that those before them leave open. -/
theorem getD_cuts_append (c : Stretch) (ss ts : List Stroke) (i : Nat) :
    (cuts c (ss ++ ts)).getD (breaks ss + i) {} = (cuts (ss.foldl add c) ts).getD i {} := by
  have hlength := length_dropLast_cuts c ss
  rw [cuts_append, List.getD_append_right _ _ _ _ (by omega), hlength, Nat.add_sub_cancel_left]

/-- Before their last break, strokes are cut as they would be without others after them. -/
theorem getD_cuts_append_of_lt (c : Stretch) {ss : List Stroke} (ts : List Stroke) {i : Nat}
    (h : i < breaks ss) : (cuts c (ss ++ ts)).getD i {} = (cuts c ss).getD i {} := by
  have hlt : i < (cuts c ss).dropLast.length := by rwa [length_dropLast_cuts]
  have halone := cuts_append c ss []
  rw [List.append_nil] at halone
  rw [cuts_append, List.getD_append _ _ _ _ hlt]
  conv_rhs => rw [halone, List.getD_append _ _ _ _ hlt]

theorem level_getD_cuts_zero (c : Stretch) (ss : List Stroke) :
    ((cuts c ss).getD 0 {}).level = c.level := by
  obtain ⟨d, ds, hcuts, hlevel, -⟩ := exists_cuts_eq_cons c ss
  rw [hcuts]
  exact hlevel

/-- The stretch that strokes leave open begins the one that they are cut to there with others after
them. -/
theorem exists_getD_cuts_breaks (c : Stretch) (ss ts : List Stroke) :
    ∃ rest, (cuts c (ss ++ ts)).getD (breaks ss) {} =
      ⟨(ss.foldl add c).level, (ss.foldl add c).text ++ rest⟩ := by
  have hcuts : (cuts c (ss ++ ts)).getD (breaks ss) {} = (cuts (ss.foldl add c) ts).getD 0 {} :=
    getD_cuts_append c ss ts 0
  refine ⟨((cuts {} ts).getD 0 {}).text, ?_⟩
  rw [hcuts, ← level_getD_cuts_zero (ss.foldl add c) ts]
  exact congrArg (Stretch.mk _) (text_getD_cuts (ss.foldl add c) ts 0)

/-! ### What a region cuts out -/

/-- A region of the lines of stretches cuts out texts, each on a line of its own: an only one from
where the region begins to where it ends; else the first to the end of its line, the last after the
margin of its line, and those between as whole lines.  A line past the end counts as the empty
line. -/
def CutsOut (indentation : String) (cs : List Stretch) (lines texts : List String)
    (r : Region) : Prop :=
  ∃ l c m c' : Nat, r.start = ⟨l, c⟩ ∧ r.stop = ⟨(l + m : Nat), c'⟩ ∧ texts.length = m + 1 ∧
    (m = 0 → Text.slice c c' (lines.getD l "") = texts.getD 0 "") ∧
    (0 < m →
      Text.slice c (lines.getD l "").length (lines.getD l "") = texts.getD 0 "" ∧
      (∀ k, 0 < k → k < m → lines.getD (l + k) "" =
        Stretch.line indentation ⟨(cs.getD (l + k) {}).level, texts.getD k ""⟩) ∧
      Text.slice 0 c' (lines.getD (l + m) "") =
        (cs.getD (l + m) {}).margin indentation ++ texts.getD m "")

/-- The region between two places cuts out the strokes between them. -/
theorem cutsOut_places (mark : Mark) (before ss after : List Stroke) :
    CutsOut indentation (cuts {} (before ++ (ss ++ after)))
      (linesOf indentation (cuts {} (before ++ (ss ++ after)))) (texts ss)
      ⟨mark, place indentation before, place indentation (before ++ ss)⟩ := by
  set o := before.foldl add {} with ho
  set e := ss.foldl add o with he
  set cs := cuts {} (before ++ (ss ++ after))
  obtain ⟨more, hfirst⟩ : ∃ more, cs.getD (breaks before) {} = ⟨o.level, o.text ++ more⟩ :=
    exists_getD_cuts_breaks {} before (ss ++ after)
  -- The line that the region ends on begins with what the region leaves open.
  obtain ⟨rest, hlast⟩ : ∃ rest,
      cs.getD (breaks before + breaks ss) {} = ⟨e.level, e.text ++ rest⟩ := by
    have h := exists_getD_cuts_breaks {} (before ++ ss) after
    rwa [List.append_assoc, breaks_append, List.foldl_append] at h
  have hopen : e.text =
      (if breaks ss = 0 then o.text else "") ++ (texts ss).getD (breaks ss) "" := by
    rw [he, ← getD_cuts_breaks, text_getD_cuts, getD_texts]
  refine ⟨breaks before, indentation.length * o.level.toNat + o.text.length, breaks ss,
    indentation.length * e.level.toNat + e.text.length, rfl, ?_, ?_, fun hone => ?_, fun hmore => ?_⟩
  · simp only [place, breaks_append, List.foldl_append]
    rfl
  · rw [texts, List.length_map, length_cuts]
  · have hlevel : e.level = o.level := by
      rw [hone, Nat.add_zero, hfirst] at hlast
      exact (congrArg level hlast).symm
    rw [hone, if_pos rfl] at hopen
    rw [hone, Nat.add_zero] at hlast
    rw [getD_linesOf, hlast, ← hlevel, hopen, String.append_assoc]
    exact slice_line e.level o.text _ rest
  · rw [if_neg (Nat.ne_of_gt hmore), String.empty_append] at hopen
    have hown (k : Nat) (hk : k < breaks ss) : (cs.getD (breaks before + k) {}).text =
        (if k = 0 then o.text else "") ++ (texts ss).getD k "" := by
      have hcs : cs.getD (breaks before + k) {} = (cuts o (ss ++ after)).getD k {} :=
        getD_cuts_append {} before (ss ++ after) k
      rw [hcs, getD_cuts_append_of_lt o after hk, text_getD_cuts, getD_texts]
    refine ⟨?_, fun k hpos hk => ?_, ?_⟩
    · have htext : o.text ++ more = o.text ++ (texts ss).getD 0 "" := by
        have h := hown 0 hmore
        rwa [if_pos rfl, Nat.add_zero, hfirst] at h
      rw [getD_linesOf, hfirst, htext]
      exact slice_line_end o.level o.text _
    · have htext := hown k hk
      rw [if_neg (Nat.ne_of_gt hpos), String.empty_append] at htext
      rw [getD_linesOf, ← htext]
    · rw [getD_linesOf, hlast, ← hopen]
      exact slice_line_start e.level e.text rest

end Stretch

namespace Fragment

open Stretch Node

/-- A sheet has one region for every marked fragment of its tree, and each region cuts out of the
lines what is marked: the texts of the fragment between its line breaks. -/
theorem regions_cut_out {tree : Fragment Value} {names : Assignment} {indentation : String}
    {sheet : Sheet} (h : tree.toSheet names indentation = .ok sheet) :
    (∀ path mark body,
      Among path mark body (tree.nodes names) ↔ tree.at? path = some (.marked mark body)) ∧
    sheet.lines = linesOf indentation (cuts {} (tree.strokes names)) ∧
    (tree.nodes names).Forall₂ (fun n r => r.mark = n.mark ∧
      CutsOut indentation (cuts {} (tree.strokes names)) sheet.lines
        (texts (n.body.strokes names)) r) sheet.regions := by
  have hlines := lines_of_toSheet h
  refine ⟨fun path mark body => among_nodes_iff, hlines, ?_⟩
  rw [regions_toSheet h, hlines, List.forall₂_map_right_iff, List.forall₂_same]
  intro n hn
  obtain ⟨after, hafter⟩ := (inOrder_nodes tree).bounded n hn
  rw [← hafter, Node.through, List.append_assoc]
  exact ⟨rfl, cutsOut_places n.mark n.before (n.body.strokes names) after⟩

/-- A region of three lines, the second of them deeper, with a region inside of its first line. -/
theorem regions_cut_out_three_lines :
    let inner : Tree := text "b"
    let outer : Tree :=
      seq [text "a ", marked .plain inner, newline 1, text "c", newline (-1), text "d"]
    let tree : Tree := seq [text "f:", newline 1, marked (.issue "m") outer, text "e"]
    let sheet : Sheet := ⟨["f:", "\ta b", "\t\tc", "\tde"],
      [⟨.issue "m", ⟨1, 1⟩, ⟨3, 2⟩⟩, ⟨.plain, ⟨1, 3⟩, ⟨1, 4⟩⟩]⟩
    tree.toSheet .empty "\t" = .ok sheet ∧
    (∀ path mark body,
      Among path mark body (tree.nodes .empty) ↔ tree.at? path = some (.marked mark body)) ∧
    sheet.lines = linesOf "\t" (cuts {} (tree.strokes .empty)) ∧
    (tree.nodes .empty).Forall₂ (fun n r => r.mark = n.mark ∧
      CutsOut "\t" (cuts {} (tree.strokes .empty)) sheet.lines (texts (n.body.strokes .empty)) r)
      sheet.regions := by
  intro inner outer tree sheet
  have hsheet : tree.toSheet .empty "\t" = .ok sheet := rfl
  exact ⟨hsheet, regions_cut_out hsheet⟩

end Fragment

end SourceLayout
