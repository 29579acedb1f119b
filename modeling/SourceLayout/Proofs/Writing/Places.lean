import SourceLayout.Proofs.Writing.Lines
import SourceLayout.Proofs.Writing.Nodes

/-! Where strokes lead on a page.  The place after strokes is told by the strokes alone: its line is
the number of their line breaks, and its column is that of the margin and the text of the stretch
that they leave open, whether the margin is written yet or not.  The regions of a sheet are the
nodes of the tree between the places where they begin and end. -/

namespace SourceLayout

namespace Text

theorem length_repeated (count : Nat) (s : String) :
    (repeated count s).length = s.length * count := by
  unfold repeated
  split
  · next h => simp [String.isEmpty_iff.mp h]
  · rw [← String.length_toList, String.toList_join, List.length_flatMap]
    simp [Nat.mul_comm, String.length_toList]

end Text

namespace Stroke

/-- The stroke ends a line. -/
def isBreak : Stroke → Bool
  | .lineBreak _ => true
  | .text _ | .halt _ => false

/-- How many lines the strokes end. -/
def breaks (ss : List Stroke) : Nat := ss.countP isBreak

theorem breaks_append (ss ts : List Stroke) : breaks (ss ++ ts) = breaks ss + breaks ts :=
  List.countP_append

end Stroke

namespace Stretch

open Stroke

variable {indentation : String}

/-- The place after strokes, where the next text goes. -/
def place (indentation : String) (ss : List Stroke) : Location where
  line := breaks ss
  column :=
    (indentation.length * (ss.foldl add {}).level.toNat + (ss.foldl add {}).text.length : Nat)

/-- The cursor of a page stands after the margin and the text of the open stretch. -/
theorem cursor_page (ended : List String) (c : Stretch) :
    (c.page indentation ended).cursor indentation =
      ⟨ended.length, (indentation.length * c.level.toNat + c.text.length : Nat)⟩ := by
  simp only [Page.cursor, page, String.isEmpty_iff, line_eq_empty_iff, Location.mk.injEq, true_and]
  by_cases h : c.text = ""
  · simp [h]
  · simp [h, line_of_ne h, String.length_append, Text.length_repeated]

/-- Strokes that are drawn leave the page of the stretch that they leave open. -/
theorem exists_of_drawAll {ended : List String} {c : Stretch} {ss : List Stroke} {p : Page}
    (hlevel : 0 ≤ c.level) (h : drawAll indentation (c.page indentation ended) ss = .ok p) :
    ∃ more : List String, more.length = ended.length + breaks ss ∧
      p = (ss.foldl add c).page indentation more := by
  induction ss generalizing c ended with
  | nil =>
    cases h
    exact ⟨ended, rfl, rfl⟩
  | cons s ss ih =>
    rw [drawAll] at h
    obtain ⟨q, hq, h⟩ := bind_eq_ok.mp h
    cases s with
    | text content =>
      rw [draw, write_page] at hq
      split at hq
      · cases hq
      · cases hq
        exact ih hlevel h
    | lineBreak change =>
      rw [draw, breakLine_page ended hlevel] at hq
      split at hq
      · cases hq
      · next hfault =>
        cases hq
        have hnext : 0 ≤ (c.add (.lineBreak change)).level := by
          simp only [fault?] at hfault
          split at hfault
          · cases hfault
          · next h => simpa [add] using h
        obtain ⟨more, hlength, hp⟩ := ih hnext h
        refine ⟨more, ?_, hp⟩
        rw [hlength, List.length_cons, breaks, breaks, List.countP_cons_of_pos rfl]
        omega
    | halt fault => cases hq

/-- The cursor of a page stands at the place after the strokes on the page. -/
theorem cursor_of_drawAll {ss : List Stroke} {p : Page}
    (h : drawAll indentation Page.blank ss = .ok p) :
    p.cursor indentation = place indentation ss := by
  have hblank : Page.blank = ({} : Stretch).page indentation [] := rfl
  rw [hblank] at h
  obtain ⟨more, hlength, rfl⟩ := exists_of_drawAll (Int.le_refl 0) h
  rw [cursor_page, hlength, List.length_nil, Nat.zero_add]
  rfl

end Stretch

/-! ### The regions of a sheet -/

/-- The region of a node in a tree that is written after some strokes. -/
def Node.region (indentation : String) (names : Assignment) (earlier : List Stroke) (n : Node) :
    Region where
  mark := n.mark
  start := Stretch.place indentation (earlier ++ n.before)
  stop := Stretch.place indentation (earlier ++ n.through names)

theorem Node.region_under (indentation : String) (names : Assignment) (earlier later : List Stroke)
    (i : Nat) (n : Node) :
    (n.under i later).region indentation names earlier =
      n.region indentation names (earlier ++ later) := by
  rw [region, region, through_under, List.append_assoc, List.append_assoc]
  rfl

/-- What is written first and what is written next succeed when both together do. -/
theorem Written.andThen_eq_ok {first : Written} {next : Page → Written} {q : Page}
    {regions : List Region} :
    first.andThen next = .ok (q, regions) ↔
      ∃ p before after, first = .ok (p, before) ∧ next p = .ok (q, after) ∧
        before ++ after = regions := by
  rw [andThen, bind_eq_ok]
  constructor
  · rintro ⟨⟨p, before⟩, hfirst, h⟩
    obtain ⟨⟨p', after⟩, hnext, h⟩ := bind_eq_ok.mp h
    cases h
    exact ⟨p, before, after, hfirst, hnext, rfl⟩
  · rintro ⟨p, before, after, hfirst, hnext, rfl⟩
    exact ⟨(p, before), hfirst, bind_eq_ok.mpr ⟨(q, after), hnext, rfl⟩⟩

/-- Text and line breaks leave no regions. -/
theorem Written.regions_of_bind_nothing {e : Except Fault Page} {q : Page} {regions : List Region}
    (h : e.bind nothing = .ok (q, regions)) : regions = [] := by
  obtain ⟨p, -, h⟩ := bind_eq_ok.mp h
  cases h
  rfl

namespace Fragment

open Node Stroke

variable {indentation : String} {names : Assignment}

/-- Written after any strokes, the tree has the regions of its nodes. -/
def Spans (indentation : String) (names : Assignment) (f : Fragment Value) : Prop :=
  ∀ earlier p q regions, drawAll indentation Page.blank earlier = .ok p →
    f.writeOn indentation names p = .ok (q, regions) →
    regions = (f.nodes names).map (region indentation names earlier)

/-- A tree that is written has drawn its strokes. -/
theorem drawAll_of_writeOn {f : Fragment Value} {earlier : List Stroke} {p q : Page}
    {regions : List Region} (hp : drawAll indentation Page.blank earlier = .ok p)
    (h : f.writeOn indentation names p = .ok (q, regions)) :
    drawAll indentation Page.blank (earlier ++ f.strokes names) = .ok q := by
  have hpage : (f.writeOn indentation names p).page = _ := page_writeOn f p
  rw [h] at hpage
  rw [drawAll_append, hp]
  exact hpage.symm

theorem drawAll_of_writeRowOn {row : List (Fragment Value)} {earlier : List Stroke} {p q : Page}
    {regions : List Region} (hp : drawAll indentation Page.blank earlier = .ok p)
    (h : writeRowOn indentation names row p = .ok (q, regions)) :
    drawAll indentation Page.blank (earlier ++ rowStrokes names row) = .ok q := by
  have hpage : (writeRowOn indentation names row p).page = _ :=
    page_writeRowOn (fun f _ => page_writeOn f) p
  rw [h] at hpage
  rw [drawAll_append, hp]
  exact hpage.symm

theorem map_region_under (earlier later : List Stroke) (i : Nat) (nodes : List Node) :
    (nodes.map (under i later)).map (region indentation names earlier) =
      nodes.map (region indentation names (earlier ++ later)) := by
  rw [List.map_map]
  exact List.map_congr_left fun n _ => region_under indentation names earlier later i n

theorem regions_writeAllOn {fs : List (Fragment Value)} (h : ∀ f ∈ fs, f.Spans indentation names)
    {earlier later : List Stroke} {i : Nat} {p q : Page} {regions : List Region}
    (hp : drawAll indentation Page.blank (earlier ++ later) = .ok p)
    (hq : writeAllOn indentation names fs p = .ok (q, regions)) :
    regions = (ofParts [] i later (fs.map (part names))).map
      (region indentation names earlier) := by
  induction fs generalizing later i p regions with
  | nil =>
    cases hq
    rfl
  | cons f fs ih =>
    rw [List.forall_mem_cons] at h
    rw [writeAllOn, Written.andThen_eq_ok] at hq
    obtain ⟨p', before, after, hfirst, hrest, rfl⟩ := hq
    have hp' := drawAll_of_writeOn hp hfirst
    rw [List.append_assoc, ← List.append_nil (later ++ _)] at hp'
    rw [List.map_cons, part, ofParts, List.map_append, map_region_under,
      h.1 _ _ _ _ hp hfirst, ih h.2 hp' hrest]

theorem regions_writeCellsOn {fs : List (Fragment Value)} (h : ∀ f ∈ fs, f.Spans indentation names)
    {earlier later : List Stroke} {i : Nat} {p q : Page} {regions : List Region}
    (hp : drawAll indentation Page.blank (earlier ++ later) = .ok p)
    (hq : writeCellsOn indentation names fs p = .ok (q, regions)) :
    regions = (ofParts [.text " "] i (later ++ [.text " "]) (fs.map (part names))).map
      (region indentation names earlier) := by
  induction fs generalizing later i p regions with
  | nil =>
    cases hq
    rfl
  | cons f fs ih =>
    rw [List.forall_mem_cons] at h
    rw [writeCellsOn] at hq
    obtain ⟨spaced, hspace, hq⟩ := bind_eq_ok.mp hq
    obtain ⟨p', before, after, hfirst, hrest, rfl⟩ := Written.andThen_eq_ok.mp hq
    have hspaced : drawAll indentation Page.blank (earlier ++ (later ++ [.text " "])) =
        .ok spaced := by
      rw [← List.append_assoc, drawAll_append, hp]
      exact (drawAll_singleton indentation p _).trans hspace
    have hp' := drawAll_of_writeOn hspaced hfirst
    rw [List.append_assoc] at hp'
    rw [List.map_cons, part, ofParts, List.map_append, map_region_under,
      h.1 _ _ _ _ hspaced hfirst, ih h.2 hp' hrest]

theorem regions_writeRowOn {row : List (Fragment Value)}
    (h : ∀ f ∈ row, f.Spans indentation names) {earlier : List Stroke} {p q : Page}
    {regions : List Region} (hp : drawAll indentation Page.blank earlier = .ok p)
    (hq : writeRowOn indentation names row p = .ok (q, regions)) :
    regions = (rowPart names row).1.map (region indentation names earlier) := by
  cases row with
  | nil =>
    cases hq
    rfl
  | cons f fs =>
    rw [List.forall_mem_cons] at h
    rw [writeRowOn, Written.andThen_eq_ok] at hq
    obtain ⟨p', before, after, hfirst, hrest, rfl⟩ := hq
    have hp' := drawAll_of_writeOn hp hfirst
    rw [rowPart, List.map_cons, part, ofParts, List.map_append, map_region_under,
      List.append_nil, h.1 _ _ _ _ hp hfirst, regions_writeCellsOn h.2 hp' hrest]
    rfl

theorem regions_writeRowsOn {rows : List (List (Fragment Value))}
    (h : ∀ row ∈ rows, ∀ f ∈ row, f.Spans indentation names)
    {earlier later : List Stroke} {i : Nat} {p q : Page} {regions : List Region}
    (hp : drawAll indentation Page.blank (earlier ++ later) = .ok p)
    (hq : writeRowsOn indentation names rows p = .ok (q, regions)) :
    regions = (ofParts [.lineBreak 0] i (later ++ [.lineBreak 0]) (rows.map (rowPart names))).map
      (region indentation names earlier) := by
  induction rows generalizing later i p regions with
  | nil =>
    cases hq
    rfl
  | cons row rows ih =>
    rw [List.forall_mem_cons] at h
    rw [writeRowsOn, Written.andThen_eq_ok] at hq
    obtain ⟨p', before, after, hfirst, hrest, rfl⟩ := hq
    have hended : drawAll indentation Page.blank (earlier ++ (later ++ [.lineBreak 0])) =
        .ok p.endLine := by
      rw [← List.append_assoc, drawAll_append, hp]
      exact (drawAll_singleton indentation p (.lineBreak 0)).trans p.breakLine_zero
    have hp' := drawAll_of_writeRowOn hended hfirst
    rw [List.append_assoc] at hp'
    rw [List.map_cons, ofParts, List.map_append, map_region_under,
      regions_writeRowOn h.1 hended hfirst, ih h.2 hp' hrest]
    rfl

/-- Wherever a tree is written, it has the regions of its nodes. -/
theorem regions_writeOn (f : Fragment Value) : f.Spans indentation names := by
  intro earlier p q regions hp hq
  induction f generalizing earlier p q regions with
  | text _ | newline _ => exact Written.regions_of_bind_nothing hq
  | pending _ | foreign _ => cases hq
  | name n =>
    rw [writeOn] at hq
    cases hn : names.get? n with
    | none =>
      rw [hn] at hq
      cases hq
    | some s =>
      rw [hn] at hq
      exact Written.regions_of_bind_nothing hq
  | seq fs ih =>
    rw [writeOn] at hq
    rw [nodes_seq]
    rw [← List.append_nil earlier] at hp
    exact regions_writeAllOn ih hp hq
  | table rows ih =>
    cases rows with
    | nil =>
      cases hq
      rfl
    | cons row rows =>
      rw [List.forall_mem_cons] at ih
      rw [writeOn, Written.andThen_eq_ok] at hq
      obtain ⟨p', before, after, hfirst, hrest, rfl⟩ := hq
      have hp' := drawAll_of_writeRowOn hp hfirst
      rw [nodes_table, List.map_cons, ofParts, List.map_append, map_region_under, List.append_nil,
        regions_writeRowOn ih.1 hp hfirst, regions_writeRowsOn ih.2 hp' hrest]
      rfl
  | marked mark f ih =>
    rw [writeOn, Written.enclose] at hq
    obtain ⟨⟨p', inside⟩, hbody, hq⟩ := bind_eq_ok.mp hq
    cases hq
    have hp' := drawAll_of_writeOn hp hbody
    rw [nodes_marked, List.map_cons, map_region_under, List.append_nil, ih _ _ _ _ hp hbody]
    rw [Stretch.cursor_of_drawAll hp, Stretch.cursor_of_drawAll hp']
    simp [region, through]

/-- The regions of a sheet are those of the nodes of its tree. -/
theorem regions_toSheet {tree : Fragment Value} {sheet : Sheet}
    (h : tree.toSheet names indentation = .ok sheet) :
    sheet.regions = (tree.nodes names).map (region indentation names []) := by
  rw [toSheet] at h
  obtain ⟨⟨p, regions⟩, hwrite, h⟩ := bind_eq_ok.mp h
  cases h
  exact regions_writeOn tree [] Page.blank p regions rfl hwrite

end Fragment

end SourceLayout
