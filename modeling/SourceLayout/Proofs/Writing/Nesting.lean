import SourceLayout.Proofs.Writing.Places

/-! How the regions of a sheet lie to each other.  The place after strokes never moves back when
more strokes are made, so that regions begin in the order of their nodes, lie inside of each other
where their nodes do, and do not overlap otherwise. -/

namespace SourceLayout

/-- A place is no later than another one on a later line, or on the same line at no later a
column. -/
theorem Location.le_iff {a b : Location} :
    a ≤ b ↔ a.line < b.line ∨ a.line = b.line ∧ a.column ≤ b.column := by
  have hle : a ≤ b ↔ a.Before b ∨ a = b := Iff.rfl
  rw [hle, Before]
  obtain ⟨line, column⟩ := a
  obtain ⟨line', column'⟩ := b
  simp only [Location.mk.injEq]
  omega

namespace Stretch

open Stroke

variable {indentation : String}

/-- Strokes without a line break add to the text of the open stretch only. -/
theorem foldl_add_of_breaks_eq_zero {ss : List Stroke} (h : breaks ss = 0) (c : Stretch) :
    ∃ more, ss.foldl add c = ⟨c.level, c.text ++ more⟩ := by
  induction ss generalizing c with
  | nil => exact ⟨"", by rw [String.append_empty]; rfl⟩
  | cons s ss ih =>
    cases s with
    | text content =>
      obtain ⟨more, hmore⟩ := ih h (c.add (.text content))
      exact ⟨content ++ more, by rw [List.foldl_cons, hmore, ← String.append_assoc]; rfl⟩
    | lineBreak change =>
      rw [breaks, List.countP_cons_of_pos rfl] at h
      cases h
    | halt fault => exact ih h c

/-- More strokes lead to no earlier place. -/
theorem place_mono {ss ts : List Stroke} (h : ss <+: ts) :
    place indentation ss ≤ place indentation ts := by
  obtain ⟨more, rfl⟩ := h
  rw [Location.le_iff]
  simp only [place, breaks_append, List.foldl_append]
  by_cases hmore : breaks more = 0
  · obtain ⟨text, htext⟩ := foldl_add_of_breaks_eq_zero hmore (ss.foldl add {})
    simp only [htext, String.length_append]
    omega
  · omega

end Stretch

/-- A marked node with its region begins no later than another one.  It ends no sooner if the other
node is inside of it, and no later than the other one begins if not. -/
structure Nests (a b : Node × Region) : Prop where
  start : a.2.start ≤ b.2.start
  inside : a.1.path <+: b.1.path → b.2.stop ≤ a.2.stop
  apart : ¬a.1.path <+: b.1.path → a.2.stop ≤ b.2.start

namespace Fragment

open Stretch Node

variable {names : Assignment} {indentation : String}

/-- The issues of a sheet are those of its regions that have the mark of an issue. -/
theorem issues_eq_filterMap (sheet : Sheet) :
    sheet.issues = sheet.regions.filterMap fun r =>
      match r.mark with
      | .issue _ => some r
      | .plain => none := by
  rw [Sheet.issues, ← List.filterMap_eq_filter]
  congr 1
  funext r
  cases hmark : r.mark <;> simp [Option.guard, hmark, Mark.isIssue]

/-- A sheet has one region for every marked node of its tree, in the order in which the nodes begin,
a node before those inside of it.  No region begins after its end, and any two of them nest as their
nodes do.  The issues are the regions of the nodes that are marked as issues, in the same order. -/
theorem regions_nest {tree : Fragment Value} {sheet : Sheet}
    (h : tree.toSheet names indentation = .ok sheet) :
    (∀ path mark body,
      Among path mark body (tree.nodes names) ↔ tree.at? path = some (.marked mark body)) ∧
    (tree.nodes names).Pairwise (fun m n => m.path < n.path) ∧
    sheet.regions.map Region.mark = (tree.nodes names).map Node.mark ∧
    (∀ r ∈ sheet.regions, r.start ≤ r.stop) ∧
    ((tree.nodes names).zip sheet.regions).Pairwise Nests ∧
    sheet.issues = ((tree.nodes names).zip sheet.regions).filterMap fun (n, r) =>
      match n.mark with
      | .issue _ => some r
      | .plain => none := by
  have horder : (tree.nodes names).Pairwise (Precedes names) := (inOrder_nodes tree).ordered
  have hregions := regions_toSheet h
  have hzip : (tree.nodes names).zip sheet.regions =
      (tree.nodes names).map fun n => (n, n.region indentation names []) := by
    conv_lhs => rw [hregions, ← List.map_id (tree.nodes names), List.map_map]
    exact List.zip_map'
  refine ⟨fun path mark body => among_nodes_iff, horder.imp fun h => h.path, ?_, ?_, ?_, ?_⟩
  · rw [hregions, List.map_map]
    rfl
  · rw [hregions, List.forall_mem_map]
    intro n _
    exact place_mono (before_through n)
  · rw [hzip, List.pairwise_map]
    exact horder.imp fun hm => ⟨place_mono hm.before,
      fun hpath => place_mono (hm.inside hpath),
      fun hpath => place_mono (hm.apart hpath)⟩
  · rw [issues_eq_filterMap, hzip, hregions, List.filterMap_map, List.filterMap_map]
    rfl

/-- A region with an issue inside of it, and a region after it in the same row of a table. -/
theorem regions_nest_row :
    let inner : Tree := seq [text "a", marked (.issue "m") (newline 1)]
    let tree : Tree := table [[marked .plain inner, marked .plain (text "b")], [text "c"]]
    let sheet : Sheet := ⟨["a", "\t b", "\tc"],
      [⟨.plain, ⟨0, 0⟩, ⟨1, 1⟩⟩, ⟨.issue "m", ⟨0, 1⟩, ⟨1, 1⟩⟩, ⟨.plain, ⟨1, 2⟩, ⟨1, 3⟩⟩]⟩
    tree.toSheet .empty "\t" = .ok sheet ∧
    (∀ path mark body,
      Among path mark body (tree.nodes .empty) ↔ tree.at? path = some (.marked mark body)) ∧
    (tree.nodes .empty).Pairwise (fun m n => m.path < n.path) ∧
    sheet.regions.map Region.mark = (tree.nodes .empty).map Node.mark ∧
    (∀ r ∈ sheet.regions, r.start ≤ r.stop) ∧
    ((tree.nodes .empty).zip sheet.regions).Pairwise Nests ∧
    sheet.issues = [⟨.issue "m", ⟨0, 1⟩, ⟨1, 1⟩⟩] := by
  intro inner tree sheet
  have hsheet : tree.toSheet .empty "\t" = .ok sheet := rfl
  obtain ⟨hamong, hpaths, hmarks, hstarts, hnests, hissues⟩ := regions_nest hsheet
  exact ⟨hsheet, hamong, hpaths, hmarks, hstarts, hnests, hissues.trans rfl⟩

end Fragment

end SourceLayout
