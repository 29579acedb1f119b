import SourceLayout.Proofs.Building.KnownBreaks
import SourceLayout.Proofs.Building.Widening
import SourceLayout.Proofs.Value.Leaves

/-! A table is its rows as lines.  The rows of a table are apart by breaks that no arena knows, and
lines by breaks of the arena; but of those only the latest can change later on, which is the one
after the table or after its last row.  So a builder with the table and one with the lines in its
place are in lockstep. -/

namespace SourceLayout

/-! ### The cells of a table -/

namespace Value

/-- The value is converted to the tree. -/
def StandsFor (v : Value) (f : Tree) : Prop := v.toFragment = .ok f

/-- The tree that a value is converted to, if it is. -/
def tree (v : Value) : Tree :=
  match v.toFragment with
  | .ok f => f
  | .error _ => .seq []

theorem StandsFor.tree_eq {v : Value} {f : Tree} (h : v.StandsFor f) : v.tree = f := by
  rw [tree, show v.toFragment = .ok f from h]

/-- Cells that can be converted, and that bring no pending break, stand for trees without one. -/
theorem exists_trees {grid : List (List Value)}
    (h : ∀ row ∈ grid, ∀ v ∈ row, ∃ f, v.toFragment = .ok f ∧ f.pendings = []) :
    ∃ trees, grid.Forall₂ (List.Forall₂ StandsFor) trees ∧
      ∀ row ∈ trees, ∀ f ∈ row, f.pendings = [] := by
  refine ⟨grid.map (List.map tree), ?_, ?_⟩
  · simp only [List.forall₂_map_right_iff, List.forall₂_same]
    intro row hrow v hv
    obtain ⟨f, hf, -⟩ := h row hrow v hv
    rwa [StandsFor.tree_eq hf]
  · simp only [List.forall_mem_map]
    intro row hrow v hv
    obtain ⟨f, hf, hnone⟩ := h row hrow v hv
    rwa [StandsFor.tree_eq hf]

/-- The cells of a table, row by row, as the elements of the elements of a value. -/
def grid? (rows : Value) : Option (List (List Value)) :=
  rows.elements?.bind fun items => items.mapM elements?

theorem toFragments_of_forall₂ {vs : List Value} {fs : List Tree}
    (h : vs.Forall₂ StandsFor fs) : toFragments vs = .ok fs := by
  induction h with
  | nil => rfl
  | @cons v f vs fs hv _ ih =>
    have hfirst : v.toFragment = .ok f := hv
    rw [toFragments, hfirst, ih]
    rfl

/-- The rows of a grid are the elements of the items that hold them. -/
theorem forall₂_of_mapM {items : List Value} {grid : List (List Value)}
    (h : items.mapM elements? = some grid) :
    items.Forall₂ (fun item row => item.elements? = some row) grid := by
  induction items generalizing grid with
  | nil =>
    cases h
    exact .nil
  | cons item items ih =>
    rw [List.mapM_cons] at h
    obtain ⟨row, hrow, h⟩ := Option.bind_eq_some_iff.mp h
    obtain ⟨others, hothers, hsome⟩ := Option.bind_eq_some_iff.mp h
    cases hsome
    exact .cons hrow (ih hothers)

theorem mapM_toCells {items : List Value} {grid : List (List Value)} {trees : List (List Tree)}
    (hitems : items.Forall₂ (fun item row => item.elements? = some row) grid)
    (hcells : grid.Forall₂ (List.Forall₂ StandsFor) trees) :
    items.mapM toCells = .ok trees := by
  induction hitems generalizing trees with
  | nil =>
    cases hcells
    rfl
  | @cons item row items grid hrow _ ih =>
    cases hcells with
    | @cons _ fs _ trees hfirst hrest =>
      have hitem : item.toCells = .ok fs :=
        (toCells_of_elements hrow).trans (toFragments_of_forall₂ hfirst)
      rw [List.mapM_cons, hitem, ih hrest]
      rfl

/-- A value with a grid of cells stands for the table of what the cells stand for. -/
theorem toTable_of_grid {rows : Value} {grid : List (List Value)} {trees : List (List Tree)}
    (hgrid : rows.grid? = some grid)
    (hcells : grid.Forall₂ (List.Forall₂ StandsFor) trees) :
    rows.toTable = .ok (.table trees) := by
  obtain ⟨items, hitems, hmap⟩ := Option.bind_eq_some_iff.mp hgrid
  have hrows := mapM_toCells (forall₂_of_mapM hmap) hcells
  simp only [toTable, elements, hitems, hrows, bind, Except.bind, pure, Except.pure]

end Value

theorem forall₂_intersperse {α β : Type} {R : α → β → Prop} {x : α} {y : β} (hsep : R x y) :
    {xs : List α} → {ys : List β} → xs.Forall₂ R ys →
      (xs.intersperse x).Forall₂ R (ys.intersperse y)
  | _, _, .nil => .nil
  | _, _, .cons h .nil => .cons h .nil
  | _, _, .cons h (.cons h' hs) => by
    rw [List.intersperse_cons_cons, List.intersperse_cons_cons]
    exact .cons h (.cons hsep (forall₂_intersperse hsep (.cons h' hs)))

/-- A row of cells as the parts of a line, with a space between neighbours. -/
def lineParts (row : List Value) : List Value := row.intersperse (.str " ")

/-- A row of trees as one tree, with a space between neighbours. -/
def rowTree (row : List Tree) : Tree := .ofList (row.intersperse (.text " "))

theorem toFragment_lineParts {row : List Value} {fs : List Tree}
    (h : row.Forall₂ Value.StandsFor fs) :
    (Value.list (lineParts row)).toFragment = .ok (rowTree fs) := by
  have hparts : Value.toFragments (lineParts row) = .ok (fs.intersperse (.text " ")) :=
    Value.toFragments_of_forall₂
      (forall₂_intersperse (R := Value.StandsFor) (Value.toFragment_str " ") h)
  rw [Value.toFragment, hparts]
  rfl

/-- A row as one tree has the imprint that it has as a row of a table. -/
theorem imprint_rowTree (names : Assignment) (row : List Tree) :
    (rowTree row).imprint names = Fragment.rowImprint names row := by
  rw [rowTree, Fragment.imprint_ofList, map_intersperse]
  rfl

theorem pendings_rowTree {row : List Tree} (h : ∀ f ∈ row, f.pendings = []) :
    (rowTree row).pendings = [] := by
  have hparts := forall₂_intersperse (R := fun f _ => Fragment.pendings f = [])
    (y := .text " ") (Fragment.pendings_text " ") (List.forall₂_same.mpr h)
  rw [rowTree, Fragment.pendings, Fragment.leaves_ofList, List.filterMap_flatMap,
    List.flatMap_eq_nil_iff]
  exact List.forall₂_same.mp hparts

namespace Builder

open LineArena (widened)

/-! ### The lines of the rows -/

/-- The builder after trees were written, each as a line. -/
def appendLines : List Tree → Builder → Builder
  | [], b => b
  | f :: fs, b => appendLines fs (b.append f).appendBreak

/-- The trees with a pending break after each, which have the numbers from `n` on. -/
def withBreaks (n : Nat) : List Tree → List Tree
  | [] => []
  | f :: fs => f :: .pending n :: withBreaks (n + 1) fs

/-- Lines add line breaks that change nothing, and themselves with these breaks. -/
theorem appendLines_eq (fs : List Tree) (b : Builder) :
    (appendLines fs b).arena = ⟨List.replicate fs.length 0 ++ b.arena.changes⟩ ∧
      (appendLines fs b).current.reverse = b.current.reverse ++ withBreaks b.arena.size fs ∧
      (appendLines fs b).suspended = b.suspended ∧
      (appendLines fs b).blankWanted = b.blankWanted ∧
      (appendLines fs b).hasOutput = (b.hasOutput || !fs.isEmpty) ∧
      (appendLines fs b).finished = b.finished := by
  induction fs generalizing b with
  | nil => simp [appendLines, withBreaks]
  | cons f fs ih =>
    obtain ⟨harena, hcurrent, hsuspended, hwanted, houtput, hfinished⟩ :=
      ih (b.append f).appendBreak
    have hreplicate : List.replicate fs.length (0 : Int) ++ 0 :: b.arena.changes =
        List.replicate (fs.length + 1) 0 ++ b.arena.changes := by
      rw [List.replicate_succ', List.append_assoc]
      rfl
    refine ⟨harena.trans (congrArg LineArena.mk hreplicate), hcurrent.trans ?_, hsuspended, hwanted,
      houtput.trans (by simp [Builder.appendBreak, Builder.append]), hfinished⟩
    simp [Builder.appendBreak, Builder.append, withBreaks, LineArena.addBreak, LineArena.size]

theorem blankWanted_flushBlank (b : Builder) : b.flushBlank.blankWanted = false := by
  unfold flushBlank
  split
  · rfl
  · next h => exact Bool.not_eq_true _ ▸ h

/-- A row that stands for trees is written as the line of their tree. -/
theorem line_lineParts {row : List Value} {fs : List Tree} (hrow : row.Forall₂ Value.StandsFor fs)
    (hne : row ≠ []) {b : Builder} (hfinished : b.finished = false) :
    b.line (lineParts row) = .done (b.flushBlank.append (rowTree fs)).appendBreak := by
  have hitem := lineOf_eq_done hfinished (toFragment_lineParts hrow)
  rw [← hitem]
  cases hcase : lineParts row with
  | nil =>
    cases hrow with
    | nil => exact absurd rfl hne
    | cons hv hvs => cases hvs <;> cases hcase
  | cons v vs => rfl

/-- Rows that stand for trees are written as the lines of these trees, if no blank line is wanted
before them. -/
theorem runAll_lines_of_blankWanted {grid : List (List Value)} {trees : List (List Tree)}
    (hcells : grid.Forall₂ (List.Forall₂ Value.StandsFor) trees)
    (hrows : ∀ row ∈ grid, row ≠ []) {b : Builder} (hfinished : b.finished = false)
    (hwanted : b.blankWanted = false) :
    Call.runAll (grid.map fun row => .line (lineParts row)) b =
      .done (appendLines (trees.map rowTree) b) := by
  induction hcells generalizing b with
  | nil => rfl
  | @cons row fs grid trees hrow _ ih =>
    rw [List.forall_mem_cons] at hrows
    have hflush : b.flushBlank = b := by
      rw [flushBlank, hwanted]
      rfl
    rw [List.map_cons, Call.runAll, Call.run, line_lineParts hrow hrows.1 hfinished, hflush,
      List.map_cons, appendLines]
    exact ih hrows.2 hfinished hwanted

/-- Rows that stand for trees are written as the lines of these trees, after the blank line that is
wanted before them. -/
theorem runAll_lines {grid : List (List Value)} {trees : List (List Tree)}
    (hcells : grid.Forall₂ (List.Forall₂ Value.StandsFor) trees) (hne : grid ≠ [])
    (hrows : ∀ row ∈ grid, row ≠ []) {b : Builder} (hfinished : b.finished = false) :
    Call.runAll (grid.map fun row => .line (lineParts row)) b =
      .done (appendLines (trees.map rowTree) b.flushBlank) := by
  cases hcells with
  | nil => exact absurd rfl hne
  | cons hrow hothers =>
    rw [List.forall_mem_cons] at hrows
    rw [List.map_cons, Call.runAll, Call.run, line_lineParts hrow hrows.1 hfinished]
    exact runAll_lines_of_blankWanted hothers hrows.2 (b.finished_flushBlank.trans hfinished)
      (blankWanted_flushBlank b)

/-- A table of cells that stand for trees is written as the table of these trees. -/
theorem table_eq_done {rows : Value} {grid : List (List Value)} {trees : List (List Tree)}
    (hgrid : rows.grid? = some grid) (hcells : grid.Forall₂ (List.Forall₂ Value.StandsFor) trees)
    {b : Builder} (hfinished : b.finished = false) :
    b.table rows = .done (b.flushBlank.append (.table trees)).appendBreak := by
  rw [table, Value.toTable_of_grid hgrid hcells]
  exact lineOf_eq_done hfinished (Value.toFragment_fragment _)

/-! ### The table and the lines compared -/

/-- In an arena with extra breaks, one less than there are trees, trees with these breaks after them
have the imprint of the trees with unchanged line breaks in between, and the latest break at the
end. -/
theorem imprint_withBreaks {extra : Nat} {later earlier : List Int} (names : Assignment)
    {f : Tree} {fs : List Tree} (hf : f.pendings = []) (hfs : ∀ g ∈ fs, g.pendings = []) {i : Nat}
    (hi : earlier.length ≤ i) (hlast : i + fs.length = earlier.length + extra) :
    (widened extra later earlier).imprint names (withBreaks i (f :: fs)) =
      ((widened extra later earlier).change ((earlier.length + extra : Nat) : Int)).map fun last =>
        (((f :: fs).map (Fragment.imprint names)).intersperse (.ofStrokes [.lineBreak 0])).sum +
          .ofStrokes [.lineBreak last] := by
  induction fs generalizing f i with
  | nil =>
    obtain rfl : i = earlier.length + extra := hlast
    rw [withBreaks, withBreaks, LineArena.imprint_cons, LineArena.resolve_of_pendings_eq_nil hf,
      LineArena.imprint_singleton, LineArena.resolve]
    cases (widened extra later earlier).change ((earlier.length + extra : Nat) : Int) with
    | error fault => rfl
    | ok change =>
      refine congrArg Except.ok ?_
      rw [List.map_singleton, List.intersperse_singleton, List.sum_singleton]
      rfl
  | cons g fs ih =>
    rw [List.forall_mem_cons] at hfs
    rw [List.length_cons] at hlast
    have hextra : (widened extra later earlier).change i = .ok 0 :=
      LineArena.change_widened_extra hi (by omega)
    rw [withBreaks, LineArena.imprint_cons, LineArena.resolve_of_pendings_eq_nil hf,
      LineArena.imprint_cons, LineArena.resolve, hextra, ih hfs.1 hfs.2 (by omega) (by omega)]
    cases (widened extra later earlier).change ((earlier.length + extra : Nat) : Int) with
    | error fault => rfl
    | ok change =>
      refine congrArg Except.ok ?_
      rw [List.map_cons, List.map_cons, List.map_cons, List.intersperse_cons_cons, List.sum_cons,
        List.sum_cons]
      show _ + (Imprint.ofStrokes [.lineBreak 0] + (_ + _)) = (_ + (_ + _)) + _
      rw [add_assoc, add_assoc]

/-- A table and the break after it have the imprint of the rows as lines. -/
theorem sameImprints_table {row : List Tree} {rows : List (List Tree)} {earlier : List Int}
    {size : Nat} (hsize : earlier.length < size)
    (h : ∀ r ∈ row :: rows, ∀ f ∈ r, f.pendings = []) :
    SameImprints rows.length earlier size
      [.table (row :: rows), .pending earlier.length]
      (withBreaks earlier.length ((row :: rows).map rowTree)) := by
  intro later names hlater
  have htree : ∀ r ∈ row :: rows, (rowTree r).pendings = [] :=
    fun r hr => pendings_rowTree (h r hr)
  have htable : (Fragment.table (row :: rows)).pendings = [] := by
    rw [Fragment.pendings_table, List.flatMap_eq_nil_iff]
    exact fun r hr => List.flatMap_eq_nil_iff.mpr (h r hr)
  rw [List.forall_mem_cons] at htree
  rw [List.map_cons, imprint_withBreaks names htree.1 (List.forall_mem_map.mpr htree.2)
    (Nat.le_refl _) (by rw [List.length_map]),
    LineArena.change_widened_later (Nat.le_refl _) (by omega), LineArena.imprint_cons,
    LineArena.resolve_of_pendings_eq_nil htable, LineArena.imprint_singleton, LineArena.resolve]
  cases (⟨later ++ earlier⟩ : LineArena).change earlier.length with
  | error fault => rfl
  | ok change =>
    have hrows : (rowTree row :: rows.map rowTree).map (Fragment.imprint names) =
        (row :: rows).map (Fragment.rowImprint names) := by
      rw [← List.map_cons, List.map_map]
      exact List.map_congr_left fun r _ => imprint_rowTree names r
    refine congrArg Except.ok ?_
    rw [hrows, Fragment.imprint_table]
    rfl

/-- On a builder that knows its breaks, and that no blank line is wanted on, the rows as lines are
the table with extra breaks. -/
theorem widens_table {b : Builder} (hknows : b.KnowsBreaks) {row : List Tree}
    {rows : List (List Tree)} (h : ∀ r ∈ row :: rows, ∀ f ∈ r, f.pendings = []) :
    Widens rows.length b.arena.changes (b.append (.table (row :: rows))).appendBreak
      (appendLines ((row :: rows).map rowTree) b) := by
  obtain ⟨harena, hcurrent, hsuspended, hwanted, houtput, hfinished⟩ :=
    appendLines_eq ((row :: rows).map rowTree) b
  have hearlier (fs : List Tree) (hfs : ∀ f ∈ fs, f ∈ b.content) (size : Nat) :
      SameImprints rows.length b.arena.changes size fs fs :=
    .of_earlier fun f hf index hindex =>
      hknows index (List.mem_flatMap.mpr ⟨f, hfs f hf, hindex⟩)
  refine ⟨⟨[0], List.cons_ne_nil _ _, rfl, ?_⟩, ?_, hfinished, .cons ?_ ?_⟩
  · rw [harena, List.length_map, List.length_cons, List.replicate_succ]
    rfl
  · rw [flags, houtput, hwanted, List.map_cons, List.isEmpty_cons, Bool.not_false, Bool.or_true]
    rfl
  · show SameImprints _ _ _
      (Fragment.pending b.arena.size :: Fragment.table (row :: rows) :: b.current).reverse
      (appendLines ((row :: rows).map rowTree) b).current.reverse
    rw [hcurrent, List.reverse_cons, List.reverse_cons, List.append_assoc]
    refine (hearlier _ (fun f hf => ?_) _).append (sameImprints_table (Nat.lt_succ_self _) h)
    simp [content, List.mem_reverse.mp hf]
  · rw [hsuspended]
    refine List.forall₂_same.mpr fun target htarget => hearlier _ (fun f hf => ?_) _
    simp only [content, List.mem_reverse, List.mem_flatten]
    exact ⟨target, List.mem_cons_of_mem _ htarget, List.mem_reverse.mp hf⟩

/-- On a builder that is not finished, a table of rows with cells does what a line for each of the
rows does, with a space between neighbouring cells: nothing that happens later tells the two apart,
as long as no pending break is passed before or after. -/
theorem table_as_lines {before : List Call} {rows : Value} {grid : List (List Value)}
    (hbefore : ∀ call ∈ before, call.Unnumbered)
    (hopen : (Call.attempt before .fresh).finished = false)
    (hgrid : rows.grid? = some grid) (hne : grid ≠ []) (hrows : ∀ row ∈ grid, row ≠ [])
    (hcells : ∀ row ∈ grid, ∀ v ∈ row, ∃ f, v.toFragment = .ok f ∧ f.pendings = []) :
    ∃ tabled lined, (Call.attempt before .fresh).table rows = .done tabled ∧
      Call.runAll (grid.map fun row => .line (row.intersperse (.str " ")))
        (Call.attempt before .fresh) = .done lined ∧
      tabled.Alike lined := by
  have hknows := knowsBreaks_attempt hbefore
  generalize Call.attempt before .fresh = b at hopen hknows ⊢
  obtain ⟨trees, hstands, hpendings⟩ := Value.exists_trees hcells
  have htable := table_eq_done hgrid hstands hopen
  have hlines := runAll_lines hstands hne hrows hopen
  cases hstands with
  | nil => exact absurd rfl hne
  | cons hrow hothers =>
    exact ⟨_, _, htable, hlines,
      (lockstep_widens _ _).alike (widens_table hknows.flushBlank hpendings)⟩

/-- A table after a request for a blank line, in an open region one level deeper, with a cell of two
lines, a table in a cell, an empty cell and a marked one. -/
theorem table_as_lines_nested :
    let before : List Call := [.line [.str "a"], .shift 1, .openRegion, .requestBlank]
    let grid : List (List Value) :=
      [[.fragment (.seq [.text "b", .newline 1, .text "c"]), .name { id := 0, proposed := "n" }],
        [.fragment (.table [[.text "d"], [.text "e"]])],
        [.str "", .fragment (.marked (.issue "m") (.text "f"))]]
    let rows : Value := .list (grid.map .tuple)
    (∀ call ∈ before, call.Unnumbered) ∧ (Call.attempt before .fresh).finished = false ∧
    rows.grid? = some grid ∧ grid ≠ [] ∧ (∀ row ∈ grid, row ≠ []) ∧
    (∀ row ∈ grid, ∀ v ∈ row, ∃ f, v.toFragment = .ok f ∧ f.pendings = []) ∧
    ∃ tabled lined, (Call.attempt before .fresh).table rows = .done tabled ∧
      Call.runAll (grid.map fun row => .line (row.intersperse (.str " ")))
        (Call.attempt before .fresh) = .done lined ∧
      tabled.Alike lined := by
  intro before grid rows
  have hbefore : ∀ call ∈ before, call.Unnumbered := by
    have hline : (Value.list [.str "a"]).Unnumbered := by
      intro f hf
      rw [Value.toFragment_singleton, Value.toFragment_str] at hf
      cases hf
      rfl
    simp [before, Call.Unnumbered, hline]
  have hopen : (Call.attempt before .fresh).finished = false := by cbv
  have hgrid : rows.grid? = some grid := by cbv
  have hne : grid ≠ [] := List.cons_ne_nil _ _
  have hrows : ∀ row ∈ grid, row ≠ [] := by simp [grid]
  have hcells : ∀ row ∈ grid, ∀ v ∈ row, ∃ f, v.toFragment = .ok f ∧ f.pendings = [] := by
    simp [grid, Fragment.pendings, Fragment.leaves, Fragment.leavesOf, Fragment.leavesOfRows,
      Fragment.index?]
  exact ⟨hbefore, hopen, hgrid, hne, hrows, hcells,
    table_as_lines hbefore hopen hgrid hne hrows hcells⟩

end Builder

end SourceLayout
