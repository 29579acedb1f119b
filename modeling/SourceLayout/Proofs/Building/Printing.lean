import Mathlib
import SourceLayout.Proofs.Building.Finishing
import SourceLayout.Proofs.Building.Printer

/-! Building a tree and writing it later comes to the same as printing at once.  A line break of the
tree carries what the level changes by until the next break, so that the levels summed up along the
tree are those of the printer at its lines. -/

namespace SourceLayout

/-! ### Actions of a run without a fault -/

theorem Action.sound_of_run {names : Assignment} {a : Action} {s : Session}
    (h : (a.run names s).fault = none) : a.Sound := by
  cases a with
  | line v =>
    obtain ⟨item, hitem, -⟩ := Builder.lineOf_of_fault (b := s.builder) h
    exact ⟨item, hitem⟩
  | fail fault => cases h
  | emptyLine | requestBlank | shift _ | probe | divert | finish | write _ => trivial

theorem Move.sound_of_run {names : Assignment} {ms : List Move} {s : Session}
    (h : (runAll names ms s).fault = none) : ∀ a ∈ actionsOf ms, a.Sound := by
  induction ms using listInduction generalizing s with
  | nil => exact fun a ha => nomatch ha
  | act a ms ih =>
    rw [runAll, Outcome.fault_andThen_eq_none] at h
    rw [actionsOf, actions, List.forall_mem_append, List.forall_mem_singleton]
    exact ⟨Action.sound_of_run h.1, ih h.2⟩
  | region mark body ms ihBody ih =>
    rw [runAll, run, Outcome.fault_andThen_eq_none, Outcome.fault_andThen_eq_none] at h
    rw [actionsOf, actions, List.forall_mem_append]
    exact ⟨ihBody h.1.1, ih h.2⟩

/-! ### Printing steps -/

namespace Printer

variable (names : Assignment)

theorem rows_text (text : String) : rows names (.text text) = [text] := by
  simp [rows, Fragment.strokes, Stretch.cuts, Stretch.add]

theorem after_text (p : Printer) (text : String) :
    p.after names [.act (.line (.str text))] = p.put [text] := by
  rw [after_line names p (Value.toFragment_str text), rows_text]

/-- The lines of a block are printed as its moves emit them, at the indentation reached so far. -/
theorem putLines_eq_after {base : Int} {indent : Nat} {ls : List String} {p : Printer}
    (hlevel : p.level = base + indent)
    (hsound : ∀ a ∈ Move.actionsOf (Step.blockMoves indent ls), a.Sound) :
    p.putLines base ls = p.after names (Step.blockMoves indent ls) := by
  induction ls generalizing indent p with
  | nil =>
    rw [putLines, Step.blockMoves]
    by_cases h : indent = 0
    · have hbase : base = p.level := by omega
      rw [if_pos h, after_nil, hbase]
    · have hbase : base = p.level + -(indent : Int) := by omega
      rw [if_neg h, after_shift, shift, hbase]
  | cons l ls ih =>
    rw [Step.blockMoves] at hsound ⊢
    rw [putLines]
    generalize Text.lineIndentation l = measured at hsound ⊢
    obtain ⟨column, text?⟩ := measured
    by_cases h : column % Text.tabWidth ≠ 0
    · simp only [if_pos h] at hsound
      exact (hsound (.fail (.unevenIndent l)) List.mem_cons_self).elim
    · simp only [if_neg h] at hsound ⊢
      cases text? with
      | none =>
        have hrest : ∀ a ∈ Move.actionsOf (Step.blockMoves indent ls), a.Sound :=
          fun a ha => hsound a (List.mem_cons_of_mem _ ha)
        simp only
        rw [after_cons, after_emptyLine]
        exact ih hlevel hrest
      | some text =>
        have hrest : ∀ a ∈ Move.actionsOf (Step.blockMoves (column / Text.tabWidth) ls), a.Sound :=
          fun a ha => hsound a (List.mem_cons_of_mem _ (List.mem_cons_of_mem _ ha))
        have hshift : p.shift ((column / Text.tabWidth : Nat) - indent) =
            { p with level := base + (column / Text.tabWidth : Nat) } := by
          rw [shift, hlevel]
          congr 1
          omega
        simp only
        rw [after_cons, after_shift, after_cons, after_text, hshift]
        exact ih rfl hrest

mutual

/-- A step prints what its moves emit, when they are sound. -/
theorem print_eq_after : (step : Step) → (p : Printer) →
    (∀ a ∈ Move.actionsOf step.moves, a.Sound) → p.print names step = p.after names step.moves
  | .line [], p, _ => (after_emptyLine names p).symm
  | .line (v :: vs), p, h => by
    obtain ⟨item, hitem⟩ := h _ List.mem_cons_self
    rw [print, putValue, hitem, Step.moves, after_line names p hitem]
  | .requestBlank, p, _ => (after_requestBlank names p).symm
  | .block text, p, h => by
    rw [print, Step.moves, after_cons, after_text]
    exact putLines_eq_after names (by simp [put]) fun a ha => h a (List.mem_cons_of_mem _ ha)
  | .table cells, p, h => by
    rw [Step.moves] at h
    rw [print, Step.moves]
    cases hcells : cells.toTable with
    | ok item => exact (after_line names p (Value.toFragment_fragment item)).symm
    | error fault =>
      rw [hcells] at h
      exact (h (.fail fault) List.mem_cons_self).elim
  | .shift offset, p, _ => (after_shift names p offset).symm
  | .indent body, p, h => by
    have hbody : ∀ a ∈ Move.actionsOf (Step.movesOf body), a.Sound := by
      intro a ha
      refine h a ?_
      rw [Step.moves, Move.actionsOf, Move.actionsOf_append]
      exact List.mem_append_right _ (List.mem_append_left _ ha)
    rw [print, Step.moves, after_cons, after_shift, after_append, ← printAll_eq_after body _ hbody,
      after_shift]
  | .region mark body, p, h => by
    have hbody : ∀ a ∈ Move.actionsOf (Step.movesOf body), a.Sound :=
      fun a ha => h a (List.mem_append_left _ ha)
    rw [print, Step.moves, after_region, printAll_eq_after body p hbody]
  | .each interposing leading bodies, p, h => printEach_eq_after interposing leading bodies p h
  | .eachAt blankLines bodies, p, h => by
    rw [Step.moves] at h
    rw [print, Step.moves]
    cases hlines : BlankLines.ofValue blankLines with
    | ok b =>
      rw [hlines] at h
      exact printEach_eq_after b.isInterposing b.isLeading bodies p h
    | error fault =>
      rw [hlines] at h
      exact (h (.fail fault) List.mem_cons_self).elim
  | .probe, p, _ => (after_of_emissions names p (a := .probe) rfl).symm
  | .divert, p, _ => (after_of_emissions names p (a := .divert) rfl).symm
  | .finish, p, _ => (after_of_emissions names p (a := .finish) rfl).symm
  | .write indentation, p, _ =>
    (after_of_emissions names p (a := .write indentation) rfl).symm
  | .fail _, p, h => (h _ List.mem_cons_self).elim

/-- Steps print what their moves emit, when they are sound. -/
theorem printAll_eq_after : (steps : List Step) → (p : Printer) →
    (∀ a ∈ Move.actionsOf (Step.movesOf steps), a.Sound) →
    p.printAll names steps = p.after names (Step.movesOf steps)
  | [], p, _ => (after_nil names p).symm
  | step :: steps, p, h => by
    rw [Step.movesOf, Move.actionsOf_append, List.forall_mem_append] at h
    rw [printAll, Step.movesOf, after_append, print_eq_after step p h.1,
      printAll_eq_after steps _ h.2]

/-- Bodies in order print what their moves emit, when they are sound. -/
theorem printEach_eq_after (interposing wanted : Bool) : (bodies : List (List Step)) →
    (p : Printer) →
    (∀ a ∈ Move.actionsOf (Step.movesOfEach interposing wanted bodies), a.Sound) →
    p.printEach names interposing wanted bodies =
      p.after names (Step.movesOfEach interposing wanted bodies)
  | [], p, _ => (after_nil names p).symm
  | body :: bodies, p, h => by
    rw [Step.movesOfEach, Move.actionsOf_append, Move.actionsOf_append, List.forall_mem_append,
      List.forall_mem_append] at h
    have hwanted : (if wanted then p.requestBlank else p) =
        p.after names (if wanted then [.act .requestBlank] else []) := by
      cases wanted with
      | false => exact (after_nil names p).symm
      | true => exact (after_requestBlank names p).symm
    rw [printEach, Step.movesOfEach, after_append, after_append, hwanted,
      printAll_eq_after body _ h.2.1, printEach_eq_after interposing interposing bodies _ h.2.2]

end

end Printer

/-! ### The strokes of a finished tree -/

namespace Emission

/-- The strokes of emissions, where each line break carries what the level changes by until the
next. -/
def strokes (names : Assignment) : List Emission → List Stroke
  | [] => []
  | .line item :: es => item.strokes names ++ .lineBreak (lead es) :: strokes names es
  | .emptyLine :: es => .lineBreak (lead es) :: strokes names es
  | .shift _ :: es => strokes names es

variable {names : Assignment}

theorem strokes_settled {change : Nat → Int} {n : Nat} {es : List Emission}
    (hchange : ∀ k, change (n + k) = (changes es).getD k 0) :
    (Emitted.settled change n (es.map .single)).flatMap (Fragment.strokes names) =
      strokes names es := by
  induction es generalizing n with
  | nil => rfl
  | cons e es ih =>
    have hrest : ∀ k, change (n + e.breaks + k) = (changes es).getD k 0 := by
      intro k
      cases e with
      | line _ | emptyLine =>
        rw [breaks, Nat.add_assoc, Nat.add_comm 1, hchange]
        rfl
      | shift _ => exact hchange k
    have htail : (Emitted.settled change (n + breaksOf (Emitted.single e).flatten)
        (es.map .single)).flatMap (Fragment.strokes names) = strokes names es := ih hrest
    rw [List.map_cons, Emitted.settled, Emitted.treesOf, List.flatMap_append, htail]
    cases e with
    | line item =>
      have hfirst : change n = lead es := hchange 0
      simp [Emitted.trees, trees, strokes, Fragment.strokes, hfirst]
    | emptyLine =>
      have hfirst : change n = lead es := hchange 0
      simp [Emitted.trees, trees, strokes, Fragment.strokes, hfirst]
    | shift offset => rfl

/-- The strokes of emissions are cut to the lines that are printed, and the empty line that is open
at the end. -/
theorem cuts_strokes {es : List Emission} (level : Int)
    (hflat : ∀ item ∈ es.filterMap item?, ∀ s ∈ item.strokes names, s.IsFlat) :
    Stretch.cuts ⟨level + lead es, ""⟩ (strokes names es) =
      printed names level es ++ [⟨level + offsetOf es, ""⟩] := by
  induction es generalizing level with
  | nil => rfl
  | cons e es ih =>
    rw [offsetOf_cons]
    cases e with
    | line item =>
      rw [filterMap_item?_line, List.forall_mem_cons] at hflat
      rw [lead_line, Int.add_zero, strokes, Stretch.cuts_append_lineBreak,
        Stretch.level_foldl_add hflat.1, ih level hflat.2, Stretch.cuts_of_flat hflat.1, printed,
        List.append_assoc, offset, Int.zero_add]
      rfl
    | emptyLine =>
      rw [lead_emptyLine, Int.add_zero, strokes, printed, offset, Int.zero_add, List.cons_append,
        ← ih level hflat]
      rfl
    | shift offset =>
      rw [lead_shift, strokes, printed, Emission.offset, ← Int.add_assoc, ← Int.add_assoc]
      exact ih (level + offset) hflat

theorem halt_notMem_strokes {es : List Emission}
    (hflat : ∀ item ∈ es.filterMap item?, ∀ s ∈ item.strokes names, s.IsFlat) (fault : Fault) :
    .halt fault ∉ strokes names es := by
  induction es with
  | nil => simp [strokes]
  | cons e es ih =>
    cases e with
    | line item =>
      rw [filterMap_item?_line, List.forall_mem_cons] at hflat
      have hitem : .halt fault ∉ item.strokes names := fun h => hflat.1 _ h
      simp [strokes, hitem, ih hflat.2]
    | emptyLine => simpa [strokes] using ih hflat
    | shift offset => exact ih hflat

end Emission

theorem LineArena.level_eq_sum (a : LineArena) : a.level = a.changes.sum := rfl

/-- Regions make no strokes. -/
theorem Emitted.strokes_flattenAll (names : Assignment) (change : Nat → Int) (n : Nat)
    (os : List Emitted) :
    (settled change n os).flatMap (Fragment.strokes names) =
      (settled change n ((flattenAll os).map .single)).flatMap (Fragment.strokes names) := by
  induction os using listInduction generalizing n with
  | nil => rfl
  | single e os ih =>
    rw [settled, treesOf, List.flatMap_append, ih, ← List.flatMap_append]
    rfl
  | region mark body os ihBody ih =>
    rw [flattenAll, flatten, List.map_append, settled, treesOf_append, List.flatMap_append,
      flattenAll_map_single, ← ihBody, ← ih]
    simp only [treesOf, trees, List.flatMap_append, List.flatMap_singleton,
      Fragment.strokes_marked, Fragment.strokes_ofList, flatten]

namespace Step

theorem strokes_children (names : Assignment) (steps : List Step) :
    (Fragment.seq (children steps)).strokes names =
      Emission.strokes names (Emitted.flattenAll (emittedBy steps)) := by
  rw [Fragment.strokes_seq, children, Emitted.strokes_flattenAll]
  refine Emission.strokes_settled fun k => ?_
  rw [Nat.zero_add]
  rfl

/-- Without a fault no indentation changes before the first line break. -/
theorem lead_of_run {names : Assignment} {steps : List Step}
    (hrun : (runAll names steps .fresh).fault = none) (hstay : .divert ∉ actionsOf steps) :
    Emission.lead (Emitted.flattenAll (emittedBy steps)) = 0 := by
  have hgrows := grows_of_run hrun hstay
  have hlevel := hgrows.level
  have hsum : (runAll names steps .fresh).state.builder.level =
      (Emission.changes (Emitted.flattenAll (emittedBy steps))).sum := by
    rw [Builder.level, LineArena.level_eq_sum, ← List.sum_reverse, hgrows.arena]
    congr 1
    exact Emission.changes_foldl_onArena_fresh _
  rw [hsum, Emission.offsetOf_eq_lead_add] at hlevel
  have hfresh : Builder.fresh.level = 0 := rfl
  omega

/-- A printer that follows the program has the level and the flags of the builder, and has printed
what the program emits. -/
theorem printAll_of_run {names : Assignment} {steps : List Step}
    (hrun : (runAll names steps .fresh).fault = none) (hstay : .divert ∉ actionsOf steps) :
    Printer.printAll names steps {} =
      { level := (runAll names steps .fresh).state.builder.level
        flags := (runAll names steps .fresh).state.builder.flags
        printed := Emission.printed names 0 (Emitted.flattenAll (emittedBy steps)) } := by
  have hgrows := grows_of_run hrun hstay
  have hsound : ∀ a ∈ Move.actionsOf (movesOf steps), a.Sound := by
    rw [runAll_eq_runAll_moves] at hrun
    exact Move.sound_of_run hrun
  rw [Printer.printAll_eq_after names steps {} hsound, hgrows.level, hgrows.flags]
  rfl

/-- A program that runs without a fault, and whose levels are never below zero, is written as the
printer prints it, with the indentation once a level before each line that has a text.  Only a
margin that is too large is refused, at the first line that has it. -/
theorem written_as_printed {names : Assignment} {steps : List Step} (indentation : String)
    (hrun : (runAll names steps .fresh).fault = none) (hstay : .divert ∉ actionsOf steps)
    (hwritable : ∀ item ∈ itemsOf steps, ∀ leaf ∈ item.leaves, leaf.IsWritable names)
    (hlevels : ∀ c ∈ (Printer.printAll names steps {}).printed, 0 ≤ c.level)
    (hlevel : 0 ≤ (Printer.printAll names steps {}).level) :
    (runAll names steps .fresh).state.builder.level = (Printer.printAll names steps {}).level ∧
    (runAll names steps .fresh).state.builder.flags = (Printer.printAll names steps {}).flags ∧
    ∃ tree, (runAll names steps .fresh).state.builder.finish.2 = .ok tree ∧
      (tree.toSheet names indentation).map Sheet.lines =
        match (Printer.printAll names steps {}).printed.findSome?
            (Stretch.refusal? indentation) with
        | some fault => .error fault
        | none =>
          .ok ((Printer.printAll names steps {}).printed.map (Stretch.line indentation)) := by
  have hprinter := printAll_of_run hrun hstay
  set es := Emitted.flattenAll (emittedBy steps) with hes
  have hflat : ∀ item ∈ es.filterMap Emission.item?, ∀ s ∈ item.strokes names, s.IsFlat := by
    have hitems : es.filterMap Emission.item? = itemsOf steps := Move.itemsOf_emittedAll _ _
    rw [hitems]
    exact fun item h => Fragment.isFlat_of_mem_strokes (hwritable item h)
  have hfinish := finish_eq_children hrun hstay fun item h =>
    Fragment.pendings_eq_nil_of_writable (hwritable item h)
  have hstrokes : (Fragment.seq (children steps)).strokes names = Emission.strokes names es :=
    strokes_children names steps
  have hcuts : Stretch.cuts {} ((Fragment.seq (children steps)).strokes names) =
      (Printer.printAll names steps {}).printed ++
        [⟨(Printer.printAll names steps {}).level, ""⟩] := by
    have h := Emission.cuts_strokes 0 hflat
    rw [lead_of_run hrun hstay] at h
    rw [hstrokes, hprinter, (grows_of_run hrun hstay).level]
    exact h
  have hhalt : ∀ fault, .halt fault ∉ (Fragment.seq (children steps)).strokes names := by
    rw [hstrokes]
    exact Emission.halt_notMem_strokes hflat
  refine ⟨by rw [hprinter], by rw [hprinter], .seq (children steps), hfinish, ?_⟩
  exact Fragment.lines_toSheet_of_cuts indentation hcuts hhalt hlevels hlevel

/-- A block, a blank line and a table inside a region, with a tab a level. -/
theorem written_block_and_table :
    let steps := [line [.str "a"], indent [region .plain [block "b\n    c\n\nd", requestBlank,
      table (.list [.list [.str "e", .str "f"], .list [.str "g"]])]], line []]
    (runAll .empty steps .fresh).fault = none ∧
    ∃ tree, (runAll .empty steps .fresh).state.builder.finish.2 = .ok tree ∧
      (tree.toSheet .empty "\t").map Sheet.lines =
        .ok ["a", "\tb", "\t\tc", "", "\td", "", "\te f", "\tg", ""] := by
  intro steps
  have hrun : (runAll .empty steps .fresh).fault = none := by cbv
  have hactions : actionsOf steps = [.line (.list [.str "a"]), .shift 1, .line (.str "b"), .shift 1,
      .line (.str "c"), .emptyLine, .shift (-1), .line (.str "d"), .requestBlank,
      .line (.fragment (.table [[.text "e", .text "f"], [.text "g"]])), .shift (-1),
      .emptyLine] := by cbv
  have hstay : .divert ∉ actionsOf steps := by simp [hactions]
  have hwritable : ∀ item ∈ itemsOf steps, ∀ leaf ∈ item.leaves, leaf.IsWritable .empty := by
    have hitems : itemsOf steps = [.text "a", .text "b", .text "c", .text "d",
      .table [[.text "e", .text "f"], [.text "g"]]] := by cbv
    rw [hitems]
    simp [Fragment.leaves, Fragment.leavesOf, Fragment.leavesOfRows, Fragment.IsWritable]
  have hprinted : (Printer.printAll .empty steps {}).printed = [⟨0, "a"⟩, ⟨1, "b"⟩, ⟨2, "c"⟩,
      ⟨2, ""⟩, ⟨1, "d"⟩, ⟨1, ""⟩, ⟨1, "e f"⟩, ⟨1, "g"⟩, ⟨0, ""⟩] := by cbv
  have hlevel : (Printer.printAll .empty steps {}).level = 0 := by cbv
  obtain ⟨-, -, tree, hfinish, htree⟩ := written_as_printed "\t" hrun hstay hwritable
    (by rw [hprinted]; decide) (Int.le_of_eq hlevel.symm)
  rw [hprinted] at htree
  exact ⟨hrun, tree, hfinish, htree.trans (by cbv)⟩

/-- What is printed need not be written.  The levels of a margin may not be countable, although the
indentation is empty, nor its characters or its bytes; and an item can hold a child that is no
fragment. -/
theorem printed_but_refused :
    (let steps (level : Int) := [line [.str "a"], shift level, line [.str "b"]]
    let tree (level : Int) : Tree := .seq [.text "a", .newline level, .text "b", .newline 0]
    let isPrinted (level : Int) : Prop :=
      (runAll .empty (steps level) .fresh).fault = none ∧
      itemsOf (steps level) = [.text "a", .text "b"] ∧
      Printer.printAll .empty (steps level) {} =
        { level, flags := ⟨true, false⟩, printed := [⟨0, "a"⟩, ⟨level, "b"⟩] } ∧
      (runAll .empty (steps level) .fresh).state.builder.finish.2 = .ok (tree level)
    isPrinted 0x8000000000000000 ∧
    (tree 0x8000000000000000).toSheet .empty "" = .error .levelTooLarge ∧
    isPrinted 0x4000000000000000 ∧
    (tree 0x4000000000000000).toSheet .empty "ab" = .error .marginTooLong ∧
    (tree 0x4000000000000000).toSheet .empty "→" = .error .marginTooLarge) ∧
    (let steps := [line [.fragment (.marked .plain (.foreign .none))]]
    (runAll .empty steps .fresh).fault = none ∧
    itemsOf steps = [.marked .plain (.foreign .none)] ∧
    Printer.printAll .empty steps {} =
      { level := 0, flags := ⟨true, false⟩, printed := [⟨0, ""⟩] } ∧
    ∃ tree, (runAll .empty steps .fresh).state.builder.finish.2 = .ok tree ∧
      tree.toSheet .empty "" = .error (.unknownFragment .none)) := by
  refine ⟨⟨⟨by cbv, by cbv, by cbv, by cbv⟩, by cbv, ⟨by cbv, by cbv, by cbv, by cbv⟩, by cbv,
    by cbv⟩, by cbv, by cbv, by cbv, .seq [.marked .plain (.foreign .none), .newline 0], by cbv,
    by cbv⟩

end Step

end SourceLayout
