import SourceLayout.Proofs.Building.Balance
import SourceLayout.Proofs.Building.Calls
import SourceLayout.Proofs.Text.Columns

/-! What a block adds to the lines.  Its later lines stand at levels of their own, which are changes
of the line breaks before them and are taken back at the end; empty lines change nothing.  Written
with the default indentation, every line keeps its column under the margin of the block. -/

namespace SourceLayout

open Text (blockRow blockRows columnOf contentOf isBlankLine lineIndentation_eq spaces tabWidth)

/-! ### The moves of a block -/

namespace Step

/-- The lines of a block after its first are emitted by calls that are sound, if every line that is
not blank has a column of a full level, and they write texts only. -/
theorem blockMoves_sound {ls : List String}
    (heven : ∀ l ∈ ls, isBlankLine l = false → columnOf l % tabWidth = 0) (indent : Nat) :
    ∀ a ∈ Move.actionsOf (blockMoves indent ls),
      a.isCall = true ∧ a.Sound ∧ ∀ item, a.item? = some item → ∃ text, item = .text text := by
  induction ls generalizing indent with
  | nil =>
    rw [blockMoves]
    split <;> simp [Move.actionsOf, Move.actions, Action.isCall, Action.Sound, Action.item?]
  | cons l ls ih =>
    rw [List.forall_mem_cons] at heven
    rw [blockMoves, lineIndentation_eq]
    cases hblank : isBlankLine l with
    | true =>
      simp only [if_true, Nat.zero_mod, ne_eq, not_true, if_false]
      rw [Move.actionsOf, Move.actions, List.singleton_append, List.forall_mem_cons]
      exact ⟨⟨rfl, trivial, by simp [Action.item?]⟩, ih heven.2 indent⟩
    | false =>
      simp only [Bool.false_eq_true, if_false, heven.1 hblank, ne_eq, not_true]
      rw [Move.actionsOf, Move.actions, Move.actionsOf, Move.actions, List.singleton_append,
        List.singleton_append, List.forall_mem_cons, List.forall_mem_cons]
      refine ⟨⟨rfl, trivial, by simp [Action.item?]⟩,
        ⟨rfl, ⟨_, Value.toFragment_str _⟩, fun item h => ?_⟩, ih heven.2 _⟩
      rw [Action.item?, Value.toFragment_str] at h
      exact ⟨contentOf l, (Option.some.inj h).symm⟩

end Step

/-! ### The lines of a block -/

/-- A line of a block after its first, in a block at a level. -/
def Stretch.ofBlockLine (level : Int) (line : String) : Stretch :=
  if isBlankLine line then ⟨level, ""⟩
  else ⟨level + (columnOf line / tabWidth : Nat), contentOf line⟩

/-- The lines of a block at a level. -/
def Stretch.ofBlock (level : Int) (text : String) : List Stretch :=
  ⟨level, (Text.lines text).1⟩ :: (Text.lines text).2.map (ofBlockLine level)

namespace Stretch

variable {level : Int}

theorem line_of_default (level : Int) (text : String) :
    line defaultIndentation ⟨level, text⟩ =
      if text = "" then "" else spaces (tabWidth * level.toNat) ++ text := by
  rw [line, Text.repeated_defaultIndentation]

/-- With the default indentation, a line of a block keeps its column. -/
theorem line_ofBlockLine (hlevel : 0 ≤ level) {l : String}
    (heven : isBlankLine l = false → columnOf l % tabWidth = 0) :
    line defaultIndentation (ofBlockLine level l) = blockRow (tabWidth * level.toNat) l := by
  unfold ofBlockLine blockRow
  cases hblank : isBlankLine l with
  | true => rfl
  | false =>
    have hcolumn := heven hblank
    have hmargin : tabWidth * (level + (columnOf l / tabWidth : Nat)).toNat =
        tabWidth * level.toNat + columnOf l := by
      rw [tabWidth] at hcolumn ⊢
      omega
    simp only [Bool.false_eq_true, if_false]
    rw [line_of_default, if_neg (Text.contentOf_ne_empty hblank), hmargin,
      Text.spaces_add]

/-- With the default indentation, a block is written as its rows under a margin. -/
theorem map_line_ofBlock (hlevel : 0 ≤ level) {text : String}
    (heven : ∀ l ∈ (Text.lines text).2, isBlankLine l = false → columnOf l % tabWidth = 0) :
    (ofBlock level text).map (line defaultIndentation) =
      blockRows (tabWidth * level.toNat) text := by
  rw [ofBlock, blockRows, List.map_cons, line_of_default, List.map_map]
  congr 1
  exact List.map_congr_left fun l hl => line_ofBlockLine hlevel (heven l hl)

end Stretch

namespace Printer

/-- What is told of the lines of a block after its first, where nothing is told of the levels of
empty lines. -/
theorem map_putLines {β : Type} {f : Stretch → β} (hempty : ∀ i j, f ⟨i, ""⟩ = f ⟨j, ""⟩)
    {base : Int} {ls : List String} {p : Printer} (hwanted : p.flags.blankWanted = false) :
    (p.putLines base ls).printed.map f =
      p.printed.map f ++ ls.map fun l => f (.ofBlockLine base l) := by
  induction ls generalizing p with
  | nil => simp [putLines]
  | cons l ls ih =>
    rw [putLines, lineIndentation_eq, List.map_cons, Stretch.ofBlockLine]
    cases isBlankLine l with
    | true =>
      have hskip : p.skip.flags.blankWanted = false := hwanted
      simp only [if_true]
      rw [ih hskip, skip, List.map_append, List.map_singleton, hempty p.level base,
        List.append_assoc, List.singleton_append]
    | false =>
      simp only [Bool.false_eq_true, if_false]
      rw [ih rfl]
      simp [put, hwanted]

/-- What is told of a block, where nothing is told of the levels of empty lines. -/
theorem map_print_block {β : Type} {f : Stretch → β} (hempty : ∀ i j, f ⟨i, ""⟩ = f ⟨j, ""⟩)
    (names : Assignment) (text : String) (p : Printer) :
    (p.print names (.block text)).printed.map f =
      p.printed.map f ++ ((if p.flags.blankWanted then [Stretch.mk p.level ""] else []) ++
        Stretch.ofBlock p.level text).map f := by
  rw [print, map_putLines hempty rfl, put, Stretch.ofBlock]
  cases p.flags.blankWanted <;> simp

end Printer

/-! ### A block after other calls -/

namespace Step

/-- Every later line of the block that is not blank has a column of a full level. -/
def EvenBlock (text : String) : Prop :=
  ∀ l ∈ (Text.lines text).2, isBlankLine l = false → columnOf l % tabWidth = 0

variable {names mapping : Assignment} {steps : List Step} {text : String}

/-- A block is emitted by calls that are sound, and they write texts only. -/
theorem sound_block (heven : EvenBlock text) :
    ∀ a ∈ Move.actionsOf (block text).moves,
      a.isCall = true ∧ a.Sound ∧ ∀ item, a.item? = some item → ∃ content, item = .text content := by
  rw [moves, Move.actionsOf, Move.actions, List.singleton_append, List.forall_mem_cons]
  refine ⟨⟨rfl, ⟨_, Value.toFragment_str _⟩, fun item h => ?_⟩, blockMoves_sound heven 0⟩
  rw [Action.item?, Value.toFragment_str] at h
  exact ⟨_, (Option.some.inj h).symm⟩

theorem actionsOf_block (steps : List Step) (text : String) :
    actionsOf (steps ++ [.block text]) =
      actionsOf steps ++ Move.actionsOf (block text).moves := by
  rw [actionsOf, movesOf_append, Move.actionsOf_append, movesOf, movesOf, List.append_nil]
  rfl

theorem calls_block (hcalls : ∀ a ∈ actionsOf steps, a.isCall) (heven : EvenBlock text) :
    ∀ a ∈ actionsOf (steps ++ [.block text]), a.isCall := by
  rw [actionsOf_block, List.forall_mem_append]
  exact ⟨hcalls, fun a ha => (sound_block heven a ha).1⟩

/-- A block adds texts to the items. -/
theorem mem_itemsOf_block (heven : EvenBlock text) {item : Tree}
    (h : item ∈ itemsOf (steps ++ [.block text])) :
    item ∈ itemsOf steps ∨ ∃ content, item = .text content := by
  rw [itemsOf, actionsOf_block, List.filterMap_append, List.mem_append] at h
  refine h.imp_right fun h => ?_
  obtain ⟨a, ha, hitem⟩ := List.mem_filterMap.mp h
  exact (sound_block heven a ha).2.2 item hitem

/-- A block can be emitted after any calls. -/
theorem fault_block (hrun : (runAll names steps .fresh).fault = none)
    (hcalls : ∀ a ∈ actionsOf steps, a.isCall) (heven : EvenBlock text) :
    (runAll names (steps ++ [.block text]) .fresh).fault = none := by
  have hopen : (runAll names steps .fresh).state.builder.finished = false := by
    rw [runAll_eq_runAll_moves] at hrun ⊢
    exact Move.finished_of_calls hcalls hrun
  obtain ⟨hfirst, hunderway⟩ :=
    Builder.Underway.lineOf hopen (Value.toFragment_str (Text.lines text).1)
  have hrest := blockMoves_sound heven 0
  rw [runAll_append, Outcome.andThen_of_fault hrun, runAll_eq_runAll_moves, movesOf, movesOf,
    List.append_nil, moves, Move.runAll, Outcome.fault_andThen_eq_none]
  exact ⟨hfirst, (Move.underway names (fun a ha => (hrest a ha).1)
    (fun a ha => (hrest a ha).2.1) hunderway).1⟩

/-- After other calls, a block emits what its moves emit under the flags that the calls leave. -/
theorem emissionsOf_block (hrun : (runAll names steps .fresh).fault = none)
    (hcalls : ∀ a ∈ actionsOf steps, a.isCall) (text : String) :
    emissionsOf (steps ++ [.block text]) = emissionsOf steps ++
      Move.emissions (runAll names steps .fresh).state.builder.flags (block text).moves := by
  rw [emissionsOf, movesOf_append, Move.emissions_append, movesOf, movesOf, List.append_nil,
    (grows_of_run hrun (Action.divert_notMem hcalls)).flags]
  rfl

/-- A block ends at its level, and is printed at its level or above. -/
theorem printed_block (mapping : Assignment) {level : Int} (hlevel : 0 ≤ level) (flags : Flags)
    (heven : EvenBlock text) :
    let es := Move.emissions flags (block text).moves
    Emission.offsetOf es = 0 ∧
    (∀ c ∈ Emission.printed mapping level es, 0 ≤ c.level) ∧
    ∀ {β : Type} (f : Stretch → β), (∀ i j, f ⟨i, ""⟩ = f ⟨j, ""⟩) →
      (Emission.printed mapping level es).map f =
        ((if flags.blankWanted then [Stretch.mk level ""] else []) ++
          Stretch.ofBlock level text).map f := by
  intro es
  let p : Printer := { level, flags }
  have hprint : p.print mapping (.block text) = p.after mapping (block text).moves :=
    Printer.print_eq_after mapping (.block text) p fun a ha => (sound_block heven a ha).2.1
  obtain ⟨habove, hback⟩ := Printer.goesOn_print mapping (.block text) (p := p) rfl hlevel
    (fun c hc => (List.not_mem_nil hc).elim)
  rw [hprint] at habove hback
  have hoffset : level + Emission.offsetOf es = level := hback
  refine ⟨by omega, habove, fun f hempty => ?_⟩
  have hmap := Printer.map_print_block hempty mapping text p
  rw [hprint] at hmap
  exact hmap

/-- The level that a program ends at is what its emissions change in all. -/
theorem level_of_run (hrun : (runAll names steps .fresh).fault = none)
    (hstay : .divert ∉ actionsOf steps) :
    (runAll names steps .fresh).state.builder.level = Emission.offsetOf (emissionsOf steps) := by
  have hlevel := (grows_of_run hrun hstay).level
  have hfresh : Builder.fresh.level = 0 := rfl
  rwa [hfresh, Int.zero_add] at hlevel

/-- Where the emissions of calls can be written, so can they with a block after them. -/
theorem writable_block (hrun : (runAll names steps .fresh).fault = none)
    (hcalls : ∀ a ∈ actionsOf steps, a.isCall) (heven : EvenBlock text)
    (h : Emission.Writable mapping (emissionsOf steps)) :
    Emission.Writable mapping (emissionsOf (steps ++ [.block text])) := by
  obtain ⟨hoffset, hlevels, -⟩ := printed_block mapping h.level
    (runAll names steps .fresh).state.builder.flags heven
  refine ⟨?_, ?_, ?_⟩
  · rw [filterMap_item?_emissionsOf]
    intro item hitem
    rcases mem_itemsOf_block heven hitem with hbefore | ⟨content, rfl⟩
    · rw [← filterMap_item?_emissionsOf] at hbefore
      exact h.flat item hbefore
    · simp [Fragment.strokes, Stroke.IsFlat]
  · rw [emissionsOf_block hrun hcalls, Emission.printed_append, Int.zero_add,
      List.forall_mem_append]
    exact ⟨h.levels, hlevels⟩
  · rw [emissionsOf_block hrun hcalls, Emission.offsetOf_append, hoffset, Int.add_zero]
    exact h.level

/-- A block adds its lines to what is printed, at its level and after an empty line if a blank line
was wanted, as far as nothing is told of the levels of empty lines. -/
theorem map_printed_after_block {β : Type} {f : Stretch → β}
    (hempty : ∀ i j, f ⟨i, ""⟩ = f ⟨j, ""⟩) (hrun : (runAll names steps .fresh).fault = none)
    (hcalls : ∀ a ∈ actionsOf steps, a.isCall)
    (hwritable : Emission.Writable mapping (emissionsOf steps)) (heven : EvenBlock text) :
    let before := (runAll names steps .fresh).state.builder
    (Emission.printed mapping 0 (emissionsOf (steps ++ [.block text]))).map f =
      (Emission.printed mapping 0 (emissionsOf steps)).map f ++
        ((if before.blankWanted then [Stretch.mk before.level ""] else []).map f ++
          (Stretch.ofBlock before.level text).map f) := by
  intro before
  have hlevel : before.level = Emission.offsetOf (emissionsOf steps) :=
    level_of_run hrun (Action.divert_notMem hcalls)
  have hpositive : 0 ≤ before.level := hlevel ▸ hwritable.level
  obtain ⟨-, -, hblock⟩ := printed_block mapping hpositive before.flags heven
  have hadded := hblock f hempty
  rw [List.map_append] at hadded
  rw [emissionsOf_block hrun hcalls, Emission.printed_append, Int.zero_add, ← hlevel,
    List.map_append]
  exact congrArg _ hadded

/-- A block adds its rows to the lines, under the margin of the level and after an empty line if a
blank line was wanted, or fails at the first row whose margin is too large. -/
theorem linesOf_after_block {lines : List String}
    (hrun : (runAll names steps .fresh).fault = none) (hcalls : ∀ a ∈ actionsOf steps, a.isCall)
    (hitems : ∀ item ∈ itemsOf steps, item.newlines = [] ∧ item.pendings = [])
    (hlines : (runAll names steps .fresh).state.builder.linesOf mapping defaultIndentation =
      .ok lines) (heven : EvenBlock text) :
    let before := (runAll names steps .fresh).state.builder
    (runAll names (steps ++ [.block text]) .fresh).state.builder.linesOf mapping
        defaultIndentation =
      match (Stretch.ofBlock before.level text).findSome? (Stretch.refusal? defaultIndentation) with
      | some fault => .error fault
      | none => .ok (lines ++ ((if before.blankWanted then [""] else []) ++
          blockRows (tabWidth * before.level.toNat) text)) := by
  intro before
  obtain ⟨hwritable, hclear, rfl⟩ :=
    writable_of_linesOf hrun (Action.divert_notMem hcalls) hitems hlines
  have hpositive : 0 ≤ before.level := by
    rw [level_of_run hrun (Action.divert_notMem hcalls)]
    exact hwritable.level
  have hpendings : ∀ item ∈ itemsOf (steps ++ [.block text]), item.pendings = [] := by
    intro item hitem
    rcases mem_itemsOf_block heven hitem with hbefore | ⟨content, rfl⟩
    · exact (hitems item hbefore).2
    · exact Fragment.pendings_text content
  have hfound : (Emission.printed mapping 0 (emissionsOf (steps ++ [.block text]))).findSome?
      (Stretch.refusal? defaultIndentation) =
        (Stretch.ofBlock before.level text).findSome? (Stretch.refusal? defaultIndentation) := by
    have hid (cs : List Stretch) : cs.findSome? (Stretch.refusal? defaultIndentation) =
        (cs.map (Stretch.refusal? defaultIndentation)).findSome? id := by
      rw [List.findSome?_map]
      rfl
    have hblank : ((if before.blankWanted then [Stretch.mk before.level ""] else []).map
        (Stretch.refusal? defaultIndentation)).findSome? id = none := by
      cases before.blankWanted <;> rfl
    rw [hid, map_printed_after_block (fun _ _ => rfl) hrun hcalls hwritable heven,
      List.findSome?_append, List.findSome?_append, ← hid, hclear, hblank, Option.none_or,
      Option.none_or, ← hid]
  have hwritten : (Emission.printed mapping 0 (emissionsOf (steps ++ [.block text]))).map
      (Stretch.line defaultIndentation) =
        (Emission.printed mapping 0 (emissionsOf steps)).map (Stretch.line defaultIndentation) ++
          ((if before.blankWanted then [""] else []) ++
            blockRows (tabWidth * before.level.toNat) text) := by
    have hblank : (if before.blankWanted then [Stretch.mk before.level ""] else []).map
        (Stretch.line defaultIndentation) = if before.blankWanted then [""] else [] := by
      cases before.blankWanted <;> rfl
    rw [map_printed_after_block (fun _ _ => rfl) hrun hcalls hwritable heven, hblank,
      Stretch.map_line_ofBlock hpositive heven]
  rw [linesOf_of_writable (fault_block hrun hcalls heven)
    (Action.divert_notMem (calls_block hcalls heven)) hpendings
    (writable_block hrun hcalls heven hwritable), hfound]
  cases (Stretch.ofBlock before.level text).findSome? (Stretch.refusal? defaultIndentation) with
  | some fault => rfl
  | none => exact congrArg Except.ok hwritten

/-- A block that comes after other calls, of which every later line that is not blank has a column
of a full level, runs without a fault and leaves the level as it was.  If the tree could be written
before it, with items that hold no line breaks of their own, the block adds its rows under the
margin of the level, after an empty line if a blank line was wanted, unless the margin of one of
them is too large; then the first such row is the reason to fail.  On a fresh builder, a block that
is indented with spaces, without CR and without later lines of nothing but spaces, comes out as it
went in. -/
theorem linesOf_block {lines : List String} (hrun : (runAll names steps .fresh).fault = none)
    (hcalls : ∀ a ∈ actionsOf steps, a.isCall)
    (hitems : ∀ item ∈ itemsOf steps, item.newlines = [] ∧ item.pendings = [])
    (hlines : (runAll names steps .fresh).state.builder.linesOf mapping defaultIndentation =
      .ok lines)
    (heven : ∀ l ∈ (Text.lines text).2, isBlankLine l = false → columnOf l % tabWidth = 0) :
    let before := (runAll names steps .fresh).state.builder
    let o := runAll names (steps ++ [.block text]) .fresh
    o.fault = none ∧ 0 ≤ before.level ∧ o.state.builder.level = before.level ∧
    (o.state.builder.linesOf mapping defaultIndentation =
      match (Stretch.ofBlock before.level text).findSome? (Stretch.refusal? defaultIndentation) with
      | some fault => .error fault
      | none => .ok (lines ++ ((if before.blankWanted then [""] else []) ++
          blockRows (tabWidth * before.level.toNat) text))) ∧
    (steps = [] → '\r' ∉ text.toList →
      (∀ l ∈ (Text.lines text).2, ∀ c ∈ l.toList.takeWhile Text.isIndent, c = ' ') →
      (∀ l ∈ (Text.lines text).2, isBlankLine l = true → l = "") →
      ∀ rows, o.state.builder.linesOf mapping defaultIndentation = .ok rows →
        "\n".intercalate rows = text) := by
  intro before o
  have hstay : .divert ∉ actionsOf steps := Action.divert_notMem hcalls
  have hwritable := (writable_of_linesOf hrun hstay hitems hlines).1
  have hlevel : before.level = Emission.offsetOf (emissionsOf steps) := level_of_run hrun hstay
  have hpositive : 0 ≤ before.level := hlevel ▸ hwritable.level
  have hfault : o.fault = none := fault_block hrun hcalls heven
  have hafter : o.state.builder.level = before.level := by
    rw [level_of_run hfault (Action.divert_notMem (calls_block hcalls heven)),
      emissionsOf_block hrun hcalls, Emission.offsetOf_append,
      (printed_block mapping hpositive before.flags heven).1, Int.add_zero, hlevel]
  have hrows := linesOf_after_block hrun hcalls hitems hlines heven
  refine ⟨hfault, hpositive, hafter, hrows, ?_⟩
  rintro rfl hcr hspaces hblank rows hout
  have hnone : lines = [] := (Except.ok.inj hlines).symm
  change o.state.builder.linesOf mapping defaultIndentation = _ at hrows
  rw [hout, hnone] at hrows
  cases hrefused : (Stretch.ofBlock before.level text).findSome?
      (Stretch.refusal? defaultIndentation) with
  | some fault =>
    rw [hrefused] at hrows
    cases hrows
  | none =>
    rw [hrefused] at hrows
    obtain rfl : rows = blockRows 0 text := Except.ok.inj hrows
    exact Text.intercalate_blockRows_zero hcr hspaces hblank

/-- A block with all kinds of line breaks and a tab, one level deep and with a blank line wanted, and
a block on a fresh builder. -/
theorem linesOf_block_deeper :
    (let steps := [line [.str "a"], shift 1, requestBlank]
    (runAll .empty steps .fresh).state.builder.linesOf .empty defaultIndentation = .ok ["a"] ∧
    (runAll .empty (steps ++ [.block "b\r\n \tc\r  \n        d"]) .fresh).fault = none ∧
    (runAll .empty (steps ++ [.block "b\r\n \tc\r  \n        d"]) .fresh).state.builder.level = 1 ∧
    (runAll .empty (steps ++ [.block "b\r\n \tc\r  \n        d"]) .fresh).state.builder.linesOf .empty
        defaultIndentation = .ok ["a", "", "    b", "        c", "", "            d"]) ∧
    ∀ rows, (runAll .empty ([] ++ [.block "  e\n    f\n\ng"]) .fresh).state.builder.linesOf .empty
        defaultIndentation = .ok rows → "\n".intercalate rows = "  e\n    f\n\ng" := by
  constructor
  · intro steps
    have hrun : (runAll .empty steps .fresh).fault = none := by cbv
    have hactions : actionsOf steps = [.line (.list [.str "a"]), .shift 1, .requestBlank] := by cbv
    have htexts : itemsOf steps = [.text "a"] := by cbv
    have hlines : (runAll .empty steps .fresh).state.builder.linesOf .empty defaultIndentation =
        .ok ["a"] := by cbv
    have hlevel : (runAll .empty steps .fresh).state.builder.level = 1 := by cbv
    have hwanted : (runAll .empty steps .fresh).state.builder.blankWanted = true := by cbv
    have heven : ∀ l ∈ (Text.lines "b\r\n \tc\r  \n        d").2, isBlankLine l = false →
        columnOf l % tabWidth = 0 := by decide +kernel
    have hclear : (Stretch.ofBlock 1 "b\r\n \tc\r  \n        d").findSome?
        (Stretch.refusal? defaultIndentation) = none := by decide +kernel
    have hrows : blockRows (tabWidth * Int.toNat 1) "b\r\n \tc\r  \n        d" =
        ["    b", "        c", "", "            d"] := by decide +kernel
    have hblock := linesOf_block hrun (by simp [hactions, Action.isCall])
      (by simp [htexts]) hlines heven
    obtain ⟨hfault, -, hafter, hwritten, -⟩ := hblock
    rw [hlevel] at hafter
    simp only [hlevel, hwanted, hclear, hrows, if_true, List.cons_append, List.nil_append]
      at hwritten
    exact ⟨hlines, hfault, hafter, hwritten⟩
  · have hrun : (runAll .empty [] .fresh).fault = none := rfl
    have hlines : (runAll .empty [] .fresh).state.builder.linesOf .empty defaultIndentation =
        .ok [] := rfl
    have hlater : (Text.lines "  e\n    f\n\ng").2 = ["    f", "", "g"] := by decide +kernel
    have heven : ∀ l ∈ (Text.lines "  e\n    f\n\ng").2, isBlankLine l = false →
        columnOf l % tabWidth = 0 := by
      rw [hlater]
      decide +kernel
    have hspaces : ∀ l ∈ (Text.lines "  e\n    f\n\ng").2,
        ∀ c ∈ l.toList.takeWhile Text.isIndent, c = ' ' := by
      rw [hlater]
      simp [Text.isIndent]
    have hblank : ∀ l ∈ (Text.lines "  e\n    f\n\ng").2, isBlankLine l = true → l = "" := by
      rw [hlater]
      simp [isBlankLine, Text.isIndent]
    have hblock := linesOf_block hrun (fun _ h => (List.not_mem_nil h).elim)
      (fun _ h => (List.not_mem_nil h).elim) hlines heven
    exact hblock.2.2.2.2 rfl (by decide +kernel) hspaces hblank

/-- A tree can be written before a block and not after it, when the levels, the characters or the
bytes of the margin at its level cannot be counted. -/
theorem block_margin_refused :
    let steps (level : Int) := [line [.str "a"], shift level]
    let isWritten (level : Int) : Prop :=
      (runAll .empty (steps level) .fresh).fault = none ∧
      actionsOf (steps level) = [.line (.list [.str "a"]), .shift level] ∧
      itemsOf (steps level) = [.text "a"] ∧
      (runAll .empty (steps level) .fresh).state.builder.level = level ∧
      (runAll .empty (steps level) .fresh).state.builder.linesOf .empty defaultIndentation =
        .ok ["a"] ∧
      (runAll .empty (steps level ++ [.block "b"]) .fresh).fault = none
    let written (level : Int) :=
      (runAll .empty (steps level ++ [.block "b"]) .fresh).state.builder.linesOf .empty
        defaultIndentation
    Text.lines "b" = ("b", []) ∧
    isWritten 0x8000000000000000 ∧ written 0x8000000000000000 = .error .levelTooLarge ∧
    isWritten 0x2000000000000000 ∧ written 0x2000000000000000 = .error .marginTooLong ∧
    isWritten 0x1fffffffffffffff ∧ written 0x1fffffffffffffff = .error .marginTooLarge := by
  intro steps isWritten written
  refine ⟨by decide +kernel, ⟨?_, ?_, ?_, ?_, ?_, ?_⟩, ?_, ⟨?_, ?_, ?_, ?_, ?_, ?_⟩, ?_,
    ⟨?_, ?_, ?_, ?_, ?_, ?_⟩, ?_⟩ <;> cbv

end Step

end SourceLayout
