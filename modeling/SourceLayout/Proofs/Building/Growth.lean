import Mathlib.Data.List.Basic
import SourceLayout.Proofs.Building.Emission

/-! How a builder grows.  A run without a fault leaves the write targets around the innermost one
alone, and adds to the innermost one the trees of what the run emits: items, marked regions, and
line breaks, which are numbered in the order in which they are written. -/

namespace SourceLayout

/-! ### Emissions as trees -/

namespace Emission

/-- The trees of an emission, where the line break is written as `brk n`. -/
def trees (brk : Nat → Tree) (n : Nat) : Emission → List Tree
  | .line item => [item, brk n]
  | .emptyLine => [brk n]
  | .shift _ => []

/-- The arena after an emission.  Without a line break there is none to shift. -/
def onArena (a : LineArena) : Emission → LineArena
  | .line _ | .emptyLine => a.addBreak
  | .shift offset =>
    match a.changes with
    | [] => a
    | change :: earlier => ⟨(change + offset) :: earlier⟩

@[simp] theorem size_onArena (a : LineArena) (e : Emission) :
    (e.onArena a).size = a.size + e.breaks := by
  obtain ⟨changes⟩ := a
  cases e with
  | line item => rfl
  | emptyLine => rfl
  | shift offset => cases changes <;> rfl

theorem size_foldl_onArena (a : LineArena) (es : List Emission) :
    (es.foldl onArena a).size = a.size + breaksOf es := by
  induction es generalizing a with
  | nil => rfl
  | cons e es ih => rw [List.foldl_cons, ih, size_onArena, breaksOf_cons, Nat.add_assoc]

end Emission

namespace Emitted

mutual

/-- The trees of what is emitted, where the line breaks are written as `brk` of `n` and the numbers
after it. -/
def trees (brk : Nat → Tree) (n : Nat) : Emitted → List Tree
  | .single e => e.trees brk n
  | .region mark body => [.marked mark (.ofList (treesOf brk n body))]

/-- The trees of what is emitted, in order. -/
def treesOf (brk : Nat → Tree) (n : Nat) : List Emitted → List Tree
  | [] => []
  | o :: os => trees brk n o ++ treesOf brk (n + Emission.breaksOf o.flatten) os

end

theorem treesOf_append (brk : Nat → Tree) (n : Nat) (os ps : List Emitted) :
    treesOf brk n (os ++ ps) =
      treesOf brk n os ++ treesOf brk (n + Emission.breaksOf (flattenAll os)) ps := by
  induction os generalizing n with
  | nil => rfl
  | cons o os ih =>
    rw [List.cons_append, treesOf, treesOf, ih, flattenAll, Emission.breaksOf_append,
      List.append_assoc, Nat.add_assoc]

end Emitted

namespace Builder

theorem finished_of_breakLine {b : Builder} (h : b.breakLine.fault = none) :
    b.finished = false := by
  cases hf : b.finished with
  | false => rfl
  | true =>
    rw [breakLine, hf] at h
    cases h

theorem finished_flushBlank (b : Builder) : b.flushBlank.finished = b.finished := by
  unfold flushBlank
  split <;> rfl

/-- A value that can be converted is written as a line, as long as the tree is not finished. -/
theorem lineOf_eq_done {v : Value} {item : Tree} {b : Builder} (h : b.finished = false)
    (hv : v.toFragment = .ok item) :
    b.lineOf v = .done (b.flushBlank.append item).appendBreak := by
  have hopen : (b.flushBlank.append item).finished = false := b.finished_flushBlank.trans h
  rw [lineOf, Builder.item, h, hv]
  simp only [Bool.false_eq_true, if_false, Outcome.done_andThen, breakLine, hopen]

theorem lineOf_of_finished {b : Builder} (h : b.finished = true) (v : Value) :
    b.lineOf v = .failed b .treeFinished := by
  rw [lineOf, Builder.item, if_pos h]
  rfl

/-- A value that is refused leaves the blank line that was requested before it. -/
theorem lineOf_eq_failed {v : Value} {fault : Fault} {b : Builder} (h : b.finished = false)
    (hv : v.toFragment = .error fault) : b.lineOf v = .failed b.flushBlank fault := by
  rw [lineOf, Builder.item, h, hv]
  rfl

/-- A value is not written once the tree is finished; before that it is written as a line, or is
refused. -/
theorem lineOf_cases (v : Value) (b : Builder) :
    (b.finished = true ∧ b.lineOf v = .failed b .treeFinished) ∨
    (∃ item, b.finished = false ∧ v.toFragment = .ok item ∧
      b.lineOf v = .done (b.flushBlank.append item).appendBreak) ∨
    ∃ fault, b.finished = false ∧ v.toFragment = .error fault ∧
      b.lineOf v = .failed b.flushBlank fault := by
  cases hfinished : b.finished with
  | true => exact .inl ⟨rfl, lineOf_of_finished hfinished v⟩
  | false =>
    cases hv : v.toFragment with
    | ok item => exact .inr (.inl ⟨item, rfl, rfl, lineOf_eq_done hfinished hv⟩)
    | error fault => exact .inr (.inr ⟨fault, rfl, rfl, lineOf_eq_failed hfinished hv⟩)

theorem finished_of_lineOf {v : Value} {b : Builder} (h : (b.lineOf v).fault = none) :
    b.finished = false := by
  cases hf : b.finished with
  | false => rfl
  | true =>
    have hfault : (b.lineOf v).fault = some .treeFinished := by simp [lineOf, item, hf]
    cases hfault.symm.trans h

/-- A line that is written is the fragment of the value and a line break, after the blank line if
one is wanted. -/
theorem lineOf_of_fault {v : Value} {b : Builder} (h : (b.lineOf v).fault = none) :
    ∃ item, v.toFragment = .ok item ∧
      b.lineOf v = .done (b.flushBlank.append item).appendBreak := by
  rw [lineOf, Outcome.fault_andThen_eq_none] at h
  obtain ⟨hitem, hbreak⟩ := h
  have hopen := finished_of_breakLine hbreak
  rw [lineOf]
  unfold item at hitem hopen ⊢
  cases hf : b.finished with
  | true => simp [hf] at hitem
  | false =>
    cases hv : v.toFragment with
    | error fault => simp [hf, hv] at hitem
    | ok item =>
      simp only [hf, hv, Bool.false_eq_true, if_false, Outcome.state_done] at hopen
      refine ⟨item, rfl, ?_⟩
      simp only [Bool.false_eq_true, if_false, Outcome.done_andThen, breakLine, hopen]

end Builder

/-! ### Growth -/

/-- `after` is `before` with what was emitted added to the innermost write target, and with the
flags `flags`. -/
structure Grows (before : Builder) (emitted : List Emitted) (flags : Flags)
    (after : Builder) : Prop where
  arena : after.arena = (Emitted.flattenAll emitted).foldl Emission.onArena before.arena
  current : after.current =
    (Emitted.treesOf (fun n => .pending n) before.arena.size emitted).reverse ++ before.current
  suspended : after.suspended = before.suspended
  level : after.level = before.level + Emission.offsetOf (Emitted.flattenAll emitted)
  flags : after.flags = flags

namespace Grows

variable {b c d : Builder} {os ps : List Emitted} {flags more : Flags}

theorem refl (b : Builder) : Grows b [] b.flags b :=
  ⟨rfl, rfl, rfl, (Int.add_zero b.level).symm, rfl⟩

theorem trans (h1 : Grows b os flags c) (h2 : Grows c ps more d) : Grows b (os ++ ps) more d where
  arena := by rw [h2.arena, h1.arena, Emitted.flattenAll_append, List.foldl_append]
  current := by
    rw [h2.current, h1.current, h1.arena, Emission.size_foldl_onArena, Emitted.treesOf_append,
      List.reverse_append, List.append_assoc]
  suspended := h2.suspended.trans h1.suspended
  level := by
    rw [h2.level, h1.level, Emitted.flattenAll_append, Emission.offsetOf_append, Int.add_assoc]
  flags := h2.flags

/-- A line of an item, after the blank line if one is wanted. -/
theorem lineOf {v : Value} (h : (b.lineOf v).fault = none) :
    Grows b (((Action.line v).emissions b.flags).map .single) ((Action.line v).flagsAfter b.flags)
      (b.lineOf v).state := by
  obtain ⟨item, hitem, hdone⟩ := Builder.lineOf_of_fault h
  rw [hdone, Action.emissions, hitem]
  have hlevel : (b.flushBlank.append item).appendBreak.level = b.level + 0 := by simp
  obtain ⟨arena, current, suspended, blankWanted, hasOutput, finished⟩ := b
  cases blankWanted <;> exact ⟨rfl, rfl, rfl, hlevel, rfl⟩

theorem breakLine (h : b.breakLine.fault = none) :
    Grows b [.single .emptyLine] (Action.emptyLine.flagsAfter b.flags) b.breakLine.state := by
  have hopen : b.finished = false := Builder.finished_of_breakLine h
  rw [Builder.breakLine, hopen]
  exact ⟨rfl, rfl, rfl, (Builder.level_appendBreak b).trans (Int.add_zero b.level).symm, rfl⟩

theorem requestBlank (b : Builder) :
    Grows b [] (Action.requestBlank.flagsAfter b.flags) b.requestBlank := by
  obtain ⟨arena, current, suspended, blankWanted, hasOutput, finished⟩ := b
  cases hasOutput <;> exact ⟨rfl, rfl, rfl, (Int.add_zero _).symm, rfl⟩

theorem shift {offset : Int} (h : (b.shift offset).fault = none) :
    Grows b [.single (.shift offset)] b.flags (b.shift offset).state := by
  obtain ⟨⟨changes⟩, current, suspended, blankWanted, hasOutput, finished⟩ := b
  cases changes with
  | nil => cases h
  | cons change earlier =>
    have hlevel : (LineArena.mk ((change + offset) :: earlier)).level =
        (LineArena.mk (change :: earlier)).level + (offset + 0) := by
      rw [Int.add_zero]
      exact LineArena.level_shift rfl
    exact ⟨rfl, rfl, rfl, hlevel, rfl⟩

/-- A region takes what is emitted inside it, and stands where it was opened. -/
theorem region {mark : Mark} (h : Grows b.openRegion os flags c)
    (hclose : (c.closeRegion mark b.depth).fault = none) :
    Grows b [.region mark os] flags (c.closeRegion mark b.depth).state := by
  obtain ⟨arena, current, suspended, blankWanted, hasOutput, finished⟩ := c
  obtain ⟨harena, hcurrent, hsuspended, hlevel, hflags⟩ := h
  subst hsuspended
  have hbody : current.reverse =
      Emitted.treesOf (fun n => .pending n) b.arena.size os := by
    simp only [Builder.openRegion, List.append_nil] at hcurrent
    rw [hcurrent, List.reverse_reverse]
  simp only [Builder.closeRegion, Builder.openRegion, Builder.depth, if_true, hbody]
  have hflat : Emitted.flattenAll [.region mark os] = Emitted.flattenAll os := by
    rw [Emitted.flattenAll, Emitted.flatten, Emitted.flattenAll, List.append_nil]
  refine ⟨?_, rfl, rfl, ?_, hflags⟩
  · rw [hflat]
    exact harena
  · rw [hflat]
    exact hlevel

theorem finish (s : Session) : Grows s.builder [] s.builder.flags s.finish.state.builder := by
  obtain ⟨⟨arena, current, suspended, blankWanted, hasOutput, finished⟩, tree, sheet, probes⟩ := s
  cases suspended with
  | nil =>
    simp only [Session.finish, Builder.finish]
    cases arena.resolve (.seq current.reverse) <;>
      exact ⟨rfl, rfl, rfl, (Int.add_zero _).symm, rfl⟩
  | cons outer suspended => exact refl _

theorem write (names : Assignment) (indentation : String) (s : Session) :
    Grows s.builder [] s.builder.flags (s.write names indentation).state.builder := by
  rw [Session.write]
  cases s.tree.toSheet names indentation <;> exact refl _

/-- An action that does not fail emits its emissions, as long as it does not divert the output. -/
theorem action {names : Assignment} {a : Action} {s : Session} (ha : a ≠ .divert)
    (h : (a.run names s).fault = none) :
    Grows s.builder ((a.emissions s.builder.flags).map .single) (a.flagsAfter s.builder.flags)
      (a.run names s).state.builder := by
  cases a with
  | line v => exact lineOf h
  | emptyLine => exact breakLine h
  | requestBlank => exact requestBlank s.builder
  | shift offset => exact shift h
  | probe => exact refl s.builder
  | divert => exact absurd rfl ha
  | finish => exact finish s
  | write indentation => exact write names indentation s
  | fail fault => cases h

/-- Moves that run without a fault emit what they are to emit, as long as none of them diverts the
output. -/
theorem moves {names : Assignment} {ms : List Move} {s : Session}
    (hstay : .divert ∉ Move.actionsOf ms) (h : (Move.runAll names ms s).fault = none) :
    Grows s.builder (Move.emittedAll s.builder.flags ms) (Move.flagsAfterAll s.builder.flags ms)
      (Move.runAll names ms s).state.builder := by
  induction ms using Move.listInduction generalizing s with
  | nil => exact refl s.builder
  | act a ms ih =>
    rw [Move.actionsOf, List.mem_append, not_or, Move.actions, List.mem_singleton] at hstay
    rw [Move.runAll, Outcome.fault_andThen_eq_none] at h
    have hact : Grows s.builder _ _ (a.run names s).state.builder := action (Ne.symm hstay.1) h.1
    have hrest := ih hstay.2 h.2
    rw [Move.run, hact.flags] at hrest
    rw [Move.runAll, Outcome.andThen_of_fault h.1]
    exact hact.trans hrest
  | region mark body ms ihBody ih =>
    rw [Move.actionsOf, List.mem_append, not_or, Move.actions] at hstay
    rw [Move.runAll, Outcome.fault_andThen_eq_none] at h
    have hregion : Grows s.builder (Move.emitted s.builder.flags (.region mark body))
        (Move.flagsAfterAll s.builder.flags body)
        (Move.run names (.region mark body) s).state.builder := by
      have hrun := h.1
      rw [Move.run, Outcome.fault_andThen_eq_none] at hrun
      rw [Move.run, Outcome.andThen_of_fault hrun.1]
      exact region (ihBody hstay.1 hrun.1) hrun.2
    have hrest := ih hstay.2 h.2
    rw [hregion.flags] at hrest
    rw [Move.runAll, Outcome.andThen_of_fault h.1]
    exact hregion.trans hrest

end Grows

end SourceLayout
