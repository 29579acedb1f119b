import SourceLayout.Proofs.Building.Growth
import SourceLayout.Proofs.Writing.Lines

/-! A program that leaves out its regions follows one that has them.  The program with regions
splits its content over several write targets and wraps it into marked trees; the other one writes
everything to one target.  As long as the first fails nowhere, both have the same line breaks, the
same flags and, whatever the line breaks come to carry, the same strokes. -/

namespace SourceLayout

/-! ### The strokes of trees with line breaks in an arena -/

namespace LineArena

/-- The strokes of trees whose pending breaks carry the changes of the arena. -/
def strokes (a : LineArena) (names : Assignment) (fs : List Tree) : Except Fault (List Stroke) :=
  (a.resolveAll fs).map (·.flatMap (Fragment.strokes names))

variable (a : LineArena) (names : Assignment)

theorem strokes_cons (f : Tree) (fs : List Tree) :
    a.strokes names (f :: fs) =
      ((a.resolve f).map (Fragment.strokes names)).bind fun ss =>
        (a.strokes names fs).map (ss ++ ·) := by
  rw [strokes, strokes, resolveAll]
  cases a.resolve f with
  | error fault => rfl
  | ok g => cases a.resolveAll fs <;> rfl

theorem strokes_append (fs gs : List Tree) :
    a.strokes names (fs ++ gs) =
      (a.strokes names fs).bind fun ss => (a.strokes names gs).map (ss ++ ·) := by
  induction fs with
  | nil =>
    have hnil : a.strokes names [] = .ok [] := rfl
    rw [List.nil_append, hnil]
    cases a.strokes names gs <;> rfl
  | cons f fs ih =>
    rw [List.cons_append, strokes_cons, strokes_cons, ih]
    cases a.resolve f with
    | error fault => rfl
    | ok g =>
      cases a.strokes names fs with
      | error fault => rfl
      | ok ss => cases a.strokes names gs <;> simp [Except.map, Except.bind]

/-- A marked region has the strokes of what it holds. -/
theorem strokes_marked_ofList (mark : Mark) (fs : List Tree) :
    a.strokes names [.marked mark (.ofList fs)] = a.strokes names fs := by
  have hnil : a.strokes names [] = .ok [] := rfl
  rw [strokes_cons, hnil, resolve]
  match fs with
  | [] => rfl
  | [f] =>
    rw [Fragment.ofList_singleton, strokes_cons, hnil]
    cases a.resolve f <;> rfl
  | f :: g :: fs =>
    have hseq : a.resolve (.ofList (f :: g :: fs)) = (a.resolveAll (f :: g :: fs)).map .seq := rfl
    rw [hseq, strokes]
    cases a.resolveAll (f :: g :: fs) <;> simp [Except.map, Except.bind]

end LineArena

/-- The trees `gs` come to the same strokes as the trees `fs`, or cannot be resolved for the same
reason, whatever arena holds their line breaks. -/
def SameStrokes (fs gs : List Tree) : Prop :=
  ∀ (a : LineArena) (names : Assignment), a.strokes names gs = a.strokes names fs

namespace SameStrokes

variable {fs gs hs ks : List Tree}

theorem refl (fs : List Tree) : SameStrokes fs fs := fun _ _ => rfl

theorem trans (h1 : SameStrokes fs gs) (h2 : SameStrokes gs hs) : SameStrokes fs hs :=
  fun a names => (h2 a names).trans (h1 a names)

theorem append (h1 : SameStrokes fs gs) (h2 : SameStrokes hs ks) :
    SameStrokes (fs ++ hs) (gs ++ ks) := by
  intro a names
  rw [LineArena.strokes_append, LineArena.strokes_append, h1 a names, h2 a names]

/-- Trees may be wrapped into a marked region. -/
theorem marked (mark : Mark) (h : SameStrokes (fs ++ hs) gs) :
    SameStrokes (fs ++ [.marked mark (.ofList hs)]) gs := by
  intro a names
  rw [h a names, LineArena.strokes_append, LineArena.strokes_append,
    LineArena.strokes_marked_ofList]

end SameStrokes

/-! ### Builders with the same strokes -/

namespace Builder

/-- Everything that was written, in order, with what the open regions hold. -/
def content (b : Builder) : List Tree := (b.current :: b.suspended).flatten.reverse

/-- The builder `c` has no open region, and otherwise comes to the same as the builder `b`. -/
structure Follows (b c : Builder) : Prop where
  arena : c.arena = b.arena
  flags : c.flags = b.flags
  finished : c.finished = b.finished
  suspended : c.suspended = []
  content : SameStrokes b.content c.content

theorem content_append (f : Tree) (b : Builder) : (b.append f).content = b.content ++ [f] := by
  simp [content, append]

theorem content_openRegion (b : Builder) : b.openRegion.content = b.content := by
  simp [content, openRegion]

theorem content_of_suspended {b : Builder} (h : b.suspended = []) :
    b.content = b.current.reverse := by
  simp [content, h]

/-- A region that can be closed is the innermost one, and leaves one marked tree in the one around
it. -/
theorem closeRegion_of_fault {b : Builder} {mark : Mark} {depth : Nat}
    (h : (b.closeRegion mark depth).fault = none) :
    ∃ outer suspended, b.suspended = outer :: suspended ∧ suspended.length = depth ∧
      b.closeRegion mark depth = .done
        { b with current := .marked mark (.ofList b.current.reverse) :: outer, suspended } := by
  unfold closeRegion at h ⊢
  cases hsuspended : b.suspended with
  | nil =>
    rw [hsuspended] at h
    cases h
  | cons outer suspended =>
    simp only [hsuspended] at h ⊢
    split at h
    · next hdepth => exact ⟨outer, suspended, rfl, hdepth, if_pos hdepth⟩
    · cases h

/-- Closing a region leaves the strokes as they are. -/
theorem sameStrokes_closeRegion {b : Builder} {mark : Mark} {depth : Nat}
    (h : (b.closeRegion mark depth).fault = none) :
    SameStrokes (b.closeRegion mark depth).state.content b.content := by
  obtain ⟨outer, suspended, hsuspended, -, hdone⟩ := closeRegion_of_fault h
  have hbefore : b.content = (outer :: suspended).flatten.reverse ++ b.current.reverse := by
    simp [content, hsuspended]
  have hmarked := SameStrokes.marked mark
    (.refl ((outer :: suspended).flatten.reverse ++ b.current.reverse))
  rw [hdone, hbefore]
  simpa [content] using hmarked

namespace Follows

variable {b c : Builder}

theorem fresh : Follows .fresh .fresh := ⟨rfl, rfl, rfl, rfl, .refl _⟩

theorem level_eq (h : b.Follows c) : c.level = b.level := by rw [level, h.arena, level]

theorem isEmpty_eq (h : b.Follows c) : c.isEmpty = b.isEmpty := by
  have houtput : c.hasOutput = b.hasOutput := congrArg Flags.hasOutput h.flags
  rw [isEmpty, isEmpty, houtput]

theorem blankWanted_eq (h : b.Follows c) : c.blankWanted = b.blankWanted :=
  congrArg Flags.blankWanted h.flags

theorem append (h : b.Follows c) (f : Tree) : (b.append f).Follows (c.append f) where
  arena := h.arena
  flags := congrArg (Flags.mk true) h.blankWanted_eq
  finished := h.finished
  suspended := h.suspended
  content := by
    rw [content_append, content_append]
    exact h.content.append (.refl [f])

theorem appendBreak (h : b.Follows c) : b.appendBreak.Follows c.appendBreak := by
  have happend := h.append (.pending b.arena.size)
  have hbreak : c.appendBreak =
      { c.append (.pending b.arena.size) with arena := c.arena.addBreak } := by
    rw [Builder.appendBreak, h.arena]
  rw [hbreak]
  exact ⟨congrArg LineArena.addBreak h.arena, happend.flags, happend.finished, happend.suspended,
    happend.content⟩

theorem flushBlank (h : b.Follows c) : b.flushBlank.Follows c.flushBlank := by
  have hbreak := h.appendBreak
  unfold Builder.flushBlank
  rw [h.blankWanted_eq]
  split
  · exact ⟨hbreak.arena, rfl, hbreak.finished, hbreak.suspended, hbreak.content⟩
  · exact h

theorem requestBlank (h : b.Follows c) : b.requestBlank.Follows c.requestBlank := by
  have houtput : c.hasOutput = b.hasOutput := congrArg Flags.hasOutput h.flags
  unfold Builder.requestBlank
  rw [h.isEmpty_eq]
  split
  · exact h
  · exact ⟨h.arena, congrArg (Flags.mk · true) houtput, h.finished, h.suspended, h.content⟩

theorem openRegion (h : b.Follows c) : b.openRegion.Follows c :=
  ⟨h.arena, h.flags, h.finished, h.suspended, b.content_openRegion ▸ h.content⟩

/-- A region that is closed turns what it holds into one marked tree. -/
theorem closeRegion (h : b.Follows c) {mark : Mark} {depth : Nat}
    (hclose : (b.closeRegion mark depth).fault = none) :
    (b.closeRegion mark depth).state.Follows c := by
  obtain ⟨outer, suspended, -, -, hdone⟩ := closeRegion_of_fault hclose
  have hcontent := (sameStrokes_closeRegion hclose).trans h.content
  rw [hdone] at hcontent ⊢
  exact ⟨h.arena, h.flags, h.finished, h.suspended, hcontent⟩

end Follows

end Builder

/-! ### Sessions with the same strokes -/

/-- The session `t` has a builder without open regions, and otherwise comes to the same as the
session `s`. -/
structure Session.Follows (s t : Session) : Prop where
  builder : s.builder.Follows t.builder
  tree : ∀ names, t.tree.strokes names = s.tree.strokes names
  probes : t.probes = s.probes

/-- Trees with the same strokes are written to the same lines, or cannot be written for the same
reason. -/
theorem Fragment.lines_toSheet_congr {tree other : Tree} {names : Assignment}
    (h : other.strokes names = tree.strokes names) (indentation : String) :
    (other.toSheet names indentation).map Sheet.lines =
      (tree.toSheet names indentation).map Sheet.lines := by
  rw [lines_toSheet, lines_toSheet, h]

namespace Builder

/-- A builder without open regions finishes the sequence of its content. -/
theorem finish_of_suspended {b : Builder} (h : b.suspended = []) :
    b.finish = ({ b with finished := true }, b.arena.resolve (.seq b.content)) := by
  rw [finish, h, content_of_suspended h]

/-- The strokes of the tree that a builder without open regions finishes. -/
theorem strokes_finish {b : Builder} (h : b.suspended = []) (names : Assignment) :
    b.finish.2.map (Fragment.strokes names) = b.arena.strokes names b.content := by
  rw [finish_of_suspended h, LineArena.resolve, LineArena.strokes]
  cases b.arena.resolveAll b.content <;> simp [Except.map]

/-- Where no region is open, both finish trees of the same strokes, or fail alike. -/
theorem Follows.strokes_finish {b c : Builder} (h : b.Follows c) (hclosed : b.suspended = [])
    (names : Assignment) :
    c.finish.2.map (Fragment.strokes names) = b.finish.2.map (Fragment.strokes names) := by
  rw [Builder.strokes_finish h.suspended, Builder.strokes_finish hclosed, h.arena]
  exact h.content b.arena names

/-- The lines of the tree that the builder finishes. -/
def linesOf (names : Assignment) (indentation : String) (b : Builder) :
    Except Fault (List String) := do
  let tree ← b.finish.2
  let sheet ← tree.toSheet names indentation
  return sheet.lines

/-- Where no region is open, both come to the same lines, or fail alike. -/
theorem Follows.linesOf_eq {b c : Builder} (h : b.Follows c) (hclosed : b.suspended = [])
    (names : Assignment) (indentation : String) :
    c.linesOf names indentation = b.linesOf names indentation := by
  have hstrokes := h.strokes_finish hclosed names
  rw [linesOf, linesOf]
  cases hb : b.finish.2 with
  | error fault =>
    cases hc : c.finish.2 with
    | error other =>
      rw [hb, hc] at hstrokes
      cases hstrokes
      rfl
    | ok other =>
      rw [hb, hc] at hstrokes
      cases hstrokes
  | ok tree =>
    cases hc : c.finish.2 with
    | error fault =>
      rw [hb, hc] at hstrokes
      cases hstrokes
    | ok other =>
      rw [hb, hc] at hstrokes
      exact Fragment.lines_toSheet_congr (Except.ok.inj hstrokes) indentation

end Builder

/-- A tree can be finished only where no region is open. -/
theorem Session.suspended_of_finish {s : Session} (h : s.finish.fault = none) :
    s.builder.suspended = [] := by
  cases hs : s.builder.suspended with
  | nil => rfl
  | cons outer suspended =>
    have hfault : s.finish.fault = some .regionOpen := by simp [finish, Builder.finish, hs]
    cases hfault.symm.trans h

/-- Finishing the tree changes nothing else in the builder. -/
theorem Session.builder_finish {s : Session} (h : s.builder.suspended = []) :
    s.finish.state.builder = { s.builder with finished := true } := by
  rw [finish, Builder.finish_of_suspended h]
  cases s.builder.arena.resolve (.seq s.builder.content) <;> rfl

namespace Action

variable {names : Assignment} {s t : Session}

theorem follows_line (h : s.Follows t) {v : Value}
    (hrun : ((Action.line v).run names s).fault = none) :
    ((Action.line v).run names t).fault = none ∧
      ((Action.line v).run names s).state.Follows ((Action.line v).run names t).state := by
  have hfinished : s.builder.finished = false := Builder.finished_of_lineOf (v := v) hrun
  obtain ⟨item, hitem, hdone⟩ := Builder.lineOf_of_fault (b := s.builder) hrun
  have hother := Builder.lineOf_eq_done (h.builder.finished.trans hfinished) hitem
  rw [run, run, Session.onBuilder, Session.onBuilder, hdone, hother]
  exact ⟨rfl, (h.builder.flushBlank.append item).appendBreak, h.tree, h.probes⟩

theorem follows_finish (h : s.Follows t) (hrun : s.finish.fault = none) :
    t.finish.fault = none ∧ s.finish.state.Follows t.finish.state := by
  have hclosed := Session.suspended_of_finish hrun
  have hstrokes := h.builder.strokes_finish hclosed
  have hb := Builder.finish_of_suspended hclosed
  have hc := Builder.finish_of_suspended h.builder.suspended
  rw [Session.finish] at hrun ⊢
  rw [Session.finish]
  rw [hb] at hrun hstrokes ⊢
  rw [hc] at hstrokes ⊢
  have hbuilder : ({ s.builder with finished := true } : Builder).Follows
      { t.builder with finished := true } :=
    ⟨h.builder.arena, h.builder.flags, rfl, h.builder.suspended, h.builder.content⟩
  cases hs : s.builder.arena.resolve (.seq s.builder.content) with
  | error fault =>
    rw [hs] at hrun
    cases hrun
  | ok tree =>
    rw [hs] at hstrokes
    cases ht : t.builder.arena.resolve (.seq t.builder.content) with
    | error fault =>
      rw [ht] at hstrokes
      cases hstrokes .empty
    | ok other =>
      rw [ht] at hstrokes
      exact ⟨rfl, hbuilder, fun names => Except.ok.inj (hstrokes names), h.probes⟩

theorem follows_write (h : s.Follows t) {indentation : String}
    (hrun : (s.write names indentation).fault = none) :
    (t.write names indentation).fault = none ∧
      (s.write names indentation).state.Follows (t.write names indentation).state := by
  have hlines := Fragment.lines_toSheet_congr (h.tree names) indentation
  rw [Session.write] at hrun ⊢
  rw [Session.write]
  cases hs : s.tree.toSheet names indentation with
  | error fault =>
    rw [hs] at hrun
    cases hrun
  | ok sheet =>
    rw [hs] at hlines
    cases ht : t.tree.toSheet names indentation with
    | error fault =>
      rw [ht] at hlines
      cases hlines
    | ok other => exact ⟨rfl, h.builder, h.tree, h.probes⟩

/-- An action that does not fail, and does not divert the output, does not fail after it either. -/
theorem follows {a : Action} (ha : a ≠ .divert) (h : s.Follows t)
    (hrun : (a.run names s).fault = none) :
    (a.run names t).fault = none ∧ (a.run names s).state.Follows (a.run names t).state := by
  cases a with
  | line v => exact follows_line h hrun
  | emptyLine =>
    have hfinished : s.builder.finished = false := Builder.finished_of_breakLine hrun
    rw [run, run, Session.onBuilder, Session.onBuilder, Builder.breakLine, Builder.breakLine,
      hfinished, h.builder.finished.trans hfinished]
    exact ⟨rfl, h.builder.appendBreak, h.tree, h.probes⟩
  | requestBlank => exact ⟨rfl, h.builder.requestBlank, h.tree, h.probes⟩
  | shift offset =>
    rw [run, Session.onBuilder, Builder.shift] at hrun ⊢
    rw [run, Session.onBuilder, Builder.shift, h.builder.arena]
    cases hshift : s.builder.arena.shift offset with
    | error fault =>
      rw [hshift] at hrun
      cases hrun
    | ok arena =>
      exact ⟨rfl, ⟨rfl, h.builder.flags, h.builder.finished, h.builder.suspended,
        h.builder.content⟩, h.tree, h.probes⟩
  | probe =>
    refine ⟨rfl, h.builder, h.tree, ?_⟩
    simp only [run, Session.probe, Outcome.state_done, h.builder.level_eq, h.builder.isEmpty_eq,
      h.probes]
  | divert => exact absurd rfl ha
  | finish => exact follows_finish h hrun
  | write indentation => exact follows_write h hrun
  | fail fault => cases hrun

end Action

/-- Moves that fail nowhere, and do not divert the output, are followed by their actions without the
regions. -/
theorem Move.follows {names : Assignment} {ms : List Move} {s t : Session} (h : s.Follows t)
    (hstay : .divert ∉ actionsOf ms) (hrun : (runAll names ms s).fault = none) :
    (runAll names ((actionsOf ms).map .act) t).fault = none ∧
      (runAll names ms s).state.Follows (runAll names ((actionsOf ms).map .act) t).state := by
  induction ms using listInduction generalizing s t with
  | nil => exact ⟨rfl, h⟩
  | act a ms ih =>
    rw [actionsOf, List.mem_append, not_or, actions, List.mem_singleton] at hstay
    rw [runAll, Outcome.fault_andThen_eq_none] at hrun
    obtain ⟨hfault, hnext⟩ := Action.follows (Ne.symm hstay.1) h hrun.1
    have hrest := ih hnext hstay.2 hrun.2
    rw [runAll, Outcome.andThen_of_fault hrun.1, actionsOf, actions, List.map_append, runAll_append,
      List.map_singleton, runAll_act_singleton, Outcome.andThen_of_fault hfault]
    exact hrest
  | region mark body ms ihBody ih =>
    rw [actionsOf, List.mem_append, not_or, actions] at hstay
    rw [runAll, Outcome.fault_andThen_eq_none] at hrun
    obtain ⟨hregion, hrest⟩ := hrun
    rw [runAll, Outcome.andThen_of_fault hregion]
    rw [run, Outcome.fault_andThen_eq_none] at hregion
    rw [run, Outcome.andThen_of_fault hregion.1] at hrest ⊢
    have hopen : s.openRegion.Follows t := ⟨h.builder.openRegion, h.tree, h.probes⟩
    obtain ⟨hfault, hbody⟩ := ihBody hopen hstay.1 hregion.1
    have hclose : (Session.onBuilder (Builder.closeRegion mark s.builder.depth)
        (runAll names body s.openRegion).state).state.Follows
          (runAll names ((actionsOf body).map .act) t).state :=
      ⟨hbody.builder.closeRegion hregion.2, hbody.tree, hbody.probes⟩
    rw [actionsOf, actions, List.map_append, runAll_append, Outcome.andThen_of_fault hfault]
    exact ih hclose hstay.2 hrest

end SourceLayout
