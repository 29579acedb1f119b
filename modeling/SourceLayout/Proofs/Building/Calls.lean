import SourceLayout.Proofs.Building.Following
import SourceLayout.Proofs.Building.Printing

/-! Programs of calls that emit.  They leave the tree open, and once there is a line break nothing
stops them but a value that cannot be converted.  What such a program writes is decided by what it
prints: its lines are the printed ones, if every item can be written, no level is below zero and no
margin is refused. -/

namespace SourceLayout

/-! ### Calls go on -/

/-- The action belongs to a call that emits: it does not turn the output away, and it neither asks
for the tree nor writes it. -/
def Action.isCall : Action → Bool
  | .divert | .finish | .write _ => false
  | .line _ | .emptyLine | .requestBlank | .shift _ | .probe | .fail _ => true

/-- The action writes a line, be it an empty one. -/
def Action.isWriting : Action → Bool
  | .line _ | .emptyLine => true
  | .requestBlank | .shift _ | .probe | .divert | .finish | .write _ | .fail _ => false

/-- The action writes a content: the parts of a line, a table, the first line of a block, or a later
one with a text. -/
def Action.isContent : Action → Bool
  | .line _ => true
  | .emptyLine | .requestBlank | .shift _ | .probe | .divert | .finish | .write _ | .fail _ => false

theorem Action.divert_notMem {as : List Action} (h : ∀ a ∈ as, a.isCall = true) :
    .divert ∉ as := fun hmem => Bool.false_ne_true (h _ hmem)

/-- The tree is not finished and there is a line break. -/
structure Builder.Underway (b : Builder) : Prop where
  finished : b.finished = false
  arena : b.arena.changes ≠ []

namespace Builder.Underway

variable {b : Builder}

theorem appendBreak (h : b.finished = false) : b.appendBreak.Underway :=
  ⟨h, List.cons_ne_nil _ _⟩

theorem lineOf {v : Value} {item : Tree} (h : b.finished = false) (hv : v.toFragment = .ok item) :
    (b.lineOf v).fault = none ∧ (b.lineOf v).state.Underway := by
  rw [lineOf_eq_done h hv]
  exact ⟨rfl, appendBreak (b.finished_flushBlank.trans h)⟩

theorem requestBlank (h : b.Underway) : b.requestBlank.Underway := by
  unfold Builder.requestBlank
  split <;> exact ⟨h.finished, h.arena⟩

theorem shift (h : b.Underway) (offset : Int) :
    (b.shift offset).fault = none ∧ (b.shift offset).state.Underway := by
  obtain ⟨⟨changes⟩, current, suspended, blankWanted, hasOutput, finished⟩ := b
  cases changes with
  | nil => exact absurd rfl h.arena
  | cons change earlier => exact ⟨rfl, h.finished, List.cons_ne_nil _ _⟩

end Builder.Underway

/-- A sound call goes on from a builder that is underway. -/
theorem Action.underway (names : Assignment) {a : Action} (hcall : a.isCall = true)
    (hsound : a.Sound) {s : Session} (h : s.builder.Underway) :
    (a.run names s).fault = none ∧ (a.run names s).state.builder.Underway := by
  cases a with
  | line v =>
    obtain ⟨item, hitem⟩ := hsound
    exact Builder.Underway.lineOf h.finished hitem
  | emptyLine =>
    rw [run, Session.onBuilder, Builder.breakLine, h.finished]
    exact ⟨rfl, .appendBreak h.finished⟩
  | requestBlank => exact ⟨rfl, h.requestBlank⟩
  | shift offset => exact h.shift offset
  | probe => exact ⟨rfl, h⟩
  | fail fault => exact hsound.elim
  | divert | finish | write _ => cases hcall

/-- Sound calls go on from a builder that is underway, whichever regions they open. -/
theorem Move.underway (names : Assignment) {ms : List Move} (hcalls : ∀ a ∈ actionsOf ms, a.isCall)
    (hsound : ∀ a ∈ actionsOf ms, a.Sound) {s : Session} (h : s.builder.Underway) :
    (runAll names ms s).fault = none ∧ (runAll names ms s).state.builder.Underway := by
  induction ms using listInduction generalizing s with
  | nil => exact ⟨rfl, h⟩
  | act a ms ih =>
    rw [actionsOf, actions, List.forall_mem_append, List.forall_mem_singleton] at hcalls hsound
    obtain ⟨hfault, hnext⟩ := Action.underway names hcalls.1 hsound.1 h
    rw [runAll, run, Outcome.andThen_of_fault hfault]
    exact ih hcalls.2 hsound.2 hnext
  | region mark body ms ihBody ih =>
    rw [actionsOf, actions, List.forall_mem_append] at hcalls hsound
    have hopen : s.openRegion.builder.Underway := ⟨h.finished, h.arena⟩
    obtain ⟨hfault, hbody⟩ := ihBody hcalls.1 hsound.1 hopen
    have hgrows := Grows.moves (Action.divert_notMem hcalls.1) hfault
    have hsuspended : (runAll names body s.openRegion).state.builder.suspended =
        s.builder.current :: s.builder.suspended := hgrows.suspended
    have hclose : (run names (.region mark body) s).fault = none ∧
        (run names (.region mark body) s).state.builder.Underway := by
      rw [run, Outcome.andThen_of_fault hfault, Session.onBuilder, Builder.closeRegion, hsuspended]
      simp only [Builder.depth, if_true]
      exact ⟨rfl, hbody.finished, hbody.arena⟩
    rw [runAll, Outcome.andThen_of_fault hclose.1]
    exact ih hcalls.2 hsound.2 hclose.2

/-! ### Calls leave the tree open -/

theorem Builder.finished_closeRegion (mark : Mark) (depth : Nat) (b : Builder) :
    (b.closeRegion mark depth).state.finished = b.finished := by
  unfold closeRegion
  split
  · rfl
  · simp only
    split <;> rfl

theorem Action.finished_of_call {names : Assignment} {a : Action} (hcall : a.isCall = true)
    {s : Session} (hrun : (a.run names s).fault = none) :
    (a.run names s).state.builder.finished = s.builder.finished := by
  cases a with
  | line v =>
    have hfinished : s.builder.finished = false := Builder.finished_of_lineOf (v := v) hrun
    obtain ⟨item, -, hdone⟩ := Builder.lineOf_of_fault (b := s.builder) hrun
    rw [run, Session.onBuilder, hdone]
    exact s.builder.finished_flushBlank
  | emptyLine =>
    have hfinished : s.builder.finished = false := Builder.finished_of_breakLine hrun
    rw [run, Session.onBuilder, Builder.breakLine, hfinished]
    exact hfinished
  | requestBlank =>
    simp only [run, Session.requestBlank, Builder.requestBlank, Outcome.state_done]
    split <;> rfl
  | shift offset =>
    rw [run, Session.onBuilder, Builder.shift]
    cases s.builder.arena.shift offset <;> rfl
  | probe => rfl
  | fail fault => cases hrun
  | divert | finish | write _ => cases hcall

/-- Calls that run without a fault do not finish the tree. -/
theorem Move.finished_of_calls {names : Assignment} {ms : List Move}
    (hcalls : ∀ a ∈ actionsOf ms, a.isCall) {s : Session}
    (hrun : (runAll names ms s).fault = none) :
    (runAll names ms s).state.builder.finished = s.builder.finished := by
  induction ms using listInduction generalizing s with
  | nil => rfl
  | act a ms ih =>
    rw [actionsOf, actions, List.forall_mem_append, List.forall_mem_singleton] at hcalls
    rw [runAll, Outcome.fault_andThen_eq_none] at hrun
    rw [runAll, Outcome.andThen_of_fault hrun.1, ih hcalls.2 hrun.2]
    exact Action.finished_of_call hcalls.1 hrun.1
  | region mark body ms ihBody ih =>
    rw [actionsOf, actions, List.forall_mem_append] at hcalls
    rw [runAll, Outcome.fault_andThen_eq_none] at hrun
    obtain ⟨hregion, hrest⟩ := hrun
    rw [runAll, Outcome.andThen_of_fault hregion, ih hcalls.2 hrest]
    rw [run, Outcome.fault_andThen_eq_none] at hregion
    rw [run, Outcome.andThen_of_fault hregion.1]
    exact (Builder.finished_closeRegion mark _ _).trans (ihBody hcalls.1 hregion.1)

/-! ### Lines that are written as they are printed -/

/-- What is emitted can be written, apart from its margins: the items hold no break that changes the
level and nothing that halts the writing, and no level is below zero. -/
structure Emission.Writable (names : Assignment) (es : List Emission) : Prop where
  flat : ∀ item ∈ es.filterMap item?, ∀ s ∈ item.strokes names, s.IsFlat
  levels : ∀ c ∈ printed names 0 es, 0 ≤ c.level
  level : 0 ≤ offsetOf es

/-- An item that is emitted has its strokes among those of the emissions. -/
theorem Emission.mem_strokes {names : Assignment} {es : List Emission} {item : Tree}
    (hitem : item ∈ es.filterMap item?) {s : Stroke} (hs : s ∈ item.strokes names) :
    s ∈ strokes names es := by
  induction es with
  | nil => cases hitem
  | cons e es ih =>
    cases e with
    | line other =>
      rw [filterMap_item?_line, List.mem_cons] at hitem
      rw [strokes, List.mem_append]
      rcases hitem with rfl | hitem
      · exact .inl hs
      · exact .inr (List.mem_cons_of_mem _ (ih hitem))
    | emptyLine => exact List.mem_cons_of_mem _ (ih hitem)
    | shift offset => exact ih hitem

namespace Step

/-- What a program emits, in order and without its regions. -/
def emissionsOf (steps : List Step) : List Emission := Move.emissions {} (movesOf steps)

theorem filterMap_item?_emissionsOf (steps : List Step) :
    (emissionsOf steps).filterMap Emission.item? = itemsOf steps :=
  Move.itemsOf_emittedAll _ _

variable {names mapping : Assignment} {steps : List Step}

/-- A program that runs without a fault is written as the tree of its children. -/
theorem linesOf_eq_of_run (hrun : (runAll names steps .fresh).fault = none)
    (hstay : .divert ∉ actionsOf steps) (hpendings : ∀ item ∈ itemsOf steps, item.pendings = [])
    (mapping : Assignment) (indentation : String) :
    (runAll names steps .fresh).state.builder.linesOf mapping indentation =
      ((Fragment.seq (children steps)).toSheet mapping indentation).map Sheet.lines := by
  rw [Builder.linesOf, finish_eq_children hrun hstay hpendings]
  rfl

/-- A program whose emissions can be written is written as it is printed, or refused at the first
margin that is too large. -/
theorem linesOf_of_writable (hrun : (runAll names steps .fresh).fault = none)
    (hstay : .divert ∉ actionsOf steps) (hpendings : ∀ item ∈ itemsOf steps, item.pendings = [])
    (h : Emission.Writable mapping (emissionsOf steps)) (indentation : String) :
    (runAll names steps .fresh).state.builder.linesOf mapping indentation =
      match (Emission.printed mapping 0 (emissionsOf steps)).findSome?
          (Stretch.refusal? indentation) with
      | some fault => .error fault
      | none =>
        .ok ((Emission.printed mapping 0 (emissionsOf steps)).map (Stretch.line indentation)) := by
  have hlead : Emission.lead (emissionsOf steps) = 0 := lead_of_run hrun hstay
  have hstrokes : (Fragment.seq (children steps)).strokes mapping =
      Emission.strokes mapping (emissionsOf steps) := strokes_children mapping steps
  have hcuts := Emission.cuts_strokes 0 h.flat
  have hhalt := Emission.halt_notMem_strokes h.flat
  rw [hlead, ← hstrokes] at hcuts
  rw [← hstrokes] at hhalt
  have hlevel : 0 ≤ 0 + Emission.offsetOf (emissionsOf steps) := by
    rw [Int.zero_add]
    exact h.level
  rw [linesOf_eq_of_run hrun hstay hpendings]
  exact Fragment.lines_toSheet_of_cuts indentation hcuts hhalt h.levels hlevel

/-- A program that is written, with items that hold no line breaks of their own, emits what can be
written, and its lines are those that are printed. -/
theorem writable_of_linesOf {indentation : String} {lines : List String}
    (hrun : (runAll names steps .fresh).fault = none) (hstay : .divert ∉ actionsOf steps)
    (hitems : ∀ item ∈ itemsOf steps, item.newlines = [] ∧ item.pendings = [])
    (hlines : (runAll names steps .fresh).state.builder.linesOf mapping indentation = .ok lines) :
    Emission.Writable mapping (emissionsOf steps) ∧
      (Emission.printed mapping 0 (emissionsOf steps)).findSome? (Stretch.refusal? indentation) =
        none ∧
      lines = (Emission.printed mapping 0 (emissionsOf steps)).map (Stretch.line indentation) := by
  have hpendings : ∀ item ∈ itemsOf steps, item.pendings = [] := fun item h => (hitems item h).2
  have hlead : Emission.lead (emissionsOf steps) = 0 := lead_of_run hrun hstay
  have hstrokes : (Fragment.seq (children steps)).strokes mapping =
      Emission.strokes mapping (emissionsOf steps) := strokes_children mapping steps
  have hsheet := linesOf_eq_of_run hrun hstay hpendings mapping indentation
  rw [hlines, Fragment.lines_toSheet, hstrokes] at hsheet
  have hclear : Stretch.firstFault? indentation {} (Emission.strokes mapping (emissionsOf steps)) =
      none := (Fragment.eq_none_and_eq_of_ok hsheet.symm).1
  obtain ⟨hhalt, hlevels⟩ :=
    Stretch.halt_notMem_and_levels_of_firstFault? hclear (Int.le_refl 0)
  have hflat : ∀ item ∈ (emissionsOf steps).filterMap Emission.item?,
      ∀ s ∈ item.strokes mapping, s.IsFlat := by
    intro item hitem
    have hnewlines : item.newlines = [] := by
      rw [filterMap_item?_emissionsOf] at hitem
      exact (hitems item hitem).1
    exact Fragment.isFlat_of_newlines hnewlines fun fault hmem =>
      hhalt fault (Emission.mem_strokes hitem hmem)
  have hcuts := Emission.cuts_strokes 0 hflat
  rw [hlead, Int.add_zero, Int.zero_add] at hcuts
  have hwritable : Emission.Writable mapping (emissionsOf steps) := by
    refine ⟨hflat, fun c hc => hlevels c ?_, hlevels ⟨_, ""⟩ ?_⟩
    · rw [hcuts]
      exact List.mem_append_left _ hc
    · rw [hcuts]
      exact List.mem_append_right _ (List.mem_singleton_self _)
  refine ⟨hwritable, ?_⟩
  have hprinted := linesOf_of_writable hrun hstay hpendings hwritable indentation
  rw [hlines] at hprinted
  obtain ⟨hrefused, hsame⟩ := Fragment.eq_none_and_eq_of_ok hprinted.symm
  exact ⟨hrefused, hsame.symm⟩

end Step

end SourceLayout
