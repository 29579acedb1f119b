import SourceLayout.Proofs.Building.Following
import SourceLayout.Proofs.Fragment.Resolving

/-! Builders with more line breaks.  A builder supports another if it has the same regions open, at
least the line breaks, and no break pending that neither it nor the other one knows.  What runs on
the one without a fault does so on the builder that supports it, however the calls are nested.  Lines
written before, and requests for blank lines, do no harm. -/

namespace SourceLayout

/-- The action belongs to a call of a builder: it neither turns the output away nor writes a
tree. -/
def Action.isBuilding : Action → Bool
  | .divert | .write _ => false
  | .line _ | .emptyLine | .requestBlank | .shift _ | .probe | .finish | .fail _ => true

theorem Action.divert_notMem_of_isBuilding {as : List Action}
    (h : ∀ a ∈ as, a.isBuilding = true) : .divert ∉ as :=
  fun hmem => Bool.false_ne_true (h _ hmem)

/-! ### Pending breaks -/

namespace Builder

/-- The breaks that are pending in what was written. -/
def pendings (b : Builder) : List Int := b.content.flatMap Fragment.pendings

theorem pendings_append (f : Tree) (b : Builder) :
    (b.append f).pendings = b.pendings ++ f.pendings := by
  rw [pendings, content_append, List.flatMap_append, List.flatMap_singleton]
  rfl

theorem pendings_appendBreak (b : Builder) :
    b.appendBreak.pendings = b.pendings ++ [(b.arena.size : Int)] :=
  pendings_append _ b

theorem pendings_openRegion (b : Builder) : b.openRegion.pendings = b.pendings :=
  congrArg (List.flatMap Fragment.pendings) b.content_openRegion

theorem pendings_closeRegion {b : Builder} {mark : Mark} {depth : Nat}
    (h : (b.closeRegion mark depth).fault = none) :
    (b.closeRegion mark depth).state.pendings = b.pendings := by
  obtain ⟨outer, suspended, hsuspended, -, hdone⟩ := closeRegion_of_fault h
  rw [hdone]
  simp [pendings, content, hsuspended, Fragment.pendings_marked_ofList]

/-- A builder without open regions can finish its tree if it has the breaks that are pending. -/
theorem exists_finish {b : Builder} (hclosed : b.suspended = []) :
    (∃ tree, b.finish.2 = .ok tree) ↔ ∀ index ∈ b.pendings, b.arena.Has index := by
  rw [finish_of_suspended hclosed, LineArena.exists_resolve, Fragment.pendings_seq]
  rfl

/-! ### Support -/

/-- What runs on the builder `b` without a fault does so on the builder `c`. -/
structure Supports (c b : Builder) : Prop where
  finished : c.finished = b.finished
  depth : c.depth = b.depth
  size : b.arena.size ≤ c.arena.size
  output : b.hasOutput = true → c.hasOutput = true
  wanted : b.blankWanted = true → c.blankWanted = true
  pendings : ∀ index ∈ c.pendings, index ∈ b.pendings ∨ c.arena.Has index

namespace Supports

variable {b c : Builder}

theorem refl (b : Builder) : b.Supports b :=
  ⟨rfl, rfl, Nat.le_refl _, id, id, fun _ => .inl⟩

theorem append (h : c.Supports b) (f : Tree) : (c.append f).Supports (b.append f) := by
  refine ⟨h.finished, h.depth, h.size, fun _ => rfl, h.wanted, fun index hindex => ?_⟩
  rw [pendings_append, List.mem_append] at hindex ⊢
  rcases hindex with hindex | hindex
  · exact (h.pendings index hindex).imp_left .inl
  · exact .inl (.inr hindex)

/-- One more line break on the builder that supports the other. -/
theorem appendBreak_left (h : c.Supports b) : c.appendBreak.Supports b := by
  refine ⟨h.finished, h.depth, Nat.le_succ_of_le h.size, fun _ => rfl, h.wanted,
    fun index hindex => ?_⟩
  rw [pendings_appendBreak, List.mem_append, List.mem_singleton] at hindex
  rcases hindex with hindex | rfl
  · exact (h.pendings index hindex).imp_right fun hhas => hhas.mono (Nat.le_succ _)
  · exact .inr (LineArena.has_of_lt (Nat.lt_succ_self _))

theorem appendBreak (h : c.Supports b) : c.appendBreak.Supports b.appendBreak := by
  obtain ⟨hfinished, hdepth, -, houtput, hwanted, hpendings⟩ := h.appendBreak_left
  refine ⟨hfinished, hdepth, Nat.succ_le_succ h.size, fun _ => rfl, hwanted,
    fun index hindex => (hpendings index hindex).imp_left fun hmem => ?_⟩
  rw [pendings_appendBreak]
  exact List.mem_append_left _ hmem

/-- Without the blank line that was wanted. -/
theorem heard (h : c.Supports b) :
    Supports { c with blankWanted := false } { b with blankWanted := false } :=
  ⟨h.finished, h.depth, h.size, h.output, id, h.pendings⟩

theorem flushBlank (h : c.Supports b) : c.flushBlank.Supports b.flushBlank := by
  unfold Builder.flushBlank
  cases hb : b.blankWanted with
  | true =>
    rw [if_pos rfl, if_pos (h.wanted hb)]
    exact h.appendBreak.heard
  | false =>
    rw [if_neg Bool.false_ne_true]
    split
    · -- only the supporting builder has a blank line to write, which is one more line break
      have hmore := h.appendBreak_left
      exact ⟨hmore.finished, hmore.depth, hmore.size, hmore.output,
        fun hwanted => absurd (hb.symm.trans hwanted) Bool.false_ne_true, hmore.pendings⟩
    · exact h

/-- A request on the builder that supports the other. -/
theorem requestBlank_left (h : c.Supports b) : c.requestBlank.Supports b := by
  unfold Builder.requestBlank
  split
  · exact h
  · exact ⟨h.finished, h.depth, h.size, h.output, fun _ => rfl, h.pendings⟩

theorem requestBlank (h : c.Supports b) : c.requestBlank.Supports b.requestBlank := by
  cases hb : b.hasOutput with
  | true =>
    rw [Builder.requestBlank, Builder.requestBlank, isEmpty, isEmpty, hb, h.output hb]
    exact ⟨h.finished, h.depth, h.size, fun _ => rfl, fun _ => rfl, h.pendings⟩
  | false =>
    have hunheard : b.requestBlank = b := by simp [Builder.requestBlank, isEmpty, hb]
    rw [hunheard]
    exact h.requestBlank_left

theorem breakLine (h : c.Supports b) (hrun : b.breakLine.fault = none) :
    c.breakLine.fault = none ∧ c.breakLine.state.Supports b.breakLine.state := by
  have hb := finished_of_breakLine hrun
  rw [Builder.breakLine, Builder.breakLine, hb, h.finished.trans hb]
  exact ⟨rfl, h.appendBreak⟩

theorem lineOf (h : c.Supports b) {v : Value} (hrun : (b.lineOf v).fault = none) :
    (c.lineOf v).fault = none ∧ (c.lineOf v).state.Supports (b.lineOf v).state := by
  have hb := finished_of_lineOf hrun
  obtain ⟨item, hitem, hdone⟩ := lineOf_of_fault hrun
  rw [hdone, lineOf_eq_done (h.finished.trans hb) hitem]
  exact ⟨rfl, (h.flushBlank.append item).appendBreak⟩

theorem shift (h : c.Supports b) {offset : Int} (hrun : (b.shift offset).fault = none) :
    (c.shift offset).fault = none ∧ (c.shift offset).state.Supports (b.shift offset).state := by
  obtain ⟨⟨changes⟩, current, suspended, blankWanted, hasOutput, finished⟩ := b
  cases changes with
  | nil => cases hrun
  | cons change earlier =>
    obtain ⟨⟨others⟩, current', suspended', blankWanted', hasOutput', finished'⟩ := c
    cases others with
    | nil => cases Nat.not_succ_le_zero _ h.size
    | cons other others =>
      exact ⟨rfl, h.finished, h.depth, h.size, h.output, h.wanted, h.pendings⟩

theorem openRegion (h : c.Supports b) : c.openRegion.Supports b.openRegion := by
  refine ⟨h.finished, congrArg (· + 1) h.depth, h.size, h.output, h.wanted, ?_⟩
  rw [pendings_openRegion, pendings_openRegion]
  exact h.pendings

theorem closeRegion (h : c.Supports b) {mark : Mark} {depth : Nat}
    (hrun : (b.closeRegion mark depth).fault = none) :
    (c.closeRegion mark depth).fault = none ∧
      (c.closeRegion mark depth).state.Supports (b.closeRegion mark depth).state := by
  obtain ⟨outer, suspended, hb, hdepth, hdone⟩ := closeRegion_of_fault hrun
  have hopen : c.suspended.length = depth + 1 := by
    have hlength := h.depth
    rwa [Builder.depth, Builder.depth, hb, List.length_cons, hdepth] at hlength
  have hother : (c.closeRegion mark depth).fault = none := by
    obtain ⟨inner, rest, hc⟩ := List.exists_cons_of_length_eq_add_one hopen
    rw [hc, List.length_cons] at hopen
    simp only [Builder.closeRegion, hc, Nat.succ.inj hopen, if_true]
    rfl
  have hpendings := h.pendings
  rw [← pendings_closeRegion hrun, ← pendings_closeRegion hother] at hpendings
  obtain ⟨inner, rest, -, hrest, hdone'⟩ := closeRegion_of_fault hother
  rw [hdone, hdone'] at hpendings ⊢
  exact ⟨rfl, h.finished, hrest.trans hdepth.symm, h.size, h.output, h.wanted, hpendings⟩

end Supports

end Builder

/-- Where a tree can be finished, so can one on a builder that supports it. -/
theorem Session.supports_finish {s t : Session} (h : t.builder.Supports s.builder)
    (hrun : s.finish.fault = none) :
    t.finish.fault = none ∧ t.finish.state.builder.Supports s.finish.state.builder := by
  have hclosed := Session.suspended_of_finish hrun
  have hother : t.builder.suspended = [] := by
    have hdepth := h.depth
    rw [Builder.depth, Builder.depth, hclosed] at hdepth
    exact List.eq_nil_of_length_eq_zero hdepth
  have hfinish : ∃ tree, s.builder.finish.2 = .ok tree := by
    rw [Session.finish, Builder.finish_of_suspended hclosed] at hrun
    rw [Builder.finish_of_suspended hclosed]
    cases hresolve : s.builder.arena.resolve (.seq s.builder.content) with
    | ok tree => exact ⟨tree, rfl⟩
    | error fault =>
      rw [hresolve] at hrun
      cases hrun
  rw [Builder.exists_finish hclosed] at hfinish
  have hhas : ∀ index ∈ t.builder.pendings, t.builder.arena.Has index := fun index hindex =>
    (h.pendings index hindex).elim (fun hmem => (hfinish index hmem).mono h.size) id
  obtain ⟨tree, htree⟩ := (Builder.exists_finish hother).mpr hhas
  have hfault : t.finish.fault = none := by
    rw [Builder.finish_of_suspended hother] at htree
    rw [Session.finish, Builder.finish_of_suspended hother]
    rw [show t.builder.arena.resolve (.seq t.builder.content) = .ok tree from htree]
    rfl
  refine ⟨hfault, ?_⟩
  rw [Session.builder_finish hclosed, Session.builder_finish hother]
  exact ⟨rfl, h.depth, h.size, h.output, h.wanted, h.pendings⟩

/-- An action that does not fail does not fail on a builder that supports it. -/
theorem Action.supports {names : Assignment} {a : Action} {s t : Session}
    (ha : a.isBuilding = true) (h : t.builder.Supports s.builder)
    (hrun : (a.run names s).fault = none) :
    (a.run names t).fault = none ∧
      (a.run names t).state.builder.Supports (a.run names s).state.builder := by
  cases a with
  | line v => exact h.lineOf hrun
  | emptyLine => exact h.breakLine hrun
  | requestBlank => exact ⟨rfl, h.requestBlank⟩
  | shift offset => exact h.shift hrun
  | probe => exact ⟨rfl, h⟩
  | finish => exact Session.supports_finish h hrun
  | fail fault => cases hrun
  | divert | write _ => cases ha

/-- Moves that fail nowhere fail nowhere on a builder that supports them, whichever regions they
open. -/
theorem Move.supports {names : Assignment} {ms : List Move} {s t : Session}
    (hbuilding : ∀ a ∈ actionsOf ms, a.isBuilding = true)
    (h : t.builder.Supports s.builder) (hrun : (runAll names ms s).fault = none) :
    (runAll names ms t).fault = none ∧
      (runAll names ms t).state.builder.Supports (runAll names ms s).state.builder := by
  induction ms using listInduction generalizing s t with
  | nil => exact ⟨rfl, h⟩
  | act a ms ih =>
    rw [actionsOf, actions, List.forall_mem_append, List.forall_mem_singleton] at hbuilding
    rw [runAll, Outcome.fault_andThen_eq_none, run] at hrun
    obtain ⟨hfault, hnext⟩ := Action.supports hbuilding.1 h hrun.1
    rw [runAll, runAll, run, run, Outcome.andThen_of_fault hfault, Outcome.andThen_of_fault hrun.1]
    exact ih hbuilding.2 hnext hrun.2
  | region mark body ms ihBody ih =>
    rw [actionsOf, actions, List.forall_mem_append] at hbuilding
    rw [runAll, Outcome.fault_andThen_eq_none] at hrun
    obtain ⟨hregion, hrest⟩ := hrun
    rw [run, Outcome.fault_andThen_eq_none] at hregion
    obtain ⟨hfault, hbody⟩ := ihBody (s := s.openRegion) (t := t.openRegion) hbuilding.1
      h.openRegion hregion.1
    obtain ⟨hclose, hnext⟩ := hbody.closeRegion hregion.2
    have hother : ((runAll names body t.openRegion).state.onBuilder
        (Builder.closeRegion mark s.builder.depth)).fault = none := hclose
    rw [run, Outcome.andThen_of_fault hregion.1] at hrest
    rw [runAll, runAll, run, run, h.depth, Outcome.andThen_of_fault hfault,
      Outcome.andThen_of_fault hregion.1, Outcome.andThen_of_fault hother,
      Outcome.andThen_of_fault hregion.2]
    exact ih hbuilding.2 hnext hrest

/-- Bodies that fail nowhere one after another fail nowhere with requests for blank lines between
them. -/
theorem Step.fault_runEach {names : Assignment} {bodies : List (List Step)}
    (hbuilding : ∀ body ∈ bodies, ∀ a ∈ actionsOf body, a.isBuilding = true)
    (interposing wanted : Bool) {s t : Session} (h : t.builder.Supports s.builder)
    (hrun : (runAll names bodies.flatten s).fault = none) :
    (runEach names interposing wanted bodies t).fault = none := by
  induction bodies generalizing s t wanted with
  | nil => rfl
  | cons body bodies ih =>
    rw [List.forall_mem_cons] at hbuilding
    rw [List.flatten_cons, runAll_append, Outcome.fault_andThen_eq_none] at hrun
    obtain ⟨hbody, hrest⟩ := hrun
    have hasked : (if wanted then t.requestBlank else t).builder.Supports s.builder := by
      split
      · exact h.requestBlank_left
      · exact h
    rw [runAll_eq_runAll_moves] at hbody
    obtain ⟨hfault, hnext⟩ := Move.supports hbuilding.1 hasked hbody
    rw [← runAll_eq_runAll_moves] at hfault
    rw [← runAll_eq_runAll_moves, ← runAll_eq_runAll_moves] at hnext
    rw [runEach, Outcome.andThen_of_fault hfault]
    exact ih hbuilding.2 interposing hnext hrest

end SourceLayout
