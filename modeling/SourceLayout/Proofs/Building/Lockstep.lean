import SourceLayout.Proofs.Building.Histories
import SourceLayout.Proofs.Building.Unmarking
import SourceLayout.Proofs.Fragment.Refusals
import SourceLayout.Proofs.Writing.Imprints

/-! Two builders in lockstep.  A relation between builders that is kept by lines, line breaks,
requests, changes of indentation and regions is kept by every call, and by every program that makes
the same calls on both: each call fails on both for the same reason or on none, and what is written
in the end is the same.  The values that are passed bring no pending break of their own. -/

namespace SourceLayout

/-! ### Values without pending breaks -/

/-- What the value stands for, if anything, holds no pending break. -/
def Value.Unnumbered (v : Value) : Prop := ∀ f, v.toFragment = .ok f → f.pendings = []

theorem Value.Unnumbered.str (s : String) : (Value.str s).Unnumbered := by
  intro f hf
  rw [toFragment_str] at hf
  cases hf
  exact Fragment.pendings_text s

/-- The call passes no pending break. -/
def Builder.Call.Unnumbered : Call → Prop
  | .line parts => (Value.list parts).Unnumbered
  | .table rows => ∀ t, rows.toTable = .ok t → t.pendings = []
  | .requestBlank | .block _ | .shift _ | .openRegion | .closeRegion _ _ | .finish => True

/-- The action passes no pending break. -/
def Action.Unnumbered : Action → Prop
  | .line v => v.Unnumbered
  | .emptyLine | .requestBlank | .shift _ | .probe | .divert | .finish | .write _ | .fail _ => True

namespace Builder

open Outcome (Agree)

/-- The tree of a builder by what decides how it is written, or why there is none. -/
def imprint (names : Assignment) (b : Builder) : Except Fault Imprint :=
  b.finish.2.map (Fragment.imprint names)

/-- The sheet of the tree that a builder finishes. -/
def sheet (names : Assignment) (indentation : String) (b : Builder) : Except Fault Sheet := do
  let tree ← b.finish.2
  tree.toSheet names indentation

/-- Related builders look alike, are asked for trees of the same imprint, and are still related
after the same has happened to both, which fails on both alike. -/
structure Lockstep (R : Builder → Builder → Prop) : Prop where
  level : ∀ {b c}, R b c → c.level = b.level
  isEmpty : ∀ {b c}, R b c → c.isEmpty = b.isEmpty
  depth : ∀ {b c}, R b c → c.depth = b.depth
  lineOf : ∀ {v b c}, v.Unnumbered → R b c → Agree R (b.lineOf v) (c.lineOf v)
  breakLine : ∀ {b c}, R b c → Agree R b.breakLine c.breakLine
  requestBlank : ∀ {b c}, R b c → R b.requestBlank c.requestBlank
  shift : ∀ offset {b c}, R b c → Agree R (b.shift offset) (c.shift offset)
  openRegion : ∀ {b c}, R b c → R b.openRegion c.openRegion
  closeRegion : ∀ mark depth {b c}, R b c →
    Agree R (b.closeRegion mark depth) (c.closeRegion mark depth)
  finish : ∀ {b c}, R b c → R b.finish.1 c.finish.1
  imprint : ∀ names {b c}, R b c → c.imprint names = b.imprint names

namespace Lockstep

variable {R : Builder → Builder → Prop} {b c : Builder}

/-! ### Calls -/

theorem line (h : Lockstep R) {parts : List Value} (hparts : (Value.list parts).Unnumbered)
    (hbc : R b c) : Agree R (b.line parts) (c.line parts) := by
  cases parts with
  | nil => exact h.breakLine hbc
  | cons v vs => exact h.lineOf hparts hbc

theorem line_str (h : Lockstep R) (text : String) (hbc : R b c) :
    Agree R (b.line [.str text]) (c.line [.str text]) := by
  rw [line_singleton, line_singleton]
  exact h.lineOf (.str text) hbc

theorem blockLines (h : Lockstep R) (indent : Nat) (ls : List String) (hbc : R b c) :
    Agree R (b.blockLines indent ls) (c.blockLines indent ls) := by
  induction ls generalizing indent b c with
  | nil =>
    rw [Builder.blockLines, Builder.blockLines]
    split
    · exact ⟨rfl, hbc⟩
    · exact h.shift (-indent) hbc
  | cons l ls ih =>
    rw [Builder.blockLines, Builder.blockLines]
    generalize Text.lineIndentation l = measured
    obtain ⟨column, _ | text⟩ := measured
    · simp only
      split
      · exact ⟨rfl, hbc⟩
      · exact (h.breakLine hbc).andThen fun _ _ hst => ih indent hst
    · simp only
      split
      · exact ⟨rfl, hbc⟩
      · exact ((h.shift _ hbc).andThen fun _ _ hst => h.line_str text hst).andThen
          fun _ _ hst => ih _ hst

theorem block (h : Lockstep R) (text : String) (hbc : R b c) :
    Agree R (b.block text) (c.block text) :=
  (h.line_str _ hbc).andThen fun _ _ hst => h.blockLines 0 _ hst

theorem table (h : Lockstep R) {rows : Value} (hrows : ∀ t, rows.toTable = .ok t → t.pendings = [])
    (hbc : R b c) : Agree R (b.table rows) (c.table rows) := by
  unfold Builder.table
  cases ht : rows.toTable with
  | error fault => exact ⟨rfl, hbc⟩
  | ok t =>
    refine h.lineOf (v := .fragment t) (fun f hf => ?_) hbc
    rw [Value.toFragment_fragment] at hf
    cases hf
    exact hrows t ht

/-- Both are asked for a tree alike: there is one on both, or the same fault. -/
theorem finish_cases (h : Lockstep R) (hbc : R b c) :
    (∃ fault, b.finish.2 = .error fault ∧ c.finish.2 = .error fault) ∨
      ∃ tree other, b.finish.2 = .ok tree ∧ c.finish.2 = .ok other ∧
        ∀ names, other.imprint names = tree.imprint names := by
  have himprint (names : Assignment) : c.finish.2.map (Fragment.imprint names) =
      b.finish.2.map (Fragment.imprint names) := h.imprint names hbc
  cases hb : b.finish.2 with
  | error fault =>
    have hfault := himprint .empty
    rw [hb] at hfault
    exact .inl ⟨fault, rfl, map_eq_error.mp hfault⟩
  | ok tree =>
    cases hc : c.finish.2 with
    | error fault =>
      have hfault := himprint .empty
      rw [hb, hc] at hfault
      cases hfault
    | ok other =>
      refine .inr ⟨tree, other, rfl, rfl, fun names => ?_⟩
      have htree := himprint names
      rw [hb, hc] at htree
      exact Except.ok.inj htree

/-- A call is answered alike. -/
theorem call (h : Lockstep R) {call : Call} (hcall : call.Unnumbered) (hbc : R b c) :
    Agree R (call.run b) (call.run c) := by
  cases call with
  | line parts => exact h.line hcall hbc
  | requestBlank => exact ⟨rfl, h.requestBlank hbc⟩
  | block text => exact h.block text hbc
  | table rows => exact h.table hcall hbc
  | shift offset => exact h.shift offset hbc
  | openRegion => exact ⟨rfl, h.openRegion hbc⟩
  | closeRegion mark depth => exact h.closeRegion mark depth hbc
  | finish =>
    have hnext := h.finish hbc
    have hcases := h.finish_cases hbc
    rw [Call.run, Call.run]
    generalize b.finish = o at hnext hcases ⊢
    generalize c.finish = p at hnext hcases ⊢
    obtain ⟨b', r⟩ := o
    obtain ⟨c', r'⟩ := p
    rcases hcases with ⟨fault, rfl, rfl⟩ | ⟨tree, other, rfl, rfl, -⟩
    · exact ⟨rfl, hnext⟩
    · exact ⟨rfl, hnext⟩

/-- The same calls keep builders related, whether they fail or not. -/
theorem attempt (h : Lockstep R) {calls : List Call} (hcalls : ∀ call ∈ calls, call.Unnumbered)
    (hbc : R b c) : R (Call.attempt calls b) (Call.attempt calls c) := by
  induction calls generalizing b c with
  | nil => exact hbc
  | cons first calls ih =>
    rw [List.forall_mem_cons] at hcalls
    exact ih hcalls.2 (h.call hcalls.1 hbc).state

/-- Related builders come to the same sheet, or fail alike. -/
theorem sheet (h : Lockstep R) (hbc : R b c) (names : Assignment) (indentation : String) :
    c.sheet names indentation = b.sheet names indentation := by
  rw [Builder.sheet, Builder.sheet]
  rcases h.finish_cases hbc with ⟨fault, hb, hc⟩ | ⟨tree, other, hb, hc, himprint⟩
  · rw [hb, hc]
  · rw [hb, hc]
    exact Fragment.toSheet_congr (himprint names) indentation

end Lockstep

end Builder

/-! ### Programs -/

/-- The builders of the sessions are related, and everything else that the sessions keep is the
same, but for the trees that were finished last, which have the same imprint. -/
structure Session.Abreast (R : Builder → Builder → Prop) (s t : Session) : Prop where
  builder : R s.builder t.builder
  tree : ∀ names, t.tree.imprint names = s.tree.imprint names
  sheet? : t.sheet? = s.sheet?
  probes : t.probes = s.probes

namespace Builder.Lockstep

open Outcome (Agree)

variable {R : Builder → Builder → Prop} {names : Assignment} {s t : Session}

theorem onBuilder (hst : Session.Abreast R s t) {f g : Builder → Outcome Builder}
    (h : Agree R (f s.builder) (g t.builder)) :
    Agree (Session.Abreast R) (s.onBuilder f) (t.onBuilder g) :=
  ⟨h.fault, h.state, hst.tree, hst.sheet?, hst.probes⟩

theorem action (h : Lockstep R) {a : Action} (ha : a.Unnumbered) (hst : Session.Abreast R s t) :
    Agree (Session.Abreast R) (a.run names s) (a.run names t) := by
  have hbuilder := hst.builder
  cases a with
  | line v => exact onBuilder hst (h.lineOf ha hbuilder)
  | emptyLine => exact onBuilder hst (h.breakLine hbuilder)
  | requestBlank => exact ⟨rfl, h.requestBlank hbuilder, hst.tree, hst.sheet?, hst.probes⟩
  | shift offset => exact onBuilder hst (h.shift offset hbuilder)
  | probe =>
    refine ⟨rfl, hbuilder, hst.tree, hst.sheet?, ?_⟩
    show _ :: t.probes = _ :: s.probes
    rw [h.level hbuilder, h.isEmpty hbuilder, hst.probes]
  | divert => exact ⟨rfl, h.openRegion hbuilder, hst.tree, hst.sheet?, hst.probes⟩
  | finish =>
    have hnext := h.finish hbuilder
    have hcases := h.finish_cases hbuilder
    rw [Action.run, Session.finish, Action.run, Session.finish]
    generalize s.builder.finish = o at hnext hcases ⊢
    generalize t.builder.finish = p at hnext hcases ⊢
    obtain ⟨b, r⟩ := o
    obtain ⟨c, r'⟩ := p
    rcases hcases with ⟨fault, rfl, rfl⟩ | ⟨tree, other, rfl, rfl, himprint⟩
    · exact ⟨rfl, hnext, hst.tree, hst.sheet?, hst.probes⟩
    · exact ⟨rfl, hnext, himprint, hst.sheet?, hst.probes⟩
  | write indentation =>
    have hsheet := Fragment.toSheet_congr (hst.tree names) indentation
    rw [Action.run, Action.run, Session.write, Session.write, hsheet]
    cases s.tree.toSheet names indentation with
    | error fault => exact ⟨rfl, hst⟩
    | ok sheet => exact ⟨rfl, hbuilder, hst.tree, rfl, hst.probes⟩
  | fail fault => exact ⟨rfl, hst⟩

/-- The same moves run alike, whether they fail or not. -/
theorem moves (h : Lockstep R) {ms : List Move} (hms : ∀ a ∈ Move.actionsOf ms, a.Unnumbered)
    (hst : Session.Abreast R s t) :
    Agree (Session.Abreast R) (Move.runAll names ms s) (Move.runAll names ms t) := by
  induction ms using Move.listInduction generalizing s t with
  | nil => exact ⟨rfl, hst⟩
  | act a ms ih =>
    rw [Move.actionsOf, Move.actions, List.forall_mem_append, List.forall_mem_singleton] at hms
    exact (h.action hms.1 hst).andThen fun _ _ hnext => ih hms.2 hnext
  | region mark body ms ihBody ih =>
    rw [Move.actionsOf, Move.actions, List.forall_mem_append] at hms
    have hopen : Session.Abreast R s.openRegion t.openRegion :=
      ⟨h.openRegion hst.builder, hst.tree, hst.sheet?, hst.probes⟩
    have hregion : Agree (Session.Abreast R) ((Move.region mark body).run names s)
        ((Move.region mark body).run names t) := by
      rw [Move.run, Move.run, h.depth hst.builder]
      exact (ihBody hms.1 hopen).andThen fun _ _ hnext =>
        onBuilder hnext (h.closeRegion mark _ hnext.builder)
    exact hregion.andThen fun _ _ hnext => ih hms.2 hnext

theorem step (h : Lockstep R) {step : Step}
    (hstep : ∀ a ∈ Move.actionsOf step.moves, a.Unnumbered) (hst : Session.Abreast R s t) :
    Agree (Session.Abreast R) (step.run names s) (step.run names t) := by
  rw [Step.run_eq_runAll_moves, Step.run_eq_runAll_moves]
  exact h.moves hstep hst

/-- The same steps keep sessions abreast, whether they fail or not. -/
theorem steps (names : Assignment) (h : Lockstep R) {steps : List Step}
    (hsteps : ∀ a ∈ Step.actionsOf steps, a.Unnumbered) (hst : Session.Abreast R s t) :
    Session.Abreast R (Step.attempt names steps s) (Step.attempt names steps t) := by
  induction steps generalizing s t with
  | nil => exact hst
  | cons first steps ih =>
    rw [Step.actionsOf, Step.movesOf, Move.actionsOf_append, List.forall_mem_append] at hsteps
    exact ih hsteps.2 (h.step hsteps.1 hst).state

end Builder.Lockstep

/-- Nothing that happens to both tells the builders apart, as long as no pending break is passed.
After the same calls they look alike, fail alike at the next call, and come to the same sheets; and
the same program notes the same, writes the same and fails alike on both. -/
structure Builder.Alike (b c : Builder) : Prop where
  calls : ∀ calls : List Call, (∀ call ∈ calls, call.Unnumbered) →
    let b' := Call.attempt calls b
    let c' := Call.attempt calls c
    c'.level = b'.level ∧ c'.isEmpty = b'.isEmpty ∧
      (∀ call : Call, call.Unnumbered → (call.run c').fault = (call.run b').fault) ∧
      ∀ names indentation, c'.sheet names indentation = b'.sheet names indentation
  programs : ∀ (names : Assignment) (steps : List Step) (s : Session),
    (∀ a ∈ Step.actionsOf steps, a.Unnumbered) →
    let s' := Step.attempt names steps { s with builder := b }
    let t' := Step.attempt names steps { s with builder := c }
    t'.builder.level = s'.builder.level ∧ t'.builder.isEmpty = s'.builder.isEmpty ∧
      t'.probes = s'.probes ∧ t'.sheet? = s'.sheet? ∧
      (∀ step : Step, (∀ a ∈ Step.actionsOf [step], a.Unnumbered) →
        (step.run names t').fault = (step.run names s').fault) ∧
      ∀ names indentation, t'.builder.sheet names indentation = s'.builder.sheet names indentation

/-- Builders in lockstep are alike. -/
theorem Builder.Lockstep.alike {R : Builder → Builder → Prop} {b c : Builder} (h : Lockstep R)
    (hbc : R b c) : b.Alike c where
  calls calls hcalls := by
    have hnext := h.attempt hcalls hbc
    exact ⟨h.level hnext, h.isEmpty hnext, fun _ hcall => (h.call hcall hnext).fault,
      fun names indentation => h.sheet hnext names indentation⟩
  programs names steps s hsteps := by
    have hstart : Session.Abreast R { s with builder := b } { s with builder := c } :=
      ⟨hbc, fun _ => rfl, rfl, rfl⟩
    have hnext := h.steps names hsteps hstart
    refine ⟨h.level hnext.builder, h.isEmpty hnext.builder, hnext.probes, hnext.sheet?,
      fun step hstep => (h.step ?_ hnext).fault,
      fun names indentation => h.sheet hnext.builder names indentation⟩
    rwa [Step.actionsOf, Step.movesOf, Step.movesOf, List.append_nil] at hstep

end SourceLayout
