import Mathlib
import SourceLayout.Proofs.Building.Finishing
import SourceLayout.Proofs.Building.Following
import SourceLayout.Proofs.Building.Printer

/-! Marked regions change nothing but the marks.  A program whose regions are replaced by what they
hold, at every depth, runs without a fault where the program does, is at the same level after each
step, and is written to the same lines. -/

namespace SourceLayout

namespace Step

mutual

/-- A step whose regions, at every depth, are replaced by what they hold. -/
def unmark : Step → List Step
  | .region _ body => unmarkAll body
  | .indent body => [.indent (unmarkAll body)]
  | .each interposing leading bodies => [.each interposing leading (unmarkEach bodies)]
  | .eachAt blankLines bodies => [.eachAt blankLines (unmarkEach bodies)]
  | step => [step]

/-- Steps whose regions, at every depth, are replaced by what they hold. -/
def unmarkAll : List Step → List Step
  | [] => []
  | step :: steps => unmark step ++ unmarkAll steps

/-- Bodies whose regions, at every depth, are replaced by what they hold. -/
def unmarkEach : List (List Step) → List (List Step)
  | [] => []
  | body :: bodies => unmarkAll body :: unmarkEach bodies

end

mutual

/-- A step that notes the state of the builder after every step inside it. -/
def watch : Step → Step
  | .region mark body => .region mark (watchAll body)
  | .indent body => .indent (watchAll body)
  | .each interposing leading bodies => .each interposing leading (watchEach bodies)
  | .eachAt blankLines bodies => .eachAt blankLines (watchEach bodies)
  | step => step

/-- Steps that note the state of the builder after every step, at every depth. -/
def watchAll : List Step → List Step
  | [] => []
  | step :: steps => watch step :: .probe :: watchAll steps

/-- Bodies that note the state of the builder after every step, at every depth. -/
def watchEach : List (List Step) → List (List Step)
  | [] => []
  | body :: bodies => watchAll body :: watchEach bodies

end

/-! ### The moves of a program without regions -/

theorem map_act_actionsOf_blockMoves (indent : Nat) (ls : List String) :
    (Move.actionsOf (blockMoves indent ls)).map .act = blockMoves indent ls := by
  induction ls generalizing indent with
  | nil =>
    rw [blockMoves]
    split <;> rfl
  | cons l ls ih =>
    rw [blockMoves]
    generalize Text.lineIndentation l = measured
    obtain ⟨column, text?⟩ := measured
    by_cases h : column % Text.tabWidth ≠ 0
    · simp only [if_pos h]
      rfl
    · simp only [if_neg h]
      cases text? with
      | none => exact congrArg (_ :: ·) (ih indent)
      | some text => exact congrArg (fun ms => _ :: _ :: ms) (ih _)

mutual

/-- Without its regions, a step comes down to its actions. -/
theorem movesOf_unmark : (step : Step) →
    movesOf step.unmark = (Move.actionsOf step.moves).map .act
  | .line [] => rfl
  | .line (_ :: _) => rfl
  | .requestBlank => rfl
  | .block text => by
    have hlines := map_act_actionsOf_blockMoves 0 (Text.lines text).2
    show movesOf [.block text] = _
    rw [movesOf, movesOf, List.append_nil, moves, Move.actionsOf, List.map_append, hlines]
    rfl
  | .table rows => by
    show movesOf [.table rows] = _
    rw [movesOf, movesOf, List.append_nil, moves]
    cases rows.toTable <;> rfl
  | .shift _ => rfl
  | .indent body => by
    have hbody := movesOf_unmarkAll body
    rw [unmark, movesOf, movesOf, List.append_nil, moves, moves, Move.actionsOf,
      Move.actionsOf_append, List.map_append, List.map_append, hbody]
    rfl
  | .region _ body => by
    rw [unmark, movesOf_unmarkAll body, moves, Move.actionsOf, Move.actionsOf, Move.actions,
      List.append_nil]
  | .each interposing leading bodies => by
    rw [unmark, movesOf, movesOf, List.append_nil, moves, moves,
      movesOfEach_unmarkEach interposing leading bodies]
  | .eachAt blankLines bodies => by
    rw [unmark, movesOf, movesOf, List.append_nil, moves, moves]
    cases BlankLines.ofValue blankLines with
    | ok b => exact movesOfEach_unmarkEach b.isInterposing b.isLeading bodies
    | error fault => rfl
  | .probe => rfl
  | .divert => rfl
  | .finish => rfl
  | .write _ => rfl
  | .fail _ => rfl

/-- Without its regions, a program comes down to its actions. -/
theorem movesOf_unmarkAll : (steps : List Step) →
    movesOf (unmarkAll steps) = (Move.actionsOf (movesOf steps)).map .act
  | [] => rfl
  | step :: steps => by
    rw [unmarkAll, movesOf_append, movesOf, Move.actionsOf_append, List.map_append,
      movesOf_unmark step, movesOf_unmarkAll steps]

/-- Without their regions, bodies in order come down to their actions. -/
theorem movesOfEach_unmarkEach (interposing wanted : Bool) : (bodies : List (List Step)) →
    movesOfEach interposing wanted (unmarkEach bodies) =
      (Move.actionsOf (movesOfEach interposing wanted bodies)).map .act
  | [] => rfl
  | body :: bodies => by
    rw [unmarkEach, movesOfEach, movesOfEach, Move.actionsOf_append, Move.actionsOf_append,
      List.map_append, List.map_append, movesOf_unmarkAll body,
      movesOfEach_unmarkEach interposing interposing bodies]
    cases wanted <;> rfl

end

/-- Where a program fails nowhere, and does not divert the output, the program without its regions
follows it. -/
theorem follows_unmarkAll {names : Assignment} {steps : List Step}
    (hrun : (runAll names steps .fresh).fault = none) (hstay : .divert ∉ actionsOf steps) :
    (runAll names (unmarkAll steps) .fresh).fault = none ∧
      (runAll names steps .fresh).state.Follows (runAll names (unmarkAll steps) .fresh).state := by
  have hfresh : Session.fresh.Follows .fresh := ⟨.fresh, fun _ => rfl, rfl⟩
  rw [runAll_eq_runAll_moves] at hrun
  rw [runAll_eq_runAll_moves, runAll_eq_runAll_moves, movesOf_unmarkAll]
  exact Move.follows hfresh hstay hrun

/-! ### Watching changes nothing -/

/-- The sessions differ in what they have noted and written out only. -/
structure SameWork (s t : Session) : Prop where
  builder : t.builder = s.builder
  tree : t.tree = s.tree

end Step

namespace Outcome

variable {σ : Type} {R : σ → σ → Prop}

/-- Both actions end with the same fault, or both with none, and in states that are related. -/
structure Agree (R : σ → σ → Prop) (o p : Outcome σ) : Prop where
  fault : p.fault = o.fault
  state : R o.state p.state

/-- Runs that agree so far agree further on, if what follows agrees from related states. -/
theorem Agree.andThen {o p : Outcome σ} {f g : σ → Outcome σ} (h : Agree R o p)
    (hnext : ∀ s t, R s t → Agree R (f s) (g t)) : Agree R (o.andThen f) (p.andThen g) := by
  obtain ⟨s, _ | fault⟩ := o
  · obtain ⟨t, _ | other⟩ := p
    · exact hnext s t h.state
    · cases h.fault
  · obtain ⟨t, _ | other⟩ := p
    · cases h.fault
    · exact h

end Outcome

namespace Step

open Outcome (Agree)

theorem agree_onBuilder {s t : Session} (h : SameWork s t) (f : Builder → Outcome Builder) :
    Agree SameWork (s.onBuilder f) (t.onBuilder f) := by
  simp only [Session.onBuilder, h.builder]
  exact ⟨rfl, rfl, h.tree⟩

theorem agree_finish {s t : Session} (h : SameWork s t) : Agree SameWork s.finish t.finish := by
  rw [Session.finish, Session.finish, h.builder]
  rcases s.builder.finish with ⟨builder, fault | tree⟩
  · exact ⟨rfl, rfl, h.tree⟩
  · exact ⟨rfl, rfl, rfl⟩

theorem agree_write (names : Assignment) (indentation : String) {s t : Session}
    (h : SameWork s t) :
    Agree SameWork (s.write names indentation) (t.write names indentation) := by
  have hsheet : t.tree.toSheet names indentation = s.tree.toSheet names indentation := by
    rw [h.tree]
  rw [Session.write, Session.write, hsheet]
  cases s.tree.toSheet names indentation <;> exact ⟨rfl, h.builder, h.tree⟩

mutual

/-- A step that is watched works as the step does. -/
theorem agree_watch (names : Assignment) : (step : Step) → {s t : Session} → SameWork s t →
    Agree SameWork (step.run names s) (step.watch.run names t)
  | .line _, _, _, h => agree_onBuilder h _
  | .requestBlank, _, _, h => ⟨rfl, congrArg Builder.requestBlank h.builder, h.tree⟩
  | .block _, _, _, h => agree_onBuilder h _
  | .table _, _, _, h => agree_onBuilder h _
  | .shift _, _, _, h => agree_onBuilder h _
  | .indent body, _, _, h =>
    ((agree_onBuilder h _).andThen fun _ _ h => agree_watchAll names body h).andThen
      fun _ _ h => agree_onBuilder h _
  | .region mark body, s, t, h => by
    have hopen : SameWork s.openRegion t.openRegion :=
      ⟨congrArg Builder.openRegion h.builder, h.tree⟩
    rw [watch, run, run, h.builder]
    exact (agree_watchAll names body hopen).andThen fun _ _ h => agree_onBuilder h _
  | .each interposing leading bodies, _, _, h =>
    agree_watchEach names interposing leading bodies h
  | .eachAt blankLines bodies, s, t, h => by
    rw [watch, run, run]
    cases BlankLines.ofValue blankLines with
    | ok b => exact agree_watchEach names b.isInterposing b.isLeading bodies h
    | error fault => exact ⟨rfl, h⟩
  | .probe, _, _, h => ⟨rfl, h.builder, h.tree⟩
  | .divert, _, _, h => ⟨rfl, congrArg Builder.openRegion h.builder, h.tree⟩
  | .finish, _, _, h => agree_finish h
  | .write indentation, _, _, h => agree_write names indentation h
  | .fail _, _, _, h => ⟨rfl, h⟩

/-- Steps that are watched work as the steps do. -/
theorem agree_watchAll (names : Assignment) : (steps : List Step) → {s t : Session} →
    SameWork s t → Agree SameWork (runAll names steps s) (runAll names (watchAll steps) t)
  | [], _, _, h => ⟨rfl, h⟩
  | step :: steps, _, _, h =>
    (agree_watch names step h).andThen fun _ t h =>
      agree_watchAll names steps (t := t.probe) ⟨h.builder, h.tree⟩

/-- Bodies that are watched work as the bodies do. -/
theorem agree_watchEach (names : Assignment) (interposing wanted : Bool) :
    (bodies : List (List Step)) → {s t : Session} → SameWork s t →
      Agree SameWork (runEach names interposing wanted bodies s)
        (runEach names interposing wanted (watchEach bodies) t)
  | [], _, _, h => ⟨rfl, h⟩
  | body :: bodies, s, t, h => by
    have hwanted : SameWork (if wanted then s.requestBlank else s)
        (if wanted then t.requestBlank else t) := by
      cases wanted with
      | false => exact h
      | true => exact ⟨congrArg Builder.requestBlank h.builder, h.tree⟩
    rw [watchEach, runEach, runEach]
    exact (agree_watchAll names body hwanted).andThen fun _ _ h =>
      agree_watchEach names interposing interposing bodies h

end

mutual

theorem mem_actionsOf_watch {a : Action} : (step : Step) →
    a ∈ Move.actionsOf step.watch.moves → a = .probe ∨ a ∈ Move.actionsOf step.moves
  | .line _, h | .requestBlank, h | .block _, h | .table _, h | .shift _, h | .probe, h
  | .divert, h | .finish, h | .write _, h | .fail _, h => .inr h
  | .indent body, h => by
    rw [watch, moves, Move.actionsOf, Move.actionsOf_append, List.mem_append, List.mem_append] at h
    rw [moves, Move.actionsOf, Move.actionsOf_append, List.mem_append, List.mem_append]
    rcases h with h | h | h
    · exact .inr (.inl h)
    · exact (mem_actionsOf_watchAll body h).imp_right fun h => .inr (.inl h)
    · exact .inr (.inr (.inr h))
  | .region _ body, h => by
    rw [watch, moves, Move.actionsOf, Move.actionsOf, List.append_nil] at h
    rw [moves, Move.actionsOf, Move.actionsOf, List.append_nil]
    exact mem_actionsOf_watchAll body h
  | .each interposing leading bodies, h => mem_actionsOf_watchEach interposing leading bodies h
  | .eachAt blankLines bodies, h => by
    rw [watch, moves] at h
    rw [moves]
    cases hlines : BlankLines.ofValue blankLines with
    | ok b =>
      rw [hlines] at h
      exact mem_actionsOf_watchEach b.isInterposing b.isLeading bodies h
    | error fault =>
      rw [hlines] at h
      exact .inr h

/-- Watching adds no other action. -/
theorem mem_actionsOf_watchAll {a : Action} : (steps : List Step) →
    a ∈ Move.actionsOf (movesOf (watchAll steps)) →
      a = .probe ∨ a ∈ Move.actionsOf (movesOf steps)
  | [], h => .inr h
  | step :: steps, h => by
    rw [watchAll, movesOf, movesOf, Move.actionsOf_append, Move.actionsOf_append, List.mem_append,
      List.mem_append] at h
    rw [movesOf, Move.actionsOf_append, List.mem_append]
    rcases h with h | h | h
    · exact (mem_actionsOf_watch step h).imp_right .inl
    · exact .inl (List.mem_singleton.mp h)
    · exact (mem_actionsOf_watchAll steps h).imp_right .inr

theorem mem_actionsOf_watchEach {a : Action} (interposing wanted : Bool) :
    (bodies : List (List Step)) →
    a ∈ Move.actionsOf (movesOfEach interposing wanted (watchEach bodies)) →
      a = .probe ∨ a ∈ Move.actionsOf (movesOfEach interposing wanted bodies)
  | [], h => .inr h
  | body :: bodies, h => by
    rw [watchEach, movesOfEach, Move.actionsOf_append, Move.actionsOf_append, List.mem_append,
      List.mem_append] at h
    rw [movesOfEach, Move.actionsOf_append, Move.actionsOf_append, List.mem_append, List.mem_append]
    rcases h with h | h | h
    · exact .inr (.inl h)
    · exact (mem_actionsOf_watchAll body h).imp_right fun h => .inr (.inl h)
    · exact (mem_actionsOf_watchEach interposing interposing bodies h).imp_right
        fun h => .inr (.inr h)

end

/-! ### Programs without their regions -/

/-- A program that runs without a fault, and does not divert the output, runs without a fault
without its regions too.  When both are watched, at every depth, they are at the same level and have
output or not after the same steps.  Finished, both come to the same lines under any assignment and
indentation, or fail alike. -/
theorem linesOf_unmarkAll {names : Assignment} {steps : List Step}
    (hrun : (runAll names steps .fresh).fault = none) (hstay : .divert ∉ actionsOf steps) :
    let marked := runAll names steps .fresh
    let unmarked := runAll names (unmarkAll steps) .fresh
    let watched := runAll names (watchAll steps) .fresh
    let unmarkedWatched := runAll names (unmarkAll (watchAll steps)) .fresh
    unmarked.fault = none ∧
    (watched.fault = none ∧ watched.state.builder = marked.state.builder ∧
      unmarkedWatched.fault = none ∧ unmarkedWatched.state.probes = watched.state.probes) ∧
    ∀ mapping indentation, unmarked.state.builder.linesOf mapping indentation =
      marked.state.builder.linesOf mapping indentation := by
  intro marked unmarked watched unmarkedWatched
  obtain ⟨hunmarked, hfollows⟩ := follows_unmarkAll hrun hstay
  have hagree := agree_watchAll names steps (s := .fresh) (t := .fresh) ⟨rfl, rfl⟩
  have hwatched : watched.fault = none := hagree.fault.trans hrun
  have hwatchedStay : .divert ∉ actionsOf (watchAll steps) := by
    intro h
    rcases mem_actionsOf_watchAll steps h with h | h
    · cases h
    · exact hstay h
  obtain ⟨hfault, hprobes⟩ := follows_unmarkAll hwatched hwatchedStay
  refine ⟨hunmarked, ⟨hwatched, hagree.state.builder, hfault, hprobes.probes⟩, ?_⟩
  intro mapping indentation
  have hclosed : marked.state.builder.suspended = [] := (grows_of_run hrun hstay).suspended
  exact hfollows.builder.linesOf_eq hclosed mapping indentation

/-- Regions with a change of indentation, line breaks of their own and nothing inside. -/
theorem linesOf_unmarkAll_nested :
    let steps := [line [.str "a"], region .plain [shift 1,
      line [.fragment (.seq [.text "b", .newline 1, .text "c"])], region (.issue "m") []],
      requestBlank, indent [region (.issue "n") [line [.fragment (.pending 1), .str "d"]]],
      shift (-1)]
    (runAll .empty steps .fresh).fault = none ∧
    unmarkAll steps = [line [.str "a"], shift 1,
      line [.fragment (.seq [.text "b", .newline 1, .text "c"])], requestBlank,
      indent [line [.fragment (.pending 1), .str "d"]], shift (-1)] ∧
    (runAll .empty (unmarkAll steps) .fresh).fault = none ∧
    (runAll .empty (unmarkAll steps) .fresh).state.builder.linesOf .empty "\t" =
      .ok ["a", "\tb", "\t\tc", "", "", "\t\t\t\td"] := by
  intro steps
  have hrun : (runAll .empty steps .fresh).fault = none := by cbv
  have hactions : actionsOf steps = [.line (.list [.str "a"]), .shift 1,
      .line (.list [.fragment (.seq [.text "b", .newline 1, .text "c"])]), .requestBlank, .shift 1,
      .line (.list [.fragment (.pending 1), .str "d"]), .shift (-1), .shift (-1)] := by cbv
  have hstay : .divert ∉ actionsOf steps := by simp [hactions]
  obtain ⟨hfault, -, hlines⟩ := linesOf_unmarkAll hrun hstay
  exact ⟨hrun, rfl, hfault, (hlines .empty "\t").trans (by cbv)⟩

end Step

end SourceLayout
