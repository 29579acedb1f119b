import SourceLayout.Proofs.Building.Printing

/-! Indentation is conserved.  The level moves by the direct changes of indentation that a run
makes, at whatever depth they stand, and by nothing else: a body that is indented goes back to where
it was opened, a block takes back the indentation of its lines, and regions, tables and blank lines do
not touch the level. -/

namespace SourceLayout

namespace Step

mutual

/-- The offsets of the direct changes of indentation of a step, at every depth, in the order in
which they are made. -/
def shifts : Step → List Int
  | .shift offset => [offset]
  | .indent body | .region _ body => shiftsOf body
  | .each _ _ bodies | .eachAt _ bodies => shiftsOfEach bodies
  | .line _ | .requestBlank | .block _ | .table _ | .probe | .divert | .finish | .write _
  | .fail _ => []

/-- The offsets of the direct changes of indentation of steps, in order. -/
def shiftsOf : List Step → List Int
  | [] => []
  | step :: steps => shifts step ++ shiftsOf steps

/-- The offsets of the direct changes of indentation of bodies, in order. -/
def shiftsOfEach : List (List Step) → List Int
  | [] => []
  | body :: bodies => shiftsOf body ++ shiftsOfEach bodies

end

/-- A program inside `depth` indented bodies, one in the other. -/
def nested : Nat → List Step → List Step
  | 0, body => body
  | depth + 1, body => [.indent (nested depth body)]

end Step

/-! ### The level after a run -/

/-- What an action changes the level by. -/
def Action.offset : Action → Int
  | .shift offset => offset
  | .line _ | .emptyLine | .requestBlank | .probe | .divert | .finish | .write _ | .fail _ => 0

/-- What actions change the level by in all. -/
def Action.offsetOf (as : List Action) : Int := (as.map offset).sum

theorem Action.offsetOf_append (as bs : List Action) :
    offsetOf (as ++ bs) = offsetOf as + offsetOf bs := by
  rw [offsetOf, List.map_append, List.sum_append]
  rfl

theorem Action.offsetOf_cons (a : Action) (as : List Action) :
    offsetOf (a :: as) = a.offset + offsetOf as := by
  rw [offsetOf, List.map_cons, List.sum_cons]
  rfl

namespace Builder

theorem level_requestBlank (b : Builder) : b.requestBlank.level = b.level := by
  unfold requestBlank
  split <;> rfl

theorem level_closeRegion (mark : Mark) (depth : Nat) (b : Builder) :
    (b.closeRegion mark depth).state.level = b.level := by
  unfold closeRegion
  split
  · rfl
  · simp only
    split <;> rfl

theorem level_finish (b : Builder) : b.finish.1.level = b.level := by
  rw [finish]
  split <;> rfl

theorem level_of_shift {b : Builder} {offset : Int} (h : (b.shift offset).fault = none) :
    (b.shift offset).state.level = b.level + offset := by
  rw [shift] at h ⊢
  cases harena : b.arena.shift offset with
  | error fault =>
    rw [harena] at h
    cases h
  | ok a => exact LineArena.level_shift harena

end Builder

/-- An action that does not fail moves the level by its offset. -/
theorem Action.level_of_run {names : Assignment} {a : Action} {s : Session}
    (h : (a.run names s).fault = none) :
    (a.run names s).state.builder.level = s.builder.level + a.offset := by
  cases a with
  | line v =>
    obtain ⟨item, -, hdone⟩ := Builder.lineOf_of_fault (b := s.builder) h
    rw [run, Session.onBuilder, hdone]
    simp [Outcome.map, offset]
  | emptyLine =>
    have hopen : s.builder.finished = false := Builder.finished_of_breakLine h
    rw [run, Session.onBuilder, Builder.breakLine, hopen]
    simp [Outcome.map, offset]
  | requestBlank => exact s.builder.level_requestBlank.trans (Int.add_zero _).symm
  | shift offset => exact Builder.level_of_shift h
  | finish =>
    have hlevel : s.finish.state.builder.level = s.builder.level := by
      rw [Session.finish, ← s.builder.level_finish]
      obtain ⟨b, _ | tree⟩ := s.builder.finish <;> rfl
    exact hlevel.trans (Int.add_zero _).symm
  | write indentation =>
    have hkept : (s.write names indentation).state.builder = s.builder := by
      rw [Session.write]
      cases s.tree.toSheet names indentation <;> rfl
    rw [run, hkept, offset, Int.add_zero]
  | probe | divert | fail _ => exact (Int.add_zero _).symm

/-- Moves that fail nowhere move the level by the offsets of their actions, whichever regions they
open. -/
theorem Move.level_of_run {names : Assignment} {ms : List Move} {s : Session}
    (h : (runAll names ms s).fault = none) :
    (runAll names ms s).state.builder.level =
      s.builder.level + Action.offsetOf (actionsOf ms) := by
  induction ms using listInduction generalizing s with
  | nil => exact (Int.add_zero _).symm
  | act a ms ih =>
    rw [runAll, Outcome.fault_andThen_eq_none] at h
    rw [runAll, Outcome.andThen_of_fault h.1, ih h.2, run, Action.level_of_run h.1, actionsOf,
      actions, List.singleton_append, Action.offsetOf_cons, Int.add_assoc]
  | region mark body ms ihBody ih =>
    rw [runAll, Outcome.fault_andThen_eq_none] at h
    obtain ⟨hregion, hrest⟩ := h
    have hclosed : (run names (.region mark body) s).state.builder.level =
        s.builder.level + Action.offsetOf (actionsOf body) := by
      rw [run, Outcome.fault_andThen_eq_none] at hregion
      rw [run, Outcome.andThen_of_fault hregion.1]
      exact (Builder.level_closeRegion mark _ _).trans (ihBody hregion.1)
    rw [runAll, Outcome.andThen_of_fault hregion, ih hrest, hclosed, actionsOf, actions,
      Action.offsetOf_append, Int.add_assoc]

/-! ### The offsets of a step -/

namespace Step

/-- The lines of a block go back from the indentation `indent`, if they are indented evenly. -/
theorem offsetOf_blockMoves {indent : Nat} {ls : List String}
    (h : ∀ a ∈ Move.actionsOf (blockMoves indent ls), a.Sound) :
    Action.offsetOf (Move.actionsOf (blockMoves indent ls)) = -indent := by
  induction ls generalizing indent with
  | nil =>
    rw [blockMoves]
    split
    · next hzero =>
      subst hzero
      rfl
    · simp [Move.actionsOf, Move.actions, Action.offsetOf, Action.offset]
  | cons l ls ih =>
    rw [blockMoves] at h ⊢
    generalize Text.lineIndentation l = measured at h ⊢
    obtain ⟨column, text?⟩ := measured
    by_cases huneven : column % Text.tabWidth ≠ 0
    · simp only [if_pos huneven] at h
      exact (h (.fail (.unevenIndent l)) List.mem_cons_self).elim
    · simp only [if_neg huneven] at h ⊢
      cases text? with
      | none =>
        have hrest : ∀ a ∈ Move.actionsOf (blockMoves indent ls), a.Sound :=
          fun a ha => h a (List.mem_cons_of_mem _ ha)
        simp only [Move.actionsOf, Move.actions, List.singleton_append, Action.offsetOf_cons,
          ih hrest, Action.offset, Int.zero_add]
      | some text =>
        have hrest : ∀ a ∈ Move.actionsOf (blockMoves (column / Text.tabWidth) ls), a.Sound :=
          fun a ha => h a (List.mem_cons_of_mem _ (List.mem_cons_of_mem _ ha))
        simp only [Move.actionsOf, Move.actions, List.singleton_append, Action.offsetOf_cons,
          ih hrest, Action.offset]
        omega

mutual

/-- The actions of a step that is sound move the level by its direct changes of indentation. -/
theorem offsetOf_moves : (step : Step) → (∀ a ∈ Move.actionsOf step.moves, a.Sound) →
    Action.offsetOf (Move.actionsOf step.moves) = step.shifts.sum
  | .line [], _ => rfl
  | .line (_ :: _), _ => rfl
  | .requestBlank, _ => rfl
  | .block text, h => by
    have hlines := offsetOf_blockMoves fun a ha => h a (List.mem_cons_of_mem _ ha)
    rw [moves, Move.actionsOf, Move.actions, List.singleton_append, Action.offsetOf_cons, hlines]
    rfl
  | .table rows, _ => by
    rw [moves]
    cases rows.toTable <;> rfl
  | .shift offset, _ => rfl
  | .indent body, h => by
    have hbody := offsetOf_movesOf body fun a ha => h a <| by
      rw [moves, Move.actionsOf, Move.actionsOf_append]
      exact List.mem_append_right _ (List.mem_append_left _ ha)
    rw [moves, Move.actionsOf, Move.actionsOf_append, Action.offsetOf_append,
      Action.offsetOf_append, hbody, shifts]
    simp [Move.actionsOf, Move.actions, Action.offsetOf, Action.offset]
  | .region mark body, h => by
    rw [moves, Move.actionsOf, Move.actions, Action.offsetOf_append,
      offsetOf_movesOf body fun a ha => h a (List.mem_append_left _ ha)]
    exact Int.add_zero _
  | .each interposing leading bodies, h => offsetOf_movesOfEach interposing leading bodies h
  | .eachAt blankLines bodies, h => by
    rw [moves] at h ⊢
    cases hlines : BlankLines.ofValue blankLines with
    | ok b =>
      rw [hlines] at h
      exact offsetOf_movesOfEach b.isInterposing b.isLeading bodies h
    | error fault =>
      rw [hlines] at h
      exact (h (.fail fault) List.mem_cons_self).elim
  | .probe, _ => rfl
  | .divert, _ => rfl
  | .finish, _ => rfl
  | .write _, _ => rfl
  | .fail _, _ => rfl

/-- The actions of steps that are sound move the level by their direct changes of indentation. -/
theorem offsetOf_movesOf : (steps : List Step) →
    (∀ a ∈ Move.actionsOf (movesOf steps), a.Sound) →
    Action.offsetOf (Move.actionsOf (movesOf steps)) = (shiftsOf steps).sum
  | [], _ => rfl
  | step :: steps, h => by
    rw [movesOf, Move.actionsOf_append, List.forall_mem_append] at h
    rw [movesOf, Move.actionsOf_append, Action.offsetOf_append, offsetOf_moves step h.1,
      offsetOf_movesOf steps h.2, shiftsOf, List.sum_append]

/-- The actions of bodies that are sound move the level by their direct changes of indentation,
wherever blank lines are wanted. -/
theorem offsetOf_movesOfEach (interposing wanted : Bool) : (bodies : List (List Step)) →
    (∀ a ∈ Move.actionsOf (movesOfEach interposing wanted bodies), a.Sound) →
    Action.offsetOf (Move.actionsOf (movesOfEach interposing wanted bodies)) =
      (shiftsOfEach bodies).sum
  | [], _ => rfl
  | body :: bodies, h => by
    rw [movesOfEach, Move.actionsOf_append, Move.actionsOf_append, List.forall_mem_append,
      List.forall_mem_append] at h
    have hwanted : Action.offsetOf (Move.actionsOf
        (if wanted then [Move.act .requestBlank] else [])) = 0 := by
      cases wanted <;> rfl
    rw [movesOfEach, Move.actionsOf_append, Move.actionsOf_append, Action.offsetOf_append,
      Action.offsetOf_append, hwanted, offsetOf_movesOf body h.2.1,
      offsetOf_movesOfEach interposing interposing bodies h.2.2, shiftsOfEach, List.sum_append,
      Int.zero_add]

end

/-! ### Nested bodies -/

variable (names : Assignment)

/-- Running indented bodies, one in the other, is changing the indentation as often, running what
is inside, and changing the indentation back. -/
theorem runAll_nested (depth : Nat) (body : List Step) (s : Session) :
    runAll names (nested depth body) s =
      ((runAll names (List.replicate depth (.shift 1)) s).andThen (runAll names body)).andThen
        (runAll names (List.replicate depth (.shift (-1)))) := by
  induction depth generalizing s with
  | zero => exact (Outcome.andThen_done _).symm
  | succ depth ih =>
    have hback : runAll names (List.replicate (depth + 1) (.shift (-1))) =
        fun t => (runAll names (List.replicate depth (.shift (-1))) t).andThen
          (run names (.shift (-1))) := by
      funext t
      rw [List.replicate_succ', runAll_append]
      congr 1
      funext u
      exact Outcome.andThen_done _
    have hin : runAll names (List.replicate (depth + 1) (.shift 1)) s =
        (run names (.shift 1) s).andThen (runAll names (List.replicate depth (.shift 1))) := rfl
    have hout : runAll names (nested (depth + 1) body) s =
        ((run names (.shift 1) s).andThen (runAll names (nested depth body))).andThen
          (run names (.shift (-1))) := Outcome.andThen_done _
    rw [hout, hin, hback, funext ih]
    simp only [Outcome.andThen_assoc]

variable {names}

/-- A program that fails nowhere moves the level by its direct changes of indentation. -/
theorem level_of_runAll {steps : List Step} {s : Session}
    (h : (runAll names steps s).fault = none) :
    (runAll names steps s).state.builder.level = s.builder.level + (shiftsOf steps).sum := by
  rw [runAll_eq_runAll_moves] at h ⊢
  rw [Move.level_of_run h, offsetOf_movesOf steps (Move.sound_of_run h)]

theorem sum_shiftsOf_replicate (depth : Nat) :
    (shiftsOf (List.replicate depth (.shift 1))).sum = depth := by
  induction depth with
  | zero => rfl
  | succ depth ih =>
    rw [List.replicate_succ, shiftsOf, List.sum_append, ih, shifts, List.sum_singleton]
    omega

/-- A step that completes without a fault moves the level by the sum of the direct changes of
indentation inside it, so that without such changes the level stays as it was.  The program inside
`depth` indented bodies, one in the other, is started `depth` levels deeper, and its level is taken
back by as many afterwards. -/
theorem level_conserved {step : Step} {s : Session} (hrun : (step.run names s).fault = none) :
    (step.run names s).state.builder.level - s.builder.level = step.shifts.sum ∧
    (step.shifts = [] → (step.run names s).state.builder.level = s.builder.level) ∧
    ∀ depth body,
      let start := runAll names (List.replicate depth (.shift 1)) s
      runAll names (nested depth body) s =
        (start.andThen (runAll names body)).andThen
          (runAll names (List.replicate depth (.shift (-1)))) ∧
      (start.fault = none → start.state.builder.level = s.builder.level + depth) := by
  have hlevel : (step.run names s).state.builder.level = s.builder.level + step.shifts.sum := by
    rw [run_eq_runAll_moves] at hrun ⊢
    rw [Move.level_of_run hrun, offsetOf_moves step (Move.sound_of_run hrun)]
  refine ⟨?_, fun hnone => ?_, fun depth body => ⟨runAll_nested names depth body s,
    fun hstart => ?_⟩⟩
  · rw [hlevel, add_sub_cancel_left]
  · rw [hlevel, hnone]
    exact Int.add_zero _
  · rw [level_of_runAll hstart, sum_shiftsOf_replicate]

/-- A region that is opened in an indented body, with changes of indentation that belong to line
breaks outside of it, a block that ends deeper than it began, and bodies in order. -/
theorem level_conserved_regions :
    let s := (runAll .empty [line [.str "a"]] .fresh).state
    let step := indent [region .plain [shift 2, block "b\n    c\n        d"], requestBlank,
      each true true [[line [.str "e"]], [region (.issue "m") [shift (-5)]]]]
    s.builder.level = 0 ∧ (step.run .empty s).fault = none ∧ step.shifts = [2, -5] ∧
    (step.run .empty s).state.builder.level = -3 ∧
    (runAll .empty (List.replicate 3 (.shift 1)) s).fault = none ∧
    (runAll .empty (List.replicate 3 (.shift 1)) s).state.builder.level = 3 ∧
    runAll .empty [indent [indent [indent [step]]]] s =
      ((runAll .empty (List.replicate 3 (.shift 1)) s).andThen (runAll .empty [step])).andThen
        (runAll .empty (List.replicate 3 (.shift (-1)))) := by
  intro s step
  have hrun : (step.run .empty s).fault = none := by cbv
  have hstart : (runAll .empty (List.replicate 3 (.shift 1)) s).fault = none := by cbv
  have hlevel : s.builder.level = 0 := by cbv
  obtain ⟨hmoved, -, hnested⟩ := level_conserved hrun
  obtain ⟨hequal, hdeeper⟩ := hnested 3 [step]
  have hshifts : step.shifts = [2, -5] := rfl
  rw [hlevel, hshifts] at hmoved
  refine ⟨hlevel, hrun, hshifts, ?_, hstart, ?_, hequal⟩
  · simpa using hmoved
  · rw [hdeeper hstart, hlevel]
    rfl

end Step

end SourceLayout
