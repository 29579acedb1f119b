import Mathlib
import SourceLayout.Proofs.Building.Contents
import SourceLayout.Proofs.Building.Finishing

/-! What becomes of a tree after it was finished.  A finished builder takes no more items and no
more line breaks.  It still lets the indentation of its last line break change and regions close
that hold nothing, so that a tree which is asked for again can differ from the first one in
these. -/

namespace SourceLayout

namespace Move

mutual

/-- The marks of the regions of a move, in the order in which they are opened. -/
def marks : Move → List Mark
  | .act _ => []
  | .region mark body => mark :: marksOf body

/-- The marks of the regions of moves, in the order in which they are opened. -/
def marksOf : List Move → List Mark
  | [] => []
  | m :: ms => marks m ++ marksOf ms

end

theorem marksOf_append (ms ns : List Move) : marksOf (ms ++ ns) = marksOf ms ++ marksOf ns := by
  induction ms with
  | nil => rfl
  | cons m ms ih => rw [List.cons_append, marksOf, marksOf, ih, List.append_assoc]

end Move

/-! ### Regions that hold nothing -/

/-- The trees are marked regions that hold nothing but regions of their kind.  The marks are those
of all of them, a region before those inside of it. -/
inductive Hollow : List Mark → List Tree → Prop
  | nil : Hollow [] []
  | region {inner marks : List Mark} {inside fs : List Tree} (mark : Mark)
      (within : Hollow inner inside) (rest : Hollow marks fs) :
      Hollow (mark :: (inner ++ marks)) (.marked mark (.ofList inside) :: fs)

namespace Hollow

variable {marks others : List Mark} {fs gs : List Tree}

theorem append (h1 : Hollow marks fs) (h2 : Hollow others gs) :
    Hollow (marks ++ others) (fs ++ gs) := by
  induction h1 with
  | nil => exact h2
  | region mark within rest _ ih =>
    rw [List.cons_append, List.append_assoc]
    exact .region mark within ih

theorem eq_nil (h : Hollow [] fs) : fs = [] := by
  cases h
  rfl

/-- Nothing in such regions is left to resolve. -/
theorem resolveAll (h : Hollow marks fs) (a : LineArena) : a.resolveAll fs = .ok fs := by
  induction h with
  | nil => rfl
  | region mark within rest ihWithin ih =>
    refine LineArena.resolveAll_cons_eq_ok.mpr ⟨_, _, ?_, ih, rfl⟩
    rw [LineArena.resolve, LineArena.resolve_ofList ihWithin]
    rfl

end Hollow

/-! ### What a finished builder keeps -/

namespace Emission

theorem onArena_shift_zero (a : LineArena) : (shift 0).onArena a = a := by
  obtain ⟨_ | ⟨change, earlier⟩⟩ := a
  · rfl
  · simp [onArena]

theorem onArena_shift_shift (a : LineArena) (i j : Int) :
    (shift j).onArena ((shift i).onArena a) = (shift (i + j)).onArena a := by
  obtain ⟨_ | ⟨change, earlier⟩⟩ := a
  · rfl
  · simp [onArena, Int.add_assoc]

end Emission

namespace Builder

/-- A tree that is finished is the sequence of what the only write target holds, resolved. -/
theorem finish_eq_ok {b : Builder} {tree : Tree} :
    b.finish.2 = .ok tree ↔ b.suspended = [] ∧
      ∃ children, b.arena.resolveAll b.current.reverse = .ok children ∧ tree = .seq children := by
  rw [finish]
  cases b.suspended with
  | nil =>
    show (b.arena.resolveAll _).map _ = _ ↔ _
    cases b.arena.resolveAll b.current.reverse <;> simp [Except.map, eq_comm]
  | cons outer rest => simp

/-- `after` is a finished builder with the line breaks of `before`, of which the last one has
changed as the level has.  It has the write targets of `before`, with hollow regions of some of the
marks added to the innermost one, or one that was opened since. -/
structure Keeps (marks : List Mark) (before after : Builder) : Prop where
  finished : after.finished = true
  arena : after.arena = (Emission.shift (after.level - before.level)).onArena before.arena
  targets : before.depth < after.depth ∨ after.suspended = before.suspended ∧
    ∃ opened hollow, opened.Sublist marks ∧ Hollow opened hollow ∧
      after.current = hollow.reverse ++ before.current

namespace Keeps

variable {b c d : Builder} {marks more : List Mark}

/-- A builder with the same write targets and line breaks. -/
theorem of_eq (hfinished : c.finished = true) (harena : c.arena = b.arena)
    (hsuspended : c.suspended = b.suspended) (hcurrent : c.current = b.current) :
    Keeps [] b c where
  finished := hfinished
  arena := by rw [level, level, harena, Int.sub_self, Emission.onArena_shift_zero]
  targets := .inr ⟨hsuspended, [], [], .slnil, .nil, hcurrent⟩

theorem refl (h : b.finished = true) : Keeps [] b b := of_eq h rfl rfl rfl

theorem depth_le (h : Keeps marks b c) : b.depth ≤ c.depth := by
  rcases h.targets with h | ⟨h, -⟩
  · exact Nat.le_of_lt h
  · exact Nat.le_of_eq (congrArg List.length h.symm)

theorem trans (h1 : Keeps marks b c) (h2 : Keeps more c d) : Keeps (marks ++ more) b d where
  finished := h2.finished
  arena := by
    rw [h2.arena, h1.arena, Emission.onArena_shift_shift]
    congr 2
    omega
  targets := by
    rcases h1.targets with hdeeper | ⟨hsuspended, opened, hollow, hopened, hhollow, hcurrent⟩
    · exact .inl (Nat.lt_of_lt_of_le hdeeper h2.depth_le)
    have hdepth : c.depth = b.depth := congrArg List.length hsuspended
    rcases h2.targets with hdeeper | ⟨hsuspended', opened', hollow', hopened', hhollow', hcurrent'⟩
    · exact .inl (hdepth ▸ hdeeper)
    refine .inr ⟨hsuspended'.trans hsuspended, opened ++ opened', hollow ++ hollow',
      hopened.append hopened', hhollow.append hhollow', ?_⟩
    rw [hcurrent', hcurrent, List.reverse_append, List.append_assoc]

theorem mono (h : Keeps marks b c) (hsub : marks.Sublist more) : Keeps more b c := by
  obtain ⟨hfinished, harena, htargets⟩ := h
  refine ⟨hfinished, harena, htargets.imp_right ?_⟩
  rintro ⟨hsuspended, opened, hollow, hopened, hhollow⟩
  exact ⟨hsuspended, opened, hollow, hopened.trans hsub, hhollow⟩

/-- What comes next goes on from a finished builder, or does not come at all. -/
theorem andThen {o : Outcome Session} {next : Session → Outcome Session}
    (h : Keeps marks b o.state.builder)
    (hnext : ∀ t : Session, t.builder.finished = true →
      Keeps more t.builder (next t).state.builder) :
    Keeps (marks ++ more) b (o.andThen next).state.builder := by
  obtain ⟨t, _ | fault⟩ := o
  · exact h.trans (hnext t h.finished)
  · exact h.mono (List.sublist_append_left marks more)

theorem breakLine (h : b.finished = true) : b.breakLine = .failed b .treeFinished := if_pos h

theorem item (v : Value) (h : b.finished = true) : b.item v = .failed b .treeFinished := if_pos h

theorem requestBlank (h : b.finished = true) : Keeps [] b b.requestBlank := by
  unfold Builder.requestBlank
  split
  · exact refl h
  · exact of_eq h rfl rfl rfl

theorem shift (offset : Int) (h : b.finished = true) : Keeps [] b (b.shift offset).state := by
  unfold Builder.shift
  cases harena : b.arena.shift offset with
  | error fault => exact refl h
  | ok a =>
    refine ⟨h, ?_, .inr ⟨rfl, [], [], .slnil, .nil, rfl⟩⟩
    show a = (Emission.shift (a.level - b.arena.level)).onArena b.arena
    rw [LineArena.level_shift harena, add_sub_cancel_left]
    revert harena
    obtain ⟨_ | ⟨change, earlier⟩⟩ := b.arena
    · exact nofun
    · rintro ⟨⟩
      rfl

theorem openRegion (h : b.finished = true) : Keeps [] b b.openRegion where
  finished := h
  arena := by rw [level_openRegion, Int.sub_self, Emission.onArena_shift_zero]; rfl
  targets := .inl (Nat.lt_succ_self _)

/-- Asking for the tree while no region is open changes nothing but that the builder is finished. -/
theorem of_finish {s : Session} (h : s.builder.suspended = []) :
    Keeps [] s.builder s.finish.state.builder := by
  obtain ⟨⟨arena, current, suspended, blankWanted, hasOutput, finished⟩, tree, sheet, probes⟩ := s
  subst h
  simp only [Session.finish, Builder.finish]
  cases arena.resolve (.seq current.reverse) <;> exact of_eq rfl rfl rfl rfl

theorem finish {s : Session} (h : s.builder.finished = true) :
    Keeps [] s.builder s.finish.state.builder := by
  cases hsuspended : s.builder.suspended with
  | nil => exact of_finish hsuspended
  | cons outer rest =>
    have hrefused : s.builder.finish = (s.builder, .error .regionOpen) := by
      rw [Builder.finish, hsuspended]
    rw [Session.finish, hrefused]
    exact refl h

/-- An action on a finished builder writes nothing. -/
theorem action (names : Assignment) (a : Action) {s : Session} (h : s.builder.finished = true) :
    Keeps [] s.builder (a.run names s).state.builder := by
  cases a with
  | line v =>
    rw [Action.run, Session.onBuilder, lineOf, item v h]
    exact refl h
  | emptyLine =>
    rw [Action.run, Session.onBuilder, breakLine h]
    exact refl h
  | requestBlank => exact requestBlank h
  | shift offset => exact shift offset h
  | divert => exact openRegion h
  | finish => exact finish h
  | probe | fail _ => exact refl h
  | write indentation =>
    rw [Action.run, Session.write]
    cases s.tree.toSheet names indentation <;> exact refl h

/-- A region of a finished builder that is closed holds nothing. -/
theorem close {mark : Mark} (h : Keeps marks b.openRegion c) :
    Keeps (mark :: marks) b (c.closeRegion mark b.depth).state := by
  rcases h.targets with hdeeper | ⟨hsuspended, opened, hollow, hopened, hhollow, hcurrent⟩
  · rw [closeRegion_of_deeper mark hdeeper]
    exact ⟨h.finished, h.arena, .inl h.depth_le⟩
  · rw [closeRegion_of_added mark hsuspended hcurrent]
    refine ⟨h.finished, h.arena, .inr ⟨rfl, mark :: (opened ++ []),
      [.marked mark (.ofList hollow)], ?_, .region mark hhollow .nil, rfl⟩⟩
    rw [List.append_nil]
    exact hopened.cons_cons mark

/-- Moves on a finished builder leave at most hollow regions, whether they fail or not. -/
theorem moves (names : Assignment) (ms : List Move) {s : Session} (h : s.builder.finished = true) :
    Keeps (Move.marksOf ms) s.builder (Move.runAll names ms s).state.builder := by
  induction ms using Move.listInduction generalizing s with
  | nil => exact refl h
  | act a ms ih => exact (action names a h).andThen fun t => ih
  | region mark body ms ihBody ih =>
    have hregion : Keeps (mark :: Move.marksOf body) s.builder
        (Move.run names (.region mark body) s).state.builder := by
      have hbody : Keeps _ s.openRegion.builder _ := ihBody h
      rw [Move.run]
      generalize Move.runAll names body s.openRegion = o at hbody ⊢
      obtain ⟨t, _ | fault⟩ := o
      · exact close hbody
      · exact ⟨hbody.finished, hbody.arena, .inl hbody.depth_le⟩
    exact hregion.andThen fun t => ih

/-- Steps on a finished builder leave at most hollow regions, however many of them fail. -/
theorem steps (names : Assignment) (steps : List Step) {s : Session}
    (h : s.builder.finished = true) :
    Keeps (Move.marksOf (Step.movesOf steps)) s.builder
      (Step.attempt names steps s).builder := by
  induction steps generalizing s with
  | nil => exact refl h
  | cons step steps ih =>
    have hstep : Keeps _ s.builder _ := moves names step.moves h
    rw [← Step.run_eq_runAll_moves] at hstep
    rw [Step.movesOf, Move.marksOf_append]
    exact hstep.trans (ih hstep.finished)

end Keeps

end Builder

namespace Step

/-- A tree that was finished and is finished again, after any steps of which any may fail, is the
first one but for two things.  The last line break of the builder has changed as the level has, and
at the end there may be regions that hold nothing.  So it is the first one where the level has not
changed and no region was opened. -/
theorem finish_again {names : Assignment} {s : Session} {tree later : Tree} (steps : List Step)
    (h : s.builder.finish.2 = .ok tree)
    (hlater : (attempt names steps s.finish.state).builder.finish.2 = .ok later) :
    let change := (attempt names steps s.finish.state).builder.level - s.builder.level
    ∃ marks children changed hollow,
      s.builder.arena.resolveAll s.builder.current.reverse = .ok children ∧
      ((Emission.shift change).onArena s.builder.arena).resolveAll s.builder.current.reverse =
        .ok changed ∧
      tree = .seq children ∧ later = .seq (changed ++ hollow) ∧
      marks.Sublist (Move.marksOf (movesOf steps)) ∧ Hollow marks hollow ∧
      (change = 0 → Move.marksOf (movesOf steps) = [] → later = tree) := by
  intro change
  obtain ⟨hsuspended, children, hchildren, rfl⟩ := Builder.finish_eq_ok.mp h
  obtain ⟨hsuspended', all, hall, rfl⟩ := Builder.finish_eq_ok.mp hlater
  have hkeeps : Builder.Keeps _ s.builder (attempt names steps s.finish.state).builder :=
    (Builder.Keeps.of_finish hsuspended).trans
      (.steps names steps (Builder.Keeps.of_finish hsuspended).finished)
  rcases hkeeps.targets with hdeeper | ⟨-, marks, hollow, hmarks, hhollow, hcurrent⟩
  · rw [Builder.depth, Builder.depth, hsuspended'] at hdeeper
    exact absurd hdeeper (Nat.not_lt_zero _)
  have harena : (attempt names steps s.finish.state).builder.arena =
      (Emission.shift change).onArena s.builder.arena := hkeeps.arena
  rw [hcurrent, List.reverse_append, List.reverse_reverse, harena] at hall
  obtain ⟨changed, rest, hchanged, hrest, rfl⟩ := LineArena.resolveAll_append_eq_ok.mp hall
  obtain rfl : hollow = rest := Except.ok.inj ((hhollow.resolveAll _).symm.trans hrest)
  refine ⟨marks, children, changed, hollow, hchildren, hchanged, rfl, rfl, hmarks, hhollow,
    fun hchange hnone => ?_⟩
  rw [hchange, Emission.onArena_shift_zero] at hchanged
  obtain rfl : marks = [] := by
    rw [hnone] at hmarks
    exact List.sublist_nil.mp hmarks
  rw [hhollow.eq_nil, Except.ok.inj (hchanged.symm.trans hchildren), List.append_nil]

/-- A line that comes after the tree was finished is refused, and a change of indentation and two
regions without contents are not. -/
theorem finish_again_issue :
    let s := attempt .empty [line [.str "a"], region .plain [line [.str "b"]]] .fresh
    let steps := [shift 1, region (.issue "m") [region .plain []], line [.str "c"]]
    let tree : Tree := .seq [.text "a", .newline 0, .marked .plain (.seq [.text "b", .newline 0])]
    let later : Tree := .seq [.text "a", .newline 0, .marked .plain (.seq [.text "b", .newline 1]),
      .marked (.issue "m") (.marked .plain (.seq []))]
    s.builder.finish.2 = .ok tree ∧
    ((line [.str "c"]).run .empty s.finish.state).fault = some .treeFinished ∧
    (attempt .empty steps s.finish.state).builder.finish.2 = .ok later ∧
    ∃ marks children changed hollow,
      s.builder.arena.resolveAll s.builder.current.reverse = .ok children ∧
      ((Emission.shift 1).onArena s.builder.arena).resolveAll s.builder.current.reverse =
        .ok changed ∧
      tree = .seq children ∧ later = .seq (changed ++ hollow) ∧
      marks.Sublist [.issue "m", .plain] ∧ Hollow marks hollow := by
  intro s steps tree later
  have htree : s.builder.finish.2 = .ok tree := rfl
  have hlater : (attempt .empty steps s.finish.state).builder.finish.2 = .ok later := by cbv
  have hchange : (attempt .empty steps s.finish.state).builder.level - s.builder.level = 1 := by cbv
  have hopened : Move.marksOf (movesOf steps) = [.issue "m", .plain] := rfl
  obtain ⟨marks, children, changed, hollow, hchildren, hchanged, hfirst, hsecond, hmarks, hhollow,
    -⟩ := finish_again steps htree hlater
  rw [hchange] at hchanged
  rw [hopened] at hmarks
  exact ⟨htree, rfl, hlater, marks, children, changed, hollow, hchildren, hchanged, hfirst, hsecond,
    hmarks, hhollow⟩

/-- A tree that is finished is not kept from changing: a change of indentation after it makes the
next tree another one, and so does a region without contents. -/
theorem finish_again_differs :
    let s := attempt .empty [line [.str "a"], finish] .fresh
    ∃ shifted extended, s.tree = .seq [.text "a", .newline 0] ∧
      (attempt .empty [shift 1] s).builder.finish.2 = .ok shifted ∧ shifted ≠ s.tree ∧
      (attempt .empty [region .plain []] s).builder.finish.2 = .ok extended ∧
      extended ≠ s.tree := by
  intro s
  have htree : s.tree = .seq [.text "a", .newline 0] := rfl
  refine ⟨.seq [.text "a", .newline 1], .seq [.text "a", .newline 0, .marked .plain (.seq [])],
    htree, rfl, ?_, rfl, ?_⟩
  · simp [htree]
  · simp [htree]

end Step

end SourceLayout
