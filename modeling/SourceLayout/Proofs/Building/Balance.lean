import SourceLayout.Proofs.Building.Printing

/-! Programs that change the indentation only for a body or for the lines of a block.  Each of their
steps leaves the level as it was and prints nothing below it.  So no level of such a program drops
below zero, and nothing but a margin that is too large can keep its tree from being written. -/

namespace SourceLayout

namespace Step

mutual

/-- The step changes no indentation directly and never turns the output away, and neither does any
step inside. -/
def isBalanced : Step → Bool
  | .shift _ | .divert => false
  | .indent body | .region _ body => areBalanced body
  | .each _ _ bodies | .eachAt _ bodies => haveBalance bodies
  | .line _ | .requestBlank | .block _ | .table _ | .probe | .finish | .write _ | .fail _ => true

/-- All steps are balanced. -/
def areBalanced : List Step → Bool
  | [] => true
  | step :: steps => isBalanced step && areBalanced steps

/-- All steps of all bodies are balanced. -/
def haveBalance : List (List Step) → Bool
  | [] => true
  | body :: bodies => areBalanced body && haveBalance bodies

end

theorem areBalanced_append (steps more : List Step) :
    areBalanced (steps ++ more) = (areBalanced steps && areBalanced more) := by
  induction steps with
  | nil => rfl
  | cons step steps ih => rw [List.cons_append, areBalanced, areBalanced, ih, Bool.and_assoc]

theorem divert_notMem_blockMoves (indent : Nat) (ls : List String) :
    .divert ∉ Move.actionsOf (blockMoves indent ls) := by
  induction ls generalizing indent with
  | nil =>
    rw [blockMoves]
    split <;> simp [Move.actionsOf, Move.actions]
  | cons l ls ih =>
    rw [blockMoves]
    simp only
    split
    · simp [Move.actionsOf, Move.actions]
    · split <;> simp [Move.actionsOf, Move.actions, ih]

mutual

/-- A balanced step never turns the output away. -/
theorem divert_notMem_moves : (step : Step) → step.isBalanced = true →
    .divert ∉ Move.actionsOf step.moves
  | .line [], _ => by simp [moves, Move.actionsOf, Move.actions]
  | .line (v :: vs), _ => by simp [moves, Move.actionsOf, Move.actions]
  | .block text, _ => by
    simp [moves, Move.actionsOf, Move.actions, divert_notMem_blockMoves]
  | .table cells, _ => by
    rw [moves]
    cases cells.toTable <;> simp [Move.actionsOf, Move.actions]
  | .indent body, h => by
    simp [moves, Move.actionsOf_append, Move.actionsOf, Move.actions,
      divert_notMem_movesOf body h]
  | .region mark body, h => by
    simp [moves, Move.actionsOf, Move.actions, divert_notMem_movesOf body h]
  | .each interposing leading bodies, h =>
    divert_notMem_movesOfEach interposing leading bodies h
  | .eachAt blankLines bodies, h => by
    rw [moves]
    cases BlankLines.ofValue blankLines with
    | ok b => exact divert_notMem_movesOfEach b.isInterposing b.isLeading bodies h
    | error fault => simp [Move.actionsOf, Move.actions]
  | .requestBlank, _ | .probe, _ | .finish, _ | .write _, _ | .fail _, _ => by
    simp [moves, Move.actionsOf, Move.actions]

theorem divert_notMem_movesOf : (steps : List Step) → areBalanced steps = true →
    .divert ∉ Move.actionsOf (movesOf steps)
  | [], _ => by simp [movesOf, Move.actionsOf]
  | step :: steps, h => by
    rw [areBalanced, Bool.and_eq_true] at h
    rw [movesOf, Move.actionsOf_append, List.mem_append, not_or]
    exact ⟨divert_notMem_moves step h.1, divert_notMem_movesOf steps h.2⟩

theorem divert_notMem_movesOfEach (interposing wanted : Bool) : (bodies : List (List Step)) →
    haveBalance bodies = true →
    .divert ∉ Move.actionsOf (movesOfEach interposing wanted bodies)
  | [], _ => by simp [movesOfEach, Move.actionsOf]
  | body :: bodies, h => by
    rw [haveBalance, Bool.and_eq_true] at h
    rw [movesOfEach, Move.actionsOf_append, Move.actionsOf_append, List.mem_append, List.mem_append,
      not_or, not_or]
    refine ⟨?_, divert_notMem_movesOf body h.1,
      divert_notMem_movesOfEach interposing interposing bodies h.2⟩
    split <;> simp [Move.actionsOf, Move.actions]

end

end Step

namespace Printer

variable {floor : Int} {p : Printer}

/-- The printer has printed nothing below the level `floor`. -/
def Above (floor : Int) (p : Printer) : Prop := ∀ c ∈ p.printed, floor ≤ c.level

theorem Above.put (h : p.Above floor) (hlevel : floor ≤ p.level) (texts : List String) :
    (p.put texts).Above floor := by
  intro c hc
  rcases List.mem_append.mp hc with hc | hc
  · exact h c hc
  · obtain ⟨text, -, rfl⟩ := List.mem_map.mp hc
    exact hlevel

theorem Above.skip (h : p.Above floor) (hlevel : floor ≤ p.level) : p.skip.Above floor := by
  intro c hc
  rcases List.mem_append.mp hc with hc | hc
  · exact h c hc
  · obtain rfl := List.mem_singleton.mp hc
    exact hlevel

theorem printed_requestBlank (p : Printer) : p.requestBlank.printed = p.printed := by
  unfold requestBlank
  split <;> rfl

theorem level_requestBlank (p : Printer) : p.requestBlank.level = p.level := by
  unfold requestBlank
  split <;> rfl

/-- The printer goes on at the level of `p`, above the level `floor`. -/
structure GoesOn (floor : Int) (p q : Printer) : Prop where
  above : q.Above floor
  level : q.level = p.level

namespace GoesOn

variable {q : Printer}

theorem trans {o : Printer} (h : GoesOn floor p q) (ho : GoesOn floor q o) : GoesOn floor p o :=
  ⟨ho.above, ho.level.trans h.level⟩

theorem refl (h : p.Above floor) : GoesOn floor p p := ⟨h, rfl⟩

theorem requestBlank (h : p.Above floor) : GoesOn floor p p.requestBlank := by
  refine ⟨?_, level_requestBlank p⟩
  rw [Above, printed_requestBlank]
  exact h

/-- The lines of a block stand at its level or above. -/
theorem putLines {base : Int} (hbase : floor ≤ base) {ls : List String} (hlevel : base ≤ p.level)
    (h : p.Above floor) : (p.putLines base ls).Above floor ∧ (p.putLines base ls).level = base := by
  induction ls generalizing p with
  | nil => exact ⟨h, rfl⟩
  | cons l ls ih =>
    rw [Printer.putLines]
    cases Text.lineIndentation l with
    | mk column text? =>
      cases text? with
      | none => exact ih hlevel (h.skip (Int.le_trans hbase hlevel))
      | some text =>
        have hnext : base ≤ base + ((column / Text.tabWidth : Nat) : Int) :=
          Int.le_add_of_nonneg_right (Int.natCast_nonneg _)
        refine ih hnext (Above.put ?_ (Int.le_trans hbase hnext) [text])
        exact h

end GoesOn

variable (names : Assignment)

mutual

/-- A balanced step leaves the level as it was and prints nothing below it. -/
theorem goesOn_print : (step : Step) → {p : Printer} → step.isBalanced = true →
    floor ≤ p.level → p.Above floor → GoesOn floor p (p.print names step)
  | .line [], p, _, hlevel, h => ⟨h.skip hlevel, rfl⟩
  | .line (v :: vs), p, _, hlevel, h => by
    rw [print, putValue]
    cases (Value.list (v :: vs)).toFragment with
    | ok item => exact ⟨h.put hlevel _, rfl⟩
    | error fault => exact .refl h
  | .requestBlank, p, _, _, h => .requestBlank h
  | .block text, p, _, hlevel, h => by
    obtain ⟨habove, hback⟩ := GoesOn.putLines (p := p.put [(Text.lines text).1]) hlevel
      (Int.le_refl p.level) (h.put hlevel _)
    exact ⟨habove, hback⟩
  | .table cells, p, _, hlevel, h => by
    rw [print]
    cases cells.toTable with
    | ok item => exact ⟨h.put hlevel _, rfl⟩
    | error fault => exact .refl h
  | .indent body, p, hbody, hlevel, h => by
    have hdeeper : floor ≤ (p.shift 1).level := by
      simp only [shift]
      omega
    obtain ⟨habove, hback⟩ := goesOn_printAll body (p := p.shift 1) hbody hdeeper h
    refine ⟨habove, ?_⟩
    simp only [print, shift] at hback ⊢
    omega
  | .region mark body, p, hbody, hlevel, h => goesOn_printAll body hbody hlevel h
  | .each interposing leading bodies, p, hbodies, hlevel, h =>
    goesOn_printEach interposing leading bodies hbodies hlevel h
  | .eachAt blankLines bodies, p, hbodies, hlevel, h => by
    rw [print]
    cases BlankLines.ofValue blankLines with
    | ok b => exact goesOn_printEach b.isInterposing b.isLeading bodies hbodies hlevel h
    | error fault => exact .refl h
  | .probe, p, _, _, h | .finish, p, _, _, h | .write _, p, _, _, h | .fail _, p, _, _, h =>
    .refl h

/-- Balanced steps leave the level as it was and print nothing below it. -/
theorem goesOn_printAll : (steps : List Step) → {p : Printer} → Step.areBalanced steps = true →
    floor ≤ p.level → p.Above floor → GoesOn floor p (p.printAll names steps)
  | [], p, _, _, h => .refl h
  | step :: steps, p, hsteps, hlevel, h => by
    rw [Step.areBalanced, Bool.and_eq_true] at hsteps
    have hstep := goesOn_print step hsteps.1 hlevel h
    have hnext : floor ≤ (p.print names step).level := by rwa [hstep.level]
    exact hstep.trans (goesOn_printAll steps hsteps.2 hnext hstep.above)

theorem goesOn_printEach (interposing wanted : Bool) : (bodies : List (List Step)) →
    {p : Printer} → Step.haveBalance bodies = true → floor ≤ p.level → p.Above floor →
    GoesOn floor p (p.printEach names interposing wanted bodies)
  | [], p, _, _, h => .refl h
  | body :: bodies, p, hbodies, hlevel, h => by
    rw [Step.haveBalance, Bool.and_eq_true] at hbodies
    have hwanted : GoesOn floor p (if wanted then p.requestBlank else p) := by
      cases wanted with
      | false => exact .refl h
      | true => exact .requestBlank h
    have hbody := hwanted.trans
      (goesOn_printAll body hbodies.1 (by rwa [hwanted.level]) hwanted.above)
    exact hbody.trans (goesOn_printEach interposing interposing bodies hbodies.2
      (by rwa [hbody.level]) hbody.above)

end

/-- A balanced program prints no line below the first level and ends at the first level. -/
theorem printAll_balanced {steps : List Step} (h : Step.areBalanced steps = true) :
    (∀ c ∈ (printAll names steps {}).printed, 0 ≤ c.level) ∧
      (printAll names steps {}).level = 0 := by
  obtain ⟨habove, hlevel⟩ := goesOn_printAll names steps (p := {}) h (Int.le_refl 0)
    fun c hc => nomatch hc
  exact ⟨habove, hlevel⟩

end Printer

/-! ### Trees of balanced programs -/

namespace Step

theorem itemsOf_append (steps more : List Step) :
    itemsOf (steps ++ more) = itemsOf steps ++ itemsOf more := by
  rw [itemsOf, actionsOf, movesOf_append, Move.actionsOf_append, List.filterMap_append]
  rfl

/-- A balanced program that runs without a fault finishes a tree.  With writable items, the tree is
written as the program is printed, or refused at the first margin that is too large. -/
theorem toSheet_of_balanced {names : Assignment} {steps : List Step} (indentation : String)
    (hrun : (runAll names steps .fresh).fault = none) (hbalanced : areBalanced steps = true)
    (hwritable : ∀ item ∈ itemsOf steps, ∀ leaf ∈ item.leaves, leaf.IsWritable names) :
    ∃ tree, (runAll names steps .fresh).state.builder.finish.2 = .ok tree ∧
      (tree.toSheet names indentation).map Sheet.lines =
        match (Printer.printAll names steps {}).printed.findSome?
            (Stretch.refusal? indentation) with
        | some fault => .error fault
        | none =>
          .ok ((Printer.printAll names steps {}).printed.map (Stretch.line indentation)) := by
  have hstay : .divert ∉ actionsOf steps := divert_notMem_movesOf steps hbalanced
  have hfinish := finish_eq_children hrun hstay fun item h =>
    Fragment.pendings_eq_nil_of_writable (hwritable item h)
  obtain ⟨hlevels, hlevel⟩ := Printer.printAll_balanced names hbalanced
  have hprinter := printAll_of_run hrun hstay
  have hend : 0 ≤ 0 + Emission.offsetOf (Emitted.flattenAll (emittedBy steps)) := by
    rw [hprinter, (grows_of_run hrun hstay).level] at hlevel
    exact Int.le_of_eq hlevel.symm
  have hitems : (Emitted.flattenAll (emittedBy steps)).filterMap Emission.item? = itemsOf steps :=
    Move.itemsOf_emittedAll _ _
  have hflat : ∀ item ∈ (Emitted.flattenAll (emittedBy steps)).filterMap Emission.item?,
      ∀ s ∈ item.strokes names, s.IsFlat := by
    rw [hitems]
    exact fun item h => Fragment.isFlat_of_mem_strokes (hwritable item h)
  have hcuts := Emission.cuts_strokes 0 hflat
  have hhalt := Emission.halt_notMem_strokes hflat
  rw [lead_of_run hrun hstay, ← strokes_children] at hcuts
  rw [← strokes_children] at hhalt
  rw [hprinter] at hlevels ⊢
  exact ⟨_, hfinish, Fragment.lines_toSheet_of_cuts indentation hcuts hhalt hlevels hend⟩

end Step

end SourceLayout
