import SourceLayout.Proofs.Building.Growth
import SourceLayout.Proofs.Building.Histories
import SourceLayout.Proofs.Building.Contents
import SourceLayout.Proofs.Building.Printer
import SourceLayout.Proofs.Fragment.Refusals
import SourceLayout.Proofs.Value.Leaves
import SourceLayout.Proofs.Writing.Indentations

/-! A builder is empty until its first line break.  The flag that tells so and the arena of the line
breaks are changed at different places, with calls between them that may fail; but no call leaves
them apart, and no call takes a line break back.  So it is an empty builder, and no other, that
refuses a change of indentation. -/

namespace SourceLayout

namespace Builder

/-- The flags go with the arena: there is output exactly if there is a line break, and a blank line
is wanted only after output. -/
structure InStep (b : Builder) : Prop where
  output : b.hasOutput = true ↔ 0 < b.arena.size
  blank : b.blankWanted = true → b.hasOutput = true

theorem inStep_fresh : fresh.InStep := ⟨by decide, fun h => h⟩

/-- `after` has no fewer line breaks than `before`, and flags that go with its arena if those of
`before` did. -/
structure Advances (before after : Builder) : Prop where
  size : before.arena.size ≤ after.arena.size
  inStep : before.InStep → after.InStep

namespace Advances

variable {b c d : Builder}

theorem refl (b : Builder) : Advances b b := ⟨Nat.le_refl _, id⟩

theorem trans (h1 : Advances b c) (h2 : Advances c d) : Advances b d :=
  ⟨Nat.le_trans h1.size h2.size, h2.inStep ∘ h1.inStep⟩

/-- What touches neither line breaks nor flags goes on. -/
theorem of_eq (harena : c.arena = b.arena) (hoffer : c.hasOutput = b.hasOutput)
    (hwanted : c.blankWanted = b.blankWanted) : Advances b c where
  size := by rw [harena]
  inStep h := ⟨by rw [harena, hoffer]; exact h.output, by rw [hoffer, hwanted]; exact h.blank⟩

/-- A call goes on from where another one led. -/
theorem andThen {first : Outcome Builder} {next : Builder → Outcome Builder}
    (h : Advances b first.state) (hnext : ∀ c, Advances c (next c).state) :
    Advances b (first.andThen next).state := by
  obtain ⟨c, _ | fault⟩ := first
  · exact h.trans (hnext c)
  · exact h

theorem appendBreak (b : Builder) : Advances b b.appendBreak where
  size := Nat.le_succ _
  inStep _ := ⟨⟨fun _ => Nat.succ_pos _, fun _ => rfl⟩, fun _ => rfl⟩

theorem breakLine (b : Builder) : Advances b b.breakLine.state := by
  unfold Builder.breakLine
  split
  · exact refl b
  · exact appendBreak b

theorem flushBlank (b : Builder) : Advances b b.flushBlank := by
  unfold Builder.flushBlank
  split
  · exact ⟨(appendBreak b).size, fun h => ⟨((appendBreak b).inStep h).output, fun _ => rfl⟩⟩
  · exact refl b

/-- An item is followed by its line break, and a value that is refused leaves a blank line at
most. -/
theorem lineOf (v : Value) (b : Builder) : Advances b (b.lineOf v).state := by
  rcases b.lineOf_cases v with ⟨-, hdone⟩ | ⟨item, -, -, hdone⟩ | ⟨fault, -, -, hdone⟩ <;>
    rw [hdone]
  · exact refl b
  · have hline := appendBreak (b.flushBlank.append item)
    exact ⟨Nat.le_trans (flushBlank b).size hline.size,
      fun _ => ⟨⟨fun _ => Nat.succ_pos _, fun _ => rfl⟩, fun _ => rfl⟩⟩
  · exact flushBlank b

theorem line (parts : List Value) (b : Builder) : Advances b (b.line parts).state := by
  cases parts with
  | nil => exact breakLine b
  | cons v vs => exact lineOf (.list (v :: vs)) b

theorem requestBlank (b : Builder) : Advances b b.requestBlank := by
  unfold Builder.requestBlank
  split
  · exact refl b
  · next hempty =>
    have hoffer : b.hasOutput = true := by simpa [isEmpty] using hempty
    exact ⟨Nat.le_refl _, fun h => ⟨h.output, fun _ => hoffer⟩⟩

theorem shift (offset : Int) (b : Builder) : Advances b (b.shift offset).state := by
  obtain ⟨⟨changes⟩, current, suspended, blankWanted, hasOutput, finished⟩ := b
  cases changes with
  | nil => exact refl _
  | cons change earlier => exact ⟨Nat.le_refl _, fun h => ⟨h.output, h.blank⟩⟩

theorem blockLines (indent : Nat) (ls : List String) (b : Builder) :
    Advances b (b.blockLines indent ls).state := by
  induction ls generalizing indent b with
  | nil =>
    rw [Builder.blockLines]
    split
    · exact refl b
    · exact shift (-indent) b
  | cons l ls ih =>
    rw [Builder.blockLines]
    generalize Text.lineIndentation l = measured
    obtain ⟨column, _ | text⟩ := measured
    · simp only
      split
      · exact refl b
      · exact (breakLine b).andThen (ih indent)
    · simp only
      split
      · exact refl b
      · exact ((shift _ b).andThen (line [.str text])).andThen (ih _)

theorem block (text : String) (b : Builder) : Advances b (b.block text).state :=
  (line [.str (Text.lines text).1] b).andThen (blockLines 0 (Text.lines text).2)

theorem table (rows : Value) (b : Builder) : Advances b (b.table rows).state := by
  unfold Builder.table
  cases rows.toTable with
  | ok t => exact lineOf (.fragment t) b
  | error fault => exact refl b

theorem closeRegion (mark : Mark) (depth : Nat) (b : Builder) :
    Advances b (b.closeRegion mark depth).state := by
  rcases b.closeRegion_cases mark depth with ⟨outer, rest, -, -, hdone⟩ | hfailed
  · rw [hdone]
    exact of_eq rfl rfl rfl
  · rw [hfailed]
    exact refl b

theorem finish (b : Builder) : Advances b b.finish.1 := by
  unfold Builder.finish
  split <;> exact of_eq rfl rfl rfl

theorem call (call : Call) (b : Builder) : Advances b (call.run b).state := by
  cases call with
  | line parts => exact line parts b
  | requestBlank => exact requestBlank b
  | block text => exact block text b
  | table rows => exact table rows b
  | shift offset => exact shift offset b
  | openRegion => exact of_eq rfl rfl rfl
  | closeRegion mark depth => exact closeRegion mark depth b
  | finish =>
    rw [Call.state_finish]
    exact finish b

/-- Whatever calls are made, whether they fail or not, the builder advances. -/
theorem attempt (calls : List Call) (b : Builder) : Advances b (Call.attempt calls b) := by
  induction calls generalizing b with
  | nil => exact refl b
  | cons c calls ih => exact (call c b).trans (ih _)

theorem of_reaches (h : b.Reaches c) : Advances b c := by
  obtain ⟨calls, rfl⟩ := h
  exact attempt calls b

end Advances

theorem InStep.isEmpty_iff {b : Builder} (h : b.InStep) :
    b.isEmpty = true ↔ b.arena.size = 0 := by
  rw [isEmpty, Bool.not_eq_true', ← Bool.not_eq_true, h.output, Nat.pos_iff_ne_zero, not_not]

end Builder

/-! ### Who refuses a change of indentation -/

/-- A change of indentation is refused for want of a line break, and for nothing else. -/
theorem Builder.fault_shift_iff {b : Builder} {offset : Int} :
    (b.shift offset).fault = some .firstLineIndent ↔ b.arena.size = 0 := by
  obtain ⟨⟨changes⟩, current, suspended, blankWanted, hasOutput, finished⟩ := b
  cases changes with
  | nil => exact ⟨fun _ => rfl, fun _ => rfl⟩
  | cons change earlier => constructor <;> intro h <;> cases h

theorem Builder.fault_lineOf {v : Value} {b : Builder} {fault : Fault}
    (h : (b.lineOf v).fault = some fault) :
    fault = .treeFinished ∨ ∃ w, fault = .notConvertible w := by
  rcases b.lineOf_cases v with ⟨-, hdone⟩ | ⟨item, -, -, hdone⟩ | ⟨refusal, -, hv, hdone⟩ <;>
    rw [hdone] at h <;> cases h
  · exact .inl rfl
  · exact .inr (Value.exists_notConvertible hv)

theorem Builder.fault_closeRegion {mark : Mark} {depth : Nat} {b : Builder} {fault : Fault}
    (h : (b.closeRegion mark depth).fault = some fault) : fault = .targetNotRestored := by
  rcases b.closeRegion_cases mark depth with ⟨_, _, -, -, hdone⟩ | hfailed
  · rw [hdone] at h
    cases h
  · rw [hfailed] at h
    cases h
    rfl

/-- A tree is refused for an open region, or for a break that the arena does not have. -/
theorem Builder.fault_finish {b : Builder} {fault : Fault} (h : b.finish.2 = .error fault) :
    fault = .regionOpen ∨ LineArena.IsMissing fault := by
  unfold Builder.finish at h
  split at h
  · exact .inr (LineArena.isMissing_of_resolve h)
  · cases h
    exact .inl rfl

/-- Writing never fails for a first line. -/
theorem Fragment.toSheet_ne_firstLineIndent (tree : Fragment Value) (names : Assignment)
    (indentation : String) : tree.toSheet names indentation ≠ .error .firstLineIndent := by
  intro h
  rcases fault_of_toSheet h with h | h | h
  · cases h
  · cases h
  · rcases leaf_of_halt_mem h with ⟨_, -, h⟩ | ⟨_, -, -, h⟩ | ⟨_, -, h⟩ <;> cases h

/-- Once there is a line break, no action fails for a first line, unless it does so on its own
account. -/
theorem Action.fault_ne_firstLineIndent {names : Assignment} {a : Action} {s : Session}
    (hown : a ≠ .fail .firstLineIndent) (hbreak : 0 < s.builder.arena.size) :
    (a.run names s).fault ≠ some .firstLineIndent := by
  intro h
  cases a with
  | line v =>
    have hline : (s.builder.lineOf v).fault = some .firstLineIndent := h
    rcases Builder.fault_lineOf hline with hfault | ⟨w, hfault⟩ <;> cases hfault
  | emptyLine =>
    have hline : s.builder.breakLine.fault = some .firstLineIndent := h
    unfold Builder.breakLine at hline
    split at hline <;> cases hline
  | shift offset => exact Nat.ne_of_gt hbreak (Builder.fault_shift_iff.mp h)
  | finish =>
    have htree : s.builder.finish.2 = .error .firstLineIndent := by
      rw [run, Session.finish] at h
      generalize s.builder.finish = o at h ⊢
      obtain ⟨b, fault | tree⟩ := o <;> cases h
      rfl
    rcases Builder.fault_finish htree with hfault | hfault | hfault <;> cases hfault
  | write indentation =>
    rw [run, Session.write] at h
    cases hsheet : s.tree.toSheet names indentation with
    | ok sheet =>
      rw [hsheet] at h
      cases h
    | error fault =>
      rw [hsheet] at h
      cases h
      exact s.tree.toSheet_ne_firstLineIndent names indentation hsheet
  | requestBlank | probe | divert => cases h
  | fail fault =>
    cases h
    exact hown rfl

/-- Once there is a line break, moves fail for a first line only on their own account. -/
theorem Move.fault_ne_firstLineIndent {names : Assignment} {ms : List Move} {s : Session}
    (hown : .fail .firstLineIndent ∉ actionsOf ms) (hbreak : 0 < s.builder.arena.size) :
    (runAll names ms s).fault ≠ some .firstLineIndent := by
  -- The first move takes no line break back, so that the others start with one as well.
  have hrest (m : Move) {t : Session} (ht : 0 < t.builder.arena.size) :
      0 < (m.run names t).state.builder.arena.size :=
    Nat.lt_of_lt_of_le ht (Builder.Advances.of_reaches (.move names m t)).size
  intro h
  induction ms using listInduction generalizing s with
  | nil => cases h
  | act a ms ih =>
    rw [actionsOf, actions, List.mem_append, List.mem_singleton, not_or] at hown
    rw [runAll, Outcome.fault_andThen_eq_some] at h
    rcases h with h | ⟨-, h⟩
    · exact Action.fault_ne_firstLineIndent (Ne.symm hown.1) hbreak h
    · exact ih hown.2 (hrest (.act a) hbreak) h
  | region mark body ms ihBody ih =>
    rw [actionsOf, actions, List.mem_append, not_or] at hown
    rw [runAll, Outcome.fault_andThen_eq_some] at h
    rcases h with h | ⟨-, h⟩
    · rw [run, Outcome.fault_andThen_eq_some] at h
      rcases h with h | ⟨-, h⟩
      · exact ihBody (s := s.openRegion) hown.1 hbreak h
      · cases Builder.fault_closeRegion h
    · exact ih hown.2 (hrest (.region mark body) hbreak) h

/-- A body that does not fail for a first line on its own account is refused its indentation exactly
on a builder without line breaks. -/
theorem Step.fault_indent_iff {names : Assignment} {body : List Step} {s : Session}
    (hown : .fail .firstLineIndent ∉ actionsOf body) :
    ((indent body).run names s).fault = some .firstLineIndent ↔ s.builder.arena.size = 0 := by
  constructor
  · intro h
    by_contra hbreak
    rw [run_eq_runAll_moves] at h
    refine Move.fault_ne_firstLineIndent ?_ (Nat.pos_of_ne_zero hbreak) h
    have hbody : .fail .firstLineIndent ∉ Move.actionsOf (movesOf body) := hown
    rw [moves, Move.actionsOf, Move.actionsOf_append]
    simpa [Move.actions, Move.actionsOf] using hbody
  · intro h
    have hshift : (s.onBuilder (Builder.shift 1)).fault = some .firstLineIndent :=
      Builder.fault_shift_iff.mpr h
    rw [run, Outcome.andThen, Outcome.andThen, hshift]
    simp only [hshift]

namespace Builder

/-- After any calls on a fresh builder, whether they failed or not, the builder is empty exactly if
it has no line break, and no later call takes a line break back, so that a builder that is not empty
stays so.  An empty builder is at level zero, and no blank line is wanted; it refuses every change
of indentation, and no other builder does.  The points between the calls of a program, those in its
bodies too, are reached by such calls. -/
theorem empty_until_break :
    (∀ names steps, ∀ s ∈ Step.points names steps .fresh,
      ∃ calls, s.builder = Call.attempt calls .fresh) ∧
    ∀ calls : List Call, let b := Call.attempt calls .fresh
      (b.isEmpty = true ↔ b.arena.size = 0) ∧
      (∀ offset, (b.shift offset).fault = some .firstLineIndent ↔ b.isEmpty = true) ∧
      (∀ names body s, s.builder = b → .fail .firstLineIndent ∉ Step.actionsOf body →
        (((Step.indent body).run names s).fault = some .firstLineIndent ↔ b.isEmpty = true)) ∧
      (b.blankWanted = true → b.isEmpty = false) ∧
      (b.isEmpty = true → b.level = 0) ∧
      ∀ more, b.arena.size ≤ (Call.attempt more b).arena.size ∧
        (b.isEmpty = false → (Call.attempt more b).isEmpty = false) := by
  refine ⟨fun names steps s hs => Reaches.points hs, fun calls => ?_⟩
  intro b
  have hb : b.InStep := (Advances.attempt calls fresh).inStep inStep_fresh
  refine ⟨hb.isEmpty_iff, fun offset => ?_, fun names body s hs hown => ?_, fun hwanted => ?_,
    fun hempty => ?_, fun more => ⟨(Advances.attempt more b).size, fun hoffer => ?_⟩⟩
  · rw [fault_shift_iff, hb.isEmpty_iff]
  · rw [Step.fault_indent_iff hown, hs, hb.isEmpty_iff]
  · rw [isEmpty, hb.blank hwanted]
    rfl
  · have hnone : b.arena.changes = [] := List.length_eq_zero_iff.mp (hb.isEmpty_iff.mp hempty)
    rw [level, LineArena.level, hnone]
    rfl
  · have hmore := Advances.attempt more b
    rw [← Bool.not_eq_true, (hmore.inStep hb).isEmpty_iff]
    rw [← Bool.not_eq_true, hb.isEmpty_iff] at hoffer
    exact Nat.ne_of_gt (Nat.lt_of_lt_of_le (Nat.pos_of_ne_zero hoffer) hmore.size)

/-- After a refused line, the request for a blank line is dropped, and a change of indentation in an
open region is refused, as is that of a body.  Once a line was written the region can be indented,
whatever is refused after it. -/
theorem empty_until_break_in_region :
    let calls : List Call := [.line [.int 1], .openRegion, .requestBlank, .shift 1]
    let more : List Call := [.line [.str "a"], .requestBlank, .line [.int 1]]
    let b := Call.attempt calls .fresh
    let c := Call.attempt (calls ++ more) .fresh
    b.isEmpty = true ∧ b.arena.size = 0 ∧ b.level = 0 ∧
      (∀ offset, (b.shift offset).fault = some .firstLineIndent) ∧
      (∀ names, ((Step.indent [.line [.str "a"]]).run names { builder := b }).fault =
        some .firstLineIndent) ∧
      c.isEmpty = false ∧ ∀ offset, (c.shift offset).fault ≠ some .firstLineIndent := by
  intro calls more b c
  have hempty : b.isEmpty = true := by cbv
  have hoffer : c.isEmpty = false := by cbv
  obtain ⟨hbreaks, hshift, hindent, -, hlevel, -⟩ := empty_until_break.2 calls
  obtain ⟨-, hlater, -⟩ := empty_until_break.2 (calls ++ more)
  refine ⟨hempty, hbreaks.mp hempty, hlevel hempty, fun offset => (hshift offset).mpr hempty,
    fun names => ?_, hoffer, fun offset h => ?_⟩
  · have hown : .fail .firstLineIndent ∉ Step.actionsOf [.line [.str "a"]] := by
      simp [Step.actionsOf, Step.movesOf, Step.moves, Move.actionsOf, Move.actions]
    exact (hindent names _ _ rfl hown).mpr hempty
  · exact Bool.noConfusion (hoffer.symm.trans ((hlater offset).mp h))

end Builder

end SourceLayout
