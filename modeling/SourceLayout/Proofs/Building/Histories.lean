import SourceLayout.Proofs.Building.Journal

/-! Histories of a builder.  Whatever drives a builder makes one call after the other, and may go on
after a call that fails, with the builder as the call left it.  The points between the calls of a
program, at whatever depth its bodies are nested, are reached by such histories. -/

namespace SourceLayout

namespace Builder

/-- A call on a builder, with no program inside: the body of a region stands between the calls that
open and close it, and an indented body between two changes of indentation. -/
inductive Call where
  /-- Writes a line of parts. -/
  | line (parts : List Value)
  /-- Asks for a blank line. -/
  | requestBlank
  /-- Writes a block of indented lines. -/
  | block (text : String)
  /-- Writes a table. -/
  | table (rows : Value)
  /-- Changes the indentation. -/
  | shift (offset : Int)
  /-- Opens a region, or turns the output away if it is never closed. -/
  | openRegion
  /-- Closes the region that was opened at a depth. -/
  | closeRegion (mark : Mark) (depth : Nat)
  /-- Asks for the tree. -/
  | finish
deriving Inhabited

namespace Call

/-- Makes a call. -/
def run : Call → Builder → Outcome Builder
  | .line parts, b => b.line parts
  | .requestBlank, b => .done b.requestBlank
  | .block text, b => b.block text
  | .table rows, b => b.table rows
  | .shift offset, b => b.shift offset
  | .openRegion, b => .done b.openRegion
  | .closeRegion mark depth, b => b.closeRegion mark depth
  | .finish, b =>
    match b.finish with
    | (c, .ok _) => .done c
    | (c, .error fault) => .failed c fault

/-- Makes calls in order, up to the first that fails. -/
def runAll : List Call → Builder → Outcome Builder
  | [], b => .done b
  | call :: calls, b => (call.run b).andThen (runAll calls)

/-- The builder after calls, each of which is made whether those before it failed or not. -/
def attempt : List Call → Builder → Builder
  | [], b => b
  | call :: calls, b => attempt calls (call.run b).state

theorem attempt_append (calls more : List Call) (b : Builder) :
    attempt (calls ++ more) b = attempt more (attempt calls b) := by
  induction calls generalizing b with
  | nil => rfl
  | cons call calls ih => exact ih _

theorem state_finish (b : Builder) : (finish.run b).state = b.finish.1 := by
  rw [run]
  obtain ⟨c, _ | tree⟩ := b.finish <;> rfl

end Call

/-- Calls lead from one builder to another. -/
def Reaches (before after : Builder) : Prop :=
  ∃ calls : List Call, after = Call.attempt calls before

namespace Reaches

variable {b c d : Builder}

theorem refl (b : Builder) : Reaches b b := ⟨[], rfl⟩

theorem trans (h1 : Reaches b c) (h2 : Reaches c d) : Reaches b d := by
  obtain ⟨calls, rfl⟩ := h1
  obtain ⟨more, rfl⟩ := h2
  exact ⟨calls ++ more, (Call.attempt_append calls more b).symm⟩

theorem call (call : Call) (b : Builder) : Reaches b (call.run b).state := ⟨[call], rfl⟩

/-- An action makes one call at most. -/
theorem action (names : Assignment) (a : Action) (s : Session) :
    Reaches s.builder (a.run names s).state.builder := by
  cases a with
  | line v =>
    have h := call (.line [v]) s.builder
    rwa [Call.run, Builder.line_singleton] at h
  | emptyLine => exact call (.line []) s.builder
  | requestBlank => exact call .requestBlank s.builder
  | shift offset => exact call (.shift offset) s.builder
  | divert => exact call .openRegion s.builder
  | finish =>
    have hstate : (Action.finish.run names s).state.builder = s.builder.finish.1 := by
      rw [Action.run, Session.finish]
      obtain ⟨c, _ | tree⟩ := s.builder.finish <;> rfl
    rw [hstate, ← Call.state_finish]
    exact call .finish s.builder
  | probe | fail _ => exact refl s.builder
  | write indentation =>
    rw [Action.run, Session.write]
    cases s.tree.toSheet names indentation <;> exact refl s.builder

/-- A run goes on from what was reached before it. -/
theorem andThen {first : Outcome Session} {next : Session → Outcome Session}
    (h : Reaches b first.state.builder) (hnext : ∀ s, Reaches s.builder (next s).state.builder) :
    Reaches b (first.andThen next).state.builder := by
  obtain ⟨s, _ | fault⟩ := first
  · exact h.trans (hnext s)
  · exact h

/-- Moves make calls, whether they fail or not. -/
theorem moves (names : Assignment) (ms : List Move) (s : Session) :
    Reaches s.builder (Move.runAll names ms s).state.builder := by
  induction ms using Move.listInduction generalizing s with
  | nil => exact refl s.builder
  | act a ms ih => exact (action names a s).andThen ih
  | region mark body ms ihBody ih =>
    have hbody : Reaches s.builder (Move.runAll names body s.openRegion).state.builder :=
      (call .openRegion s.builder).trans (ihBody s.openRegion)
    have hclose : Reaches s.builder ((Move.region mark body).run names s).state.builder :=
      hbody.andThen fun t => call (.closeRegion mark s.builder.depth) t.builder
    exact hclose.andThen ih

theorem move (names : Assignment) (m : Move) (s : Session) :
    Reaches s.builder (m.run names s).state.builder := by
  have hone : Move.runAll names [m] s = m.run names s := Outcome.andThen_done _
  rw [← hone]
  exact moves names [m] s

end Reaches

end Builder

/-! ### The points of a program -/

namespace Move

mutual

/-- The sessions after each action in a move, and after each border of a region. -/
def points (names : Assignment) : Move → Session → List Session
  | .act a, s => [(a.run names s).state]
  | .region mark body, s =>
    s.openRegion ::
      (pointsOf names body s.openRegion ++ [(run names (.region mark body) s).state])

/-- The sessions between the actions of moves, up to the first fault. -/
def pointsOf (names : Assignment) : List Move → Session → List Session
  | [], _ => []
  | m :: ms, s =>
    points names m s ++
      match (run names m s).fault with
      | none => pointsOf names ms (run names m s).state
      | some _ => []

end

end Move

namespace Step

/-- The sessions between the calls of a program, those inside of its bodies too, when each of its
steps is run whether those before it fail or not. -/
def points (names : Assignment) : List Step → Session → List Session
  | [], s => [s]
  | step :: steps, s =>
    s :: (Move.pointsOf names step.moves s ++ points names steps (step.run names s).state)

end Step

namespace Builder.Reaches

/-- A session between actions is reached if one of the first move is reached, or one of those after
it. -/
theorem of_mem_pointsOf_cons {names : Assignment} {m : Move} {ms : List Move} {s t : Session}
    (ht : t ∈ Move.pointsOf names (m :: ms) s)
    (hfirst : t ∈ m.points names s → Reaches s.builder t.builder)
    (hrest : t ∈ Move.pointsOf names ms (m.run names s).state →
      Reaches (m.run names s).state.builder t.builder) :
    Reaches s.builder t.builder := by
  rw [Move.pointsOf, List.mem_append] at ht
  rcases ht with ht | ht
  · exact hfirst ht
  · cases hfault : (m.run names s).fault with
    | none =>
      rw [hfault] at ht
      exact (move names m s).trans (hrest ht)
    | some fault =>
      rw [hfault] at ht
      exact (List.not_mem_nil ht).elim

theorem pointsOf {names : Assignment} {ms : List Move} {s t : Session}
    (ht : t ∈ Move.pointsOf names ms s) : Reaches s.builder t.builder := by
  induction ms using Move.listInduction generalizing s with
  | nil => exact (List.not_mem_nil ht).elim
  | act a ms ih =>
    refine of_mem_pointsOf_cons ht (fun hmem => ?_) ih
    rw [Move.points, List.mem_singleton] at hmem
    subst hmem
    exact action names a s
  | region mark body ms ihBody ih =>
    refine of_mem_pointsOf_cons ht (fun hmem => ?_) ih
    have hopen : Reaches s.builder s.openRegion.builder := call .openRegion s.builder
    rw [Move.points, List.mem_cons, List.mem_append, List.mem_singleton] at hmem
    rcases hmem with rfl | hmem | rfl
    · exact hopen
    · exact hopen.trans (ihBody hmem)
    · exact move names (.region mark body) s

/-- Every point of a program is reached by calls. -/
theorem points {names : Assignment} {steps : List Step} {s t : Session}
    (ht : t ∈ Step.points names steps s) : Reaches s.builder t.builder := by
  induction steps generalizing s with
  | nil =>
    rw [Step.points, List.mem_singleton] at ht
    rw [ht]
    exact refl s.builder
  | cons step steps ih =>
    rw [Step.points, List.mem_cons, List.mem_append] at ht
    rcases ht with rfl | ht | ht
    · exact refl t.builder
    · exact pointsOf ht
    · have hstep := moves names step.moves s
      rw [← Step.run_eq_runAll_moves] at hstep
      exact hstep.trans (ih ht)

end Builder.Reaches

end SourceLayout
