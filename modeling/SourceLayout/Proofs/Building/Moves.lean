import SourceLayout.Builder.Program

/-! The moves of a program.  Whatever its steps, a program comes down to a few actions on the
builder and to regions with moves inside, and running the program is running its moves.  What all
programs keep is shown action by action, and once for a region. -/

namespace SourceLayout

/-- One action on a builder, with no program inside. -/
inductive Action where
  /-- Writes a value as a line. -/
  | line (v : Value)
  /-- Writes a line break only. -/
  | emptyLine
  /-- Asks for a blank line. -/
  | requestBlank
  /-- Changes the indentation. -/
  | shift (offset : Int)
  /-- Notes the state of the builder. -/
  | probe
  /-- Turns all that follows away from the output. -/
  | divert
  /-- Finishes the tree. -/
  | finish
  /-- Writes the tree that was finished last. -/
  | write (indentation : String)
  /-- Fails on its own account. -/
  | fail (fault : Fault)
deriving Inhabited

/-- A part of a program: an action, or a marked region. -/
inductive Move where
  | act (a : Action)
  | region (mark : Mark) (body : List Move)
deriving Inhabited

/-- Writes a value and the line break after it. -/
def Builder.lineOf (v : Value) (b : Builder) : Outcome Builder := (b.item v).andThen breakLine

/-- Runs an action, where trees are written with the texts of `names`. -/
def Action.run (names : Assignment) : Action → Session → Outcome Session
  | .line v, s => s.onBuilder (Builder.lineOf v)
  | .emptyLine, s => s.onBuilder Builder.breakLine
  | .requestBlank, s => .done s.requestBlank
  | .shift offset, s => s.onBuilder (Builder.shift offset)
  | .probe, s => .done s.probe
  | .divert, s => .done s.openRegion
  | .finish, s => s.finish
  | .write indentation, s => s.write names indentation
  | .fail fault, s => .failed s fault

namespace Move

mutual

/-- Runs a move. -/
def run (names : Assignment) : Move → Session → Outcome Session
  | .act a, s => a.run names s
  | .region mark body, s =>
    (runAll names body s.openRegion).andThen
      (Session.onBuilder (Builder.closeRegion mark s.builder.depth))

/-- Runs moves in order. -/
def runAll (names : Assignment) : List Move → Session → Outcome Session
  | [], s => .done s
  | m :: ms, s => (run names m s).andThen (runAll names ms)

end

/-- Induction over moves, with a hypothesis for the moves inside a region. -/
@[elab_as_elim]
theorem listInduction {motive : List Move → Prop} (nil : motive [])
    (act : ∀ a ms, motive ms → motive (.act a :: ms))
    (region : ∀ mark body ms, motive body → motive ms → motive (.region mark body :: ms))
    (ms : List Move) : motive ms :=
  Move.rec_1 (motive_1 := fun m => ∀ ms, motive ms → motive (m :: ms)) (motive_2 := motive)
    act (fun mark body hbody ms hms => region mark body ms hbody hms) nil
    (fun _ ms hm hms => hm ms hms) ms

theorem runAll_append (names : Assignment) (ms ns : List Move) (s : Session) :
    runAll names (ms ++ ns) s = (runAll names ms s).andThen (runAll names ns) := by
  induction ms generalizing s with
  | nil => rfl
  | cons m ms ih =>
    rw [List.cons_append, runAll, runAll, Outcome.andThen_assoc]
    congr 1
    funext t
    exact ih t

theorem runAll_act_singleton (names : Assignment) (a : Action) (s : Session) :
    runAll names [.act a] s = a.run names s :=
  Outcome.andThen_done _

end Move

namespace Step

/-- The moves that write the lines of a block after its first, from the indentation `indent` on. -/
def blockMoves (indent : Nat) : List String → List Move
  | [] => if indent = 0 then [] else [.act (.shift (-indent))]
  | l :: ls =>
    match Text.lineIndentation l with
    | (column, text?) =>
      if column % Text.tabWidth ≠ 0 then [.act (.fail (.unevenIndent l))]
      else
        match text? with
        | some text =>
          let next := column / Text.tabWidth
          .act (.shift (next - indent)) :: .act (.line (.str text)) :: blockMoves next ls
        | none => .act .emptyLine :: blockMoves indent ls

mutual

/-- The moves that a step comes down to. -/
def moves : Step → List Move
  | .line [] => [.act .emptyLine]
  | .line (v :: vs) => [.act (.line (.list (v :: vs)))]
  | .requestBlank => [.act .requestBlank]
  | .block text =>
    .act (.line (.str (Text.lines text).1)) :: blockMoves 0 (Text.lines text).2
  | .table rows =>
    match rows.toTable with
    | .ok t => [.act (.line (.fragment t))]
    | .error fault => [.act (.fail fault)]
  | .shift offset => [.act (.shift offset)]
  | .indent body => .act (.shift 1) :: (movesOf body ++ [.act (.shift (-1))])
  | .region mark body => [.region mark (movesOf body)]
  | .each interposing leading bodies => movesOfEach interposing leading bodies
  | .eachAt blankLines bodies =>
    match BlankLines.ofValue blankLines with
    | .ok b => movesOfEach b.isInterposing b.isLeading bodies
    | .error fault => [.act (.fail fault)]
  | .probe => [.act .probe]
  | .divert => [.act .divert]
  | .finish => [.act .finish]
  | .write indentation => [.act (.write indentation)]
  | .fail fault => [.act (.fail fault)]

/-- The moves that a program comes down to. -/
def movesOf : List Step → List Move
  | [] => []
  | step :: steps => moves step ++ movesOf steps

/-- The moves that bodies in order come down to. -/
def movesOfEach (interposing wanted : Bool) : List (List Step) → List Move
  | [] => []
  | body :: bodies =>
    (if wanted then [.act .requestBlank] else []) ++
      (movesOf body ++ movesOfEach interposing interposing bodies)

end

end Step

/-! ### Running a program is running its moves -/

theorem Session.onBuilder_andThen (f g : Builder → Outcome Builder) (s : Session) :
    s.onBuilder (fun b => (f b).andThen g) = (s.onBuilder f).andThen (Session.onBuilder g) := by
  simp only [Session.onBuilder]
  obtain ⟨b, _ | fault⟩ := f s.builder <;> rfl

theorem Builder.item_singleton (v : Value) (b : Builder) : b.item (.list [v]) = b.item v := by
  simp only [item, Value.toFragment_singleton]

theorem Builder.line_singleton (v : Value) (b : Builder) : b.line [v] = b.lineOf v := by
  rw [line, lineOf, item_singleton]
  exact List.cons_ne_nil v []

namespace Step

variable (names : Assignment)

theorem runAll_blockMoves (indent : Nat) (ls : List String) (s : Session) :
    Move.runAll names (blockMoves indent ls) s = s.onBuilder (Builder.blockLines indent ls) := by
  induction ls generalizing indent s with
  | nil =>
    by_cases h : indent = 0
    · simp only [blockMoves, if_pos h]
      rw [Move.runAll, Session.onBuilder, Builder.blockLines, if_pos h]
      rfl
    · simp only [blockMoves, if_neg h]
      rw [Move.runAll_act_singleton, Action.run, Session.onBuilder, Session.onBuilder,
        Builder.blockLines, if_neg h]
  | cons l ls ih =>
    rw [blockMoves, Session.onBuilder, Builder.blockLines]
    by_cases h : (Text.lineIndentation l).1 % Text.tabWidth ≠ 0
    · simp only [if_pos h]
      rw [Move.runAll_act_singleton]
      rfl
    · simp only [if_neg h]
      cases (Text.lineIndentation l).2 with
      | none =>
        rw [Move.runAll, Move.run, funext (ih indent)]
        exact (Session.onBuilder_andThen _ _ s).symm
      | some text =>
        have hline : Builder.line [.str text] = Builder.lineOf (.str text) :=
          funext (Builder.line_singleton _)
        simp only [hline]
        refine Eq.trans ?_ (Session.onBuilder_andThen
          (fun b => (b.shift _).andThen (Builder.lineOf (.str text))) _ s).symm
        rw [Session.onBuilder_andThen, Outcome.andThen_assoc, Move.runAll, ← funext (ih _)]
        rfl

mutual

/-- Running a step is running its moves. -/
theorem run_eq_runAll_moves : (step : Step) → (s : Session) →
    step.run names s = Move.runAll names step.moves s
  | .line [], s => (Move.runAll_act_singleton names .emptyLine s).symm
  | .line (v :: vs), s => (Move.runAll_act_singleton names (.line (.list (v :: vs))) s).symm
  | .requestBlank, s => rfl
  | .block text, s => by
    have hline : Builder.line [.str (Text.lines text).1] =
        Builder.lineOf (.str (Text.lines text).1) := funext (Builder.line_singleton _)
    rw [moves, Move.runAll, funext (runAll_blockMoves names 0 _)]
    refine Eq.trans ?_ (Session.onBuilder_andThen _ _ s)
    rw [← hline]
    rfl
  | .table rows, s => by
    rw [run, moves, Session.onBuilder, Builder.table]
    cases rows.toTable with
    | ok t => exact (Move.runAll_act_singleton names (.line (.fragment t)) s).symm
    | error fault => rfl
  | .shift offset, s => (Move.runAll_act_singleton names (.shift offset) s).symm
  | .indent body, s => by
    rw [run, moves, Move.runAll, Outcome.andThen_assoc]
    congr 1
    funext t
    rw [Move.runAll_append, runAll_eq_runAll_moves body t]
    congr 1
    funext u
    exact (Move.runAll_act_singleton names (.shift (-1)) u).symm
  | .region mark body, s => by
    rw [run, moves, Move.runAll, Move.run, runAll_eq_runAll_moves body s.openRegion]
    exact (Outcome.andThen_done _).symm
  | .each interposing leading bodies, s => runEach_eq_runAll_moves interposing leading bodies s
  | .eachAt blankLines bodies, s => by
    rw [run, moves]
    cases BlankLines.ofValue blankLines with
    | ok b => exact runEach_eq_runAll_moves b.isInterposing b.isLeading bodies s
    | error fault => rfl
  | .probe, s => rfl
  | .divert, s => rfl
  | .finish, s => (Move.runAll_act_singleton names .finish s).symm
  | .write indentation, s => (Move.runAll_act_singleton names (.write indentation) s).symm
  | .fail fault, s => rfl

/-- Running a program is running its moves. -/
theorem runAll_eq_runAll_moves : (steps : List Step) → (s : Session) →
    runAll names steps s = Move.runAll names (movesOf steps) s
  | [], s => rfl
  | step :: steps, s => by
    rw [runAll, movesOf, Move.runAll_append, run_eq_runAll_moves step s]
    congr 1
    funext t
    exact runAll_eq_runAll_moves steps t

/-- Running bodies in order is running their moves. -/
theorem runEach_eq_runAll_moves (interposing wanted : Bool) : (bodies : List (List Step)) →
    (s : Session) → runEach names interposing wanted bodies s =
      Move.runAll names (movesOfEach interposing wanted bodies) s
  | [], s => rfl
  | body :: bodies, s => by
    have hbody (t : Session) : (runAll names body t).andThen
          (runEach names interposing interposing bodies) =
        Move.runAll names (movesOf body ++ movesOfEach interposing interposing bodies) t := by
      rw [Move.runAll_append, runAll_eq_runAll_moves body t]
      congr 1
      funext u
      exact runEach_eq_runAll_moves interposing interposing bodies u
    rw [runEach, movesOfEach, Move.runAll_append, hbody]
    cases wanted <;> rfl

end

/-! ### Programs after one another -/

theorem runAll_append (names : Assignment) (steps more : List Step) (s : Session) :
    runAll names (steps ++ more) s = (runAll names steps s).andThen (runAll names more) := by
  induction steps generalizing s with
  | nil => rfl
  | cons step steps ih =>
    rw [List.cons_append, runAll, runAll, Outcome.andThen_assoc, funext ih]

theorem movesOf_append (steps more : List Step) :
    movesOf (steps ++ more) = movesOf steps ++ movesOf more := by
  induction steps with
  | nil => rfl
  | cons step steps ih => rw [List.cons_append, movesOf, movesOf, ih, List.append_assoc]

end Step

end SourceLayout
