import SourceLayout.Proofs.Building.Moves

/-! What happens on a builder while steps are run, whether they fail or not.  The events of a run
are what it appends, where it turns the output away or leaves a region by a fault, and where it asks
for the tree.  An action that appends does nothing else to the write targets. -/

namespace SourceLayout

/-- What happens on a builder. -/
inductive Event where
  /-- An item or a line break is appended to the write target. -/
  | appended (piece : Tree)
  /-- The output is turned away. -/
  | diverted
  /-- A region is left by a fault. -/
  | abandoned
  /-- The tree of the builder is asked for. -/
  | finishing (b : Builder)

namespace Event

/-- The piece that is appended, if any. -/
def piece? : Event → Option Tree
  | .appended piece => some piece
  | .diverted | .abandoned | .finishing _ => none

/-- What happens when a region is left, with the fault by which it is left if any. -/
def ofExit : Option Fault → List Event
  | none => []
  | some _ => [.abandoned]

/-- All that is appended, in order. -/
def pieces (es : List Event) : List Tree := es.filterMap piece?

/-- The output is turned away, or a region is left by a fault. -/
def Strands : Event → Prop
  | .diverted | .abandoned => True
  | .appended _ | .finishing _ => False

theorem pieces_append (es fs : List Event) : pieces (es ++ fs) = pieces es ++ pieces fs :=
  List.filterMap_append

theorem pieces_map_appended (ps : List Tree) : pieces (ps.map appended) = ps := by
  rw [pieces, List.filterMap_map]
  exact List.filterMap_some

end Event

/-- What the write target of `after` holds beyond that of `before`, in the order in which it was
appended. -/
def Builder.gained (before after : Builder) : List Tree :=
  (after.current.take (after.current.length - before.current.length)).reverse

/-- The events of an action. -/
def Action.events (names : Assignment) : Action → Session → List Event
  | .divert, _ => [.diverted]
  | .finish, s => [.finishing s.builder]
  | a, s => (s.builder.gained (a.run names s).state.builder).map .appended

theorem Action.events_of_ne {names : Assignment} {a : Action} (hstay : a ≠ .divert)
    (hopen : a ≠ .finish) {s : Session} :
    a.events names s = (s.builder.gained (a.run names s).state.builder).map .appended := by
  cases a with
  | divert => exact absurd rfl hstay
  | finish => exact absurd rfl hopen
  | line _ | emptyLine | requestBlank | shift _ | probe | write _ | fail _ => rfl

namespace Move

mutual

/-- The events of a move, the last of which tells if it leaves a region by a fault. -/
def events (names : Assignment) : Move → Session → List Event
  | .act a, s => a.events names s
  | .region mark body, s =>
    eventsOf names body s.openRegion ++ Event.ofExit (run names (.region mark body) s).fault

/-- The events of moves, up to the first fault. -/
def eventsOf (names : Assignment) : List Move → Session → List Event
  | [], _ => []
  | m :: ms, s =>
    events names m s ++
      match (run names m s).fault with
      | none => eventsOf names ms (run names m s).state
      | some _ => []

end

end Move

namespace Step

/-- The session after steps, each of which is run whether those before it fail or not. -/
def attempt (names : Assignment) : List Step → Session → Session
  | [], s => s
  | step :: steps, s => attempt names steps (step.run names s).state

/-- The events of steps, each of which is run whether those before it fail or not. -/
def events (names : Assignment) : List Step → Session → List Event
  | [], _ => []
  | step :: steps, s =>
    Move.eventsOf names step.moves s ++ events names steps (step.run names s).state

end Step

/-! ### What a builder keeps -/

namespace Builder

/-- `after` has the write targets of `before`, the innermost with more appended to it. -/
structure Adds (before after : Builder) : Prop where
  suspended : after.suspended = before.suspended
  current : before.current <:+ after.current

namespace Adds

variable {b c d : Builder}

theorem refl (b : Builder) : Adds b b := ⟨rfl, List.suffix_refl _⟩

theorem trans (h1 : Adds b c) (h2 : Adds c d) : Adds b d :=
  ⟨h2.suspended.trans h1.suspended, h1.current.trans h2.current⟩

theorem append (f : Tree) (b : Builder) : Adds b (b.append f) :=
  ⟨rfl, List.suffix_cons f b.current⟩

theorem appendBreak (b : Builder) : Adds b b.appendBreak :=
  ⟨rfl, List.suffix_cons _ b.current⟩

theorem flushBlank (b : Builder) : Adds b b.flushBlank := by
  unfold Builder.flushBlank
  split
  · exact ⟨rfl, (appendBreak b).current⟩
  · exact refl b

theorem breakLine (b : Builder) : Adds b b.breakLine.state := by
  unfold Builder.breakLine
  split
  · exact refl b
  · exact appendBreak b

theorem item (v : Value) (b : Builder) : Adds b (b.item v).state := by
  unfold Builder.item
  split
  · exact refl b
  · cases v.toFragment with
    | ok f => exact (flushBlank b).trans (append f _)
    | error fault => exact flushBlank b

/-- An action goes on from what another one has added. -/
theorem andThen {first : Outcome Builder} {next : Builder → Outcome Builder}
    (h : Adds b first.state) (hnext : ∀ c, Adds c (next c).state) :
    Adds b (first.andThen next).state := by
  obtain ⟨c, _ | fault⟩ := first
  · exact h.trans (hnext c)
  · exact h

theorem shift (offset : Int) (b : Builder) : Adds b (b.shift offset).state := by
  unfold Builder.shift
  cases b.arena.shift offset <;> exact ⟨rfl, List.suffix_refl _⟩

theorem requestBlank (b : Builder) : Adds b b.requestBlank := by
  unfold Builder.requestBlank
  split <;> exact ⟨rfl, List.suffix_refl _⟩

/-- An action that neither turns the output away nor asks for the tree appends to the write
target. -/
theorem action (names : Assignment) {a : Action} (hstay : a ≠ .divert) (hopen : a ≠ .finish)
    (s : Session) : Adds s.builder (a.run names s).state.builder := by
  cases a with
  | line v => exact (item v s.builder).andThen breakLine
  | emptyLine => exact breakLine s.builder
  | requestBlank => exact requestBlank s.builder
  | shift offset => exact shift offset s.builder
  | divert => exact absurd rfl hstay
  | finish => exact absurd rfl hopen
  | probe | fail _ => exact refl s.builder
  | write indentation =>
    rw [Action.run, Session.write]
    cases s.tree.toSheet names indentation <;> exact refl s.builder

end Adds

/-- What is gained is what stands before the old contents. -/
theorem gained_of_eq_append {b c : Builder} {new : List Tree} (h : c.current = new ++ b.current) :
    b.gained c = new.reverse := by
  simp [gained, h]

end Builder

end SourceLayout
