import Mathlib.Algebra.GroupWithZero.Nat
import Mathlib.Algebra.Ring.Int.Defs
import SourceLayout.Proofs.Building.Moves

/-! What the moves of a program emit when none of them fails.  Whether a requested blank line is
written depends on two flags only, so that the lines, the changes of indentation and the regions
that moves emit are a function of the moves and of the flags before them. -/

namespace SourceLayout

/-- One thing that is emitted: a line with an item, a line break only, or a change of
indentation. -/
inductive Emission where
  | line (item : Tree)
  | emptyLine
  | shift (offset : Int)
deriving Inhabited

/-- What is emitted, with its regions. -/
inductive Emitted where
  | single (e : Emission)
  | region (mark : Mark) (body : List Emitted)
deriving Inhabited

/-- What a builder remembers of its output apart from the tree: whether there is any, and whether a
blank line is wanted before more. -/
structure Flags where
  hasOutput : Bool := false
  blankWanted : Bool := false
deriving DecidableEq, Repr, Inhabited

/-- The flags of a builder. -/
def Builder.flags (b : Builder) : Flags := ⟨b.hasOutput, b.blankWanted⟩

namespace Action

/-- What an action emits when it does not fail. -/
def emissions (flags : Flags) : Action → List Emission
  | .line v =>
    match v.toFragment with
    | .ok item => if flags.blankWanted then [.emptyLine, .line item] else [.line item]
    | .error _ => []
  | .emptyLine => [.emptyLine]
  | .shift offset => [.shift offset]
  | _ => []

/-- The flags after an action. -/
def flagsAfter (flags : Flags) : Action → Flags
  | .line _ => ⟨true, false⟩
  | .emptyLine => { flags with hasOutput := true }
  | .requestBlank => if flags.hasOutput then { flags with blankWanted := true } else flags
  | _ => flags

/-- The item that an action writes, if it writes one. -/
def item? : Action → Option Tree
  | .line v => v.toFragment.toOption
  | _ => none

end Action

namespace Move

mutual

/-- The flags after a move. -/
def flagsAfter (flags : Flags) : Move → Flags
  | .act a => a.flagsAfter flags
  | .region _ body => flagsAfterAll flags body

/-- The flags after moves. -/
def flagsAfterAll (flags : Flags) : List Move → Flags
  | [] => flags
  | m :: ms => flagsAfterAll (flagsAfter flags m) ms

end

mutual

/-- What a move emits when it does not fail. -/
def emitted (flags : Flags) : Move → List Emitted
  | .act a => (a.emissions flags).map .single
  | .region mark body => [.region mark (emittedAll flags body)]

/-- What moves emit when none of them fails. -/
def emittedAll (flags : Flags) : List Move → List Emitted
  | [] => []
  | m :: ms => emitted flags m ++ emittedAll (flagsAfter flags m) ms

end

mutual

/-- The actions of a move, those inside regions too, in the order of their running. -/
def actions : Move → List Action
  | .act a => [a]
  | .region _ body => actionsOf body

/-- The actions of moves, those inside regions too, in the order of their running. -/
def actionsOf : List Move → List Action
  | [] => []
  | m :: ms => actions m ++ actionsOf ms

end

end Move

namespace Step

/-- The actions of a program, in the order of their running. -/
def actionsOf (steps : List Step) : List Action := Move.actionsOf (movesOf steps)

/-- The items of the lines and tables of a program. -/
def itemsOf (steps : List Step) : List Tree := (actionsOf steps).filterMap Action.item?

/-- What a program emits on a fresh builder when none of its steps fails. -/
def emittedBy (steps : List Step) : List Emitted := Move.emittedAll {} (movesOf steps)

end Step

namespace Emitted

mutual

/-- What is emitted, without the regions around it. -/
def flatten : Emitted → List Emission
  | .single e => [e]
  | .region _ body => flattenAll body

/-- What is emitted, in order, without the regions around it. -/
def flattenAll : List Emitted → List Emission
  | [] => []
  | o :: os => flatten o ++ flattenAll os

end

theorem flattenAll_append (os ps : List Emitted) :
    flattenAll (os ++ ps) = flattenAll os ++ flattenAll ps := by
  induction os with
  | nil => rfl
  | cons o os ih => rw [List.cons_append, flattenAll, flattenAll, ih, List.append_assoc]

theorem flattenAll_map_single (es : List Emission) : flattenAll (es.map .single) = es := by
  induction es with
  | nil => rfl
  | cons e es ih =>
    rw [List.map_cons, flattenAll, ih]
    rfl

/-- Induction over what is emitted, with a hypothesis for what is inside a region. -/
@[elab_as_elim]
theorem listInduction {motive : List Emitted → Prop} (nil : motive [])
    (single : ∀ e os, motive os → motive (.single e :: os))
    (region : ∀ mark body os, motive body → motive os → motive (.region mark body :: os))
    (os : List Emitted) : motive os :=
  Emitted.rec_1 (motive_1 := fun o => ∀ os, motive os → motive (o :: os)) (motive_2 := motive)
    single (fun mark body hbody os hos => region mark body os hbody hos) nil
    (fun _ os ho hos => ho os hos) os

end Emitted

namespace Emission

/-- How many line breaks are written. -/
def breaks : Emission → Nat
  | .line _ | .emptyLine => 1
  | .shift _ => 0

/-- How many line breaks are written in all. -/
def breaksOf (es : List Emission) : Nat := (es.map breaks).sum

/-- What the level changes by. -/
def offset : Emission → Int
  | .line _ | .emptyLine => 0
  | .shift offset => offset

/-- What the level changes by in all. -/
def offsetOf (es : List Emission) : Int := (es.map offset).sum

/-- The item that is written, if any. -/
def item? : Emission → Option Tree
  | .line item => some item
  | .emptyLine | .shift _ => none

/-- What the level changes by before the next line break. -/
def lead : List Emission → Int
  | [] => 0
  | .shift offset :: es => offset + lead es
  | .line _ :: _ | .emptyLine :: _ => 0

/-- For each line break, in order, what the level changes by from that break to the next. -/
def changes : List Emission → List Int
  | [] => []
  | .shift _ :: es => changes es
  | .line _ :: es | .emptyLine :: es => lead es :: changes es

section

variable (item : Tree) (offset : Int) (es : List Emission)

@[simp] theorem lead_line : lead (.line item :: es) = 0 := rfl

@[simp] theorem lead_emptyLine : lead (.emptyLine :: es) = 0 := rfl

@[simp] theorem lead_shift : lead (.shift offset :: es) = offset + lead es := rfl

@[simp] theorem changes_line : changes (.line item :: es) = lead es :: changes es := rfl

@[simp] theorem changes_emptyLine : changes (.emptyLine :: es) = lead es :: changes es := rfl

@[simp] theorem changes_shift : changes (.shift offset :: es) = changes es := rfl

theorem filterMap_item?_line :
    (Emission.line item :: es).filterMap item? = item :: es.filterMap item? := rfl

end

@[simp] theorem breaksOf_cons (e : Emission) (es : List Emission) :
    breaksOf (e :: es) = e.breaks + breaksOf es := by
  simp [breaksOf]

@[simp] theorem offsetOf_cons (e : Emission) (es : List Emission) :
    offsetOf (e :: es) = e.offset + offsetOf es := by
  simp [offsetOf]

theorem offsetOf_append (es fs : List Emission) :
    offsetOf (es ++ fs) = offsetOf es + offsetOf fs := by
  simp [offsetOf]

/-- The level changes before the first break, or after some break. -/
theorem offsetOf_eq_lead_add (es : List Emission) : offsetOf es = lead es + (changes es).sum := by
  induction es with
  | nil => rfl
  | cons e es ih =>
    rw [offsetOf_cons, ih]
    cases e with
    | line item => simp [offset]
    | emptyLine => simp [offset]
    | shift offset => simp [Emission.offset, Int.add_assoc]

theorem length_changes (es : List Emission) : (changes es).length = breaksOf es := by
  induction es with
  | nil => rfl
  | cons e es ih =>
    cases e with
    | line item => rw [changes, List.length_cons, ih, breaksOf_cons, breaks, Nat.add_comm]
    | emptyLine => rw [changes, List.length_cons, ih, breaksOf_cons, breaks, Nat.add_comm]
    | shift offset => rw [changes, ih, breaksOf_cons, breaks, Nat.zero_add]

theorem breaksOf_append (es fs : List Emission) :
    breaksOf (es ++ fs) = breaksOf es + breaksOf fs := by
  simp [breaksOf]

end Emission

end SourceLayout
