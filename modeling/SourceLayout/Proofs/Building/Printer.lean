import SourceLayout.Proofs.Building.Emission
import SourceLayout.Proofs.Writing.Stretches

/-! A printer that writes each line at once.  It keeps no line breaks and no regions, only the
level, the flags and what it has printed.  A program that fails nowhere prints what it emits. -/

namespace SourceLayout

/-- The printer: its level, its flags, and the lines that it has printed, without their margins. -/
structure Printer where
  level : Int := 0
  flags : Flags := {}
  printed : List Stretch := []
deriving Inhabited

namespace Printer

/-- The lines of an item, which its line breaks part. -/
def rows (names : Assignment) (item : Tree) : List String :=
  (Stretch.cuts {} (item.strokes names)).map Stretch.text

/-- Prints the lines of an item, after an empty line if a blank line is wanted. -/
def put (texts : List String) (p : Printer) : Printer where
  level := p.level
  flags := ⟨true, false⟩
  printed := p.printed ++
    (if p.flags.blankWanted then "" :: texts else texts).map (Stretch.mk p.level)

/-- Prints the lines of a value that can be converted. -/
def putValue (names : Assignment) (v : Value) (p : Printer) : Printer :=
  match v.toFragment with
  | .ok item => p.put (rows names item)
  | .error _ => p

/-- Prints an empty line. A blank line that is wanted stays wanted. -/
def skip (p : Printer) : Printer where
  level := p.level
  flags := { p.flags with hasOutput := true }
  printed := p.printed ++ [⟨p.level, ""⟩]

/-- Asks for a blank line, once there is output. -/
def requestBlank (p : Printer) : Printer :=
  if p.flags.hasOutput then { p with flags := { p.flags with blankWanted := true } } else p

/-- Changes the level. -/
def shift (offset : Int) (p : Printer) : Printer := { p with level := p.level + offset }

/-- Prints the lines of a block after its first, each at the level that its column reaches from the
level `base`, and goes back to that level. -/
def putLines (base : Int) : List String → Printer → Printer
  | [], p => { p with level := base }
  | l :: ls, p =>
    match Text.lineIndentation l with
    | (column, some text) =>
      putLines base ls (put [text] { p with level := base + (column / Text.tabWidth : Nat) })
    | (_, none) => putLines base ls p.skip

mutual

/-- Prints a step. -/
def print (names : Assignment) : Step → Printer → Printer
  | .line [], p => p.skip
  | .line (v :: vs), p => p.putValue names (.list (v :: vs))
  | .requestBlank, p => p.requestBlank
  | .block text, p => (p.put [(Text.lines text).1]).putLines p.level (Text.lines text).2
  | .table cells, p =>
    match cells.toTable with
    | .ok item => p.put (rows names item)
    | .error _ => p
  | .shift offset, p => p.shift offset
  | .indent body, p => (printAll names body (p.shift 1)).shift (-1)
  | .region _ body, p => printAll names body p
  | .each interposing leading bodies, p => printEach names interposing leading bodies p
  | .eachAt blankLines bodies, p =>
    match BlankLines.ofValue blankLines with
    | .ok b => printEach names b.isInterposing b.isLeading bodies p
    | .error _ => p
  | .probe, p | .divert, p | .finish, p | .write _, p | .fail _, p => p

/-- Prints steps in order. -/
def printAll (names : Assignment) : List Step → Printer → Printer
  | [], p => p
  | step :: steps, p => printAll names steps (print names step p)

/-- Prints the bodies of a list in order. `wanted` asks for a blank line before the next one, and
`interposing` before those after it. -/
def printEach (names : Assignment) (interposing wanted : Bool) :
    List (List Step) → Printer → Printer
  | [], p => p
  | body :: bodies, p =>
    printEach names interposing interposing bodies
      (printAll names body (if wanted then p.requestBlank else p))

end

end Printer

/-! ### Printing what is emitted -/

namespace Emission

/-- What is printed of emissions, from a level on. -/
def printed (names : Assignment) (level : Int) : List Emission → List Stretch
  | [] => []
  | .line item :: es =>
    (Printer.rows names item).map (Stretch.mk level) ++ printed names level es
  | .emptyLine :: es => ⟨level, ""⟩ :: printed names level es
  | .shift offset :: es => printed names (level + offset) es

theorem printed_append (names : Assignment) (level : Int) (es fs : List Emission) :
    printed names level (es ++ fs) =
      printed names level es ++ printed names (level + offsetOf es) fs := by
  induction es generalizing level with
  | nil => simp [printed, offsetOf]
  | cons e es ih =>
    rw [List.cons_append, offsetOf_cons]
    cases e with
    | line item => simp [printed, ih, offset]
    | emptyLine => simp [printed, ih, offset]
    | shift offset => simp [printed, ih, Emission.offset, Int.add_assoc]

end Emission

namespace Move

theorem flagsAfterAll_append (flags : Flags) (ms ns : List Move) :
    flagsAfterAll flags (ms ++ ns) = flagsAfterAll (flagsAfterAll flags ms) ns := by
  induction ms generalizing flags with
  | nil => rfl
  | cons m ms ih => rw [List.cons_append, flagsAfterAll, flagsAfterAll, ih]

theorem emittedAll_append (flags : Flags) (ms ns : List Move) :
    emittedAll flags (ms ++ ns) =
      emittedAll flags ms ++ emittedAll (flagsAfterAll flags ms) ns := by
  induction ms generalizing flags with
  | nil => rfl
  | cons m ms ih =>
    rw [List.cons_append, emittedAll, emittedAll, ih, flagsAfterAll, List.append_assoc]

theorem actionsOf_append (ms ns : List Move) :
    actionsOf (ms ++ ns) = actionsOf ms ++ actionsOf ns := by
  induction ms with
  | nil => rfl
  | cons m ms ih => rw [List.cons_append, actionsOf, actionsOf, ih, List.append_assoc]

/-- What moves emit, in order and without regions. -/
def emissions (flags : Flags) (ms : List Move) : List Emission :=
  Emitted.flattenAll (emittedAll flags ms)

theorem emissions_append (flags : Flags) (ms ns : List Move) :
    emissions flags (ms ++ ns) =
      emissions flags ms ++ emissions (flagsAfterAll flags ms) ns := by
  rw [emissions, emittedAll_append, Emitted.flattenAll_append]
  rfl

end Move

/-- The action fails on no builder that is open: what it writes can be converted. -/
def Action.Sound : Action → Prop
  | .line v => ∃ item, v.toFragment = .ok item
  | .fail _ => False
  | _ => True

namespace Printer

/-- The printer after what moves emit. -/
def after (names : Assignment) (ms : List Move) (p : Printer) : Printer where
  level := p.level + Emission.offsetOf (Move.emissions p.flags ms)
  flags := Move.flagsAfterAll p.flags ms
  printed := p.printed ++ Emission.printed names p.level (Move.emissions p.flags ms)

variable (names : Assignment) (p : Printer)

@[simp] theorem after_nil : p.after names [] = p := by
  simp [after, Move.emissions, Move.emittedAll, Emitted.flattenAll, Emission.offsetOf,
    Emission.printed, Move.flagsAfterAll]

theorem after_append (ms ns : List Move) :
    p.after names (ms ++ ns) = (p.after names ms).after names ns := by
  simp only [after, Move.emissions_append, Move.flagsAfterAll_append, Emission.offsetOf_append,
    Emission.printed_append, Int.add_assoc, List.append_assoc]

theorem after_cons (m : Move) (ms : List Move) :
    p.after names (m :: ms) = (p.after names [m]).after names ms :=
  after_append names p [m] ms

theorem after_region (mark : Mark) (body : List Move) :
    p.after names [.region mark body] = p.after names body := by
  have h : Move.emissions p.flags [.region mark body] = Move.emissions p.flags body := by
    simp [Move.emissions, Move.emittedAll, Move.emitted, Emitted.flattenAll, Emitted.flatten]
  rw [after, h]
  rfl

theorem after_line {v : Value} {item : Tree} (h : v.toFragment = .ok item) :
    p.after names [.act (.line v)] = p.put (rows names item) := by
  have hemissions : Move.emissions p.flags [.act (.line v)] =
      if p.flags.blankWanted then [.emptyLine, .line item] else [.line item] := by
    simp only [Move.emissions, Move.emittedAll, Move.emitted, List.append_nil, Action.emissions, h,
      Emitted.flattenAll_map_single]
  rw [after, hemissions, put]
  cases p.flags.blankWanted <;>
    simp [Emission.offsetOf, Emission.offset, Emission.printed, Move.flagsAfterAll,
      Move.flagsAfter, Action.flagsAfter]

theorem after_emptyLine : p.after names [.act .emptyLine] = p.skip := by
  simp [after, skip, Move.emissions, Move.emittedAll, Move.emitted, Action.emissions,
    Emitted.flattenAll, Emitted.flatten, Emission.offsetOf, Emission.offset, Emission.printed,
    Move.flagsAfterAll, Move.flagsAfter, Action.flagsAfter]

theorem after_shift (offset : Int) : p.after names [.act (.shift offset)] = p.shift offset := by
  simp [after, shift, Move.emissions, Move.emittedAll, Move.emitted, Action.emissions,
    Emitted.flattenAll, Emitted.flatten, Emission.offsetOf, Emission.offset, Emission.printed,
    Move.flagsAfterAll, Move.flagsAfter, Action.flagsAfter]

/-- An action that emits nothing changes the flags only. -/
theorem after_of_emissions {a : Action} (h : a.emissions p.flags = []) :
    p.after names [.act a] = { p with flags := a.flagsAfter p.flags } := by
  simp [after, Move.emissions, Move.emittedAll, Move.emitted, h, Emitted.flattenAll,
    Emission.offsetOf, Emission.printed, Move.flagsAfterAll, Move.flagsAfter]

theorem after_requestBlank : p.after names [.act .requestBlank] = p.requestBlank := by
  rw [after_of_emissions names p rfl, requestBlank, Action.flagsAfter]
  split <;> rfl

end Printer

end SourceLayout
