import SourceLayout.Proofs.Building.Growth
import SourceLayout.Proofs.Fragment.Resolving

/-! The finished tree of a program.  It holds what the program emitted, call by call: its items, its
line breaks and its regions.  Every line break carries what the level changed by from that break to
the next one, whichever regions were opened or closed in between. -/

namespace SourceLayout

/-! ### The changes in the arena -/

namespace Emission

/-- Emissions after a line break add to its change what comes before the next break, and then add
their own breaks. -/
theorem changes_foldl_onArena (change : Int) (earlier : List Int) (es : List Emission) :
    (es.foldl onArena ⟨change :: earlier⟩).changes.reverse =
      earlier.reverse ++ (change + lead es) :: changes es := by
  induction es generalizing change earlier with
  | nil => simp [lead, changes]
  | cons e es ih =>
    rw [List.foldl_cons]
    cases e with
    | line item => simp [onArena, LineArena.addBreak, ih]
    | emptyLine => simp [onArena, LineArena.addBreak, ih]
    | shift offset => simp [onArena, ih, Int.add_assoc]

/-- The changes of a fresh arena after emissions are those from each break to the next. -/
theorem changes_foldl_onArena_fresh (es : List Emission) :
    (es.foldl onArena {}).changes.reverse = changes es := by
  induction es with
  | nil => rfl
  | cons e es ih =>
    rw [List.foldl_cons]
    cases e with
    | line item => simp [onArena, LineArena.addBreak, changes_foldl_onArena]
    | emptyLine => simp [onArena, LineArena.addBreak, changes_foldl_onArena]
    | shift offset => exact ih

end Emission

/-! ### The trees with their changes -/

namespace Emitted

/-- The items of what is emitted, in order. -/
def itemsOf (os : List Emitted) : List Tree := (flattenAll os).filterMap Emission.item?

/-- Trees stand for what was emitted: an item and a line break for a line, a line break for an empty
line, nothing for a change of indentation, and for a region one marked tree, which holds the trees
of its body. -/
inductive Laid : List Emitted → List Tree → Prop
  | nil : Laid [] []
  | line {os : List Emitted} {fs : List Tree} (item : Tree) (change : Int) (rest : Laid os fs) :
      Laid (.single (.line item) :: os) (item :: .newline change :: fs)
  | emptyLine {os : List Emitted} {fs : List Tree} (change : Int) (rest : Laid os fs) :
      Laid (.single .emptyLine :: os) (.newline change :: fs)
  | shift {os : List Emitted} {fs : List Tree} (offset : Int) (rest : Laid os fs) :
      Laid (.single (.shift offset) :: os) fs
  | region {body os : List Emitted} {inside fs : List Tree} (mark : Mark)
      (inner : Laid body inside) (rest : Laid os fs) :
      Laid (.region mark body :: os) (.marked mark (.ofList inside) :: fs)

/-- The trees of what is emitted, with the changes of its line breaks by their numbers. -/
abbrev settled (change : Nat → Int) : Nat → List Emitted → List Tree :=
  treesOf fun n => .newline (change n)

theorem laid_settled (change : Nat → Int) (n : Nat) (os : List Emitted) :
    Laid os (settled change n os) := by
  induction os using listInduction generalizing n with
  | nil => exact .nil
  | single e os ih =>
    cases e with
    | line item => exact .line item _ (ih _)
    | emptyLine => exact .emptyLine _ (ih _)
    | shift offset => exact .shift offset (ih _)
  | region mark body os ihBody ih => exact .region mark (ihBody n) (ih _)

theorem itemsOf_append (os ps : List Emitted) : itemsOf (os ++ ps) = itemsOf os ++ itemsOf ps := by
  rw [itemsOf, flattenAll_append, List.filterMap_append]
  rfl

theorem itemsOf_single (e : Emission) (os : List Emitted) :
    itemsOf (.single e :: os) = e.item?.toList ++ itemsOf os := by
  cases e <;> rfl

theorem itemsOf_region (mark : Mark) (body os : List Emitted) :
    itemsOf (.region mark body :: os) = itemsOf body ++ itemsOf os := by
  simp only [itemsOf, flattenAll, flatten, List.filterMap_append]

/-- Resolving gives every line break its change, when the items hold no pending breaks. -/
theorem resolveAll_treesOf {a : LineArena} {change : Nat → Int} (n : Nat) (os : List Emitted)
    (hitems : ∀ item ∈ itemsOf os, item.pendings = [])
    (hchange : ∀ k < n + Emission.breaksOf (flattenAll os), a.change k = .ok (change k)) :
    a.resolveAll (treesOf (fun k => .pending k) n os) = .ok (settled change n os) := by
  induction os using listInduction generalizing n with
  | nil => rfl
  | single e os ih =>
    rw [itemsOf_single] at hitems
    rw [flattenAll, flatten, List.singleton_append, Emission.breaksOf_cons, ← Nat.add_assoc]
      at hchange
    have hrest : a.resolveAll (treesOf (fun k => .pending k) (n + e.breaks) os) =
        .ok (settled change (n + e.breaks) os) :=
      ih (n + e.breaks) (fun item h => hitems item (List.mem_append_right _ h)) hchange
    refine LineArena.resolveAll_append ?_ hrest
    have hbreak (h : e.breaks = 1) : a.resolve (.pending n : Tree) = .ok (.newline (change n)) := by
      rw [LineArena.resolve, hchange n (by omega)]
      rfl
    cases e with
    | line item =>
      have hitem : a.resolve item = .ok item :=
        LineArena.resolve_of_pendings_eq_nil (hitems item (by simp [Emission.item?]))
      exact LineArena.resolveAll_append (LineArena.resolveAll_singleton hitem)
        (LineArena.resolveAll_singleton (hbreak rfl))
    | emptyLine => exact LineArena.resolveAll_singleton (hbreak rfl)
    | shift offset => rfl
  | region mark body os ihBody ih =>
    rw [itemsOf_region] at hitems
    rw [flattenAll, flatten, Emission.breaksOf_append, ← Nat.add_assoc] at hchange
    have hbody := LineArena.resolve_ofList (ihBody n
      (fun item h => hitems item (List.mem_append_left _ h)) fun k hk => hchange k (by omega))
    have hrest := ih (n + Emission.breaksOf (flattenAll body))
      (fun item h => hitems item (List.mem_append_right _ h)) hchange
    refine LineArena.resolveAll_append (LineArena.resolveAll_singleton ?_) hrest
    rw [LineArena.resolve, hbody]
    rfl

/-- The line breaks of the trees carry the changes by their numbers, in order. -/
theorem newlines_settled (change : Nat → Int) (n : Nat) (os : List Emitted)
    (hitems : ∀ item ∈ itemsOf os, item.newlines = []) :
    (settled change n os).flatMap Fragment.newlines =
      (List.range' n (Emission.breaksOf (flattenAll os))).map change := by
  induction os using listInduction generalizing n with
  | nil => rfl
  | single e os ih =>
    rw [itemsOf_single] at hitems
    have hrest := ih (n + e.breaks) fun item h => hitems item (List.mem_append_right _ h)
    have hhead : (e.trees (fun n => .newline (change n)) n).flatMap Fragment.newlines =
        (List.range' n e.breaks).map change := by
      cases e with
      | line item =>
        have hitem : item.newlines = [] := hitems item (by simp [Emission.item?])
        simp only [Emission.trees, List.flatMap_cons, hitem]
        rfl
      | emptyLine => rfl
      | shift offset => rfl
    have hsplit : List.range' n (e.breaks + Emission.breaksOf (flattenAll os)) =
        List.range' n e.breaks ++ List.range' (n + e.breaks) (Emission.breaksOf (flattenAll os)) :=
      List.range'_append_1.symm
    rw [flattenAll, flatten, List.singleton_append, Emission.breaksOf_cons, hsplit, List.map_append,
      ← hhead, ← hrest, ← List.flatMap_append]
    rfl
  | region mark body os ihBody ih =>
    rw [itemsOf_region] at hitems
    have hbody := ihBody n fun item h => hitems item (List.mem_append_left _ h)
    have hrest := ih (n + Emission.breaksOf (flattenAll body))
      fun item h => hitems item (List.mem_append_right _ h)
    rw [flattenAll, flatten, Emission.breaksOf_append, ← List.range'_append_1, List.map_append,
      ← hbody, ← hrest]
    rw [settled, treesOf, trees, List.singleton_append, List.flatMap_cons,
      Fragment.newlines_marked_ofList]
    rfl

/-- The trees hold no pending breaks when the items hold none. -/
theorem pendings_settled (change : Nat → Int) (n : Nat) (os : List Emitted)
    (hitems : ∀ item ∈ itemsOf os, item.pendings = []) :
    (settled change n os).flatMap Fragment.pendings = [] := by
  induction os using listInduction generalizing n with
  | nil => rfl
  | single e os ih =>
    rw [itemsOf_single] at hitems
    rw [settled, treesOf, List.flatMap_append,
      ih _ fun item h => hitems item (List.mem_append_right _ h), List.append_nil]
    cases e with
    | line item =>
      have hitem : item.pendings = [] := hitems item (by simp [Emission.item?])
      simp only [trees, Emission.trees, List.flatMap_cons, hitem]
      rfl
    | emptyLine => rfl
    | shift offset => rfl
  | region mark body os ihBody ih =>
    rw [itemsOf_region] at hitems
    have hbody := ihBody n fun item h => hitems item (List.mem_append_left _ h)
    have hrest := ih (n + Emission.breaksOf (flattenAll body))
      fun item h => hitems item (List.mem_append_right _ h)
    rw [settled, treesOf, trees, List.singleton_append, List.flatMap_cons,
      Fragment.pendings_marked_ofList, hbody]
    exact hrest

end Emitted

/-! ### The items of a program -/

theorem Action.filterMap_item?_emissions (a : Action) (flags : Flags) :
    (a.emissions flags).filterMap Emission.item? = a.item?.toList := by
  cases a with
  | line v =>
    rw [emissions, item?]
    cases v.toFragment with
    | error fault => rfl
    | ok item => cases flags.blankWanted <;> rfl
  | emptyLine | requestBlank | shift _ | probe | divert | finish | write _ | fail _ => rfl

/-- The items that moves emit are those of their actions. -/
theorem Move.itemsOf_emittedAll (flags : Flags) (ms : List Move) :
    Emitted.itemsOf (emittedAll flags ms) = (actionsOf ms).filterMap Action.item? := by
  induction ms using listInduction generalizing flags with
  | nil => rfl
  | act a ms ih =>
    have hact : Emitted.itemsOf (emitted flags (.act a)) = a.item?.toList := by
      rw [emitted, Emitted.itemsOf, Emitted.flattenAll_map_single,
        Action.filterMap_item?_emissions]
    rw [emittedAll, Emitted.itemsOf_append, hact, ih, actionsOf, actions, List.filterMap_append]
    cases ha : a.item? <;> simp [ha]
  | region mark body ms ihBody ih =>
    rw [emittedAll, emitted, Emitted.itemsOf_append, Emitted.itemsOf_region, ihBody, ih, actionsOf,
      actions, List.filterMap_append]
    simp [Emitted.itemsOf, Emitted.flattenAll]

/-! ### The finished tree -/

namespace Step

/-- A run without a fault on a fresh builder leaves an arena with the changes of what the program
emits, and the trees of what it emits in the one write target that is open. -/
theorem grows_of_run {names : Assignment} {steps : List Step}
    (hrun : (runAll names steps .fresh).fault = none) (hstay : .divert ∉ actionsOf steps) :
    Grows .fresh (emittedBy steps) (Move.flagsAfterAll {} (movesOf steps))
      (runAll names steps .fresh).state.builder := by
  rw [runAll_eq_runAll_moves] at hrun ⊢
  exact Grows.moves hstay hrun

/-- What the level changes by from the break of the number `k` to the next one. -/
def change (steps : List Step) (k : Nat) : Int :=
  (Emission.changes (Emitted.flattenAll (emittedBy steps))).getD k 0

/-- The children of the tree that a program finishes. -/
def children (steps : List Step) : List Tree := Emitted.settled (change steps) 0 (emittedBy steps)

theorem finish_eq_children {names : Assignment} {steps : List Step}
    (hrun : (runAll names steps .fresh).fault = none) (hstay : .divert ∉ actionsOf steps)
    (hitems : ∀ item ∈ itemsOf steps, item.pendings = []) :
    (runAll names steps .fresh).state.builder.finish.2 = .ok (.seq (children steps)) := by
  have hgrows := grows_of_run hrun hstay
  set b := (runAll names steps .fresh).state.builder
  have hchanges : b.arena.changes.reverse =
      Emission.changes (Emitted.flattenAll (emittedBy steps)) := by
    rw [hgrows.arena]
    exact Emission.changes_foldl_onArena_fresh _
  have hchange : ∀ k < 0 + Emission.breaksOf (Emitted.flattenAll (emittedBy steps)),
      b.arena.change k = .ok (change steps k) := by
    intro k hk
    have hsize : k < b.arena.size := by
      rw [LineArena.size, ← List.length_reverse, hchanges, Emission.length_changes]
      omega
    rw [LineArena.change_of_lt hsize, hchanges, change]
  have hsuspended : b.suspended = [] := hgrows.suspended
  have hcurrent : b.current.reverse =
      Emitted.treesOf (fun k => .pending k) 0 (emittedBy steps) := by
    rw [hgrows.current]
    simp [Builder.fresh, LineArena.size]
  have hresolve : b.arena.resolveAll b.current.reverse = .ok (children steps) := by
    rw [hcurrent]
    refine Emitted.resolveAll_treesOf 0 _ ?_ hchange
    rw [emittedBy, Move.itemsOf_emittedAll]
    exact hitems
  rw [Builder.finish, hsuspended]
  show b.arena.resolve _ = _
  rw [LineArena.resolve, hresolve]
  rfl

/-- A program that runs without a fault finishes a tree that holds what it emitted, call by call. No
break of the tree is pending, and the line breaks carry the changes of indentation from each break
to the next. -/
theorem finish_of_run {names : Assignment} {steps : List Step}
    (hrun : (runAll names steps .fresh).fault = none) (hstay : .divert ∉ actionsOf steps)
    (hplain : ∀ item ∈ itemsOf steps, item.newlines = [] ∧ item.pendings = []) :
    ∃ children, (runAll names steps .fresh).state.builder.finish.2 = .ok (.seq children) ∧
      Emitted.Laid (emittedBy steps) children ∧
      (Fragment.seq children).pendings = [] ∧
      (Fragment.seq children).newlines =
        Emission.changes (Emitted.flattenAll (emittedBy steps)) := by
  have hfinish := finish_eq_children hrun hstay fun item h => (hplain item h).2
  have hitems : ∀ item ∈ Emitted.itemsOf (emittedBy steps),
      item.newlines = [] ∧ item.pendings = [] := by
    rw [emittedBy, Move.itemsOf_emittedAll]
    exact hplain
  refine ⟨children steps, hfinish, Emitted.laid_settled _ 0 _, ?_, ?_⟩
  · rw [Fragment.pendings_seq]
    exact Emitted.pendings_settled _ 0 _ fun item h => (hitems item h).2
  · rw [Fragment.newlines_seq, children,
      Emitted.newlines_settled _ 0 _ fun item h => (hitems item h).1, ← Emission.length_changes]
    apply List.ext_getElem
    · simp
    · intro k hk hk'
      simp [change, hk']

/-- A change of indentation inside a region can belong to the break before the region, and an empty
region holds the empty sequence. -/
theorem finish_regions :
    let steps := [line [.str "a"], region .plain [shift 2, line [.str "b"], region (.issue "m") []],
      shift (-1), line [], shift (-1)]
    (runAll .empty steps .fresh).fault = none ∧
    ∃ children, (runAll .empty steps .fresh).state.builder.finish.2 = .ok (.seq children) ∧
      Emitted.Laid [.single (.line (.text "a")),
        .region .plain [.single (.shift 2), .single (.line (.text "b")), .region (.issue "m") []],
        .single (.shift (-1)), .single .emptyLine, .single (.shift (-1))] children ∧
      (Fragment.seq children).pendings = [] ∧ (Fragment.seq children).newlines = [2, -1, -1] := by
  intro steps
  have hrun : (runAll .empty steps .fresh).fault = none := rfl
  have hstay : .divert ∉ actionsOf steps := by
    simp [steps, actionsOf, movesOf, moves, Move.actionsOf, Move.actions]
  have hplain : ∀ item ∈ itemsOf steps, item.newlines = [] ∧ item.pendings = [] := by
    have hitems : itemsOf steps = [.text "a", .text "b"] := rfl
    simp [hitems, Fragment.newlines, Fragment.pendings, Fragment.leaves, Fragment.change?,
      Fragment.index?]
  exact ⟨hrun, finish_of_run hrun hstay hplain⟩

end Step

end SourceLayout
