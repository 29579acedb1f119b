import SourceLayout.Proofs.Building.Emptiness

/-! What a refused emission leaves behind.  A table is converted before anything is written, so one
with a cell that is refused leaves the builder as it was.  A line is converted after the blank line
that is wanted, so that blank line is all that a refused line can leave.  A finished builder takes
nothing, and is left as it was. -/

namespace SourceLayout

namespace Value

/-- The cells of a table, row by row.  What has no elements has no cells. -/
def cells (rows : Value) : List Value :=
  (rows.elements?.getD []).flatMap fun row => row.elements?.getD []

theorem refusedOf?_append (vs ws : List Value) :
    refusedOf? (vs ++ ws) = (refusedOf? vs).or (refusedOf? ws) := by
  induction vs with
  | nil => rfl
  | cons v vs ih => rw [List.cons_append, refusedOf?_cons, ih, refusedOf?_cons, Option.or_assoc]

/-- Rows with a cell that is refused are refused: for the first such leaf of their cells, if all of
them have cells. -/
theorem mapM_toCells_of_refused {items : List Value} {w : Value}
    (h : refusedOf? (items.flatMap fun row => row.elements?.getD []) = some w) :
    ∃ fault, items.mapM toCells = .error fault ∧
      ((∀ row ∈ items, row.elements? ≠ Option.none) → fault = .notConvertible w) := by
  induction items with
  | nil => cases h
  | cons row items ih =>
    rw [List.flatMap_cons, refusedOf?_append] at h
    rw [List.mapM_cons]
    cases helements : row.elements? with
    | none =>
      have hrow : row.toCells = .error (.notIterable row.kind) := by
        rw [toCells, elements, helements]
        rfl
      rw [hrow]
      exact ⟨_, rfl, fun hall => absurd helements (hall row List.mem_cons_self)⟩
    | some vs =>
      have hends := endsAt_toFragments vs
      rw [helements, Option.getD_some] at h
      rw [toCells_of_elements helements]
      cases hvs : refusedOf? vs with
      | some u =>
        rw [hvs] at h hends
        cases h
        rw [show toFragments vs = _ from hends]
        exact ⟨_, rfl, fun _ => rfl⟩
      | none =>
        rw [hvs, Option.none_or] at h
        rw [hvs] at hends
        obtain ⟨fs, hfs⟩ := hends
        obtain ⟨fault, hitems, hfirst⟩ := ih h
        rw [hfs, hitems]
        exact ⟨fault, rfl, fun hall => hfirst (List.forall_mem_cons.mp hall).2⟩

theorem toTable_of_refused {rows w : Value} (h : refusedOf? rows.cells = some w) :
    ∃ fault, rows.toTable = .error fault ∧
      ((∀ items, rows.elements? = some items → ∀ row ∈ items, row.elements? ≠ Option.none) →
        fault = .notConvertible w) := by
  cases helements : rows.elements? with
  | none =>
    rw [cells, helements] at h
    cases h
  | some items =>
    rw [cells, helements, Option.getD_some] at h
    obtain ⟨fault, hitems, hfirst⟩ := mapM_toCells_of_refused h
    have htable : rows.toTable = .error fault := by
      simp only [toTable, elements, helements, hitems, bind, Except.bind]
    exact ⟨fault, htable, fun hall => hfirst (hall items rfl)⟩

end Value

namespace Builder

variable {b : Builder}

theorem table_of_error {rows : Value} {fault : Fault} (h : rows.toTable = .error fault)
    (b : Builder) : b.table rows = .failed b fault := by
  rw [table, h]

/-- A finished builder takes no line, whatever its parts. -/
theorem line_of_finished (h : b.finished = true) (parts : List Value) :
    b.line parts = .failed b .treeFinished := by
  cases parts with
  | nil => exact if_pos h
  | cons v vs => exact lineOf_of_finished h (.list (v :: vs))

theorem block_of_finished (h : b.finished = true) (text : String) :
    b.block text = .failed b .treeFinished := by
  unfold block
  simp only [line_of_finished h, Outcome.failed_andThen]

theorem table_of_finished (h : b.finished = true) (rows : Value) :
    ∃ fault, b.table rows = .failed b fault := by
  cases hrows : rows.toTable with
  | error fault => exact ⟨fault, table_of_error hrows b⟩
  | ok t =>
    rw [table, hrows]
    exact ⟨.treeFinished, lineOf_of_finished h (.fragment t)⟩

/-- A line with a part that is refused leaves the blank line that was wanted before it. -/
theorem line_of_refused {parts : List Value} {w : Value} (hopen : b.finished = false)
    (h : Value.refusedOf? parts = some w) :
    b.line parts = .failed b.flushBlank (.notConvertible w) := by
  cases parts with
  | nil => cases h
  | cons v vs =>
    have hlist : (Value.list (v :: vs)).toFragment = .error (.notConvertible w) :=
      Value.toFragment_of_refused (v := .list (v :: vs)) h
    exact lineOf_eq_failed hopen hlist

/-- A blank line that is written is one line break without a change of level.  That there is output
is nothing new. -/
theorem InStep.flushBlank_eq (h : b.InStep) :
    b.flushBlank = if b.blankWanted then
      { b with
        arena := ⟨0 :: b.arena.changes⟩
        current := .pending b.arena.size :: b.current
        blankWanted := false }
      else b := by
  rw [flushBlank]
  split
  · next hwanted =>
    have hoffer := h.blank hwanted
    obtain ⟨arena, current, suspended, blankWanted, hasOutput, finished⟩ := b
    cases hoffer
    rfl
  · rfl

/-- After any calls on a fresh builder, whether they failed or not:

a table with a cell that is refused fails and leaves the builder as it was;

a line with a part that is refused, on a builder that is not finished, fails for the first such leaf
and leaves the builder as it was, but for a blank line that was wanted: of that, a line break
without a change of level is in the current write target, and it is wanted no more;

a finished builder fails for every line, table and block, and is left as it was.

The points between the calls of a program, those in its bodies too, are reached by such calls. -/
theorem after_rejection :
    (∀ names steps, ∀ s ∈ Step.points names steps .fresh,
      ∃ calls, s.builder = Call.attempt calls .fresh) ∧
    ∀ calls : List Call, let b := Call.attempt calls .fresh
      (∀ rows w, Value.refusedOf? rows.cells = some w →
        ∃ fault, b.table rows = .failed b fault ∧
          ((∀ items, rows.elements? = some items → ∀ row ∈ items, row.elements? ≠ Option.none) →
            fault = .notConvertible w)) ∧
      (∀ parts w, Value.refusedOf? parts = some w → b.finished = false →
        b.line parts = .failed
          (if b.blankWanted then
            { b with
              arena := ⟨0 :: b.arena.changes⟩
              current := .pending b.arena.size :: b.current
              blankWanted := false }
            else b)
          (.notConvertible w)) ∧
      (b.finished = true →
        (∀ parts, b.line parts = .failed b .treeFinished) ∧
        (∀ rows, ∃ fault, b.table rows = .failed b fault) ∧
        ∀ text, b.block text = .failed b .treeFinished) := by
  refine ⟨fun names steps s hs => Reaches.points hs, fun calls => ?_⟩
  intro b
  have hb : b.InStep := (Advances.attempt calls fresh).inStep inStep_fresh
  refine ⟨fun rows w hw => ?_, fun parts w hw hopen => ?_, fun hfinished =>
    ⟨line_of_finished hfinished, table_of_finished hfinished, block_of_finished hfinished⟩⟩
  · obtain ⟨fault, hrows, hfirst⟩ := Value.toTable_of_refused hw
    exact ⟨fault, table_of_error hrows b, hfirst⟩
  · rw [line_of_refused hopen hw, hb.flushBlank_eq]

/-- After a line and a request for a blank line, a number deep inside a part costs the request, and
one deep inside a cell costs nothing; a finished builder refuses what it could take before. -/
theorem after_rejection_blank_wanted :
    let calls : List Call := [.line [.str "a"], .requestBlank]
    let deep : Value := .list [.str "b", .tuple [.vector [.int 1], .none]]
    let b := Call.attempt calls .fresh
    let c := Call.attempt (calls ++ [.finish]) .fresh
    (∃ fault, b.table (.list [.list [.str "x"], .tuple [.str "y", deep]]) = .failed b fault) ∧
      b.line [.str "x", deep] =
        .failed
          { arena := ⟨[0, 0]⟩
            current := [.pending 1, .pending 0, .text "a"]
            hasOutput := true }
          (.notConvertible (.int 1)) ∧
      c.line [.str "x"] = .failed c .treeFinished ∧ c.block "x" = .failed c .treeFinished := by
  intro calls deep b c
  let rows : Value := .list [.list [.str "x"], .tuple [.str "y", deep]]
  obtain ⟨htable, hline, -⟩ := after_rejection.2 calls
  obtain ⟨-, -, hfinished⟩ := after_rejection.2 (calls ++ [.finish])
  obtain ⟨hlines, -, hblocks⟩ := hfinished rfl
  refine ⟨?_, ?_, hlines _, hblocks _⟩
  · obtain ⟨fault, hfault, -⟩ := htable rows (.int 1) rfl
    exact ⟨fault, hfault⟩
  · exact hline [.str "x", deep] (.int 1) rfl rfl

end Builder

end SourceLayout
