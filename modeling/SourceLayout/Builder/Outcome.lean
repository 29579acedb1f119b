import SourceLayout.Fault

/-! What is left after an action that may be cut short. A fault undoes nothing: the state is the one
in which the action stopped. -/

namespace SourceLayout

/-- The state after an action, and the fault that ended it if one did. -/
structure Outcome (σ : Type) where
  state : σ
  fault : Option Fault := none

namespace Outcome

variable {σ τ : Type}

/-- The action ran to its end. -/
def done (s : σ) : Outcome σ := ⟨s, none⟩

/-- The action stopped at a fault. -/
def failed (s : σ) (fault : Fault) : Outcome σ := ⟨s, some fault⟩

/-- One action and then another, which does not run after a fault. -/
def andThen (first : Outcome σ) (next : σ → Outcome σ) : Outcome σ :=
  match first.fault with
  | none => next first.state
  | some _ => first

/-- The same outcome, with the state as part of another. -/
def map (f : σ → τ) (o : Outcome σ) : Outcome τ := ⟨f o.state, o.fault⟩

/-- The outcome of a computation that changes nothing when it fails. -/
def ofExcept (s : σ) : Except Fault σ → Outcome σ
  | .ok t => done t
  | .error fault => failed s fault

@[simp] theorem done_andThen (s : σ) (next : σ → Outcome σ) : (done s).andThen next = next s := rfl

@[simp] theorem failed_andThen (s : σ) (fault : Fault) (next : σ → Outcome σ) :
    (failed s fault).andThen next = failed s fault := rfl

@[simp] theorem fault_done (s : σ) : (done s).fault = none := rfl

@[simp] theorem fault_failed (s : σ) (fault : Fault) : (failed s fault).fault = some fault := rfl

@[simp] theorem state_done (s : σ) : (done s).state = s := rfl

@[simp] theorem state_failed (s : σ) (fault : Fault) : (failed s fault).state = s := rfl

@[simp] theorem andThen_done (o : Outcome σ) : o.andThen done = o := by
  obtain ⟨s, _ | fault⟩ := o <;> rfl

theorem andThen_assoc (o : Outcome σ) (f g : σ → Outcome σ) :
    (o.andThen f).andThen g = o.andThen fun s => (f s).andThen g := by
  obtain ⟨s, _ | fault⟩ := o <;> rfl

/-- After an action that ran to its end, the next one decides. -/
theorem andThen_of_fault {o : Outcome σ} (h : o.fault = none) (next : σ → Outcome σ) :
    o.andThen next = next o.state := by
  obtain ⟨s, _ | fault⟩ := o
  · rfl
  · cases h

/-- A run without fault is a run without fault of both parts. -/
theorem fault_andThen_eq_none {o : Outcome σ} {next : σ → Outcome σ} :
    (o.andThen next).fault = none ↔ o.fault = none ∧ (next o.state).fault = none := by
  obtain ⟨s, _ | fault⟩ := o <;> simp [andThen]

/-- A fault of a run is that of its first part, or that of its second part after a first one without
fault. -/
theorem fault_andThen_eq_some {o : Outcome σ} {next : σ → Outcome σ} {fault : Fault} :
    (o.andThen next).fault = some fault ↔
      o.fault = some fault ∨ o.fault = none ∧ (next o.state).fault = some fault := by
  obtain ⟨s, _ | other⟩ := o <;> simp [andThen]

end Outcome

end SourceLayout
