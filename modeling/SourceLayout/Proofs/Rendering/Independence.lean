import SourceLayout.Proofs.Naming.Sealing
import SourceLayout.Proofs.Rendering.Assigning

/-! Calls of a renderer do not tell on each other.  What a call leaves for the next one is an
assignment, the assignment that templates look names up in, and sealed namespaces; where the emitter
always says the same, the first call would have come to the same. -/

namespace SourceLayout

variable {μ γ : Type}

namespace Assigner

/-- The assigner is the standard one, or one that always gives the same assignment, or takes notes
for one of these. -/
inductive Steady : Assigner μ → Prop
  | standard : Steady standard
  | always (a : Assignment) : Steady (always a)
  | recording (note : List NamespaceId → World μ → μ) {assigner : Assigner μ}
      (h : Steady assigner) : Steady (recording note assigner)

namespace Steady

variable {assigner : Assigner μ}

/-- A steady assigner seals namespaces and changes no other. -/
theorem exists_registry_eq (h : Steady assigner) (order : List NamespaceId) (w : World μ) :
    ∃ ids, (assigner order w).1.registry = w.registry.sealing ids := by
  induction h generalizing w with
  | standard => exact w.registry.exists_assign_eq_sealing order
  | always a => exact ⟨[], w.registry.sealing_nil.symm⟩
  | recording note _ ih => exact ih _

/-- What a steady assigner gives does not depend on what is remembered, nor on seals. -/
theorem result_eq (h : Steady assigner) (order : List NamespaceId) {w w' : World μ}
    {ids : List NamespaceId} (hw : w'.registry = w.registry.sealing ids) :
    (assigner order w').2 = (assigner order w).2 := by
  induction h generalizing w w' with
  | standard =>
    change (w'.registry.assign order).2 = (w.registry.assign order).2
    rw [hw, Registry.assign_sealing]
  | always a => rfl
  | recording note _ ih => exact ih hw

/-- What a steady assigner seals does not depend on what is remembered. -/
theorem registry_eq (h : Steady assigner) (order : List NamespaceId) {w w' : World μ}
    (hw : w'.registry = w.registry) :
    (assigner order w').1.registry = (assigner order w).1.registry := by
  induction h generalizing w w' with
  | standard =>
    change (w'.registry.assign order).1 = (w.registry.assign order).1
    rw [hw]
  | always a => exact hw
  | recording note _ ih => exact ih hw

/-- A steady assigner fails only for a breach of contract. -/
theorem isBreach (hsteady : Steady assigner) {order : List NamespaceId} {w : World μ}
    {fault : Fault} (h : (assigner order w).2 = .error fault) : fault.isBreach = true := by
  induction hsteady generalizing w with
  | standard => exact Registry.isBreach_of_assign h
  | always a => cases h
  | recording note _ ih => exact ih h

end Steady

end Assigner

namespace Renderer

variable {r : Renderer μ γ} {w : World μ} {s : State μ} {a : Assignment}

/-- The emitter says the same whenever it is asked, and the assigner is a steady one. -/
structure Steady (r : Renderer μ γ) : Prop where
  emitter : ∃ given program variables?, r.emitter = Emitter.fixed given program variables?
  assigner : r.config.assigner.Steady

namespace Steady

theorem attempt_result_eq (h : r.Steady) {w' : World μ} {ids : List NamespaceId}
    (hw : w'.registry = w.registry.sealing ids) :
    (r.attempt w').2 = (r.attempt w).2 := by
  obtain ⟨given, program, variables?, hemitter⟩ := h.emitter
  rw [attempt, attempt, hemitter]
  cases given with
  | error fault => rfl
  | ok namespaces => exact h.assigner.result_eq _ hw

theorem attempt_registry_eq (h : r.Steady) {w' : World μ} (hw : w'.registry = w.registry) :
    (r.attempt w').1.registry = (r.attempt w).1.registry := by
  obtain ⟨given, program, variables?, hemitter⟩ := h.emitter
  rw [attempt, attempt, hemitter]
  cases given with
  | error fault => exact hw
  | ok namespaces => exact h.assigner.registry_eq _ hw

theorem exists_attempt_registry_eq (h : r.Steady) (w : World μ) :
    ∃ ids, (r.attempt w).1.registry = w.registry.sealing ids := by
  obtain ⟨given, program, variables?, hemitter⟩ := h.emitter
  rw [attempt, hemitter]
  cases given with
  | error fault => exact ⟨[], w.registry.sealing_nil.symm⟩
  | ok namespaces => exact h.assigner.exists_registry_eq _ w

/-- A rendering leaves the world as it is, and does not look at it. -/
theorem renderWith_eq (h : r.Steady) (names : Assignment) (w w' : World μ) :
    (r.renderWith names w).1 = w ∧ (r.renderWith names w').2 = (r.renderWith names w).2 := by
  obtain ⟨given, program, variables?, hemitter⟩ := h.emitter
  simp only [renderWith, hemitter, Emitter.fixed]
  cases (Step.runAll names r.opening .fresh).fault <;> exact ⟨rfl, rfl⟩

/-- A template leaves the world as it is, and looks at nothing in it but the namespaces. -/
theorem fill_eq (h : r.Steady) (names environment : Assignment) (text : String) {w w' : World μ}
    (hw : w'.registry = w.registry) :
    (r.fill names environment text w).1 = w ∧
      (r.fill names environment text w').2 = (r.fill names environment text w).2 := by
  obtain ⟨given, program, variables?, hemitter⟩ := h.emitter
  simp only [fill, context, hemitter, Emitter.fixed]
  cases variables? with
  | none => exact ⟨rfl, by simp only [Option.map_none, hw]⟩
  | some values => exact ⟨rfl, by simp only [Option.map_some, hw]⟩

end Steady

/-! ### One call after others -/

/-- What calls before have left: they have come to the assignment to which the first call would have
come, or to none where it would have failed, and all that a call looks at is as after it. -/
inductive Undisturbed (r : Renderer μ γ) (w : World μ) (s : State μ) : Prop
  /-- There is no assignment yet.  The namespaces are as they were, unless they can not be
  assigned. -/
  | searching (hnames : s.names? = none) (henvironment : s.environment? = none)
      (hsealed : ∃ ids, s.world.registry = w.registry.sealing ids)
      (hkept : ∀ a, (r.attempt w).2 = .ok a → s.world.registry = w.registry)
  /-- There is the assignment that the first call would have come to. -/
  | settled (a : Assignment) (hnames : s.names? = some a)
      (hassigned : (r.attempt w).2 = .ok a)
      (hregistry : s.world.registry = (r.attempt w).1.registry)
      (henvironment : s.environment?.getD a = a)

theorem undisturbed_start (r : Renderer μ γ) (w : World μ) : Undisturbed r w (.start w) :=
  .searching rfl rfl ⟨[], w.registry.sealing_nil.symm⟩ fun _ _ => rfl

/-- The assignment of names gives what it would have given first, and what it leaves is again
undisturbed. -/
theorem Undisturbed.assignNames (h : Undisturbed r w s) (hr : r.Steady) :
    (r.assignNames s).2 = (r.attempt w).2 ∧ Undisturbed r w (r.assignNames s).1 := by
  cases h with
  | settled a hnames hassigned hregistry henvironment =>
    rw [r.assignNames_of_some hnames]
    exact ⟨hassigned.symm, .settled a hnames hassigned hregistry henvironment⟩
  | searching hnames henvironment hsealed hkept =>
    obtain ⟨ids, hids⟩ := hsealed
    have hresult := hr.attempt_result_eq hids
    rw [r.assignNames_of_none hnames]
    refine ⟨hresult, ?_⟩
    cases hattempt : (r.attempt w).2 with
    | ok a =>
      refine .settled a ?_ hattempt (hr.attempt_registry_eq (hkept a hattempt)) ?_
      · simp only [hresult, hattempt]
        rfl
      · simp only [henvironment]
        rfl
    | error fault =>
      obtain ⟨others, hothers⟩ := hr.exists_attempt_registry_eq s.world
      refine .searching ?_ henvironment ⟨ids ++ others, ?_⟩ fun a ha => ?_
      · simp only [hresult, hattempt]
        rfl
      · rw [← Registry.sealing_sealing, ← hids]
        exact hothers
      · rw [hattempt] at ha
        cases ha

/-- Where there is an assignment to come to, the state after it is settled. -/
theorem Undisturbed.exists_settled (h : Undisturbed r w s) (hr : r.Steady)
    (ha : (r.attempt w).2 = .ok a) :
    ∃ t, r.assignNames s = (t, .ok a) ∧ t.names? = some a ∧
      t.world.registry = (r.attempt w).1.registry ∧ t.environment?.getD a = a := by
  obtain ⟨hresult, hnext⟩ := h.assignNames hr
  rcases hassign : r.assignNames s with ⟨t, result⟩
  rw [hassign] at hresult hnext
  obtain rfl : result = .ok a := hresult.trans ha
  have hnames := names?_of_assignNames hassign
  cases hnext with
  | searching hnone =>
    rw [hnames] at hnone
    cases hnone
  | settled b hb _ hregistry henvironment =>
    obtain rfl := Option.some.inj (hnames.symm.trans hb)
    exact ⟨t, rfl, hnames, hregistry, henvironment⟩

theorem Undisturbed.call (h : Undisturbed r w s) (hr : r.Steady) (c : Call) :
    Undisturbed r w (r.call s c).1 := by
  cases hc : c.needsNames with
  | false => rwa [call_of_not_needsNames r s hc]
  | true =>
    cases hattempt : (r.attempt w).2 with
    | error fault =>
      obtain ⟨hresult, hnext⟩ := h.assignNames hr
      rw [call_of_assignNames_eq_error hc (Prod.ext rfl (hresult.trans hattempt))]
      exact hnext
    | ok a =>
      obtain ⟨t, hassign, hnames, hregistry, henvironment⟩ := h.exists_settled hr hattempt
      cases c with
      | names | typeGraph => cases hc
      | render =>
        simp only [Renderer.call, hassign]
        refine .settled a hnames hattempt ?_ henvironment
        rwa [(hr.renderWith_eq a t.world t.world).1]
      | template text =>
        simp only [Renderer.call, hassign]
        refine .settled a hnames hattempt ?_ henvironment
        rwa [(hr.fill_eq a _ text rfl).1]

theorem Undisturbed.after (h : Undisturbed r w s) (hr : r.Steady) (calls : List Call) :
    Undisturbed r w (r.after s calls) := by
  induction calls generalizing s with
  | nil => exact h
  | cons c calls ih => exact ih (h.call hr c)

/-- A call that needs names gives the same in any two undisturbed states. -/
theorem Undisturbed.call_eq {t : State μ} (hs : Undisturbed r w s) (ht : Undisturbed r w t)
    (hr : r.Steady) {c : Call} (hc : c.needsNames = true) : (r.call s c).2 = (r.call t c).2 := by
  cases hattempt : (r.attempt w).2 with
  | error fault =>
    rw [call_of_assignNames_eq_error hc (Prod.ext rfl ((hs.assignNames hr).1.trans hattempt)),
      call_of_assignNames_eq_error hc (Prod.ext rfl ((ht.assignNames hr).1.trans hattempt))]
  | ok a =>
    obtain ⟨s', hassign, -, hregistry, henvironment⟩ := hs.exists_settled hr hattempt
    obtain ⟨t', hassign', -, hregistry', henvironment'⟩ := ht.exists_settled hr hattempt
    cases c with
    | names | typeGraph => cases hc
    | render =>
      simp only [Renderer.call, hassign, hassign', (hr.renderWith_eq a s'.world t'.world).2]
    | template text =>
      simp only [Renderer.call, hassign, hassign', henvironment, henvironment',
        (hr.fill_eq a a text (hregistry'.trans hregistry.symm)).2]

/-- A rendering or a template gives the same, result or fault and all that was probed, whatever was
called before, if the emitter always says the same and the assigner is a steady one. -/
theorem call_undisturbed (r : Renderer μ γ) (hr : r.Steady) (w : World μ) (before : List Call)
    (c : Call) (hc : c.needsNames = true) :
    (r.call (r.after (.start w) before) c).2 = (r.call (.start w) c).2 :=
  ((undisturbed_start r w).after hr before).call_eq (undisturbed_start r w) hr hc

/-- A rendering after names that were not there yet, a template with a fault and another rendering
gives what the first one would have given. -/
theorem call_undisturbed_third :
    let w : World Unit := ⟨⟨[{ label := "types", members := [⟨0, "Point", false⟩] }]⟩, ()⟩
    let r : Renderer Unit Unit :=
      { emitter := .fixed (.ok [0])
          (fun _ => [.line [.str "class ", .name ⟨0, "Point", false⟩]]) none
        typeGraph := ()
        comments := [.str "# types"] }
    r.Steady ∧ ∃ result,
      (r.call (r.after (.start w) [.names, .template "{{ x }}", .render]) .render).2.2 =
        .ok (.rendered result) ∧
      result.sheet.lines = ["# types", "", "class Point"] := by
  intro w r
  have hr : r.Steady := ⟨⟨_, _, _, rfl⟩, .standard⟩
  refine ⟨hr, ?_⟩
  rw [call_undisturbed r hr w _ .render rfl]
  let names : Assignment := ⟨[(⟨0, "Point", false⟩, "Point")]⟩
  let tree : Tree := .seq [.text "# types", .newline 0, .newline 0,
    .seq [.text "class ", .name ⟨0, "Point", false⟩], .newline 0]
  exact ⟨⟨tree, names, ⟨["# types", "", "class Point"], []⟩⟩, by cbv, rfl⟩

end Renderer

end SourceLayout
