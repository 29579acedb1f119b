import SourceLayout.Renderer.Watching
import SourceLayout.Proofs.Naming.Assigned

/-! A renderer has the names assigned once.  Every call that needs names tries anew until an attempt
succeeds, whatever comes of the call after that, and no later call asks for namespaces or an
assignment again.  What was asked is told by a renderer under watch, which answers as the renderer
does without it. -/

namespace SourceLayout

/-- The call needs names. -/
def Call.needsNames : Call → Bool
  | .render | .template _ => true
  | .names | .typeGraph => false

namespace Registry

/-- The order has the given namespaces, each once, as they are first seen. -/
structure FirstSeen (given order : List NamespaceId) : Prop where
  nodup : order.Nodup
  mem_iff : ∀ id, id ∈ order ↔ id ∈ given
  ordered : order.Pairwise fun first second => given.idxOf first < given.idxOf second

theorem firstSeen_unique (given : List NamespaceId) : FirstSeen given (unique given) := by
  unfold unique
  refine ⟨nodup_eraseDups given, fun id => List.mem_eraseDups, ?_⟩
  refine List.pairwise_iff_getElem.mpr fun i j hi hj hij => ?_
  have hsplit : given.eraseDups =
      given.eraseDups.take j ++ given.eraseDups[j] :: given.eraseDups.drop (j + 1) := by
    rw [← List.drop_eq_getElem_cons hj, List.take_append_drop]
  refine (mem_of_eraseDups_eq_append hsplit).mp ?_
  exact List.mem_take_iff_getElem.mpr ⟨i, Nat.lt_min.mpr ⟨hij, hi⟩, rfl⟩

end Registry

namespace Renderer

variable {μ γ : Type}

/-- The state of a renderer that was not called yet. -/
def State.start (w : World μ) : State μ := { world := w }

/-- The state after calls, one after the other. -/
def after (r : Renderer μ γ) (s : State μ) : List Call → State μ
  | [] => s
  | c :: calls => r.after (r.call s c).1 calls

variable {r : Renderer μ γ} {w : World μ} {s t : State μ} {c : Call} {a : Assignment}

/-! ### One call -/

theorem assignNames_of_some (r : Renderer μ γ) (h : s.names? = some a) :
    r.assignNames s = (s, .ok a) := by
  rw [assignNames, h]

theorem assignNames_of_none (r : Renderer μ γ) (h : s.names? = none) :
    r.assignNames s =
      ({ s with
          world := (r.attempt s.world).1
          names? := (r.attempt s.world).2.toOption }, (r.attempt s.world).2) := by
  rw [assignNames, h]

theorem call_of_not_needsNames (r : Renderer μ γ) (s : State μ) (hc : c.needsNames = false) :
    (r.call s c).1 = s := by
  cases c with
  | render | template => cases hc
  | names =>
    rw [call]
    cases s.names? <;> rfl
  | typeGraph => rfl

theorem call_names_of_some (r : Renderer μ γ) (h : s.names? = some a) :
    r.call s .names = (s, [], .ok (.names a)) := by
  rw [call, h]

theorem call_names_of_none (r : Renderer μ γ) (h : s.names? = none) :
    r.call s .names = (s, [], .error .namesUnassigned) := by
  rw [call, h]

theorem names?_of_assignNames (h : r.assignNames s = (t, .ok a)) : t.names? = some a := by
  cases hnames : s.names? with
  | some b =>
    rw [r.assignNames_of_some hnames] at h
    cases h
    exact hnames
  | none =>
    rw [r.assignNames_of_none hnames] at h
    obtain ⟨rfl, hresult⟩ := Prod.ext_iff.mp h
    exact congrArg Except.toOption hresult

/-- A call that gets no names ends there, with the fault of the attempt. -/
theorem call_of_assignNames_eq_error (hc : c.needsNames = true) {fault : Fault}
    (h : r.assignNames s = (t, .error fault)) : r.call s c = (t, [], .error fault) := by
  cases c with
  | names | typeGraph => cases hc
  | render | template => rw [call, h]

/-- A template that has its names is filled in under them. -/
theorem call_template_of_assignNames (h : r.assignNames s = (t, .ok a)) (text : String) :
    (r.call s (.template text)).2.2 =
      (r.fill a (t.environment?.getD a) text t.world).2.map .text := by
  rw [call, h]

/-- Whatever comes of a call that needs names, it leaves the names that their assignment left. -/
theorem names?_call (r : Renderer μ γ) (s : State μ) (hc : c.needsNames = true) :
    (r.call s c).1.names? = (r.assignNames s).1.names? := by
  cases c with
  | names | typeGraph => cases hc
  | render | template =>
    rw [call]
    cases r.assignNames s with
    | mk s result => cases result <;> rfl

/-- An assignment that a call can come to is that of all later calls. -/
theorem assignNames_after_eq_ok (h : (r.assignNames s).2 = .ok a) (later : List Call) :
    (r.assignNames (r.after s later)).2 = .ok a := by
  induction later generalizing s with
  | nil => exact h
  | cons c later ih =>
    refine ih ?_
    cases hc : c.needsNames with
    | false => rwa [call_of_not_needsNames r s hc]
    | true =>
      have hnames : (r.call s c).1.names? = some a :=
        (r.names?_call s hc).trans (names?_of_assignNames (Prod.ext rfl h))
      rw [r.assignNames_of_some hnames]

theorem names_of_renderWith {names : Assignment} {result : Rendered}
    (h : (r.renderWith names w).2.2 = .ok result) : result.names = names := by
  simp only [renderWith] at h
  split at h
  · cases h
  · obtain ⟨sheet, -, h⟩ := bind_eq_ok.mp h
    cases h
    rfl

/-- A rendering that succeeds is one under the names that were assigned. -/
theorem assignNames_of_rendered {result : Rendered}
    (h : (r.call s .render).2.2 = .ok (.rendered result)) :
    (r.assignNames s).2 = .ok result.names := by
  rw [call] at h
  rcases hassign : r.assignNames s with ⟨t, fault | names⟩
  · rw [hassign] at h
    cases h
  · rw [hassign] at h
    cases hrender : (r.renderWith names t.world).2.2 with
    | error fault =>
      simp only [hrender] at h
      cases h
    | ok given =>
      simp only [hrender] at h
      cases h
      rw [names_of_renderWith hrender]

/-! ### Calls under watch -/

/-- The state with what was seen meanwhile. -/
def State.watched (events : List Event) (s : State μ) : State (Watched μ) where
  world := s.world.watched events
  names? := s.names?
  environment? := s.environment?

/-- One attempt to have the names assigned: the emitter refuses to give its namespaces, or gives
some, and the assigner is run. -/
inductive Attempt where
  | refused (fault : Fault)
  | assigned (given order : List NamespaceId) (result : Except Fault Assignment)

namespace Attempt

/-- What there is to see of the attempt. -/
def events : Attempt → List Event
  | refused fault => [.setUp (.error fault)]
  | assigned given order result => [.setUp (.ok given), .assigner order result]

/-- What comes of the attempt. -/
def result : Attempt → Except Fault Assignment
  | refused fault => .error fault
  | assigned _ _ result => result

/-- The emitter gave no namespaces. -/
def isRefused : Attempt → Bool
  | refused _ => true
  | assigned .. => false

/-- If the assigner is run, it gets the namespaces of the emitter as they are first seen. -/
def IsOrderly : Attempt → Prop
  | refused _ => True
  | assigned given order _ => Registry.FirstSeen given order

/-- The attempt gave no names. -/
def IsFailed (attempt : Attempt) : Prop := ∃ fault, attempt.result = .error fault

theorem countP_isSetUp_events (attempts : List Attempt) :
    (attempts.flatMap events).countP Event.isSetUp = attempts.length := by
  induction attempts with
  | nil => rfl
  | cons attempt attempts ih =>
    have hone : attempt.events.countP Event.isSetUp = 1 := by cases attempt <;> rfl
    rw [List.flatMap_cons, List.countP_append, hone, ih, List.length_cons, Nat.add_comm]

theorem length_orders_events (attempts : List Attempt) :
    ((attempts.flatMap events).filterMap Event.order?).length + attempts.countP isRefused =
      attempts.length := by
  induction attempts with
  | nil => rfl
  | cons attempt attempts ih =>
    have hone : (attempt.events.filterMap Event.order?).length +
        (if attempt.isRefused then 1 else 0) = 1 := by cases attempt <;> rfl
    rw [List.flatMap_cons, List.filterMap_append, List.length_append, List.countP_cons,
      List.length_cons]
    omega

end Attempt

/-- An attempt under watch comes to what it comes to without, and is seen as it is. -/
theorem exists_attempt (r : Renderer μ γ) (events : List Event) (w : World μ) :
    ∃ attempt : Attempt, attempt.IsOrderly ∧ attempt.result = (r.attempt w).2 ∧
      r.watched.attempt (w.watched events) =
        ((r.attempt w).1.watched (events ++ attempt.events), (r.attempt w).2) := by
  have hwatched : r.watched.emitter.setUp (w.watched events) =
      ((r.emitter.setUp w).1.watched (events ++ [.setUp (r.emitter.setUp w).2]),
        (r.emitter.setUp w).2) := rfl
  rcases hgiven : r.emitter.setUp w with ⟨v, fault | given⟩
  · rw [hgiven] at hwatched
    refine ⟨.refused fault, trivial, ?_⟩
    simp only [attempt, hwatched, hgiven]
    exact ⟨rfl, rfl⟩
  · rw [hgiven] at hwatched
    refine ⟨.assigned given (Registry.unique given)
      (r.config.assigner (Registry.unique given) v).2, Registry.firstSeen_unique given, ?_⟩
    simp only [attempt, hwatched, hgiven]
    refine ⟨rfl, Prod.ext ?_ rfl⟩
    exact congrArg (World.watched · _) (List.append_assoc ..)

theorem renderWith_watched (r : Renderer μ γ) (names : Assignment) (events : List Event)
    (w : World μ) :
    r.watched.renderWith names (w.watched events) =
      ((r.renderWith names w).1.watched events, (r.renderWith names w).2) := by
  have hopening : r.watched.opening = r.opening := rfl
  have hemit : r.watched.emitter.emit names (w.watched events) =
      ((r.emitter.emit names w).1.watched events, (r.emitter.emit names w).2) := by
    refine Prod.ext ?_ rfl
    exact congrArg (World.watched · _) (List.append_nil events)
  simp only [renderWith, hopening, hemit]
  cases (Step.runAll names r.opening .fresh).fault <;> rfl

theorem fill_watched (r : Renderer μ γ) (names environment : Assignment) (template : String)
    (events : List Event) (w : World μ) :
    r.watched.fill names environment template (w.watched events) =
      ((r.fill names environment template w).1.watched events,
        (r.fill names environment template w).2) := by
  have hcontext : r.watched.context names (w.watched events) =
      ((r.context names w).1.watched events, (r.context names w).2) := by
    cases hgive : r.emitter.variables? with
    | none =>
      have hnone : r.watched.emitter.variables? = none := congrArg (Option.map _) hgive
      rw [context, context, hgive, hnone]
    | some give =>
      have hsome : r.watched.emitter.variables? =
          some fun names => World.watching (fun _ => []) (give names) :=
        congrArg (Option.map _) hgive
      rw [context, context, hgive, hsome]
      refine Prod.ext ?_ rfl
      exact congrArg (World.watched · _) (List.append_nil events)
  rw [fill, hcontext]
  rfl

/-- After the assignment of names, nothing more is seen of a call. -/
theorem call_watched_of_assignNames (hc : c.needsNames = true) {events seen : List Event}
    (h : r.watched.assignNames (s.watched events) =
      ((r.assignNames s).1.watched seen, (r.assignNames s).2)) :
    r.watched.call (s.watched events) c = ((r.call s c).1.watched seen, (r.call s c).2) := by
  rcases hassign : r.assignNames s with ⟨t, fault | names⟩
  · rw [hassign] at h
    rw [call_of_assignNames_eq_error hc hassign, call_of_assignNames_eq_error hc h]
  · rw [hassign] at h
    cases c with
    | names | typeGraph => cases hc
    | render =>
      have hrender := r.renderWith_watched names seen t.world
      simp only [call, hassign, h]
      rw [State.watched, hrender]
      rfl
    | template text =>
      have hfill := r.fill_watched names (t.environment?.getD names) text seen t.world
      simp only [call, hassign, h]
      rw [State.watched, hfill]
      rfl

/-- A call for which there are names, or that needs none, is not seen. -/
theorem call_watched_of_some (r : Renderer μ γ) (events : List Event)
    (h : s.names? = some a ∨ c.needsNames = false) :
    r.watched.call (s.watched events) c = ((r.call s c).1.watched events, (r.call s c).2) := by
  cases hc : c.needsNames with
  | false =>
    cases c with
    | render | template => cases hc
    | names =>
      have hsame : (s.watched events).names? = s.names? := rfl
      rw [call, call, hsame]
      cases s.names? <;> rfl
    | typeGraph => rfl
  | true =>
    have hnames : s.names? = some a := h.resolve_right (by simp [hc])
    have hwatched : (s.watched events).names? = some a := hnames
    refine call_watched_of_assignNames hc ?_
    rw [assignNames_of_some _ hnames, assignNames_of_some _ hwatched]

/-- Without names, an attempt is seen of a call that needs them. -/
theorem exists_call_of_none (r : Renderer μ γ) (events : List Event) (hnames : s.names? = none)
    (hc : c.needsNames = true) :
    ∃ attempt : Attempt, attempt.IsOrderly ∧
      attempt.result.toOption = (r.call s c).1.names? ∧
      r.watched.call (s.watched events) c =
        ((r.call s c).1.watched (events ++ attempt.events), (r.call s c).2) := by
  obtain ⟨attempt, horderly, hresult, hattempt⟩ := r.exists_attempt events s.world
  have hwatched : (s.watched events).names? = none := hnames
  refine ⟨attempt, horderly, ?_, call_watched_of_assignNames hc ?_⟩
  · rw [r.names?_call s hc, r.assignNames_of_none hnames, hresult]
  · have hworld : (s.watched events).world = s.world.watched events := rfl
    rw [assignNames_of_none _ hnames, assignNames_of_none _ hwatched, hworld, hattempt]
    rfl

/-- A call answers the same under watch. -/
theorem snd_call_watched (r : Renderer μ γ) (events : List Event) (s : State μ) (c : Call) :
    (r.watched.call (s.watched events) c).2 = (r.call s c).2 := by
  cases hc : c.needsNames with
  | false => rw [r.call_watched_of_some (a := .empty) events (.inr hc)]
  | true =>
    cases hnames : s.names? with
    | some a => rw [r.call_watched_of_some events (.inl hnames)]
    | none =>
      obtain ⟨attempt, -, -, hcall⟩ := r.exists_call_of_none events hnames hc
      rw [hcall]

/-! ### All calls -/

/-- Each call that needed names made one of these attempts, all of them have failed, and there are
no names. -/
structure Searching (r : Renderer μ γ) (s : State μ) (calls : List Call)
    (attempts : List Attempt) : Prop where
  length : attempts.length = calls.countP Call.needsNames
  failed : ∀ attempt ∈ attempts, attempt.IsFailed
  names : (r.after s calls).names? = none

/-- The last of these attempts, which a call made when all before had failed, gave the names. -/
def Settled (r : Renderer μ γ) (s : State μ) (calls : List Call) (attempts : List Attempt)
    (a : Assignment) : Prop :=
  ∃ before c later failed last, calls = before ++ c :: later ∧ Searching r s before failed ∧
    c.needsNames = true ∧ attempts = failed ++ [last] ∧ last.result = .ok a ∧
    (r.after s calls).names? = some a

theorem Settled.names {calls : List Call} {attempts : List Attempt}
    (h : Settled r s calls attempts a) : (r.after s calls).names? = some a := by
  obtain ⟨before, c, later, failed, last, -, -, -, -, -, hnames⟩ := h
  exact hnames

theorem searching_nil (h : s.names? = none) : Searching r s [] [] where
  length := rfl
  failed _ h := nomatch h
  names := h

section Cons

variable {calls : List Call} {attempts : List Attempt} {attempt : Attempt}

theorem Searching.cons_of_not_needsNames (h : Searching r (r.call s c).1 calls attempts)
    (hc : c.needsNames = false) : Searching r s (c :: calls) attempts where
  length := by rw [h.length, List.countP_cons_of_neg (by simp [hc])]
  failed := h.failed
  names := h.names

theorem Searching.cons (h : Searching r (r.call s c).1 calls attempts) (hc : c.needsNames = true)
    (hfailed : attempt.IsFailed) : Searching r s (c :: calls) (attempt :: attempts) where
  length := by rw [List.length_cons, h.length, List.countP_cons_of_pos hc]
  failed := List.forall_mem_cons.mpr ⟨hfailed, h.failed⟩
  names := h.names

theorem Settled.cons_of_not_needsNames (h : Settled r (r.call s c).1 calls attempts a)
    (hc : c.needsNames = false) : Settled r s (c :: calls) attempts a := by
  obtain ⟨before, d, later, failed, last, rfl, hbefore, hrest⟩ := h
  exact ⟨c :: before, d, later, failed, last, rfl, hbefore.cons_of_not_needsNames hc, hrest⟩

theorem Settled.cons (h : Settled r (r.call s c).1 calls attempts a) (hc : c.needsNames = true)
    (hfailed : attempt.IsFailed) : Settled r s (c :: calls) (attempt :: attempts) a := by
  obtain ⟨before, d, later, failed, last, rfl, hbefore, hd, rfl, hrest⟩ := h
  exact ⟨c :: before, d, later, attempt :: failed, last, rfl, hbefore.cons hc hfailed, hd, rfl,
    hrest⟩

/-- The attempt of the first call may be the one that gives the names. -/
theorem settled_singleton (h : s.names? = none) (hc : c.needsNames = true)
    (hresult : attempt.result = .ok a) (hnames : (r.after s (c :: calls)).names? = some a) :
    Settled r s (c :: calls) [attempt] a :=
  ⟨[], c, calls, [], attempt, rfl, searching_nil h, hc, rfl, hresult, hnames⟩

end Cons

/-- Calls under watch that have names, or need none, are not seen. -/
theorem after_watched_of_some (r : Renderer μ γ) (events : List Event) (h : s.names? = some a)
    (calls : List Call) :
    r.watched.after (s.watched events) calls = (r.after s calls).watched events ∧
      (r.after s calls).names? = some a := by
  induction calls generalizing s with
  | nil => exact ⟨rfl, h⟩
  | cons c calls ih =>
    have hcall := r.call_watched_of_some (c := c) events (.inl h)
    have hnames : (r.call s c).1.names? = some a := by
      cases hc : c.needsNames with
      | false => rwa [call_of_not_needsNames r s hc]
      | true => rw [r.names?_call s hc, r.assignNames_of_some h, h]
    rw [after, after, hcall]
    exact ih hnames

/-- Calls search on until an attempt succeeds. -/
theorem exists_after_of_none (r : Renderer μ γ) (events : List Event) (h : s.names? = none)
    (calls : List Call) :
    ∃ attempts : List Attempt, (∀ attempt ∈ attempts, attempt.IsOrderly) ∧
      r.watched.after (s.watched events) calls =
        (r.after s calls).watched (events ++ attempts.flatMap Attempt.events) ∧
      (Searching r s calls attempts ∨ ∃ a, Settled r s calls attempts a) := by
  induction calls generalizing s events with
  | nil => exact ⟨[], by simp, by simp [after], .inl (searching_nil h)⟩
  | cons c calls ih =>
    cases hc : c.needsNames with
    | false =>
      have hcall := r.call_watched_of_some (s := s) (a := .empty) events (.inr hc)
      have hstay : (r.call s c).1.names? = none := by rwa [call_of_not_needsNames r s hc]
      obtain ⟨attempts, horderly, hafter, hnext⟩ := ih events hstay
      exact ⟨attempts, horderly, by rw [after, hcall, hafter, after],
        hnext.imp (·.cons_of_not_needsNames hc) fun ⟨a, h⟩ => ⟨a, h.cons_of_not_needsNames hc⟩⟩
    | true =>
      obtain ⟨attempt, hone, hresult, hcall⟩ := r.exists_call_of_none events h hc
      cases hattempt : attempt.result with
      | error fault =>
        rw [hattempt] at hresult
        obtain ⟨attempts, horderly, hafter, hnext⟩ := ih (events ++ attempt.events) hresult.symm
        have hfailed : attempt.IsFailed := ⟨fault, hattempt⟩
        refine ⟨attempt :: attempts, List.forall_mem_cons.mpr ⟨hone, horderly⟩, ?_,
          hnext.imp (·.cons hc hfailed) fun ⟨a, h⟩ => ⟨a, h.cons hc hfailed⟩⟩
        rw [after, hcall, hafter, List.flatMap_cons, List.append_assoc, after]
      | ok a =>
        rw [hattempt] at hresult
        obtain ⟨hafter, hnames⟩ := r.after_watched_of_some (events ++ attempt.events)
          hresult.symm calls
        refine ⟨[attempt], List.forall_mem_singleton.mpr hone, ?_,
          .inr ⟨a, settled_singleton h hc hattempt hnames⟩⟩
        rw [after, hcall, hafter, List.flatMap_singleton, after]

/-- What is seen of any calls is attempts to have the names assigned.  As many have been made as calls
needed names, up to the first that succeeded, if one did.  Each asks the emitter for its namespaces,
and, unless the emitter refuses, runs the assigner on them as they are first seen, each once.  The
names can be had when an attempt succeeded, and then they are those that it gave, as are those of
every rendering; otherwise to ask for them is a fault. -/
theorem names_assigned_once (r : Renderer μ γ) (w : World μ) (calls : List Call) :
    let s := r.after (.start w) calls
    let t := r.watched.after (.start (w.watched [])) calls
    ∃ attempts : List Attempt,
      t.world.events = attempts.flatMap Attempt.events ∧
      (∀ attempt ∈ attempts, attempt.IsOrderly) ∧
      t.world.events.countP Event.isSetUp = attempts.length ∧
      (t.world.events.filterMap Event.order?).length + attempts.countP Attempt.isRefused =
        attempts.length ∧
      (Searching r (.start w) calls attempts ∧ (r.call s .names).2.2 = .error .namesUnassigned ∨
        ∃ a, Settled r (.start w) calls attempts a ∧ (r.call s .names).2.2 = .ok (.names a) ∧
          ∀ result, (r.call s .render).2.2 = .ok (.rendered result) → result.names = a) ∧
      (∀ result, (r.call s .render).2.2 = .ok (.rendered result) →
        (r.call (r.call s .render).1 .names).2.2 = .ok (.names result.names)) ∧
      ∀ c, (r.watched.call t c).2 = (r.call s c).2 := by
  intro s t
  have hstart : (State.start w).names? = none := rfl
  obtain ⟨attempts, horderly, hafter, hcases⟩ := r.exists_after_of_none [] hstart calls
  have ht : t = s.watched (attempts.flatMap Attempt.events) := hafter
  have hevents : t.world.events = attempts.flatMap Attempt.events := by rw [ht]; rfl
  refine ⟨attempts, hevents, horderly, ?_, ?_, ?_, fun result hresult => ?_, fun c => ?_⟩
  · rw [hevents, Attempt.countP_isSetUp_events]
  · rw [hevents, Attempt.length_orders_events]
  · rcases hcases with h | ⟨a, h⟩
    · exact .inl ⟨h, by rw [r.call_names_of_none h.names]⟩
    · refine .inr ⟨a, h, by rw [r.call_names_of_some h.names], fun result hresult => ?_⟩
      have hassign := assignNames_of_rendered hresult
      rw [r.assignNames_of_some h.names] at hassign
      exact (Except.ok.inj hassign).symm
  · have hassign := assignNames_of_rendered hresult
    have hnames : (r.call s .render).1.names? = some result.names :=
      (r.names?_call s rfl).trans (names?_of_assignNames (Prod.ext rfl hassign))
    rw [r.call_names_of_some hnames]
  · rw [ht]
    exact r.snd_call_watched _ s c

/-- An emitter that fails for its namespaces is asked for them by the call, and the assigner is not
run. -/
theorem assigner_not_reached :
    let r : Renderer Unit Unit :=
      { emitter := .fixed (.error (.raised "KeyError" "'missing'")) (fun _ => []) none
        typeGraph := () }
    let t := r.watched.after (.start (World.watched [] ⟨⟨[]⟩, ()⟩)) [.render]
    [Call.render].countP Call.needsNames = 1 ∧
    t.world.events.countP Event.isSetUp = 1 ∧
    (t.world.events.filterMap Event.order?).length = 0 :=
  ⟨rfl, rfl, rfl⟩

end Renderer

end SourceLayout
