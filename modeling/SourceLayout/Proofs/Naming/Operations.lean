import SourceLayout.Builder.Outcome
import SourceLayout.Proofs.Naming.Sealing

/-! What operations on names and namespaces keep, in any order and whether they fail or not.  A name
stays in the namespace that it was added to, a sealed namespace keeps its members, and an assignment
that was made once can be made again. -/

namespace SourceLayout

namespace Registry

/-- One operation on names and namespaces. -/
inductive Operation where
  /-- Makes a namespace. -/
  | create (label : String) (forbidden : List NamespaceId)
  /-- Makes a name, which belongs to no namespace yet. -/
  | name (n : Name)
  /-- Adds a name to a namespace. -/
  | add (id : NamespaceId) (n : Name)
  /-- Seals a namespace. -/
  | close (id : NamespaceId)
  /-- Gives a namespace other forbidden namespaces. -/
  | forbid (id : NamespaceId) (forbidden : List NamespaceId)
  /-- Assigns the names of namespaces. -/
  | assign (order : List NamespaceId)
  /-- Leaves out the repetitions in a list of namespaces. -/
  | unique (order : List NamespaceId)
deriving DecidableEq, Repr, Inhabited

/-- What names keep of the namespaces that they were added to. -/
abbrev Record := Name → Option NamespaceId

namespace Operation

/-- Runs an operation. -/
def run : Operation → Registry → Outcome Registry
  | .create label forbidden, r => .done (r.create label forbidden)
  | .name _, r => .done r
  | .add id n, r => .ofExcept r (r.add id n)
  | .close id, r => .done (r.close id)
  | .forbid id forbidden, r => .done (r.forbid id forbidden)
  | .assign order, r =>
    match r.assign order with
    | (s, .ok _) => .done s
    | (s, .error fault) => .failed s fault
  | .unique _, r => .done r

/-- The record after an operation: a name that is added keeps its namespace. -/
def note : Operation → Registry → Record → Record
  | .add id n, r, record =>
    match r.add id n with
    | .ok _ => Function.update record n (some id)
    | .error _ => record
  | _, _, record => record

/-- Runs operations in order, where one that fails does not stop those after it. -/
def runAll : List Operation → Registry → Registry
  | [], r => r
  | op :: ops, r => runAll ops (op.run r).state

/-- The record after operations. -/
def noteAll : List Operation → Registry → Record → Record
  | [], _, record => record
  | op :: ops, r, record => noteAll ops (op.run r).state (op.note r record)

/-- All namespaces that the operation works on exist. -/
def Possible (r : Registry) : Operation → Prop
  | .create _ forbidden => ∀ id ∈ forbidden, id < r.namespaces.length
  | .name _ => True
  | .add id _ | .close id => id < r.namespaces.length
  | .forbid id forbidden => ∀ other ∈ id :: forbidden, other < r.namespaces.length
  | .assign order | .unique order => ∀ id ∈ order, id < r.namespaces.length

/-- All namespaces that operations work on exist when their turn comes. -/
def PossibleAll : List Operation → Registry → Prop
  | [], _ => True
  | op :: ops, r => op.Possible r ∧ PossibleAll ops (op.run r).state

instance (r : Registry) (op : Operation) : Decidable (op.Possible r) :=
  match op with
  | .create _ forbidden =>
    inferInstanceAs (Decidable (∀ id ∈ forbidden, id < r.namespaces.length))
  | .name _ => inferInstanceAs (Decidable True)
  | .add id _ | .close id => inferInstanceAs (Decidable (id < r.namespaces.length))
  | .forbid id forbidden =>
    inferInstanceAs (Decidable (∀ other ∈ id :: forbidden, other < r.namespaces.length))
  | .assign order | .unique order =>
    inferInstanceAs (Decidable (∀ id ∈ order, id < r.namespaces.length))

instance decidablePossibleAll : (ops : List Operation) → (r : Registry) →
    Decidable (PossibleAll ops r)
  | [], _ => inferInstanceAs (Decidable True)
  | op :: ops, r =>
    have := decidablePossibleAll ops (op.run r).state
    inferInstanceAs (Decidable (op.Possible r ∧ PossibleAll ops (op.run r).state))

end Operation

namespace Operation

theorem state_run_assign (order : List NamespaceId) (r : Registry) :
    ((assign order).run r).state = (r.assign order).1 := by
  rw [run]
  cases h : r.assign order with
  | mk s result => cases result <;> rfl

/-- An assignment seals namespaces of its order and changes nothing else. -/
theorem exists_state_run_assign (order : List NamespaceId) (r : Registry) :
    ∃ before, ((assign order).run r).state = r.sealing before := by
  rw [state_run_assign]
  exact r.exists_assign_eq_sealing order

end Operation

/-- A name is added to a namespace that is not sealed, when it belongs to none. -/
theorem add_eq_ok {r s : Registry} {id : NamespaceId} {n : Name} (h : r.add id n = .ok s) :
    (r.lookup id).sealed = false ∧ r.owner? n = none ∧
      s = r.update id fun space => { space with members := space.members ++ [n] } := by
  unfold add at h
  split at h
  · cases h
  next hsealed =>
    cases howner : r.owner? n with
    | some owner =>
      rw [howner] at h
      cases h
    | none =>
      rw [howner] at h
      cases h
      exact ⟨Bool.eq_false_iff.mpr hsealed, rfl, rfl⟩

namespace Operation

variable {r : Registry}

/-! ### One step -/

/-- All that an operation can do to a namespace: it adds a name to the members while the namespace
is not sealed, gives it other forbidden namespaces, or seals it. -/
inductive Changes (op : Operation) (id : NamespaceId) (before : Namespace) : Namespace → Prop
  | nothing : Changes op id before before
  | added (n : Name) (hop : op = .add id n) (hopen : before.sealed = false) :
      Changes op id before { before with members := before.members ++ [n] }
  | forbidden (ids : List NamespaceId) (hop : op = .forbid id ids) :
      Changes op id before { before with forbidden := ids }
  | closed : Changes op id before { before with sealed := true }

theorem changes_run (op : Operation) {id : NamespaceId} (hid : id < r.namespaces.length) :
    op.Changes id (r.lookup id) ((op.run r).state.lookup id) := by
  cases op with
  | create label forbidden =>
    have hlookup : (r.create label forbidden).lookup id = r.lookup id := by
      rw [lookup_create, if_neg (Nat.ne_of_lt hid)]
    rw [run, Outcome.state_done, hlookup]
    exact .nothing
  | name n => exact .nothing
  | add other n =>
    rw [run]
    cases hadd : r.add other n with
    | error fault => exact .nothing
    | ok s =>
      obtain ⟨hopen, -, rfl⟩ := add_eq_ok hadd
      rw [Outcome.ofExcept, Outcome.state_done, lookup_update]
      split
      · next h =>
        obtain ⟨rfl, -⟩ := h
        exact .added n rfl hopen
      · exact .nothing
  | close other =>
    rw [run, Outcome.state_done, Registry.close, lookup_update]
    split
    · exact .closed
    · exact .nothing
  | forbid other ids =>
    rw [run, Outcome.state_done, Registry.forbid, lookup_update]
    split
    · next h =>
      obtain ⟨rfl, -⟩ := h
      exact .forbidden ids rfl
    · exact .nothing
  | assign order =>
    obtain ⟨before, hstate⟩ := exists_state_run_assign order r
    rw [hstate, lookup_sealing r before hid]
    cases hcontains : before.contains id with
    | true =>
      rw [Bool.or_true]
      exact .closed
    | false =>
      rw [Bool.or_false]
      exact .nothing
  | unique order => exact .nothing

theorem length_le_run (op : Operation) (r : Registry) :
    r.namespaces.length ≤ (op.run r).state.namespaces.length := by
  cases op with
  | create label forbidden => simp [run, Registry.create]
  | name n => exact Nat.le_refl _
  | add id n =>
    rw [run]
    cases hadd : r.add id n with
    | error fault => exact Nat.le_refl _
    | ok s =>
      obtain ⟨-, -, rfl⟩ := add_eq_ok hadd
      exact Nat.le_of_eq (length_update r _ _).symm
  | close id => exact Nat.le_of_eq (length_update r _ _).symm
  | forbid id ids => exact Nat.le_of_eq (length_update r _ _).symm
  | assign order =>
    obtain ⟨before, hstate⟩ := exists_state_run_assign order r
    rw [hstate, length_sealing]
  | unique order => exact Nat.le_refl _

end Operation

/-- What a namespace that is sealed keeps from the registry `r` to the registry `s`: all but the
namespaces that it forbids. -/
structure KeepsSealed (id : NamespaceId) (r s : Registry) : Prop where
  label : (s.lookup id).label = (r.lookup id).label
  members : (s.lookup id).members = (r.lookup id).members
  isSealed : (s.lookup id).sealed = true

namespace Operation

variable {r : Registry} {id : NamespaceId}

theorem keepsSealed_run (op : Operation) (h : (r.lookup id).sealed = true) :
    KeepsSealed id r (op.run r).state := by
  generalize hspace : (op.run r).state.lookup id = space
  have hchanges := op.changes_run (lt_length_of_sealed h)
  rw [hspace] at hchanges
  cases hchanges with
  | nothing => exact ⟨congrArg _ hspace, congrArg _ hspace, hspace ▸ h⟩
  | added n _ hopen =>
    rw [h] at hopen
    cases hopen
  | forbidden ids _ => exact ⟨by rw [hspace], by rw [hspace], by rw [hspace]; exact h⟩
  | closed => exact ⟨by rw [hspace], by rw [hspace], by rw [hspace]⟩

/-- Operations in any number leave a sealed namespace its label and its members, and sealed. -/
theorem keepsSealed_runAll (ops : List Operation) (h : (r.lookup id).sealed = true) :
    KeepsSealed id r (runAll ops r) := by
  induction ops generalizing r with
  | nil => exact ⟨rfl, rfl, h⟩
  | cons op ops ih =>
    have hstep := op.keepsSealed_run h
    have hrest := ih hstep.isSealed
    exact ⟨hrest.label.trans hstep.label, hrest.members.trans hstep.members, hrest.isSealed⟩

theorem forbidden_run {op : Operation} (hid : id < r.namespaces.length)
    (hop : ∀ ids, op ≠ .forbid id ids) :
    ((op.run r).state.lookup id).forbidden = (r.lookup id).forbidden := by
  generalize hspace : (op.run r).state.lookup id = space
  have hchanges := op.changes_run hid
  rw [hspace] at hchanges
  cases hchanges with
  | nothing | added _ _ _ | closed => rfl
  | forbidden ids h => exact absurd h (hop ids)

/-- Operations that give a namespace no other forbidden namespaces leave it those it has. -/
theorem forbidden_runAll {ops : List Operation} (hid : id < r.namespaces.length)
    (hops : ∀ op ∈ ops, ∀ ids, op ≠ .forbid id ids) :
    ((runAll ops r).lookup id).forbidden = (r.lookup id).forbidden := by
  induction ops generalizing r with
  | nil => rfl
  | cons op ops ih =>
    rw [List.forall_mem_cons] at hops
    rw [runAll, ih (hid.trans_le (op.length_le_run r)) hops.2, forbidden_run hid hops.1]

end Operation

/-! ### The record of names -/

/-- The record and the members say the same: every name is in the namespace of its record, once, and
in no other. -/
def Tells (record : Record) (r : Registry) : Prop :=
  ∀ n id, (r.lookup id).members.count n = if record n = some id then 1 else 0

namespace Tells

variable {record : Record} {r : Registry}

theorem mem_iff (h : Tells record r) (n : Name) (id : NamespaceId) :
    n ∈ (r.lookup id).members ↔ record n = some id := by
  rw [← List.one_le_count_iff, h n id]
  split <;> simp_all

theorem of_members {s : Registry} (h : Tells record r)
    (hmembers : ∀ id, (s.lookup id).members = (r.lookup id).members) : Tells record s := by
  intro n id
  rw [hmembers, h n id]

/-- The search for the namespace of a name finds that of the record. -/
theorem owner?_eq (h : Tells record r) (n : Name) : r.owner? n = (record n).map r.lookup := by
  cases howner : r.owner? n with
  | none =>
    cases hrecord : record n with
    | none => rfl
    | some id => exact absurd ((h.mem_iff n id).mpr hrecord) (notMem_of_owner?_eq_none howner id)
  | some space =>
    have hfound : r.namespaces.find? (fun s => s.members.contains n) = some space := howner
    obtain ⟨id, hid⟩ := List.mem_iff_getElem?.mp (List.mem_of_find?_eq_some hfound)
    have hspace : r.lookup id = space := by
      rw [lookup, List.getD_eq_getElem?_getD, hid]
      rfl
    have hcontains := List.find?_some hfound
    have hn : n ∈ (r.lookup id).members := by
      rw [hspace]
      exact List.contains_iff_mem.mp hcontains
    rw [(h.mem_iff n id).mp hn, Option.map_some, hspace]

/-- A name that is added was in no record, and is in that of its namespace. -/
theorem add {s : Registry} {id : NamespaceId} {n : Name} (h : Tells record r)
    (hid : id < r.namespaces.length) (hadd : r.add id n = .ok s) :
    Tells (Function.update record n (some id)) s := by
  obtain ⟨-, howner, rfl⟩ := add_eq_ok hadd
  have hnew : record n = none := by
    rw [h.owner?_eq, Option.map_eq_none_iff] at howner
    exact howner
  intro m other
  rw [lookup_update]
  by_cases hm : m = n
  · subst hm
    have hcount : (r.lookup other).members.count m = 0 := by
      rw [h, hnew, if_neg (by simp)]
    rw [Function.update_self]
    by_cases hother : id = other
    · subst hother
      rw [if_pos ⟨rfl, hid⟩, if_pos rfl, List.count_append, hcount, List.count_singleton_self]
    · rw [if_neg (fun h => hother h.1), hcount, if_neg (fun h => hother (Option.some.inj h))]
  · rw [Function.update_of_ne hm, ← h m other]
    split
    · rw [List.count_append, List.count_singleton, if_neg (by simpa using Ne.symm hm), Nat.add_zero]
    · rfl

theorem run {op : Operation} (h : Tells record r) (hop : op.Possible r) :
    Tells (op.note r record) (op.run r).state := by
  cases op with
  | create label forbidden => exact h.of_members (members_lookup_create r label forbidden)
  | name n => exact h
  | add id n =>
    rw [Operation.note, Operation.run]
    cases hadd : r.add id n with
    | error fault => exact h
    | ok s => exact h.add hop hadd
  | close id => exact h.of_members (members_lookup_close r id)
  | forbid id forbidden =>
    exact h.of_members fun other => members_lookup_forbid r id other forbidden
  | assign order =>
    obtain ⟨before, hstate⟩ := Operation.exists_state_run_assign order r
    rw [hstate]
    exact h.of_members (members_lookup_sealing r before)
  | unique order => exact h

/-- Operations keep the record and the members in step. -/
theorem runAll {ops : List Operation} (h : Tells record r)
    (hops : Operation.PossibleAll ops r) :
    Tells (Operation.noteAll ops r record) (Operation.runAll ops r) := by
  induction ops generalizing r record with
  | nil => exact h
  | cons op ops ih => exact ih (h.run hops.1) hops.2

end Tells

/-! ### Assigning again -/

theorem forbiddenTexts_of_eq_ok {r : Registry} {done : Assigned} {label : String}
    {ids : List NamespaceId} {texts : List String}
    (h : r.forbiddenTexts done label ids = .ok texts) (s : Registry) :
    s.forbiddenTexts done label ids = .ok texts := by
  induction ids generalizing texts with
  | nil => exact h
  | cons id ids ih =>
    rw [forbiddenTexts] at h ⊢
    cases hown : done.textsOf? id with
    | none =>
      rw [hown] at h
      cases h
    | some own =>
      rw [hown] at h
      obtain ⟨rest, hrest, h⟩ := bind_eq_ok.mp h
      exact bind_eq_ok.mpr ⟨rest, ih hrest, h⟩

/-- A namespace that is the same but for its seal gets the same entries. -/
theorem assignOne_of_eq_ok {r s : Registry} {done : Assigned} {id : NamespaceId}
    {es : List (Name × String)} (h : r.assignOne done id = .ok es)
    (hlabel : (s.lookup id).label = (r.lookup id).label)
    (hmembers : (s.lookup id).members = (r.lookup id).members)
    (hforbidden : (s.lookup id).forbidden = (r.lookup id).forbidden) :
    s.assignOne done id = .ok es := by
  obtain ⟨taken, htaken, hes⟩ := bind_eq_ok.mp h
  have hentries : (s.lookup id).entries taken = (r.lookup id).entries taken := by
    simp only [Namespace.entries, hlabel, hmembers]
  rw [assignOne, hlabel, hforbidden]
  exact bind_eq_ok.mpr ⟨taken, forbiddenTexts_of_eq_ok htaken s, hentries.trans hes⟩

/-- An order that was assigned can be assigned again where its namespaces have kept their labels,
their members and what they forbid, and gives the same assignment. -/
theorem assign_of_same {r s : Registry} {order : List NamespaceId} {a : Assignment}
    (h : (r.assign order).2 = .ok a)
    (hlabel : ∀ id ∈ order, (s.lookup id).label = (r.lookup id).label)
    (hmembers : ∀ id ∈ order, (s.lookup id).members = (r.lookup id).members)
    (hforbidden : ∀ id ∈ order, (s.lookup id).forbidden = (r.lookup id).forbidden) :
    (s.assign order).2 = .ok a := by
  obtain ⟨all, rfl, hbuilt, hids⟩ :=
    exists_of_assignFrom (r := r) (fun _ _ => rfl) (show Assigned.Built r [] from trivial) h
  rw [List.map_nil, List.append_nil] at hids
  have horder : ∀ id ∈ all.map (·.1), id ∈ order := by
    intro id hid
    rw [hids, List.mem_reverse] at hid
    exact List.mem_eraseDups.mp hid
  have hagain : Assigned.Built s all := by
    clear hids h
    induction all with
    | nil => trivial
    | cons last done ih =>
      obtain ⟨id, es⟩ := last
      rw [List.map_cons, List.forall_mem_cons] at horder
      exact ⟨assignOne_of_eq_ok hbuilt.1 (hlabel id horder.1) (hmembers id horder.1)
        (hforbidden id horder.1), ih hbuilt.2 horder.2⟩
  rw [assign_of_built hagain hids]

/-- An assignment that succeeds has sealed the namespaces of its order. -/
theorem lookup_assign {r : Registry} {order : List NamespaceId} {a : Assignment}
    (h : (r.assign order).2 = .ok a) {id : NamespaceId} (hid : id ∈ order)
    (hexists : id < r.namespaces.length) :
    (r.assign order).1.lookup id = { r.lookup id with sealed := true } := by
  obtain ⟨before, _, -, -, ⟨hall, hrun⟩ | ⟨_, _, fault, -, -, hrun⟩⟩ := r.assign_cases order
  · have hmem : before.contains id = true := by
      rw [List.contains_iff_mem, ← hall]
      exact List.mem_eraseDups.mpr hid
    rw [hrun, lookup_sealing r before hexists, hmem, Bool.or_true]
  · rw [hrun] at h
    cases h

/-- Whatever operations were run, a name is once in the namespace that its record tells, and in no
other; adding a name changes nothing when it fails; and a sealed namespace keeps its members in all
later operations.  An assignment that succeeded succeeds again after any later operations that leave
the namespaces of its order what they forbid, and is the same. -/
theorem members_kept (before later : List Operation)
    (hbefore : Operation.PossibleAll before empty) :
    let r := Operation.runAll before empty
    let record := Operation.noteAll before empty fun _ => none
    (∀ n id, (r.lookup id).members.count n = if record n = some id then 1 else 0) ∧
    (∀ n, r.owner? n = (record n).map r.lookup) ∧
    (∀ id n fault, r.add id n = .error fault →
      (Operation.add id n).run r = .failed r fault ∧
        (Operation.add id n).note r record = record) ∧
    (∀ id, (r.lookup id).sealed = true →
      ((Operation.runAll later r).lookup id).members = (r.lookup id).members) ∧
    ∀ order a, (Operation.assign order).Possible r → (r.assign order).2 = .ok a →
      (∀ id ∈ order, ∀ ids, .forbid id ids ∉ later) →
      ((Operation.runAll later (r.assign order).1).assign order).2 = .ok a := by
  intro r record
  have hnone : Tells (fun _ => none) empty := fun _ _ => rfl
  have htells : Tells record r := hnone.runAll hbefore
  refine ⟨htells, htells.owner?_eq, fun id n fault hadd => ?_,
    fun id hsealed => (Operation.keepsSealed_runAll later hsealed).members,
    fun order a hpossible hassign hlater => ?_⟩
  · rw [Operation.run, Operation.note, hadd]
    exact ⟨rfl, rfl⟩
  · -- The assignment has sealed its namespaces, and what is sealed is kept.
    have hkept : ∀ id ∈ order,
        KeepsSealed id (r.assign order).1 (Operation.runAll later (r.assign order).1) := by
      intro id hid
      refine Operation.keepsSealed_runAll later ?_
      rw [lookup_assign hassign hid (hpossible id hid)]
    refine assign_of_same hassign (fun id hid => ?_) (fun id hid => ?_) fun id hid => ?_
    · rw [(hkept id hid).label, lookup_assign hassign hid (hpossible id hid)]
    · rw [(hkept id hid).members, lookup_assign hassign hid (hpossible id hid)]
    · have hexists : id < (r.assign order).1.namespaces.length := by
        rw [← Operation.state_run_assign]
        exact (hpossible id hid).trans_le (Operation.length_le_run _ r)
      have hstays : ∀ op ∈ later, ∀ ids, op ≠ .forbid id ids := by
        rintro op hop ids rfl
        exact hlater id hid ids hop
      rw [Operation.forbidden_runAll hexists hstays,
        lookup_assign hassign hid (hpossible id hid)]

/-- Names that are taken or come too late are refused, and a later order that fails half-way changes
nothing for the first one. -/
theorem members_kept_refusals :
    let before := [.create "keywords" [], .create "types" [0], .name ⟨1, "Point", false⟩,
      .add 0 ⟨0, "class", true⟩, .add 1 ⟨1, "Point", false⟩, .add 0 ⟨1, "Point", false⟩,
      .add 1 ⟨2, "class", false⟩]
    let later := [.add 1 ⟨3, "x", false⟩, .create "other" [1], .add 2 ⟨3, "x", false⟩,
      .assign [0, 2, 1], .forbid 2 [], .assign [2], .close 1]
    let r := Operation.runAll before empty
    Operation.PossibleAll before empty ∧
    r.add 0 ⟨1, "Point", false⟩ = .error (.nameTaken ⟨1, "Point", false⟩ "types") ∧
    ∃ a, (r.assign [0, 1, 0]).2 = .ok a ∧
      a.get? ⟨1, "Point", false⟩ = some "Point" ∧ a.get? ⟨2, "class", false⟩ = some "class2" ∧
      ((Operation.runAll later (r.assign [0, 1, 0]).1).assign [0, 1, 0]).2 = .ok a := by
  intro before later r
  let a : Assignment := ⟨[(⟨2, "class", false⟩, "class2"), (⟨1, "Point", false⟩, "Point"),
    (⟨0, "class", true⟩, "class")]⟩
  have hpossible : Operation.PossibleAll before empty := by decide
  have hassign : (r.assign [0, 1, 0]).2 = .ok a := by cbv
  obtain ⟨-, -, -, -, hagain⟩ := members_kept before later hpossible
  exact ⟨hpossible, by cbv, a, hassign, by cbv, by cbv,
    hagain [0, 1, 0] a (by decide) hassign (by simp [later])⟩

end Registry

end SourceLayout
