import SourceLayout.Proofs.Building.Journal
import SourceLayout.Proofs.Fragment.Resolving

/-! What a tree holds that is finished after any events.  A write target that is left by a fault
stays below all later ones, so that no tree is finished after it.  A tree that is finished holds all
that was appended before. -/

namespace SourceLayout

/-! ### What trees hold -/

/-- The trees hold pieces in order, each of them settled as a tree of its own, here or inside of a
marked region. -/
inductive Holds (settled : Tree → Tree → Prop) : List Tree → List Tree → Prop
  | nil : Holds settled [] []
  | piece {f g : Tree} {fs gs : List Tree} (first : settled f g) (rest : Holds settled fs gs) :
      Holds settled (f :: fs) (g :: gs)
  | region {inner inside fs gs : List Tree} (mark : Mark) (within : Holds settled inner inside)
      (rest : Holds settled fs gs) :
      Holds settled (inner ++ fs) (.marked mark (.ofList inside) :: gs)

namespace Holds

variable {settled : Tree → Tree → Prop} {fs gs hs ks : List Tree}

theorem append (h1 : Holds settled fs gs) (h2 : Holds settled hs ks) :
    Holds settled (fs ++ hs) (gs ++ ks) := by
  induction h1 with
  | nil => exact h2
  | piece first rest ih => exact .piece first ih
  | region mark within rest _ ih =>
    rw [List.append_assoc]
    exact .region mark within ih

theorem refl (fs : List Tree) : Holds Eq fs fs := by
  induction fs with
  | nil => exact .nil
  | cons f fs ih => exact .piece rfl ih

/-- Resolving trees resolves the pieces that they hold. -/
theorem resolve {a : LineArena} (h : Holds Eq fs gs) (hresolve : a.resolveAll gs = .ok hs) :
    Holds (fun f g => a.resolve f = .ok g) fs hs := by
  induction h generalizing hs with
  | nil =>
    cases hresolve
    exact .nil
  | piece first rest ih =>
    obtain ⟨g, others, hg, hothers, rfl⟩ := LineArena.resolveAll_cons_eq_ok.mp hresolve
    subst first
    exact .piece hg (ih hothers)
  | region mark within rest ihWithin ih =>
    obtain ⟨g, others, hg, hothers, rfl⟩ := LineArena.resolveAll_cons_eq_ok.mp hresolve
    obtain ⟨inside, hinside, rfl⟩ := LineArena.resolve_marked_ofList_eq_ok hg
    exact .region mark (ihWithin hinside) (ih hothers)

end Holds

/-! ### Where events lead -/

namespace Builder

/-- A region is closed when it is the one that was opened at its depth, and is left as it is
otherwise. -/
theorem closeRegion_cases (mark : Mark) (depth : Nat) (b : Builder) :
    (∃ outer rest, b.suspended = outer :: rest ∧ rest.length = depth ∧
      b.closeRegion mark depth = .done { b with
        current := .marked mark (.ofList b.current.reverse) :: outer, suspended := rest }) ∨
    b.closeRegion mark depth = .failed b .targetNotRestored := by
  unfold closeRegion
  cases b.suspended with
  | nil => exact .inr rfl
  | cons outer rest =>
    by_cases hdepth : rest.length = depth
    · exact .inl ⟨outer, rest, rfl, hdepth, if_pos hdepth⟩
    · exact .inr (if_neg hdepth)

/-- Closing a region leaves, marked, what was added to its write target. -/
theorem closeRegion_of_added {b c : Builder} {added : List Tree} (mark : Mark)
    (hsuspended : c.suspended = b.openRegion.suspended)
    (hcurrent : c.current = added.reverse ++ b.openRegion.current) :
    c.closeRegion mark b.depth = .done { c with
      current := .marked mark (.ofList added) :: b.current, suspended := b.suspended } := by
  have hopen : c.suspended = b.current :: b.suspended := hsuspended
  have hadded : c.current = added.reverse := hcurrent.trans (List.append_nil _)
  simp only [closeRegion, hopen, hadded, depth, if_true, List.reverse_reverse]

/-- A region is not closed while a write target is there that was opened in it. -/
theorem closeRegion_of_deeper {b c : Builder} (mark : Mark)
    (h : b.openRegion.depth < c.depth) :
    c.closeRegion mark b.depth = .failed c .targetNotRestored := by
  rcases c.closeRegion_cases mark b.depth with ⟨outer, rest, hc, hdepth, -⟩ | hfailed
  · have hopen : c.depth = b.depth + 1 := by rw [depth, hc, List.length_cons, hdepth]
    rw [depth_openRegion, hopen] at h
    exact absurd h (Nat.lt_irrefl _)
  · exact hfailed

end Builder

/-- After the events the write target is that of `before` still, with all pieces of the events
added, and no event has stranded the output; or it is one that was opened since. -/
def Leads (before : Builder) (es : List Event) (after : Builder) : Prop :=
  before.depth < after.depth ∨
    (∀ e ∈ es, ¬e.Strands) ∧ after.suspended = before.suspended ∧
      ∃ added, after.current = added.reverse ++ before.current ∧ Holds Eq (Event.pieces es) added

namespace Leads

variable {b c d : Builder} {es fs : List Event}

theorem refl (b : Builder) : Leads b [] b :=
  .inr ⟨fun _ h => (List.not_mem_nil h).elim, rfl, [], rfl, .nil⟩

theorem depth_le (h : Leads b es c) : b.depth ≤ c.depth := by
  rcases h with h | ⟨-, h, -⟩
  · exact Nat.le_of_lt h
  · exact Nat.le_of_eq (congrArg List.length h.symm)

theorem trans (h1 : Leads b es c) (h2 : Leads c fs d) : Leads b (es ++ fs) d := by
  rcases h1 with h1 | ⟨hes, hsuspended, added, hcurrent, hholds⟩
  · exact .inl (Nat.lt_of_lt_of_le h1 h2.depth_le)
  have hdepth : c.depth = b.depth := congrArg List.length hsuspended
  rcases h2 with h2 | ⟨hfs, hsuspended', more, hcurrent', hholds'⟩
  · exact .inl (hdepth ▸ h2)
  refine .inr ⟨?_, hsuspended'.trans hsuspended, added ++ more, ?_, ?_⟩
  · exact List.forall_mem_append.mpr ⟨hes, hfs⟩
  · rw [hcurrent', hcurrent, List.reverse_append, List.append_assoc]
  · rw [Event.pieces_append]
    exact hholds.append hholds'

/-- An action that appends pieces leads to the builder that has gained them. -/
theorem of_adds (h : b.Adds c) : Leads b ((b.gained c).map .appended) c := by
  obtain ⟨new, hnew⟩ := h.current
  refine .inr ⟨?_, h.suspended, new.reverse, by rw [List.reverse_reverse, hnew], ?_⟩
  · intro e he
    obtain ⟨piece, -, rfl⟩ := List.mem_map.mp he
    exact id
  · rw [Event.pieces_map_appended, Builder.gained_of_eq_append hnew.symm]
    exact Holds.refl _

/-- Asking for the tree changes no write target. -/
theorem finish (s : Session) : Leads s.builder [.finishing s.builder] s.finish.state.builder := by
  have hsafe : ∀ e ∈ [Event.finishing s.builder], ¬e.Strands := by
    rw [List.forall_mem_singleton]
    exact id
  obtain ⟨⟨arena, current, suspended, blankWanted, hasOutput, finished⟩, tree, sheet, probes⟩ := s
  cases suspended with
  | nil =>
    simp only [Session.finish, Builder.finish]
    cases arena.resolve (.seq current.reverse) <;> exact .inr ⟨hsafe, rfl, [], rfl, .nil⟩
  | cons outer suspended => exact .inr ⟨hsafe, rfl, [], rfl, .nil⟩

theorem action (names : Assignment) (a : Action) (s : Session) :
    Leads s.builder (a.events names s) (a.run names s).state.builder := by
  by_cases hdivert : a = .divert
  · subst hdivert
    exact .inl (Nat.lt_succ_self _)
  by_cases hfinish : a = .finish
  · subst hfinish
    exact finish s
  rw [Action.events_of_ne hdivert hfinish]
  exact of_adds (.action names hdivert hfinish s)

/-- A region that can be closed has all its pieces in one write target, and leaves them marked in
the one around it. -/
theorem close {mark : Mark} (h : Leads b.openRegion es c)
    (hclose : (c.closeRegion mark b.depth).fault = none) :
    Leads b es (c.closeRegion mark b.depth).state := by
  rcases h with h | ⟨hsafe, hsuspended, added, hcurrent, hholds⟩
  · rw [Builder.closeRegion_of_deeper mark h] at hclose
    cases hclose
  · rw [Builder.closeRegion_of_added mark hsuspended hcurrent]
    refine .inr ⟨hsafe, rfl, [.marked mark (.ofList added)], rfl, ?_⟩
    rw [← List.append_nil (Event.pieces es)]
    exact .region mark hholds .nil

/-- A first move that leads somewhere leads on with the moves after it, unless it fails. -/
theorem cons {names : Assignment} {m : Move} {ms : List Move} {s : Session}
    (h : Leads s.builder (m.events names s) (m.run names s).state.builder)
    (hrest : ∀ t : Session,
      Leads t.builder (Move.eventsOf names ms t) (Move.runAll names ms t).state.builder) :
    Leads s.builder (Move.eventsOf names (m :: ms) s)
      (Move.runAll names (m :: ms) s).state.builder := by
  rw [Move.eventsOf, Move.runAll]
  generalize m.run names s = o at h ⊢
  obtain ⟨t, _ | fault⟩ := o
  · exact h.trans (hrest t)
  · show Leads s.builder (_ ++ []) t.builder
    rw [List.append_nil]
    exact h

/-- A region that is left without a fault adds a marked tree, and one that is left by a fault stays
open. -/
theorem region {names : Assignment} {mark : Mark} {body : List Move} {s : Session}
    (h : Leads s.openRegion.builder (Move.eventsOf names body s.openRegion)
      (Move.runAll names body s.openRegion).state.builder) :
    Leads s.builder (Move.events names (.region mark body) s)
      (Move.run names (.region mark body) s).state.builder := by
  rw [Move.events, Move.run]
  generalize Move.eventsOf names body s.openRegion = es at h ⊢
  generalize Move.runAll names body s.openRegion = o at h ⊢
  obtain ⟨t, _ | fault⟩ := o
  · show Leads s.builder (es ++ Event.ofExit (t.builder.closeRegion mark s.builder.depth).fault)
      (t.builder.closeRegion mark s.builder.depth).state
    cases hclose : (t.builder.closeRegion mark s.builder.depth).fault with
    | none =>
      rw [Event.ofExit, List.append_nil]
      exact close h hclose
    | some fault =>
      rcases t.builder.closeRegion_cases mark s.builder.depth with ⟨_, _, _, _, hdone⟩ | hfailed
      · rw [hdone] at hclose
        cases hclose
      · rw [hfailed]
        exact .inl h.depth_le
  · exact .inl h.depth_le

/-- Moves lead to the builder that they leave behind, whether they fail or not. -/
theorem moves (names : Assignment) (ms : List Move) (s : Session) :
    Leads s.builder (Move.eventsOf names ms s) (Move.runAll names ms s).state.builder := by
  induction ms using Move.listInduction generalizing s with
  | nil => exact refl s.builder
  | act a ms ih => exact cons (action names a s) ih
  | region mark body ms ihBody ih => exact cons (region (ihBody s.openRegion)) ih

/-- Steps lead to the builder that they leave behind, whether they fail or not. -/
theorem steps (names : Assignment) (steps : List Step) (s : Session) :
    Leads s.builder (Step.events names steps s) (Step.attempt names steps s).builder := by
  induction steps generalizing s with
  | nil => exact refl s.builder
  | cons step steps ih =>
    have hstep := moves names step.moves s
    rw [← Step.run_eq_runAll_moves] at hstep
    exact hstep.trans (ih _)

end Leads

/-! ### Where the tree is asked for -/

/-- A part of a list with a member in it is in the first of two lists or goes on into the second. -/
theorem append_eq_append_cons {α : Type} {as bs cs ds : List α} {x : α}
    (h : as ++ bs = cs ++ x :: ds) :
    (∃ rest, as = cs ++ x :: rest) ∨ ∃ more, cs = as ++ more ∧ bs = more ++ x :: ds := by
  rcases List.append_eq_append_iff.mp h with ⟨more, hcs, hbs⟩ | ⟨rest, has, hrest⟩
  · exact .inr ⟨more, hcs, hbs⟩
  · cases rest with
    | nil => exact .inr ⟨[], by rw [has, List.append_nil, List.append_nil], hrest.symm⟩
    | cons y rest =>
      obtain ⟨rfl, -⟩ := List.cons.inj hrest
      exact .inl ⟨rest, has⟩

/-- Wherever among the events the tree of a builder is asked for, the events before lead to that
builder. -/
def Asks (b : Builder) (es : List Event) : Prop :=
  ∀ before c after, es = before ++ .finishing c :: after → Leads b before c

namespace Asks

variable {b c : Builder} {es fs : List Event}

theorem append (h1 : Asks b es) (hleads : Leads b es c) (h2 : Asks c fs) : Asks b (es ++ fs) := by
  intro before d after h
  rcases append_eq_append_cons h with ⟨rest, hes⟩ | ⟨more, rfl, hfs⟩
  · exact h1 before d rest hes
  · exact hleads.trans (h2 more d after hfs)

theorem of_notMem (h : ∀ c, .finishing c ∉ es) : Asks b es := by
  rintro before c after rfl
  exact absurd (List.mem_append_right before List.mem_cons_self) (h c)

theorem action (names : Assignment) (a : Action) (s : Session) :
    Asks s.builder (a.events names s) := by
  by_cases hdivert : a = .divert
  · subst hdivert
    exact of_notMem fun c h => nomatch List.mem_singleton.mp h
  by_cases hfinish : a = .finish
  · subst hfinish
    intro before c after h
    cases before with
    | nil =>
      obtain ⟨h, -⟩ := List.cons.inj h
      cases h
      exact .refl s.builder
    | cons e before => simp [Action.events] at h
  rw [Action.events_of_ne hdivert hfinish]
  refine of_notMem fun c h => ?_
  obtain ⟨piece, -, h⟩ := List.mem_map.mp h
  cases h

/-- Inside of a region the events lead to write targets that were opened since. -/
theorem region {names : Assignment} {mark : Mark} {body : List Move} {s : Session}
    (h : Asks s.openRegion.builder (Move.eventsOf names body s.openRegion)) :
    Asks s.builder (Move.events names (.region mark body) s) := by
  have hinside : Asks s.builder (Move.eventsOf names body s.openRegion) :=
    fun before c after he => .inl (h before c after he).depth_le
  have hleads : Leads s.builder (Move.eventsOf names body s.openRegion)
      (Move.runAll names body s.openRegion).state.builder :=
    .inl (Leads.moves names body s.openRegion).depth_le
  refine hinside.append hleads (of_notMem fun c hc => ?_)
  cases hfault : (Move.run names (.region mark body) s).fault <;>
    simp [hfault, Event.ofExit] at hc

theorem moves (names : Assignment) (ms : List Move) (s : Session) :
    Asks s.builder (Move.eventsOf names ms s) := by
  induction ms using Move.listInduction generalizing s with
  | nil => exact of_notMem fun c => List.not_mem_nil
  | act a ms ih =>
    refine (action names a s).append (Leads.action names a s) ?_
    split
    · exact ih _
    · exact of_notMem fun c => List.not_mem_nil
  | region mark body ms ihBody ih =>
    refine (region (ihBody s.openRegion)).append (Leads.region (.moves names body _)) ?_
    split
    · exact ih _
    · exact of_notMem fun c => List.not_mem_nil

theorem steps (names : Assignment) (steps : List Step) (s : Session) :
    Asks s.builder (Step.events names steps s) := by
  induction steps generalizing s with
  | nil => exact of_notMem fun c => List.not_mem_nil
  | cons step steps ih =>
    have hstep := Leads.moves names step.moves s
    rw [← Step.run_eq_runAll_moves] at hstep
    exact (moves names step.moves s).append hstep (ih _)

end Asks

namespace Step

/-- Whatever steps are run, and however many of them fail: once a region was left by a fault or the
output was turned away, the tree is refused wherever it is asked for, and a tree that is finished
holds in order all that was appended before. -/
theorem finish_holds_pieces {names : Assignment} {steps : List Step} {before after : List Event}
    {b : Builder} (h : events names steps .fresh = before ++ .finishing b :: after) :
    ((∃ e ∈ before, e.Strands) → ∃ fault, b.finish.2 = .error fault ∧ fault.isBreach = true) ∧
    ∀ tree, b.finish.2 = .ok tree → ∃ children, tree = .seq children ∧
      Holds (fun f g => b.arena.resolve f = .ok g) (Event.pieces before) children := by
  have hleads : Leads .fresh before b := Asks.steps names steps .fresh before b after h
  constructor
  · rintro ⟨e, he, hstrands⟩
    have hdepth : 0 < b.depth := by
      rcases hleads with hdepth | ⟨hsafe, -⟩
      · exact hdepth
      · exact absurd hstrands (hsafe e he)
    obtain ⟨outer, rest, hsuspended⟩ := List.exists_cons_of_length_pos hdepth
    exact ⟨.regionOpen, by rw [Builder.finish, hsuspended], rfl⟩
  · intro tree htree
    rcases hleads with hdepth | ⟨-, hsuspended, added, hcurrent, hholds⟩
    · obtain ⟨outer, rest, hopen⟩ := List.exists_cons_of_length_pos hdepth
      rw [Builder.finish, hopen] at htree
      cases htree
    · have hbody : b.current.reverse = added := by
        have hadded : b.current = added.reverse := hcurrent.trans (List.append_nil _)
        rw [hadded, List.reverse_reverse]
      have hresolve : (b.arena.resolveAll added).map .seq = .ok tree := by
        rw [Builder.finish, hsuspended, hbody] at htree
        exact htree
      cases hall : b.arena.resolveAll added with
      | error fault =>
        rw [hall] at hresolve
        cases hresolve
      | ok children =>
        rw [hall] at hresolve
        cases hresolve
        exact ⟨children, rfl, hholds.resolve hall⟩

/-- A line that is refused in an indented body leaves the body's earlier lines in the tree, and one
that is refused in a region leaves no tree. -/
theorem finish_after_refused_line :
    (let steps := [line [.str "a"], indent [line [.str "b"], line [.int 1]],
      region (.issue "m") [line [.str "c"]]]
    ∃ before b, events .empty (steps ++ [finish]) .fresh = before ++ [.finishing b] ∧
      Event.pieces before = [.text "a", .pending 0, .text "b", .pending 1, .text "c", .pending 2] ∧
      ∃ children, b.finish.2 = .ok (.seq children) ∧
        Holds (fun f g => b.arena.resolve f = .ok g)
          [.text "a", .pending 0, .text "b", .pending 1, .text "c", .pending 2] children) ∧
    (let steps := [line [.str "a"], region .plain [line [.str "b"], line [.int 1]],
      line [.str "c"]]
    ∃ before b, events .empty (steps ++ [finish]) .fresh = before ++ [.finishing b] ∧
      .abandoned ∈ before ∧ ∃ fault, b.finish.2 = .error fault ∧ fault.isBreach = true) := by
  constructor
  · intro steps
    have hevents : events .empty (steps ++ [finish]) .fresh = events .empty steps .fresh ++
        [.finishing (attempt .empty steps .fresh).builder] := by rfl
    have hpieces : Event.pieces (events .empty steps .fresh) = [.text "a", .pending 0, .text "b",
        .pending 1, .text "c", .pending 2] := by rfl
    have hfinish : ∃ tree, (attempt .empty steps .fresh).builder.finish.2 = .ok tree := ⟨_, rfl⟩
    obtain ⟨tree, htree⟩ := hfinish
    obtain ⟨children, rfl, hholds⟩ := (finish_holds_pieces hevents).2 tree htree
    rw [hpieces] at hholds
    exact ⟨_, _, hevents, hpieces, children, htree, hholds⟩
  · intro steps
    have hevents : events .empty (steps ++ [finish]) .fresh = events .empty steps .fresh ++
        [.finishing (attempt .empty steps .fresh).builder] := by rfl
    have hleft : .abandoned ∈ events .empty steps .fresh := by
      have hlist : events .empty steps .fresh = [.appended (.text "a"), .appended (.pending 0),
        .appended (.text "b"), .appended (.pending 1), .abandoned, .appended (.text "c"),
        .appended (.pending 2)] := by rfl
      simp [hlist]
    exact ⟨_, _, hevents, hleft, (finish_holds_pieces hevents).1 ⟨_, hleft, trivial⟩⟩

end Step

end SourceLayout
