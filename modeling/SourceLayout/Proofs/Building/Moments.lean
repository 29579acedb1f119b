import Mathlib.Data.List.Induction
import SourceLayout.Proofs.Building.Calls

/-! The moments of a run, and where its blank lines come from.  A run that fails nowhere is a chain
of moments: actions, and regions that are opened and closed.  A content takes a blank line along
exactly if one was asked for since the content before it, at a time when there was output already.
However often it was asked for, and whatever happened since, it is one blank line; and no other moment
writes one. -/

namespace SourceLayout

/-- What happens at a moment of a run: an action, or a region that is opened or closed. -/
inductive Happening where
  | act (a : Action)
  | opening (mark : Mark)
  | closing (mark : Mark)
deriving Inhabited

namespace Happening

/-- A content is written. -/
def isContent : Happening → Bool
  | .act a => a.isContent
  | .opening _ | .closing _ => false

/-- A line is written, be it an empty one. -/
def isWriting : Happening → Bool
  | .act a => a.isWriting
  | .opening _ | .closing _ => false

/-- After these happenings a blank line is wanted: since the last content one was asked for, when
something was written already. -/
def BlankWanted (hs : List Happening) : Prop :=
  ∃ before after : List Happening, hs = before ++ .act .requestBlank :: after ∧
    (∃ h ∈ before, h.isWriting = true) ∧ ∀ h ∈ after, h.isContent = false

/-- A request is heard only when something was written. -/
theorem BlankWanted.writing {hs : List Happening} (h : BlankWanted hs) :
    ∃ w ∈ hs, w.isWriting = true := by
  obtain ⟨before, after, rfl, ⟨w, hw, hwriting⟩, -⟩ := h
  exact ⟨w, List.mem_append_left _ hw, hwriting⟩

/-- The flags after something has happened. -/
def flagsAfter (flags : Flags) : Happening → Flags
  | .act a => a.flagsAfter flags
  | .opening _ | .closing _ => flags

/-- There is output when there was, or when a line is written. -/
theorem hasOutput_flagsAfter (h : Happening) (flags : Flags) :
    (h.flagsAfter flags).hasOutput = (flags.hasOutput || h.isWriting) := by
  cases h with
  | opening mark | closing mark => exact (Bool.or_false _).symm
  | act a =>
    cases a with
    | line v | emptyLine => exact (Bool.or_true _).symm
    | requestBlank =>
      cases hout : flags.hasOutput <;>
        simp [flagsAfter, Action.flagsAfter, hout, isWriting, Action.isWriting]
    | shift _ | probe | divert | finish | write _ | fail _ => exact (Bool.or_false _).symm

/-- A blank line is wanted after one more happening if that asks for it when something was written,
or if it was wanted before and no content has taken it along. -/
theorem blankWanted_append_singleton (hs : List Happening) (h : Happening) :
    BlankWanted (hs ++ [h]) ↔
      (h = .act .requestBlank ∧ ∃ w ∈ hs, w.isWriting = true) ∨
        (h.isContent = false ∧ BlankWanted hs) := by
  constructor
  · rintro ⟨before, after, hsplit, houtput, hquiet⟩
    rcases List.eq_nil_or_concat after with rfl | ⟨after, last, rfl⟩
    · obtain ⟨rfl, hlast⟩ := List.append_inj' hsplit rfl
      exact .inl ⟨(List.cons.inj hlast).1, houtput⟩
    · have hcut : hs ++ [h] = (before ++ .act .requestBlank :: after) ++ [last] := by
        simpa using hsplit
      obtain ⟨rfl, hlast⟩ := List.append_inj' hcut rfl
      obtain rfl := (List.cons.inj hlast).1
      rw [List.concat_eq_append, List.forall_mem_append] at hquiet
      exact .inr ⟨hquiet.2 h (List.mem_singleton_self h), before, after, rfl, houtput, hquiet.1⟩
  · rintro (⟨rfl, houtput⟩ | ⟨hcontent, before, after, rfl, houtput, hquiet⟩)
    · exact ⟨hs, [], rfl, houtput, fun _ h => (List.not_mem_nil h).elim⟩
    · refine ⟨before, after ++ [h], by simp, houtput, ?_⟩
      rw [List.forall_mem_append, List.forall_mem_singleton]
      exact ⟨hquiet, hcontent⟩

/-- The flags tell whether something was written, and whether a blank line is wanted. -/
theorem flags_foldl (hs : List Happening) :
    ((hs.foldl flagsAfter {}).hasOutput = true ↔ ∃ h ∈ hs, h.isWriting = true) ∧
      ((hs.foldl flagsAfter {}).blankWanted = true ↔ BlankWanted hs) := by
  induction hs using List.reverseRecOn with
  | nil => simp [BlankWanted]
  | append_singleton hs h ih =>
    obtain ⟨houtput, hwanted⟩ := ih
    have hheard : BlankWanted hs → ∃ w ∈ hs, w.isWriting = true := BlankWanted.writing
    have hmore : (∃ w ∈ hs ++ [h], w.isWriting = true) ↔
        (∃ w ∈ hs, w.isWriting = true) ∨ h.isWriting = true := by
      simp only [List.mem_append, List.mem_singleton, or_and_right, exists_or, exists_eq_left]
    rw [List.foldl_append, List.foldl_cons, List.foldl_nil, blankWanted_append_singleton, hmore]
    generalize hs.foldl flagsAfter {} = flags at houtput hwanted ⊢
    generalize (∃ w ∈ hs, w.isWriting = true) = output at houtput hheard ⊢
    generalize BlankWanted hs = wanted at hwanted hheard ⊢
    cases h with
    | opening mark | closing mark =>
      simp [flagsAfter, isWriting, isContent, houtput, hwanted]
    | act a =>
      cases a with
      | line v | emptyLine =>
        simp [flagsAfter, Action.flagsAfter, isWriting, Action.isWriting, isContent,
          Action.isContent, hwanted]
      | requestBlank =>
        rw [flagsAfter, Action.flagsAfter]
        split
        · next hout => simp [isWriting, Action.isWriting, houtput.mp hout, hout]
        · next hout =>
          have hnone : ¬output := fun ho => hout (houtput.mpr ho)
          simp [isWriting, Action.isWriting, isContent, Action.isContent, houtput, hwanted,
            hnone]
      | shift _ | probe | divert | finish | write _ | fail _ =>
        simp [flagsAfter, Action.flagsAfter, isWriting, Action.isWriting, isContent,
          Action.isContent, houtput, hwanted]

end Happening

/-! ### Moments -/

/-- A moment of a run: what happens, and the builder before and after it. -/
structure Moment where
  what : Happening
  before : Builder
  after : Builder

namespace Move

mutual

/-- The moments of a move that does not fail, in order. -/
def moments (names : Assignment) : Move → Session → List Moment
  | .act a, s => [⟨.act a, s.builder, (a.run names s).state.builder⟩]
  | .region mark body, s =>
    ⟨.opening mark, s.builder, s.openRegion.builder⟩ ::
      (momentsOf names body s.openRegion ++
        [⟨.closing mark, (runAll names body s.openRegion).state.builder,
          (run names (.region mark body) s).state.builder⟩])

/-- The moments of moves that do not fail, in order. -/
def momentsOf (names : Assignment) : List Move → Session → List Moment
  | [], _ => []
  | m :: ms, s => moments names m s ++ momentsOf names ms (run names m s).state

end

end Move

namespace Moment

/-- What happens leads from the builder before to the builder after, without a fault. -/
def Proper (names : Assignment) (m : Moment) : Prop :=
  match m.what with
  | .act a => ∃ s : Session, s.builder = m.before ∧ (a.run names s).fault = none ∧
      (a.run names s).state.builder = m.after
  | .opening _ => m.after = m.before.openRegion
  | .closing mark => ∃ depth, m.before.closeRegion mark depth = .done m.after

/-- Moments that lead from one builder to another, each of them to where the next one begins. -/
inductive Chain (names : Assignment) : Builder → List Moment → Builder → Prop
  | nil (b : Builder) : Chain names b [] b
  | cons {m : Moment} {ms : List Moment} {c : Builder} (first : m.Proper names)
      (rest : Chain names m.after ms c) : Chain names m.before (m :: ms) c

variable {names : Assignment}

namespace Chain

variable {b c d : Builder} {ms ns : List Moment}

theorem append (h1 : Chain names b ms c) (h2 : Chain names c ns d) :
    Chain names b (ms ++ ns) d := by
  induction h1 with
  | nil => exact h2
  | cons first _ ih => exact .cons first (ih h2)

theorem singleton {m : Moment} (h : m.Proper names) : Chain names m.before [m] m.after :=
  .cons h (.nil _)

/-- A chain that goes on with a moment leads up to the builder before it. -/
theorem of_append_cons {m : Moment} (h : Chain names b (ms ++ m :: ns) c) :
    Chain names b ms m.before ∧ m.Proper names := by
  induction ms generalizing b with
  | nil =>
    cases h with
    | cons first _ => exact ⟨.nil _, first⟩
  | cons n ms ih =>
    cases h with
    | cons first rest => exact ⟨.cons first (ih rest).1, (ih rest).2⟩

end Chain

/-- The borders of a region change neither the line breaks nor the flags. -/
theorem Proper.border {m : Moment} (h : m.Proper names) (hborder : ∀ a, m.what ≠ .act a) :
    m.after.arena = m.before.arena ∧ m.after.flags = m.before.flags := by
  obtain ⟨what, before, after⟩ := m
  cases what with
  | act a => exact absurd rfl (hborder a)
  | opening mark =>
    obtain rfl : after = before.openRegion := h
    exact ⟨rfl, rfl⟩
  | closing mark =>
    obtain ⟨depth, hclose⟩ := h
    have hfault : (before.closeRegion mark depth).fault = none := by rw [hclose]; rfl
    obtain ⟨_, _, -, -, hdone⟩ := Builder.closeRegion_of_fault hfault
    obtain rfl := congrArg Outcome.state (hclose.symm.trans hdone)
    exact ⟨rfl, rfl⟩

/-- A moment changes the flags by what happens. -/
theorem Proper.flags {m : Moment} (h : m.Proper names) :
    m.after.flags = m.what.flagsAfter m.before.flags := by
  obtain ⟨what, before, after⟩ := m
  cases what with
  | act a =>
    obtain ⟨s, rfl, hrun, rfl⟩ := h
    by_cases hdivert : a = .divert
    · subst hdivert
      rfl
    · exact (Grows.action hdivert hrun).flags
  | opening mark | closing mark => exact (h.border (by simp)).2

theorem Chain.flags {b c : Builder} {ms : List Moment} (h : Chain names b ms c) :
    c.flags = (ms.map what).foldl Happening.flagsAfter b.flags := by
  induction h with
  | nil => rfl
  | cons first _ ih => rw [ih, first.flags, List.map_cons, List.foldl_cons]

end Moment

/-- Moves that fail nowhere are a chain of moments. -/
theorem Move.chain_momentsOf {names : Assignment} {ms : List Move} {s : Session}
    (h : (runAll names ms s).fault = none) :
    Moment.Chain names s.builder (momentsOf names ms s) (runAll names ms s).state.builder := by
  induction ms using listInduction generalizing s with
  | nil => exact .nil _
  | act a ms ih =>
    rw [runAll, Outcome.fault_andThen_eq_none] at h
    rw [momentsOf, runAll, Outcome.andThen_of_fault h.1]
    have hact : Moment.Proper names ⟨.act a, s.builder, (a.run names s).state.builder⟩ :=
      ⟨s, rfl, h.1, rfl⟩
    exact (Moment.Chain.singleton hact).append (ih h.2)
  | region mark body ms ihBody ih =>
    rw [runAll, Outcome.fault_andThen_eq_none] at h
    obtain ⟨hregion, hrest⟩ := h
    rw [momentsOf, runAll, Outcome.andThen_of_fault hregion]
    rw [run, Outcome.fault_andThen_eq_none] at hregion
    have hopen : Moment.Proper names ⟨.opening mark, s.builder, s.openRegion.builder⟩ := rfl
    have hclose : Moment.Proper names ⟨.closing mark,
        (runAll names body s.openRegion).state.builder,
        (run names (.region mark body) s).state.builder⟩ := by
      obtain ⟨outer, suspended, -, -, hdone⟩ := Builder.closeRegion_of_fault hregion.2
      refine ⟨s.builder.depth, ?_⟩
      rw [run, Outcome.andThen_of_fault hregion.1, Session.onBuilder, hdone]
      rfl
    have hwhole := Moment.Chain.cons hopen ((ihBody hregion.1).append (.singleton hclose))
    exact hwhole.append (ih hrest)

/-! ### Line breaks -/

namespace Moment

variable {names : Assignment}

/-- An action other than turning the output away adds what it emits. -/
theorem Proper.grows {m : Moment} (h : m.Proper names) {a : Action} (hwhat : m.what = .act a)
    (hstay : a ≠ .divert) :
    Grows m.before ((a.emissions m.before.flags).map .single) (a.flagsAfter m.before.flags)
      m.after := by
  obtain ⟨what, before, after⟩ := m
  subst hwhat
  obtain ⟨s, rfl, hrun, rfl⟩ := h
  exact Grows.action hstay hrun

/-- A moment that writes no line writes no line break. -/
theorem Proper.size_of_not_writing {m : Moment} (h : m.Proper names)
    (hquiet : m.what.isWriting = false) : m.after.arena.size = m.before.arena.size := by
  obtain ⟨what, before, after⟩ := m
  cases what with
  | act a =>
    by_cases hdivert : a = .divert
    · subst hdivert
      obtain ⟨s, rfl, -, rfl⟩ := h
      rfl
    · have hnone : Emission.breaksOf (a.emissions before.flags) = 0 := by
        cases a with
        | line _ | emptyLine => cases hquiet
        | requestBlank | shift _ | probe | divert | finish | write _ | fail _ => rfl
      rw [(h.grows rfl hdivert).arena, Emitted.flattenAll_map_single, Emission.size_foldl_onArena,
        hnone, Nat.add_zero]
  | opening mark | closing mark => exact congrArg LineArena.size (h.border (by simp)).1

/-- A content adds its item, after an empty line if a blank line was wanted. -/
theorem Proper.grows_line {m : Moment} (h : m.Proper names) {v : Value}
    (hwhat : m.what = .act (.line v)) :
    ∃ item, v.toFragment = .ok item ∧
      Grows m.before (if m.before.flags.blankWanted
        then [.single .emptyLine, .single (.line item)] else [.single (.line item)])
        ⟨true, false⟩ m.after := by
  have hgrows := h.grows hwhat (by simp)
  obtain ⟨what, before, after⟩ := m
  subst hwhat
  obtain ⟨s, rfl, hrun, -⟩ := h
  obtain ⟨item, hitem, -⟩ := Builder.lineOf_of_fault (b := s.builder) hrun
  refine ⟨item, hitem, ?_⟩
  rw [Action.emissions, hitem] at hgrows
  cases hwanted : s.builder.flags.blankWanted <;>
    simpa [hwanted, Action.flagsAfter] using hgrows

/-- A moment that writes a line writes a line break. -/
theorem Proper.size_pos_of_writing {m : Moment} (h : m.Proper names)
    (hwriting : m.what.isWriting = true) : 0 < m.after.arena.size := by
  obtain ⟨what, before, after⟩ := m
  cases what with
  | opening mark | closing mark => cases hwriting
  | act a =>
    cases a with
    | line v =>
      obtain ⟨item, -, hgrows⟩ := h.grows_line rfl
      rw [hgrows.arena, Emission.size_foldl_onArena]
      cases before.flags.blankWanted <;>
        simp [Emitted.flattenAll, Emitted.flatten, Emission.breaks]
    | emptyLine =>
      have hgrows := h.grows rfl (by simp)
      rw [hgrows.arena, Emission.size_foldl_onArena]
      simp [Action.emissions, Emitted.flattenAll, Emitted.flatten, Emission.breaks]
    | requestBlank | shift _ | probe | divert | finish | write _ | fail _ => cases hwriting

/-- Where there is output there is a line break, if that is so at the start. -/
theorem Chain.size_pos {b c : Builder} {ms : List Moment} (h : Chain names b ms c)
    (hstart : b.flags.hasOutput = true → 0 < b.arena.size) :
    c.flags.hasOutput = true → 0 < c.arena.size := by
  induction h with
  | nil => exact hstart
  | @cons m ms c first rest ih =>
    refine ih fun houtput => ?_
    cases hwriting : m.what.isWriting with
    | true => exact first.size_pos_of_writing hwriting
    | false =>
      rw [first.flags, Happening.hasOutput_flagsAfter, hwriting, Bool.or_false] at houtput
      rw [first.size_of_not_writing hwriting]
      exact hstart houtput

end Moment

/-! ### Blank lines -/

namespace Step

open Happening (BlankWanted)

/-- As long as nothing was written no blank line is wanted. -/
theorem not_wanted_of_isEmpty {names : Assignment} {steps : List Step}
    (hrun : (runAll names steps .fresh).fault = none)
    (hempty : (runAll names steps .fresh).state.builder.isEmpty = true) :
    (runAll names steps .fresh).state.builder.blankWanted = false := by
  rw [runAll_eq_runAll_moves] at hrun hempty ⊢
  obtain ⟨houtput, hwanted⟩ := Happening.flags_foldl
    ((Move.momentsOf names (movesOf steps) .fresh).map Moment.what)
  have hflags : (Move.runAll names (movesOf steps) .fresh).state.builder.flags =
      ((Move.momentsOf names (movesOf steps) .fresh).map Moment.what).foldl
        Happening.flagsAfter {} := (Move.chain_momentsOf hrun).flags
  rw [← hflags] at houtput hwanted
  rw [Builder.isEmpty, Bool.not_eq_true'] at hempty
  rw [← Bool.not_eq_true]
  intro hblank
  have hsome := houtput.mpr (hwanted.mp hblank).writing
  exact Bool.false_ne_true (hempty.symm.trans hsome)

/-- A program that runs without a fault on a fresh builder is a chain of moments.  A content is
written after an empty line if a blank line was asked for, since the content before it and when
something was written already; there are line breaks before that empty line then.  Without such a
request it is written without one.  An empty line is written alone, and no other moment writes a
line break, be it a request, a change of indentation, or the border of a region. -/
theorem blank_lines_collapse {names : Assignment} {steps : List Step}
    (hrun : (runAll names steps .fresh).fault = none) :
    let moments := Move.momentsOf names (movesOf steps) .fresh
    Moment.Chain names .fresh moments (runAll names steps .fresh).state.builder ∧
    ∀ (earlier : List Moment) (m : Moment) (later : List Moment),
      moments = earlier ++ m :: later →
      (∀ v, m.what = .act (.line v) → ∃ item, v.toFragment = .ok item ∧
        (BlankWanted (earlier.map Moment.what) → 0 < m.before.arena.size ∧
          Grows m.before [.single .emptyLine, .single (.line item)] ⟨true, false⟩ m.after) ∧
        (¬BlankWanted (earlier.map Moment.what) →
          Grows m.before [.single (.line item)] ⟨true, false⟩ m.after)) ∧
      (m.what = .act .emptyLine →
        Grows m.before [.single .emptyLine] { m.before.flags with hasOutput := true } m.after) ∧
      (m.what.isWriting = false → m.after.arena.size = m.before.arena.size) := by
  intro moments
  have hchain : Moment.Chain names .fresh moments (runAll names steps .fresh).state.builder := by
    rw [runAll_eq_runAll_moves] at hrun ⊢
    exact Move.chain_momentsOf hrun
  refine ⟨hchain, fun earlier m later hsplit => ?_⟩
  rw [hsplit] at hchain
  obtain ⟨hbefore, hproper⟩ := hchain.of_append_cons
  obtain ⟨houtput, hwanted⟩ := Happening.flags_foldl (earlier.map Moment.what)
  have hflags : m.before.flags = (earlier.map Moment.what).foldl Happening.flagsAfter {} :=
    hbefore.flags
  rw [← hflags] at houtput hwanted
  refine ⟨fun v hv => ?_, fun hempty => hproper.grows hempty (by simp), hproper.size_of_not_writing⟩
  obtain ⟨item, hitem, hgrows⟩ := hproper.grows_line hv
  refine ⟨item, hitem, fun hblank => ⟨?_, ?_⟩, fun hblank => ?_⟩
  · exact hbefore.size_pos nofun (houtput.mpr hblank.writing)
  · rwa [if_pos (hwanted.mpr hblank)] at hgrows
  · rwa [if_neg fun h => hblank (hwanted.mp h)] at hgrows

/-- Requests before any output, also after an empty region, are not heard.  A bare line break, a
change of indentation and the borders of regions leave a request standing. -/
theorem blank_lines_collapse_nested :
    let steps := [requestBlank, region .plain [], requestBlank, line [.str "a"],
      each true true [[requestBlank, line []],
        [shift 1, region (.issue "m") [region .plain [], line [.str "b"]]]], requestBlank]
    let moments := Move.momentsOf .empty (movesOf steps) .fresh
    (runAll .empty steps .fresh).fault = none ∧ moments.length = 16 ∧
    (∃ m : Moment, moments[4]? = some m ∧ m.what = .act (.line (.list [.str "a"])) ∧
      Grows m.before ([.single (.line (.text "a"))] : List Emitted) ⟨true, false⟩ m.after) ∧
    ∃ m : Moment, moments[13]? = some m ∧ m.what = .act (.line (.list [.str "b"])) ∧
      Grows m.before ([.single .emptyLine, .single (.line (.text "b"))] : List Emitted)
        ⟨true, false⟩ m.after := by
  intro steps moments
  have hrun : (runAll .empty steps .fresh).fault = none := by cbv
  have hlength : moments.length = 16 := by cbv
  have hfirst : (moments.take 4).map Moment.what =
      [.act .requestBlank, .opening .plain, .closing .plain, .act .requestBlank] := by cbv
  have hsecond : (moments.take 13).map Moment.what =
      [.act .requestBlank, .opening .plain, .closing .plain, .act .requestBlank,
        .act (.line (.list [.str "a"])), .act .requestBlank, .act .requestBlank, .act .emptyLine,
        .act .requestBlank, .act (.shift 1), .opening (.issue "m"), .opening .plain,
        .closing .plain] := by cbv
  obtain ⟨-, hmoments⟩ := blank_lines_collapse hrun
  have hsplit (k : Nat) (hk : k < moments.length) :
      moments = moments.take k ++ moments[k] :: moments.drop (k + 1) := by
    rw [List.getElem_cons_drop, List.take_append_drop]
  have hfour : 4 < moments.length := by omega
  have hthirteen : 13 < moments.length := by omega
  have ha : (moments[4] : Moment).what = .act (.line (.list [.str "a"])) := by cbv
  have hb : (moments[13] : Moment).what = .act (.line (.list [.str "b"])) := by cbv
  refine ⟨hrun, hlength, ⟨_, List.getElem?_eq_getElem hfour, ha, ?_⟩,
    ⟨_, List.getElem?_eq_getElem hthirteen, hb, ?_⟩⟩
  · obtain ⟨item, hitem, -, halone⟩ := (hmoments _ _ _ (hsplit 4 hfour)).1 _ ha
    rw [Value.toFragment_singleton, Value.toFragment_str] at hitem
    obtain rfl := Except.ok.inj hitem
    refine halone fun hblank => ?_
    obtain ⟨w, hmem, hwriting⟩ := hblank.writing
    rw [hfirst] at hmem
    simp only [List.mem_cons, List.not_mem_nil, or_false] at hmem
    rcases hmem with rfl | rfl | rfl | rfl <;> cases hwriting
  · obtain ⟨item, hitem, hafter, -⟩ := (hmoments _ _ _ (hsplit 13 hthirteen)).1 _ hb
    rw [Value.toFragment_singleton, Value.toFragment_str] at hitem
    obtain rfl := Except.ok.inj hitem
    refine (hafter ?_).2
    rw [hsecond]
    exact ⟨[.act .requestBlank, .opening .plain, .closing .plain, .act .requestBlank,
      .act (.line (.list [.str "a"])), .act .requestBlank, .act .requestBlank, .act .emptyLine],
      [.act (.shift 1), .opening (.issue "m"), .opening .plain, .closing .plain], rfl,
      ⟨.act (.line (.list [.str "a"])), by simp, rfl⟩,
      by simp [Happening.isContent, Action.isContent]⟩

end Step

end SourceLayout
