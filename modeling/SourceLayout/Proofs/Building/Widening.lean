import Mathlib.Data.List.Forall2
import SourceLayout.Proofs.Building.Lockstep

/-! A builder with more line breaks than another.  Its arena has some breaks more, which change
nothing and are not the latest, and its later breaks have numbers that are larger by as many.  What
the two hold may differ as well, as long as it has the same imprint whatever later breaks come to
carry.  Such builders are in lockstep. -/

namespace SourceLayout

/-! ### The imprint of trees with line breaks in an arena -/

namespace LineArena

/-- The imprint of trees whose pending breaks carry the changes of the arena. -/
def imprint (a : LineArena) (names : Assignment) (fs : List Tree) : Except Fault Imprint :=
  (a.resolveAll fs).map fun gs => (gs.map (Fragment.imprint names)).sum

variable (a : LineArena) (names : Assignment)

theorem imprint_nil : a.imprint names [] = .ok 0 := rfl

theorem imprint_cons (f : Tree) (fs : List Tree) :
    a.imprint names (f :: fs) =
      ((a.resolve f).map (Fragment.imprint names)).bind fun o =>
        (a.imprint names fs).map (o + ·) := by
  rw [imprint, imprint, resolveAll]
  cases a.resolve f with
  | error fault => rfl
  | ok g =>
    cases a.resolveAll fs with
    | error fault => rfl
    | ok gs => exact congrArg Except.ok List.sum_cons

theorem imprint_singleton (f : Tree) :
    a.imprint names [f] = (a.resolve f).map (Fragment.imprint names) := by
  rw [imprint_cons, imprint_nil]
  cases a.resolve f with
  | error fault => rfl
  | ok g => exact congrArg Except.ok (add_zero _)

theorem imprint_append (fs gs : List Tree) :
    a.imprint names (fs ++ gs) =
      (a.imprint names fs).bind fun o => (a.imprint names gs).map (o + ·) := by
  induction fs with
  | nil =>
    rw [List.nil_append, imprint_nil]
    cases a.imprint names gs with
    | error fault => rfl
    | ok o => exact congrArg Except.ok (zero_add o).symm
  | cons f fs ih =>
    rw [List.cons_append, imprint_cons, imprint_cons, ih]
    cases a.resolve f with
    | error fault => rfl
    | ok g =>
      cases a.imprint names fs with
      | error fault => rfl
      | ok o =>
        cases a.imprint names gs with
        | error fault => rfl
        | ok p => exact congrArg Except.ok (add_assoc _ o p).symm

theorem imprint_seq (fs : List Tree) : a.imprint names [.seq fs] = a.imprint names fs := by
  rw [imprint_singleton, resolve, imprint]
  cases a.resolveAll fs with
  | error fault => rfl
  | ok gs => exact congrArg Except.ok (Fragment.imprint_seq names gs)

/-- A marked region has the imprint of what it holds, as that of a marked fragment. -/
theorem imprint_marked_ofList (mark : Mark) (fs : List Tree) :
    a.imprint names [.marked mark (.ofList fs)] =
      (a.imprint names fs).map (Imprint.enclose mark) := by
  have hbody : (a.resolve (.ofList fs)).map (Fragment.imprint names) = a.imprint names fs := by
    match fs with
    | [] => rfl
    | [f] => exact (imprint_singleton a names f).symm
    | f :: g :: fs =>
      exact (imprint_singleton a names _).symm.trans (imprint_seq a names (f :: g :: fs))
  rw [imprint_singleton, resolve, ← hbody]
  cases a.resolve (.ofList fs) with
  | error fault => rfl
  | ok g => exact congrArg Except.ok (Fragment.imprint_marked names mark g)

/-- Trees without pending breaks have the same imprint in all arenas. -/
theorem imprint_of_pendings_eq_nil {fs : List Tree} (h : ∀ f ∈ fs, f.pendings = []) :
    a.imprint names fs = .ok (fs.map (Fragment.imprint names)).sum := by
  rw [imprint, resolveAll_eq_map (g := id) fun f hf => resolve_of_pendings_eq_nil (h f hf),
    List.map_id]
  rfl

/-! ### More line breaks -/

/-- The arena with the `later` changes, the latest first, after the `earlier` ones, and with
`extra` breaks between them that change nothing. -/
def widened (extra : Nat) (later earlier : List Int) : LineArena :=
  ⟨later ++ (List.replicate extra 0 ++ earlier)⟩

variable {extra : Nat} {later earlier : List Int}

theorem size_widened :
    (widened extra later earlier).size = later.length + earlier.length + extra := by
  simp only [size, widened, List.length_append, List.length_replicate]
  omega

theorem level_widened :
    (widened extra later earlier).level = (⟨later ++ earlier⟩ : LineArena).level := by
  have hzero : (List.replicate extra (0 : Int)).sum = 0 := by simp
  show (later ++ (List.replicate extra 0 ++ earlier)).sum = (later ++ earlier).sum
  rw [List.sum_append, List.sum_append, List.sum_append, hzero, zero_add]

/-- The changes of the arena with extra breaks, from the first break on. -/
theorem change_widened {i : Nat} (h : i < later.length + earlier.length + extra) :
    (widened extra later earlier).change i =
      .ok ((earlier.reverse ++ (List.replicate extra 0 ++ later.reverse)).getD i 0) := by
  have hsize : i < (widened extra later earlier).size := by rwa [size_widened]
  rw [change_of_lt hsize, widened, List.reverse_append, List.reverse_append, List.reverse_replicate,
    List.append_assoc]

/-- The changes of the arena without extra breaks, from the first break on. -/
theorem change_append {i : Nat} (h : i < later.length + earlier.length) :
    (⟨later ++ earlier⟩ : LineArena).change i =
      .ok ((earlier.reverse ++ later.reverse).getD i 0) :=
  @change_widened 0 later earlier i h

/-- The earlier breaks keep their numbers. -/
theorem change_widened_earlier {i : Nat} (h : i < earlier.length) :
    (widened extra later earlier).change i = (⟨later ++ earlier⟩ : LineArena).change i := by
  have hlen : i < earlier.reverse.length := by rwa [List.length_reverse]
  rw [change_widened (by omega), change_append (by omega), List.getD_append _ _ _ _ hlen,
    List.getD_append _ _ _ _ hlen]

/-- The later breaks have numbers that are larger by the extra ones. -/
theorem change_widened_later {i : Nat} (hi : earlier.length ≤ i)
    (h : i < later.length + earlier.length) :
    (widened extra later earlier).change ((i + extra : Nat) : Int) =
      (⟨later ++ earlier⟩ : LineArena).change i := by
  have hearlier : earlier.reverse.length = earlier.length := List.length_reverse
  have hextra : (List.replicate extra (0 : Int)).length = extra := List.length_replicate
  rw [change_widened (by omega), change_append h, List.getD_append_right _ _ _ _ (by omega),
    List.getD_append_right _ _ _ _ (by omega), List.getD_append_right _ _ _ _ (by omega)]
  congr 2
  omega

/-- The extra breaks change nothing. -/
theorem change_widened_extra {i : Nat} (hi : earlier.length ≤ i)
    (h : i < earlier.length + extra) :
    (widened extra later earlier).change i = .ok 0 := by
  have hearlier : earlier.reverse.length = earlier.length := List.length_reverse
  have hextra : (List.replicate extra (0 : Int)).length = extra := List.length_replicate
  have hzero : i - earlier.reverse.length < extra := by omega
  rw [change_widened (by omega), List.getD_append_right _ _ _ _ (by omega),
    List.getD_append _ _ _ _ (by omega), List.getD_replicate _ hzero]

end LineArena

open LineArena (widened)

/-- The trees `gs` in the arena with extra breaks have the imprint of the trees `fs` in the arena
without them, whatever the later changes are, once there are `size` breaks at least. -/
def SameImprints (extra : Nat) (earlier : List Int) (size : Nat) (fs gs : List Tree) : Prop :=
  ∀ (later : List Int) (names : Assignment), size ≤ later.length + earlier.length →
    (widened extra later earlier).imprint names gs =
      (⟨later ++ earlier⟩ : LineArena).imprint names fs

namespace SameImprints

variable {extra size : Nat} {earlier : List Int} {fs gs hs ks : List Tree}

theorem mono (h : SameImprints extra earlier size fs gs) {more : Nat} (hsize : size ≤ more) :
    SameImprints extra earlier more fs gs :=
  fun later names hlater => h later names (Nat.le_trans hsize hlater)

theorem append (h1 : SameImprints extra earlier size fs gs)
    (h2 : SameImprints extra earlier size hs ks) :
    SameImprints extra earlier size (fs ++ hs) (gs ++ ks) := by
  intro later names hlater
  rw [LineArena.imprint_append, LineArena.imprint_append, h1 later names hlater,
    h2 later names hlater]

/-- One more tree on write targets, which have their latest tree first. -/
theorem target {f g : Tree} (h : SameImprints extra earlier size fs.reverse gs.reverse)
    (hfg : SameImprints extra earlier size [f] [g]) :
    SameImprints extra earlier size (f :: fs).reverse (g :: gs).reverse := by
  rw [List.reverse_cons, List.reverse_cons]
  exact h.append hfg

theorem marked (mark : Mark) (h : SameImprints extra earlier size fs gs) :
    SameImprints extra earlier size [.marked mark (.ofList fs)] [.marked mark (.ofList gs)] := by
  intro later names hlater
  rw [LineArena.imprint_marked_ofList, LineArena.imprint_marked_ofList, h later names hlater]

theorem of_pendings_eq_nil (h : ∀ f ∈ fs, f.pendings = []) :
    SameImprints extra earlier size fs fs := by
  intro later names hlater
  rw [LineArena.imprint_of_pendings_eq_nil _ _ h, LineArena.imprint_of_pendings_eq_nil _ _ h]

/-- What refers to earlier breaks only has the same imprint in both arenas. -/
theorem of_earlier (h : ∀ f ∈ fs, ∀ index ∈ f.pendings, 0 ≤ index ∧ index < earlier.length) :
    SameImprints extra earlier size fs fs := by
  intro later names hlater
  rw [LineArena.imprint, LineArena.imprint, LineArena.resolveAll_congr fun f hf => ?_]
  refine LineArena.resolve_congr fun index hindex => ?_
  obtain ⟨hnonneg, hlt⟩ := h f hf index hindex
  obtain ⟨i, rfl⟩ := Int.eq_ofNat_of_zero_le hnonneg
  exact LineArena.change_widened_earlier (Int.ofNat_lt.mp hlt)

/-- A later break has the same imprint under its larger number. -/
theorem pending {i : Nat} (hi : earlier.length ≤ i) (hsize : i < size) :
    SameImprints extra earlier size [.pending i] [.pending ((i + extra : Nat) : Int)] := by
  intro later names hlater
  rw [LineArena.imprint_singleton, LineArena.imprint_singleton, LineArena.resolve,
    LineArena.resolve, LineArena.change_widened_later hi (Nat.lt_of_lt_of_le hsize hlater)]

end SameImprints

/-! ### Builders with extra line breaks -/

namespace Builder

open Outcome (Agree)

/-- The write targets, the innermost first, each with its latest tree first. -/
def targets (b : Builder) : List (List Tree) := b.current :: b.suspended

/-- The builder `c` has the line breaks of the builder `b` and extra ones after the earlier ones,
which change nothing; it holds what has the same imprint, and has the same flags. -/
structure Widens (extra : Nat) (earlier : List Int) (b c : Builder) : Prop where
  arena : ∃ later, later ≠ [] ∧ b.arena = ⟨later ++ earlier⟩ ∧
    c.arena = widened extra later earlier
  flags : c.flags = b.flags
  finished : c.finished = b.finished
  targets : b.targets.Forall₂
    (fun fs gs => SameImprints extra earlier b.arena.size fs.reverse gs.reverse) c.targets

namespace Widens

variable {extra : Nat} {earlier : List Int} {b c : Builder}

theorem level (h : Widens extra earlier b c) : c.level = b.level := by
  obtain ⟨later, -, hb, hc⟩ := h.arena
  rw [Builder.level, Builder.level, hb, hc, LineArena.level_widened]

theorem size (h : Widens extra earlier b c) :
    earlier.length < b.arena.size ∧ c.arena.size = b.arena.size + extra := by
  obtain ⟨later, hlater, hb, hc⟩ := h.arena
  have hpos := List.length_pos_iff.mpr hlater
  have hsize : b.arena.size = later.length + earlier.length := by
    rw [hb, LineArena.size, List.length_append]
  rw [hc, LineArena.size_widened, hsize]
  exact ⟨by omega, rfl⟩

theorem isEmpty (h : Widens extra earlier b c) : c.isEmpty = b.isEmpty := by
  have houtput : c.hasOutput = b.hasOutput := congrArg Flags.hasOutput h.flags
  rw [Builder.isEmpty, Builder.isEmpty, houtput]

theorem blankWanted (h : Widens extra earlier b c) : c.blankWanted = b.blankWanted :=
  congrArg Flags.blankWanted h.flags

theorem suspended (h : Widens extra earlier b c) : b.suspended.Forall₂
    (fun fs gs => SameImprints extra earlier b.arena.size fs.reverse gs.reverse) c.suspended :=
  (List.forall₂_cons.mp h.targets).2

theorem current (h : Widens extra earlier b c) :
    SameImprints extra earlier b.arena.size b.current.reverse c.current.reverse :=
  (List.forall₂_cons.mp h.targets).1

theorem depth (h : Widens extra earlier b c) : c.depth = b.depth := h.suspended.length_eq.symm

theorem append (h : Widens extra earlier b c) {f g : Tree}
    (hfg : SameImprints extra earlier b.arena.size [f] [g]) :
    Widens extra earlier (b.append f) (c.append g) :=
  ⟨h.arena, congrArg (Flags.mk true) h.blankWanted, h.finished,
    .cons (h.current.target hfg) h.suspended⟩

theorem appendBreak (h : Widens extra earlier b c) :
    Widens extra earlier b.appendBreak c.appendBreak := by
  obtain ⟨hearlier, hsize⟩ := h.size
  have hmore : b.arena.size ≤ b.arena.addBreak.size := Nat.le_succ _
  have hbreak : SameImprints extra earlier b.arena.addBreak.size [.pending b.arena.size]
      [.pending c.arena.size] := by
    rw [hsize]
    exact .pending (Nat.le_of_lt hearlier) (Nat.lt_succ_self _)
  refine ⟨?_, congrArg (Flags.mk true) h.blankWanted, h.finished,
    .cons ((h.current.mono hmore).target hbreak) (h.suspended.imp fun _ _ hfg => hfg.mono hmore)⟩
  obtain ⟨later, -, hb, hc⟩ := h.arena
  refine ⟨0 :: later, List.cons_ne_nil _ _, ?_, ?_⟩
  · rw [Builder.appendBreak, hb]
    rfl
  · rw [Builder.appendBreak, hc]
    rfl

theorem flushBlank (h : Widens extra earlier b c) :
    Widens extra earlier b.flushBlank c.flushBlank := by
  have hbreak := h.appendBreak
  unfold Builder.flushBlank
  rw [h.blankWanted]
  split
  · exact ⟨hbreak.arena, rfl, hbreak.finished, hbreak.targets⟩
  · exact h

theorem lineOf (h : Widens extra earlier b c) {v : Value} (hv : v.Unnumbered) :
    Agree (Widens extra earlier) (b.lineOf v) (c.lineOf v) := by
  rcases b.lineOf_cases v with ⟨hb, hdone⟩ | ⟨f, hb, hf, hdone⟩ | ⟨fault, hb, hf, hdone⟩ <;>
    rw [hdone]
  · rw [lineOf_of_finished (h.finished.trans hb)]
    exact ⟨rfl, h⟩
  · rw [lineOf_eq_done (h.finished.trans hb) hf]
    have hitem : ∀ g ∈ [f], g.pendings = [] := by simpa using hv f hf
    exact ⟨rfl, (h.flushBlank.append (.of_pendings_eq_nil hitem)).appendBreak⟩
  · rw [lineOf_eq_failed (h.finished.trans hb) hf]
    exact ⟨rfl, h.flushBlank⟩

theorem breakLine (h : Widens extra earlier b c) :
    Agree (Widens extra earlier) b.breakLine c.breakLine := by
  rw [Builder.breakLine, Builder.breakLine, h.finished]
  split
  · exact ⟨rfl, h⟩
  · exact ⟨rfl, h.appendBreak⟩

theorem requestBlank (h : Widens extra earlier b c) :
    Widens extra earlier b.requestBlank c.requestBlank := by
  have houtput : c.hasOutput = b.hasOutput := congrArg Flags.hasOutput h.flags
  unfold Builder.requestBlank
  rw [h.isEmpty]
  split
  · exact h
  · exact ⟨h.arena, congrArg (Flags.mk · true) houtput, h.finished, h.targets⟩

/-- The latest break is a later one on both. -/
theorem shift (h : Widens extra earlier b c) (offset : Int) :
    Agree (Widens extra earlier) (b.shift offset) (c.shift offset) := by
  obtain ⟨later, hlater, hb, hc⟩ := h.arena
  cases later with
  | nil => exact absurd rfl hlater
  | cons change later =>
    have hsize : (⟨(change + offset) :: (later ++ earlier)⟩ : LineArena).size = b.arena.size := by
      rw [hb]
      rfl
    rw [Builder.shift, Builder.shift, hb, hc]
    refine ⟨rfl, ⟨(change + offset) :: later, List.cons_ne_nil _ _, rfl, rfl⟩, h.flags, h.finished,
      ?_⟩
    show b.targets.Forall₂ (fun fs gs => SameImprints extra earlier
      (⟨(change + offset) :: (later ++ earlier)⟩ : LineArena).size fs.reverse gs.reverse) c.targets
    rw [hsize]
    exact h.targets

theorem openRegion (h : Widens extra earlier b c) :
    Widens extra earlier b.openRegion c.openRegion :=
  ⟨h.arena, h.flags, h.finished,
    .cons (.of_pendings_eq_nil fun _ hf => (List.not_mem_nil hf).elim) h.targets⟩

theorem closeRegion (h : Widens extra earlier b c) (mark : Mark) (depth : Nat) :
    Agree (Widens extra earlier) (b.closeRegion mark depth) (c.closeRegion mark depth) := by
  have hsuspended := h.suspended
  rw [Builder.closeRegion, Builder.closeRegion]
  cases hb : b.suspended with
  | nil =>
    rw [hb, List.forall₂_nil_left_iff] at hsuspended
    rw [hsuspended]
    exact ⟨rfl, h⟩
  | cons outer rest =>
    rw [hb, List.forall₂_cons_left_iff] at hsuspended
    obtain ⟨outer', rest', houter, hrest, hc⟩ := hsuspended
    rw [hc]
    simp only [hrest.length_eq]
    split
    · exact ⟨rfl, h.arena, h.flags, h.finished,
        .cons (houter.target (h.current.marked mark)) hrest⟩
    · exact ⟨rfl, h⟩

theorem finish (h : Widens extra earlier b c) :
    Widens extra earlier b.finish.1 c.finish.1 := by
  have hsuspended := h.suspended
  rw [Builder.finish, Builder.finish]
  cases hb : b.suspended with
  | nil =>
    rw [hb, List.forall₂_nil_left_iff] at hsuspended
    rw [hsuspended]
    exact ⟨h.arena, h.flags, rfl, .cons h.current .nil⟩
  | cons outer rest =>
    rw [hb, List.forall₂_cons_left_iff] at hsuspended
    obtain ⟨outer', rest', -, -, hc⟩ := hsuspended
    rw [hc]
    exact h

theorem imprint (h : Widens extra earlier b c) (names : Assignment) :
    c.imprint names = b.imprint names := by
  have hsuspended := h.suspended
  rw [Builder.imprint, Builder.finish, Builder.imprint, Builder.finish]
  cases hb : b.suspended with
  | nil =>
    rw [hb, List.forall₂_nil_left_iff] at hsuspended
    rw [hsuspended]
    obtain ⟨later, -, hnarrow, hwide⟩ := h.arena
    have hsize : b.arena.size ≤ later.length + earlier.length := by
      rw [hnarrow, LineArena.size, List.length_append]
    simp only
    rw [← LineArena.imprint_singleton, ← LineArena.imprint_singleton, LineArena.imprint_seq,
      LineArena.imprint_seq, hwide, h.current later names hsize, hnarrow]
  | cons outer rest =>
    rw [hb, List.forall₂_cons_left_iff] at hsuspended
    obtain ⟨outer', rest', -, -, hc⟩ := hsuspended
    rw [hc]

end Widens

/-- Builders of which one has extra line breaks are in lockstep. -/
theorem lockstep_widens (extra : Nat) (earlier : List Int) :
    Lockstep (Widens extra earlier) where
  level h := h.level
  isEmpty h := h.isEmpty
  depth h := h.depth
  lineOf hv h := h.lineOf hv
  breakLine h := h.breakLine
  requestBlank h := h.requestBlank
  shift offset _ _ h := h.shift offset
  openRegion h := h.openRegion
  closeRegion mark depth _ _ h := h.closeRegion mark depth
  finish h := h.finish
  imprint names _ _ h := h.imprint names

end Builder

end SourceLayout
