import SourceLayout.Proofs.Building.Contents
import SourceLayout.Proofs.Building.Lockstep
import SourceLayout.Proofs.Building.Supporting

/-! Builders that know their breaks.  As long as no pending break is passed to a builder, what it
holds refers to its own line breaks only, whatever calls are made and whichever of them fail. -/

namespace SourceLayout

namespace Builder

open Outcome (Agree)

/-- What the builder holds refers to its own line breaks only, and counts them from the front. -/
def KnowsBreaks (b : Builder) : Prop :=
  ∀ index ∈ b.pendings, 0 ≤ index ∧ index < b.arena.size

namespace KnowsBreaks

variable {b : Builder}

theorem fresh : KnowsBreaks .fresh := fun _ h => (List.not_mem_nil h).elim

/-- The builder knows its breaks if it holds nothing that another one does not hold. -/
theorem of_pendings {c : Builder} (h : b.KnowsBreaks) (hpendings : c.pendings = b.pendings)
    (hsize : b.arena.size ≤ c.arena.size) : c.KnowsBreaks := by
  intro index hindex
  rw [hpendings] at hindex
  obtain ⟨hnonneg, hlt⟩ := h index hindex
  exact ⟨hnonneg, by omega⟩

theorem append (h : b.KnowsBreaks) {f : Tree} (hf : f.pendings = []) :
    (b.append f).KnowsBreaks := by
  refine h.of_pendings ?_ (Nat.le_refl _)
  rw [pendings_append, hf, List.append_nil]

theorem appendBreak (h : b.KnowsBreaks) : b.appendBreak.KnowsBreaks := by
  intro index hindex
  have hsize : b.appendBreak.arena.size = b.arena.size + 1 := rfl
  rw [pendings_appendBreak, List.mem_append, List.mem_singleton] at hindex
  rcases hindex with hindex | rfl
  · obtain ⟨hnonneg, hlt⟩ := h index hindex
    exact ⟨hnonneg, by omega⟩
  · exact ⟨Int.natCast_nonneg _, by omega⟩

theorem flushBlank (h : b.KnowsBreaks) : b.flushBlank.KnowsBreaks := by
  unfold Builder.flushBlank
  split
  · exact h.appendBreak
  · exact h

theorem lineOf (h : b.KnowsBreaks) {v : Value} (hv : v.Unnumbered) :
    (b.lineOf v).state.KnowsBreaks := by
  rcases b.lineOf_cases v with ⟨-, hdone⟩ | ⟨f, -, hf, hdone⟩ | ⟨fault, -, -, hdone⟩ <;> rw [hdone]
  · exact h
  · exact (h.flushBlank.append (hv f hf)).appendBreak
  · exact h.flushBlank

theorem breakLine (h : b.KnowsBreaks) : b.breakLine.state.KnowsBreaks := by
  unfold Builder.breakLine
  split
  · exact h
  · exact h.appendBreak

theorem requestBlank (h : b.KnowsBreaks) : b.requestBlank.KnowsBreaks := by
  unfold Builder.requestBlank
  split <;> exact h

theorem shift (h : b.KnowsBreaks) (offset : Int) : (b.shift offset).state.KnowsBreaks := by
  obtain ⟨⟨changes⟩, current, suspended, blankWanted, hasOutput, finished⟩ := b
  cases changes <;> exact h

theorem openRegion (h : b.KnowsBreaks) : b.openRegion.KnowsBreaks :=
  h.of_pendings b.pendings_openRegion (Nat.le_refl _)

theorem closeRegion (h : b.KnowsBreaks) (mark : Mark) (depth : Nat) :
    (b.closeRegion mark depth).state.KnowsBreaks := by
  rcases b.closeRegion_cases mark depth with ⟨outer, rest, -, -, hdone⟩ | hfailed
  · have hclosed : (b.closeRegion mark depth).fault = none := by rw [hdone]; rfl
    have hsize : (b.closeRegion mark depth).state.arena.size = b.arena.size := by rw [hdone]; rfl
    exact h.of_pendings (pendings_closeRegion hclosed) (Nat.le_of_eq hsize.symm)
  · rw [hfailed]
    exact h

theorem finish (h : b.KnowsBreaks) : b.finish.1.KnowsBreaks := by
  unfold Builder.finish
  split <;> exact h

end KnowsBreaks

/-- A builder that knows its breaks is in lockstep with itself, and goes on to know them. -/
theorem lockstep_knowsBreaks : Lockstep fun b c => c = b ∧ b.KnowsBreaks where
  level := by rintro b _ ⟨rfl, -⟩; rfl
  isEmpty := by rintro b _ ⟨rfl, -⟩; rfl
  depth := by rintro b _ ⟨rfl, -⟩; rfl
  lineOf := by rintro v b _ hv ⟨rfl, h⟩; exact ⟨rfl, rfl, h.lineOf hv⟩
  breakLine := by rintro b _ ⟨rfl, h⟩; exact ⟨rfl, rfl, h.breakLine⟩
  requestBlank := by rintro b _ ⟨rfl, h⟩; exact ⟨rfl, h.requestBlank⟩
  shift := by rintro offset b _ ⟨rfl, h⟩; exact ⟨rfl, rfl, h.shift offset⟩
  openRegion := by rintro b _ ⟨rfl, h⟩; exact ⟨rfl, h.openRegion⟩
  closeRegion := by rintro mark depth b _ ⟨rfl, h⟩; exact ⟨rfl, rfl, h.closeRegion mark depth⟩
  finish := by rintro b _ ⟨rfl, h⟩; exact ⟨rfl, h.finish⟩
  imprint := by rintro names b _ ⟨rfl, -⟩; rfl

/-- Calls that pass no pending break lead to a builder that knows its breaks. -/
theorem knowsBreaks_attempt {calls : List Call} (hcalls : ∀ call ∈ calls, call.Unnumbered) :
    (Call.attempt calls fresh).KnowsBreaks :=
  (lockstep_knowsBreaks.attempt hcalls ⟨rfl, .fresh⟩).2

end Builder

end SourceLayout
