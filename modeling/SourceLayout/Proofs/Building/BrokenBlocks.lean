import SourceLayout.Proofs.Building.Calls
import SourceLayout.Proofs.Building.Levels
import SourceLayout.Proofs.Text.Columns

/-! Blocks that break off.  A block fails exactly if one of its later lines is indented by no full
level.  What it has written by then is what the lines before would have come to as a block of their
own, with the indentation of the last of them still in force. -/

namespace SourceLayout

namespace Text

/-! ### A text up to a line break -/

/-- The characters before the line break of a number, counted from zero; all of them when there are
not as many line breaks. -/
def beforeBreak : List Char → Nat → List Char
  | [], _ => []
  | '\r' :: '\n' :: _, 0 => []
  | '\r' :: '\n' :: rest, n + 1 => '\r' :: '\n' :: beforeBreak rest n
  | '\r' :: _, 0 => []
  | '\r' :: rest, n + 1 => '\r' :: beforeBreak rest n
  | '\n' :: _, 0 => []
  | '\n' :: rest, n + 1 => '\n' :: beforeBreak rest n
  | c :: rest, n => c :: beforeBreak rest n

/-- The text before its line break of a number, counted from zero. -/
def upToBreak (n : Nat) (text : String) : String := String.ofList (beforeBreak text.toList n)

theorem beforeBreak_prefix (cs : List Char) (n : Nat) : beforeBreak cs n <+: cs := by
  fun_induction beforeBreak cs n <;> simp_all

/-- Up to the line break of the number `n`, a text has its first line and `n` lines after it. -/
theorem cutLines_beforeBreak (cs : List Char) (n : Nat) :
    cutLines (beforeBreak cs n) = ((cutLines cs).1, (cutLines cs).2.take n) := by
  fun_induction beforeBreak cs n with
  | case1 => simp [cutLines]
  | case2 rest => simp [cutLines, breakBefore]
  | case3 rest n ih => simp [cutLines, breakBefore, ih]
  | case4 rest hnext =>
    rw [cutLines_cr hnext, cutLines]
    rfl
  | case5 rest n hnext ih =>
    -- what is kept of the rest begins like the rest, so that no LF gets behind the CR
    have hkept : ∀ tail, beforeBreak rest n ≠ '\n' :: tail := by
      intro tail htail
      obtain ⟨after, hrest⟩ := beforeBreak_prefix rest n
      rw [htail] at hrest
      exact hnext _ hrest.symm
    rw [cutLines_cr hkept, cutLines_cr hnext, ih]
    rfl
  | case6 rest => simp [cutLines, breakBefore]
  | case7 rest n ih => simp [cutLines, breakBefore, ih]
  | case8 c rest n _ _ hcr hcr' hlf hlf' ih =>
    have hne : c ≠ '\r' ∧ c ≠ '\n' := by
      cases n with
      | zero => exact ⟨hcr rfl, hlf rfl⟩
      | succ n => exact ⟨hcr' n rfl, hlf' n rfl⟩
    rw [cutLines_cons hne.1 hne.2, cutLines_cons hne.1 hne.2, ih]

/-- Up to the line break of the number `n`, a text has its first line and `n` lines after it. -/
theorem lines_upToBreak (n : Nat) (text : String) :
    lines (upToBreak n text) = ((lines text).1, (lines text).2.take n) := by
  simp only [lines, upToBreak, String.toList_ofList, cutLines_beforeBreak, List.map_take]

/-! ### The indentation that lines reach -/

/-- The indentation that is in force after lines of a block: that of the last line that is not
blank, or else `indent`. -/
def reached (indent : Nat) (ls : List String) : Nat :=
  ((ls.filter fun l => !isBlankLine l).getLast?.map fun l => columnOf l / tabWidth).getD indent

theorem reached_cons_of_blank {l : String} (h : isBlankLine l = true) (indent : Nat)
    (ls : List String) : reached indent (l :: ls) = reached indent ls := by
  simp [reached, h]

theorem reached_cons_of_not_blank {l : String} (h : isBlankLine l = false) (indent : Nat)
    (ls : List String) : reached indent (l :: ls) = reached (columnOf l / tabWidth) ls := by
  simp only [reached, List.filter_cons, h, Bool.not_false, if_true, List.getLast?_cons]
  cases (ls.filter fun l => !isBlankLine l).getLast? <;> rfl

/-- All lines are indented evenly, or there is a first one that is not. -/
theorem even_or_exists_uneven (ls : List String) :
    (∀ l ∈ ls, isBlankLine l = false → columnOf l % tabWidth = 0) ∨
      ∃ before l after, ls = before ++ l :: after ∧
        (∀ k ∈ before, isBlankLine k = false → columnOf k % tabWidth = 0) ∧
        isBlankLine l = false ∧ columnOf l % tabWidth ≠ 0 := by
  induction ls with
  | nil => exact .inl fun _ h => (List.not_mem_nil h).elim
  | cons l ls ih =>
    by_cases heven : isBlankLine l = false → columnOf l % tabWidth = 0
    · rcases ih with hall | ⟨before, k, after, rfl, hbefore, hblank, huneven⟩
      · exact .inl (List.forall_mem_cons.mpr ⟨heven, hall⟩)
      · exact .inr ⟨l :: before, k, after, rfl, List.forall_mem_cons.mpr ⟨heven, hbefore⟩, hblank,
          huneven⟩
    · rw [Classical.not_imp] at heven
      exact .inr ⟨[], l, ls, rfl, fun _ h => (List.not_mem_nil h).elim, heven.1, heven.2⟩

end Text

open Text (columnOf contentOf isBlankLine lineIndentation_eq reached tabWidth upToBreak)

/-! ### The lines of a block -/

namespace Builder

theorem Underway.line {b : Builder} (h : b.finished = false) (text : String) :
    (b.line [.str text]).fault = none ∧ (b.line [.str text]).state.Underway ∧
      (b.line [.str text]).state.level = b.level := by
  rw [line_singleton]
  obtain ⟨hfault, hunderway⟩ := Underway.lineOf h (Value.toFragment_str text)
  refine ⟨hfault, hunderway, ?_⟩
  rw [lineOf_eq_done h (Value.toFragment_str text)]
  simp

/-- Lines of a block that are indented evenly are written, and the lines after them go on from
there, at the indentation that they have reached. -/
theorem blockLines_append {ls : List String}
    (heven : ∀ l ∈ ls, isBlankLine l = false → columnOf l % tabWidth = 0) (indent : Nat)
    {b : Builder} (hb : b.Underway) :
    ∃ c : Builder, c.Underway ∧ c.level = b.level + (reached indent ls - indent) ∧
      ∀ rest, blockLines indent (ls ++ rest) b = blockLines (reached indent ls) rest c := by
  induction ls generalizing indent b with
  | nil => exact ⟨b, hb, by simp [reached], fun _ => rfl⟩
  | cons l ls ih =>
    rw [List.forall_mem_cons] at heven
    cases hblank : isBlankLine l with
    | true =>
      obtain ⟨c, hc, hlevel, hrest⟩ := ih heven.2 indent (.appendBreak hb.finished)
      rw [Text.reached_cons_of_blank hblank]
      refine ⟨c, hc, hlevel.trans (by rw [level_appendBreak]), fun rest => ?_⟩
      have hbreak : b.breakLine = .done b.appendBreak := by
        rw [breakLine, hb.finished]
        rfl
      rw [← hrest, List.cons_append, blockLines, lineIndentation_eq, hblank]
      simp [hbreak]
    | false =>
      set next := columnOf l / tabWidth with hnext
      obtain ⟨hshift, hshifted⟩ := hb.shift (next - indent)
      have hshiftLevel := level_of_shift hshift
      set shifted := (b.shift (next - indent)).state
      obtain ⟨hline, hunderway, hlineLevel⟩ :=
        Underway.line hshifted.finished (contentOf l)
      obtain ⟨c, hc, hlevel, hrest⟩ := ih heven.2 next hunderway
      rw [Text.reached_cons_of_not_blank hblank, ← hnext]
      refine ⟨c, hc, by rw [hlevel, hlineLevel, hshiftLevel]; omega, fun rest => ?_⟩
      rw [← hrest, List.cons_append, blockLines, lineIndentation_eq, hblank]
      simp only [Bool.false_eq_true, if_false, heven.1 hblank, ne_eq, not_true]
      rw [Outcome.andThen_of_fault hshift, Outcome.andThen_of_fault hline]

/-- At the end of a block its indentation is taken back, which changes the line breaks only. -/
theorem blockLines_nil {b : Builder} (hb : b.Underway) (indent : Nat) :
    ∃ a, b.arena.shift (-indent) = .ok a ∧
      blockLines indent [] b = .done { b with arena := a } := by
  obtain ⟨⟨_ | ⟨change, earlier⟩⟩, current, suspended, blankWanted, hasOutput, finished⟩ := b
  · exact absurd rfl hb.arena
  · refine ⟨_, rfl, ?_⟩
    rw [blockLines]
    split
    · next hzero =>
      subst hzero
      simp
    · rfl

/-- A block writes its first line, and its other lines from there on. -/
theorem exists_block_eq {b : Builder} (h : b.finished = false) (first : String) :
    ∃ c : Builder, c.Underway ∧ c.level = b.level ∧
      ∀ text, (Text.lines text).1 = first →
        b.block text = blockLines 0 (Text.lines text).2 c := by
  obtain ⟨hfault, hunderway, hlevel⟩ := Underway.line h first
  refine ⟨(b.line [.str first]).state, hunderway, hlevel, fun text htext => ?_⟩
  subst htext
  exact Outcome.andThen_of_fault hfault _

/-- A block whose later lines are indented evenly is written to its end. -/
theorem fault_block_of_even {b : Builder} (h : b.finished = false) {text : String}
    (heven : ∀ l ∈ (Text.lines text).2, isBlankLine l = false → columnOf l % tabWidth = 0) :
    (b.block text).fault = none := by
  obtain ⟨c, hc, -, hblock⟩ := exists_block_eq h (Text.lines text).1
  obtain ⟨d, hd, -, hrest⟩ := blockLines_append heven 0 hc
  obtain ⟨a, -, hlast⟩ := blockLines_nil hd (reached 0 (Text.lines text).2)
  have hall := hrest []
  rw [List.append_nil, hlast] at hall
  rw [hblock text rfl, hall]
  rfl

/-- A block breaks off at its first line that is indented unevenly.  What it leaves is what the text
before that line would have left as a block, but for the indentation, which is not taken back. -/
theorem block_of_uneven {b : Builder} (h : b.finished = false) {text l : String}
    {before after : List String} (hlines : (Text.lines text).2 = before ++ l :: after)
    (heven : ∀ k ∈ before, isBlankLine k = false → columnOf k % tabWidth = 0)
    (hblank : isBlankLine l = false) (huneven : columnOf l % tabWidth ≠ 0) :
    let cut := b.block (upToBreak before.length text)
    let indent := reached 0 before
    (b.block text).fault = some (.unevenIndent l) ∧ cut.fault = none ∧
    (b.block text).state = { cut.state with arena := (b.block text).state.arena } ∧
    (b.block text).state.arena.shift (-indent) = .ok cut.state.arena ∧
    (b.block text).state.level = b.level + indent ∧ cut.state.level = b.level := by
  intro cut indent
  obtain ⟨c, hc, hlevel, hblock⟩ := exists_block_eq h (Text.lines text).1
  obtain ⟨d, hd, hreached, hrest⟩ := blockLines_append heven 0 hc
  obtain ⟨a, ha, hlast⟩ := blockLines_nil hd indent
  have hfailed : b.block text = .failed d (.unevenIndent l) := by
    rw [hblock text rfl, hlines, hrest, blockLines, lineIndentation_eq, hblank]
    exact if_pos huneven
  have hcut : cut = .done { d with arena := a } := by
    have hupTo := Text.lines_upToBreak before.length text
    rw [hlines, List.take_left' rfl] at hupTo
    have hfirst : (Text.lines (upToBreak before.length text)).1 = (Text.lines text).1 := by
      rw [hupTo]
    have hall := hrest []
    rw [List.append_nil, hlast] at hall
    show b.block (upToBreak before.length text) = _
    rw [hblock _ hfirst, hupTo, hall]
  have hwithin : d.level = b.level + indent := by
    rw [hreached, hlevel]
    omega
  have hback : a.level = d.level + -indent := LineArena.level_shift ha
  rw [hfailed, hcut]
  refine ⟨rfl, rfl, rfl, ha, hwithin, ?_⟩
  show a.level = b.level
  omega

/-- A block on a builder that is not finished fails exactly if one of its later lines is indented
unevenly: the column of its first character other than a space or a tab is no multiple of the tab
width.  The first such line is the reason.  What is written by then, with the line breaks and the
flags, is what the text before the line break of that line leaves as a block, which fails nowhere;
only the indentation of the last line before it that is not blank is not taken back. -/
theorem block_breaks_off {b : Builder} (h : b.finished = false) (text : String) :
    ((∃ fault, (b.block text).fault = some fault ∧ fault.isBreach = true) ↔
      ∃ l ∈ (Text.lines text).2, isBlankLine l = false ∧ columnOf l % tabWidth ≠ 0) ∧
    ((b.block text).fault = none ↔
      ∀ l ∈ (Text.lines text).2, isBlankLine l = false → columnOf l % tabWidth = 0) ∧
    ∀ before l after, (Text.lines text).2 = before ++ l :: after →
      (∀ k ∈ before, isBlankLine k = false → columnOf k % tabWidth = 0) →
      isBlankLine l = false → columnOf l % tabWidth ≠ 0 →
      let cut := b.block (upToBreak before.length text)
      let indent := reached 0 before
      (b.block text).fault = some (.unevenIndent l) ∧ cut.fault = none ∧
      (b.block text).state = { cut.state with arena := (b.block text).state.arena } ∧
      (b.block text).state.arena.shift (-indent) = .ok cut.state.arena ∧
      (b.block text).state.level = b.level + indent ∧ cut.state.level = b.level := by
  rcases Text.even_or_exists_uneven (Text.lines text).2 with heven |
    ⟨before, l, after, hlines, heven, hblank, huneven⟩
  · have hfault := fault_block_of_even h heven
    refine ⟨⟨?_, ?_⟩, ⟨fun _ => heven, fun _ => hfault⟩, ?_⟩
    · rintro ⟨fault, hsome, -⟩
      cases hfault.symm.trans hsome
    · rintro ⟨l, hl, hblank, huneven⟩
      exact absurd (heven l hl hblank) huneven
    · intro before l after hlines _ hblank huneven
      have hl : l ∈ (Text.lines text).2 := by simp [hlines]
      exact absurd (heven l hl hblank) huneven
  · have hl : l ∈ (Text.lines text).2 := by simp [hlines]
    have hfault := (block_of_uneven h hlines heven hblank huneven).1
    refine ⟨⟨fun _ => ⟨l, hl, hblank, huneven⟩, fun _ => ⟨_, hfault, rfl⟩⟩, ⟨?_, ?_⟩, ?_⟩
    · intro hnone
      cases hfault.symm.trans hnone
    · intro hall
      exact absurd (hall l hl hblank) huneven
    · intro _ _ _ hlines heven hblank huneven
      exact block_of_uneven h hlines heven hblank huneven

/-- One level deep, in a region and with a blank line wanted, a block breaks off at its fourth line.
The line before it is blank, and the indentation is that of the line before that one. -/
theorem block_breaks_off_after_blank_line :
    let b := ((Builder.fresh.line [.str "a"]).state.shift 1).state.requestBlank.openRegion
    let text := "b\r\n\t\tc\r  \n   d\ne"
    b.finished = false ∧ b.level = 1 ∧
    Text.lines text = ("b", ["\t\tc", "  ", "   d", "e"]) ∧
    upToBreak 2 text = "b\r\n\t\tc\r  " ∧
    (b.block text).fault = some (.unevenIndent "   d") ∧
    (b.block "b\r\n\t\tc\r  ").fault = none ∧
    (b.block text).state =
      { (b.block "b\r\n\t\tc\r  ").state with arena := (b.block text).state.arena } ∧
    (b.block text).state.current.reverse =
      [.pending 1, .text "b", .pending 2, .text "c", .pending 3, .pending 4] ∧
    (b.block text).state.arena.changes.reverse = [1, 0, 2, 0, 0] ∧
    (b.block text).state.blankWanted = false ∧
    (b.block text).state.level = 3 ∧ (b.block "b\r\n\t\tc\r  ").state.level = 1 := by
  intro b text
  have hopen : b.finished = false := by cbv
  have hlevel : b.level = 1 := by cbv
  have hlines : Text.lines text = ("b", ["\t\tc", "  ", "   d", "e"]) := by decide +kernel
  have hcut : upToBreak 2 text = "b\r\n\t\tc\r  " := by decide +kernel
  have hreached : reached 0 ["\t\tc", "  "] = 2 := by decide +kernel
  obtain ⟨-, -, hbroken⟩ := block_breaks_off hopen text
  rw [hlines] at hbroken
  obtain ⟨hfault, hwhole, hstate, -, hwithin, hback⟩ := hbroken ["\t\tc", "  "] "   d" ["e"] rfl
    (by decide +kernel) (by decide +kernel) (by decide +kernel)
  have hcut' : upToBreak ["\t\tc", "  "].length text = "b\r\n\t\tc\r  " := hcut
  rw [hcut'] at hwhole hstate hback
  rw [hreached, hlevel] at hwithin
  exact ⟨hopen, hlevel, hlines, hcut, hfault, hwhole, hstate, by cbv, by cbv, by cbv, hwithin,
    hback.trans hlevel⟩

end Builder

end SourceLayout
