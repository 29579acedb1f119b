import SourceLayout.Text.Lines

/-! How line breaks become LF, part by part.  A text may be cut anywhere but inside a CR LF, and what
is no line break stays next to what it was next to. -/

namespace SourceLayout.Text

/-- A text with every line break written as LF. -/
def normalized (s : String) : String := String.ofList (normalizeBreaks s.toList)

/-- A CR that no LF follows is written as one. -/
theorem normalizeBreaks_cr {cs : List Char} (h : cs.head? ≠ some '\n') :
    normalizeBreaks ('\r' :: cs) = '\n' :: normalizeBreaks cs := by
  rw [normalizeBreaks]
  rintro rest rfl
  exact h rfl

theorem normalizeBreaks_cons {c : Char} (h : c ≠ '\r') (cs : List Char) :
    normalizeBreaks (c :: cs) = c :: normalizeBreaks cs := by
  rw [normalizeBreaks]
  · rintro rest rfl rfl
    exact h rfl
  · rintro rfl
    exact h rfl

/-- A text may be cut in front of anything but a LF. -/
theorem normalizeBreaks_append (cs : List Char) {rest : List Char} (h : rest.head? ≠ some '\n') :
    normalizeBreaks (cs ++ rest) = normalizeBreaks cs ++ normalizeBreaks rest := by
  fun_induction normalizeBreaks cs with
  | case1 => rfl
  | case2 cs ih =>
    rw [List.cons_append, List.cons_append, normalizeBreaks, ih]
    rfl
  | case3 cs hcr ih =>
    have hnext : (cs ++ rest).head? ≠ some '\n' := by
      cases cs with
      | nil => exact h
      | cons d cs =>
        intro hd
        cases hd
        exact hcr cs rfl
    rw [List.cons_append, normalizeBreaks_cr hnext, ih]
    rfl
  | case4 c cs hcrlf hcr ih =>
    rw [List.cons_append, normalizeBreaks_cons hcr, ih]
    rfl

/-- A text without a CR stays as it is, whatever comes after it. -/
theorem normalizeBreaks_append_of_notMem {cs : List Char} (h : '\r' ∉ cs) (rest : List Char) :
    normalizeBreaks (cs ++ rest) = cs ++ normalizeBreaks rest := by
  induction cs with
  | nil => rfl
  | cons c cs ih =>
    rw [List.mem_cons, not_or] at h
    rw [List.cons_append, normalizeBreaks_cons (Ne.symm h.1), ih h.2]
    rfl

/-- What a text begins with, it begins with before its line breaks become LF, if it is none. -/
theorem head?_of_normalizeBreaks {d : Char} (hd : d ≠ '\n') {cs : List Char}
    (h : (normalizeBreaks cs).head? = some d) : cs.head? = some d := by
  fun_induction normalizeBreaks cs with
  | case1 => exact h
  | case2 cs | case3 cs => exact absurd (Option.some.inj h).symm hd
  | case4 c cs => exact h

/-- Two characters next to each other, if they are no line breaks, are so before. -/
theorem infix_of_normalizeBreaks {c d : Char} (hc : c ≠ '\n') (hd : d ≠ '\n') {cs : List Char}
    (h : [c, d] <:+: normalizeBreaks cs) : [c, d] <:+: cs := by
  have hbreak {rest : List Char} (h : [c, d] <:+: '\n' :: rest) : [c, d] <:+: rest :=
    (List.infix_cons_iff.mp h).resolve_left fun hhead => hc (List.cons_prefix_cons.mp hhead).1
  fun_induction normalizeBreaks cs with
  | case1 => exact h
  | case2 cs ih => exact List.infix_cons (List.infix_cons (ih (hbreak h)))
  | case3 cs hcr ih => exact List.infix_cons (ih (hbreak h))
  | case4 e cs hcrlf hcr ih =>
    rcases List.infix_cons_iff.mp h with hhead | hlater
    · obtain ⟨rfl, hnext⟩ := List.cons_prefix_cons.mp hhead
      rw [List.singleton_prefix_iff_head?_eq_some] at hnext
      have hfirst : [d] <+: cs :=
        List.singleton_prefix_iff_head?_eq_some.mpr (head?_of_normalizeBreaks hd hnext)
      exact (List.cons_prefix_cons.mpr ⟨rfl, hfirst⟩).isInfix
    · exact List.infix_cons (ih hlater)

end SourceLayout.Text
