import Mathlib.Data.List.Infix
import SourceLayout.Proofs.Text.Breaks
import SourceLayout.Template.Expr
import SourceLayout.Template.Piece

/-! How a template is scanned that only writes variables.  Text in which nothing opens is literal,
up to the tag after it, and a tag around a variable is read as one word.  Neither takes anything
away from the other. -/

namespace SourceLayout.Template

/-- One character of a scan. -/
theorem scan_of_move {mode next : Mode} {c : Char} {rest : List Char} {pieces : List Piece}
    (h : mode.move c rest = (pieces, next)) : scan mode (c :: rest) = pieces ++ scan next rest := by
  rw [scan, h]

/-! ### Literal text -/

/-- No tag and no comment opens in the text. -/
def IsPlain (cs : List Char) : Prop := ∀ c ∈ ['{', '%', '#'], ¬ ['{', c] <:+: cs

instance (cs : List Char) : Decidable (IsPlain cs) := List.decidableBAll _ _

theorem IsPlain.normalizeBreaks {cs : List Char} (h : IsPlain cs) :
    IsPlain (Text.normalizeBreaks cs) := by
  intro c hc hopen
  have hbreak : c ≠ '\n' := by
    rintro rfl
    simp at hc
  exact h c hc (Text.infix_of_normalizeBreaks (by decide) hbreak hopen)

/-- Nothing opens where a brace comes after text that does not end with one. -/
theorem IsPlain.concat {cs : List Char} (h : IsPlain cs) (hlast : cs.getLast? ≠ some '{') :
    IsPlain (cs ++ ['{']) := by
  intro c hc hopen
  rcases List.infix_concat_iff.mp hopen with hend | hinside
  · rcases List.suffix_concat_iff.mp hend with hnil | ⟨before, hbefore, hsuffix⟩
    · cases hnil
    · have hsplit : ['{'] ++ [c] = before ++ ['{'] := hbefore
      obtain ⟨rfl, -⟩ := List.append_inj' hsplit rfl
      exact hlast (List.singleton_suffix_iff_getLast?_eq_some.mp hsuffix)
  · exact h c hc hinside

theorem opening?_eq_none {c : Char} {rest : List Char}
    (h : c = '{' → ∀ d ∈ ['{', '%', '#'], rest.head? ≠ some d) : opening? (c :: rest) = none := by
  unfold opening?
  split <;> simp_all

/-- Text in which nothing opens is literal, up to what follows. -/
theorem scan_text {cs rest : List Char} (h : IsPlain (cs ++ rest.head?.toList))
    (soFar : List Char) (atLineStart : Bool) :
    scan (.text soFar atLineStart) (cs ++ rest) =
      scan (.text (cs.reverse ++ soFar) atLineStart) rest := by
  induction cs generalizing soFar with
  | nil => rfl
  | cons c cs ih =>
    have hclosed : opening? (c :: (cs ++ rest)) = none := by
      refine opening?_eq_none ?_
      rintro rfl d hd hnext
      refine h d hd (List.IsPrefix.isInfix (List.cons_prefix_cons.mpr ⟨rfl, ?_⟩))
      cases cs with
      | nil =>
        have hhead : rest.head? = some d := hnext
        rw [hhead]
        exact List.prefix_refl [d]
      | cons e cs =>
        cases hnext
        exact List.singleton_prefix_cons_iff.mpr rfl
    have hrest : IsPlain (cs ++ rest.head?.toList) :=
      fun d hd hopen => h d hd (List.infix_cons hopen)
    have hmove : (Mode.text soFar atLineStart).move c (cs ++ rest) =
        ([], .text (c :: soFar) atLineStart) := by
      rw [Mode.move, textMove, hclosed]
    rw [List.cons_append, scan_of_move hmove, List.reverse_cons, List.append_assoc]
    exact ih hrest (c :: soFar)

/-! ### Words -/

theorem disjoint_identifierStarts : ∀ blanks ∈ Text.blankRanges, ∀ starts ∈ Text.identifierStarts,
    blanks.2 < starts.1 ∨ starts.2 < blanks.1 := by
  decide +kernel

theorem ascii_of_isIdentifierStart : ∀ n < 128, Text.isIdentifierStart (Char.ofNat n) = true →
    Text.isBlank (Char.ofNat n) = false ∧ digitValue? 10 (Char.ofNat n) = none := by
  decide +kernel

variable {c : Char} {cs : List Char}

/-- No identifier begins with a blank or a digit. -/
theorem read_of_isIdentifierStart (h : Text.isIdentifierStart c = true) :
    Text.isBlank c = false ∧ digitValue? 10 c = none := by
  by_cases hc : c.toNat < 128
  · have hascii := ascii_of_isIdentifierStart c.toNat hc
    rw [Char.ofNat_toNat] at hascii
    exact hascii h
  · constructor
    · rw [Text.isIdentifierStart, if_neg hc, Text.inRanges, List.any_eq_true] at h
      obtain ⟨starts, hstarts, h⟩ := h
      rw [Text.isBlank, Text.inRanges, List.any_eq_false]
      intro blanks hblanks hblank
      have hdisjoint := disjoint_identifierStarts blanks hblanks starts hstarts
      simp only [Bool.and_eq_true, decide_eq_true_eq] at h hblank
      omega
    · have hbeyond (d : Char) (hd : d.toNat < 128) : ¬ c ≤ d := by
        rw [Char.le_def, UInt32.le_iff_toNat_le]
        exact fun hle => hc (Nat.lt_of_le_of_lt hle hd)
      simp [digitValue?, hbeyond '9' (by decide), hbeyond 'f' (by decide),
        hbeyond 'F' (by decide)]

/-- An identifier up to a space is read as one word. -/
theorem read?_word (hstart : Text.isIdentifierStart c = true)
    (hparts : ∀ d ∈ c :: cs, Text.isIdentifierPart d = true) (afterPoint : Bool)
    (rest : List Char) :
    Token.read? afterPoint (c :: (cs ++ ' ' :: rest)) =
      some (.word (String.ofList (c :: cs)), cs.length + 1) := by
  have hquote : c ≠ '\'' ∧ c ≠ '"' := by
    constructor <;> rintro rfl <;> exact absurd hstart (by decide)
  have hword : (c :: (cs ++ ' ' :: rest)).takeWhile Text.isIdentifierPart = c :: cs := by
    rw [← List.cons_append, List.takeWhile_append_of_pos hparts,
      List.takeWhile_cons_of_neg (by decide), List.append_nil]
  rw [Token.read?]
  simp [hquote, (read_of_isIdentifierStart hstart).2, hstart, hword]

/-! ### Tags around variables -/

/-- The name can be written as a variable: it is an identifier that neither stands for a value of its
own nor negates what comes after it. -/
def isVariable (name : String) : Bool :=
  name.toList.head?.any Text.isIdentifierStart && name.toList.all Text.isIdentifierPart &&
    (Expr.constants.lookup name).isNone && name ≠ "not"

/-- The tag that writes a variable. -/
def variableTag (name : String) : String := "\x7b\x7b " ++ name ++ " \x7d\x7d"

/-- The characters that are left of a token lead to what comes after them. -/
theorem scan_afterMore (next : Mode) (cs rest : List Char) :
    scan (next.afterMore cs.length) (cs ++ rest) = scan next rest := by
  induction cs with
  | nil => rfl
  | cons c cs ih =>
    have hmove : (next.afterMore (cs.length + 1)).move c (cs ++ rest) =
        ([], next.afterMore cs.length) := by
      cases cs <;> rfl
    rw [List.length_cons, List.cons_append, scan_of_move hmove]
    exact ih

/-- A tag that writes something leaves the literal text before it as it is. -/
theorem scan_tagBegin (soFar : List Char) (atLineStart : Bool) (rest : List Char) :
    scan (.text soFar atLineStart) ('{' :: '{' :: ' ' :: rest) =
      literalPiece soFar ++ scan (.tag .output [] false) rest := by
  rfl

/-- A tag that writes something ends in front of literal text. -/
theorem scan_tagEnd (tokens : List Token) (rest : List Char) :
    scan (.tag .output tokens false) (' ' :: '}' :: '}' :: rest) =
      .tag .output tokens.reverse :: scan (.text [] false) rest := by
  rfl

/-- A tag around a variable ends the literal text before it, and is read as one word. -/
theorem scan_variableTag {name : String} (h : isVariable name = true) (soFar : List Char)
    (atLineStart : Bool) (rest : List Char) :
    scan (.text soFar atLineStart) ((variableTag name).toList ++ rest) =
      literalPiece soFar ++ .tag .output [.word name] :: scan (.text [] false) rest := by
  simp only [isVariable, Bool.and_eq_true, List.all_eq_true] at h
  obtain ⟨⟨⟨hstart, hparts⟩, -⟩, -⟩ := h
  obtain ⟨cs, rfl⟩ : ∃ cs, name = String.ofList cs := ⟨name.toList, String.ofList_toList.symm⟩
  rw [String.toList_ofList] at hstart hparts
  cases cs with
  | nil => cases hstart
  | cons c cs =>
    have hstart : Text.isIdentifierStart c = true := hstart
    have hend : tagEnd? .output (c :: (cs ++ ' ' :: '}' :: '}' :: rest)) = none := by
      have hne : c ≠ '-' ∧ c ≠ '}' := by
        constructor <;> rintro rfl <;> exact absurd hstart (by decide)
      unfold tagEnd?
      split <;> simp_all
    have hmove : (Mode.tag .output [] false).move c (cs ++ ' ' :: '}' :: '}' :: rest) =
        ([], Mode.afterMore (.tag .output [.word (String.ofList (c :: cs))] false) cs.length) := by
      rw [Mode.move, tagMove, hend, read?_word hstart hparts]
      simp [(read_of_isIdentifierStart hstart).1, tokenMove, Token.isLast]
    have htag : (variableTag (String.ofList (c :: cs))).toList ++ rest =
        '{' :: '{' :: ' ' :: c :: (cs ++ ' ' :: '}' :: '}' :: rest) := by
      simp [variableTag]
    rw [htag, scan_tagBegin, scan_of_move hmove, List.nil_append, scan_afterMore, scan_tagEnd]
    rfl

end SourceLayout.Template
