import SourceLayout.Text.Quoted

/-! Texts as code points.  Escapes can write the halves of pairs, which are no characters: a first
and a second half that meet make one character, and a text that holds other halves is no `String`.
Main statement: the code points of a text write the text. -/

namespace SourceLayout.Text

/-- The code points of a text. -/
def codes (s : String) : List Nat := s.toList.map Char.toNat

/-- The code point is the first half of a pair. -/
def isFirstHalf (code : Nat) : Bool := 0xd800 ≤ code && code < 0xdc00

/-- The code point is the second half of a pair. -/
def isSecondHalf (code : Nat) : Bool := 0xdc00 ≤ code && code < 0xe000

/-- The code point that two halves make. -/
def joinHalves (first second : Nat) : Nat :=
  0x10000 + (first - 0xd800) * 0x400 + (second - 0xdc00)

/-- The character that stands for a half that is alone. -/
def replacement : Char := '\ufffd'

/-- The character of a code point; a half that is alone is replaced. -/
def charOfCode (code : Nat) : Char :=
  if code.isValidChar then Char.ofNat code else replacement

/-- The characters that code points write. -/
def written : List Nat → List Char
  | first :: second :: rest =>
    if isFirstHalf first && isSecondHalf second then
      Char.ofNat (joinHalves first second) :: written rest
    else charOfCode first :: written (second :: rest)
  | [code] => [charOfCode code]
  | [] => []

/-- The text that code points make up, if each of them is a character. -/
def ofCodes? (cs : List Nat) : Option String :=
  if cs.all Nat.isValidChar then some (String.ofList (cs.map Char.ofNat)) else none

/-- A code point as it stands between two `quote` marks; a half is escaped. -/
def quotedCode (quote : Char) (code : Nat) : List Char :=
  if code.isValidChar then quotedChar quote (Char.ofNat code) else codePointEscape code

/-- The code points between quotes. -/
def quotedCodes (cs : List Nat) : String :=
  let quote := quoteFor (cs.map charOfCode)
  String.ofList (quote :: cs.flatMap (quotedCode quote) ++ [quote])

/-! ### The code points of a text write the text -/

theorem isFirstHalf_toNat (c : Char) : isFirstHalf c.toNat = false := by
  have h := c.valid
  simp only [UInt32.isValidChar, Nat.isValidChar] at h
  have e : c.toNat = c.val.toNat := rfl
  simp only [isFirstHalf, Bool.and_eq_false_iff, decide_eq_false_iff_not, e]
  omega

theorem charOfCode_toNat (c : Char) : charOfCode c.toNat = c := by
  have h : c.toNat.isValidChar := c.valid
  rw [charOfCode, if_pos h, Char.ofNat_toNat]

theorem written_toNat_cons (c : Char) (rest : List Nat) :
    written (c.toNat :: rest) = c :: written rest := by
  cases rest with
  | nil => simp [written, charOfCode_toNat]
  | cons code rest => simp [written, isFirstHalf_toNat, charOfCode_toNat]

/-- A text that code points begin with is written first, whatever follows. -/
theorem written_codes_append (s : String) (rest : List Nat) :
    written (codes s ++ rest) = s.toList ++ written rest := by
  rw [codes]
  induction s.toList with
  | nil => rfl
  | cons c cs ih => rw [List.map_cons, List.cons_append, written_toNat_cons, ih, List.cons_append]

theorem written_codes (s : String) : written (codes s) = s.toList := by
  simpa [written] using written_codes_append s []

end SourceLayout.Text
