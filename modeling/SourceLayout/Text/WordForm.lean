import SourceLayout.WritingSystems.Decomposition

/-! When two identifiers are the same word. Letters decompose and marks come in one order;
identifiers that agree after that are forms of one word, such as a ligature and its two letters. -/

namespace SourceLayout.Text

/-! ### Decomposition -/

/-- The code points of the Hangul syllable with a number: a leading consonant, a vowel, and a
trailing consonant if it has one. -/
def syllableLetters (syllable : Nat) : List Nat :=
  let trailing := syllable % 28
  [0x1100 + syllable / 588, 0x1161 + syllable % 588 / 28] ++
    if trailing = 0 then [] else [0x11a7 + trailing]

/-- The code points that a code point decomposes into, which is itself if nothing else. -/
def decomposition (n : Nat) : List Nat :=
  if n < 0x80 then [n]
  else if 0xac00 ≤ n ∧ n ≤ 0xd7a3 then syllableLetters (n - 0xac00)
  else
    match decompositionRuns.find? fun run => run.1 ≤ n && n ≤ run.2.1 with
    | some (first, _, target) => [target + (n - first)]
    | none => (expansions.lookup n).getD [n]

/-! ### The order of marks -/

/-- The place of a code point among marks; zero for a code point that is no mark. -/
def markClass (n : Nat) : Nat :=
  match markClasses.find? fun run => run.1 ≤ n && n ≤ run.2.1 with
  | some (_, _, place) => place
  | none => 0

/-- Puts a code point in front of others, where a mark moves behind the marks that come before it.
-/
def insertMark (n : Nat) : List Nat → List Nat
  | [] => [n]
  | m :: rest =>
    if 0 < markClass m ∧ markClass m < markClass n then m :: insertMark n rest else n :: m :: rest

/-- The code points with the marks on each letter in order. -/
def orderMarks (ns : List Nat) : List Nat := ns.foldr insertMark []

/-- What two identifiers share exactly if they are forms of one word. -/
def wordForm (s : String) : List Nat :=
  orderMarks (s.toList.flatMap fun c => decomposition c.toNat)

end SourceLayout.Text
