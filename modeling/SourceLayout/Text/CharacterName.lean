import SourceLayout.Text.Classes
import SourceLayout.Text.NameTable

/-! Characters by name. Case does not matter in the names of the tables, nor in names that end in
the character's own code point; the names of unified ideographs and of Hangul syllables follow rules
too, and are written in capitals. -/

namespace SourceLayout.Text

/-! ### Names by rule -/

/-- The code points of the ideographs that have a name by rule. -/
def ideographRanges : List (Nat × Nat) :=
  [(0x3400, 0x4dbf), (0x4e00, 0x9fff), (0x20000, 0x2a6df), (0x2a700, 0x2b738), (0x2b740, 0x2b81d),
   (0x2b820, 0x2cea1), (0x2ceb0, 0x2ebe0), (0x30000, 0x3134a)]

/-- A code point of the ranges, written with four or five digits. -/
def codePointIn? (ranges : List (Nat × Nat)) (digits : List Char) : Option Nat := do
  guard (digits.length = 4 || digits.length = 5)
  let n ← capitalHex? digits
  guard (ranges.any fun range => range.1 ≤ n && n ≤ range.2)
  return n

/-- The beginnings of names that end in the code point, and the code points that have such names. -/
def numberedNames : List (String × List (Nat × Nat)) :=
  [("CJK COMPATIBILITY IDEOGRAPH-", [(0xf900, 0xfa6d), (0xfa70, 0xfad9), (0x2f800, 0x2fa1d)]),
   ("KHITAN SMALL SCRIPT CHARACTER-", [(0x18b00, 0x18cd5)]),
   ("NUSHU CHARACTER-", [(0x1b170, 0x1b2fb)])]

/-- The leading consonants of the Hangul syllables, in order. -/
def leadingConsonants : List String :=
  ["G", "GG", "N", "D", "DD", "R", "M", "B", "BB", "S", "SS", "", "J", "JJ", "C", "K", "T", "P",
   "H"]

/-- The vowels of the Hangul syllables, in order. -/
def vowels : List String :=
  ["A", "AE", "YA", "YAE", "EO", "E", "YEO", "YE", "O", "WA", "WAE", "OE", "YO", "U", "WEO", "WE",
   "WI", "YU", "EU", "YI", "I"]

/-- The trailing consonants of the Hangul syllables, in order, after none. -/
def trailingConsonants : List String :=
  ["", "G", "GG", "GS", "N", "NJ", "NH", "D", "L", "LG", "LM", "LB", "LS", "LT", "LP", "LH", "M",
   "B", "BS", "S", "SS", "NG", "J", "C", "K", "T", "P", "H"]

/-- The longest of the letters with which a text begins, by its place among them, and the rest. -/
def longestLetter? (letters : List String) (cs : List Char) : Option (Nat × List Char) :=
  let found := letters.zipIdx.filter fun letter => letter.1.toList.isPrefixOf cs
  let longest := found.foldl
    (fun best letter =>
      match best with
      | some b => if letter.1.length > b.1.length then some letter else best
      | none => some letter)
    (none : Option (String × Nat))
  longest.map fun letter => (letter.2, cs.drop letter.1.length)

/-- The Hangul syllable that the letters spell. -/
def syllable? (cs : List Char) : Option Nat := do
  let (leading, cs) ← longestLetter? leadingConsonants cs
  let (vowel, cs) ← longestLetter? vowels cs
  let (trailing, cs) ← longestLetter? trailingConsonants cs
  guard cs.isEmpty
  return 0xac00 + (leading * 21 + vowel) * 28 + trailing

/-- The text after a beginning that it has. -/
def after? (beginning name : String) : Option (List Char) :=
  if beginning.toList.isPrefixOf name.toList then some (name.toList.drop beginning.length) else none

/-- The code point whose name ends in it, without zeros in front of five digits. -/
def numberedName? (name : String) : Option Nat :=
  numberedNames.findSome? fun entry => do
    let digits ← after? entry.1 name
    guard (digits.length = 4 || digits.head? ≠ some '0')
    codePointIn? entry.2 digits

/-- The character with a name. -/
def characterNamed? (name : String) : Option Char :=
  match after? "CJK UNIFIED IDEOGRAPH-" name, after? "HANGUL SYLLABLE " name with
  | some digits, _ => (codePointIn? ideographRanges digits).map Char.ofNat
  | none, some letters => (syllable? letters).map Char.ofNat
  | none, none =>
    let capitals := name.toUpper
    ((numberedName? capitals).or (tabledName? capitals)).map Char.ofNat

end SourceLayout.Text
