import SourceLayout.WritingSystems.Names.AncientScripts
import SourceLayout.WritingSystems.Names.Dingbats
import SourceLayout.WritingSystems.Names.EasternScripts
import SourceLayout.WritingSystems.Names.FirstScripts
import SourceLayout.WritingSystems.Names.LaterScripts
import SourceLayout.WritingSystems.Names.Others
import SourceLayout.WritingSystems.Names.Pictographs
import SourceLayout.WritingSystems.Names.SignSystems
import SourceLayout.WritingSystems.Names.Symbols

/-! The names of characters in Unicode 14, in tables.  The lines of a table hold entries with commas
between them.  An entry that begins with an equals sign gives the code point of the next name in
hexadecimal digits; every other entry is a name, and names follow each other by code point.  A digit
in front of a name tells how many words it shares with the name before it. -/

namespace SourceLayout.Text

/-- A look-up in a table: the code point of the next name, the number of words at the head of the
latest name that are as in the name looked for, and the code point of that name once it is found. -/
structure NameSearch where
  next : Nat := 0
  agreed : Nat := 0
  found? : Option Nat := none
deriving DecidableEq, Repr, Inhabited

/-- The value of a hexadecimal digit in capitals. -/
def capitalHexValue? (c : Char) : Option Nat :=
  if '0' ≤ c ∧ c ≤ '9' then some (c.toNat - '0'.toNat)
  else if 'A' ≤ c ∧ c ≤ 'F' then some (c.toNat - 'A'.toNat + 10)
  else none

/-- The number that hexadecimal digits in capitals write. -/
def capitalHex? (digits : List Char) : Option Nat :=
  digits.foldlM (fun n c => (capitalHexValue? c).map (n * 16 + ·)) 0

/-- The number of words that two names have in common at their heads. -/
def agreement : List String → List String → Nat
  | word :: words, other :: others => if word = other then agreement words others + 1 else 0
  | _, _ => 0

namespace NameSearch

/-- The next name, of which `shared` words are as in the name before it and the others are written
after `mark` characters. A name that shares more words than the name before it agrees in is another
one. -/
def compare (wanted : List String) (shared mark : Nat) (written : String) (s : NameSearch) :
    NameSearch :=
  if s.agreed < shared then { s with next := s.next + 1 }
  else
    let words := (String.ofList (written.toList.drop mark)).splitOn " "
    let others := wanted.drop shared
    { next := s.next + 1
      agreed := shared + agreement words others
      found? := if words = others then some s.next else none }

/-- An entry of the table. -/
def entry (wanted : List String) (s : NameSearch) (written : String) : NameSearch :=
  let first := written.front
  if s.found?.isSome then s
  else if first = '=' then
    { s with next := (capitalHex? (written.toList.drop 1)).getD s.next }
  else if first.isDigit then s.compare wanted (first.toNat - '0'.toNat) 1 written
  else s.compare wanted 0 0 written

/-- A line of the table. -/
def line (wanted : List String) (s : NameSearch) (written : String) : NameSearch :=
  (written.splitOn ",").foldl (entry wanted) s

end NameSearch

/-- The tables of names. -/
def nameTables : List (List String) :=
  [Names.firstScripts, Names.laterScripts, Names.symbols, Names.dingbats, Names.easternScripts,
   Names.ancientScripts, Names.signSystems, Names.pictographs, Names.others]

/-- The code point that the tables give a name. -/
def tabledName? (name : String) : Option Nat :=
  let wanted := name.splitOn " "
  nameTables.findSome? fun table => (table.foldl (NameSearch.line wanted) {}).found?

end SourceLayout.Text
