import SourceLayout.Fault

/-! Where blank lines stand among the items of a list. -/

namespace SourceLayout

/-- Which items of a list ask for a blank line before them. -/
inductive BlankLines where
  | none
  | interposing
  | leading
  | leadingAndInterposing
deriving DecidableEq, Repr, Inhabited

namespace BlankLines

/-- Every item after the first asks for a blank line. -/
def isInterposing : BlankLines → Bool
  | .interposing | .leadingAndInterposing => true
  | .none | .leading => false

/-- The first item asks for a blank line. -/
def isLeading : BlankLines → Bool
  | .leading | .leadingAndInterposing => true
  | .none | .interposing => false

/-- The text that chooses these blank lines. -/
def text : BlankLines → String
  | .none => "none"
  | .interposing => "interposing"
  | .leading => "leading"
  | .leadingAndInterposing => "leading-and-interposing"

/-- The blank lines that a text chooses. -/
def ofText? : String → Option BlankLines
  | "none" => some .none
  | "interposing" => some .interposing
  | "leading" => some .leading
  | "leading-and-interposing" => some .leadingAndInterposing
  | _ => Option.none

/-- The blank lines that a value chooses, by its text. -/
def ofValue : Value → Except Fault BlankLines
  | .str s =>
    match ofText? s with
    | some b => .ok b
    | Option.none => .error (.unknownBlankLines (.str s))
  | v => .error (.unknownBlankLines v)

theorem ofText?_text (b : BlankLines) : ofText? b.text = some b := by
  cases b <;> rfl

end BlankLines

end SourceLayout
