import SourceLayout.Text.Quoted

/-! A name is a placeholder for an identifier.  It proposes a text; the text it is written with is
chosen later, by an assignment. -/

namespace SourceLayout

/-- A placeholder for an identifier.  `id` tells apart names with equal proposals, and a fixed name
is only ever written as proposed. -/
structure Name where
  id : Nat
  proposed : String
  fixed : Bool := false
deriving DecidableEq, Repr, Inhabited

namespace Name

/-- The name as faults show it. -/
def describe (n : Name) : String :=
  (if n.fixed then "FixedName(" else "Name(") ++ Text.quoted n.proposed ++ ")"

end Name

end SourceLayout
