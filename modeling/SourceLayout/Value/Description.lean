import SourceLayout.Value

/-! How a value is shown in faults and in template output.  Texts stand between quotes, collections
between their brackets, and fragments by the name of their form and of its parts. -/

namespace SourceLayout

namespace Mark

/-- The mark as faults show it. -/
def describe : Mark → String
  | .plain => "AnnotationData()"
  | .issue message => "IssueAnnotationData(message=" ++ Text.quoted message ++ ")"

end Mark

namespace Assignment

/-- The assignment as faults show it. -/
def describe (a : Assignment) : String :=
  "pmap(\x7b" ++
    ", ".intercalate (a.entries.map fun entry => entry.1.describe ++ ": " ++ Text.quoted entry.2) ++
    "\x7d)"

end Assignment

namespace Value

/-- Shown items between brackets, with a comma and a space between neighbours. -/
def bracketed (opening closing : String) (items : List String) : String :=
  opening ++ ", ".intercalate items ++ closing

/-- Shown items as a tuple, in which a comma follows a single item. -/
def tupled : List String → String
  | [item] => "(" ++ item ++ ",)"
  | items => bracketed "(" ")" items

/-- Shown items as a set, which has a form of its own when it is empty. -/
def setOf : List String → String
  | [] => "set()"
  | items => bracketed "\x7b" "\x7d" items

mutual

/-- The value as faults and templates show it. -/
def describe : Value → String
  | .str s => Text.quoted s
  | .int n => toString n
  | .bool true => "True"
  | .bool false => "False"
  | .none => "None"
  | .name n => n.describe
  | .list vs => bracketed "[" "]" (describeAll vs)
  | .tuple vs => tupled (describeAll vs)
  | .vector vs => bracketed "pvector([" "])" (describeAll vs)
  | .set vs => setOf (describeAll vs)
  | .dict es => bracketed "\x7b" "\x7d" (describeEntries es)
  | .assignment a => a.describe
  | .fragment f => describeFragment f

/-- The values as faults show them, in order. -/
def describeAll : List Value → List String
  | [] => []
  | v :: vs => describe v :: describeAll vs

/-- The entries of a dictionary as faults show them, in order. -/
def describeEntries : List (String × Value) → List String
  | [] => []
  | (key, v) :: es => (Text.quoted key ++ ": " ++ describe v) :: describeEntries es

/-- The fragment as faults show it. -/
def describeFragment : Fragment Value → String
  | .text s => "TextSource(text=" ++ Text.quoted s ++ ")"
  | .newline change => "NewlineSource(indentation_change=" ++ toString change ++ ")"
  | .pending index => "PendingNewline(index=" ++ toString index ++ ")"
  | .name n => "NameSource(name=" ++ n.describe ++ ")"
  | .seq fs => bracketed "SequenceSource(children=pvector([" "]))" (describeFragments fs)
  | .table rows => bracketed "TableSource(rows=pvector([" "]))" (describeRows rows)
  | .marked a f =>
    "AnnotatedSource(annotation=" ++ a.describe ++ ", source=" ++ describeFragment f ++ ")"
  | .foreign v => describe v

/-- The fragments as faults show them, in order. -/
def describeFragments : List (Fragment Value) → List String
  | [] => []
  | f :: fs => describeFragment f :: describeFragments fs

/-- The rows of a table as faults show them, in order. -/
def describeRows : List (List (Fragment Value)) → List String
  | [] => []
  | row :: rows => bracketed "pvector([" "])" (describeFragments row) :: describeRows rows

end

end Value

end SourceLayout
