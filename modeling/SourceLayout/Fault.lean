import SourceLayout.Text.Decimal
import SourceLayout.Text.Lines
import SourceLayout.Value.Description

/-! What can go wrong, by cause.  `Fault.message` is the one place where a cause becomes words. -/

namespace SourceLayout

/-- What a template uses with operands. -/
inductive Usage where
  | comparison
  | nameText
  | length
deriving DecidableEq, Repr, Inhabited

/-- The cause of a failure. -/
inductive Fault where
  /-- A fragment was emitted after the tree was finished. -/
  | treeFinished
  /-- The tree was finished while a region was open. -/
  | regionOpen
  /-- The body of a region left another write target behind. -/
  | targetNotRestored
  /-- The indentation was changed before there was a line break to carry the change. -/
  | firstLineIndent
  /-- A line of a block is indented by no multiple of the tab width. -/
  | unevenIndent (line : String)
  /-- A line arena holds no break with the index asked for. -/
  | noSuchBreak
  /-- A number of more than 64 bits was used as an index. -/
  | indexTooLarge
  /-- No choice of blank lines has this text. -/
  | unknownBlankLines (value : Value)
  /-- The value stands for no output. -/
  | notConvertible (value : Value)
  /-- The value has no elements to go through. -/
  | notIterable (kind : String)
  /-- A line would be indented by fewer than zero levels. -/
  | levelBelowZero
  /-- A line would be indented by more levels than can be counted. -/
  | levelTooLarge
  /-- The margin of a line would have more characters than can be counted. -/
  | marginTooLong
  /-- The margin of a line would take more bytes than can be counted. -/
  | marginTooLarge
  /-- A line break still waits for its change of indentation. -/
  | treeUnfinished
  /-- The child is no fragment. -/
  | unknownFragment (value : Value)
  /-- The name has no text. -/
  | unassigned (name : Name)
  /-- Emitting code asked for the text of a name that has none. -/
  | missingName (name : Name)
  /-- A name was added to a namespace whose names are assigned. -/
  | namespaceSealed (label : String)
  /-- A name was added that belongs to a namespace already. -/
  | nameTaken (name : Name) (label : String)
  /-- A namespace forbids one that is not assigned before it. -/
  | forbiddenLater (label other : String)
  /-- A fixed name has a text that its namespace may not use again. -/
  | fixedClash (text label : String)
  /-- The names were asked for before they were assigned. -/
  | namesUnassigned
  /-- A failure of the emitter's or the assigner's own, of some kind and in its own words. -/
  | raised (kind words : String)
  /-- The template does not parse. -/
  | malformedTemplate
  /-- The template goes on with what templates may have, but these do not. -/
  | uncoveredTemplate
  /-- A template holds a decimal number of more digits than are read. -/
  | overlongNumber (digits : Nat)
  /-- A template holds a number that takes more decimal digits than are written. -/
  | unwritableNumber
  /-- The program of a template is indented too deep, first on a line. -/
  | indentationExceeded (line : Nat)
  /-- The program of a template opens too many parentheses at once, first on a line. -/
  | parenthesesExceeded (line : Nat)
  /-- The program of a template has too many loops inside each other, first on a line. -/
  | loopsExceeded (line : Nat)
  /-- A variable has a name that stands for the template itself. -/
  | reservedVariable (name : String)
  /-- A template uses a filter that does not exist. -/
  | unknownFilter (name : String)
  /-- A template uses a comparison that does not exist. -/
  | unknownComparison (name : String)
  /-- A template uses a variable that is not defined. -/
  | undefinedVariable (name : String)
  /-- A template uses an attribute, under a key as it is shown, that the value does not have. -/
  | missingAttribute (owner key : String)
  /-- A template uses an element, at an index as it is shown, that the value does not have. -/
  | missingElement (owner index : String)
  /-- A template uses a part, under a key as it is shown, of a variable that is missing. -/
  | missingOwner (key : String)
  /-- A template looks before the first round of a loop. -/
  | noPreviousItem
  /-- A template looks after the last round of a loop. -/
  | noNextItem
  /-- A template looks up a block of its own that it does not have. -/
  | noSuchBlock (key : String)
  /-- A template asks for the name text of something, as it is shown, that has none. -/
  | nameless (shown : String)
  /-- A template puts a sign in front of what is no number. -/
  | notSigned (sign kind : String)
  /-- A template compares a value with nothing. -/
  | operandMissing
  /-- A template uses more operands than there may be; `given` counts all of them. -/
  | operandsSurplus (usage : Usage) (given : Nat)
  /-- A template looks up a value that can be no key. -/
  | unhashable (kind : String)
  /-- A template asks for the length of a value that has none. -/
  | noLength (kind : String)
deriving Inhabited

namespace Fault

/-- The fault is a breach of the contract between emitters and the layout, and not a value of the
wrong kind, a limit of the machine, a failure of the emitter's own or one of a template. -/
def isBreach : Fault → Bool
  | .treeFinished | .regionOpen | .targetNotRestored | .firstLineIndent | .unevenIndent _
  | .notConvertible _ | .levelBelowZero | .treeUnfinished | .unknownFragment _ | .unassigned _
  | .namespaceSealed _ | .nameTaken _ _ | .forbiddenLater _ _ | .fixedClash _ _ | .namesUnassigned
  | .nameless _ => true
  | _ => false

/-- The words for a number with too many decimal digits, and what is known of it. -/
def digitsExceeded (known : String) : String :=
  "Exceeds the limit (" ++ toString Text.digitLimit ++ " digits) for integer string conversion" ++
    known ++ "; use sys.set_int_max_str_digits() to increase the limit"

/-- The words for a line of the program of a template. -/
def inProgram (line : Nat) : String := " (<template>, line " ++ toString line ++ ")"

/-- The words of a fault. -/
def message : Fault → String
  | .treeFinished => "Cannot emit into a finished source tree"
  | .regionOpen => "Cannot finish while an annotated region is open"
  | .targetNotRestored => "Current emit target not restored correctly"
  | .firstLineIndent => "Cannot change indent for the first line"
  | .unevenIndent line =>
    "Indentation is not a multiple of " ++ toString Text.tabWidth ++ ": " ++ Text.quoted line
  | .noSuchBreak => "list index out of range"
  | .indexTooLarge | .levelTooLarge => "cannot fit 'int' into an index-sized integer"
  | .marginTooLong => "repeated string is too long"
  | .marginTooLarge => ""
  | .unknownBlankLines v => v.describe ++ " is not a valid BlankLineLocations"
  | .notConvertible v => "Cannot convert " ++ v.describe ++ " to a source fragment"
  | .notIterable kind => Text.quoted kind ++ " object is not iterable"
  | .levelBelowZero => "Indentation level dropped below zero"
  | .treeUnfinished => "Cannot serialize a source tree that was not finished"
  | .unknownFragment v => "Unknown source fragment " ++ v.describe
  | .unassigned n => "No name assigned for " ++ n.describe
  | .missingName n => n.describe
  | .namespaceSealed label =>
    "Namespace " ++ Text.quoted label ++ " cannot change after names are assigned"
  | .nameTaken n label => n.describe ++ " already belongs to namespace " ++ Text.quoted label
  | .forbiddenLater label other =>
    "Namespace " ++ Text.quoted label ++ " forbids " ++ Text.quoted other ++
      ", which must be assigned first"
  | .fixedClash text label =>
    "Fixed name " ++ Text.quoted text ++ " clashes in namespace " ++ Text.quoted label
  | .namesUnassigned => "Names accessed before they were assigned"
  | .raised _ words => words
  | .malformedTemplate => "The template does not parse"
  | .uncoveredTemplate => "The template has a part that is not covered"
  | .overlongNumber digits => digitsExceeded (": value has " ++ toString digits ++ " digits")
  | .unwritableNumber => digitsExceeded ""
  | .indentationExceeded line => "too many levels of indentation" ++ inProgram line
  | .parenthesesExceeded line => "too many nested parentheses" ++ inProgram line
  | .loopsExceeded line => "too many statically nested blocks" ++ inProgram line
  | .reservedVariable name =>
    "Template.render() got multiple values for argument " ++ Text.quoted name
  | .unknownFilter name => "No filter named " ++ Text.quoted name ++ " found."
  | .unknownComparison name => "No test named " ++ Text.quoted name ++ " found."
  | .undefinedVariable name => Text.quoted name ++ " is undefined"
  | .missingAttribute owner key => Text.quoted owner ++ " has no attribute " ++ key
  | .missingElement owner index => owner ++ " has no element " ++ index
  | .missingOwner key => key ++ " is undefined"
  | .noPreviousItem => "there is no previous item"
  | .noNextItem => "there is no next item"
  | .noSuchBlock key => key
  | .nameless shown => "No name assigned for " ++ shown
  | .notSigned sign kind => "bad operand type for unary " ++ sign ++ ": " ++ Text.quoted kind
  | .operandMissing => "if_eq() missing 1 required positional argument: 'b'"
  | .operandsSurplus .comparison given =>
    "if_eq() takes 2 positional arguments but " ++ toString given ++ " were given"
  | .operandsSurplus .nameText given =>
    "make_environment.<locals>.resolve_name() takes 1 positional argument but " ++
      toString given ++ " were given"
  | .operandsSurplus .length given =>
    "len() takes exactly one argument (" ++ toString given ++ " given)"
  | .unhashable kind => "unhashable type: " ++ Text.quoted kind
  | .noLength kind => "object of type " ++ Text.quoted kind ++ " has no len()"

end Fault

/-- Two computations in a row give a result when the first one does and the second one goes on from
it. -/
theorem bind_eq_ok {α β : Type} {x : Except Fault α} {f : α → Except Fault β} {b : β} :
    (x >>= f) = .ok b ↔ ∃ a, x = .ok a ∧ f a = .ok b := by
  cases x with
  | error fault => simp [bind, Except.bind]
  | ok a => simp [bind, Except.bind]

/-- Two computations in a row fail when the first one does, or the second one does from its
result. -/
theorem bind_eq_error {α β : Type} {x : Except Fault α} {f : α → Except Fault β} {fault : Fault} :
    (x >>= f) = .error fault ↔ x = .error fault ∨ ∃ a, x = .ok a ∧ f a = .error fault := by
  cases x with
  | error other => simp [bind, Except.bind]
  | ok a => simp [bind, Except.bind]

/-- A computation and then a function of its result succeed when the computation does. -/
theorem map_eq_ok {α β : Type} {x : Except Fault α} {f : α → β} {b : β} :
    x.map f = .ok b ↔ ∃ a, x = .ok a ∧ f a = b := by
  cases x <;> simp [Except.map]

/-- A computation gives a result when it does so with a function after it. -/
theorem exists_map_eq_ok {α β : Type} {x : Except Fault α} {f : α → β} :
    (∃ b, x.map f = .ok b) ↔ ∃ a, x = .ok a := by
  cases x <;> simp [Except.map]

/-- A computation and then a function of its result fail when the computation does. -/
theorem map_eq_error {α β : Type} {x : Except Fault α} {f : α → β} {fault : Fault} :
    x.map f = .error fault ↔ x = .error fault := by
  cases x <;> simp [Except.map]

end SourceLayout
