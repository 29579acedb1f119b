import SourceLayout.Template.Member
import SourceLayout.Template.Node
import SourceLayout.Text.WordForm

/-! The variables of a template.  The whole template is one level, and every body of a loop is a
level inside it; a level begins by taking up the variables that are read in it and that no level
around it knows.  On one level, names that are forms of one word share their place, so the last one
taken up wins. -/

namespace SourceLayout.Template

/-- What a template is rendered with: the namespaces, the texts of the names, and the variables. -/
structure Setting where
  registry : Registry := .empty
  names : Assignment := .empty
  values : List (String × Value) := []
deriving Inhabited

/-- The object under a name outside of all loops. -/
def Setting.resolve? (s : Setting) (name : String) : Option Object :=
  ((s.values.lookup name).map (.ofValue (.variable name))).or (globalObjects.lookup name)

/-- All objects that are known by name outside of all loops. -/
def Setting.known (s : Setting) : List (String × Object) :=
  globalObjects.map (fun (name, o) => (name, (s.resolve? name).getD o)) ++
    (s.values.filter fun (name, _) => !globalObjects.any (·.1 = name)).map fun (name, v) =>
      (name, .ofValue (.variable name) v)

/-- A name that a level knows, with its form, whether it was given to the level, and the object that
it stands for, if there is one. -/
structure Binding where
  name : String
  form : List Nat
  isGiven : Bool
  object? : Option Object
deriving Inhabited

/-- The binding of a name that is given to a level. -/
def Binding.given (name : String) (o : Object) : Binding :=
  { name := name, form := Text.wordForm name, isGiven := true, object? := some o }

/-- The binding of a name that a level takes up. -/
def Binding.taken (name : String) (object? : Option Object) : Binding :=
  { name := name, form := Text.wordForm name, isGiven := false, object? := object? }

/-- The bindings of a level, latest first. -/
abbrev Level := List Binding

/-- The levels around a place in a template, innermost first. -/
abbrev Scope := List Level

namespace Scope

/-- A level knows the name. -/
def knows (scope : Scope) (name : String) : Bool := scope.any (·.any (·.name = name))

/-- The innermost level that knows the name was given it. -/
def isGiven (scope : Scope) (name : String) : Bool :=
  ((scope.findSome? fun level => level.find? (·.name = name)).map (·.isGiven)).getD false

/-- What a name stands for: on the innermost level that knows it, the latest binding of its word. A
name that was given to the level stands for what is missing when nothing is bound. -/
def read (scope : Scope) (name : String) : Object :=
  let found : Option Object := do
    let level ← scope.find? (·.any (·.name = name))
    let binding ← level.find? (·.form = Text.wordForm name)
    binding.object?
  let unbound : Object :=
    if scope.isGiven name then .missing
    else .undefined (.undefinedVariable name) .missing (.text name .shared)
  found.getD unbound

end Scope

/-! ### What parts of a template read -/

/-- A use of a name: it is read, or a loop gives it to its items. -/
inductive Use where
  | read (name : String)
  | given (name : String)
deriving DecidableEq, Repr, Inhabited

/-- The name that is used. -/
def Use.name : Use → String
  | read name | given name => name

mutual

/-- The uses of names in a part, in order. -/
def Node.uses : Node → List Use
  | .literal _ => []
  | .output e => e.reads.map .read
  | .loop name items body otherwise =>
    .given name :: items.reads.map .read ++ usesOfAll body ++ usesOfAll otherwise
  | .choice test body _ otherwise =>
    test.reads.map .read ++ usesOfAll body ++ usesOfAll otherwise

/-- The uses of names in parts, in order. -/
def Node.usesOfAll : List Node → List Use
  | [] => []
  | node :: nodes => node.uses ++ usesOfAll nodes

end

/-- The first use of the name in the parts reads it. -/
def Node.readsFirst (name : String) (nodes : List Node) : Bool :=
  (usesOfAll nodes).find? (·.name = name) = some (.read name)

mutual

/-- The names that a part reads on its own level, in order; the bodies of a loop are other levels.
-/
def Node.reads : Node → List String
  | .literal _ => []
  | .output e => e.reads
  | .loop _ items _ _ => items.reads
  | .choice test body _ otherwise => test.reads ++ readsOfAll body ++ readsOfAll otherwise

/-- The names that parts read on their own level, in order. -/
def Node.readsOfAll : List Node → List String
  | [] => []
  | node :: nodes => node.reads ++ readsOfAll nodes

end

/-- The level of parts inside a scope: the names that are given to it, and then the names that the
parts read and that are not known yet. -/
def Level.of (s : Setting) (scope : Scope) (given : List (String × Object)) (nodes : List Node) :
    Level :=
  let known (name : String) : Bool := given.any (·.1 = name) || scope.knows name
  let taken := (Node.readsOfAll nodes).eraseDups.filter (!known ·)
  let bindings := given.map (fun entry => Binding.given entry.1 entry.2) ++
    taken.map fun name => Binding.taken name (s.resolve? name)
  bindings.reverse

end SourceLayout.Template
