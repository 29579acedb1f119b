import SourceLayout.Fault

/-! Namespaces group names that must get different texts. A registry holds all namespaces by number.
A name belongs to one namespace at most, and a sealed namespace takes no more names. -/

namespace SourceLayout

/-- The number of a namespace in its registry. -/
abbrev NamespaceId := Nat

/-- A group of names.  The texts of its forbidden namespaces are not used in it. -/
structure Namespace where
  label : String
  forbidden : List NamespaceId := []
  members : List Name := []
  sealed : Bool := false
deriving DecidableEq, Repr, Inhabited

/-- The namespace as faults show it. -/
def Namespace.describe (s : Namespace) : String :=
  "Namespace(" ++ Text.quoted s.label ++ ", members=" ++ toString s.members.length ++ ")"

/-- The namespaces that exist, by number. -/
structure Registry where
  namespaces : List Namespace := []
deriving DecidableEq, Repr, Inhabited

namespace Registry

/-- The registry without namespaces. -/
def empty : Registry := {}

/-- The namespace with a number.  A number that none has gives one without members. -/
def lookup (r : Registry) (id : NamespaceId) : Namespace := r.namespaces.getD id default

/-- The registry with the namespace of a number changed. -/
def update (r : Registry) (id : NamespaceId) (change : Namespace → Namespace) : Registry :=
  ⟨r.namespaces.modify id change⟩

/-- The registry with one more namespace, which has the next number. -/
def create (r : Registry) (label : String) (forbidden : List NamespaceId) : Registry :=
  ⟨r.namespaces ++ [{ label := label, forbidden := forbidden }]⟩

/-- The namespace that a name belongs to. -/
def owner? (r : Registry) (n : Name) : Option Namespace :=
  r.namespaces.find? fun s => s.members.contains n

/-- The number of the namespace that a name belongs to. -/
def ownerId? (r : Registry) (n : Name) : Option NamespaceId :=
  r.namespaces.findIdx? fun s => s.members.contains n

/-- The registry with a name as last member of a namespace, which must not be sealed, if the name
belongs to none yet. -/
def add (r : Registry) (id : NamespaceId) (n : Name) : Except Fault Registry :=
  if (r.lookup id).sealed then .error (.namespaceSealed (r.lookup id).label)
  else
    match r.owner? n with
    | some owner => .error (.nameTaken n owner.label)
    | none => .ok (r.update id fun s => { s with members := s.members ++ [n] })

/-- The registry in which a namespace takes no more names. -/
def close (r : Registry) (id : NamespaceId) : Registry :=
  r.update id fun s => { s with sealed := true }

/-- The registry in which a namespace has other forbidden namespaces. -/
def forbid (r : Registry) (id : NamespaceId) (forbidden : List NamespaceId) : Registry :=
  r.update id fun s => { s with forbidden }

/-- The namespaces of a list without repetitions, each where it comes first. -/
def unique (order : List NamespaceId) : List NamespaceId := order.eraseDups

end Registry

end SourceLayout
