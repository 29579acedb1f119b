import SourceLayout.Naming.Namespace
import SourceLayout.Naming.Suffix

/-! Names get their texts, one namespace after the other. In a namespace the fixed names come first,
as proposed; every other name takes the first free text from its proposal on. A namespace is sealed
once its names have their texts. -/

namespace SourceLayout

namespace Namespace

/-- The fixed names with their proposals, none of which may be used already. -/
def fixedEntries (label : String) : (used : List String) → List Name →
    Except Fault (List (Name × String))
  | _, [] => .ok []
  | used, n :: ns => do
    if n.proposed ∈ used then .error (.fixedClash n.proposed label)
    let rest ← fixedEntries label (n.proposed :: used) ns
    return (n, n.proposed) :: rest

/-- The names with the first texts from their proposals on that are not used yet. -/
def freeEntries : (used : List String) → List Name → List (Name × String)
  | _, [] => []
  | used, n :: ns =>
    let s := uniqueText n.proposed used
    (n, s) :: freeEntries (s :: used) ns

/-- The members of a namespace with their texts, where `taken` is used elsewhere. -/
def entries (s : Namespace) (taken : List String) : Except Fault (List (Name × String)) := do
  let fixed ← fixedEntries s.label taken (s.members.filter (·.fixed))
  let used := fixed.map (·.2)
  return fixed ++ freeEntries (used ++ taken) (s.members.filter (!·.fixed))

end Namespace

/-- The entries of the namespaces assigned so far, latest first. -/
abbrev Assigned := List (NamespaceId × List (Name × String))

namespace Assigned

/-- The texts in use in a namespace that is assigned. -/
def textsOf? (done : Assigned) (id : NamespaceId) : Option (List String) :=
  (done.lookup id).map (·.map (·.2))

/-- The assignment of all names so far. -/
def toAssignment (done : Assigned) : Assignment :=
  Assignment.ofList (done.reverse.flatMap (·.2))

end Assigned

namespace Registry

/-- The texts of the forbidden namespaces of the namespace labelled `label`, all of which must be
assigned already. -/
def forbiddenTexts (r : Registry) (done : Assigned) (label : String) :
    List NamespaceId → Except Fault (List String)
  | [] => .ok []
  | id :: ids => do
    match done.textsOf? id with
    | some texts =>
      let rest ← r.forbiddenTexts done label ids
      return texts ++ rest
    | none => .error (.forbiddenLater label (r.lookup id).label)

/-- The members of a namespace with their texts, after the namespaces assigned before it. -/
def assignOne (r : Registry) (done : Assigned) (id : NamespaceId) :
    Except Fault (List (Name × String)) := do
  let taken ← r.forbiddenTexts done (r.lookup id).label (r.lookup id).forbidden
  (r.lookup id).entries taken

/-- Assigns and seals the namespaces in order. A fault ends the run; what was sealed before it stays
sealed. -/
def assignFrom (r : Registry) (done : Assigned) :
    List NamespaceId → Registry × Except Fault Assignment
  | [] => (r, .ok done.toAssignment)
  | id :: ids =>
    match r.assignOne done id with
    | .ok entries => (r.close id).assignFrom ((id, entries) :: done) ids
    | .error fault => (r, .error fault)

/-- Gives a text to every member of the namespaces in `order`, in which a repetition counts for
nothing. -/
def assign (r : Registry) (order : List NamespaceId) : Registry × Except Fault Assignment :=
  r.assignFrom [] (unique order)

end Registry

end SourceLayout
