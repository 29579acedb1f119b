import SourceLayout.Template.Outline

/-! Templates become text.  Texts are written as they are and every other object as faults show it.
-/

namespace SourceLayout.Template

/-- A loop so far: what its rounds wrote, latest first, where the next object comes from, whether a
round has begun, and whether there is none left. -/
structure Progress where
  written : List (List Nat) := []
  supply : Supply
  hasBegun : Bool := false
  isOver : Bool := false
deriving Inhabited

namespace Progress

/-- The object for the next round, if there is one, and the progress after it is taken. -/
def next (p : Progress) : Evaluation (Option Object × Progress) := do
  if p.isOver then return (none, p)
  let (o?, supply) ← modifyGet fun m =>
    let (o?, supply, m) := m.take p.supply
    ((o?, supply), m)
  return (o?, { p with supply, hasBegun := p.hasBegun || o?.isSome, isOver := o?.isNone })

end Progress

/-- What a round gives to the body: its item, and the loop itself if the body reads it; then the
object is a pair that begins with the item. -/
def roundGiven (name : String) (place? : Option Nat) (o : Object) : List (String × Object) :=
  match place?, o with
  | some place, .tuple (item :: _) _ => [(name, item), (loopName, .loop place)]
  | _, o => [(name, o)]

/-- Begins a loop over a source with a supply, as a loop of its own where the body reads it: the
supply that its rounds are taken from, and the place of the loop. -/
def beginLoop (s : Setting) (isExtended : Bool) (source : Object) (supply : Supply) :
    Evaluation (Supply × Option Nat) := do
  if isExtended then
    let size? ← match source with
      | .loop _ => pure none
      | o => o.length? s.registry
    let place := (← get).loops.size
    modify (·.push { source, size?, supply })
    return (.rounds place, some place)
  else return (supply, none)

mutual

/-- What a part writes. -/
def Node.render (s : Setting) (scope : Scope) : Node → Evaluation (List Nat)
  | .literal text => return Text.codes text
  | .output e => do (← (← e.eval s scope).use).write s.registry
  | .loop name items body otherwise => do
    let source ← (← items.eval s scope).use
    let (supply, place?) ←
      beginLoop s (Node.readsFirst loopName body) source (← source.supply s.registry)
    let p ← (List.range ((← get).left supply)).foldlM
      (fun (p : Progress) _ => do
        match ← p.next with
        | (none, p) => return p
        | (some o, p) =>
          let level := Level.of s scope (roundGiven name place? o) body
          let written ← Node.renderAll s (level :: scope) body
          return { p with written := written :: p.written })
      { supply := supply }
    if place?.isSome then modify (·.pop)
    if p.hasBegun then return p.written.reverse.flatten
    else Node.renderAll s (Level.of s scope [] otherwise :: scope) otherwise
  | .choice test body _ otherwise => do
    if ← (← (← test.eval s scope).use).isTrue s.registry then Node.renderAll s scope body
    else Node.renderAll s scope otherwise

/-- What parts write, one after the other. -/
def Node.renderAll (s : Setting) (scope : Scope) : List Node → Evaluation (List Nat)
  | [] => return []
  | node :: nodes => do
    let written ← node.render s scope
    let rest ← Node.renderAll s scope nodes
    return written ++ rest

end

/-- The text of a template.  A template that does not parse, or that shows a fault before it is
rendered, writes nothing; neither does any template for a variable with the template's own name. -/
def render (s : Setting) (template : String) : Except Fault String := do
  let nodes ← Node.ofTemplate template
  Node.screenAll false nodes
  Node.checkLimits nodes
  if s.values.any (·.1 = selfName) then throw (.reservedVariable selfName)
  let outermost := Level.of s [] (Node.selfGiven nodes) nodes
  let (codes, _) ← (Node.renderAll s [outermost] nodes).run { known := s.known }
  return String.ofList (Text.written codes)

/-- What a template writes that parses, shows no fault beforehand and stays below the limits. -/
theorem render_of_parts {template : String} {nodes : List Node} (s : Setting)
    (hnodes : Node.ofTemplate template = .ok nodes) (hscreen : Node.screenAll false nodes = .ok ())
    (hlimits : Node.checkLimits nodes = .ok ()) :
    render s template =
      if s.values.any (·.1 = selfName) then .error (.reservedVariable selfName)
      else
        ((Node.renderAll s [Level.of s [] (Node.selfGiven nodes) nodes] nodes).run
          { known := s.known }).map fun written => String.ofList (Text.written written.1) := by
  rw [render, hnodes]
  simp only [bind, Except.bind, hscreen, hlimits]
  split
  · rfl
  · cases (Node.renderAll s [Level.of s [] (Node.selfGiven nodes) nodes] nodes).run
      { known := s.known } <;> rfl

end SourceLayout.Template
