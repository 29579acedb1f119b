import SourceLayout.Builder.Program
import SourceLayout.Naming.Assigning
import SourceLayout.Template.Rendering

/-! A renderer turns what an emitter says into text. The first call that needs names has them
assigned; all later calls use that assignment. A rendering runs the emitter's program on a fresh
builder, and a template is filled in without any tree. -/

namespace SourceLayout

/-- What emitters and assigners work on: the namespaces, and whatever they remember themselves. -/
structure World (μ : Type) where
  registry : Registry
  memory : μ

/-- What knows how to write a target: the namespaces of its names, in order, the program that emits
its output under an assignment, and the variables of its templates if it has any of its own. It may
answer otherwise each time, fail instead, and change the world. -/
structure Emitter (μ : Type) where
  setUp : World μ → World μ × Except Fault (List NamespaceId)
  emit : Assignment → World μ → World μ × List Step
  variables? : Option (Assignment → World μ → World μ × Except Fault (List (String × Value)))

/-- The emitter that always gives these namespaces or fails for this reason, and always has this
program and these variables. -/
def Emitter.fixed {μ : Type} (given : Except Fault (List NamespaceId))
    (program : Assignment → List Step) (variables? : Option (List (String × Value))) :
    Emitter μ where
  setUp w := (w, given)
  emit names w := (w, program names)
  variables? := variables?.map fun values _ w => (w, .ok values)

/-- What assigns the names of namespaces. -/
abbrev Assigner (μ : Type) :=
  List NamespaceId → World μ → World μ × Except Fault Assignment

namespace Assigner

variable {μ : Type}

/-- The assigner of texts that are unique in their namespaces. -/
def standard : Assigner μ := fun order w =>
  let (registry, result) := w.registry.assign order
  ({ w with registry }, result)

/-- The assigner that always gives one assignment. -/
def always (a : Assignment) : Assigner μ := fun _ w => (w, .ok a)

/-- The assigner that takes a note of what it is given before another one does the work. -/
def recording (note : List NamespaceId → World μ → μ) (assigner : Assigner μ) : Assigner μ :=
  fun order w => assigner order { w with memory := note order w }

end Assigner

/-- The choices of a renderer: the indentation of one level, and who assigns the names. -/
structure Config (μ : Type) where
  indentation : String := defaultIndentation
  assigner : Assigner μ := Assigner.standard

/-- An emitter with the model it writes, the comments that go first, and the choices. -/
structure Renderer (μ γ : Type) where
  emitter : Emitter μ
  typeGraph : γ
  comments : List Value := []
  config : Config μ := {}

/-- The finished output: its tree, the names in it and the written lines. -/
structure Rendered where
  tree : Tree
  names : Assignment
  sheet : Sheet

/-- The call of a renderer. -/
inductive Call where
  | render
  | names
  | template (text : String)
  | typeGraph
deriving DecidableEq, Repr, Inhabited

/-- What a call gives. -/
inductive Reply (γ : Type) where
  | rendered (result : Rendered)
  | names (a : Assignment)
  | text (s : String)
  | typeGraph (g : γ)

namespace Renderer

/-- What a renderer remembers between calls: the world, the assignment once there is one, and the
assignment that templates look names up in once there was a template. -/
structure State (μ : Type) where
  world : World μ
  names? : Option Assignment := none
  environment? : Option Assignment := none

/-- The comments that a value stands for: its elements, and none for a value that does not count as
true. -/
def commentsOf (v : Value) : Except Fault (List Value) :=
  if v.truth then v.elements else .ok []

variable {μ γ : Type}

/-- Has the names assigned of the namespaces that the emitter gives, each counted once. -/
def attempt (r : Renderer μ γ) (w : World μ) : World μ × Except Fault Assignment :=
  match r.emitter.setUp w with
  | (w, .error fault) => (w, .error fault)
  | (w, .ok namespaces) => r.config.assigner (Registry.unique namespaces) w

/-- Has the names assigned, unless they are already. -/
def assignNames (r : Renderer μ γ) (s : State μ) : State μ × Except Fault Assignment :=
  match s.names? with
  | some a => (s, .ok a)
  | none =>
    let (world, result) := r.attempt s.world
    ({ s with world, names? := result.toOption }, result)

/-- The steps before those of the emitter: each comment as a line, and a request for a blank
line. -/
def opening (r : Renderer μ γ) : List Step :=
  r.comments.map (fun comment => .line [comment]) ++ [.requestBlank]

/-- The output under an assignment, and what was probed meanwhile, latest first. The emitter says
its program when the comments are written, and the tree ends with it. -/
def renderWith (r : Renderer μ γ) (names : Assignment) (w : World μ) :
    World μ × List Probe × Except Fault Rendered :=
  let opened := Step.runAll names r.opening .fresh
  let (w, program) := if opened.fault.isNone then r.emitter.emit names w else (w, [])
  let o := opened.andThen (Step.runAll names (program ++ [.finish]))
  (w, o.state.probes,
    match o.fault with
    | some fault => .error fault
    | none => do
      let sheet ← o.state.tree.toSheet names r.config.indentation
      return { tree := o.state.tree, names, sheet })

/-- The variables of templates: the emitter's own, or the assignment. -/
def context (r : Renderer μ γ) (names : Assignment) (w : World μ) :
    World μ × Except Fault (List (String × Value)) :=
  match r.emitter.variables? with
  | some give => give names w
  | none => (w, .ok [("names", .assignment names)])

/-- The text of a template whose names are looked up in `environment`. -/
def fill (r : Renderer μ γ) (names environment : Assignment) (template : String) (w : World μ) :
    World μ × Except Fault String :=
  let (w, values) := r.context names w
  (w, do
    let values ← values
    Template.render { registry := w.registry, names := environment, values } template)

/-- A call, with what it probed, latest first. -/
def call (r : Renderer μ γ) (s : State μ) (c : Call) :
    State μ × List Probe × Except Fault (Reply γ) :=
  match c with
  | .render =>
    match r.assignNames s with
    | (s, .error fault) => (s, [], .error fault)
    | (s, .ok names) =>
      let (world, probes, result) := r.renderWith names s.world
      ({ s with world }, probes, result.map .rendered)
  | .names =>
    match s.names? with
    | some a => (s, [], .ok (.names a))
    | none => (s, [], .error .namesUnassigned)
  | .template text =>
    match r.assignNames s with
    | (s, .error fault) => (s, [], .error fault)
    | (s, .ok names) =>
      -- The environment is made with the first template, and kept.
      let environment := s.environment?.getD names
      let (world, result) := r.fill names environment text s.world
      ({ s with world, environment? := some environment }, [], result.map .text)
  | .typeGraph => (s, [], .ok (.typeGraph r.typeGraph))

end Renderer

end SourceLayout
