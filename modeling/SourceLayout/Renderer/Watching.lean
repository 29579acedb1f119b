import SourceLayout.Renderer

/-! A renderer can be watched.  What its emitter and its assigner are asked, and what they give, is
noted in a memory beside their own, which they do not see. -/

namespace SourceLayout

/-- What there is to see: the emitter is asked for its namespaces, or the assigner is run on
namespaces; and what they give. -/
inductive Renderer.Event where
  | setUp (given : Except Fault (List NamespaceId))
  | assigner (order : List NamespaceId) (given : Except Fault Assignment)

/-- What was seen, in order, beside what emitters and assigners remember themselves. -/
structure Watched (μ : Type) where
  events : List Renderer.Event := []
  memory : μ

variable {μ γ α : Type}

namespace World

/-- The world with what was seen in it. -/
def watched (events : List Renderer.Event) (w : World μ) : World (Watched μ) :=
  ⟨w.registry, ⟨events, w.memory⟩⟩

/-- The world as those who are watched see it. -/
def unwatched (w : World (Watched μ)) : World μ := ⟨w.registry, w.memory.memory⟩

/-- The events in the world. -/
def events (w : World (Watched μ)) : List Renderer.Event := w.memory.events

/-- What is done to a world, and then seen. -/
def watching (seen : α → List Renderer.Event) (act : World μ → World μ × α)
    (w : World (Watched μ)) : World (Watched μ) × α :=
  let (after, given) := act w.unwatched
  (after.watched (w.events ++ seen given), given)

end World

/-- The emitter under watch, of which only the requests for namespaces are noted. -/
def Emitter.watched (e : Emitter μ) : Emitter (Watched μ) where
  setUp := World.watching (fun given => [.setUp given]) e.setUp
  emit names := World.watching (fun _ => []) (e.emit names)
  variables? := e.variables?.map fun give names => World.watching (fun _ => []) (give names)

/-- The assigner under watch. -/
def Assigner.watched (assigner : Assigner μ) : Assigner (Watched μ) := fun order =>
  World.watching (fun given => [.assigner order given]) (assigner order)

/-- The renderer under watch. -/
def Renderer.watched (r : Renderer μ γ) : Renderer (Watched μ) γ where
  emitter := r.emitter.watched
  typeGraph := r.typeGraph
  comments := r.comments
  config := { indentation := r.config.indentation, assigner := r.config.assigner.watched }

namespace Renderer.Event

/-- The emitter was asked for its namespaces. -/
def isSetUp : Event → Bool
  | setUp _ => true
  | assigner _ _ => false

/-- The namespaces that the assigner was run on, if it was. -/
def order? : Event → Option (List NamespaceId)
  | setUp _ => none
  | assigner order _ => some order

end Renderer.Event

end SourceLayout
