import SourceLayout.Template.Object

/-! Loops that run.  A loop takes its items one by one from a supply, and may look one item ahead.
The supply can be another loop: then the rounds of the one begin rounds of the other. -/

namespace SourceLayout.Template

/-- Where items come from: objects in order; the rounds of the loop at a place, as pairs of an item
and the loop; or what that loop has not taken yet. -/
inductive Supply where
  | items (rest : List Object)
  | rounds (place : Nat)
  | stock (place : Nat)
deriving Inhabited

/-- A loop: what it goes through, how many elements that has if it can tell, and where the next item
comes from; how many rounds have begun and, once they are counted, how many there are; whether it
has looked ahead, and at which item; and the items of the latest round and of the round before. -/
structure Loop where
  source : Object
  size? : Option Nat
  supply : Supply
  begun : Nat := 0
  total? : Option Nat := none
  hasLookedAhead : Bool := false
  ahead? : Option Object := none
  current? : Option Object := none
  previous? : Option Object := none
deriving Inhabited

/-- The loop after a further round with an item has begun. -/
def Loop.begin (item : Object) (loop : Loop) : Loop :=
  { loop with
    begun := loop.begun + 1
    ahead? := none
    current? := some item
    previous? := loop.current? }

/-- The loops that run, outermost first, how many objects were made, and the objects that are known
by name outside of all loops. -/
structure Memory where
  loops : Array Loop := #[]
  made : Nat := 0
  known : List (String × Object) := []
deriving Inhabited

/-- What is worked out while a template is rendered. -/
abbrev Evaluation := StateT Memory (Except Fault)

namespace Memory

/-- The loop at a place. -/
def loop (m : Memory) (place : Nat) : Loop := m.loops.getD place default

/-- The memory with the loop at a place changed. -/
def update (m : Memory) (place : Nat) (change : Loop → Loop) : Memory :=
  { m with loops := m.loops.modify place change }

/-- The memory after a round with an item has begun in the loop at a place, and the pair for it. -/
def beginRound (m : Memory) (place : Nat) (item : Object) : Object × Memory :=
  (.tuple [item, .loop place] (.made m.made),
    { m.update place (·.begin item) with made := m.made + 1 })

/-- The next object of a supply, if there is one, and the supply after it; through at most `depth`
loops. -/
def takeThrough : (depth : Nat) → Supply → Memory → Option Object × Supply × Memory
  | _, .items [], m => (none, .items [], m)
  | _, .items (o :: rest), m => (some o, .items rest, m)
  | depth + 1, .stock place, m =>
    let (o?, supply, m) := takeThrough depth (m.loop place).supply m
    (o?, .stock place, m.update place ({ · with supply }))
  | depth + 1, .rounds place, m =>
    match (m.loop place).ahead? with
    | some item =>
      let (pair, m) := m.beginRound place item
      (some pair, .rounds place, m)
    | none =>
      let (item?, supply, m) := takeThrough depth (m.loop place).supply m
      let m := m.update place ({ · with supply })
      match item? with
      | some item =>
        let (pair, m) := m.beginRound place item
        (some pair, .rounds place, m)
      | none => (none, .rounds place, m)
  | 0, supply, m => (none, supply, m)

/-- The next object of a supply, if there is one, and the supply after it. -/
def take (m : Memory) (supply : Supply) : Option Object × Supply × Memory :=
  takeThrough m.loops.size supply m

/-- At most so many objects are left in a supply, through at most `depth` loops. -/
def leftThrough (m : Memory) : (depth : Nat) → Supply → Nat
  | _, .items rest => rest.length
  | depth + 1, .rounds place | depth + 1, .stock place =>
    m.leftThrough depth (m.loop place).supply + 1
  | 0, _ => 0

/-- At most so many objects are left in a supply. -/
def left (m : Memory) (supply : Supply) : Nat := m.leftThrough m.loops.size supply

/-- The item after the latest round of the loop at a place, if there is one. -/
def lookAhead (m : Memory) (place : Nat) : Option Object × Memory :=
  match (m.loop place).ahead? with
  | some item => (some item, m)
  | none =>
    let (item?, supply, m) := m.take (m.loop place).supply
    (item?, m.update place ({ · with supply, ahead? := item?, hasLookedAhead := true }))

/-- All items that are left in a supply, which is no loop. -/
def drain (m : Memory) : Supply → List Object × Memory
  | .items rest => (rest, m)
  | .stock place | .rounds place =>
    match (m.loop place).supply with
    | .items rest => (rest, m.update place ({ · with supply := .items [] }))
    | _ => ([], m)

/-- The number of rounds of the loop at a place, which is that of its source; a source that cannot
tell is taken up to its end. Goes through at most `depth` loops. -/
def countThrough : (depth : Nat) → (place : Nat) → Memory → Nat × Memory
  | depth, place, m =>
    let loop := m.loop place
    match loop.total?, depth, loop.source, loop.size? with
    | some total, _, _, _ => (total, m)
    | none, depth + 1, .loop other, _ =>
      let (total, m) := countThrough depth other m
      (total, m.update place ({ · with total? := some total }))
    | none, _, _, some total => (total, m.update place ({ · with total? := some total }))
    | none, _, _, none =>
      let (items, m) := m.drain loop.supply
      let total := items.length + loop.begun + loop.ahead?.toList.length
      (total, m.update place ({ · with supply := .items items, total? := some total }))

/-- The number of rounds of the loop at a place. -/
def count (m : Memory) (place : Nat) : Nat × Memory := countThrough m.loops.size place m

/-- The memory once the rounds of the loops at these places are counted. -/
def countAll (m : Memory) (places : List Nat) : Memory :=
  places.foldl (fun m place => (m.count place).2) m

/-- The memory with one more loop, innermost. -/
def push (m : Memory) (loop : Loop) : Memory := { m with loops := m.loops.push loop }

/-- The memory without the innermost loop. -/
def pop (m : Memory) : Memory := { m with loops := m.loops.pop }

end Memory

namespace Evaluation

/-- The origin of an object that is made now. -/
def newOrigin : Evaluation Origin :=
  modifyGet fun m => (.made m.made, { m with made := m.made + 1 })

/-- The number of rounds of the loop at a place. -/
def countRounds (place : Nat) : Evaluation Nat := modifyGet (·.count place)

/-- The item after the latest round of the loop at a place, if there is one. -/
def lookAhead (place : Nat) : Evaluation (Option Object) := modifyGet (·.lookAhead place)

end Evaluation

end SourceLayout.Template
