import SourceLayout.Fault

/-! When two values count as equal. Truth values are the numbers one and zero, a vector equals a
list of equal items, a dictionary has no order, and two names are equal only when they are one name.
Lists, sets and dictionaries, and what holds them, can be neither keys nor members of sets. -/

namespace SourceLayout.Value

/-- The number that a value stands for: an integer, or a truth value as one or zero. -/
def number? : Value → Option Int
  | .int n => some n
  | .bool b => some (if b then 1 else 0)
  | _ => Option.none

mutual

/-- The values are equal. -/
def equal : Value → Value → Bool
  | .str s, .str t => s = t
  | .int m, v => v.number? = some m
  | .bool b, v => v.number? = some (if b then 1 else 0)
  | .none, .none => true
  | .name m, .name n => m = n
  | .list vs, .list ws | .list vs, .vector ws => equalAll vs ws
  | .vector vs, .vector ws | .vector vs, .list ws => equalAll vs ws
  | .tuple vs, .tuple ws => equalAll vs ws
  | .set vs, .set ws => vs.length = ws.length && containsAll vs ws
  | .dict es, .dict fs => es.length = fs.length && equalEntries es fs
  | .assignment a, .assignment b =>
    a.size = b.size && a.entries.all fun entry => b.get? entry.1 = some entry.2
  | .fragment f, .fragment g => equalFragment f g
  | _, _ => false

/-- The lists hold equal values at the same places. -/
def equalAll : List Value → List Value → Bool
  | [], [] => true
  | v :: vs, w :: ws => equal v w && equalAll vs ws
  | _, _ => false

/-- Every value of the first list equals one of the second. -/
def containsAll : List Value → List Value → Bool
  | [], _ => true
  | v :: vs, ws => ws.any (equal v) && containsAll vs ws

/-- The second list of entries gives every key of the first an equal value. -/
def equalEntries : List (String × Value) → List (String × Value) → Bool
  | [], _ => true
  | (key, v) :: es, fs => (fs.lookup key).any (equal v) && equalEntries es fs

/-- The fragments are equal: of one form, with equal parts. -/
def equalFragment : Fragment Value → Fragment Value → Bool
  | .text s, .text t => s = t
  | .newline m, .newline n => m = n
  | .pending i, .pending j => i = j
  | .name m, .name n => m = n
  | .seq fs, .seq gs => equalFragments fs gs
  | .table rows, .table others => equalRows rows others
  | .marked a f, .marked b g => a = b && equalFragment f g
  | .foreign v, .foreign w => equal v w
  | _, _ => false

/-- The lists hold equal fragments at the same places. -/
def equalFragments : List (Fragment Value) → List (Fragment Value) → Bool
  | [], [] => true
  | f :: fs, g :: gs => equalFragment f g && equalFragments fs gs
  | _, _ => false

/-- The lists hold equal rows at the same places. -/
def equalRows : List (List (Fragment Value)) → List (List (Fragment Value)) → Bool
  | [], [] => true
  | r :: rows, s :: others => equalFragments r s && equalRows rows others
  | _, _ => false

end

/-! ### Keys -/

mutual

/-- The kind of the first value, this one or in it, that can be no key. -/
def unhashable? : Value → Option String
  | .list _ => some "list"
  | .dict _ => some "dict"
  | .set _ => some "set"
  | .tuple vs | .vector vs => unhashableAmong? vs
  | .fragment f => unhashableIn? f
  | .str _ | .int _ | .bool _ | .none | .name _ | .assignment _ => Option.none

/-- The kind of the first among values that can be no key. -/
def unhashableAmong? : List Value → Option String
  | [] => Option.none
  | v :: vs => (unhashable? v).or (unhashableAmong? vs)

/-- The kind of the first value in a fragment that can be no key. -/
def unhashableIn? : Fragment Value → Option String
  | .seq fs => unhashableInAll? fs
  | .table rows => unhashableInRows? rows
  | .marked _ f => unhashableIn? f
  | .foreign v => unhashable? v
  | .text _ | .newline _ | .pending _ | .name _ => Option.none

/-- The kind of the first value in fragments that can be no key. -/
def unhashableInAll? : List (Fragment Value) → Option String
  | [] => Option.none
  | f :: fs => (unhashableIn? f).or (unhashableInAll? fs)

/-- The kind of the first value in rows of fragments that can be no key. -/
def unhashableInRows? : List (List (Fragment Value)) → Option String
  | [] => Option.none
  | row :: rows => (unhashableInAll? row).or (unhashableInRows? rows)

end

/-- The set of the values, which must be able to be its members. -/
def asSet (vs : List Value) : Except Fault Value :=
  match unhashableAmong? vs with
  | some kind => .error (.unhashable kind)
  | Option.none => .ok (.set vs)

end SourceLayout.Value
