import SourceLayout.Naming.Name

/-! An assignment gives names their texts.  It holds one entry a name, the latest first. -/

namespace SourceLayout

/-- The texts of names. -/
structure Assignment where
  entries : List (Name × String) := []
deriving DecidableEq, Repr, Inhabited

namespace Assignment

/-- The assignment that knows no name. -/
def empty : Assignment := ⟨[]⟩

/-- The text of a name, if it has one. -/
def get? (a : Assignment) (n : Name) : Option String := a.entries.lookup n

/-- The assignment that gives `n` the text `s` and leaves every other name as it was. -/
def insert (a : Assignment) (n : Name) (s : String) : Assignment :=
  ⟨(n, s) :: a.entries.filter fun entry => entry.1 ≠ n⟩

/-- The assignment with these entries, of which a later one wins over an earlier one. -/
def ofList (entries : List (Name × String)) : Assignment :=
  entries.foldl (fun a entry => a.insert entry.1 entry.2) empty

/-- The names that have a text. -/
def names (a : Assignment) : List Name := a.entries.map (·.1)

/-- How many names have a text. -/
def size (a : Assignment) : Nat := a.entries.length

@[simp] theorem get?_empty (n : Name) : empty.get? n = none := rfl

theorem lookup_filter_ne {entries : List (Name × String)} {m n : Name} (h : m ≠ n) :
    (entries.filter fun entry => entry.1 ≠ n).lookup m = entries.lookup m := by
  induction entries with
  | nil => rfl
  | cons entry rest ih =>
    obtain ⟨k, t⟩ := entry
    by_cases hn : k = n
    · have hm : (m == k) = false := by simpa [hn] using h
      rw [List.filter_cons_of_neg (by simpa using hn), List.lookup_cons, hm, ih]
    · rw [List.filter_cons_of_pos (by simpa using hn), List.lookup_cons, List.lookup_cons, ih]

/-- An insertion is seen at its name and nowhere else. -/
theorem get?_insert (a : Assignment) (n m : Name) (s : String) :
    (a.insert n s).get? m = if m = n then some s else a.get? m := by
  by_cases h : m = n
  · simp [insert, get?, h]
  · have hm : (m == n) = false := by simpa using h
    simp only [insert, get?, List.lookup_cons, hm, if_neg h]
    exact lookup_filter_ne h

end Assignment

end SourceLayout
