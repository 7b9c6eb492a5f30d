namespace GrantGate

/-- Items in strictly increasing order of the name each carries, so that no name occurs twice. -/
structure Roster (α : Type) (key : α → String) where
  items : List α
  ordered : items.Pairwise (fun a b => key a < key b)

namespace Roster

variable {α : Type} {key : α → String}

@[ext] theorem ext {r s : Roster α key} (h : r.items = s.items) : r = s := by
  cases r; cases s; cases h; rfl

instance [DecidableEq α] : DecidableEq (Roster α key) := fun r s =>
  decidable_of_iff (r.items = s.items) ⟨ext, fun h => h ▸ rfl⟩

def empty : Roster α key := ⟨[], .nil⟩

instance : Inhabited (Roster α key) := ⟨empty⟩

/-- Puts an item at its place in an ordered list, over the one that has its name. -/
def place (key : α → String) (x : α) : List α → List α
  | [] => [x]
  | y :: ys =>
    if key x < key y then x :: y :: ys
    else if key y < key x then y :: place key x ys
    else x :: ys

theorem mem_place {x y : α} {ys : List α} (h : y ∈ place key x ys) : y = x ∨ y ∈ ys := by
  induction ys with
  | nil => simpa [place] using h
  | cons z zs ih =>
    simp only [place] at h
    split at h
    · simpa using h
    · split at h
      · rcases List.mem_cons.1 h with rfl | h
        · simp
        · rcases ih h with rfl | h <;> simp_all
      · rcases List.mem_cons.1 h with rfl | h <;> simp_all

theorem ordered_place (x : α) {ys : List α} (h : ys.Pairwise (fun a b => key a < key b)) :
    (place key x ys).Pairwise (fun a b => key a < key b) := by
  induction ys with
  | nil => simp [place]
  | cons y ys ih =>
    obtain ⟨hy, hys⟩ := List.pairwise_cons.1 h
    simp only [place]
    split
    case isTrue hxy =>
      refine List.pairwise_cons.2 ⟨fun z hz => ?_, h⟩
      rcases List.mem_cons.1 hz with rfl | hz
      · exact hxy
      · exact String.lt_trans hxy (hy z hz)
    case isFalse hxy =>
      split
      case isTrue hyx =>
        refine List.pairwise_cons.2 ⟨fun z hz => ?_, ih hys⟩
        rcases mem_place hz with rfl | hz
        · exact hyx
        · exact hy z hz
      case isFalse hyx =>
        have same : key x = key y := String.le_antisymm (String.not_lt.1 hyx) (String.not_lt.1 hxy)
        exact List.pairwise_cons.2 ⟨fun z hz => same ▸ hy z hz, hys⟩

/-- Adds an item; one of the same name gives way. -/
def insert (x : α) (r : Roster α key) : Roster α key :=
  ⟨place key x r.items, ordered_place x r.ordered⟩

def find? (r : Roster α key) (name : String) : Option α :=
  r.items.find? (fun x => key x == name)

def erase (name : String) (r : Roster α key) : Roster α key :=
  ⟨r.items.filter (fun x => key x != name), r.ordered.filter _⟩

/-- Inserts one after another, so that of two items of one name the later stays. -/
def ofList (xs : List α) : Roster α key := xs.foldl (fun r x => r.insert x) empty

def size (r : Roster α key) : Nat := r.items.length

def names (r : Roster α key) : List String := r.items.map key

theorem key_of_find? {r : Roster α key} {name : String} {x : α} (h : r.find? name = some x) :
    key x = name := by
  simpa using List.find?_some h

theorem mem_of_find? {r : Roster α key} {name : String} {x : α} (h : r.find? name = some x) :
    x ∈ r.items :=
  List.mem_of_find?_eq_some h

@[simp] theorem find?_empty (name : String) : (empty : Roster α key).find? name = none := rfl

theorem find?_place (x : α) (name : String) (ys : List α) :
    (place key x ys).find? (fun y => key y == name) =
      if key x = name then some x else ys.find? (fun y => key y == name) := by
  induction ys with
  | nil => by_cases h : key x = name <;> simp [place, h]
  | cons y ys ih =>
    simp only [place]
    split
    · by_cases h : key x = name <;> simp [h]
    · split
      · rename_i hyx
        by_cases hy : key y = name
        · have : key x ≠ name := fun hx => String.lt_irrefl _ (hx ▸ hy ▸ hyx)
          simp [hy, this]
        · simp [hy, ih]
      · rename_i hxy hyx
        have same : key x = key y := String.le_antisymm (String.not_lt.1 hyx) (String.not_lt.1 hxy)
        by_cases h : key x = name
        · simp [h]
        · simp [h, ← same]

/-- After a write the new item answers to its name and nothing else has changed. -/
theorem find?_insert (x : α) (r : Roster α key) (name : String) :
    (r.insert x).find? name = if key x = name then some x else r.find? name :=
  find?_place x name r.items

theorem find?_erase (r : Roster α key) (gone name : String) :
    (r.erase gone).find? name = if gone = name then none else r.find? name := by
  simp only [erase, find?]
  induction r.items with
  | nil => simp
  | cons y ys ih =>
    by_cases hy : key y = gone <;> by_cases hn : key y = name <;> by_cases hg : gone = name <;>
      simp_all

end Roster

end GrantGate
