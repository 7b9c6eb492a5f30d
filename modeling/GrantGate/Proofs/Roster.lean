import GrantGate.Roster
import Mathlib.Data.List.Nodup
import Mathlib.Data.List.Sort

namespace GrantGate.Roster

variable {α : Type} {key : α → String}

theorem nodup_names (r : Roster α key) : r.names.Nodup :=
  List.pairwise_map.2 (r.ordered.imp String.ne_of_lt)

theorem eq_of_key_eq {r : Roster α key} {x y : α} (hx : x ∈ r.items) (hy : y ∈ r.items)
    (h : key x = key y) : x = y :=
  List.inj_on_of_nodup_map r.nodup_names hx hy h

/-- Each item answers to its name. -/
theorem find?_eq_some_iff {r : Roster α key} {name : String} {x : α} :
    r.find? name = some x ↔ x ∈ r.items ∧ key x = name := by
  constructor
  · intro h
    exact ⟨mem_of_find? h, key_of_find? h⟩
  · intro h
    obtain ⟨hx, rfl⟩ := h
    cases h : r.find? (key x) with
    | none => simpa using List.find?_eq_none.1 h x hx
    | some y => rw [eq_of_key_eq (mem_of_find? h) hx (key_of_find? h)]

theorem mem_items_iff {r : Roster α key} {x : α} : x ∈ r.items ↔ r.find? (key x) = some x := by
  rw [find?_eq_some_iff, and_iff_left rfl]

/-- Rosters that give the same answers are the same. -/
theorem ext_of_find? {r s : Roster α key} (h : ∀ name, r.find? name = s.find? name) : r = s := by
  have irrefl : Std.Irrefl fun a b : α => key a < key b := ⟨fun a => String.lt_irrefl (key a)⟩
  have antisymm : Std.Antisymm fun a b : α => key a < key b :=
    ⟨fun _ _ hab hba => absurd (String.lt_trans hab hba) (String.lt_irrefl _)⟩
  have same (x : α) : x ∈ r.items ↔ x ∈ s.items := by
    rw [mem_items_iff, mem_items_iff, h]
  exact Roster.ext (r.ordered.eq_of_mem_iff s.ordered same)

/-- Writing what is there changes nothing. -/
theorem insert_of_stored {r : Roster α key} {x : α} (h : r.find? (key x) = some x) :
    r.insert x = r := by
  refine ext_of_find? fun name => ?_
  rw [find?_insert]
  split
  case isTrue hname => rw [← hname, h]
  case isFalse => rfl

theorem mem_names_iff {r : Roster α key} {name : String} :
    name ∈ r.names ↔ ∃ x, r.find? name = some x := by
  simp only [names, List.mem_map, find?_eq_some_iff]

theorem mem_names_insert {r : Roster α key} {x : α} {name : String} :
    name ∈ (r.insert x).names ↔ key x = name ∨ name ∈ r.names := by
  simp only [mem_names_iff, find?_insert]
  by_cases h : key x = name <;> simp [h]

theorem mem_names_erase {r : Roster α key} {gone name : String} :
    name ∈ (r.erase gone).names ↔ gone ≠ name ∧ name ∈ r.names := by
  simp only [mem_names_iff, find?_erase]
  by_cases h : gone = name <;> simp [h]

/-- Items put in one after the other hide those of their names that were there before. -/
private theorem find?_foldl_insert (xs : List α) (r : Roster α key) (name : String) :
    (xs.foldl (fun r x => r.insert x) r).find? name =
      (xs.reverse.find? fun x => key x == name).or (r.find? name) := by
  induction xs generalizing r with
  | nil => simp
  | cons x xs ih =>
    rw [List.foldl_cons, ih, List.reverse_cons, List.find?_append, find?_insert]
    by_cases h : key x = name
    · simp [h]
    · simp [h]

theorem find?_ofList (xs : List α) (name : String) :
    (ofList xs : Roster α key).find? name = xs.reverse.find? fun x => key x == name := by
  rw [ofList, find?_foldl_insert, find?_empty, Option.or_none]

/-- Of items with one name a roster keeps the last. -/
theorem find?_ofList_iff {xs : List α} {name : String} {x : α} :
    (ofList xs : Roster α key).find? name = some x ↔
      key x = name ∧ ∃ before after, xs = before ++ x :: after ∧ ∀ y ∈ after, key y ≠ key x := by
  rw [find?_ofList, List.find?_eq_some_iff_append, beq_iff_eq]
  refine and_congr_right fun named => ?_
  constructor
  · rintro ⟨after, before, split, others⟩
    refine ⟨before.reverse, after.reverse, ?_, fun y hy => ?_⟩
    · simpa using congrArg List.reverse split
    · simpa [named] using others y (List.mem_reverse.1 hy)
  · rintro ⟨before, after, rfl, others⟩
    refine ⟨after.reverse, before.reverse, by simp, fun y hy => ?_⟩
    simpa [named] using others y (List.mem_reverse.1 hy)

theorem find?_ofList_eq_some_iff {xs : List α} (distinct : (xs.map key).Nodup) {name : String}
    {x : α} : (ofList xs : Roster α key).find? name = some x ↔ x ∈ xs ∧ key x = name := by
  rw [find?_ofList_iff]
  constructor
  · rintro ⟨named, before, after, rfl, -⟩
    exact ⟨by simp, named⟩
  · rintro ⟨hmem, named⟩
    obtain ⟨before, after, rfl⟩ := List.append_of_mem hmem
    rw [List.map_append, List.map_cons] at distinct
    have fresh : key x ∉ after.map key := (List.nodup_cons.1 distinct.of_append_right).1
    exact ⟨named, before, after, rfl, fun y hy same => fresh (List.mem_map.2 ⟨y, hy, same⟩)⟩

/-- Of items with distinct names a roster holds each one once. -/
theorem perm_ofList {xs : List α} (distinct : (xs.map key).Nodup) :
    (ofList xs : Roster α key).items.Perm xs := by
  have stored : (ofList xs : Roster α key).items.Nodup := (nodup_names (ofList xs)).of_map
  refine (List.perm_ext_iff_of_nodup stored distinct.of_map).2 fun x => ?_
  rw [mem_items_iff, find?_ofList_eq_some_iff distinct, and_iff_left rfl]

/-- The items of a roster make it in any order. -/
theorem ofList_eq {r : Roster α key} {xs : List α} (distinct : (xs.map key).Nodup)
    (same : ∀ x, x ∈ xs ↔ x ∈ r.items) : ofList xs = r := by
  refine ext_of_find? fun name => Option.ext fun x => ?_
  rw [find?_ofList_eq_some_iff distinct, find?_eq_some_iff, same]

theorem ofList_items (r : Roster α key) : ofList r.items = r :=
  ofList_eq r.nodup_names fun _ => Iff.rfl

theorem mem_names_ofList {xs : List α} {name : String} :
    name ∈ (ofList xs : Roster α key).names ↔ ∃ x ∈ xs, key x = name := by
  rw [mem_names_iff, find?_ofList, ← Option.isSome_iff_exists, List.find?_isSome]
  simp only [List.mem_reverse, beq_iff_eq]

/-- A map with keys of its own holds under each key what the roster finds by that name. -/
def Mirrors (m : Std.HashMap String α) (r : Roster α key) : Prop :=
  ∀ name : String, m[name]? = r.find? name

namespace Mirrors

variable {m : Std.HashMap String α} {r : Roster α key} {x : α} {name : String}

theorem empty : Mirrors (∅ : Std.HashMap String α) (Roster.empty : Roster α key) := by
  intro name
  rw [Std.HashMap.getElem?_empty, find?_empty]

theorem insert (h : Mirrors m r) : Mirrors (m.insert (key x) x) (r.insert x) := by
  intro name
  rw [Std.HashMap.getElem?_insert, find?_insert, h name]
  simp only [beq_iff_eq]

theorem erase (h : Mirrors m r) (gone : String) : Mirrors (m.erase gone) (r.erase gone) := by
  intro name
  rw [Std.HashMap.getElem?_erase, find?_erase, h name]
  simp only [beq_iff_eq]

theorem foldl_insert (h : Mirrors m r) (xs : List α) :
    Mirrors (xs.foldl (fun m x => m.insert (key x) x) m) (xs.foldl (fun r x => r.insert x) r) := by
  induction xs generalizing m r with
  | nil => exact h
  | cons x xs ih => exact ih h.insert

/-- No value has got under another key than its name. -/
theorem key_eq (h : Mirrors m r) (found : m[name]? = some x) : key x = name := by
  rw [h name] at found
  exact key_of_find? found

/-- The map holds the items of the roster, each under its name. -/
theorem toList_perm (h : Mirrors m r) : m.toList.Perm (r.items.map fun x => (key x, x)) := by
  have distinct : m.toList.Nodup :=
    m.distinct_keys_toList.imp fun apart same => by simp [same] at apart
  have distinct' : (r.items.map fun x => (key x, x)).Nodup := by
    have names : ((r.items.map fun x => (key x, x)).map Prod.fst).Nodup := by
      rw [List.map_map]
      exact r.nodup_names
    exact names.of_map
  refine (List.perm_ext_iff_of_nodup distinct distinct').2 fun (name, x) => ?_
  rw [Std.HashMap.mem_toList_iff_getElem?_eq_some, h name, find?_eq_some_iff, List.mem_map]
  constructor
  · rintro ⟨hx, rfl⟩
    exact ⟨x, hx, rfl⟩
  · rintro ⟨y, hy, same⟩
    cases same
    exact ⟨hy, rfl⟩

theorem size_eq (h : Mirrors m r) : m.size = r.size := by
  rw [← Std.HashMap.length_toList, h.toList_perm.length_eq, List.length_map]
  rfl

end Mirrors

end GrantGate.Roster
