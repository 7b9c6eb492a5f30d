import GrantGate.Proofs.Inheritance.Lookups
import Mathlib.Order.Lattice.Nat

namespace GrantGate

namespace Catalog

variable {c : Catalog} {roots seen queue rest near far : List String} {name : String}
  {level n : Nat} {t : Template}

/-- As many steps to a parent as given lead from a root to the name. -/
inductive StepsTo (c : Catalog) (roots : List String) : Nat → String → Prop
  | root {name : String} (h : name ∈ roots) : StepsTo c roots 0 name
  | parent {n : Nat} {child name : String} (h : StepsTo c roots n child)
      (step : c.Inherits child name) : StepsTo c roots (n + 1) name

theorem comesBy_iff_stepsTo : c.ComesBy roots name ↔ ∃ n, c.StepsTo roots n name := by
  constructor
  · intro h
    obtain ⟨q, hq, hr⟩ := h
    induction hr with
    | refl => exact ⟨0, .root hq⟩
    | tail _ step ih =>
      obtain ⟨n, hn⟩ := ih
      exact ⟨n + 1, hn.parent step⟩
  · intro h
    obtain ⟨n, hn⟩ := h
    induction hn with
    | root h => exact ⟨_, h, .refl⟩
    | parent _ step ih =>
      obtain ⟨q, hq, hr⟩ := ih
      exact ⟨q, hq, hr.tail step⟩

/-- How many steps to a parent it takes at least to come from the roots to the name. -/
noncomputable def distance (c : Catalog) (roots : List String) (name : String) : Nat :=
  sInf { n | c.StepsTo roots n name }

theorem StepsTo.distance_le (h : c.StepsTo roots n name) : c.distance roots name ≤ n :=
  Nat.sInf_le h

theorem ComesBy.stepsTo_distance (h : c.ComesBy roots name) :
    c.StepsTo roots (c.distance roots name) name :=
  Nat.sInf_mem (comesBy_iff_stepsTo.1 h)

/-- Where a walk stands: its queue begins with names that are `level` steps away and goes on with
names one step farther, and nothing has been left out. -/
structure Frontier (c : Catalog) (roots seen near far : List String) (level : Nat) : Prop where
  near_steps : ∀ q ∈ near, c.StepsTo roots level q
  far_steps : ∀ q ∈ far, c.StepsTo roots (level + 1) q
  nearer : ∀ name n, n < level → c.StepsTo roots n name → name ∈ seen
  here : ∀ name, c.StepsTo roots level name → name ∈ seen ∨ name ∈ near
  parents : ∀ child ∈ seen, ∀ parent, c.Inherits child parent →
    parent ∈ seen ∨ parent ∈ near ∨ parent ∈ far

namespace Frontier

theorem start (c : Catalog) (roots : List String) : c.Frontier roots [] roots [] 0 where
  near_steps q hq := .root hq
  far_steps := by simp
  nearer := by simp
  here name h := by
    cases h with
    | root h => exact .inr h
  parents := by simp

/-- Names that have been seen drop out of the queue. -/
theorem drop (h : c.Frontier roots seen near far level)
    (dropped : near.dropWhile seen.contains = rest) : c.Frontier roots seen rest far level where
  near_steps q hq := h.near_steps q (mem_of_dropWhile dropped hq)
  far_steps := h.far_steps
  nearer := h.nearer
  here name hn := by
    rcases h.here name hn with hseen | hnear
    · exact .inl hseen
    · exact seen_or_mem_of_dropWhile dropped hnear
  parents child hc parent step := by
    rcases h.parents child hc parent step with hseen | hnear | hfar
    · exact .inl hseen
    · exact (seen_or_mem_of_dropWhile dropped hnear).imp_right .inl
    · exact .inr (.inr hfar)

/-- When nothing is left at a level, the next one has its turn. -/
theorem advance (h : c.Frontier roots seen [] far level) :
    c.Frontier roots seen far [] (level + 1) where
  near_steps := h.far_steps
  far_steps := by simp
  nearer name n hn hsteps := by
    rcases Nat.lt_succ_iff_lt_or_eq.1 hn with hn | rfl
    · exact h.nearer name n hn hsteps
    · simpa using h.here name hsteps
  here name hn := by
    cases hn with
    | @parent _ child _ hchild step =>
      have hseen : child ∈ seen := by simpa using h.here child hchild
      simpa using h.parents child hseen name step
  parents child hc parent step := by simpa using h.parents child hc parent step

theorem visit (h : c.Frontier roots seen (name :: near) far level)
    (found : c.lookup name = .ok t) :
    c.Frontier roots (t.name :: seen) near (far ++ t.inherits) level := by
  obtain rfl : t.name = name := name_of_lookup found
  have still {n : String} (hn : n ∈ seen ∨ n ∈ t.name :: near) :
      n ∈ t.name :: seen ∨ n ∈ near := by
    rcases hn with hn | hn
    · exact .inl (List.mem_cons_of_mem _ hn)
    · rcases List.mem_cons.1 hn with rfl | hn
      · exact .inl (List.mem_cons_self ..)
      · exact .inr hn
  constructor
  · exact fun q hq => h.near_steps q (List.mem_cons_of_mem _ hq)
  · intro q hq
    rcases List.mem_append.1 hq with hq | hq
    · exact h.far_steps q hq
    · exact (h.near_steps t.name (List.mem_cons_self ..)).parent ⟨t, found, hq⟩
  · exact fun n k hk hn => List.mem_cons_of_mem _ (h.nearer n k hk hn)
  · exact fun n hn => still (h.here n hn)
  · intro child hc parent step
    rcases List.mem_cons.1 hc with rfl | hc
    · obtain ⟨u, hu, hp⟩ := step
      obtain rfl : t = u := Except.ok.inj (found.symm.trans hu)
      exact .inr (.inr (List.mem_append_right _ hp))
    · rcases h.parents child hc parent step with hp | hp | hp
      · exact (still (.inl hp)).imp_right .inl
      · exact (still (.inr hp)).imp_right .inl
      · exact .inr (.inr (List.mem_append_left _ hp))

/-- What is next is as near as anything that has not been seen. -/
theorem distance_le (h : c.Frontier roots seen (name :: near) far level) {other : String}
    (hother : c.ComesBy roots other) (unseen : other ∉ seen) :
    c.distance roots name ≤ c.distance roots other := by
  have hname : c.distance roots name ≤ level :=
    (h.near_steps name (List.mem_cons_self ..)).distance_le
  refine hname.trans (Nat.le_of_not_lt fun hlt => unseen ?_)
  exact h.nearer other _ hlt hother.stepsTo_distance

end Frontier

/-- The queue of a walk that stands at some frontier. -/
def Abreast (c : Catalog) (roots seen queue : List String) : Prop :=
  ∃ near far level, queue = near ++ far ∧ c.Frontier roots seen near far level

namespace Abreast

theorem start (c : Catalog) (roots : List String) : c.Abreast roots [] roots :=
  ⟨roots, [], 0, by simp, .start c roots⟩

theorem head (h : c.Abreast roots seen queue)
    (next : queue.dropWhile seen.contains = name :: rest) :
    ∃ near far level, rest = near ++ far ∧ c.Frontier roots seen (name :: near) far level := by
  obtain ⟨near, far, level, rfl, hf⟩ := h
  rw [List.dropWhile_append] at next
  cases hnear : near.dropWhile seen.contains with
  | nil =>
    rw [hnear, List.isEmpty_nil, if_pos rfl] at next
    exact ⟨rest, [], level + 1, by simp, (hf.drop hnear).advance.drop next⟩
  | cons q near' =>
    rw [hnear] at next
    obtain ⟨rfl, rfl⟩ : q = name ∧ near' ++ far = rest := by simpa using next
    exact ⟨near', far, level, rfl, hf.drop hnear⟩

theorem distance_le (h : c.Abreast roots seen queue)
    (next : queue.dropWhile seen.contains = name :: rest) {other : String}
    (hother : c.ComesBy roots other) (unseen : other ∉ seen) :
    c.distance roots name ≤ c.distance roots other := by
  obtain ⟨near, far, level, -, hf⟩ := h.head next
  exact hf.distance_le hother unseen

theorem visit (h : c.Abreast roots seen queue)
    (next : queue.dropWhile seen.contains = name :: rest) (found : c.lookup name = .ok t) :
    c.Abreast roots (t.name :: seen) (rest ++ t.inherits) := by
  obtain ⟨near, far, level, rfl, hf⟩ := h.head next
  exact ⟨near, far ++ t.inherits, level, List.append_assoc .., hf.visit found⟩

theorem comesBy (h : c.Abreast roots seen queue) (hname : c.ComesBy queue name) :
    c.ComesBy roots name := by
  obtain ⟨near, far, level, rfl, hf⟩ := h
  obtain ⟨q, hq, hr⟩ := hname
  have hsteps : ∃ n, c.StepsTo roots n q := by
    rcases List.mem_append.1 hq with hq | hq
    · exact ⟨level, hf.near_steps q hq⟩
    · exact ⟨level + 1, hf.far_steps q hq⟩
  obtain ⟨p, hp, hpq⟩ := comesBy_iff_stepsTo.2 hsteps
  exact ⟨p, hp, hpq.trans hr⟩

end Abreast

private theorem comesBy_of_mem_lookups (h : name ∈ (c.trail seen queue).lookups) :
    c.ComesBy queue name := by
  rcases List.mem_append.1 h with h | h
  · obtain ⟨t, ht, rfl⟩ := List.mem_map.1 h
    exact (of_mem_visited ht).2.2
  · obtain ⟨f, hf, rfl⟩ := List.mem_map.1 h
    exact (of_failure (Option.mem_toList.1 hf)).2.2

theorem pairwise_lookups (h : c.Abreast roots seen queue) :
    (c.trail seen queue).lookups.Pairwise fun a b => c.distance roots a ≤ c.distance roots b := by
  fun_induction Catalog.trail c seen queue with
  | case1 => simp [Trail.lookups]
  | case2 => simp [Trail.lookups]
  | case3 seen queue name rest next t found ih =>
    have later := h.visit next found
    refine List.pairwise_cons.2 ⟨fun other hother => ?_, ih later⟩
    have unseen : other ∉ t.name :: seen := fun mem => not_mem_lookups mem hother
    rw [name_of_lookup found]
    exact h.distance_le next (later.comesBy (comesBy_of_mem_lookups hother))
      fun mem => unseen (List.mem_cons_of_mem _ mem)

/-- A walk that fails has come to a nearest name of those whose look-up fails. -/
theorem distance_le_of_failure (h : c.Abreast roots seen queue) {e : Refusal}
    (failed : (c.trail seen queue).failure = some (name, e)) {other : String}
    (hother : c.ComesBy roots other) (unseen : other ∉ seen)
    (missing : ∀ t, c.lookup other ≠ .ok t) : c.distance roots name ≤ c.distance roots other := by
  fun_induction Catalog.trail c seen queue with
  | case1 => simp at failed
  | case2 seen queue n rest next e' found =>
    obtain ⟨rfl, rfl⟩ : n = name ∧ e' = e := by simpa using failed
    exact h.distance_le next hother unseen
  | case3 seen queue n rest next t found ih =>
    refine ih (h.visit next found) failed ?_
    rw [List.mem_cons]
    rintro (rfl | mem)
    · exact missing t (name_of_lookup found ▸ found)
    · exact unseen mem

end Catalog

end GrantGate
