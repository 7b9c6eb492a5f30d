import GrantGate.Proofs.Roster
import GrantGate.Template.Catalog
import Mathlib.Logic.Relation

namespace GrantGate

namespace Catalog

theorem lookup_ofStore {ts : TemplateStore} {name : String} {t : Template} :
    (ofStore ts).lookup name = .ok t ↔ ts.find? name = some t := by
  cases h : ts.find? name <;> simp [lookup, ofStore, h]

/-- A template of the first name lists the second as one to inherit from. -/
def Inherits (c : Catalog) (child parent : String) : Prop :=
  ∃ t, c.lookup child = .ok t ∧ parent ∈ t.inherits

/-- The second name is the first, or one that it inherits from, directly or not. -/
def Reaches (c : Catalog) : String → String → Prop := Relation.ReflTransGen c.Inherits

/-- A template within reach declares the rule. -/
def Declares (c : Catalog) (root : String) (rule : Rule) : Prop :=
  ∃ name t, c.Reaches root name ∧ c.lookup name = .ok t ∧ rule ∈ t.rules

/-- Every name within reach is that of a template. -/
def Resolves (c : Catalog) (root : String) : Prop :=
  ∀ name, c.Reaches root name → ∃ t, c.lookup name = .ok t

theorem resolves_ofStore_iff {ts : TemplateStore} {root : String} :
    (ofStore ts).Resolves root ↔ ∀ name, (ofStore ts).Reaches root name → name ∈ ts.names := by
  simp only [Resolves, lookup_ofStore, Roster.mem_names_iff]

/-- Names that take in all that theirs inherit from take in all within reach. -/
theorem mem_of_reaches {ts : TemplateStore} {names : List String} {root name : String}
    (closed : ∀ child ∈ names, ∀ t ∈ ts.find? child, ∀ parent ∈ t.inherits, parent ∈ names)
    (hroot : root ∈ names) (h : (ofStore ts).Reaches root name) : name ∈ names := by
  induction h with
  | refl => exact hroot
  | tail _ step ih =>
    obtain ⟨t, ht, hparent⟩ := step
    exact closed _ ih t (lookup_ofStore.1 ht) _ hparent

variable {c d : Catalog} {root name : String} {rule : Rule}

theorem Declares.of_inherits {child parent : String} (h : c.Inherits child parent)
    (hd : c.Declares parent rule) : c.Declares child rule := by
  obtain ⟨name, t, hr, ht, hm⟩ := hd
  exact ⟨name, t, hr.head h, ht, hm⟩

/-- Who declares a rule is a template itself. -/
theorem Declares.lookup_root (h : c.Declares root rule) : ∃ t, c.lookup root = .ok t := by
  obtain ⟨name, t, hr, ht, -⟩ := h
  rcases Relation.ReflTransGen.cases_head hr with rfl | ⟨_, ⟨t', ht', -⟩, -⟩
  · exact ⟨t, ht⟩
  · exact ⟨t', ht'⟩

/-- Templates that have become smaller, or are gone, declare no more. -/
theorem Declares.mono (h : ∀ name t, d.lookup name = .ok t →
      ∃ t', c.lookup name = .ok t' ∧ t.rules ⊆ t'.rules ∧ t.inherits ⊆ t'.inherits)
    (hd : d.Declares root rule) : c.Declares root rule := by
  obtain ⟨name, t, hr, ht, hm⟩ := hd
  obtain ⟨t', ht', hrules, -⟩ := h name t ht
  refine ⟨name, t', Relation.ReflTransGen.mono ?_ _ _ hr, ht', hrules hm⟩
  intro child parent step
  obtain ⟨u, hu, hp⟩ := step
  obtain ⟨u', hu', -, hinherits⟩ := h child u hu
  exact ⟨u', hu', hinherits hp⟩

/-- What a store declares after a template has been put in, it declared before, or the new template
declares it. -/
theorem Declares.of_insert {ts : TemplateStore} {new : Template}
    (h : (ofStore (ts.insert new)).Declares root rule) :
    (ofStore ts).Declares root rule ∨ (ofStore (ts.insert new)).Declares new.name rule := by
  obtain ⟨name, t, hr, ht, hm⟩ := h
  have old {n : String} {u : Template} (hn : new.name ≠ n)
      (hu : (ofStore (ts.insert new)).lookup n = .ok u) : (ofStore ts).lookup n = .ok u := by
    rw [lookup_ofStore, Roster.find?_insert, if_neg hn] at hu
    exact lookup_ofStore.2 hu
  -- along the way, from the far end: once the new template is met, it declares the rule
  induction hr using Relation.ReflTransGen.head_induction_on with
  | refl =>
    by_cases hn : new.name = name
    · exact .inr ⟨name, t, hn ▸ .refl, ht, hm⟩
    · exact .inl ⟨name, t, .refl, old hn ht, hm⟩
  | @head child parent step rest ih =>
    by_cases hn : new.name = child
    · exact .inr ⟨name, t, hn ▸ rest.head step, ht, hm⟩
    · refine ih.imp_left (Declares.of_inherits ?_)
      obtain ⟨u, hu, hp⟩ := step
      exact ⟨u, old hn hu, hp⟩

end Catalog

/-- Every name that a stored template inherits from is stored. -/
def TemplateStore.Closed (ts : TemplateStore) : Prop :=
  ∀ t ∈ ts.items, ∀ parent ∈ t.inherits, parent ∈ ts.names

namespace TemplateStore.Closed

variable {ts : TemplateStore}

/-- In a closed store whatever is stored resolves. -/
theorem resolves (closed : ts.Closed) {root : String} (hroot : root ∈ ts.names) :
    (Catalog.ofStore ts).Resolves root := by
  rw [Catalog.resolves_ofStore_iff]
  intro name hr
  refine Catalog.mem_of_reaches (fun child _ t ht parent hp => ?_) hroot hr
  exact closed t (Roster.mem_of_find? ht) parent hp

theorem insert (closed : ts.Closed) {new : Template}
    (h : ∀ parent ∈ new.inherits, parent ∈ (Roster.insert new ts).names) :
    TemplateStore.Closed (Roster.insert new ts) := by
  intro t ht parent hp
  have ht := Roster.find?_eq_some_iff.2 ⟨ht, rfl⟩
  rw [Roster.find?_insert] at ht
  by_cases hn : new.name = t.name
  · rw [if_pos hn, Option.some_inj] at ht
    exact h parent (ht ▸ hp)
  · rw [if_neg hn] at ht
    exact Roster.mem_names_insert.2 (.inr (closed t (Roster.mem_of_find? ht) parent hp))

/-- A template may go if no other one inherits from it. -/
theorem erase (closed : ts.Closed) {gone : String}
    (h : ∀ t ∈ ts.items, t.name ≠ gone → gone ∉ t.inherits) :
    TemplateStore.Closed (Roster.erase gone ts) := by
  intro t ht parent hp
  obtain ⟨ht, hn⟩ := List.mem_filter.1 ht
  have hn : t.name ≠ gone := by simpa using hn
  have hne : gone ≠ parent := fun he => h t ht hn (he ▸ hp)
  exact Roster.mem_names_erase.2 ⟨hne, closed t ht parent hp⟩

end TemplateStore.Closed

end GrantGate
