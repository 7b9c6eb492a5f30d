import GrantGate.Proofs.Coverage.Order
import GrantGate.Proofs.Inheritance.Walk
import Mathlib.Data.Multiset.ZeroCons

namespace GrantGate

namespace Template

/-- The templates agree but for the order of their parents, of their rules and of the entries of
these. -/
structure Reordered (t u : Template) : Prop where
  name : t.name = u.name
  displayName : t.displayName = u.displayName
  reach : t.reach = u.reach
  rules : Multiset.Rel Rule.Reordered t.rules u.rules
  inherits : t.inherits.Perm u.inherits
  locked : t.locked = u.locked
  builtin : t.builtin = u.builtin

namespace Reordered

variable {t u : Template}

theorem refl (t : Template) : t.Reordered t :=
  ⟨rfl, rfl, rfl, Multiset.rel_refl_of_refl_on fun rule _ => .refl rule, .refl _, rfl, rfl⟩

theorem symm (h : t.Reordered u) : u.Reordered t where
  name := h.name.symm
  displayName := h.displayName.symm
  reach := h.reach.symm
  rules := Multiset.rel_flip.1 (h.rules.mono fun _ _ _ _ same => same.symm)
  inherits := h.inherits.symm
  locked := h.locked.symm
  builtin := h.builtin.symm

end Reordered

end Template

/-- Each name finds a template in both stores, perhaps reordered, or in neither. -/
structure TemplateStore.Reordered (ts us : TemplateStore) : Prop where
  left : ∀ name t, ts.find? name = some t → ∃ u, us.find? name = some u ∧ t.Reordered u
  right : ∀ name u, us.find? name = some u → ∃ t, ts.find? name = some t ∧ u.Reordered t

namespace TemplateStore.Reordered

open Catalog

variable {ts us : TemplateStore} {root name : String} {t u : Template} {rule : Rule}

theorem symm (h : ts.Reordered us) : us.Reordered ts := ⟨h.right, h.left⟩

theorem find?_eq_none (h : ts.Reordered us) (missing : ts.find? name = none) :
    us.find? name = none := by
  cases hu : us.find? name with
  | none => rfl
  | some u =>
    obtain ⟨t, ht, -⟩ := h.right name u hu
    rw [missing] at ht
    cases ht

theorem insert (h : ts.Reordered us) (draft : t.Reordered u) :
    TemplateStore.Reordered (Roster.insert t ts) (Roster.insert u us) := by
  have put {xs ys : TemplateStore} {a b : Template} (hxy : xs.Reordered ys) (hab : a.Reordered b)
      (name : String) (c : Template) (found : (Roster.insert a xs).find? name = some c) :
      ∃ d, (Roster.insert b ys).find? name = some d ∧ c.Reordered d := by
    rw [Roster.find?_insert] at found
    rw [Roster.find?_insert, ← hab.name]
    split at found
    case isTrue here =>
      obtain rfl : a = c := Option.some_inj.1 found
      exact ⟨b, if_pos here, hab⟩
    case isFalse elsewhere =>
      rw [if_neg elsewhere]
      exact hxy.left name c found
  exact ⟨put h draft, put h.symm draft.symm⟩

theorem inherits (h : ts.Reordered us) {child parent : String}
    (step : (ofStore ts).Inherits child parent) : (ofStore us).Inherits child parent := by
  obtain ⟨t, ht, hp⟩ := step
  obtain ⟨u, hu, same⟩ := h.left child t (lookup_ofStore.1 ht)
  exact ⟨u, lookup_ofStore.2 hu, same.inherits.mem_iff.1 hp⟩

theorem reaches (h : ts.Reordered us) (hr : (ofStore ts).Reaches root name) :
    (ofStore us).Reaches root name :=
  Relation.ReflTransGen.mono (fun _ _ => h.inherits) _ _ hr

theorem resolves (h : ts.Reordered us) (hr : (ofStore ts).Resolves root) :
    (ofStore us).Resolves root := by
  intro name hreaches
  obtain ⟨t, ht⟩ := hr name (h.symm.reaches hreaches)
  obtain ⟨u, hu, -⟩ := h.left name t (lookup_ofStore.1 ht)
  exact ⟨u, lookup_ofStore.2 hu⟩

theorem declares (h : ts.Reordered us) (hd : (ofStore ts).Declares root rule) :
    ∃ rule', (ofStore us).Declares root rule' ∧ rule.Reordered rule' := by
  obtain ⟨name, t, hr, ht, hm⟩ := hd
  obtain ⟨u, hu, same⟩ := h.left name t (lookup_ofStore.1 ht)
  obtain ⟨rule', hm', hsame⟩ := Multiset.exists_mem_of_rel_of_mem same.rules hm
  exact ⟨rule', ⟨name, u, h.reaches hr, lookup_ofStore.2 hu, hm'⟩, hsame⟩

/-- What a name comes to in both stores are the same rules. -/
theorem sameRules_of_resolve (h : ts.Reordered us) {set set' : RuleSet}
    (hs : ((ofStore ts).resolve root).result = .ok set)
    (hs' : ((ofStore us).resolve root).result = .ok set') : SameRules set.rules set'.rules where
  left rule hrule := by
    obtain ⟨rule', hd, same⟩ := h.declares ((mem_rules_of_resolve hs).1 hrule)
    exact ⟨rule', (mem_rules_of_resolve hs').2 hd, same⟩
  right rule' hrule' := by
    obtain ⟨rule, hd, same⟩ := h.symm.declares ((mem_rules_of_resolve hs').1 hrule')
    exact ⟨rule, (mem_rules_of_resolve hs).2 hd, same.symm⟩

end TemplateStore.Reordered

end GrantGate
