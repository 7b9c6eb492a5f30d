import GrantGate.Proofs.Inheritance.Visits
import GrantGate.Proofs.Review.Plan
import GrantGate.Proofs.Text.Bytes

namespace GrantGate

open Catalog

variable {ts : TemplateStore} {gone root name : String} {heirs : List String}

namespace TemplateStore

private theorem mem_heirs_iff {t : Template} :
    t ∈ ts.heirs gone ↔ t ∈ ts.items ∧ t.name ≠ gone ∧ gone ∈ t.inherits := by
  simp [heirs, Template.inheritsFrom]

/-- The names of the heirs, in the order of the store. -/
def heirNames (ts : TemplateStore) (gone : String) : List String :=
  (ts.heirs gone).map Template.name

theorem mem_heirNames_iff : name ∈ ts.heirNames gone ↔
    name ≠ gone ∧ ∃ t, ts.find? name = some t ∧ gone ∈ t.inherits := by
  simp only [heirNames, List.mem_map, mem_heirs_iff, Roster.find?_eq_some_iff]
  constructor
  · intro h
    obtain ⟨t, ⟨stored, other, inherits⟩, rfl⟩ := h
    exact ⟨other, t, ⟨stored, rfl⟩, inherits⟩
  · intro h
    obtain ⟨other, t, ⟨stored, rfl⟩, inherits⟩ := h
    exact ⟨t, ⟨stored, other, inherits⟩, rfl⟩

private theorem ordered_heirNames (ts : TemplateStore) (gone : String) :
    (ts.heirNames gone).Pairwise (· < ·) :=
  List.pairwise_map.2 (ts.ordered.filter _)

end TemplateStore

/-- Sorting brings what is listed in any order into the order of the store. -/
private theorem mergeSort_of_perm {names sorted : List String} (same : names.Perm sorted)
    (ordered : sorted.Pairwise (· < ·)) :
    names.mergeSort (fun a b => decide (a ≤ b)) = sorted := by
  have perm : (names.mergeSort fun a b => decide (a ≤ b)).Perm sorted :=
    (List.mergeSort_perm names _).trans same
  have increasing : (names.mergeSort fun a b => decide (a ≤ b)).Pairwise (· ≤ ·) := by
    have total (a b : String) : (decide (a ≤ b) || decide (b ≤ a)) = true := by
      simpa using String.le_total a b
    have trans (a b c : String) (hab : decide (a ≤ b) = true) (hbc : decide (b ≤ c) = true) :
        decide (a ≤ c) = true := by
      simp only [decide_eq_true_eq] at hab hbc ⊢
      exact String.le_trans hab hbc
    exact (List.pairwise_mergeSort trans total names).imp fun h => of_decide_eq_true h
  have weakly : sorted.Pairwise (· ≤ ·) :=
    ordered.imp fun h => String.not_lt.1 (String.lt_asymm h)
  exact perm.eq_of_pairwise (fun _ _ _ _ hab hba => String.le_antisymm hab hba) increasing weakly

namespace Catalog

/-- In whatever order the templates are listed, the guard answers as if it had looked at the store. -/
theorem result_deletableAmong_of_perm {listed : Inquiry Refusal (List Template)}
    {all : List Template} (hlisted : listed.result = .ok all) (same : all.Perm ts.items) :
    ((ofStore ts).deletableAmong listed gone).result =
      match ts.find? gone with
      | none => .error (.notFound .template gone)
      | some t =>
        if t.builtin then .error (.builtinUndeletable gone)
        else if ts.heirNames gone = [] then .ok ()
        else .error (.inUse gone (ts.heirNames gone)) := by
  have perm : (all.filter fun other => other.name != gone && other.inheritsFrom gone).Perm
      (ts.heirs gone) := same.filter _
  have empty : (all.filter fun other => other.name != gone && other.inheritsFrom gone) = [] ↔
      ts.heirNames gone = [] := by
    rw [TemplateStore.heirNames, List.map_eq_nil_iff]
    exact ⟨fun h => (h ▸ perm).nil_eq.symm, fun h => (h ▸ perm).eq_nil⟩
  have sorted : ((all.filter fun other => other.name != gone && other.inheritsFrom gone).map
      Template.name).mergeSort (fun a b => decide (a ≤ b)) = ts.heirNames gone :=
    mergeSort_of_perm (perm.map Template.name) (ts.ordered_heirNames gone)
  rw [result_deletableAmong ts hlisted]
  cases hf : ts.find? gone with
  | none => rfl
  | some t =>
    have hname : t.name = gone := Roster.key_of_find? hf
    simp only [empty, sorted, hname]

private theorem lookup_erase_of_ne (h : name ≠ gone) :
    (ofStore (ts.erase gone)).lookup name = (ofStore ts).lookup name := by
  simp only [lookup, ofStore, Roster.find?_erase, if_neg h.symm]

/-- Whoever comes to a name from another one comes by an heir of it. -/
theorem exists_heir_of_reaches (h : (ofStore ts).Reaches root gone) (other : root ≠ gone) :
    ∃ heir ∈ ts.heirNames gone, (ofStore ts).Reaches root heir := by
  induction h using Relation.ReflTransGen.head_induction_on with
  | refl => exact absurd rfl other
  | @head child parent step rest ih =>
    by_cases last : parent = gone
    · obtain ⟨t, found, inherits⟩ := step
      have stored := lookup_ofStore.1 found
      exact ⟨child, TemplateStore.mem_heirNames_iff.2 ⟨other, t, stored, last ▸ inherits⟩, .refl⟩
    · obtain ⟨heir, hheir, reaches⟩ := ih last
      exact ⟨heir, hheir, reaches.head step⟩

/-- The removal of a template without heirs shows nowhere else. -/
theorem resolve_erase_of_no_heirs (unused : ts.heirNames gone = []) (other : root ≠ gone) :
    (ofStore (ts.erase gone)).resolve root = (ofStore ts).resolve root := by
  refine resolve_congr fun name reaches => lookup_erase_of_ne ?_
  rintro rfl
  obtain ⟨heir, hheir, -⟩ := exists_heir_of_reaches reaches other
  rw [unused] at hheir
  exact List.not_mem_nil hheir

/-- Without its parent an heir does not resolve. -/
theorem result_resolve_erase_of_heir {heir : String} (h : heir ∈ ts.heirNames gone) :
    ∃ missing, ((ofStore (ts.erase gone)).resolve heir).result =
      .error (.notFound .template missing) := by
  obtain ⟨other, t, stored, inherits⟩ := TemplateStore.mem_heirNames_iff.1 h
  have kept : (ofStore (ts.erase gone)).lookup heir = .ok t := by
    rw [lookup_erase_of_ne other]
    exact lookup_ofStore.2 stored
  have lost : ¬ (ofStore (ts.erase gone)).Resolves heir := by
    intro resolves
    obtain ⟨u, found⟩ := resolves gone (.single ⟨t, kept, inherits⟩)
    rw [lookup_ofStore, Roster.find?_erase, if_pos rfl] at found
    cases found
  cases hr : ((ofStore (ts.erase gone)).resolve heir).result with
  | ok set => exact absurd (resolve_ok_iff.1 ⟨set, hr⟩) lost
  | error e =>
    obtain ⟨missing, rfl, -⟩ := of_resolveAll_error hr
    exact ⟨missing, rfl⟩

private theorem result_deletable_names (ts : TemplateStore) (gone : String) :
    ((ofStore ts).deletable gone).result =
      match ts.find? gone with
      | none => .error (.notFound .template gone)
      | some t =>
        if t.builtin then .error (.builtinUndeletable gone)
        else if ts.heirNames gone = [] then .ok ()
        else .error (.inUse gone (ts.heirNames gone)) :=
  result_deletableAmong_of_perm rfl (.refl _)

theorem deletable_ok_iff : ((ofStore ts).deletable gone).result = .ok () ↔
    (∃ t, ts.find? gone = some t ∧ t.builtin = false) ∧ ts.heirNames gone = [] := by
  rw [result_deletable_names]
  cases ts.find? gone with
  | none => simp
  | some t => cases hb : t.builtin <;> by_cases hn : ts.heirNames gone = [] <;> simp [hb, hn]

theorem of_deletable_inUse
    (h : ((ofStore ts).deletable gone).result = .error (.inUse name heirs)) :
    name = gone ∧ heirs = ts.heirNames gone ∧ heirs ≠ [] := by
  rw [result_deletable_names] at h
  cases hf : ts.find? gone with
  | none => simp [hf] at h
  | some t =>
    simp only [hf] at h
    split at h
    · cases h
    · split at h
      · cases h
      · rename_i used
        cases h
        exact ⟨rfl, rfl, used⟩

/-- The guard lets a template go exactly if it is there, is not builtin and has no heirs, and then
nothing else resolves in another way without it. If it names heirs, they are all there are, in the
order of their bytes however the templates are listed, and none of them resolves without it. -/
theorem deletable_exact (ts : TemplateStore) (gone : String) :
    let guard := ((ofStore ts).deletable gone).result
    let after := ofStore (ts.erase gone)
    (guard = .ok () ↔ (∃ t, ts.find? gone = some t ∧ t.builtin = false) ∧
      ∀ other ∈ ts.items, other.name ≠ gone → gone ∉ other.inherits) ∧
    (guard = .ok () → ∀ root, root ≠ gone → after.resolve root = (ofStore ts).resolve root) ∧
    (∀ name heirs, guard = .error (.inUse name heirs) → name = gone ∧ heirs ≠ [] ∧
      (∀ heir, heir ∈ heirs ↔ heir ≠ gone ∧ ∃ t, ts.find? heir = some t ∧ gone ∈ t.inherits) ∧
      heirs.Pairwise Text.BytesLt ∧
      ∀ heir ∈ heirs, ∃ missing,
        (after.resolve heir).result = .error (.notFound .template missing)) ∧
    ∀ listed all, listed.result = .ok all → all.Perm ts.items →
      ((ofStore ts).deletableAmong listed gone).result = guard := by
  intro guard after
  have unused : ts.heirNames gone = [] ↔
      ∀ other ∈ ts.items, other.name ≠ gone → gone ∉ other.inherits := by
    rw [TemplateStore.heirNames, List.map_eq_nil_iff, TemplateStore.heirs_eq_nil_iff]
  refine ⟨?_, fun ok root other => ?_, fun name heirs inUse => ?_, fun listed all hlisted same => ?_⟩
  · rw [← unused]
    exact deletable_ok_iff
  · obtain ⟨-, none⟩ := deletable_ok_iff.1 ok
    exact resolve_erase_of_no_heirs none other
  · obtain ⟨hname, rfl, used⟩ := of_deletable_inUse inUse
    have ordered : (ts.heirNames gone).Pairwise Text.BytesLt :=
      (ts.ordered_heirNames gone).imp Text.bytesLt_of_lt
    exact ⟨hname, used, fun heir => TemplateStore.mem_heirNames_iff, ordered,
      fun heir hheir => result_resolve_erase_of_heir hheir⟩
  · exact (result_deletableAmong_of_perm hlisted same).trans (result_deletable_names ts gone).symm

/-- Three templates inherit from the base, in the order of their bytes; one of these inherits from
itself beside, which keeps nobody from its removal. -/
theorem deletable_exact_base :
    let base : Template := { name := "base", rules := [.everything] }
    let zoo : Template := { name := "zoo", inherits := ["base", "été"] }
    let summer : Template := { name := "été", inherits := ["été", "base", "ghost"] }
    let loner : Template := { name := "loner", inherits := ["loner", "base"] }
    let ts : TemplateStore := .ofList [summer, zoo, base, loner]
    ((ofStore ts).deletable "loner").result = .ok () ∧
      (ofStore (ts.erase "loner")).resolve "zoo" = (ofStore ts).resolve "zoo" ∧
      ((ofStore ts).deletable "base").result = .error (.inUse "base" ["loner", "zoo", "été"]) ∧
      ["loner", "zoo", "été"].Pairwise Text.BytesLt ∧
      (∃ missing, ((ofStore (ts.erase "base")).resolve "été").result =
        .error (.notFound .template missing)) ∧
      ((ofStore ts).deletableAmong (.ofExcept (.ok ts.items.reverse)) "base").result =
        .error (.inUse "base" ["loner", "zoo", "été"]) := by
  intro base zoo summer loner ts
  have free : ((ofStore ts).deletable "loner").result = .ok () := by decide +kernel
  have used : ((ofStore ts).deletable "base").result =
      .error (.inUse "base" ["loner", "zoo", "été"]) := by
    rw [result_deletable_names]
    decide +kernel
  obtain ⟨-, same, -, -⟩ := deletable_exact ts "loner"
  obtain ⟨-, -, inUse, anyOrder⟩ := deletable_exact ts "base"
  obtain ⟨-, -, -, ordered, unresolved⟩ := inUse _ _ used
  have reversed := anyOrder (.ofExcept (.ok ts.items.reverse)) _ rfl (List.reverse_perm ts.items)
  exact ⟨free, same free "zoo" (by decide), used, ordered, unresolved "été" (by decide),
    reversed.trans used⟩

end Catalog

end GrantGate
