import GrantGate.Proofs.Escalation.Settling
import GrantGate.Proofs.Inheritance.Draft
import GrantGate.Proofs.Review.Plan

namespace GrantGate

namespace Review

variable (r : Review)

def newBinding? : Option Binding := Plan.read? Binding.decode r.object

def oldBinding? : Option Binding := Plan.read? Binding.decode r.oldObject

def newTemplate? : Option Template := Plan.read? Template.decode r.object

def oldTemplate? : Option Template := Plan.read? Template.decode r.oldObject

/-- The template that a deletion is about. -/
def goneTemplate? : Option Template := Plan.read? Template.decode (r.oldObject.or r.object)

end Review

namespace State

/-- The review is answered with yes. -/
def Admits (s : State) (kind : ReviewKind) (r : Review) : Prop :=
  (s.validate kind r).result = .ok ()

/-- The requester may hand out what the template stands for. -/
def AdmitsGrant (s : State) (r : Review) (t : Template) : Prop :=
  ∃ set, (s.catalog.resolveDraft t).result = .ok set ∧
    (s.settle r (t.grant set.rules)).result = .ok ()

variable {s : State} {kind : ReviewKind} {r : Review}

theorem admits_iff : s.Admits kind r ↔ ∃ p, (r.plan kind s.catalog).result = .ok p ∧
    ∀ g, p = some g → (s.settle r g).result = .ok () := by
  rw [Admits, validate, Inquiry.bind_ok_iff]
  refine exists_congr fun p => and_congr_right fun _ => ?_
  cases p <;> simp [Inquiry.mapError_ok_iff]

theorem plan_create_binding_iff (h : r.operation = .create) {p : Option Grant} :
    (r.plan .bindings s.catalog).result = .ok p ↔ ∃ b t set, r.newBinding? = some b ∧
      b.template ≠ "" ∧ s.templates.find? b.template = some t ∧ t.locked = false ∧
      t.reach = (b.reviewScope r).reach ∧ (s.catalog.resolve b.template).result = .ok set ∧
      p = some (b.grant r set.rules) := by
  -- the stored template resolves as its name does
  have hresolve {b : Binding} {t : Template} (ht : s.catalog.lookup b.template = .ok t) :
      (s.catalog.resolveDraft t).result = (s.catalog.resolve b.template).result := by
    have hname : t.name = b.template := Catalog.name_of_lookup ht
    rw [← hname]
    exact Catalog.result_resolveDraft_of_stored (hname ▸ Catalog.lookup_ofStore.1 ht)
  simp only [Review.plan, Review.planBinding, h, Inquiry.bind_ok_iff, Plan.object_ok_iff,
    Binding.planCreate_ok_iff]
  constructor
  · intro h
    obtain ⟨b, hb, hne, t, set, ht, hl, hr, hs, hp⟩ := h
    exact ⟨b, t, set, hb, hne, Catalog.lookup_ofStore.1 ht, hl, hr, hresolve ht ▸ hs, hp⟩
  · intro h
    obtain ⟨b, t, set, hb, hne, ht, hl, hr, hs, hp⟩ := h
    have ht := Catalog.lookup_ofStore.2 ht
    exact ⟨b, hb, hne, t, set, ht, hl, hr, (hresolve ht).trans hs, hp⟩

theorem admits_create_binding_iff (h : r.operation = .create) : s.Admits .bindings r ↔
    ∃ b t set, r.newBinding? = some b ∧ b.template ≠ "" ∧
      s.templates.find? b.template = some t ∧ t.locked = false ∧
      t.reach = (b.reviewScope r).reach ∧ (s.catalog.resolve b.template).result = .ok set ∧
      (s.settle r (b.grant r set.rules)).result = .ok () := by
  simp only [admits_iff, plan_create_binding_iff h]
  constructor
  · intro h
    obtain ⟨p, ⟨b, t, set, hb, hne, ht, hl, hr, hs, rfl⟩, hp⟩ := h
    exact ⟨b, t, set, hb, hne, ht, hl, hr, hs, hp _ rfl⟩
  · intro h
    obtain ⟨b, t, set, hb, hne, ht, hl, hr, hs, hg⟩ := h
    refine ⟨_, ⟨b, t, set, hb, hne, ht, hl, hr, hs, rfl⟩, ?_⟩
    intro g hsome
    cases hsome
    exact hg

theorem admits_update_binding_iff (h : r.operation = .update) : s.Admits .bindings r ↔
    ∃ new old, r.newBinding? = some new ∧ r.oldBinding? = some old ∧
      old.template = new.template ∧ old.grantee = new.grantee ∧
      old.inNamespace = new.inNamespace := by
  simp only [admits_iff, Review.plan, Review.planBinding, h, Inquiry.bind_ok_iff,
    Plan.object_ok_iff, Binding.planUpdate_ok_iff]
  constructor
  · intro h
    obtain ⟨p, ⟨new, hnew, old, hold, -, hsame⟩, -⟩ := h
    exact ⟨new, old, hnew, hold, hsame⟩
  · intro h
    obtain ⟨new, old, hnew, hold, hsame⟩ := h
    exact ⟨none, ⟨new, hnew, old, hold, rfl, hsame⟩, by simp⟩

theorem admitsGrant_iff {t : Template} : s.AdmitsGrant r t ↔
    ∃ p, (t.planGrant s.catalog).result = .ok p ∧
      ∀ g, p = some g → (s.settle r g).result = .ok () := by
  simp only [AdmitsGrant, Template.planGrant_ok_iff]
  constructor
  · intro h
    obtain ⟨set, hs, hg⟩ := h
    refine ⟨_, ⟨set, hs, rfl⟩, ?_⟩
    intro g hsome
    cases hsome
    exact hg
  · intro h
    obtain ⟨p, ⟨set, hs, rfl⟩, hp⟩ := h
    exact ⟨set, hs, hp _ rfl⟩

theorem admits_create_template_iff (h : r.operation = .create) : s.Admits .templates r ↔
    ∃ t, r.newTemplate? = some t ∧ t.shapeComplaint? = none ∧ t.builtin = false ∧
      s.AdmitsGrant r t := by
  simp only [admits_iff, admitsGrant_iff, Review.plan, Review.planTemplate, h,
    Inquiry.bind_ok_iff, Plan.object_ok_iff, Template.planCreate_ok_iff]
  constructor
  · intro h
    obtain ⟨p, ⟨t, ht, hshape, hbuiltin, hplan⟩, hp⟩ := h
    exact ⟨t, ht, hshape, hbuiltin, p, hplan, hp⟩
  · intro h
    obtain ⟨t, ht, hshape, hbuiltin, p, hplan, hp⟩ := h
    exact ⟨p, ⟨t, ht, hshape, hbuiltin, hplan⟩, hp⟩

theorem admits_update_template_iff (h : r.operation = .update) : s.Admits .templates r ↔
    ∃ new old, r.newTemplate? = some new ∧ r.oldTemplate? = some old ∧
      new.shapeComplaint? = none ∧ old.name = new.name ∧ old.builtin = new.builtin ∧
      (old.builtin = true → { old with locked := new.locked } = new) ∧
      (old.rules = new.rules ∧ old.inherits = new.inherits ∨ s.AdmitsGrant r new) := by
  simp only [admits_iff, admitsGrant_iff, Review.plan, Review.planTemplate, h,
    Inquiry.bind_ok_iff, Plan.object_ok_iff, Template.planUpdate_ok_iff]
  constructor
  · intro h
    obtain ⟨p, ⟨new, hnew, old, hold, hshape, hname, hbuiltin, hlock, hplan⟩, hp⟩ := h
    refine ⟨new, old, hnew, hold, hshape, hname, hbuiltin, hlock, ?_⟩
    by_cases hsame : old.rules = new.rules ∧ old.inherits = new.inherits
    · exact .inl hsame
    · rw [if_neg hsame] at hplan
      exact .inr ⟨p, hplan, hp⟩
  · intro h
    obtain ⟨new, old, hnew, hold, hshape, hname, hbuiltin, hlock, hgrant⟩ := h
    by_cases hsame : old.rules = new.rules ∧ old.inherits = new.inherits
    · refine ⟨none, ⟨new, hnew, old, hold, hshape, hname, hbuiltin, hlock, ?_⟩, by simp⟩
      rw [if_pos hsame]
    · obtain ⟨p, hplan, hp⟩ := hgrant.resolve_left hsame
      refine ⟨p, ⟨new, hnew, old, hold, hshape, hname, hbuiltin, hlock, ?_⟩, hp⟩
      rw [if_neg hsame]
      exact hplan

theorem admits_delete_template_iff (h : r.operation = .delete) : s.Admits .templates r ↔
    ∃ t, r.goneTemplate? = some t ∧ ∀ stored, s.templates.find? t.name = some stored →
      stored.builtin = false ∧ s.templates.heirs t.name = [] := by
  simp only [admits_iff, Review.plan, Review.planTemplate, h, Inquiry.bind_ok_iff,
    Plan.object_ok_iff, catalog, Template.planDelete_ok_iff]
  constructor
  · intro h
    obtain ⟨p, ⟨t, ht, -, hgone⟩, -⟩ := h
    exact ⟨t, ht, hgone⟩
  · intro h
    obtain ⟨t, ht, hgone⟩ := h
    exact ⟨none, ⟨t, ht, rfl, hgone⟩, by simp⟩

end State

end GrantGate
