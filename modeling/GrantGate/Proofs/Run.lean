import GrantGate.Proofs.Review.Admission

namespace GrantGate

/-- A binding as it is stored: in its own namespace or, if it names none, in that of the review. -/
def Binding.placed (b : Binding) (r : Review) : Binding :=
  { b with inNamespace := b.inNamespace.or r.inNamespace }

/-- The binding that a deletion is about. -/
def Review.goneBinding? (r : Review) : Option Binding :=
  Plan.read? Binding.decode (r.oldObject.or r.object)

namespace State

/-- Puts a binding in the place of another one. -/
def replaceBinding (old new : Binding) (s : State) : State :=
  { s with bindings := s.bindings.replace old new }

theorem mem_of_mem_replace {α : Type} [BEq α] {xs : List α} {old new x : α}
    (h : x ∈ xs.replace old new) : x ∈ xs ∨ x = new := by
  induction xs with
  | nil => simp at h
  | cons y ys ih =>
    rw [List.replace_cons] at h
    split at h
    · rcases List.mem_cons.1 h with rfl | h
      · exact .inr rfl
      · exact .inl (List.mem_cons_of_mem _ h)
    · rcases List.mem_cons.1 h with rfl | h
      · exact .inl (List.mem_cons_self ..)
      · exact (ih h).imp_left (List.mem_cons_of_mem _)

/-- Carries out the write that a review is about. -/
def write (s : State) (kind : ReviewKind) (r : Review) : State :=
  match kind, r.operation with
  | .bindings, .create => r.newBinding?.elim s fun b => s.addBinding (b.placed r)
  | .bindings, .update =>
    r.newBinding?.elim s fun new => r.oldBinding?.elim s fun old => s.replaceBinding old new
  | .bindings, .delete => r.goneBinding?.elim s fun b => (s.removeBinding b.name).2
  | .templates, .create | .templates, .update =>
    r.newTemplate?.elim s fun t => (s.insertTemplate t).2
  | .templates, .delete => r.goneTemplate?.elim s fun t => (s.removeTemplate t.name).2

/-- Carries out the write if the review admits it. -/
def enact (s : State) (kind : ReviewKind) (r : Review) : State :=
  match (s.validate kind r).result with
  | .ok () => s.write kind r
  | .error _ => s

/-- Takes reviews one after the other. -/
def run (s : State) : List (ReviewKind × Review) → State
  | [] => s
  | (kind, r) :: rest => (s.enact kind r).run rest

/-- A condition on each review of a run and the state that it meets. -/
def Throughout (p : State → ReviewKind → Review → Prop) : State → List (ReviewKind × Review) → Prop
  | _, [] => True
  | s, (kind, r) :: rest => p s kind r ∧ Throughout p (s.enact kind r) rest

/-- The old object of an update is the stored one. -/
def Knows (s : State) (kind : ReviewKind) (r : Review) : Prop :=
  r.operation = .update →
    match kind with
    | .bindings => ∀ old ∈ r.oldBinding?, old ∈ s.bindings
    | .templates => ∀ old ∈ r.oldTemplate?, s.templates.find? old.name = some old

instance (s : State) (r : Review) : (kind : ReviewKind) → Decidable (s.Knows kind r)
  | .bindings => inferInstanceAs (Decidable (_ → ∀ old ∈ r.oldBinding?, old ∈ s.bindings))
  | .templates => inferInstanceAs
      (Decidable (_ → ∀ old ∈ r.oldTemplate?, s.templates.find? old.name = some old))

/-- What is created has a name that nothing stored has. -/
def Fresh (s : State) (kind : ReviewKind) (r : Review) : Prop :=
  r.operation = .create →
    match kind with
    | .bindings => ∀ b ∈ r.newBinding?, ∀ other ∈ s.bindings, other.name ≠ b.name
    | .templates => ∀ t ∈ r.newTemplate?, s.templates.find? t.name = none

instance (s : State) (r : Review) : (kind : ReviewKind) → Decidable (s.Fresh kind r)
  | .bindings => inferInstanceAs
      (Decidable (_ → ∀ b ∈ r.newBinding?, ∀ other ∈ s.bindings, other.name ≠ b.name))
  | .templates => inferInstanceAs
      (Decidable (_ → ∀ t ∈ r.newTemplate?, s.templates.find? t.name = none))

instance decidableThroughout {p : State → ReviewKind → Review → Prop}
    [∀ s kind r, Decidable (p s kind r)] :
    (s : State) → (reviews : List (ReviewKind × Review)) → Decidable (Throughout p s reviews)
  | _, [] => inferInstanceAs (Decidable True)
  | s, (kind, r) :: rest =>
    have := decidableThroughout (p := p) (s.enact kind r) rest
    inferInstanceAs (Decidable (_ ∧ _))

/-- All that a review can do to a state, with what it takes to be admitted. -/
inductive Step (s : State) : ReviewKind → Review → State → Prop
  | unchanged {kind r} : Step s kind r s
  | createBinding {r b t set} (create : r.operation = .create) (reads : r.newBinding? = some b)
      (named : b.template ≠ "") (stored : s.templates.find? b.template = some t)
      (unlocked : t.locked = false) (fits : t.reach = (b.reviewScope r).reach)
      (resolves : (s.catalog.resolve b.template).result = .ok set)
      (settled : (s.settle r (b.grant r set.rules)).result = .ok ()) :
      Step s .bindings r (s.addBinding (b.placed r))
  | updateBinding {r new old} (update : r.operation = .update)
      (reads : r.newBinding? = some new) (readsOld : r.oldBinding? = some old)
      (template : old.template = new.template) (grantee : old.grantee = new.grantee)
      (inNamespace : old.inNamespace = new.inNamespace) :
      Step s .bindings r (s.replaceBinding old new)
  | deleteBinding {r b} (delete : r.operation = .delete) (reads : r.goneBinding? = some b) :
      Step s .bindings r (s.removeBinding b.name).2
  | createTemplate {r t} (create : r.operation = .create) (reads : r.newTemplate? = some t)
      (shape : t.shapeComplaint? = none) (builtin : t.builtin = false)
      (grant : s.AdmitsGrant r t) : Step s .templates r (s.insertTemplate t).2
  | updateTemplate {r new old} (update : r.operation = .update)
      (reads : r.newTemplate? = some new) (readsOld : r.oldTemplate? = some old)
      (shape : new.shapeComplaint? = none) (name : old.name = new.name)
      (builtin : old.builtin = new.builtin)
      (locked : old.builtin = true → { old with locked := new.locked } = new)
      (grant : old.rules = new.rules ∧ old.inherits = new.inherits ∨ s.AdmitsGrant r new) :
      Step s .templates r (s.insertTemplate new).2
  | deleteTemplate {r t} (delete : r.operation = .delete) (reads : r.goneTemplate? = some t)
      (unused : ∀ stored, s.templates.find? t.name = some stored →
        stored.builtin = false ∧ s.templates.heirs t.name = []) :
      Step s .templates r (s.removeTemplate t.name).2

variable {s : State} {kind : ReviewKind} {r : Review}

theorem step_write (admitted : s.Admits kind r) : Step s kind r (s.write kind r) := by
  cases kind with
  | bindings =>
    cases hop : r.operation with
    | create =>
      obtain ⟨b, t, set, hb, hne, ht, hl, hr, hs, hg⟩ := (admits_create_binding_iff hop).1 admitted
      have hwrite : s.write .bindings r = s.addBinding (b.placed r) := by simp [write, hop, hb]
      rw [hwrite]
      exact .createBinding hop hb hne ht hl hr hs hg
    | update =>
      obtain ⟨new, old, hnew, hold, ht, hg, hn⟩ := (admits_update_binding_iff hop).1 admitted
      have hwrite : s.write .bindings r = s.replaceBinding old new := by
        simp [write, hop, hnew, hold]
      rw [hwrite]
      exact .updateBinding hop hnew hold ht hg hn
    | delete =>
      cases hb : r.goneBinding? with
      | none =>
        have hwrite : s.write .bindings r = s := by simp [write, hop, hb]
        rw [hwrite]
        exact .unchanged
      | some b =>
        have hwrite : s.write .bindings r = (s.removeBinding b.name).2 := by simp [write, hop, hb]
        rw [hwrite]
        exact .deleteBinding hop hb
  | templates =>
    cases hop : r.operation with
    | create =>
      obtain ⟨t, ht, hshape, hbuiltin, hg⟩ := (admits_create_template_iff hop).1 admitted
      have hwrite : s.write .templates r = (s.insertTemplate t).2 := by simp [write, hop, ht]
      rw [hwrite]
      exact .createTemplate hop ht hshape hbuiltin hg
    | update =>
      obtain ⟨new, old, hnew, hold, hshape, hname, hbuiltin, hlock, hg⟩ :=
        (admits_update_template_iff hop).1 admitted
      have hwrite : s.write .templates r = (s.insertTemplate new).2 := by simp [write, hop, hnew]
      rw [hwrite]
      exact .updateTemplate hop hnew hold hshape hname hbuiltin hlock hg
    | delete =>
      obtain ⟨t, ht, hgone⟩ := (admits_delete_template_iff hop).1 admitted
      have hwrite : s.write .templates r = (s.removeTemplate t.name).2 := by simp [write, hop, ht]
      rw [hwrite]
      exact .deleteTemplate hop ht hgone

theorem step_enact : Step s kind r (s.enact kind r) := by
  unfold enact
  cases h : (s.validate kind r).result with
  | ok => exact step_write h
  | error e => exact .unchanged

theorem Throughout.and {p q : State → ReviewKind → Review → Prop}
    {reviews : List (ReviewKind × Review)} (hp : Throughout p s reviews)
    (hq : Throughout q s reviews) :
    Throughout (fun s kind r => p s kind r ∧ q s kind r) s reviews := by
  induction reviews generalizing s with
  | nil => trivial
  | cons review rest ih => exact ⟨⟨hp.1, hq.1⟩, ih hp.2 hq.2⟩

/-- What a review keeps that meets a condition, a run of such reviews keeps. -/
theorem Throughout.keeps {p : State → ReviewKind → Review → Prop} (keep : State → Prop)
    (step : ∀ {s kind r}, p s kind r → keep s → keep (s.enact kind r))
    {reviews : List (ReviewKind × Review)} (h : Throughout p s reviews) (start : keep s) :
    keep (s.run reviews) := by
  induction reviews generalizing s with
  | nil => exact start
  | cons review rest ih =>
    obtain ⟨now, later⟩ := h
    exact ih later (step now start)

end State

end GrantGate
