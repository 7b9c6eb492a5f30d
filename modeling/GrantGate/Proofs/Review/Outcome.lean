import GrantGate.Proofs.Escalation.Settling
import GrantGate.Proofs.Inheritance.Draft
import GrantGate.Proofs.Review.Plan

namespace GrantGate

namespace Inquiry

variable {α β : Type} {R : α → α → Prop} {S : β → β → Prop} {x y : Inquiry Fault α}

/-- Both come to answers, which are related, or both to faults of one outcome. -/
inductive SameOutcome (R : α → α → Prop) (x y : Inquiry Fault α) : Prop
  | answers {a b} (left : x.result = .ok a) (right : y.result = .ok b) (related : R a b)
  | faults {e f} (left : x.result = .error e) (right : y.result = .error f)
      (same : e.outcome = f.outcome)

namespace SameOutcome

theorem refl (x : Inquiry Fault α) : x.SameOutcome Eq x := by
  cases hx : x.result with
  | ok a => exact .answers hx hx rfl
  | error e => exact .faults hx hx rfl

/-- Of inquiries in two steps the first steps are compared, and where they have answers the second
ones after them. -/
theorem bind {f g : α → Inquiry Fault β} (h : x.SameOutcome R y)
    (next : ∀ a b, R a b → (f a).SameOutcome S (g b)) : (x >>= f).SameOutcome S (y >>= g) := by
  cases h with
  | answers left right related =>
    have hf := result_bind_of_ok (f := f) left
    have hg := result_bind_of_ok (f := g) right
    cases next _ _ related with
    | answers left right related => exact .answers (hf.trans left) (hg.trans right) related
    | faults left right same => exact .faults (hf.trans left) (hg.trans right) same
  | faults left right same =>
    exact .faults (result_bind_of_error left) (result_bind_of_error right) same

/-- Where all faults have one outcome, it is enough that both have answers or neither. -/
theorem of_one_outcome {outcome : Outcome} (left : ∀ e, x.result = .error e → e.outcome = outcome)
    (right : ∀ e, y.result = .error e → e.outcome = outcome)
    (answers : (∃ a, x.result = .ok a) ↔ ∃ b, y.result = .ok b)
    (related : ∀ a b, x.result = .ok a → y.result = .ok b → R a b) : x.SameOutcome R y := by
  cases hx : x.result with
  | ok a =>
    obtain ⟨b, hy⟩ := answers.1 ⟨a, hx⟩
    exact .answers hx hy (related a b hx hy)
  | error e =>
    cases hy : y.result with
    | ok b =>
      obtain ⟨a, ha⟩ := answers.2 ⟨b, hy⟩
      rw [hx] at ha
      cases ha
    | error f => exact .faults hx hy ((left e hx).trans (right f hy).symm)

end SameOutcome

end Inquiry

private theorem Fault.outcome_of_isNotFound {e : Refusal} (h : e.isNotFound = true) :
    (Fault.refused e).outcome = .invalid := by
  cases e with
  | notFound kind name => rfl
  | _ => cases h

/-- A draft that does not resolve is bad input. -/
theorem Catalog.outcome_of_resolveDraft {ts : TemplateStore} {draft : Template} {e : Fault}
    (h : (Plan.guarded ((ofStore ts).resolveDraft draft)).result = .error e) :
    e.outcome = .invalid := by
  obtain ⟨refusal, hrefusal, rfl⟩ := Inquiry.mapError_error_iff.1 h
  rw [result_resolveDraft] at hrefusal
  exact Fault.outcome_of_isNotFound ((onlyMisses_ofStore _).isNotFound_of_resolve hrefusal)

/-- A template that may not go is kept by policy. -/
theorem Template.outcome_of_planDelete {ts : TemplateStore} {t : Template} {e : Fault}
    (h : (t.planDelete (.ofStore ts)).result = .error e) : e.outcome = .denied := by
  rw [result_planDelete] at h
  cases hf : ts.find? t.name with
  | none => simp [hf] at h
  | some stored =>
    simp only [hf] at h
    split at h
    · cases h
      rfl
    · split at h
      · cases h
      · cases h
        rfl

/-- A grant is refused by policy, or since the service is going down. -/
theorem State.outcome_of_settle {s : State} {r : Review} {g : Grant} {e : Fault}
    (h : (Plan.guarded (s.settle r g)).result = .error e) :
    e.outcome = if s.shutDown then .timeout else .denied := by
  obtain ⟨refusal, hrefusal, rfl⟩ := Inquiry.mapError_error_iff.1 h
  rw [result_settle] at hrefusal
  by_cases hg : g.rules.isEmpty = true
  · simp [hg] at hrefusal
  cases hs : s.shutDown with
  | true =>
    obtain rfl : Refusal.cancelled = refusal := by simpa [hg, hs] using hrefusal
    rfl
  | false =>
    simp only [hg, hs, Bool.false_eq_true, if_false, Verdict.toExcept] at hrefusal
    split at hrefusal
    · cases hrefusal
    · cases hrefusal
      rfl

end GrantGate
