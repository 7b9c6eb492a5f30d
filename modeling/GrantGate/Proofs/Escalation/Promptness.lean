import GrantGate.Proofs.Escalation.Settling

namespace GrantGate

namespace Activity

variable {α β : Type}

/-- An answer that takes no time, and is a refusal only where the request may be cancelled. -/
inductive Prompt : Activity α → Prop
  | answer (a : α) : Prompt (.answer (.ok a))
  | cancelled : Prompt (.answer (.error .cancelled))
  | note (e : Event) {next : Activity α} (h : next.Prompt) : Prompt (.note e next)
  | cancel {next : Activity α} (h : next.Prompt) : Prompt (.cancel next)
  | ifCancelled {yes no : Activity α} (hyes : yes.Prompt) (hno : no.Prompt) :
      Prompt (.ifCancelled yes no)

/-- The same activity, where the request is cancelled from outside after so many steps of it. -/
def cancelledAfter : Nat → Activity α → Activity α
  | 0, a => cancel a
  | _ + 1, answer r => answer r
  | n + 1, note e next => note e (next.cancelledAfter n)
  | n + 1, cancel next => cancel (next.cancelledAfter n)
  | n + 1, wait ms next => wait ms (next.cancelledAfter n)
  | n + 1, ifCancelled yes no => ifCancelled (yes.cancelledAfter n) (no.cancelledAfter n)
  | _ + 1, stall => stall

namespace Prompt

variable {a : Activity α}

theorem run (h : a.Prompt) (l : Limits) (c : Clock) :
    ∃ r c', a.run l c = (some r, c') ∧ ∀ e, r = .error e → e = .cancelled := by
  induction h generalizing c with
  | answer a => exact ⟨.ok a, c, rfl, by simp⟩
  | cancelled => exact ⟨.error .cancelled, c, rfl, by simp⟩
  | note e _ ih => exact ih (c.note e)
  | cancel _ ih => exact ih { c with cancelled := true }
  | ifCancelled _ _ ihYes ihNo =>
    rw [Activity.run]
    split
    · exact ihYes c
    · exact ihNo c

theorem call (h : a.Prompt) (l : Limits) (c : Clock) :
    ∃ r c', l.call a c = (some r, c') ∧ ∀ e, r = .error e → e = .cancelled := by
  rw [Limits.call]
  split
  · exact ⟨.error .cancelled, c, rfl, by simp⟩
  · exact h.run l c

theorem bind (h : a.Prompt) {f : α → Activity β} (hf : ∀ x, (f x).Prompt) : (a.bind f).Prompt := by
  induction h with
  | answer x => exact hf x
  | cancelled => exact .cancelled
  | note e _ ih => exact .note e ih
  | cancel _ ih => exact .cancel ih
  | ifCancelled _ _ ihYes ihNo => exact .ifCancelled ihYes ihNo

theorem cancelledAfter (h : a.Prompt) (n : Nat) : (a.cancelledAfter n).Prompt := by
  induction h generalizing n with
  | answer x =>
    cases n with
    | zero => exact .cancel (.answer x)
    | succ n => exact .answer x
  | cancelled =>
    cases n with
    | zero => exact .cancel .cancelled
    | succ n => exact .cancelled
  | note e h ih =>
    cases n with
    | zero => exact .cancel (.note e h)
    | succ n => exact .note e (ih n)
  | cancel h ih =>
    cases n with
    | zero => exact .cancel (.cancel h)
    | succ n => exact .cancel (ih n)
  | ifCancelled hyes hno ihYes ihNo =>
    cases n with
    | zero => exact .cancel (.ifCancelled hyes hno)
    | succ n => exact .ifCancelled (ihYes n) (ihNo n)

end Prompt

private theorem prompt_unlessCancelled {x : Inquiry Refusal α} {a : α} (h : x.result = .ok a) :
    (unlessCancelled x).Prompt := by
  refine .ifCancelled .cancelled ?_
  rw [ofInquiry, h]
  induction x.events with
  | nil => exact .answer a
  | cons e _ ih => exact .note e ih

end Activity

namespace Grant

variable (g : Grant) (subject : Subject) {oracle : Option Oracle} (l : Limits)

private theorem settle_of_prompt
    (prompt : ∀ o ∈ oracle, ∀ subject access, (o subject access).Prompt)
    (held : Resolution) (c : Clock) : ∃ r c', g.settle subject oracle l held c = (some r, c') ∧
      ∀ e, r = .error e → e = .cancelled := by
  unfold settle
  by_cases hmissing : (g.missing held).isEmpty = true
  · exact ⟨.ok .allow, c, by simp [hmissing], by simp⟩
  simp only [hmissing, Bool.false_eq_true, if_false]
  cases oracle with
  | none => exact ⟨_, c, rfl, by simp⟩
  | some o =>
    cases g.bypass with
    | none => exact ⟨_, c, rfl, by simp⟩
    | some access =>
      obtain ⟨r, c', hcall, hr⟩ := (prompt o rfl subject access).call l c
      simp only [hcall]
      cases r with
      | error e => exact ⟨_, c', rfl, by simpa using hr⟩
      | ok answer =>
        dsimp only
        split
        · exact ⟨_, c', rfl, by simp⟩
        · exact ⟨_, c', rfl, by simp⟩

/-- A check that asks nothing but prompt capabilities ends, be the deadline as it may: with yes,
with the refusal of an escalation, or since it is cancelled. -/
theorem ensure_of_prompt {resolver : Resolver}
    (answers : ∀ subject scope, (resolver subject scope).Prompt)
    (prompt : ∀ o ∈ oracle, ∀ subject access, (o subject access).Prompt) (c : Clock) :
    ∃ r c', g.ensure subject resolver oracle l c = (some r, c') ∧
      ∀ e, r = .error e → e = .cancelled ∨ ∃ d, e = .escalation d := by
  have confirmed : ∃ r c', g.confirm subject resolver oracle l c = (some r, c') ∧
      ∀ e, r = .error e → e = .cancelled := by
    rw [confirm]
    split
    · exact ⟨_, c, rfl, by simp⟩
    obtain ⟨r, c', hcall, hr⟩ := (answers subject g.scope).call l c
    rw [hcall]
    cases r with
    | ok held => exact g.settle_of_prompt subject l prompt held c'
    | error e => exact ⟨_, c', rfl, by simpa using hr⟩
  obtain ⟨r, c', hconfirm, hr⟩ := confirmed
  refine ⟨_, c', by rw [ensure, hconfirm]; rfl, ?_⟩
  intro e he
  cases r with
  | error e' =>
    obtain rfl : e' = e := Except.error.inj he
    exact .inl (hr e' rfl)
  | ok v =>
    change v.toExcept subject = .error e at he
    rw [Verdict.toExcept] at he
    split at he
    · cases he
    · exact .inr ⟨v.denial subject, (Except.error.inj he).symm⟩

end Grant

namespace State

variable (s : State)

theorem prompt_resolver (subject : Subject) (scope : Scope) : (s.resolver subject scope).Prompt :=
  .note _ (Activity.prompt_unlessCancelled (s.result_holdings subject scope))

theorem prompt_bindingOracle (subject : Subject) (access : Access) :
    (s.bindingOracle subject access).Prompt :=
  .note _ ((s.prompt_resolver subject access.scope).bind fun held =>
    .answer (OracleAnswer.ofHeld held access))

end State

end GrantGate
