import GrantGate.Proofs.Escalation.Asking

namespace GrantGate

/-- What may become of a call. -/
inductive Ending where
  | unstarted
  | answered
  | cancelled
  | expired
  deriving DecidableEq, Repr

namespace Ending

/-- What is said in place of an answer. -/
def refusal? : Ending → Option Refusal
  | unstarted | cancelled => some .cancelled
  | answered => none
  | expired => some .deadlineExceeded

/-- What comes back to the caller. -/
def result {α : Type} (answer : Except Refusal α) (ending : Ending) : Except Refusal α :=
  match ending.refusal? with
  | some e => .error e
  | none => answer

variable {α : Type} (answer : Except Refusal α)

@[simp] theorem result_answered : answered.result answer = answer := rfl

@[simp] theorem result_cancelled : cancelled.result answer = .error .cancelled := rfl

@[simp] theorem result_expired : expired.result answer = .error .deadlineExceeded := rfl

end Ending

namespace Limits

/-- What becomes of a call at an instant whose answer takes so long. -/
def ending (l : Limits) (start delay : Nat) : Ending :=
  if l.cancelAt.any (· ≤ start) then .unstarted
  else if delay = 0 then .answered
  else if l.cancelAt.any fun cancelAt =>
      cancelAt ≤ start + delay && noLater cancelAt (l.deadline.map (max · start)) then .cancelled
  else if noLater (start + delay) l.deadline then .answered
  else .expired

/-- What one look at a call finds, whose answer is there from an instant on. -/
def poll (l : Limits) (ready now : Nat) : Option Ending :=
  if l.cancelAt.any (· ≤ now) then some .cancelled
  else if ready ≤ now then some .answered
  else if l.deadline.any (· ≤ now) then some .expired
  else none

/-- Nobody has cancelled up to an instant. -/
def Uncancelled (l : Limits) (t : Nat) : Prop := ∀ cancelAt ∈ l.cancelAt, t < cancelAt

/-- How a call ends, and when, with the reasons. -/
inductive Ends (l : Limits) (start delay : Nat) : Ending → Nat → Prop
  | unstarted {cancelAt} (cancels : cancelAt ∈ l.cancelAt) (early : cancelAt ≤ start) :
      Ends l start delay .unstarted start
  | answered (begun : l.Uncancelled start) (inTime : delay = 0 ∨ l.Open (start + delay)) :
      Ends l start delay .answered (start + delay)
  | cancelled {cancelAt} (cancels : cancelAt ∈ l.cancelAt) (begun : start < cancelAt)
      (waiting : cancelAt ≤ start + delay) (inTime : ∀ deadline ∈ l.deadline, cancelAt ≤ deadline) :
      Ends l start delay .cancelled cancelAt
  | expired {deadline} (expires : deadline ∈ l.deadline) (late : 0 < delay)
      (waiting : deadline < start + delay) (begun : l.Uncancelled (max deadline start)) :
      Ends l start delay .expired (max deadline start)

variable {l : Limits} {start delay : Nat} {e : Ending} {t : Nat}

private theorem any_eq_false_iff : l.cancelAt.any (· ≤ t) = false ↔ l.Uncancelled t := by
  simp [Uncancelled, Option.any_eq_false]

private theorem noLater_iff {limit : Option Nat} :
    noLater t limit = true ↔ ∀ last ∈ limit, t ≤ last := by
  cases limit <;> simp [noLater]

theorem Uncancelled.mono (h : l.Uncancelled t) {t' : Nat} (hle : t' ≤ t) : l.Uncancelled t' :=
  fun cancelAt hk => Nat.lt_of_le_of_lt hle (h cancelAt hk)

private theorem uncancelled_of_lt {cancelAt : Nat} (cancels : cancelAt ∈ l.cancelAt)
    (h : t < cancelAt) :
    l.Uncancelled t := by
  intro cancelAt' cancels'
  rwa [← Option.mem_unique cancels cancels']

/-- A call ends in one of these ways. -/
theorem exists_ends (l : Limits) (start delay : Nat) : ∃ e t, l.Ends start delay e t := by
  by_cases early : ∃ cancelAt ∈ l.cancelAt, cancelAt ≤ start
  · obtain ⟨cancelAt, cancels, early⟩ := early
    exact ⟨_, _, .unstarted cancels early⟩
  have begun : l.Uncancelled start := by simpa [Uncancelled] using early
  by_cases atOnce : delay = 0
  · exact ⟨_, _, .answered begun (.inl atOnce)⟩
  by_cases cut : ∃ cancelAt ∈ l.cancelAt, cancelAt ≤ start + delay ∧
      ∀ deadline ∈ l.deadline, cancelAt ≤ deadline
  · obtain ⟨cancelAt, cancels, waiting, inTime⟩ := cut
    exact ⟨_, _, .cancelled cancels (begun cancelAt cancels) waiting inTime⟩
  have later : ∀ cancelAt ∈ l.cancelAt, cancelAt ≤ start + delay →
      ∃ deadline ∈ l.deadline, deadline < cancelAt := by
    simpa using cut
  by_cases inTime : ∀ deadline ∈ l.deadline, start + delay ≤ deadline
  · refine ⟨_, _, .answered begun (.inr ⟨inTime, fun cancelAt cancels => ?_⟩)⟩
    refine Nat.lt_of_not_le fun waiting => ?_
    obtain ⟨deadline, expires, before⟩ := later cancelAt cancels waiting
    have := inTime deadline expires
    omega
  · obtain ⟨deadline, expires, waiting⟩ : ∃ deadline ∈ l.deadline, deadline < start + delay := by
      simpa using inTime
    refine ⟨_, _, .expired expires (by omega) waiting fun cancelAt cancels => ?_⟩
    have after := begun cancelAt cancels
    refine Nat.lt_of_not_le fun early => ?_
    obtain ⟨deadline', expires', before⟩ := later cancelAt cancels (by omega)
    obtain rfl : deadline = deadline' := Option.mem_unique expires expires'
    omega

/-- The cancellation comes before the call is over otherwise. -/
private theorem cut_iff : (l.cancelAt.any fun cancelAt =>
      cancelAt ≤ start + delay && noLater cancelAt (l.deadline.map (max · start))) = true ↔
    ∃ cancelAt ∈ l.cancelAt, cancelAt ≤ start + delay ∧
      ∀ deadline ∈ l.deadline, cancelAt ≤ max deadline start := by
  simp [Option.any_eq_true, noLater_iff]

/-- The reasons are those by which the ending is known in advance. -/
theorem Ends.ending_eq (h : l.Ends start delay e t) : l.ending start delay = e := by
  cases h with
  | @unstarted cancelAt cancels early =>
    have cancelled : l.cancelAt.any (· ≤ start) = true :=
      (Option.any_eq_true ..).2 ⟨cancelAt, cancels, by simpa using early⟩
    rw [ending, if_pos cancelled]
  | answered begun inTime =>
    rw [ending, any_eq_false_iff.2 begun, if_neg Bool.false_ne_true]
    by_cases atOnce : delay = 0
    · rw [if_pos atOnce]
    obtain ⟨unexpired, uncancelled⟩ := inTime.resolve_left atOnce
    rw [if_neg atOnce, if_neg, if_pos (noLater_iff.2 unexpired)]
    rw [cut_iff]
    intro cut
    obtain ⟨cancelAt, cancels, waiting, -⟩ := cut
    have := uncancelled cancelAt cancels
    omega
  | cancelled cancels begun waiting inTime =>
    have uncancelled : l.Uncancelled start := uncancelled_of_lt cancels begun
    have atOnce : delay ≠ 0 := by omega
    have cut : ∃ cancelAt ∈ l.cancelAt, cancelAt ≤ start + delay ∧
        ∀ deadline ∈ l.deadline, cancelAt ≤ max deadline start :=
      ⟨t, cancels, waiting, fun deadline expires =>
        Nat.le_trans (inTime deadline expires) (Nat.le_max_left ..)⟩
    rw [ending, any_eq_false_iff.2 uncancelled, if_neg Bool.false_ne_true, if_neg atOnce,
      if_pos (cut_iff.2 cut)]
  | @expired deadline expires late waiting begun =>
    have uncancelled : l.Uncancelled start := begun.mono (Nat.le_max_right ..)
    have atOnce : delay ≠ 0 := by omega
    rw [ending, any_eq_false_iff.2 uncancelled, if_neg Bool.false_ne_true, if_neg atOnce, if_neg,
      if_neg]
    · intro inTime
      have := noLater_iff.1 inTime deadline expires
      omega
    · rw [cut_iff]
      intro cut
      obtain ⟨cancelAt, cancels, -, early⟩ := cut
      have after := begun cancelAt cancels
      have before := early deadline expires
      omega

/-- When an answer comes the request is not cancelled. -/
theorem Ends.uncancelled (h : l.Ends start delay e t) (answered : e = .answered) :
    l.Uncancelled t := by
  cases h with
  | answered begun inTime =>
    rcases inTime with rfl | inTime
    · exact begun
    · exact inTime.2
  | unstarted => cases answered
  | cancelled => cases answered
  | expired => cases answered

/-- The first look that finds anything finds this. -/
def FirstFinds (l : Limits) (start ready : Nat) (e : Ending) (t : Nat) : Prop :=
  start ≤ t ∧ l.poll ready t = some e ∧ ∀ now, start ≤ now → now < t → l.poll ready now = none

private theorem poll_eq_none {ready now : Nat} (uncancelled : l.Uncancelled now)
    (waiting : now < ready)
    (unexpired : ∀ deadline ∈ l.deadline, now < deadline) : l.poll ready now = none := by
  have early : l.deadline.any (· ≤ now) = false := by
    rw [Option.any_eq_false]
    intro deadline expires
    simpa using unexpired deadline expires
  rw [poll, any_eq_false_iff.2 uncancelled, if_neg Bool.false_ne_true, if_neg (by omega), early,
    if_neg Bool.false_ne_true]

/-- A call that is begun ends with the first look at it that finds anything. -/
theorem Ends.firstFinds (h : l.Ends start delay e t) (begun : l.Uncancelled start) :
    l.FirstFinds start (start + delay) e t := by
  have h' := h
  cases h with
  | @unstarted cancelAt cancels early =>
    have := begun cancelAt cancels
    omega
  | answered _ inTime =>
    have uncancelled := h'.uncancelled rfl
    refine ⟨by omega, ?_, fun now hstart hnow => ?_⟩
    · rw [poll, any_eq_false_iff.2 uncancelled, if_neg Bool.false_ne_true, if_pos (Nat.le_refl _)]
    · have unexpired : ∀ deadline ∈ l.deadline, start + delay ≤ deadline :=
        (inTime.resolve_left (by omega)).1
      exact poll_eq_none (uncancelled.mono (by omega)) hnow fun deadline expires =>
        Nat.lt_of_lt_of_le hnow (unexpired deadline expires)
  | cancelled cancels after waiting inTime =>
    have now : l.cancelAt.any (· ≤ t) = true :=
      (Option.any_eq_true ..).2 ⟨t, cancels, by simp⟩
    refine ⟨by omega, by rw [poll, if_pos now], fun now hstart hnow => ?_⟩
    exact poll_eq_none (uncancelled_of_lt cancels hnow) (by omega) fun deadline expires =>
      Nat.lt_of_lt_of_le hnow (inTime deadline expires)
  | @expired deadline expires late waiting uncancelled =>
    have elapsed : l.deadline.any (· ≤ max deadline start) = true :=
      (Option.any_eq_true ..).2 ⟨deadline, expires, decide_eq_true (Nat.le_max_left ..)⟩
    refine ⟨Nat.le_max_right .., ?_, fun now hstart hnow => ?_⟩
    · rw [poll, any_eq_false_iff.2 uncancelled, if_neg Bool.false_ne_true, if_neg (by omega),
        if_pos elapsed]
    · refine poll_eq_none (uncancelled.mono (by omega)) (by omega) fun deadline' expires' => ?_
      obtain rfl : deadline = deadline' := Option.mem_unique expires expires'
      omega

/-- What a wait comes to by itself. -/
def waitEnd (t : Nat) : Ending → WaitEnd
  | .unstarted | .cancelled => .cancelled t
  | .answered => .woken t
  | .expired => .expired t

/-- A wait ends as a call does whose answer takes as long. -/
theorem Ends.endOfWait {c : Clock} (h : l.Ends c.now delay e t) (begun : l.Uncancelled c.now)
    (up : c.cancelled = false) (waits : 0 < delay) :
    l.endOfWait c (some (c.now + delay)) = waitEnd t e := by
  cases h with
  | @unstarted cancelAt cancels early =>
    have := begun cancelAt cancels
    omega
  | answered _ inTime =>
    exact endOfWait_of_open (inTime.resolve_left (by omega)) (by omega) up
  | cancelled cancels after waiting inTime =>
    have unexpired : l.deadline.any (· ≤ c.now) = false := by
      rw [Option.any_eq_false]
      intro deadline expires
      simpa using Nat.lt_of_lt_of_le after (inTime deadline expires)
    have first : l.cancelAt.filter (fun t => noLater t (some (c.now + delay)) &&
        noLater t l.deadline) = some t := by
      rw [Option.filter_eq_some_iff, Bool.and_eq_true, noLater_iff, noLater_iff]
      refine ⟨cancels, fun wake hwake => ?_, inTime⟩
      obtain rfl : c.now + delay = wake := Option.some_inj.1 hwake
      exact waiting
    simp only [Limits.endOfWait, unexpired, up, first, Bool.false_eq_true, if_false]
    rfl
  | @expired deadline expires late waiting uncancelled =>
    obtain expires : l.deadline = some deadline := expires
    by_cases elapsed : deadline ≤ c.now
    · have now : max deadline c.now = c.now := by omega
      rw [now]
      simp [Limits.endOfWait, expires, elapsed, waitEnd]
    have uncut : l.cancelAt.filter (fun t => noLater t (some (c.now + delay)) &&
        noLater t l.deadline) = none := by
      rw [Option.filter_eq_none_iff]
      intro cancelAt cancels
      have after := uncancelled cancelAt cancels
      rw [Bool.and_eq_true, noLater_iff, noLater_iff]
      intro early
      have := early.2 deadline expires
      omega
    have unanswered : (some (c.now + delay)).filter (fun t => noLater t l.deadline) = none := by
      rw [Option.filter_eq_none_iff]
      intro wake hwake
      obtain rfl : c.now + delay = wake := Option.some_inj.1 hwake
      rw [noLater_iff]
      intro inTime
      have := inTime deadline expires
      omega
    have later : max deadline c.now = deadline := by omega
    rw [expires] at uncut unanswered
    simp [Limits.endOfWait, expires, elapsed, up, uncut, unanswered, waitEnd, later]

/-- An answer that takes longer than a wait comes as if asked for when the wait is over. -/
theorem Ends.add (h : l.Ends start delay .answered t) {more : Nat} {t' : Nat}
    (later : l.Ends t more e t') (waits : 0 < delay) : l.Ends start (delay + more) e t' := by
  cases h with
  | answered begun inTime =>
    obtain ⟨unexpired, uncancelled⟩ := inTime.resolve_left (by omega)
    cases later with
    | @unstarted cancelAt cancels early =>
      have := uncancelled cancelAt cancels
      omega
    | answered _ inTime' =>
      rw [Nat.add_assoc]
      refine .answered begun (.inr ?_)
      rcases inTime' with rfl | inTime'
      · exact ⟨unexpired, uncancelled⟩
      · rwa [Nat.add_assoc] at inTime'
    | cancelled cancels after waiting inTime' =>
      exact .cancelled cancels (by omega) (by omega) inTime'
    | @expired deadline expires late waiting uncancelled' =>
      have after := unexpired deadline expires
      have same : max deadline (start + delay) = max deadline start := by omega
      rw [same] at uncancelled' ⊢
      exact .expired expires (by omega) (by omega) uncancelled'

/-- Where a wait is cut short, a longer one is. -/
theorem Ends.mono (h : l.Ends start delay e t) (cut : e ≠ .answered) (more : Nat) :
    l.Ends start (delay + more) e t := by
  cases h with
  | unstarted cancels early => exact .unstarted cancels early
  | answered => exact absurd rfl cut
  | cancelled cancels begun waiting inTime =>
    exact .cancelled cancels begun (by omega) inTime
  | expired expires late waiting begun => exact .expired expires (by omega) (by omega) begun

theorem Ends.unique (h : l.Ends start delay e t) {e' : Ending} {t' : Nat}
    (h' : l.Ends start delay e' t') : e = e' ∧ t = t' := by
  obtain rfl : e = e' := h.ending_eq.symm.trans h'.ending_eq
  refine ⟨rfl, ?_⟩
  cases h with
  | unstarted => cases h'; rfl
  | answered => cases h'; rfl
  | cancelled cancels =>
    cases h' with
    | cancelled cancels' => exact Option.mem_unique cancels cancels'
  | expired expires =>
    cases h' with
    | expired expires' => rw [Option.mem_unique expires expires']

theorem Ends.begun_iff (h : l.Ends start delay e t) :
    e ≠ .unstarted ↔ l.Uncancelled start := by
  cases h with
  | @unstarted cancelAt cancels early =>
    refine iff_of_false (fun other => other rfl) fun begun => ?_
    have := begun cancelAt cancels
    omega
  | answered begun => exact iff_of_true (by decide) begun
  | cancelled cancels after => exact iff_of_true (by decide) (uncancelled_of_lt cancels after)
  | expired _ _ _ begun => exact iff_of_true (by decide) (begun.mono (Nat.le_max_right ..))

/-- The clock on which a call comes back without its answer: unchanged if it is not begun, and with
the first of what it would have noted at the first look that finds why. -/
def CutShort (l : Limits) (c : Clock) (es : List Event) (delay : Nat) (c' : Clock) : Prop :=
  ∃ t noted, c' = { c with now := t, log := c.log ++ noted } ∧ noted <+: es ∧
    if l.ending c.now delay = .unstarted then t = c.now ∧ noted = []
    else l.FirstFinds c.now (c.now + delay) (l.ending c.now delay) t

end Limits

namespace Activity.Goes

variable {α : Type} {a : Activity α} {es : List Event} {d : Nat} {answer : Except Refusal α}
  {l : Limits} {c : Clock} {ending : Ending} {t : Nat}

/-- An activity that is begun comes back as its delay as a whole says, however the delay is made up,
and has noted the first of what it would have. -/
theorem run_ends {r : Option (Except Refusal α)} (h : a.Goes es d r) (hr : r = some answer)
    (up : c.cancelled = false) (begun : l.Uncancelled c.now) (ends : l.Ends c.now d ending t) :
    ∃ noted, noted <+: es ∧ (ending = .answered → noted = es) ∧
      a.run l c = (some (ending.result answer), { c with now := t, log := c.log ++ noted }) := by
  induction h generalizing c with
  | answer r =>
    obtain rfl : r = answer := Option.some_inj.1 hr
    obtain ⟨rfl, rfl⟩ := ends.unique (.answered begun (.inl rfl))
    exact ⟨[], List.prefix_refl _, fun _ => rfl, by simp [Activity.run]⟩
  | note e _ ih =>
    obtain ⟨noted, first, all, hrun⟩ := @ih (c.note e) hr up begun ends
    refine ⟨e :: noted, ?_, fun answered => by rw [all answered], ?_⟩
    · exact (List.prefix_cons_inj e).2 first
    · rw [Activity.run, hrun]
      simp [Clock.note]
  | @wait ms next es d r h ih =>
    cases ms with
    | zero =>
      rw [Nat.zero_add] at ends
      exact ih hr up begun ends
    | succ ms =>
      obtain ⟨first, t', hfirst⟩ := l.exists_ends c.now (ms + 1)
      have wait := hfirst.endOfWait begun up (Nat.succ_pos ms)
      rw [Activity.run, wait]
      have cut_short (cut : first ≠ .answered) : ending = first ∧ t = t' :=
        ends.unique (hfirst.mono cut d)
      cases first with
      | unstarted => exact absurd rfl (hfirst.begun_iff.2 begun)
      | answered =>
        obtain ⟨rest, t'', hrest⟩ := l.exists_ends t' d
        obtain ⟨rfl, rfl⟩ := ends.unique (hfirst.add hrest (Nat.succ_pos ms))
        exact @ih { c with now := t' } hr up (hfirst.uncancelled rfl) hrest
      | cancelled =>
        obtain ⟨rfl, rfl⟩ := cut_short (by decide)
        exact ⟨[], List.nil_prefix, by simp, by simp [Limits.waitEnd]⟩
      | expired =>
        obtain ⟨rfl, rfl⟩ := cut_short (by decide)
        exact ⟨[], List.nil_prefix, by simp, by simp [Limits.waitEnd]⟩
  | @ifCancelled yes no es d r h ih =>
    have uncancelled : l.cancelledBy c = false := by
      rw [Limits.cancelledBy, up, Limits.any_eq_false_iff.2 begun, Bool.or_self]
    rw [Activity.run, uncancelled]
    exact ih hr up begun ends
  | stall => cases hr

theorem call_ends (h : a.Goes es d (some answer)) (up : c.cancelled = false)
    (ends : l.Ends c.now d ending t) :
    ∃ noted, noted <+: es ∧ (ending = .answered → noted = es) ∧ (ending = .unstarted → noted = []) ∧
      l.call a c = (some (ending.result answer), { c with now := t, log := c.log ++ noted }) := by
  cases begun : l.cancelAt.any (· ≤ c.now) with
  | true =>
    have cancelled : l.cancelledBy c = true := by rw [Limits.cancelledBy, begun, Bool.or_true]
    obtain ⟨cancelAt, cancels, early⟩ := (Option.any_eq_true ..).1 begun
    obtain ⟨rfl, rfl⟩ := ends.unique (.unstarted cancels (of_decide_eq_true early))
    refine ⟨[], List.nil_prefix, by simp, fun _ => rfl, ?_⟩
    rw [Limits.call, if_pos cancelled, List.append_nil]
    rfl
  | false =>
    have uncancelled : l.cancelledBy c = false := by rw [Limits.cancelledBy, up, begun, Bool.or_self]
    have begun := Limits.any_eq_false_iff.1 begun
    obtain ⟨noted, first, all, hrun⟩ := h.run_ends rfl up begun ends
    refine ⟨noted, first, all, fun unstarted => absurd unstarted (ends.begun_iff.2 begun), ?_⟩
    rw [Limits.call, uncancelled, if_neg Bool.false_ne_true, hrun]

theorem call_answered (h : a.Goes es d (some answer)) (up : c.cancelled = false)
    (answered : l.ending c.now d = .answered) :
    l.call a c = (some answer, c.after es d) := by
  obtain ⟨ending, t, ends⟩ := l.exists_ends c.now d
  obtain rfl : ending = .answered := ends.ending_eq.symm.trans answered
  obtain ⟨noted, -, all, -, hcall⟩ := h.call_ends up ends
  rw [hcall, all rfl]
  cases ends
  rfl

theorem call_cut_short (h : a.Goes es d (some answer)) (up : c.cancelled = false) {e : Refusal}
    (cut : (l.ending c.now d).refusal? = some e) :
    ∃ c', l.CutShort c es d c' ∧ l.call a c = (some (.error e), c') := by
  obtain ⟨ending, t, ends⟩ := l.exists_ends c.now d
  obtain ⟨noted, first, -, nothing, hcall⟩ := h.call_ends up ends
  rw [ends.ending_eq] at cut
  rw [Ending.result, cut] at hcall
  refine ⟨_, ⟨t, noted, rfl, first, ?_⟩, hcall⟩
  rw [ends.ending_eq]
  by_cases unstarted : ending = .unstarted
  · rw [if_pos unstarted]
    refine ⟨?_, nothing unstarted⟩
    subst unstarted
    cases ends
    rfl
  · rw [if_neg unstarted]
    exact ends.firstFinds (ends.begun_iff.1 unstarted)

end Activity.Goes

namespace Grant

variable {g : Grant} {subject : Subject} {oracle : Option Oracle} {l : Limits} {c : Clock}
  {found : Resolution}

/-- What a check makes of the holdings under the limits that it has come in under itself. -/
structure SettlesWithin (g : Grant) (subject : Subject) (oracle : Option Oracle) (l : Limits)
    (found : Resolution) (asked : Clock) (run : Option (Except Refusal Verdict) × Clock) : Prop
    extends SettlesAlone g oracle found asked run where
  aidCutShort : g.notCovered found ≠ [] → ∀ o access, oracle = some o → g.bypass = some access →
    ∀ es d answer, (o subject access).Goes es d (some answer) →
    ∀ e, (l.ending asked.now d).refusal? = some e →
    ∃ c', l.CutShort asked (.check subject.username access :: es) d c' ∧ run = (some (.error e), c')
  aided : g.notCovered found ≠ [] → ∀ o access, oracle = some o → g.bypass = some access →
    ∀ es d answer, (o subject access).Goes es d (some answer) →
    l.ending asked.now d = .answered →
    run = (some (answer.map fun answer => ⟨answer.allowed, g.notCovered found, found.complete,
        answer.allowed, found.incompleteReason⟩),
      asked.after (.check subject.username access :: es) d)

theorem settles_within (up : c.cancelled = false) :
    SettlesWithin g subject oracle l found c
      (g.settle subject (oracle.map Oracle.recorded) l found c) where
  toSettlesAlone := settles_alone
  aidCutShort hu := by
    rw [← missing_eq] at hu
    rintro o access rfl hb es d answer hanswer e cut
    obtain ⟨c', short, hcut⟩ :=
      @Activity.Goes.call_cut_short _ _ _ _ _ l c (Oracle.goes_recorded hanswer) up e cut
    exact ⟨c', short, settle_of_check hu rfl hb hcut⟩
  aided hu := by
    rw [← missing_eq] at hu ⊢
    rintro o access rfl hb es d answer hanswer answered
    have hcheck :=
      @Activity.Goes.call_answered _ _ _ _ _ l c (Oracle.goes_recorded hanswer) up answered
    exact settle_of_check hu rfl hb hcheck

/-- How a check goes under its limits, whatever its capabilities come up with in the end. -/
structure ConfirmsWithin (g : Grant) (subject : Subject) (resolver : Resolver)
    (oracle : Option Oracle) (l : Limits) (c : Clock)
    (run : Option (Except Refusal Verdict) × Clock) : Prop where
  /-- What becomes of a call is what the first look at it finds that finds anything. -/
  polled : ∀ start delay, l.Uncancelled start →
    ∃ t, l.FirstFinds start (start + delay) (l.ending start delay) t
  cutShort : g.rules ≠ [] → c.cancelled = false →
    ∀ es d held, (resolver subject g.scope).Goes es d (some held) →
    ∀ e, (l.ending c.now d).refusal? = some e →
    ∃ c', l.CutShort c (.rulesFor subject.username g.scope :: es) d c' ∧
      run = (some (.error e), c')
  refused : g.rules ≠ [] → c.cancelled = false →
    ∀ es d e, (resolver subject g.scope).Goes es d (some (.error e)) →
    l.ending c.now d = .answered →
    run = (some (.error e), c.after (.rulesFor subject.username g.scope :: es) d)
  settled : g.rules ≠ [] → c.cancelled = false →
    ∀ es d found, (resolver subject g.scope).Goes es d (some (.ok found)) →
    l.ending c.now d = .answered →
    SettlesWithin g subject oracle l found
      (c.after (.rulesFor subject.username g.scope :: es) d) run
  ensured : g.ensure subject resolver.recorded (oracle.map Oracle.recorded) l c =
    (run.1.map (·.bind fun v => v.toExcept subject), run.2)

/-- One deadline and one cancellation bound both calls of a check. What becomes of a call is known
in advance, and one that comes back without its answer is the end of the check, which says why. The
oracle is asked as the holdings have come in, if these leave anything open. -/
theorem confirm_within_limits (g : Grant) (subject : Subject) (resolver : Resolver)
    (oracle : Option Oracle) (l : Limits) (c : Clock) :
    ConfirmsWithin g subject resolver oracle l c
      (g.confirm subject resolver.recorded (oracle.map Oracle.recorded) l c) where
  polled start delay begun := by
    obtain ⟨ending, t, ends⟩ := l.exists_ends start delay
    rw [ends.ending_eq]
    exact ⟨t, ends.firstFinds begun⟩
  cutShort hr up _ _ _ hheld e cut := by
    obtain ⟨c', short, hcut⟩ := (Resolver.goes_recorded hheld).call_cut_short up cut
    exact ⟨c', short, confirm_of_call hr hcut⟩
  refused hr up _ _ _ hheld answered :=
    confirm_of_call hr ((Resolver.goes_recorded hheld).call_answered up answered)
  settled hr up _ _ _ hheld answered := by
    rw [confirm_of_call hr ((Resolver.goes_recorded hheld).call_answered up answered)]
    exact settles_within up
  ensured := rfl

/-- Holdings take three milliseconds and the bypass takes four. A deadline in between ends the call of
the oracle, and so does a cancellation before it; one at the start keeps all calls from being made. -/
theorem confirm_within_limits_late :
    let resolver : Resolver := fun _ _ => .wait 1 (.wait 2 (.answer (.ok (.full []))))
    let oracle : Oracle := fun _ _ => .wait 4 (.answer (.ok ⟨true, "escalate"⟩))
    let access : Access := ⟨"bind", "warden", "templates", "viewer", none⟩
    let g : Grant := ⟨[.everything], .cluster, some access⟩
    let run (l : Limits) :=
      g.confirm { username := "carol" } resolver.recorded (some oracle.recorded) l {}
    (run { deadline := some 5, cancelAt := some 9 }).1 = some (.error .deadlineExceeded) ∧
      (run { deadline := some 5, cancelAt := some 4 }).1 = some (.error .cancelled) ∧
      run { deadline := some 0, cancelAt := some 0 } = (some (.error .cancelled), {}) := by
  intro resolver oracle access g run
  have goes : (resolver { username := "carol" } g.scope).Goes [] 3 (some (.ok (.full []))) :=
    .wait 1 (.wait 2 (.answer _))
  have goes' : (oracle { username := "carol" } access).Goes [] 4 (some (.ok ⟨true, "escalate"⟩)) :=
    .wait 4 (.answer _)
  have rules : g.rules ≠ [] := by decide
  have spec (l : Limits) :=
    confirm_within_limits g { username := "carol" } resolver (some oracle) l {}
  have second (l : Limits) (answered : l.ending 0 3 = .answered) {e : Refusal}
      (cut : (l.ending 3 4).refusal? = some e) : (run l).1 = some (.error e) := by
    have found := (spec l).settled rules rfl [] 3 _ goes answered
    obtain ⟨c', -, hrun⟩ :=
      found.aidCutShort (by decide) oracle access rfl rfl [] 4 _ goes' e cut
    exact congrArg Prod.fst hrun
  refine ⟨second _ rfl rfl, second _ rfl rfl, ?_⟩
  obtain ⟨c', ⟨t, noted, rfl, -, rfl, rfl⟩, hrun⟩ :=
    (spec { deadline := some 0, cancelAt := some 0 }).cutShort rules rfl [] 3 _ goes _ rfl
  exact hrun

end Grant

end GrantGate
