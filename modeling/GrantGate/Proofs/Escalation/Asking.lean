import GrantGate.Proofs.Coverage.Matching
import GrantGate.Escalation.Check

namespace GrantGate

variable {α : Type}

namespace Limits

/-- Up to an instant the deadline has not passed and nobody has cancelled. -/
def Open (l : Limits) (t : Nat) : Prop :=
  (∀ deadline ∈ l.deadline, t ≤ deadline) ∧ ∀ cancelAt ∈ l.cancelAt, t < cancelAt

theorem Open.mono {l : Limits} {t t' : Nat} (h : l.Open t) (hle : t' ≤ t) : l.Open t' :=
  ⟨fun deadline hd => Nat.le_trans hle (h.1 deadline hd),
    fun cancelAt hk => Nat.lt_of_le_of_lt hle (h.2 cancelAt hk)⟩

/-- Nothing ends the wait for an answer that comes at an instant, or for one that never comes. -/
def Outlast {β : Type} (l : Limits) (t : Nat) (r : Option β) : Prop :=
  l.Open t ∧ (r = none → ∀ t, l.Open t)

private theorem cancelledBy_of_open {l : Limits} {c : Clock} (h : l.Open c.now)
    (up : c.cancelled = false) :
    l.cancelledBy c = false := by
  rw [cancelledBy, up, Bool.false_or, Option.any_eq_false]
  intro cancelAt hk
  have later : c.now < cancelAt := h.2 cancelAt hk
  simpa using later

theorem endOfWait_of_open {l : Limits} {c : Clock} {wake : Nat} (h : l.Open wake)
    (later : c.now < wake) (up : c.cancelled = false) :
    l.endOfWait c (some wake) = .woken wake := by
  have unexpired : l.deadline.any (· ≤ c.now) = false := by
    rw [Option.any_eq_false]
    intro deadline hd
    have later' : c.now < deadline := Nat.lt_of_lt_of_le later (h.1 deadline hd)
    simpa using later'
  have uncancelled :
      l.cancelAt.filter (fun t => noLater t (some wake) && noLater t l.deadline) = none := by
    rw [Option.filter_eq_none_iff]
    intro cancelAt hk
    have := h.2 cancelAt hk
    simp only [noLater, Bool.and_eq_true, decide_eq_true_eq]
    omega
  have inTime : noLater wake l.deadline = true := by
    cases hd : l.deadline with
    | none => rfl
    | some deadline => simpa only [noLater, decide_eq_true_eq] using h.1 deadline hd
  have woken : (some wake).filter (fun t => noLater t l.deadline) = some wake := by
    simp [inTime]
  simp only [endOfWait, unexpired, up, uncancelled, woken, Bool.false_eq_true, if_false]

/-- Who never has to stop waiting waits for ever. -/
private theorem endOfWait_of_always_open {l : Limits} {c : Clock} (h : ∀ t, l.Open t)
    (up : c.cancelled = false) : l.endOfWait c none = .never := by
  have hdeadline : l.deadline = none := by
    refine Option.eq_none_iff_forall_not_mem.2 fun deadline hd => ?_
    have := (h (deadline + 1)).1 deadline hd
    omega
  have hcancel : l.cancelAt = none := by
    refine Option.eq_none_iff_forall_not_mem.2 fun cancelAt hk => ?_
    have := (h cancelAt).2 cancelAt hk
    omega
  simp [endOfWait, hdeadline, hcancel, up]

end Limits

/-- The clock after some milliseconds in which something was noted. -/
def Clock.after (c : Clock) (es : List Event) (d : Nat) : Clock :=
  { c with now := c.now + d, log := c.log ++ es }

namespace Activity

/-- How an activity goes that nobody cancels and that is waited for: what it notes, how many
milliseconds it takes, and its answer, unless it stalls. -/
inductive Goes : Activity α → List Event → Nat → Option (Except Refusal α) → Prop
  | answer (r : Except Refusal α) : Goes (answer r) [] 0 (some r)
  | note (e : Event) {next : Activity α} {es : List Event} {d : Nat} {r : Option (Except Refusal α)}
      (h : Goes next es d r) : Goes (note e next) (e :: es) d r
  | wait (ms : Nat) {next : Activity α} {es : List Event} {d : Nat} {r : Option (Except Refusal α)}
      (h : Goes next es d r) : Goes (wait ms next) es (ms + d) r
  | ifCancelled (yes : Activity α) {no : Activity α} {es : List Event} {d : Nat}
      {r : Option (Except Refusal α)} (h : Goes no es d r) : Goes (ifCancelled yes no) es d r
  | stall : Goes stall [] 0 none

namespace Goes

variable {a : Activity α} {es : List Event} {d : Nat} {r : Option (Except Refusal α)} {l : Limits}
  {c : Clock}

/-- An activity that nothing interrupts goes its way, however it is watched. -/
theorem run (h : a.Goes es d r) (up : c.cancelled = false) (wait : l.Outlast (c.now + d) r) :
    a.run l c = (r, c.after es d) := by
  obtain ⟨hopen, forever⟩ := wait
  induction h generalizing c with
  | answer r => simp [Activity.run, Clock.after]
  | note e _ ih =>
    have later := @ih (c.note e) up hopen forever
    simpa [Activity.run, Clock.note, Clock.after] using later
  | @wait ms next es d r h ih =>
    rw [Clock.after, ← Nat.add_assoc]
    rw [← Nat.add_assoc] at hopen
    cases ms with
    | zero => exact ih up hopen forever
    | succ ms =>
      have awake : l.Open (c.now + (ms + 1)) := hopen.mono (Nat.le_add_right ..)
      rw [Activity.run, Limits.endOfWait_of_open awake (by omega) up]
      exact ih up hopen forever
  | @ifCancelled yes no es d r h ih =>
    have now : l.Open c.now := hopen.mono (Nat.le_add_right ..)
    rw [Activity.run, Limits.cancelledBy_of_open now up]
    exact ih up hopen forever
  | stall =>
    rw [Activity.run, Limits.endOfWait_of_always_open (forever rfl) up]
    simp [Clock.after]

theorem call (h : a.Goes es d r) (up : c.cancelled = false) (wait : l.Outlast (c.now + d) r) :
    l.call a c = (r, c.after es d) := by
  have now : l.Open c.now := wait.1.mono (Nat.le_add_right ..)
  rw [Limits.call, Limits.cancelledBy_of_open now up]
  exact h.run up wait

end Goes

end Activity

theorem Resolver.goes_recorded {resolver : Resolver} {subject : Subject} {scope : Scope}
    {es : List Event} {d : Nat} {held : Option (Except Refusal Resolution)}
    (h : (resolver subject scope).Goes es d held) :
    (resolver.recorded subject scope).Goes (.rulesFor subject.username scope :: es) d held :=
  .note _ h

theorem Oracle.goes_recorded {oracle : Oracle} {subject : Subject} {access : Access}
    {es : List Event} {d : Nat} {grant : Option (Except Refusal OracleAnswer)}
    (h : (oracle subject access).Goes es d grant) :
    (oracle.recorded subject access).Goes (.check subject.username access :: es) d grant :=
  .note _ h

namespace Grant

variable {g : Grant} {subject : Subject} {resolver : Resolver} {oracle : Option Oracle} {l : Limits}
  {c : Clock} {found : Resolution} {es : List Event} {d : Nat}

/-- The rules that no held rule covers, or all of them if there may be more that is held. -/
def notCovered (g : Grant) (found : Resolution) : List Rule :=
  if found.complete then
    g.rules.filter fun rule => ∀ owner ∈ found.rules, owner.covers rule = false
  else g.rules

theorem missing_eq (g : Grant) (found : Resolution) : g.missing found = g.notCovered found := by
  have same (rule : Rule) : (!heldCover found.rules rule) =
      decide (∀ owner ∈ found.rules, owner.covers rule = false) := by
    rw [heldCover, Bool.eq_iff_iff]
    simp
  simp only [missing, notCovered, uncovered, same]

private theorem missing_of_incomplete (h : found.complete = false) : g.missing found = g.rules := by
  simp [missing, h]

theorem settle_of_covered (h : g.missing found = []) :
    g.settle subject oracle l found c = (some (.ok .allow), c) := by
  simp [settle, h]

theorem settle_unaided (h : g.missing found ≠ []) (alone : oracle = none ∨ g.bypass = none) :
    g.settle subject oracle l found c =
      (some (.ok (.deny (g.missing found) found.complete found.incompleteReason)), c) := by
  rcases alone with ho | hb
  · simp [settle, h, ho]
  · simp [settle, h, hb]

theorem settle_of_check (h : g.missing found ≠ []) {o : Oracle} {access : Access}
    {grant : Option (Except Refusal OracleAnswer)} {c' : Clock} (ho : oracle = some o)
    (hb : g.bypass = some access) (hcall : l.call (o subject access) c = (grant, c')) :
    g.settle subject oracle l found c =
      (grant.map (·.map fun answer => ⟨answer.allowed, g.missing found, found.complete,
        answer.allowed, found.incompleteReason⟩), c') := by
  simp only [settle, List.isEmpty_iff, h, ho, hb, hcall, if_false]
  cases grant with
  | none => rfl
  | some r =>
    cases r with
    | error e => rfl
    | ok answer => cases ha : answer.allowed <;> simp [Except.map, Verdict.deny, ha]

/-- What the holdings leave open is settled on the clock at which they have come in. -/
theorem confirm_of_call (h : g.rules ≠ []) {held : Option (Except Refusal Resolution)} {c' : Clock} :
    l.call (resolver subject g.scope) c = (held, c') →
    g.confirm subject resolver oracle l c = match held with
      | some (.ok found) => g.settle subject oracle l found c'
      | some (.error e) => (some (.error e), c')
      | none => (none, c') := by
  intro hcall
  simp only [confirm, List.isEmpty_iff, h, hcall, if_false]
  cases held with
  | none => rfl
  | some r => cases r <;> rfl

/-- A verdict from holdings finds all of the rules held, or else allows what it says is bypassed. -/
theorem verdict_of_settle {v : Verdict} {c' : Clock}
    (h : g.settle subject oracle l found c = (some (.ok v), c')) :
    v = .allow ∧ g.missing found = [] ∨ v.uncovered = g.missing found ∧ g.missing found ≠ [] ∧
      v.bypassed = v.allowed := by
  by_cases hm : g.missing found = []
  · rw [settle_of_covered hm] at h
    cases h
    exact .inl ⟨rfl, hm⟩
  refine .inr ?_
  cases oracle with
  | none =>
    rw [settle_unaided hm (.inl rfl)] at h
    cases h
    exact ⟨rfl, hm, rfl⟩
  | some o =>
    cases hb : g.bypass with
    | none =>
      rw [settle_unaided hm (.inr hb)] at h
      cases h
      exact ⟨rfl, hm, rfl⟩
    | some access =>
      rw [settle_of_check hm rfl hb rfl, Prod.mk.injEq] at h
      obtain ⟨r, -, hr⟩ := Option.map_eq_some_iff.1 h.1
      cases r with
      | error e => cases hr
      | ok answer =>
        cases hr
        exact ⟨rfl, hm, rfl⟩

/-- Who is allowed anything without a bypass holds all of it for sure, and who is denied lacks some
of it. -/
theorem sound_of_confirm {v : Verdict}
    (h : (g.confirm subject resolver oracle l c).1 = some (.ok v)) :
    (v.allowed = true → v.bypassed = false → v.uncovered = [] ∧ v.complete = true) ∧
    (v.allowed = false → v.uncovered ≠ []) := by
  have allow : Verdict.allow.allowed = true ∧ Verdict.allow.uncovered = [] ∧
      Verdict.allow.complete = true := ⟨rfl, rfl, rfl⟩
  by_cases hr : g.rules = []
  · obtain rfl : .allow = v := by simpa [confirm, hr] using h
    exact ⟨fun _ _ => allow.2, by simp [allow]⟩
  obtain ⟨held, c', hcall⟩ : ∃ held c', l.call (resolver subject g.scope) c = (held, c') :=
    ⟨_, _, rfl⟩
  rw [confirm_of_call hr hcall] at h
  match held with
  | none => cases h
  | some (.error e) => cases h
  | some (.ok found) =>
    rcases verdict_of_settle (Prod.ext h rfl) with ⟨rfl, -⟩ | ⟨hu, hm, hb⟩
    · exact ⟨fun _ _ => allow.2, by simp [allow]⟩
    · refine ⟨fun ha hnb => ?_, fun _ => hu ▸ hm⟩
      rw [hb, ha] at hnb
      cases hnb

/-- An incomplete picture allows nothing by itself. -/
theorem bypassed_of_incomplete {v : Verdict} (hr : g.rules ≠ [])
    (hincomplete : found.complete = false)
    (h : (g.settle subject oracle l found c).1 = some (.ok v)) (allowed : v.allowed = true) :
    v.bypassed = true := by
  rcases verdict_of_settle (Prod.ext h rfl) with ⟨-, hm⟩ | ⟨-, -, hb⟩
  · exact absurd ((missing_of_incomplete hincomplete).symm.trans hm) hr
  · exact hb.trans allowed

/-- What a check makes by itself of the holdings that have come in when the clock shows `asked`. -/
structure SettlesAlone (g : Grant) (oracle : Option Oracle) (found : Resolution) (asked : Clock)
    (run : Option (Except Refusal Verdict) × Clock) : Prop where
  covered : g.notCovered found = [] → run = (some (.ok .allow), asked)
  unaided : g.notCovered found ≠ [] → oracle = none ∨ g.bypass = none →
    run = (some (.ok
      ⟨false, g.notCovered found, found.complete, false, found.incompleteReason⟩), asked)

theorem settles_alone : SettlesAlone g oracle found c
    (g.settle subject (oracle.map Oracle.recorded) l found c) where
  covered hu := settle_of_covered ((g.missing_eq found).trans hu)
  unaided hu alone := by
    rw [← missing_eq] at hu ⊢
    exact settle_unaided hu (alone.imp_left fun ho => by rw [ho, Option.map_none])

/-- What a check makes of the holdings while nothing ends the wait for the oracle. -/
structure SettlesAsAsked (g : Grant) (subject : Subject) (oracle : Option Oracle) (l : Limits)
    (found : Resolution) (asked : Clock) (run : Option (Except Refusal Verdict) × Clock) : Prop
    extends SettlesAlone g oracle found asked run where
  /-- The oracle is asked once, and its answer is the verdict. -/
  aided : g.notCovered found ≠ [] → ∀ o access, oracle = some o → g.bypass = some access →
    ∀ es d grant, (o subject access).Goes es d grant → l.Outlast (asked.now + d) grant →
    run = (grant.map (·.map fun answer => ⟨answer.allowed, g.notCovered found, found.complete,
        answer.allowed, found.incompleteReason⟩),
      asked.after (.check subject.username access :: es) d)
  /-- An incomplete picture allows nothing by itself. -/
  guarded : found.complete = false → ∀ v, run.1 = some (.ok v) → v.allowed = true →
    v.bypassed = true

theorem settles_as_asked (hr : g.rules ≠ []) (up : c.cancelled = false) :
    SettlesAsAsked g subject oracle l found c
      (g.settle subject (oracle.map Oracle.recorded) l found c) where
  toSettlesAlone := settles_alone
  aided hu := by
    rw [← missing_eq] at hu ⊢
    rintro o access rfl hb es d grant hgrant wait
    have hcheck := @Activity.Goes.call _ _ _ _ _ l c (Oracle.goes_recorded hgrant) up wait
    exact settle_of_check hu rfl hb hcheck
  guarded hincomplete _ hv allowed := bypassed_of_incomplete hr hincomplete hv allowed

/-- How a check goes, and what it does in the time. -/
structure ConfirmsAsAsked (g : Grant) (subject : Subject) (resolver : Resolver)
    (oracle : Option Oracle) (l : Limits) (c : Clock)
    (run : Option (Except Refusal Verdict) × Clock) : Prop where
  /-- For no rules nobody is asked. -/
  empty : g.rules = [] → run = (some (.ok .allow), c)
  stalled : g.rules ≠ [] → c.cancelled = false →
    ∀ es d, (resolver subject g.scope).Goes es d none →
    l.Outlast (c.now + d) (none : Option (Except Refusal Resolution)) →
    run = (none, c.after (.rulesFor subject.username g.scope :: es) d)
  refused : g.rules ≠ [] → c.cancelled = false →
    ∀ es d e, (resolver subject g.scope).Goes es d (some (.error e)) →
    l.Outlast (c.now + d) (some (.error e) : Option (Except Refusal Resolution)) →
    run = (some (.error e), c.after (.rulesFor subject.username g.scope :: es) d)
  settled : g.rules ≠ [] → c.cancelled = false →
    ∀ es d found, (resolver subject g.scope).Goes es d (some (.ok found)) →
    l.Outlast (c.now + d) (some (.ok found) : Option (Except Refusal Resolution)) →
    SettlesAsAsked g subject oracle l found
      (c.after (.rulesFor subject.username g.scope :: es) d) run
  /-- Who is allowed anything without a bypass holds all of it for sure. -/
  held : ∀ v, run.1 = some (.ok v) → v.allowed = true → v.bypassed = false →
    v.uncovered = [] ∧ v.complete = true
  lacking : ∀ v, run.1 = some (.ok v) → v.allowed = false → v.uncovered ≠ []
  ensured : g.ensure subject resolver.recorded (oracle.map Oracle.recorded) l c =
    (run.1.map (·.bind fun v =>
      if v.allowed then .ok ()
      else .error (.escalation
        ⟨subject.username, subject.groups.items, v.uncovered, v.incompleteReason⟩)), run.2)

/-- A check asks once for what the requester holds, if there are rules at all, and once for the
bypass, if not all of them are held and there is an oracle to ask. A refusal that it meets on the
way is its own answer; otherwise it says what is not covered, and allows it only on the oracle's
word. -/
theorem confirm_as_asked (g : Grant) (subject : Subject) (resolver : Resolver)
    (oracle : Option Oracle) (l : Limits) (c : Clock) :
    ConfirmsAsAsked g subject resolver oracle l c
      (g.confirm subject resolver.recorded (oracle.map Oracle.recorded) l c) where
  empty hr := by simp [confirm, hr]
  stalled hr up _ _ hheld wait := confirm_of_call hr ((Resolver.goes_recorded hheld).call up wait)
  refused hr up _ _ _ hheld wait := confirm_of_call hr ((Resolver.goes_recorded hheld).call up wait)
  settled hr up _ _ _ hheld wait := by
    rw [confirm_of_call hr ((Resolver.goes_recorded hheld).call up wait)]
    exact settles_as_asked hr up
  held _ hv := (sound_of_confirm hv).1
  lacking _ hv := (sound_of_confirm hv).2
  ensured := rfl

/-- Holdings that are not all known, three milliseconds late, and a bypass that comes with the
deadline. -/
theorem confirm_as_asked_bypassed :
    let resolver : Resolver := fun _ _ =>
      .wait 3 (.answer (.ok ⟨[⟨["*"], ["*"], ["*"], [], ["*"]⟩], false, some "b"⟩))
    let oracle : Oracle := fun _ _ => .wait 2 (.answer (.ok ⟨true, "escalate"⟩))
    let rule : Rule := ⟨["get"], [""], ["pods"], [], []⟩
    let access : Access := ⟨"bind", "warden", "templates", "viewer", none⟩
    let g : Grant := ⟨[rule], .cluster, some access⟩
    let l : Limits := { deadline := some 5 }
    g.confirm { username := "carol" } resolver.recorded (some oracle.recorded) l {} =
      (some (.ok ⟨true, [rule], false, true, some "b"⟩),
        ⟨5, false, [.rulesFor "carol" .cluster, .check "carol" access]⟩) := by
  intro resolver oracle rule access g l
  have spec := confirm_as_asked g { username := "carol" } resolver (some oracle) l {}
  have asked := spec.settled (by simp [g]) rfl [] (3 + 0) _ (.wait 3 (.answer _))
    ⟨⟨by simp [l], by simp [l]⟩, by simp⟩
  have lacking : g.notCovered ⟨[⟨["*"], ["*"], ["*"], [], ["*"]⟩], false, some "b"⟩ ≠ [] :=
    List.cons_ne_nil _ _
  exact asked.aided lacking oracle access rfl rfl [] (2 + 0) _ (.wait 2 (.answer _))
    ⟨⟨by simp [l, Clock.after], by simp [l]⟩, by simp⟩

end Grant

end GrantGate
