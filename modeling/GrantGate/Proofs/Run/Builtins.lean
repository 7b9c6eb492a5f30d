import GrantGate.Proofs.Run

namespace GrantGate

/-- What no review may change of a builtin template: all but its lock. -/
def Template.sealed? (t : Template) : Option Template :=
  if t.builtin then some { t with locked := false } else none

theorem Template.sealed?_eq_some_iff {t u : Template} :
    t.sealed? = some u ↔ t.builtin = true ∧ { t with locked := false } = u := by
  cases h : t.builtin <;> simp [sealed?, h]

private theorem Template.sealed?_eq_of_locked {old new : Template}
    (builtin : old.builtin = new.builtin)
    (locked : old.builtin = true → { old with locked := new.locked } = new) :
    new.sealed? = old.sealed? := by
  cases h : old.builtin with
  | false => simp [sealed?, ← builtin, h]
  | true =>
    have hnew : { old with locked := new.locked } = new := locked h
    rw [← hnew, sealed?, sealed?]

namespace TemplateStore

def builtins (ts : TemplateStore) : List Template := ts.items.filter (·.builtin)

/-- The builtin template of a name, as far as no review may change it. -/
def sealed? (ts : TemplateStore) (name : String) : Option Template :=
  (ts.find? name).bind Template.sealed?

variable {ts : TemplateStore} {name : String} {t u : Template}

private theorem sealed?_insert : sealed? (ts.insert t) name =
    if t.name = name then t.sealed? else ts.sealed? name := by
  rw [sealed?, Roster.find?_insert]
  split
  · rfl
  · rfl

private theorem sealed?_erase {gone : String} : sealed? (ts.erase gone) name =
    if gone = name then none else ts.sealed? name := by
  rw [sealed?, Roster.find?_erase]
  split
  · rfl
  · rfl

theorem mem_builtins_iff : t ∈ ts.builtins ↔ ts.find? t.name = some t ∧ t.builtin = true := by
  rw [builtins, List.mem_filter, Roster.find?_eq_some_iff]
  simp

theorem sealed?_eq_some_iff : ts.sealed? name = some u ↔
    ∃ t ∈ ts.builtins, t.name = name ∧ { t with locked := false } = u := by
  simp only [sealed?, Option.bind_eq_some_iff, Template.sealed?_eq_some_iff, mem_builtins_iff]
  constructor
  · intro h
    obtain ⟨t, ht, hb, hu⟩ := h
    have hname : t.name = name := Roster.key_of_find? ht
    exact ⟨t, ⟨hname ▸ ht, hb⟩, hname, hu⟩
  · intro h
    obtain ⟨t, ⟨ht, hb⟩, rfl, hu⟩ := h
    exact ⟨t, ht, hb, hu⟩

theorem mem_names_builtins_iff :
    name ∈ ts.builtins.map Template.name ↔ (ts.sealed? name).isSome = true := by
  rw [List.mem_map, Option.isSome_iff_exists]
  constructor
  · intro h
    obtain ⟨t, ht, hname⟩ := h
    exact ⟨_, sealed?_eq_some_iff.2 ⟨t, ht, hname, rfl⟩⟩
  · intro h
    obtain ⟨u, hu⟩ := h
    obtain ⟨t, ht, hname, -⟩ := sealed?_eq_some_iff.1 hu
    exact ⟨t, ht, hname⟩

end TemplateStore

namespace State

variable {s s' : State} {kind : ReviewKind} {r : Review}

/-- A review of templates creates no name anew that is taken, and shows an update what is stored. -/
def Orderly (s : State) (kind : ReviewKind) (r : Review) : Prop :=
  kind = .templates → s.Knows kind r ∧ s.Fresh kind r

instance (s : State) (kind : ReviewKind) (r : Review) : Decidable (s.Orderly kind r) :=
  inferInstanceAs (Decidable (kind = .templates → s.Knows kind r ∧ s.Fresh kind r))

/-- A review leaves of every builtin template what no review may change. -/
theorem Step.sealed? (step : Step s kind r s') (orderly : s.Orderly kind r) (name : String) :
    s'.templates.sealed? name = s.templates.sealed? name := by
  cases step with
  | unchanged | createBinding | updateBinding | deleteBinding => rfl
  | @createTemplate _ t create reads _ builtin =>
    have absent : s.templates.find? t.name = none := (orderly rfl).2 create t reads
    rw [insertTemplate, TemplateStore.sealed?_insert]
    split
    case isFalse => rfl
    case isTrue hname =>
      subst hname
      have hold : s.templates.sealed? t.name = none := by simp [TemplateStore.sealed?, absent]
      have hnew : t.sealed? = none := by simp [Template.sealed?, builtin]
      rw [hold, hnew]
  | @updateTemplate _ new old update _ readsOld _ name builtin locked =>
    have stored : s.templates.find? old.name = some old := (orderly rfl).1 update old readsOld
    rw [insertTemplate, TemplateStore.sealed?_insert]
    split
    case isFalse => rfl
    case isTrue hname =>
      subst hname
      have hold : s.templates.sealed? new.name = old.sealed? := by
        rw [TemplateStore.sealed?, ← name, stored, Option.bind_some]
      rw [hold, Template.sealed?_eq_of_locked builtin locked]
  | @deleteTemplate _ t _ _ unused =>
    rw [removeTemplate, TemplateStore.sealed?_erase]
    split
    case isFalse => rfl
    case isTrue hname =>
      subst hname
      cases hf : s.templates.find? t.name with
      | none => simp [TemplateStore.sealed?, hf]
      | some stored =>
        -- the flag that counts is that of the stored template, not that of the one in the review
        have hflag : stored.builtin = false := (unused stored hf).1
        simp [TemplateStore.sealed?, hf, Template.sealed?, hflag]

theorem sealed?_run {reviews : List (ReviewKind × Review)} (orderly : Throughout Orderly s reviews)
    (name : String) : (s.run reviews).templates.sealed? name = s.templates.sealed? name :=
  orderly.keeps (fun s' => s'.templates.sealed? name = s.templates.sealed? name)
    (fun orderly same => (step_enact.sealed? orderly name).trans same) rfl

/-- A run of reviews leaves the names of the builtin templates as they are, and of each of these
templates all but its lock, whatever the requesters hold and whether or not there is an oracle. -/
theorem builtins_run {reviews : List (ReviewKind × Review)}
    (orderly : Throughout Orderly s reviews) :
    (∀ name, name ∈ (s.run reviews).templates.builtins.map Template.name ↔
      name ∈ s.templates.builtins.map Template.name) ∧
    ∀ t ∈ s.templates.builtins, ∃ locked, { t with locked } ∈ (s.run reviews).templates.builtins := by
  constructor
  · intro name
    rw [TemplateStore.mem_names_builtins_iff, TemplateStore.mem_names_builtins_iff,
      sealed?_run orderly]
  · intro t ht
    have hsealed : s.templates.sealed? t.name = some { t with locked := false } :=
      TemplateStore.sealed?_eq_some_iff.2 ⟨t, ht, rfl, rfl⟩
    rw [← sealed?_run orderly] at hsealed
    obtain ⟨u, hu, -, hsame⟩ := TemplateStore.sealed?_eq_some_iff.1 hsealed
    refine ⟨u.locked, ?_⟩
    have hlock : { t with locked := u.locked } = u := by
      calc { t with locked := u.locked }
          = { ({ t with locked := false } : Template) with locked := u.locked } := rfl
        _ = { ({ u with locked := false } : Template) with locked := u.locked } := by rw [hsame]
        _ = u := rfl
    rw [hlock]
    exact hu

/-- Alice, who holds everything, locks the builtin template; she does not get to change its rules,
to take its flag away, to delete it by what is stored or by a disguise, or to make one of her own,
be it at once or by and by. -/
theorem builtins_run_admin :
    let admin : Template := { name := "admin", rules := [.everything], builtin := true }
    let locked : Template := { admin with locked := true }
    let viewer : Template := { name := "viewer", rules := [.everything] }
    let s : State :=
      { templates := .ofList [admin], bindings := [⟨"a", .user "alice", "admin", none⟩] }
    let review (operation : Operation) (new old : Option Template) : ReviewKind × Review :=
      (.templates,
        { uid := "1", operation, user := { username := "alice" },
          object := new.map Template.toJson, oldObject := old.map Template.toJson })
    let reviews :=
      [review .update locked admin, review .update (some { locked with rules := [] }) locked,
        review .update (some { locked with builtin := false }) locked, review .delete none locked,
        review .delete (some { admin with builtin := false }) none,
        review .create (some { viewer with builtin := true }) none, review .create viewer none,
        review .update (some { viewer with builtin := true }) viewer, review .delete none viewer]
    Throughout Orderly s reviews ∧ admin ∈ s.templates.builtins ∧
      (s.run reviews).templates.items = [locked] ∧
      (∀ name, name ∈ (s.run reviews).templates.builtins.map Template.name ↔
        name ∈ s.templates.builtins.map Template.name) ∧
      ∃ locked, { admin with locked } ∈ (s.run reviews).templates.builtins := by
  intro admin locked viewer s review reviews
  have orderly : Throughout Orderly s reviews := by decide +kernel
  have builtin : admin ∈ s.templates.builtins := by decide +kernel
  have after : (s.run reviews).templates.items = [locked] := by decide +kernel
  obtain ⟨names, kept⟩ := builtins_run orderly
  exact ⟨orderly, builtin, after, names, kept admin builtin⟩

end State

end GrantGate
