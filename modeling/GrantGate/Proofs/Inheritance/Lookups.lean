import GrantGate.Proofs.Inheritance.Draft
import Mathlib.Data.List.Perm.Subperm

namespace GrantGate

namespace Catalog

variable {c : Catalog} {seen queue rest : List String} {name : String} {t : Template} {e : Refusal}

theorem nodup_lookups : (c.trail seen queue).lookups.Nodup := by
  fun_induction Catalog.trail c seen queue with
  | case1 => simp [Trail.lookups]
  | case2 => simp [Trail.lookups]
  | case3 seen queue name rest next t found ih =>
    exact List.nodup_cons.2 ⟨not_mem_lookups (List.mem_cons_self ..), ih⟩

/-- Each visit has a template of its own. -/
private theorem length_visited_le : (c.trail seen queue).visited.length ≤ c.templates.size := by
  have distinct : (c.trail seen queue).visited.Nodup :=
    .of_map Template.name (List.Nodup.of_append_left nodup_lookups)
  have stored : (c.trail seen queue).visited ⊆ c.templates.items :=
    fun t ht => mem_of_lookup (of_mem_visited ht).1
  exact (List.subperm_of_subset distinct stored).length_le

theorem length_lookups_le : (c.trail seen queue).lookups.length ≤ c.templates.size + 1 := by
  have hfailure : (c.trail seen queue).failure.toList.length ≤ 1 := by
    cases (c.trail seen queue).failure <;> simp
  have hvisited : (c.trail seen queue).visited.length ≤ c.templates.size := length_visited_le
  simp only [Trail.lookups, List.length_append, List.length_map]
  omega

/-- Nothing is looked up behind a look-up that fails. -/
theorem failure_of_lookups {before after : List String}
    (h : (c.trail seen queue).lookups = before ++ name :: after)
    (failed : c.lookup name = .error e) :
    after = [] ∧ (c.trail seen queue).failure = some (name, e) := by
  fun_induction Catalog.trail c seen queue generalizing before with
  | case1 => simp [Trail.lookups] at h
  | case2 seen queue n rest next e' found =>
    cases before with
    | nil =>
      obtain ⟨rfl, rfl⟩ : n = name ∧ [] = after := by simpa [Trail.lookups] using h
      obtain rfl : e' = e := Except.error.inj (found.symm.trans failed)
      exact ⟨rfl, rfl⟩
    | cons b before => simp [Trail.lookups] at h
  | case3 seen queue n rest next t found ih =>
    have hlookups : t.name :: (c.trail (t.name :: seen) (rest ++ t.inherits)).lookups =
        before ++ name :: after := h
    cases before with
    | nil =>
      obtain ⟨rfl, -⟩ : t.name = name ∧ _ = after := by simpa using hlookups
      rw [name_of_lookup found, found] at failed
      cases failed
    | cons b before =>
      obtain ⟨-, hrest⟩ : t.name = b ∧ _ = before ++ name :: after := by simpa using hlookups
      exact ih hrest

private theorem map_bind {α β γ : Type} (f : β → γ) (x : Inquiry Refusal α)
    (g : α → Inquiry Refusal β) : f <$> (x >>= g) = x >>= fun a => f <$> g a := by
  obtain ⟨events, e | a⟩ := x
  · rfl
  · change Inquiry.bind (Inquiry.bind _ g) _ = Inquiry.bind _ fun a => Inquiry.bind (g a) _
    rcases h : g a with ⟨later, e | b⟩ <;> simp [Inquiry.bind, h]

/-- The walk as a loop that may make so many look-ups, and has no result if it is not over by
then. -/
def drainWithin (c : Catalog) : Nat → Walk → Inquiry Refusal (Option RuleSet)
  | 0, w => pure (if w.queue.isEmpty then some w.resolved else none)
  | lookups + 1, w =>
    match w.queue with
    | [] => pure (some w.resolved)
    | name :: rest => do
      let t ← c.get name
      c.drainWithin lookups ({ w with queue := rest }.visit t)

/-- More look-ups are enough than there are names that may still be visited. -/
theorem drainWithin_eq_drain {lookups : Nat} {w : Walk}
    (enough : w.ahead c.templates.names < lookups) :
    c.drainWithin lookups w = some <$> c.drain w := by
  induction lookups generalizing w with
  | zero => exact absurd enough (Nat.not_lt_zero _)
  | succ lookups ih =>
    cases next : w.queue with
    | nil =>
      rw [drainWithin, next, drain_of_nil next]
      rfl
    | cons name rest =>
      simp only [drainWithin, next, drain_of_cons next, get]
      cases found : c.lookup name with
      | error e => rfl
      | ok t =>
        have stored : name ∈ c.templates.names :=
          name_of_lookup found ▸ List.mem_map_of_mem (mem_of_lookup found)
        have fewer := Walk.ahead_visit_lt (t := t) next stored
        have later : c.drainWithin lookups ({ w with queue := rest }.visit t) =
            some <$> c.drain ({ w with queue := rest }.visit t) := ih (by omega)
        rw [map_bind]
        change Inquiry.bind _ _ = Inquiry.bind _ _
        simp only [Inquiry.bind, Inquiry.ask, later]

private theorem drainWithin_foldl_enqueue {w : Walk} (empty : w.queue = []) {queued : List String} :
    c.drainWithin (c.templates.size + 1) (queued.foldl Walk.enqueue w) =
      some <$> c.drain (queued.foldl Walk.enqueue w) := by
  have unseen : c.templates.names.countP (!w.seen.contains ·) ≤ c.templates.names.length :=
    List.countP_le_length
  have names : c.templates.names.length = c.templates.size := List.length_map ..
  have nothing : w.ahead c.templates.names ≤ c.templates.size := by
    simp only [Walk.ahead, empty, List.countP_nil]
    omega
  exact drainWithin_eq_drain (Nat.lt_succ_of_le (Nat.le_trans Walk.ahead_foldl_enqueue_le nothing))

/-- A walk has asked for distinct names, at most one more than there are templates; a look-up that
fails is the last one and decides, and nothing else makes the walk fail. -/
structure WalksOnce (c : Catalog) (walk : Inquiry Refusal RuleSet) : Prop where
  gets : ∀ event ∈ walk.events, ∃ name, event = .get name
  nodup : walk.events.Nodup
  length_le : walk.events.length ≤ c.templates.size + 1
  stops : ∀ before name after e, walk.events = before ++ .get name :: after →
    c.lookup name = .error e → after = [] ∧ walk.result = .error e
  failed : ∀ e, walk.result = .error e →
    ∃ before name, walk.events = before ++ [.get name] ∧ c.lookup name = .error e

theorem walksOnce_toInquiry (c : Catalog) (seen queue : List String) (start : List Template) :
    c.WalksOnce ((c.trail seen queue).toInquiry start) where
  gets event hevent := by
    obtain ⟨name, -, rfl⟩ := List.mem_map.1 hevent
    exact ⟨name, rfl⟩
  nodup := nodup_lookups.map fun _ _ => Event.get.inj
  length_le := by
    change ((c.trail seen queue).lookups.map Event.get).length ≤ c.templates.size + 1
    rw [List.length_map]
    exact length_lookups_le
  stops before name after e hevents failed := by
    obtain ⟨before', rest, hlookups, -, hrest⟩ := List.map_eq_append_iff.1 hevents
    obtain ⟨name', after', rfl, hname, hafter⟩ := List.map_eq_cons_iff.1 hrest
    obtain rfl : name' = name := Event.get.inj hname
    obtain ⟨rfl, hfailure⟩ := failure_of_lookups hlookups failed
    exact ⟨hafter.symm, by simp only [Trail.toInquiry, hfailure]⟩
  failed e he := by
    cases hf : (c.trail seen queue).failure with
    | none => simp [Trail.toInquiry, hf] at he
    | some f =>
      obtain rfl : f.2 = e := by simpa [Trail.toInquiry, hf] using he
      refine ⟨(c.trail seen queue).visited.map fun t => .get t.name, f.1, ?_, (of_failure hf).1⟩
      simp [Trail.toInquiry, Trail.lookups, hf]

/-- However the templates inherit from one another, and whatever look-ups fail: every walk is over
within one look-up more than there are templates, and looks up no name twice; a draft's own name it
does not look up at all. -/
theorem walks_end_and_ask_once (c : Catalog) :
    (∀ roots, c.drainWithin (c.templates.size + 1) (.ofRoots roots) =
        some <$> c.resolveAll roots ∧ c.WalksOnce (c.resolveAll roots)) ∧
      (∀ name, c.drainWithin (c.templates.size + 1) (.ofRoots [name]) =
        some <$> c.resolve name ∧ c.WalksOnce (c.resolve name)) ∧
      ∀ draft, c.drainWithin (c.templates.size + 1) (.ofDraft draft) =
          some <$> c.resolveDraft draft ∧
        c.WalksOnce (c.resolveDraft draft) ∧
        Event.get draft.name ∉ (c.resolveDraft draft).events := by
  have all (roots : List String) : c.drainWithin (c.templates.size + 1) (.ofRoots roots) =
      some <$> c.resolveAll roots ∧ c.WalksOnce (c.resolveAll roots) := by
    refine ⟨drainWithin_foldl_enqueue rfl, ?_⟩
    rw [resolveAll_eq]
    exact c.walksOnce_toInquiry [] roots []
  refine ⟨all, fun name => all [name], fun draft => ⟨drainWithin_foldl_enqueue rfl, ?_, ?_⟩⟩
  · rw [resolveDraft_eq]
    exact c.walksOnce_toInquiry [draft.name] draft.inherits [draft]
  · exact get_not_mem_events_resolveDraft c draft

end Catalog

end GrantGate
