import GrantGate.Proofs.Inheritance.Walk

namespace GrantGate

private theorem Trail.ofTemplate_inj {t : Template} {a b : Trail} :
    Trail.ofTemplate t a = Trail.ofTemplate t b ↔ a = b := by
  cases a
  cases b
  simp [Trail.ofTemplate]

namespace Catalog

variable {c : Catalog} {ts ts' : TemplateStore} {draft : Template} {name : String}

theorem lookup_insert_self (ts : TemplateStore) (draft : Template) :
    (ofStore (ts.insert draft)).lookup draft.name = .ok draft := by
  rw [lookup_ofStore, Roster.find?_insert, if_pos rfl]

private theorem lookup_insert_of_ne (h : name ≠ draft.name) :
    (ofStore (ts.insert draft)).lookup name = (ofStore ts).lookup name := by
  simp only [lookup, ofStore, Roster.find?_insert, if_neg h.symm]

/-- The walk over the store with the draft in it is the draft's, with one visit before. -/
theorem trail_insert (ts : TemplateStore) (draft : Template) :
    (ofStore (ts.insert draft)).trail [] [draft.name] =
      .ofTemplate draft ((ofStore ts).trail [draft.name] draft.inherits) := by
  have first : [draft.name].dropWhile ([] : List String).contains = [draft.name] := rfl
  have later : (ofStore (ts.insert draft)).trail [draft.name] draft.inherits =
      (ofStore ts).trail [draft.name] draft.inherits := by
    refine trail_congr fun name hname _ => lookup_insert_of_ne ?_
    exact fun same => hname (by simp [same])
  rw [trail_ok first (lookup_insert_self ts draft), List.nil_append, later]

theorem result_resolveDraft (ts : TemplateStore) (draft : Template) :
    ((ofStore ts).resolveDraft draft).result =
      ((ofStore (ts.insert draft)).resolve draft.name).result := by
  rw [resolveDraft_eq, resolve, resolveAll_eq, trail_insert]
  rfl

/-- The draft spares the look-up of its own name, and no other. -/
theorem events_resolve_insert (ts : TemplateStore) (draft : Template) :
    ((ofStore (ts.insert draft)).resolve draft.name).events =
      .get draft.name :: ((ofStore ts).resolveDraft draft).events := by
  rw [resolveDraft_eq, resolve, resolveAll_eq, trail_insert]
  rfl

theorem not_mem_lookups {seen queue : List String} (h : name ∈ seen) :
    name ∉ (c.trail seen queue).lookups := by
  intro hmem
  rcases List.mem_append.1 hmem with hmem | hmem
  · obtain ⟨t, ht, rfl⟩ := List.mem_map.1 hmem
    exact (of_mem_visited ht).2.1 h
  · obtain ⟨⟨n, e⟩, hf, rfl⟩ := List.mem_map.1 hmem
    exact (of_failure (Option.mem_toList.1 hf)).2.1 h

/-- The name of a draft is never looked up, whatever inherits from it. -/
theorem get_not_mem_events_resolveDraft (c : Catalog) (draft : Template) :
    Event.get draft.name ∉ (c.resolveDraft draft).events := by
  rw [resolveDraft_eq]
  intro hmem
  obtain ⟨name, hname, hget⟩ := List.mem_map.1 hmem
  obtain rfl : name = draft.name := Event.get.inj hget
  exact not_mem_lookups (List.mem_singleton_self _) hname

theorem result_resolveDraft_of_stored (h : ts.find? draft.name = some draft) :
    ((ofStore ts).resolveDraft draft).result = ((ofStore ts).resolve draft.name).result := by
  rw [result_resolveDraft, Roster.insert_of_stored h]

/-- A draft resolves alike over stores that agree on all within its reach but itself. -/
theorem resolveDraft_congr (h : ∀ name, (ofStore (ts.insert draft)).Reaches draft.name name →
      name ≠ draft.name → ts'.find? name = ts.find? name) :
    (ofStore ts').resolveDraft draft = (ofStore ts).resolveDraft draft := by
  have saved : (ofStore (ts'.insert draft)).trail [] [draft.name] =
      (ofStore (ts.insert draft)).trail [] [draft.name] := by
    refine trail_congr fun name _ hcomes => ?_
    by_cases hname : name = draft.name
    · rw [hname, lookup_insert_self, lookup_insert_self]
    · have hfind := h name (comesBy_singleton.1 hcomes) hname
      rw [lookup_insert_of_ne hname, lookup_insert_of_ne hname]
      simp only [lookup, ofStore, hfind]
  rw [trail_insert, trail_insert, Trail.ofTemplate_inj] at saved
  rw [resolveDraft_eq, saved, resolveDraft_eq]

/-- A draft comes to the same rules of the same templates in the same order, or to the same refusal,
as its name once it is stored, and does so without a look-up of that name; a stored template comes to
what its name comes to. -/
theorem draft_resolves_as_saved (ts : TemplateStore) (draft : Template) :
    ((ofStore ts).resolveDraft draft).result =
      ((ofStore (ts.insert draft)).resolve draft.name).result ∧
    ((ofStore (ts.insert draft)).resolve draft.name).events =
      .get draft.name :: ((ofStore ts).resolveDraft draft).events ∧
    Event.get draft.name ∉ ((ofStore ts).resolveDraft draft).events ∧
    (ts.find? draft.name = some draft →
      ((ofStore ts).resolveDraft draft).result = ((ofStore ts).resolve draft.name).result) :=
  ⟨result_resolveDraft ts draft, events_resolve_insert ts draft,
    get_not_mem_events_resolveDraft (ofStore ts) draft, result_resolveDraft_of_stored⟩

/-- The viewer, who inherits from herself and from an editor who inherits from her, takes the place of
a stored viewer with other rules and a parent that is not to be found. -/
theorem draft_resolves_as_saved_viewer :
    let pods : Rule := { verbs := ["get"], groups := [""], resources := ["pods"] }
    let logs : Rule := { verbs := ["get"], groups := [""], resources := ["pods/log"] }
    let editor : Template := { name := "editor", rules := [logs], inherits := ["viewer", "base"] }
    let base : Template := { name := "base", rules := [pods], inherits := ["editor"] }
    let stale : Template := { name := "viewer", rules := [.everything], inherits := ["ghost"] }
    let viewer : Template :=
      { name := "viewer", rules := [pods, logs], inherits := ["viewer", "editor", "editor"] }
    let before : TemplateStore := .ofList [editor, base, stale]
    let after : TemplateStore := .ofList [editor, base, viewer]
    let flat : RuleSet := ⟨[pods, logs, logs, pods], ["viewer", "editor", "base"]⟩
    ((ofStore before).resolveDraft viewer).result = .ok flat ∧
      ((ofStore (before.insert viewer)).resolve "viewer").result = .ok flat ∧
      after.find? viewer.name = some viewer ∧
      ((ofStore after).resolveDraft viewer).result = ((ofStore after).resolve "viewer").result := by
  intro pods logs editor base stale viewer before after flat
  have resolves : ((ofStore before).resolveDraft viewer).result = .ok flat := by decide +kernel
  have stored : after.find? viewer.name = some viewer := by decide +kernel
  obtain ⟨saved, -, -, -⟩ := draft_resolves_as_saved before viewer
  obtain ⟨-, -, -, same⟩ := draft_resolves_as_saved after viewer
  exact ⟨resolves, saved.symm.trans resolves, stored, same stored⟩

end Catalog

end GrantGate
