import GrantGate.Proofs.Run

namespace GrantGate.State

variable {s s' : State} {kind : ReviewKind} {r : Review} {t : Template}

/-- A template that may be written resolves once it is stored. -/
theorem AdmitsGrant.resolves (h : s.AdmitsGrant r t) :
    (Catalog.ofStore (s.templates.insert t)).Resolves t.name := by
  obtain ⟨set, hset, -⟩ := h
  rw [catalog, Catalog.result_resolveDraft] at hset
  exact Catalog.resolve_ok_iff.1 ⟨set, hset⟩

private theorem AdmitsGrant.parent_stored (h : s.AdmitsGrant r t) {parent : String}
    (hp : parent ∈ t.inherits) : parent ∈ (s.templates.insert t).names := by
  have hself : (Catalog.ofStore (s.templates.insert t)).lookup t.name = .ok t := by
    rw [Catalog.lookup_ofStore, Roster.find?_insert, if_pos rfl]
  obtain ⟨u, hu⟩ := h.resolves parent (.single ⟨t, hself, hp⟩)
  exact Roster.mem_names_iff.2 ⟨u, Catalog.lookup_ofStore.1 hu⟩

private theorem closed_insert_of_same {new old : Template} (closed : s.templates.Closed)
    (stored : s.templates.find? old.name = some old) (h : old.inherits = new.inherits) :
    TemplateStore.Closed (s.templates.insert new) := by
  refine closed.insert fun parent hp => ?_
  rw [← h] at hp
  exact Roster.mem_names_insert.2 (.inr (closed old (Roster.mem_of_find? stored) parent hp))

/-- A review keeps a store closed. -/
theorem Step.closed (step : Step s kind r s') (known : s.Knows kind r)
    (closed : s.templates.Closed) : s'.templates.Closed := by
  cases step with
  | unchanged | createBinding | updateBinding | deleteBinding => exact closed
  | createTemplate _ _ _ _ grant => exact closed.insert fun _ => grant.parent_stored
  | updateTemplate update _ readsOld _ _ _ _ grant =>
    rcases grant with ⟨-, hinherits⟩ | grant
    · exact closed_insert_of_same closed (known update _ readsOld) hinherits
    · exact closed.insert fun _ => grant.parent_stored
  | @deleteTemplate _ t _ _ unused =>
    refine closed.erase ?_
    cases hf : s.templates.find? t.name with
    | some stored => exact TemplateStore.heirs_eq_nil_iff.1 (unused stored hf).2
    | none =>
      -- the delete is let through, but in a closed store nobody inherits from what is gone
      intro other hother _ hp
      obtain ⟨u, hu⟩ := Roster.mem_names_iff.1 (closed other hother _ hp)
      rw [hf] at hu
      cases hu

/-- A run of reviews keeps a store closed, so that whatever it leaves stored resolves. -/
theorem closed_run {reviews : List (ReviewKind × Review)} (closed : s.templates.Closed)
    (known : Throughout Knows s reviews) :
    (s.run reviews).templates.Closed ∧
      ∀ name ∈ (s.run reviews).templates.names,
        ∃ set, ((s.run reviews).catalog.resolve name).result = .ok set := by
  have hclosed : (s.run reviews).templates.Closed :=
    known.keeps (fun s => s.templates.Closed) (fun known closed => step_enact.closed known closed)
      closed
  refine ⟨hclosed, ?_⟩
  intro name hname
  exact Catalog.resolve_ok_iff.2 (hclosed.resolves hname)

/-- A child that inherits from itself comes, becomes the parent of its own parent, stays as long as
it is, and goes; a child of nobody does not come in. -/
theorem closed_run_child :
    let all : Template := { name := "all", rules := [.everything] }
    let base : Template := { name := "base", rules := [.everything] }
    let child : Template := { name := "child", inherits := ["child", "base"] }
    let looped : Template := { base with inherits := ["child"] }
    let lost : Template := { name := "lost", inherits := ["ghost"] }
    let s : State :=
      { templates := .ofList [all, base], bindings := [⟨"a", .user "alice", "all", none⟩] }
    let review (operation : Operation) (new old : Option Template) : ReviewKind × Review :=
      (.templates,
        { uid := "1", operation, user := { username := "alice" },
          object := new.map Template.toJson, oldObject := old.map Template.toJson })
    let reviews :=
      [review .create child none, review .update looped base, review .delete none child,
        review .update base looped, review .delete none child, review .create lost none]
    s.templates.Closed ∧ Throughout Knows s reviews ∧
      (s.run (reviews.take 3)).templates.names = ["all", "base", "child"] ∧
      (s.run reviews).templates.names = ["all", "base"] ∧ (s.run reviews).templates.Closed ∧
      ∃ set, ((s.run reviews).catalog.resolve "base").result = .ok set := by
  intro all base child looped lost s review reviews
  have closed : s.templates.Closed := by unfold TemplateStore.Closed; decide +kernel
  have known : Throughout Knows s reviews := by decide +kernel
  have between : (s.run (reviews.take 3)).templates.names = ["all", "base", "child"] := by
    decide +kernel
  have after : (s.run reviews).templates.names = ["all", "base"] := by decide +kernel
  obtain ⟨hclosed, hresolves⟩ := closed_run closed known
  exact ⟨closed, known, between, after, hclosed, hresolves "base" (by rw [after]; decide)⟩

end GrantGate.State
