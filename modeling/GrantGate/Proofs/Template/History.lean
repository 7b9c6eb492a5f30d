import GrantGate.Proofs.Inheritance.Reach
import GrantGate.Proofs.Snapshot.Loading
import Mathlib.Data.Finset.Card

namespace GrantGate

namespace State

/-- A change to the stored templates from outside of any review. -/
inductive Edit where
  | insert (t : Template)
  | remove (name : String)
  | replace (ts : List Template)

namespace Edit

/-- Leaves a template under its name. Of several in a replacement that have one name, this is the
last. -/
def Writes (t : Template) : Edit → Prop
  | insert u => u = t
  | remove _ => False
  | replace ts => ∃ before after, ts = before ++ t :: after ∧ ∀ u ∈ after, u.name ≠ t.name

/-- Leaves alone what there is under a name. -/
def Spares (name : String) : Edit → Prop
  | insert u => u.name ≠ name
  | remove gone => gone ≠ name
  | replace _ => False

end Edit

/-- Edits write a template, and those that follow spare its name. -/
def LastWritten (t : Template) (edits : List Edit) : Prop :=
  ∃ before e after, edits = before ++ e :: after ∧ e.Writes t ∧ ∀ later ∈ after, later.Spares t.name

private theorem lastWritten_cons_iff {t : Template} {e : Edit} {edits : List Edit} :
    LastWritten t (e :: edits) ↔
      LastWritten t edits ∨ e.Writes t ∧ ∀ later ∈ edits, later.Spares t.name := by
  constructor
  · rintro ⟨before, w, after, split, writes, spared⟩
    rcases List.cons_eq_append_iff.1 split with ⟨rfl, same⟩ | ⟨before, rfl, rfl⟩
    · obtain ⟨rfl, rfl⟩ := List.cons.inj same
      exact .inr ⟨writes, spared⟩
    · exact .inl ⟨before, w, after, rfl, writes, spared⟩
  · rintro (⟨before, w, after, rfl, writes, spared⟩ | ⟨writes, spared⟩)
    · exact ⟨e :: before, w, after, rfl, writes, spared⟩
    · exact ⟨[], e, edits, rfl, writes, spared⟩

/-- Carries out an edit, with the template that it gives back. -/
def edit (s : State) : Edit → Option Template × State
  | .insert t => s.insertTemplate t
  | .remove name => s.removeTemplate name
  | .replace ts => (none, s.replaceTemplates ts)

def edited (s : State) (edits : List Edit) : State := edits.foldl (fun s e => (s.edit e).2) s

variable {s : State}

theorem find?_edit_iff {e : Edit} {name : String} {t : Template} :
    (s.edit e).2.templates.find? name = some t ↔
      t.name = name ∧ e.Writes t ∨ s.templates.find? name = some t ∧ e.Spares name := by
  cases e with
  | insert u =>
    change (s.templates.insert u).find? name = some t ↔ t.name = name ∧ u = t ∨ _ ∧ u.name ≠ name
    rw [Roster.find?_insert]
    by_cases named : u.name = name
    · have same (h : u = t) : t.name = name := h ▸ named
      simpa [named] using same
    · have other : ¬ (t.name = name ∧ u = t) := fun h => named (h.2 ▸ h.1)
      rw [if_neg named, or_iff_right other, and_iff_left named]
  | remove gone =>
    change (s.templates.erase gone).find? name = some t ↔ _ ∧ False ∨ _ ∧ gone ≠ name
    rw [Roster.find?_erase]
    by_cases named : gone = name <;> simp [named]
  | replace ts =>
    change (Roster.ofList ts : TemplateStore).find? name = some t ↔ _ ∨ _ ∧ False
    rw [Roster.find?_ofList_iff, and_false, or_false]
    exact Iff.rfl

theorem find?_edited_iff {edits : List Edit} {name : String} {t : Template} :
    (s.edited edits).templates.find? name = some t ↔
      t.name = name ∧ LastWritten t edits ∨
        s.templates.find? name = some t ∧ ∀ e ∈ edits, e.Spares name := by
  induction edits generalizing s with
  | nil => simp [edited, LastWritten]
  | cons e edits ih =>
    change ((s.edit e).2.edited edits).templates.find? name = some t ↔ _
    rw [ih, find?_edit_iff, lastWritten_cons_iff, List.forall_mem_cons]
    by_cases named : t.name = name
    · subst named
      simp only [true_and, or_and_right, and_assoc, or_assoc]
    · simp only [named, false_and, false_or, and_assoc]

theorem result_get_ok_iff {name : String} {t : Template} :
    (s.catalog.get name).result = .ok t ↔ s.templates.find? name = some t :=
  Catalog.lookup_ofStore

private theorem find?_eq_toOption (s : State) (name : String) :
    s.templates.find? name = (s.catalog.get name).result.toOption := by
  rw [result_get_catalog]
  cases s.templates.find? name <;> rfl

private theorem eq_notFound_of_get {name : String} {e : Refusal}
    (missing : (s.catalog.get name).result = .error e) : e = .notFound .template name := by
  rw [result_get_catalog] at missing
  split at missing
  · cases missing
  · exact (Except.error.inj missing).symm

/-- A state holds as many templates as names that are answered to. -/
private theorem size_eq_card (s : State) : ∃ names : Finset String, s.templates.size = names.card ∧
    ∀ name, name ∈ names ↔ ∃ t, (s.catalog.get name).result = .ok t := by
  refine ⟨s.templates.names.toFinset, ?_, fun name => ?_⟩
  · rw [List.toFinset_card_of_nodup s.templates.nodup_names, Roster.names, List.length_map]
    rfl
  · rw [List.mem_toFinset, Roster.mem_names_iff]
    simp only [result_get_ok_iff]

/-- From a list of templates on, in which the last of a name counts, the stored templates are a map
by name, whatever is inserted, removed and replaced. -/
theorem stored_as_last_written (s : State) (ts : List Template) (edits : List Edit) :
    let st := s.edited (.replace ts :: edits)
    (∀ name t, (st.catalog.get name).result = .ok t ↔
      t.name = name ∧ LastWritten t (.replace ts :: edits)) ∧
    (∀ name e, (st.catalog.get name).result = .error e → e = .notFound .template name) ∧
    (∀ t, (st.insertTemplate t).1 = (st.catalog.get t.name).result.toOption) ∧
    (∀ name, (st.removeTemplate name).1 = (st.catalog.get name).result.toOption) ∧
    (∃ names : Finset String, st.templates.size = names.card ∧
      ∀ name, name ∈ names ↔ ∃ t, (st.catalog.get name).result = .ok t) ∧
    ∃ all, st.catalog.list.result = .ok all ∧ (all.map Template.name).Pairwise Text.BytesLt ∧
      ∀ t, t ∈ all ↔ (st.catalog.get t.name).result = .ok t := by
  intro st
  have found (name : String) (t : Template) : (st.catalog.get name).result = .ok t ↔
      t.name = name ∧ LastWritten t (.replace ts :: edits) := by
    -- the replacement at the start leaves nothing of what was stored before
    rw [result_get_ok_iff, find?_edited_iff, List.forall_mem_cons]
    simp only [Edit.Spares, false_and, and_false, or_false]
  have listed (t : Template) : t ∈ st.templates.items ↔ (st.catalog.get t.name).result = .ok t := by
    rw [result_get_ok_iff, Roster.mem_items_iff]
  exact ⟨found, fun _ _ => eq_notFound_of_get, fun t => st.find?_eq_toOption t.name,
    st.find?_eq_toOption, st.size_eq_card, _, st.result_list_catalog, st.increasing_names, listed⟩

/-- Carries out an edit on a map with keys of its own. -/
def Edit.onMap (m : Std.HashMap String Template) : Edit → Std.HashMap String Template
  | .insert t => m.insert t.name t
  | .remove name => m.erase name
  | .replace ts => ts.foldl (fun m t => m.insert t.name t) ∅

theorem mirrors_edit {m : Std.HashMap String Template} (h : Roster.Mirrors m s.templates)
    (e : Edit) : Roster.Mirrors (e.onMap m) (s.edit e).2.templates := by
  cases e with
  | insert t => exact h.insert
  | remove name => exact h.erase name
  | replace ts => exact Roster.Mirrors.empty.foldl_insert ts

theorem mirrors_edited {m : Std.HashMap String Template} (h : Roster.Mirrors m s.templates)
    (edits : List Edit) : Roster.Mirrors (edits.foldl Edit.onMap m) (s.edited edits).templates := by
  induction edits generalizing m s with
  | nil => exact h
  | cons e edits ih => exact ih (mirrors_edit h e)

/-- A map that is edited alike gives the same answers, holds each template under its own name, and
holds as many. -/
theorem edited_keyed (edits : List Edit) :
    let m := edits.foldl Edit.onMap ∅
    let st := edited {} edits
    (∀ name : String, m[name]? = (st.catalog.get name).result.toOption) ∧
      (∀ (name : String) t, m[name]? = some t → t.name = name) ∧
      m.toList.Perm (st.templates.items.map fun t => (t.name, t)) ∧
      m.size = st.templates.size := by
  intro m st
  have mirrors : Roster.Mirrors m st.templates := mirrors_edited Roster.Mirrors.empty edits
  have answers (name : String) : m[name]? = (st.catalog.get name).result.toOption :=
    (mirrors name).trans (st.find?_eq_toOption name)
  exact ⟨answers, fun _ _ => mirrors.key_eq, mirrors.toList_perm, mirrors.size_eq⟩

/-- Of two templates with one name the later stays, until it is removed. -/
example :
    let viewer : Template := { name := "viewer" }
    let start : List Template := [viewer, { viewer with locked := true }]
    (edited {} [.replace start]).templates.find? "viewer" = some { viewer with locked := true } ∧
      (edited {} [.replace start, .remove "viewer"]).templates.find? "viewer" = none := by
  decide

end State

end GrantGate
