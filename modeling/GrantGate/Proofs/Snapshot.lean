import GrantGate.Proofs.Roster
import GrantGate.State

namespace GrantGate

namespace Snapshot

private theorem firstRepeated?_eq_none_iff {seen names : List String} :
    firstRepeated? seen names = none ↔ names.Nodup ∧ ∀ name ∈ names, name ∉ seen := by
  induction names generalizing seen with
  | nil => simp [firstRepeated?]
  | cons name rest ih =>
    rw [firstRepeated?]
    by_cases hseen : name ∈ seen
    · simp [hseen]
    · have hnot : seen.contains name = false := by simpa using hseen
      rw [hnot, if_neg Bool.false_ne_true, ih, List.nodup_cons, List.forall_mem_cons]
      constructor
      · intro h
        obtain ⟨hnodup, hrest⟩ := h
        have hname : name ∉ rest := fun hmem => hrest name hmem (List.mem_cons_self ..)
        exact ⟨⟨hname, hnodup⟩, hseen, fun n hn hs => hrest n hn (List.mem_cons_of_mem _ hs)⟩
      · intro h
        obtain ⟨⟨hname, hnodup⟩, -, hrest⟩ := h
        refine ⟨hnodup, fun n hn hs => ?_⟩
        rcases List.mem_cons.1 hs with rfl | hs
        · exact hname hn
        · exact hrest n hn hs

theorem firstRepeated?_nil_eq_none_iff {names : List String} :
    firstRepeated? [] names = none ↔ names.Nodup := by
  simp [firstRepeated?_eq_none_iff]

theorem duplicate?_eq_none_iff {s : Snapshot} : s.duplicate? = none ↔
    (s.templates.map Template.name).Nodup ∧ (s.bindings.map Binding.name).Nodup := by
  rw [← firstRepeated?_nil_eq_none_iff, ← firstRepeated?_nil_eq_none_iff, duplicate?]
  cases firstRepeated? [] (s.templates.map Template.name) with
  | none => simp
  | some name => simp

end Snapshot

/-- A service that starts from a snapshot without duplicates finds its templates by name, and no
others. -/
theorem State.find?_ofSnapshot_iff {snap : Snapshot} (unique : snap.duplicate? = none)
    {oracleEnabled : Bool} {timeout : Nat} {name : String} {t : Template} :
    (State.ofSnapshot snap oracleEnabled timeout).templates.find? name = some t ↔
      t ∈ snap.templates ∧ t.name = name :=
  Roster.find?_ofList_eq_some_iff (Snapshot.duplicate?_eq_none_iff.1 unique).1

end GrantGate
