import GrantGate.Proofs.Snapshot
import GrantGate.Proofs.Text.Bytes
import GrantGate.Snapshot.Load
import Mathlib.Data.List.Induction

namespace GrantGate

namespace Snapshot

/-- The first item of a list whose name an earlier one has. -/
def FirstRepeated {α : Type} (key : α → String) (xs : List α) (x : α) : Prop :=
  ∃ before after, xs = before ++ x :: after ∧ (before.map key).Nodup ∧ key x ∈ before.map key

section Repeated

variable {α : Type} {key : α → String} {xs : List α} {x : α}

private theorem exists_firstRepeated (h : ¬ (xs.map key).Nodup) : ∃ x, FirstRepeated key xs x := by
  induction xs using List.reverseRecOn with
  | nil => exact absurd List.nodup_nil h
  | append_singleton xs x ih =>
    by_cases distinct : (xs.map key).Nodup
    · have repeated : key x ∈ xs.map key := by
        by_contra fresh
        refine h ?_
        rw [List.map_append, List.map_singleton, ← List.concat_eq_append]
        exact distinct.concat fresh
      exact ⟨x, xs, [], rfl, distinct, repeated⟩
    · obtain ⟨y, before, after, rfl, first⟩ := ih distinct
      exact ⟨y, before, after ++ [x], by simp, first⟩

private theorem not_nodup_of_firstRepeated? {names : List String} {name : String}
    (h : firstRepeated? [] names = some name) : ¬ names.Nodup := by
  intro distinct
  cases (firstRepeated?_nil_eq_none_iff.2 distinct).symm.trans h

/-- Distinct names that were not seen before are passed over. -/
private theorem firstRepeated?_append {seen before rest : List String} (distinct : before.Nodup)
    (fresh : ∀ name ∈ before, name ∉ seen) :
    firstRepeated? seen (before ++ rest) = firstRepeated? (before.reverse ++ seen) rest := by
  induction before generalizing seen with
  | nil => rfl
  | cons name before ih =>
    obtain ⟨notAgain, distinct⟩ := List.nodup_cons.1 distinct
    obtain ⟨unseen, fresh⟩ := List.forall_mem_cons.1 fresh
    have still : ∀ other ∈ before, other ∉ name :: seen := by
      intro other hother seen
      rcases List.mem_cons.1 seen with rfl | seen
      · exact notAgain hother
      · exact fresh other hother seen
    have passed : ¬ seen.contains name = true := by simpa using unseen
    rw [List.cons_append, firstRepeated?, if_neg passed, ih distinct still, List.reverse_cons,
      List.append_assoc, List.singleton_append]

theorem FirstRepeated.firstRepeated?_eq (h : FirstRepeated key xs x) :
    firstRepeated? [] (xs.map key) = some (key x) := by
  obtain ⟨before, after, rfl, distinct, repeated⟩ := h
  have found : ((before.map key).reverse ++ []).contains (key x) = true := by simpa using repeated
  rw [List.map_append, firstRepeated?_append distinct (by simp), List.map_cons, firstRepeated?,
    if_pos found]

theorem firstRepeated?_map_eq_some_iff {name : String} :
    firstRepeated? [] (xs.map key) = some name ↔ ∃ x, FirstRepeated key xs x ∧ key x = name := by
  constructor
  · intro h
    obtain ⟨x, first⟩ := exists_firstRepeated (not_nodup_of_firstRepeated? h)
    exact ⟨x, first, Option.some.inj (first.firstRepeated?_eq.symm.trans h)⟩
  · rintro ⟨x, first, rfl⟩
    exact first.firstRepeated?_eq

end Repeated

theorem duplicate?_eq_some_iff {s : Snapshot} {d : Duplicate} : s.duplicate? = some d ↔
    (∃ t, FirstRepeated Template.name s.templates t ∧ d = .template t.name) ∨
    (s.templates.map Template.name).Nodup ∧
      ∃ b, FirstRepeated Binding.name s.bindings b ∧ d = .binding b.name := by
  rw [duplicate?]
  cases h : firstRepeated? [] (s.templates.map Template.name) with
  | some name =>
    have repeated := not_nodup_of_firstRepeated? h
    constructor
    · intro hd
      obtain ⟨t, first, rfl⟩ := firstRepeated?_map_eq_some_iff.1 h
      exact .inl ⟨t, first, (Option.some.inj hd).symm⟩
    · intro hd
      rcases hd with ⟨t, first, rfl⟩ | ⟨distinct, -⟩
      · rw [Option.some.inj (h.symm.trans first.firstRepeated?_eq)]
      · exact absurd distinct repeated
  | none =>
    have distinct := firstRepeated?_nil_eq_none_iff.1 h
    simp only [Option.map_eq_some_iff, firstRepeated?_map_eq_some_iff]
    constructor
    · intro hd
      obtain ⟨_, ⟨b, first, rfl⟩, rfl⟩ := hd
      exact .inr ⟨distinct, b, first, rfl⟩
    · intro hd
      rcases hd with ⟨t, first, rfl⟩ | ⟨-, b, first, rfl⟩
      · cases h.symm.trans first.firstRepeated?_eq
      · exact ⟨b.name, ⟨b, first, rfl⟩, rfl⟩

/-- A text spells a snapshot, whether or not its names are distinct. -/
def Spells (text : String) (s : Snapshot) : Prop :=
  ((Yaml.ofText? text).bind fun y => (decode y).toOption) = some s

theorem ofYaml_of_spells {text : String} {s : Snapshot} (h : Spells text s) :
    ofYaml text = match s.duplicate? with
      | some d => .error (.duplicate d)
      | none => .ok s := by
  obtain ⟨y, hy, h⟩ := Option.bind_eq_some_iff.1 h
  cases hd : (decode y : Except Wire.DecodeError Snapshot) with
  | error e => simp [hd, Except.toOption] at h
  | ok s' =>
    obtain rfl : s' = s := by simpa [hd, Except.toOption] using h
    cases repeated : s'.duplicate? <;> simp [ofYaml, hy, hd, repeated]

end Snapshot

namespace State

variable {s : Snapshot} {oracleEnabled : Bool} {timeout : Nat}

/-- Stored templates answer to their names, and no other name is answered to. -/
theorem result_get_catalog (st : State) (name : String) :
    (st.catalog.get name).result = match st.templates.find? name with
      | some t => .ok t
      | none => .error (.notFound .template name) := rfl

theorem result_list_catalog (st : State) :
    st.catalog.list.result = .ok st.templates.items := rfl

theorem increasing_names (st : State) :
    (st.templates.items.map Template.name).Pairwise Text.BytesLt :=
  List.pairwise_map.2 (st.templates.ordered.imp Text.bytesLt_of_lt)

/-- What a state that was made from a snapshot answers when it is asked for templates. -/
structure Stocks (st : State) (s : Snapshot) : Prop where
  found : ∀ t ∈ s.templates, (st.catalog.get t.name).result = .ok t
  missing : ∀ name, (∀ t ∈ s.templates, t.name ≠ name) →
    (st.catalog.get name).result = .error (.notFound .template name)
  listed : ∃ all, st.catalog.list.result = .ok all ∧ all.Perm s.templates ∧
    (all.map Template.name).Pairwise Text.BytesLt
  bindings : st.bindings = s.bindings

theorem stocks_ofSnapshot (unique : s.duplicate? = none) :
    (ofSnapshot s oracleEnabled timeout).Stocks s where
  found t ht := by
    have found : (ofSnapshot s oracleEnabled timeout).templates.find? t.name = some t :=
      (find?_ofSnapshot_iff unique).2 ⟨ht, rfl⟩
    rw [result_get_catalog, found]
  missing name other := by
    have missing : (ofSnapshot s oracleEnabled timeout).templates.find? name = none := by
      refine Option.eq_none_iff_forall_ne_some.2 fun t found => ?_
      obtain ⟨ht, hname⟩ := (find?_ofSnapshot_iff unique).1 found
      exact other t ht hname
    rw [result_get_catalog, missing]
  listed :=
    have distinct := (Snapshot.duplicate?_eq_none_iff.1 unique).1
    ⟨_, result_list_catalog _, Roster.perm_ofList distinct, increasing_names _⟩
  bindings := rfl

end State

namespace Snapshot

/-- When a snapshot is refused and for which name, and that all of it is there otherwise. -/
structure LoadsAll (s : Snapshot) : Prop where
  distinct : s.duplicate? = none ↔
    (s.templates.map Template.name).Nodup ∧ (s.bindings.map Binding.name).Nodup
  /-- A repeated name of a template is told before one of a binding. -/
  repeated : ∀ d, s.duplicate? = some d ↔
    (∃ t, FirstRepeated Template.name s.templates t ∧ d = .template t.name) ∨
    (s.templates.map Template.name).Nodup ∧
      ∃ b, FirstRepeated Binding.name s.bindings b ∧ d = .binding b.name
  loaded : ∀ text, Spells text s → (ofYaml text = .ok s ↔ s.duplicate? = none)
  refused : ∀ text, Spells text s → ∀ d, ofYaml text = .error (.duplicate d) ↔ s.duplicate? = some d
  stocked : s.duplicate? = none → ∀ oracleEnabled timeout,
    (State.ofSnapshot s oracleEnabled timeout).Stocks s

/-- A snapshot is refused exactly for the first repeated name, of a template before one of a
binding, and otherwise all of it is there. -/
theorem loads_all (s : Snapshot) : LoadsAll s where
  distinct := duplicate?_eq_none_iff
  repeated _ := duplicate?_eq_some_iff
  loaded text spells := by
    rw [ofYaml_of_spells spells]
    cases s.duplicate? <;> simp
  refused text spells d := by
    rw [ofYaml_of_spells spells]
    cases s.duplicate? <;> simp
  stocked unique _ _ := State.stocks_ofSnapshot unique

/-- A binding may have the name of a template. -/
theorem loads_all_shared_name :
    let text := "templates:\n  - name: viewer\n  - name: admin\n    locked: true\nbindings:\n" ++
      "  - name: viewer\n    subject: \x7b kind: user, name: alice \x7d\n    template: viewer\n"
    let viewer : Template := { name := "viewer" }
    let admin : Template := { name := "admin", locked := true }
    let alice : Binding := ⟨"viewer", .user "alice", "viewer", none⟩
    let s : Snapshot := { templates := [viewer, admin], bindings := [alice] }
    let start := State.ofSnapshot s false 2000
    Spells text s ∧ s.duplicate? = none ∧ ofYaml text = .ok s ∧
      (start.catalog.get "viewer").result = .ok viewer ∧
      (start.catalog.get "owner").result = .error (.notFound .template "owner") ∧
      (∃ all, start.catalog.list.result = .ok all ∧ all.Perm [viewer, admin] ∧
        (all.map Template.name).Pairwise Text.BytesLt) ∧
      start.bindings = [alice] := by
  intro text viewer admin alice s start
  have spells : Spells text s := by unfold Spells; decide +kernel
  have unique : s.duplicate? = none := by decide
  have loads := loads_all s
  have stocks := loads.stocked unique false 2000
  exact ⟨spells, unique, (loads.loaded text spells).2 unique, stocks.found viewer (by decide),
    stocks.missing "owner" (by decide), stocks.listed, stocks.bindings⟩

end Snapshot

end GrantGate
