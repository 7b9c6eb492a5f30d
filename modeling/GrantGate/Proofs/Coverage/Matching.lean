import GrantGate.Rule.Coverage

namespace GrantGate

theorem matchesExactly_iff {owned value : String} :
    matchesExactly owned value = true ↔ owned = wildcard ∨ owned = value := by
  simp [matchesExactly]

theorem matchesExactly_refl (value : String) : matchesExactly value value = true :=
  matchesExactly_iff.2 (.inr rfl)

theorem matchesExactly_trans {a b c : String} (hab : matchesExactly a b = true)
    (hbc : matchesExactly b c = true) : matchesExactly a c = true := by
  rw [matchesExactly_iff] at hab hbc ⊢
  rcases hab with rfl | rfl
  · exact .inl rfl
  · exact hbc

theorem matchesResource_iff {owned value : String} :
    matchesResource owned value = true ↔ matchesExactly owned value = true ∨
      ∃ sub, subresource? value = some sub ∧ owned.toList = '*' :: '/' :: sub := by
  rw [matchesResource, Bool.or_eq_true]
  cases h : subresource? value with
  | none => simp
  | some sub => simp

theorem matchesResource_refl (value : String) : matchesResource value value = true :=
  matchesResource_iff.2 (.inl (matchesExactly_refl value))

private theorem subresource?_of_toList {value : String} {sub : List Char}
    (h : value.toList = '*' :: '/' :: sub) : subresource? value = some sub := by
  simp [subresource?, h]

/-- Only the entry for everything matches itself as a value. -/
theorem eq_wildcard_of_matchesResource {owned : String}
    (h : matchesResource owned wildcard = true) : owned = wildcard := by
  have hs : subresource? wildcard = none := by decide
  rw [matchesResource_iff, matchesExactly_iff, hs] at h
  simpa using h

theorem matchesResource_trans {a b c : String} (hab : matchesResource a b = true)
    (hbc : matchesResource b c = true) : matchesResource a c = true := by
  rcases matchesResource_iff.1 hbc with he | ⟨sub, hc, hb⟩
  · rcases matchesExactly_iff.1 he with rfl | rfl
    · rw [eq_wildcard_of_matchesResource hab]
      exact hbc
    · exact hab
  · have hsub := subresource?_of_toList hb
    rw [matchesResource_iff, matchesExactly_iff] at hab
    rw [matchesResource_iff, matchesExactly_iff]
    rcases hab with (rfl | rfl) | ⟨sub', hb', ha⟩
    · exact .inl (.inl rfl)
    · exact .inr ⟨sub, hc, hb⟩
    · obtain rfl : sub = sub' := Option.some.inj (hsub.symm.trans hb')
      exact .inr ⟨sub, hc, ha⟩

/-- The entry for everything is the pattern with nothing before its star. -/
theorem matchesUrl_iff {owned value : String} :
    matchesUrl owned value = true ↔
      owned = value ∨ ∃ p, owned.toList = p ++ ['*'] ∧ p <+: value.toList := by
  have star : wildcard.toList = [] ++ ['*'] := by decide
  rw [matchesUrl, Bool.or_eq_true, matchesExactly_iff, Bool.and_eq_true, beq_iff_eq,
    List.isPrefixOf_iff_prefix, List.getLast?_eq_some_iff]
  constructor
  · intro h
    rcases h with (rfl | rfl) | ⟨⟨p, hp⟩, hv⟩
    · exact .inr ⟨[], star, List.nil_prefix⟩
    · exact .inl rfl
    · rw [hp, List.dropLast_concat] at hv
      exact .inr ⟨p, hp, hv⟩
  · intro h
    rcases h with rfl | ⟨p, hp, hv⟩
    · exact .inl (.inr rfl)
    · rw [hp, List.dropLast_concat]
      exact .inr ⟨⟨p, rfl⟩, hv⟩

theorem matchesUrl_refl (value : String) : matchesUrl value value = true :=
  matchesUrl_iff.2 (.inl rfl)

/-- Matching composes unless the first entry has one star more than the second. -/
theorem matchesUrl_trans {a b c : String} (hab : matchesUrl a b = true)
    (hbc : matchesUrl b c = true) :
    matchesUrl a c = true ∨ ∃ q, a.toList = q ++ ['*', '*'] ∧ q <+: c.toList := by
  rcases matchesUrl_iff.1 hbc with rfl | ⟨q, hb, hc⟩
  · exact .inl hab
  rcases matchesUrl_iff.1 hab with rfl | ⟨p, ha, hp⟩
  · exact .inl hbc
  rw [hb, List.prefix_concat_iff] at hp
  rcases hp with rfl | hp
  · exact .inr ⟨q, by rw [ha, List.append_assoc]; rfl, hc⟩
  · exact .inl (matchesUrl_iff.2 (.inr ⟨p, ha, hp.trans hc⟩))

theorem dimensionCovers_iff {matching : String → String → Bool} {owned requested : List String} :
    dimensionCovers matching owned requested = true ↔
      ∀ value ∈ requested, ∃ owner ∈ owned, matching owner value = true := by
  simp [dimensionCovers]

theorem dimensionCovers_refl {matching : String → String → Bool}
    (refl : ∀ value, matching value value = true) (values : List String) :
    dimensionCovers matching values values = true :=
  dimensionCovers_iff.2 fun value mem => ⟨value, mem, refl value⟩

theorem dimensionCovers_trans {matching : String → String → Bool} {a b c : List String}
    (hab : dimensionCovers matching a b = true) (hbc : dimensionCovers matching b c = true)
    (trans : ∀ x y z, matching x y = true → matching y z = true → matching x z = true) :
    dimensionCovers matching a c = true := by
  rw [dimensionCovers_iff] at hab hbc ⊢
  intro z hz
  obtain ⟨y, hy, hyz⟩ := hbc z hz
  obtain ⟨x, hx, hxy⟩ := hab y hy
  exact ⟨x, hx, trans x y z hxy hyz⟩

/-- Whether a list of names stands for every name. -/
def allNames (names : List String) : Prop := names = [] ∨ wildcard ∈ names

theorem namesCovered_iff {owned requested : List String} :
    namesCovered owned requested = true ↔
      allNames owned ∨ requested ≠ [] ∧ ∀ name ∈ requested, name ∈ owned := by
  by_cases ho : owned = [] ∨ wildcard ∈ owned
  · simp [namesCovered, allNames, ho]
  · by_cases hr : requested = [] <;> simp [namesCovered, allNames, ho, hr]

theorem namesCovered_refl (names : List String) : namesCovered names names = true := by
  rw [namesCovered_iff]
  by_cases hn : names = []
  · exact .inl (.inl hn)
  · exact .inr ⟨hn, fun _ mem => mem⟩

theorem allNames_of_namesCovered {owned requested : List String}
    (h : namesCovered owned requested = true) (hr : allNames requested) : allNames owned := by
  rcases namesCovered_iff.1 h with ho | ⟨hne, hsub⟩
  · exact ho
  · rcases hr with hnil | hstar
    · exact absurd hnil hne
    · exact .inr (hsub wildcard hstar)

theorem namesCovered_trans {a b c : List String} (hab : namesCovered a b = true)
    (hbc : namesCovered b c = true) : namesCovered a c = true := by
  rcases namesCovered_iff.1 hbc with hb | ⟨hne, hcb⟩
  · exact namesCovered_iff.2 (.inl (allNames_of_namesCovered hab hb))
  · rcases namesCovered_iff.1 hab with ha | ⟨_, hba⟩
    · exact namesCovered_iff.2 (.inl ha)
    · exact namesCovered_iff.2 (.inr ⟨hne, fun name mem => hba name (hcb name mem)⟩)

end GrantGate
