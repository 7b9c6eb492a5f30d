import GrantGate.Proofs.Inheritance.Reach
import GrantGate.Proofs.Inheritance.Trail

namespace GrantGate.Catalog

variable {c d : Catalog} {seen queue rest : List String} {name root : String} {rule : Rule}

/-- A name is come by from a queue if it is within reach of a name in it. -/
def ComesBy (c : Catalog) (queue : List String) (name : String) : Prop :=
  ∃ q ∈ queue, c.Reaches q name

theorem ComesBy.of_visit {t : Template} (next : queue.dropWhile seen.contains = name :: rest)
    (found : c.lookup name = .ok t) {n : String} (h : c.ComesBy (rest ++ t.inherits) n) :
    c.ComesBy queue n := by
  obtain ⟨q, hq, hr⟩ := h
  rcases List.mem_append.1 hq with hq | hq
  · exact ⟨q, mem_of_dropWhile next (List.mem_cons_of_mem _ hq), hr⟩
  · exact ⟨name, mem_of_dropWhile next (List.mem_cons_self ..), hr.head ⟨t, found, hq⟩⟩

/-- Catalogs that agree on all that is come by and has not been seen are walked alike. -/
theorem trail_congr
    (h : ∀ name, name ∉ seen → c.ComesBy queue name → d.lookup name = c.lookup name) :
    d.trail seen queue = c.trail seen queue := by
  fun_induction Catalog.trail c seen queue with
  | case1 seen queue next => exact trail_done next
  | case2 seen queue name rest next e found =>
    have fresh : name ∉ seen := fresh_of_dropWhile next
    have here : c.ComesBy queue name := ⟨name, mem_of_dropWhile next (List.mem_cons_self ..), .refl⟩
    exact trail_error next ((h name fresh here).trans found)
  | case3 seen queue name rest next t found ih =>
    have fresh : name ∉ seen := fresh_of_dropWhile next
    have here : c.ComesBy queue name := ⟨name, mem_of_dropWhile next (List.mem_cons_self ..), .refl⟩
    rw [trail_ok next ((h name fresh here).trans found)]
    have later : d.trail (t.name :: seen) (rest ++ t.inherits) =
        c.trail (t.name :: seen) (rest ++ t.inherits) := by
      refine ih fun n hn hcomes => h n ?_ (hcomes.of_visit next found)
      exact fun mem => hn (List.mem_cons_of_mem _ mem)
    rw [later]

/-- What has been visited is stored, was not seen before, and is come by from the queue. -/
theorem of_mem_visited {t : Template} (h : t ∈ (c.trail seen queue).visited) :
    c.lookup t.name = .ok t ∧ t.name ∉ seen ∧ c.ComesBy queue t.name := by
  fun_induction Catalog.trail c seen queue with
  | case1 => simp at h
  | case2 => simp at h
  | case3 seen queue name rest next u found ih =>
    have hu : u.name = name := name_of_lookup found
    rcases List.mem_cons.1 h with rfl | h
    · exact ⟨hu ▸ found, hu ▸ fresh_of_dropWhile next,
        name, mem_of_dropWhile next (List.mem_cons_self ..), hu ▸ .refl⟩
    · obtain ⟨hl, hn, hr⟩ := ih h
      exact ⟨hl, fun mem => hn (List.mem_cons_of_mem _ mem), hr.of_visit next found⟩

/-- The look-up that ends a walk fails, and its name is come by from the queue. -/
theorem of_failure {e : Refusal} (h : (c.trail seen queue).failure = some (name, e)) :
    c.lookup name = .error e ∧ name ∉ seen ∧ c.ComesBy queue name := by
  fun_induction Catalog.trail c seen queue with
  | case1 => simp at h
  | case2 seen queue n rest next e' found =>
    obtain ⟨rfl, rfl⟩ : n = name ∧ e' = e := by simpa using h
    exact ⟨found, fresh_of_dropWhile next,
      n, mem_of_dropWhile next (List.mem_cons_self ..), .refl⟩
  | case3 seen queue n rest next u found ih =>
    obtain ⟨hl, hn, hr⟩ := ih h
    exact ⟨hl, fun mem => hn (List.mem_cons_of_mem _ mem), hr.of_visit next found⟩

/-- A name that needs no visit any more. -/
def Settled (c : Catalog) (seen queue : List String) (name : String) : Prop :=
  name ∈ seen ∨ ∃ t ∈ (c.trail seen queue).visited, t.name = name

/-- A walk without a failure leaves nothing out: neither of its queue nor of what those inherit from
that it has visited. -/
private theorem settled_of_done (h : (c.trail seen queue).failure = none) :
    (∀ q ∈ queue, c.Settled seen queue q) ∧
      ∀ t ∈ (c.trail seen queue).visited, ∀ p ∈ t.inherits, c.Settled seen queue p := by
  unfold Settled
  fun_induction Catalog.trail c seen queue with
  | case1 seen queue next =>
    refine ⟨fun q hq => .inl ?_, by simp⟩
    simpa using seen_or_mem_of_dropWhile next hq
  | case2 => simp at h
  | case3 seen queue name rest next u found ih =>
    have hu : u.name = name := name_of_lookup found
    obtain ⟨hqueue, hparents⟩ := ih h
    have later {n : String} (hn : n ∈ u.name :: seen ∨
        ∃ t ∈ (c.trail (u.name :: seen) (rest ++ u.inherits)).visited, t.name = n) :
        n ∈ seen ∨ ∃ t ∈ (Trail.ofTemplate u
          (c.trail (u.name :: seen) (rest ++ u.inherits))).visited, t.name = n := by
      rcases hn with hn | ⟨t, ht, rfl⟩
      · rcases List.mem_cons.1 hn with rfl | hn
        · exact .inr ⟨u, List.mem_cons_self .., rfl⟩
        · exact .inl hn
      · exact .inr ⟨t, List.mem_cons_of_mem _ ht, rfl⟩
    constructor
    · intro q hq
      rcases seen_or_mem_of_dropWhile next hq with hq | hq
      · exact .inl hq
      rcases List.mem_cons.1 hq with rfl | hq
      · exact .inr ⟨u, List.mem_cons_self .., hu⟩
      · exact later (hqueue q (List.mem_append_left _ hq))
    · intro t ht p hp
      rcases List.mem_cons.1 ht with rfl | ht
      · exact later (hqueue p (List.mem_append_right _ hp))
      · exact later (hparents t ht p hp)

/-- A walk that starts with nothing seen visits all that is come by. -/
theorem mem_visited_of_comesBy (h : (c.trail [] queue).failure = none) {n : String}
    (hn : c.ComesBy queue n) : ∃ t ∈ (c.trail [] queue).visited, t.name = n := by
  obtain ⟨hqueue, hparents⟩ := settled_of_done h
  obtain ⟨q, hq, hr⟩ := hn
  induction hr with
  | refl => simpa [Settled] using hqueue q hq
  | tail _ step ih =>
    obtain ⟨t, ht, rfl⟩ := ih
    obtain ⟨u, hu, hp⟩ := step
    obtain rfl : t = u := Except.ok.inj ((of_mem_visited ht).1.symm.trans hu)
    simpa [Settled] using hparents t ht _ hp

theorem failure_eq_none_iff :
    (c.trail [] queue).failure = none ↔ ∀ n, c.ComesBy queue n → ∃ t, c.lookup n = .ok t := by
  constructor
  · intro h n hn
    obtain ⟨t, ht, rfl⟩ := mem_visited_of_comesBy h hn
    exact ⟨t, (of_mem_visited ht).1⟩
  · intro h
    cases hf : (c.trail [] queue).failure with
    | none => rfl
    | some f =>
      obtain ⟨hl, -, hr⟩ := of_failure hf
      obtain ⟨t, ht⟩ := h f.1 hr
      rw [ht] at hl
      cases hl

theorem comesBy_singleton {n : String} : c.ComesBy [root] n ↔ c.Reaches root n := by
  simp [ComesBy]

theorem result_resolveAll_of_done (h : (c.trail [] queue).failure = none) :
    (c.resolveAll queue).result = .ok (.ofTemplates (c.trail [] queue).visited) := by
  simp [resolveAll_eq, Trail.toInquiry, h]

theorem result_resolveAll_of_failure {f : String × Refusal}
    (h : (c.trail [] queue).failure = some f) : (c.resolveAll queue).result = .error f.2 := by
  simp [resolveAll_eq, Trail.toInquiry, h]

theorem result_resolve_of_done (h : (c.trail [] [root]).failure = none) :
    (c.resolve root).result = .ok (.ofTemplates (c.trail [] [root]).visited) :=
  result_resolveAll_of_done h

theorem result_resolve_of_failure {f : String × Refusal}
    (h : (c.trail [] [root]).failure = some f) : (c.resolve root).result = .error f.2 :=
  result_resolveAll_of_failure h

theorem resolve_ok_iff : (∃ set, (c.resolve root).result = .ok set) ↔ c.Resolves root := by
  have hdone : (c.trail [] [root]).failure = none ↔ c.Resolves root := by
    simp only [failure_eq_none_iff, comesBy_singleton, Resolves]
  rw [← hdone]
  cases hf : (c.trail [] [root]).failure with
  | none => simp [result_resolve_of_done hf]
  | some f => simp [result_resolve_of_failure hf]

theorem mem_rules_of_resolve {set : RuleSet} (h : (c.resolve root).result = .ok set) :
    rule ∈ set.rules ↔ c.Declares root rule := by
  cases hf : (c.trail [] [root]).failure with
  | some f =>
    rw [result_resolve_of_failure hf] at h
    cases h
  | none =>
    obtain rfl : RuleSet.ofTemplates (c.trail [] [root]).visited = set := by
      rw [result_resolve_of_done hf] at h
      exact Except.ok.inj h
    simp only [RuleSet.ofTemplates, List.mem_flatMap]
    constructor
    · intro h
      obtain ⟨t, ht, hm⟩ := h
      obtain ⟨hl, -, hr⟩ := of_mem_visited ht
      exact ⟨t.name, t, comesBy_singleton.1 hr, hl, hm⟩
    · intro h
      obtain ⟨n, t, hr, hl, hm⟩ := h
      obtain ⟨u, hu, rfl⟩ := mem_visited_of_comesBy hf (comesBy_singleton.2 hr)
      obtain rfl : u = t := Except.ok.inj ((of_mem_visited hu).1.symm.trans hl)
      exact ⟨u, hu, hm⟩

/-- A name resolves alike in catalogs that agree on all within its reach. -/
theorem resolve_congr (h : ∀ name, c.Reaches root name → d.lookup name = c.lookup name) :
    d.resolve root = c.resolve root := by
  have htrail : d.trail [] [root] = c.trail [] [root] :=
    trail_congr fun name _ hcomes => h name (comesBy_singleton.1 hcomes)
  rw [resolve, resolveAll_eq, htrail, resolve, resolveAll_eq]

end GrantGate.Catalog
