import GrantGate.Template.Inheritance
import Mathlib.Data.List.TakeWhile

namespace GrantGate

/-- What a walk has come by: the templates in the order of visits, and the look-up that ended it. -/
structure Trail where
  visited : List Template
  failure : Option (String × Refusal)

namespace Trail

def ofTemplate (t : Template) (rest : Trail) : Trail := { rest with visited := t :: rest.visited }

def lookups (trail : Trail) : List String :=
  trail.visited.map Template.name ++ trail.failure.toList.map Prod.fst

end Trail

namespace RuleSet

def ofTemplates (ts : List Template) : RuleSet :=
  ⟨ts.flatMap Template.rules, ts.map Template.name⟩

private theorem ofTemplates_concat (ts : List Template) (t : Template) :
    ofTemplates (ts ++ [t]) = (ofTemplates ts).add t := by
  simp [ofTemplates, add]

end RuleSet

namespace Trail

/-- The rule set of a completed walk that started at templates already at hand. -/
def toInquiry (start : List Template) (trail : Trail) : Inquiry Refusal RuleSet where
  events := trail.lookups.map .get
  result :=
    match trail.failure with
    | some (_, e) => .error e
    | none => .ok (.ofTemplates (start ++ trail.visited))

/-- To come by a template first is to look it up and to go on with it at hand. -/
private theorem toInquiry_ofTemplate {start : List Template} {t : Template} {trail : Trail} :
    (ofTemplate t trail).toInquiry start =
      (.ask (.get t.name) (.ok t) >>= fun _ => trail.toInquiry (start ++ [t])) := by
  obtain ⟨visited, failure⟩ := trail
  cases failure <;> simp [toInquiry, ofTemplate, lookups, Inquiry.ask, Bind.bind, Inquiry.bind]

end Trail

namespace Walk

variable {w : Walk} {queued : List String} {name : String}

private theorem foldl_enqueue_of_seen (h : ∀ n ∈ queued, n ∈ w.seen) :
    queued.foldl enqueue w = w := by
  induction queued with
  | nil => rfl
  | cons n queued ih =>
    have hn : w.enqueue n = w := by simp [enqueue, h n (List.mem_cons_self ..)]
    rw [List.foldl_cons, hn]
    exact ih fun n hn => h n (List.mem_cons_of_mem _ hn)

/-- What is queued does not depend on what stands at the head of the queue. -/
private theorem foldl_enqueue_behind : queued.foldl enqueue { w with queue := name :: w.queue } =
    { queued.foldl enqueue w with queue := name :: (queued.foldl enqueue w).queue } := by
  induction queued generalizing w with
  | nil => rfl
  | cons n queued ih =>
    have first : enqueue { w with queue := name :: w.queue } n =
        { w.enqueue n with queue := name :: (w.enqueue n).queue } := by
      unfold enqueue
      split <;> rfl
    rw [List.foldl_cons, first, ih, List.foldl_cons]

private theorem foldl_enqueue_resolved {set : RuleSet} :
    queued.foldl enqueue { w with resolved := set } =
    { queued.foldl enqueue w with resolved := set } := by
  induction queued generalizing w with
  | nil => rfl
  | cons n queued ih =>
    have first : enqueue { w with resolved := set } n = { w.enqueue n with resolved := set } := by
      unfold enqueue
      split <;> rfl
    rw [List.foldl_cons, first, ih, List.foldl_cons]

private theorem resolved_foldl_enqueue : (queued.foldl enqueue w).resolved = w.resolved := by
  have h : queued.foldl enqueue w = { queued.foldl enqueue w with resolved := w.resolved } :=
    foldl_enqueue_resolved
  rw [h]

private theorem mem_seen_foldl_enqueue (h : name ∈ w.seen) :
    name ∈ (queued.foldl enqueue w).seen := by
  induction queued generalizing w with
  | nil => exact h
  | cons n queued ih =>
    refine ih ?_
    unfold enqueue
    split
    · exact h
    · exact List.mem_cons_of_mem _ h

end Walk

namespace Catalog

variable {c d : Catalog} {seen queue rest : List String} {name root : String} {rule : Rule}

theorem fresh_of_dropWhile (h : queue.dropWhile seen.contains = name :: rest) : name ∉ seen := by
  have := List.head_dropWhile_not (p := seen.contains) (l := queue) (by simp [h])
  simpa [h] using this

/-- Each visit leaves one stored name fewer to see. -/
private theorem unseen_lt {t : Template} (next : queue.dropWhile seen.contains = name :: rest)
    (found : c.lookup name = .ok t) :
    c.templates.names.countP (!(t.name :: seen).contains ·) <
      c.templates.names.countP (!seen.contains ·) := by
  obtain rfl : t.name = name := name_of_lookup found
  have fewer : c.templates.names.countP (!(t.name :: seen).contains ·) +
      [t.name].countP c.templates.names.contains ≤ c.templates.names.countP (!seen.contains ·) :=
    Walk.countP_unseen_cons (fresh_of_dropWhile next)
  have stored : t.name ∈ c.templates.names := List.mem_map_of_mem (mem_of_lookup found)
  have one : [t.name].countP c.templates.names.contains = 1 := by simp [stored]
  omega

/-- Visits the queue in order, skipping names already seen, and puts what a template inherits at
the end. -/
def trail (c : Catalog) (seen queue : List String) : Trail :=
  match _next : queue.dropWhile seen.contains with
  | [] => ⟨[], none⟩
  | name :: rest =>
    match _found : c.lookup name with
    | .error e => ⟨[], some (name, e)⟩
    | .ok t => .ofTemplate t (c.trail (t.name :: seen) (rest ++ t.inherits))
termination_by c.templates.names.countP (!seen.contains ·)
decreasing_by exact unseen_lt _next _found

theorem mem_of_dropWhile {q : String} (h : queue.dropWhile seen.contains = rest) (hq : q ∈ rest) :
    q ∈ queue :=
  (List.dropWhile_suffix _).mem (h ▸ hq)

theorem seen_or_mem_of_dropWhile {q : String} (h : queue.dropWhile seen.contains = rest)
    (hq : q ∈ queue) : q ∈ seen ∨ q ∈ rest := by
  rw [← List.takeWhile_append_dropWhile (p := seen.contains) (l := queue), h] at hq
  rcases List.mem_append.1 hq with hq | hq
  · exact .inl (by simpa using List.mem_takeWhile_imp hq)
  · exact .inr hq

theorem trail_done (h : queue.dropWhile seen.contains = []) : c.trail seen queue = ⟨[], none⟩ := by
  rw [trail]
  split
  · rfl
  · simp_all

theorem trail_error {e : Refusal} (h : queue.dropWhile seen.contains = name :: rest)
    (found : c.lookup name = .error e) : c.trail seen queue = ⟨[], some (name, e)⟩ := by
  rw [trail]
  split
  · simp_all
  · split <;> simp_all

theorem trail_ok {t : Template} (h : queue.dropWhile seen.contains = name :: rest)
    (found : c.lookup name = .ok t) :
    c.trail seen queue = .ofTemplate t (c.trail (t.name :: seen) (rest ++ t.inherits)) := by
  rw [trail]
  split
  · simp_all
  · split <;> simp_all

/-- Names that wait to be visited are queued once, behind those that have been seen. -/
private theorem foldl_enqueue_of_dropWhile {set : RuleSet}
    (next : queue.dropWhile seen.contains = name :: rest) :
    let later := rest.foldl Walk.enqueue { seen := name :: seen, resolved := set }
    queue.foldl Walk.enqueue { seen, resolved := set } =
      { later with queue := name :: later.queue } := by
  have skipped : ∀ n ∈ queue.takeWhile seen.contains, n ∈ seen := by
    intro n hn
    simpa using List.mem_takeWhile_imp hn
  have first : Walk.enqueue { seen, resolved := set } name =
      { seen := name :: seen, queue := [name], resolved := set } := by
    simp [Walk.enqueue, fresh_of_dropWhile next]
  have skip := Walk.foldl_enqueue_of_seen (w := { seen, resolved := set }) skipped
  intro later
  rw [← List.takeWhile_append_dropWhile (p := seen.contains) (l := queue), next,
    List.foldl_append, skip, List.foldl_cons, first]
  exact Walk.foldl_enqueue_behind (w := { seen := name :: seen, resolved := set })

/-- A walk comes by the same templates whether names are marked when they are queued or when they
are visited. -/
theorem drain_eq_toInquiry (c : Catalog) (seen queue : List String) (start : List Template) :
    c.drain (queue.foldl Walk.enqueue { seen, resolved := .ofTemplates start }) =
      (c.trail seen queue).toInquiry start := by
  fun_induction Catalog.trail c seen queue generalizing start with
  | case1 seen queue next =>
    have skipped : ∀ n ∈ queue, n ∈ seen := by
      intro n hn
      simpa using seen_or_mem_of_dropWhile next hn
    rw [Walk.foldl_enqueue_of_seen skipped, drain_of_nil rfl]
    simp [Trail.toInquiry, Trail.lookups, pure]
  | case2 seen queue name rest next e found =>
    rw [foldl_enqueue_of_dropWhile next, drain_of_cons rfl, get, found]
    rfl
  | case3 seen queue name rest next t found ih =>
    obtain rfl : t.name = name := name_of_lookup found
    let later := rest.foldl Walk.enqueue { seen := t.name :: seen, resolved := .ofTemplates start }
    -- the visit marks no name that has not been marked already
    have visited : later.visit t = (rest ++ t.inherits).foldl Walk.enqueue
        { seen := t.name :: seen, resolved := .ofTemplates (start ++ [t]) } := by
      have marked : t.name ∈ later.seen := Walk.mem_seen_foldl_enqueue (List.mem_cons_self ..)
      have collected : later.resolved = .ofTemplates start := Walk.resolved_foldl_enqueue
      rw [Walk.visit, List.insert_of_mem marked, collected, ← RuleSet.ofTemplates_concat,
        List.foldl_append]
      congr 1
      exact Walk.foldl_enqueue_resolved.symm
    rw [foldl_enqueue_of_dropWhile next, drain_of_cons rfl, get, found]
    have goes_on : c.drain (later.visit t) =
        (c.trail (t.name :: seen) (rest ++ t.inherits)).toInquiry (start ++ [t]) := by
      rw [visited, ih]
    rw [Trail.toInquiry_ofTemplate, ← goes_on]
    rfl

theorem resolveAll_eq (c : Catalog) (roots : List String) :
    c.resolveAll roots = (c.trail [] roots).toInquiry [] :=
  c.drain_eq_toInquiry [] roots []

theorem resolveDraft_eq (c : Catalog) (draft : Template) :
    c.resolveDraft draft = (c.trail [draft.name] draft.inherits).toInquiry [draft] := by
  rw [← drain_eq_toInquiry, resolveDraft, Walk.ofDraft, Walk.visit]
  simp [RuleSet.ofTemplates, RuleSet.add]

end Catalog

end GrantGate
