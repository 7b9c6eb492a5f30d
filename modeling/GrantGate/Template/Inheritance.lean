import GrantGate.Template.Catalog

namespace GrantGate

/-- The rules of the visited templates, in the order of visits, with the templates' names. -/
structure RuleSet where
  rules : List Rule := []
  templates : List String := []
  deriving DecidableEq, Repr

namespace RuleSet

def add (set : RuleSet) (t : Template) : RuleSet :=
  ⟨set.rules ++ t.rules, set.templates ++ [t.name]⟩

/-- Whether two sets hold the same rules, whatever their order and repetitions. -/
def sameRules (a b : RuleSet) : Bool := a.rules.all b.rules.contains && b.rules.all a.rules.contains

end RuleSet

/-- Where a walk over templates and what they inherit from stands. -/
structure Walk where
  /-- Names that have been queued or visited. -/
  seen : List String := []
  queue : List String := []
  resolved : RuleSet := {}

namespace Walk

def enqueue (w : Walk) (name : String) : Walk :=
  if w.seen.contains name then w
  else { w with seen := name :: w.seen, queue := w.queue ++ [name] }

/-- Takes a template's rules, and puts what it inherits from at the end of the queue. -/
def visit (w : Walk) (t : Template) : Walk :=
  t.inherits.foldl enqueue { w with seen := w.seen.insert t.name, resolved := w.resolved.add t }

def ofRoots (roots : List String) : Walk := roots.foldl enqueue {}

/-- The walk of a template as given, which stands in for a stored one of its name. -/
def ofDraft (draft : Template) : Walk := visit {} draft

/-- How many of the names the walk may still visit: those in the queue and those not seen. -/
def ahead (w : Walk) (names : List String) : Nat :=
  names.countP (!w.seen.contains ·) + w.queue.countP names.contains

variable {w : Walk} {names : List String} {name : String} {rest : List String}

theorem countP_unseen_cons {seen : List String} (fresh : name ∉ seen) :
    names.countP (!(name :: seen).contains ·) + [name].countP names.contains ≤
      names.countP (!seen.contains ·) := by
  have fewer (names : List String) :
      names.countP (!(name :: seen).contains ·) ≤ names.countP (!seen.contains ·) :=
    List.countP_mono_left fun n _ h => by simp_all
  induction names with
  | nil => simp
  | cons n names ih =>
    by_cases same : name = n
    · subst same
      have unseen : (name :: names).countP (!seen.contains ·) =
          names.countP (!seen.contains ·) + 1 := List.countP_cons_of_pos (by simpa using fresh)
      have seen_now : (name :: names).countP (!(name :: seen).contains ·) =
          names.countP (!(name :: seen).contains ·) := List.countP_cons_of_neg (by simp)
      have one : [name].countP (name :: names).contains ≤ 1 := List.countP_le_length
      have hfewer := fewer names
      omega
    · have hn : (name :: seen).contains n = seen.contains n := by simp [Ne.symm same]
      have hname : (n :: names).contains name = names.contains name := by simp [same]
      simp only [List.countP_cons, List.countP_nil, hn, hname] at ih ⊢
      omega

theorem ahead_enqueue_le : (w.enqueue name).ahead names ≤ w.ahead names := by
  unfold enqueue
  split
  case isTrue => exact Nat.le_refl _
  case isFalse h =>
    have fewer : names.countP (!(name :: w.seen).contains ·) + [name].countP names.contains ≤
        names.countP (!w.seen.contains ·) := countP_unseen_cons (by simpa using h)
    simp only [ahead, List.countP_append]
    omega

theorem ahead_foldl_enqueue_le {queued : List String} :
    (queued.foldl enqueue w).ahead names ≤ w.ahead names := by
  induction queued generalizing w with
  | nil => exact Nat.le_refl _
  | cons name queued ih => exact Nat.le_trans ih ahead_enqueue_le

theorem ahead_visit_lt {t : Template} (next : w.queue = name :: rest) (stored : name ∈ names) :
    ({ w with queue := rest }.visit t).ahead names < w.ahead names := by
  have seen_more : names.countP (!(w.seen.insert t.name).contains ·) ≤
      names.countP (!w.seen.contains ·) :=
    List.countP_mono_left fun n _ h => by simp_all
  have queued : names.contains name = true := by simpa using stored
  refine Nat.lt_of_le_of_lt ahead_foldl_enqueue_le ?_
  simp only [ahead, next, List.countP_cons, queued, if_true]
  omega

end Walk

namespace Catalog

/-- Looks up the next name in the queue and visits its template, until the queue is empty or a
look-up fails. -/
def drain (c : Catalog) (w : Walk) : Inquiry Refusal RuleSet :=
  match _next : w.queue with
  | [] => pure w.resolved
  | name :: rest => do
    let t ← (c.get name).attach
    c.drain ({ w with queue := rest }.visit t.1)
termination_by w.ahead c.templates.names
decreasing_by
  have found : c.lookup name = .ok t.1 := t.2
  exact Walk.ahead_visit_lt _next (name_of_lookup found ▸ List.mem_map_of_mem (mem_of_lookup found))

theorem drain_of_nil {c : Catalog} {w : Walk} (h : w.queue = []) : c.drain w = pure w.resolved := by
  rw [drain]
  split
  · rfl
  · simp_all

theorem drain_of_cons {c : Catalog} {w : Walk} {name : String} {rest : List String}
    (h : w.queue = name :: rest) : c.drain w =
      c.get name >>= fun t => c.drain ({ w with queue := rest }.visit t) := by
  rw [drain]
  split
  · simp_all
  · rename_i name' rest' h'
    obtain ⟨rfl, rfl⟩ : name' = name ∧ rest' = rest := by simpa [h'] using h
    exact Inquiry.attach_bind (c.get name') fun t => c.drain ({ w with queue := rest' }.visit t)

def resolveAll (c : Catalog) (roots : List String) : Inquiry Refusal RuleSet :=
  c.drain (.ofRoots roots)

def resolve (c : Catalog) (name : String) : Inquiry Refusal RuleSet := c.resolveAll [name]

def resolveDraft (c : Catalog) (draft : Template) : Inquiry Refusal RuleSet :=
  c.drain (.ofDraft draft)

end Catalog

end GrantGate
