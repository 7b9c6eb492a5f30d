import GrantGate.Proofs.Run

namespace GrantGate

/-- The binding stands where the template may be bound. -/
def Binding.Suits (b : Binding) (t : Template) : Prop :=
  match t.reach with
  | .project => ∃ ns, b.inNamespace = some ns ∧ ns ≠ ""
  | .cluster => b.inNamespace = none ∨ b.inNamespace = some ""

theorem Binding.suits_iff {b : Binding} {t : Template} : b.Suits t ↔ t.reach = b.ownScope.reach := by
  unfold Suits ownScope
  cases hb : b.inNamespace with
  | none => cases t.reach <;> simp [Scope.ofNamespace?, Scope.reach]
  | some ns =>
    by_cases hns : ns = ""
    · have hempty : Scope.ofNamespace? (some "") = .cluster := rfl
      subst hns
      cases t.reach <;> simp [hempty, Scope.reach]
    · cases t.reach <;> simp [Scope.ofNamespace?, Scope.reach, hns]

instance (b : Binding) (t : Template) : Decidable (b.Suits t) :=
  decidable_of_iff (t.reach = b.ownScope.reach) Binding.suits_iff.symm

/-- The template that a review writes or takes away. -/
def Review.template? (r : Review) : Option Template :=
  match r.operation with
  | .create | .update => r.newTemplate?
  | .delete => r.goneTemplate?

namespace State

/-- What is stored under the name of the binding's template, if anything, may be bound there. -/
def WellPlaced (s : State) (b : Binding) : Prop := ∀ t ∈ s.templates.find? b.template, b.Suits t

instance (s : State) (b : Binding) : Decidable (s.WellPlaced b) :=
  inferInstanceAs (Decidable (∀ t ∈ s.templates.find? b.template, b.Suits t))

/-- The binding is stored, be it under another name: an update may change that and nothing else. -/
def Stores (s : State) (b : Binding) : Prop := ∃ b' ∈ s.bindings, { b' with name := b.name } = b

instance (s : State) (b : Binding) : Decidable (s.Stores b) :=
  inferInstanceAs (Decidable (∃ b' ∈ s.bindings, { b' with name := b.name } = b))

/-- The review is admitted and decides what is stored under the name, a template or none. -/
def Rewrites (name : String) (s : State) (kind : ReviewKind) (r : Review) : Prop :=
  s.Admits kind r ∧ kind = .templates ∧ ∃ t ∈ r.template?, t.name = name

instance (name : String) (s : State) (kind : ReviewKind) (r : Review) :
    Decidable (s.Rewrites name kind r) :=
  inferInstanceAs (Decidable ((s.validate kind r).result = .ok () ∧ kind = .templates ∧
    ∃ t ∈ r.template?, t.name = name))

/-- The review writes the template of a stored binding in a way that does not suit the binding. -/
def Displaces (b : Binding) (s : State) (kind : ReviewKind) (r : Review) : Prop :=
  s.Rewrites b.template kind r ∧ s.Stores b ∧ r.operation ≠ .delete ∧ ∃ t ∈ r.template?, ¬ b.Suits t

instance (b : Binding) (s : State) (kind : ReviewKind) (r : Review) :
    Decidable (s.Displaces b kind r) :=
  inferInstanceAs (Decidable (_ ∧ _ ∧ _ ∧ ∃ t ∈ r.template?, ¬ b.Suits t))

/-- No review of a run decides what is stored under the name. -/
def Spares (name : String) (s : State) (reviews : List (ReviewKind × Review)) : Prop :=
  Throughout (fun s kind r => ¬ s.Rewrites name kind r) s reviews

instance (name : String) (s : State) (reviews : List (ReviewKind × Review)) :
    Decidable (s.Spares name reviews) :=
  inferInstanceAs (Decidable (Throughout _ s reviews))

/-- The last review of a run that decides what is stored under the name of the binding's template
writes one there that does not suit the binding, which is stored at that moment. -/
def Displaced (b : Binding) : State → List (ReviewKind × Review) → Prop
  | _, [] => False
  | s, (kind, r) :: rest =>
    s.Displaces b kind r ∧ (s.enact kind r).Spares b.template rest ∨
      Displaced b (s.enact kind r) rest

instance decidableDisplaced (b : Binding) :
    (s : State) → (reviews : List (ReviewKind × Review)) → Decidable (s.Displaced b reviews)
  | _, [] => inferInstanceAs (Decidable False)
  | s, (kind, r) :: rest =>
    have := decidableDisplaced b (s.enact kind r) rest
    inferInstanceAs (Decidable (_ ∧ _ ∨ _))

variable {s s' : State} {kind : ReviewKind} {r : Review} {t : Template} {b : Binding}
  {name : String} {reviews : List (ReviewKind × Review)}

private theorem find?_enact_of_write (rewrites : s.Rewrites name kind r)
    (write : r.operation ≠ .delete)
    (reads : r.template? = some t) : (s.enact kind r).templates.find? name = some t := by
  obtain ⟨admitted, rfl, u, hu, hname⟩ := rewrites
  obtain rfl : t = u := Option.some.inj (reads.symm.trans hu)
  have henact : s.enact .templates r = s.write .templates r := by rw [enact, admitted]
  have hwrite : s.write .templates r = (s.insertTemplate t).2 := by
    cases hop : r.operation with
    | create =>
      have hnew : r.newTemplate? = some t := by simpa [Review.template?, hop] using reads
      simp [State.write, hop, hnew]
    | update =>
      have hnew : r.newTemplate? = some t := by simpa [Review.template?, hop] using reads
      simp [State.write, hop, hnew]
    | delete => exact absurd hop write
  rw [henact, hwrite, insertTemplate, Roster.find?_insert, if_pos hname]

private theorem find?_enact_of_delete (rewrites : s.Rewrites name kind r)
    (delete : r.operation = .delete) :
    (s.enact kind r).templates.find? name = none := by
  obtain ⟨admitted, rfl, t, reads, hname⟩ := rewrites
  have henact : s.enact .templates r = s.write .templates r := by rw [enact, admitted]
  have hwrite : s.write .templates r = (s.removeTemplate t.name).2 := by
    have hgone : r.goneTemplate? = some t := by simpa [Review.template?, delete] using reads
    simp [State.write, delete, hgone]
  rw [henact, hwrite, removeTemplate, Roster.find?_erase, if_pos hname]

theorem find?_enact_of_spared (spared : ¬ s.Rewrites name kind r) :
    (s.enact kind r).templates.find? name = s.templates.find? name := by
  unfold enact
  cases admitted : (s.validate kind r).result with
  | error e => rfl
  | ok =>
    have other (hkind : kind = .templates) {t : Template} (reads : r.template? = some t) :
        t.name ≠ name := by
      intro hname
      exact spared ⟨admitted, hkind, t, reads, hname⟩
    have step : Step s kind r (s.write kind r) := step_write admitted
    dsimp only
    generalize s.write kind r = s' at step
    cases step with
    | unchanged | createBinding | updateBinding | deleteBinding => rfl
    | createTemplate create reads | updateTemplate create reads =>
      have hother := other rfl (by simpa [Review.template?, create] using reads)
      rw [insertTemplate, Roster.find?_insert, if_neg hother]
    | deleteTemplate delete reads =>
      have hother := other rfl (by simpa [Review.template?, delete] using reads)
      rw [removeTemplate, Roster.find?_erase, if_neg hother]

private theorem wellPlaced_congr
    (h : s'.templates.find? b.template = s.templates.find? b.template) :
    s'.WellPlaced b ↔ s.WellPlaced b := by
  rw [WellPlaced, h, WellPlaced]

/-- The name of a binding does not matter to its place. -/
private theorem WellPlaced.of_same {b' : Binding} (hsame : { b' with name := b.name } = b)
    (placed : s.WellPlaced b') : s.WellPlaced b := by
  rw [← hsame]
  exact placed

/-- A review of templates leaves the bindings as they are. -/
private theorem bindings_enact (hkind : kind = .templates) :
    (s.enact kind r).bindings = s.bindings := by
  subst hkind
  have step : Step s .templates r (s.enact .templates r) := step_enact
  generalize s.enact .templates r = s' at step
  cases step <;> rfl

/-- A review that decides what is stored under the name of a stored binding's template puts the
binding out of place or else in its place. -/
theorem not_wellPlaced_enact_iff (rewrites : s.Rewrites b.template kind r) (stores : s.Stores b) :
    ¬ (s.enact kind r).WellPlaced b ↔ s.Displaces b kind r := by
  obtain ⟨-, -, t, reads, -⟩ := id rewrites
  have reads : r.template? = some t := reads
  by_cases delete : r.operation = .delete
  · simp [WellPlaced, find?_enact_of_delete rewrites delete, Displaces, delete]
  · simp [WellPlaced, find?_enact_of_write rewrites delete reads, Displaces, rewrites, stores,
      delete, reads]

/-- A binding that is stored after a review was so before, or it stands in its place. -/
theorem Step.stores (step : Step s kind r s') (known : s.Knows kind r) (h : s'.Stores b) :
    s.Stores b ∨ s'.WellPlaced b := by
  obtain ⟨b', hb', hsame⟩ := h
  cases step with
  | unchanged | createTemplate | updateTemplate | deleteTemplate => exact .inl ⟨b', hb', hsame⟩
  | @createBinding _ new t _ _ _ _ stored _ fits =>
    rcases List.mem_append.1 hb' with hb' | hb'
    · exact .inl ⟨b', hb', hsame⟩
    · obtain rfl := List.mem_singleton.1 hb'
      refine .inr (WellPlaced.of_same hsame fun u hu => Binding.suits_iff.2 ?_)
      have htu : some t = some u := stored.symm.trans hu
      obtain rfl := Option.some_inj.1 htu
      -- the binding is stored in the scope that its template has been compared with
      exact fits
  | @updateBinding _ new old update _ readsOld template grantee inNamespace =>
    rcases mem_of_mem_replace hb' with hb' | rfl
    · exact .inl ⟨b', hb', hsame⟩
    · have hold : { old with name := b.name } = b := by
        rw [← hsame]
        simp [template, grantee, inNamespace]
      exact .inl ⟨old, known update old readsOld, hold⟩
  | deleteBinding => exact .inl ⟨b', List.mem_of_mem_eraseP hb', hsame⟩

theorem wellPlaced_run_of_spares (spares : s.Spares b.template reviews) :
    (s.run reviews).WellPlaced b ↔ s.WellPlaced b := by
  induction reviews generalizing s with
  | nil => rfl
  | cons review rest ih =>
    obtain ⟨now, later⟩ := spares
    exact (ih later).trans (wellPlaced_congr (find?_enact_of_spared now))

theorem not_wellPlaced_of_displaced (displaced : s.Displaced b reviews) :
    ¬ (s.run reviews).WellPlaced b := by
  induction reviews generalizing s with
  | nil => exact displaced.elim
  | cons review rest ih =>
    rcases displaced with ⟨now, spares⟩ | later
    · have off : ¬ (s.enact review.1 review.2).WellPlaced b :=
        (not_wellPlaced_enact_iff now.1 now.2.1).2 now
      exact fun placed => off ((wellPlaced_run_of_spares spares).1 placed)
    · exact ih later

/-- Where a binding stands out of place after a run, it has done so all along, or the run has
displaced it. -/
theorem displaced_of_not_wellPlaced (known : Throughout Knows s reviews)
    (stores : (s.run reviews).Stores b) (off : ¬ (s.run reviews).WellPlaced b) :
    s.Stores b ∧ ¬ s.WellPlaced b ∧ s.Spares b.template reviews ∨ s.Displaced b reviews := by
  induction reviews generalizing s with
  | nil => exact .inl ⟨stores, off, trivial⟩
  | cons review rest ih =>
    obtain ⟨kind, r⟩ := review
    obtain ⟨now, later⟩ := known
    rcases ih later stores off with ⟨stores', off', spares⟩ | displaced
    · by_cases rewrites : s.Rewrites b.template kind r
      · have stores : s.Stores b := by rwa [Stores, bindings_enact rewrites.2.1] at stores'
        exact .inr (.inl ⟨(not_wellPlaced_enact_iff rewrites stores).1 off', spares⟩)
      · have stores : s.Stores b := (step_enact.stores now stores').resolve_right off'
        have off : ¬ s.WellPlaced b := mt (wellPlaced_congr (find?_enact_of_spared rewrites)).2 off'
        exact .inl ⟨stores, off, rewrites, spares⟩
    · exact .inr (.inr displaced)

/-- If all bindings stand in their places at first, then after a run of reviews each of them does
that the run has not displaced, and no other. -/
theorem wellPlaced_run_iff (placed : ∀ b ∈ s.bindings, s.WellPlaced b)
    (known : Throughout Knows s reviews) :
    ∀ b ∈ (s.run reviews).bindings, (s.run reviews).WellPlaced b ↔ ¬ s.Displaced b reviews := by
  intro b hb
  have at_first : s.Stores b → s.WellPlaced b := by
    rintro ⟨b', hb', hsame⟩
    exact (placed b' hb').of_same hsame
  constructor
  · intro placed displaced
    exact not_wellPlaced_of_displaced displaced placed
  · intro kept
    by_contra off
    rcases displaced_of_not_wellPlaced known ⟨b, hb, rfl⟩ off with ⟨stores, misplaced, -⟩ | displaced
    · exact misplaced (at_first stores)
    · exact kept displaced

/-- Alice's template goes and comes back for projects, which displaces her binding but not the one
of Carol that follows; Bob's goes to the cluster and back again. -/
theorem wellPlaced_run_iff_comings_and_goings :
    let viewer : Template := { name := "viewer" }
    let editor : Template := { name := "editor", reach := .project }
    let alice : Binding := ⟨"a", .user "alice", "viewer", none⟩
    let bob : Binding := ⟨"b", .user "bob", "editor", "team-a"⟩
    let carol : Binding := ⟨"c", .user "carol", "viewer", "team-a"⟩
    let s : State := { templates := .ofList [viewer, editor], bindings := [alice, bob] }
    let write (operation : Operation) (new old : Option Template) : ReviewKind × Review :=
      (.templates,
        { uid := "1", operation, user := { username := "dave" },
          object := new.map Template.toJson, oldObject := old.map Template.toJson })
    let bind : ReviewKind × Review :=
      (.bindings,
        { uid := "2", operation := .create, user := { username := "dave" },
          object := carol.toJson })
    let moved : Template := { editor with reach := .cluster }
    let reviews :=
      [write .delete none viewer, write .create (some { viewer with reach := .project }) none, bind,
        write .update moved editor, write .update editor moved]
    (∀ b ∈ s.bindings, s.WellPlaced b) ∧ Throughout Knows s reviews ∧
      (alice ∈ (s.run reviews).bindings ∧ s.Displaced alice reviews ∧
        ¬ (s.run reviews).WellPlaced alice) ∧
      ∀ b ∈ [bob, carol], b ∈ (s.run reviews).bindings ∧ ¬ s.Displaced b reviews ∧
        (s.run reviews).WellPlaced b := by
  intro viewer editor alice bob carol s write bind moved reviews
  have placed : ∀ b ∈ s.bindings, s.WellPlaced b := by decide +kernel
  have known : Throughout Knows s reviews := by decide +kernel
  have result := wellPlaced_run_iff placed known
  have left : alice ∈ (s.run reviews).bindings ∧ s.Displaced alice reviews := by decide +kernel
  have kept : ∀ b ∈ [bob, carol], b ∈ (s.run reviews).bindings ∧ ¬ s.Displaced b reviews := by
    decide +kernel
  refine ⟨placed, known, ⟨left.1, left.2, ?_⟩, fun b hb => ?_⟩
  · exact fun placed => (result alice left.1).1 placed left.2
  · obtain ⟨stored, undisplaced⟩ := kept b hb
    exact ⟨stored, undisplaced, (result b stored).2 undisplaced⟩

/-- A cluster-wide binding ends up with a project template, be it that the template is deleted and
created anew, or that it is updated. -/
theorem not_wellPlaced_run :
    let viewer : Template := { name := "viewer" }
    let moved : Template := { viewer with reach := .project }
    let alice : Binding := ⟨"a", .user "alice", "viewer", none⟩
    let s : State := { templates := .ofList [viewer], bindings := [alice] }
    let review (operation : Operation) (new old : Option Template) : ReviewKind × Review :=
      (.templates,
        { uid := "1", operation, user := { username := "bob" },
          object := new.map Template.toJson, oldObject := old.map Template.toJson })
    let recreated := [review .delete none viewer, review .create moved none]
    let updated := [review .update moved viewer]
    let allowed (s : State) (kind : ReviewKind) (r : Review) : Prop :=
      (s.validate kind r).result = .ok () ∧ s.Knows kind r ∧ s.Fresh kind r
    (∀ b ∈ s.bindings, s.WellPlaced b) ∧
      Throughout allowed s recreated ∧ alice ∈ (s.run recreated).bindings ∧
      ¬ (s.run recreated).WellPlaced alice ∧
      Throughout allowed s updated ∧ alice ∈ (s.run updated).bindings ∧
      ¬ (s.run updated).WellPlaced alice := by
  decide +kernel

end State

end GrantGate
