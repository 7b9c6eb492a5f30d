import GrantGate.Proofs.Wire.Record
import GrantGate.Wire.Formats

namespace GrantGate

open Wire Record

theorem Rule.reads (r : Rule) : Reads Rule.decode r.toJson r := by
  obtain ⟨verbs, groups, resources, names, urls⟩ := r
  refine Yields.reads ?_ (by simp) _ _
  refine .seq (.seq (.seq (.seq (.map ?_ Rule.mk) ?_) ?_) ?_) ?_
  all_goals exact yields_defaulted rfl (reads_texts _)

theorem Reach.reads (r : Reach) : Reads Reach.decode r.toJson r := by
  cases r with
  | cluster => exact reads_bare rfl rfl
  | project => exact reads_bare rfl rfl

theorem Template.reads (t : Template) : Reads Template.decode t.toJson t := by
  obtain ⟨name, displayName, reach, rules, inherits, locked, builtin⟩ := t
  refine Yields.reads ?_ (by simp) _ _
  refine .seq (.seq (.seq (.seq (.seq (.seq (.map ?_ Template.mk) ?_) ?_) ?_) ?_) ?_) ?_
  · exact yields_required rfl (reads_text name)
  · exact yields_defaulted rfl (reads_text displayName)
  · exact yields_defaulted rfl reach.reads
  · exact yields_defaulted rfl (reads_list Rule.reads rules)
  · exact yields_defaulted rfl (reads_texts inherits)
  · exact yields_defaulted rfl (reads_boolean locked)
  · exact yields_defaulted rfl (reads_boolean builtin)

/-- The facts of a subject may be read in another order than they were written in. -/
theorem Subject.reads (s : Subject) : Reads Subject.decode s.toJson s := by
  obtain ⟨username, groups, extra, uid⟩ := s
  refine Yields.reads ?_ (by simp) _ _
  refine .seq (.seq_of_same (.seq (.map (yields_required rfl (reads_text username)) _)
    (yields_defaulted rfl (reads_texts groups.items))) sound_defaulted fun ns hns => ?_)
    (yields_defaulted rfl (reads_text uid))
  obtain ⟨y, hy, hextra⟩ := @Json.SameMembers.exists_lookup "extra" _ ns _ hns rfl
  obtain ⟨facts, hread, hfacts⟩ := map_of_reordered reads_texts hextra
  refine ⟨facts, build_defaulted_ok_iff.2 (.inl ⟨y, hy, hread⟩), ?_⟩
  simp only [groups.ofList_items, hfacts]

theorem Scope.reads (s : Scope) : Reads Scope.decode s.toJson s := by
  cases s with
  | cluster => exact reads_bare rfl rfl
  | namespaced name => exact reads_wrapped rfl ((reads_text name).map Scope.namespaced)

theorem Access.reads (a : Access) : Reads Access.decode a.toJson a := by
  obtain ⟨verb, group, resource, name, inNamespace⟩ := a
  refine Yields.reads ?_ (by simp) _ _
  refine .seq (.seq (.seq (.seq (.map ?_ Access.mk) ?_) ?_) ?_) ?_
  · exact yields_required rfl (reads_text verb)
  · exact yields_required rfl (reads_text group)
  · exact yields_required rfl (reads_text resource)
  · exact yields_required rfl (reads_text name)
  · exact yields_defaulted rfl (reads_optional_text inNamespace)

theorem Grantee.reads (g : Grantee) : Reads Grantee.decode g.toJson g := by
  refine Yields.reads ?_ (by simp) _ _
  cases g with
  | user name =>
    refine .seq (.map (yields_required rfl (reads_bare rfl rfl)) _) ?_
    exact yields_deferred rfl (reads_text name)
  | group name =>
    refine .seq (.map (yields_required rfl (reads_bare rfl rfl)) _) ?_
    exact yields_deferred rfl (reads_text name)

theorem Binding.reads (b : Binding) : Reads Binding.decode b.toJson b := by
  obtain ⟨name, grantee, template, inNamespace⟩ := b
  refine Yields.reads ?_ (by simp) _ _
  refine .seq (.seq (.seq (.map ?_ Binding.mk) ?_) ?_) ?_
  · exact yields_required rfl (reads_text name)
  · exact yields_required rfl grantee.reads
  · exact yields_required rfl (reads_text template)
  · exact yields_defaulted rfl (reads_optional_text inNamespace)

theorem Snapshot.reads (s : Snapshot) : Reads Snapshot.decode s.toJson s := by
  obtain ⟨templates, bindings⟩ := s
  refine Yields.reads ?_ (by simp) _ _
  refine .seq (.map ?_ Snapshot.mk) ?_
  · exact yields_defaulted rfl (reads_list Template.reads templates)
  · exact yields_defaulted rfl (reads_list Binding.reads bindings)

theorem Response.reads (r : Response) : Reads Response.decode r.toJson r := by
  obtain ⟨uid, allowed, message, code⟩ := r
  refine Yields.reads ?_ (by cases message <;> simp) _ _
  refine .seq (.seq (.seq (.map ?_ Response.mk) ?_) ?_) ?_
  · exact yields_required rfl (reads_text uid)
  · exact yields_required rfl (reads_boolean allowed)
  · cases message with
    | none => exact yields_default rfl
    | some m => exact yields_defaulted rfl (reads_optional_text (some m))
  · exact yields_required (by cases message <;> rfl) (reads_shortNumber code)

theorem ErrorBody.reads (e : ErrorBody) : Reads ErrorBody.decode e.toJson e := by
  obtain ⟨code, message, requestId⟩ := e
  refine Yields.reads ?_ (by cases requestId <;> simp) _ _
  refine .seq (.seq (.map ?_ ErrorBody.mk) ?_) ?_
  · exact yields_required rfl (reads_text code)
  · exact yields_required rfl (reads_text message)
  · cases requestId with
    | none => exact yields_default rfl
    | some id => exact yields_defaulted rfl (reads_optional_text (some id))

theorem Operation.reads (o : Operation) : Reads Operation.decode o.toJson o := by
  cases o with
  | create => exact reads_bare rfl rfl
  | update => exact reads_bare rfl rfl
  | delete => exact reads_bare rfl rfl

namespace Review

/-- An object as it is read, where `null` stands for none. -/
def objectOf : Json → Option Json
  | .null => none
  | j => some j

private theorem optional_json (j : Json) : optional json j = .ok (objectOf j) := by
  cases j <;> rfl

private theorem objectOf_ne_null (j : Json) : objectOf j ≠ some .null := by
  cases j <;> simp [objectOf]

private theorem objectOf_getD {object : Option Json} (h : object ≠ some .null) :
    objectOf (object.getD .null) = object := by
  cases object with
  | none => rfl
  | some j => cases j <;> simp_all [objectOf]

private theorem objectOf_reordered {object : Option Json} (h : object ≠ some .null) {j : Json}
    (hj : (object.getD .null).Reordered j) : Option.Rel Json.Reordered object (objectOf j) := by
  cases object with
  | none =>
    cases hj
    exact .none
  | some o =>
    have hne : objectOf j = some j := by
      cases hj with
      | refl => exact objectOf_getD h
      | items => rfl
      | members => rfl
    rw [hne]
    exact .some hj

/-- What a review is read as: itself, up to what stands for its objects. -/
private theorem decode_members {r : Review} {ms ns : List (String × Json)} {x y : Json}
    (hms : r.toJson = .members ms) (hns : Json.SameMembers ms ns)
    (hx : ns.lookup "object" = some x) (hy : ns.lookup "old_object" = some y) :
    decode (Json.members ns) =
      .ok { r with object := objectOf x, oldObject := objectOf y } := by
  have first : (Review.mk <$> required "uid" text
      <*> required "operation" Operation.decode
      <*> required "user" Subject.decode
      <*> defaulted "namespace" none (optional text)).Yields ms
        (.mk r.uid r.operation r.user r.inNamespace) := by
    obtain rfl := Json.members.inj hms
    refine .seq (.seq (.seq (.map ?_ Review.mk) ?_) ?_) ?_
    · exact yields_required rfl (reads_text r.uid)
    · exact yields_required rfl r.operation.reads
    · exact yields_required rfl r.user.reads
    · exact yields_defaulted rfl (reads_optional_text r.inNamespace)
  have object : (defaulted "object" none (optional json)).build (ns.lookup ·) = .ok (objectOf x) :=
    build_defaulted_ok_iff.2 (.inl ⟨x, hx, optional_json x⟩)
  have oldObject : (defaulted "old_object" none (optional json)).build (ns.lookup ·) =
      .ok (objectOf y) := build_defaulted_ok_iff.2 (.inl ⟨y, hy, optional_json y⟩)
  rw [decode, Record.decode]
  apply decodeAs_of_build ((first.sound.seq sound_defaulted).seq sound_defaulted) hns.distinct
  have withObject := build_seq_ok_iff.2 ⟨_, _, first.build ns hns, object, rfl⟩
  exact build_seq_ok_iff.2 ⟨_, _, withObject, oldObject, rfl⟩

theorem decode_toJson {r : Review} (object : r.object ≠ some .null)
    (oldObject : r.oldObject ≠ some .null) : decode r.toJson = .ok r := by
  have read := @decode_members r _ _ _ _ rfl (.refl (by simp)) rfl rfl
  rw [objectOf_getD object, objectOf_getD oldObject] at read
  exact read

theorem decode_of_reordered {r : Review} (hobject : r.object ≠ some .null)
    (holdObject : r.oldObject ≠ some .null) {j : Json} (hj : r.toJson.Reordered j) :
    ∃ object oldObject, decode j = .ok { r with object, oldObject } ∧
      Option.Rel Json.Reordered r.object object ∧
      Option.Rel Json.Reordered r.oldObject oldObject := by
  obtain ⟨ns, rfl, hns⟩ := hj.exists_members (by simp)
  obtain ⟨x, hx, hobj⟩ := @Json.SameMembers.exists_lookup "object" _ ns _ hns rfl
  obtain ⟨y, hy, hold⟩ := @Json.SameMembers.exists_lookup "old_object" _ ns _ hns rfl
  exact ⟨objectOf x, objectOf y, decode_members rfl hns hx hy, objectOf_reordered hobject hobj,
    objectOf_reordered holdObject hold⟩

/-- A review that has been read has no `null` for an object. -/
theorem objects_of_decode {j : Json} {r : Review} (h : decode j = .ok r) :
    r.object ≠ some .null ∧ r.oldObject ≠ some .null := by
  have absent {name : String} {get : String → Option Json} {object : Option Json}
      (h : (defaulted name none (optional json)).build get = .ok object) :
      object ≠ some .null := by
    rcases build_defaulted_ok_iff.1 h with ⟨s, -, hs⟩ | ⟨-, rfl⟩
    · rw [optional_json] at hs
      exact Except.ok.inj hs ▸ objectOf_ne_null s
    · simp
  obtain ⟨get, hget⟩ := exists_build_of_decodeAs h
  obtain ⟨_, oldObject, hobjects, hold, rfl⟩ := build_seq_ok_iff.1 hget
  obtain ⟨_, object, hspace, hobject, rfl⟩ := build_seq_ok_iff.1 hobjects
  obtain ⟨_, inNamespace, huser, -, rfl⟩ := build_seq_ok_iff.1 hspace
  obtain ⟨_, user, hoperation, -, rfl⟩ := build_seq_ok_iff.1 huser
  obtain ⟨_, operation, huid, -, rfl⟩ := build_seq_ok_iff.1 hoperation
  obtain ⟨uid, -, rfl⟩ := build_map_ok_iff.1 huid
  exact ⟨absent hobject, absent hold⟩

end Review

/-- What a value is written as is read as this value, in whatever order its members stand; so
whatever has been read is not changed by writing and reading it again. -/
structure RoundTrips {α : Type} (write : α → Json) (read : Decoder Json α) : Prop where
  written : ∀ x, read (write x) = .ok x
  reordered : ∀ x j, (write x).Reordered j → read j = .ok x
  again : ∀ v x, read v = .ok x → read (write x) = .ok x

theorem roundTrips_of_reads {α : Type} {write : α → Json} {read : Decoder Json α}
    (h : ∀ x, Reads read (write x) x) : RoundTrips write read where
  written x := h x (write x) (.refl _)
  reordered := h
  again _ x _ := h x (write x) (.refl _)

/-- What comes back of the values of each type. A review whose object is `null` is the one value
that does not come back, since it is written as one without an object; but none is ever read. The
objects of a review stand in it as JSON, so that reordering a review may reorder them as well. -/
structure ValuesReadAsWritten : Prop where
  rule : RoundTrips Rule.toJson Rule.decode
  template : RoundTrips Template.toJson Template.decode
  subject : RoundTrips Subject.toJson Subject.decode
  scope : RoundTrips Scope.toJson Scope.decode
  access : RoundTrips Access.toJson Access.decode
  grantee : RoundTrips Grantee.toJson Grantee.decode
  binding : RoundTrips Binding.toJson Binding.decode
  snapshot : RoundTrips Snapshot.toJson Snapshot.decode
  response : RoundTrips Response.toJson Response.decode
  errorBody : RoundTrips ErrorBody.toJson ErrorBody.decode
  review : ∀ r : Review, r.object ≠ some .null → r.oldObject ≠ some .null →
    Review.decode r.toJson = .ok r
  reviewReordered : ∀ r : Review, r.object ≠ some .null → r.oldObject ≠ some .null →
    ∀ j, r.toJson.Reordered j → ∃ object oldObject,
      Review.decode j = .ok { r with object, oldObject } ∧
      Option.Rel Json.Reordered r.object object ∧
      Option.Rel Json.Reordered r.oldObject oldObject
  reviewAgain : ∀ (v : Json) (r : Review), Review.decode v = .ok r → Review.decode r.toJson = .ok r

/-- Every type of value comes back as it was written. -/
theorem values_read_as_written : ValuesReadAsWritten where
  rule := roundTrips_of_reads Rule.reads
  template := roundTrips_of_reads Template.reads
  subject := roundTrips_of_reads Subject.reads
  scope := roundTrips_of_reads Scope.reads
  access := roundTrips_of_reads Access.reads
  grantee := roundTrips_of_reads Grantee.reads
  binding := roundTrips_of_reads Binding.reads
  snapshot := roundTrips_of_reads Snapshot.reads
  response := roundTrips_of_reads Response.reads
  errorBody := roundTrips_of_reads ErrorBody.reads
  review _ object oldObject := Review.decode_toJson object oldObject
  reviewReordered _ object oldObject _ hj := Review.decode_of_reordered object oldObject hj
  reviewAgain v r hr := by
    obtain ⟨object, oldObject⟩ := Review.objects_of_decode hr
    exact Review.decode_toJson object oldObject

/-- A deletion, which has no new object. -/
theorem values_read_as_written_deletion :
    let r : Review :=
      { uid := "1", operation := .delete, user := { username := "carol" },
        oldObject := some (.members [("name", .null)]) }
    Review.decode r.toJson = .ok r := by
  intro r
  exact values_read_as_written.review r (by simp [r]) (by simp [r])

end GrantGate
