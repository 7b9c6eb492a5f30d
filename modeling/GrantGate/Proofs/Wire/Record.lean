import GrantGate.Proofs.Wire.Reading
import GrantGate.Wire.Record

namespace GrantGate.Wire.Record

section Build

variable {τ α β : Type} {name : String} {decode : Decoder τ α} {get get' : String → Option τ}

private theorem demand_ok_iff {a : α} :
    demand name decode get = .ok a ↔ ∃ s, get name = some s ∧ decode s = .ok a := by
  unfold demand
  cases get name with
  | none => simp [fail]
  | some s => simp [within_ok_iff]

theorem build_defaulted_ok_iff {default a : α} : (defaulted name default decode).build get = .ok a ↔
    (∃ s, get name = some s ∧ decode s = .ok a) ∨ get name = none ∧ default = a := by
  simp only [defaulted]
  cases get name with
  | none => simp
  | some s => simp [within_ok_iff]

theorem build_map_ok_iff {f : α → β} {r : Record τ α} {b : β} :
    (f <$> r).build get = .ok b ↔ ∃ a, r.build get = .ok a ∧ f a = b := by
  change (r.build get).map f = .ok b ↔ _
  cases r.build get <;> simp [Except.map]

theorem build_seq_ok_iff {f : Record τ (α → β)} {r : Record τ α} {b : β} :
    (f <*> r).build get = .ok b ↔ ∃ g a, f.build get = .ok g ∧ r.build get = .ok a ∧ g a = b := by
  change (do let g ← f.build get; let a ← r.build get; return g a) = .ok b ↔ _
  simp [bind_ok_iff, pure, Except.pure]

/-- A record is built from what stands under the names of its fields, and from nothing that a field
refuses. -/
structure Sound (r : Record τ α) : Prop where
  congr : ∀ get get' : String → Option τ, (∀ f ∈ r.fields, get f.name = get' f.name) →
    r.build get = r.build get'
  checked : ∀ get a, r.build get = .ok a → ∀ f ∈ r.fields, ∀ s, get f.name = some s →
    f.check s = .ok ()

private theorem sound_demand {waits : Bool} :
    Sound ⟨[⟨name, true, waits, fun s => (decode s).map fun _ => ()⟩], demand name decode⟩ where
  congr get get' h := by
    have hname : get name = get' name := h _ (List.mem_singleton.2 rfl)
    simp only [demand, hname]
  checked get a h f hf s hs := by
    obtain rfl := List.mem_singleton.1 hf
    obtain ⟨s', hs', ha⟩ := demand_ok_iff.1 h
    obtain rfl : s' = s := Option.some.inj (hs'.symm.trans hs)
    simp [ha, Except.map]

theorem sound_required : (required name decode).Sound := sound_demand

theorem sound_deferred : (deferred name decode).Sound := sound_demand

theorem sound_defaulted {default : α} : (defaulted name default decode).Sound where
  congr get get' h := by
    have hname : get name = get' name := h _ (List.mem_singleton.2 rfl)
    simp only [defaulted, hname]
  checked get a h f hf s hs := by
    obtain rfl := List.mem_singleton.1 hf
    rcases build_defaulted_ok_iff.1 h with ⟨s', hs', ha⟩ | ⟨hnone, -⟩
    · obtain rfl : s' = s := Option.some.inj (hs'.symm.trans hs)
      simp [ha, Except.map]
    · rw [hnone] at hs
      cases hs

theorem Sound.map {r : Record τ α} (h : r.Sound) (f : α → β) : (f <$> r).Sound where
  congr get get' heq := by
    change (r.build get).map f = (r.build get').map f
    rw [h.congr get get' heq]
  checked get b hb := by
    obtain ⟨a, ha, -⟩ := build_map_ok_iff.1 hb
    exact h.checked get a ha

theorem Sound.seq {f : Record τ (α → β)} {r : Record τ α} (hf : f.Sound) (hr : r.Sound) :
    (f <*> r).Sound where
  congr get get' heq := by
    have first : f.build get = f.build get' :=
      hf.congr get get' fun field h => heq field (List.mem_append_left _ h)
    have second : r.build get = r.build get' :=
      hr.congr get get' fun field h => heq field (List.mem_append_right _ h)
    change (do let g ← f.build get; let a ← r.build get; return g a) =
      (do let g ← f.build get'; let a ← r.build get'; return g a)
    rw [first, second]
  checked get b hb field hfield := by
    obtain ⟨g, a, hg, ha, -⟩ := build_seq_ok_iff.1 hb
    rcases List.mem_append.1 hfield with h | h
    · exact hf.checked get g hg field h
    · exact hr.checked get a ha field h

/-- Whatever a record is read from, it has been built. -/
theorem exists_build_of_decodeAs [Source τ] {r : Record τ α} {what counted : String} {s : τ} {a : α}
    (h : r.decodeAs what counted s = .ok a) : ∃ get, r.build get = .ok a := by
  have mismatched (v : View τ) : mismatch v what ≠ Except.ok a := by
    unfold mismatch
    split
    · simp [fail]
    · simp [fail]
  unfold decodeAs at h
  split at h
  case h_1 ms closed _ =>
    obtain ⟨kept, -, hkept⟩ := bind_ok_iff.1 h
    cases closed with
    | true => exact ⟨_, hkept⟩
    | false => cases hkept
  case h_2 xs closed _ =>
    split at h
    · obtain ⟨kept, -, hkept⟩ := bind_ok_iff.1 h
      exact ⟨_, hkept⟩
    · exact absurd h (mismatched _)
  case h_3 t _ =>
    split at h
    · exact ⟨_, h⟩
    · exact absurd h (mismatched _)
  case h_4 => exact absurd h (mismatched _)

end Build

section Members

variable {α β : Type}

/-- Of members of distinct names the known ones are kept, each under its own. -/
private theorem scanMembers_of_distinct {fields : List (Field Json)}
    {kept ns : List (String × Json)}
    (distinct : ((kept ++ ns).map Prod.fst).Nodup)
    (checked : ∀ f ∈ fields, ∀ y, (f.name, y) ∈ ns → f.check y = .ok ()) :
    ∃ all, scanMembers fields kept (ns.map fun (name, y) => (some name, y)) = .ok all ∧
      ∀ f ∈ fields, all.lookup f.name = (kept ++ ns).lookup f.name := by
  induction ns generalizing kept with
  | nil => exact ⟨kept, rfl, by simp⟩
  | cons n ns ih =>
    obtain ⟨name, y⟩ := n
    have later : ∀ f ∈ fields, ∀ y, (f.name, y) ∈ ns → f.check y = .ok () :=
      fun f hf y hy => checked f hf y (List.mem_cons_of_mem _ hy)
    cases hfind : fields.find? fun f => f.name == name with
    | none =>
      have distinct' : ((kept ++ ns).map Prod.fst).Nodup :=
        distinct.sublist (((List.sublist_cons_self _ _).append_left kept).map Prod.fst)
      obtain ⟨all, hall, hlookup⟩ := ih distinct' later
      refine ⟨all, ?_, fun f hf => ?_⟩
      · simpa [scanMembers, hfind, Source.skippable] using hall
      · have hne : f.name ≠ name := by simpa using List.find?_eq_none.1 hfind f hf
        have hskip : ((name, y) :: ns).lookup f.name = ns.lookup f.name := by
          rw [List.lookup_cons, beq_false_of_ne hne]
        rw [hlookup f hf, List.lookup_append, List.lookup_append, hskip]
    | some f =>
      have hf : f ∈ fields := List.mem_of_find?_eq_some hfind
      obtain rfl : f.name = name := by simpa using List.find?_some hfind
      have hcheck : f.check y = .ok () := checked f hf y (List.mem_cons_self ..)
      have hfresh : kept.lookup f.name = none := Json.lookup_eq_none_of_nodup distinct
      have hsplit : kept ++ (f.name, y) :: ns = (kept ++ [(f.name, y)]) ++ ns := by simp
      rw [hsplit] at distinct ⊢
      obtain ⟨all, hall, hlookup⟩ := ih distinct later
      refine ⟨all, ?_, hlookup⟩
      by_cases hwait : f.deferred && !isRipe fields kept
      · simpa [scanMembers, hfind, hfresh, hwait, Source.skippable, Source.settle] using hall
      · simpa [scanMembers, hfind, hfresh, hwait, hcheck, bind, Except.bind] using hall

theorem decodeAs_of_build {r : Record Json α} (sound : r.Sound) {ns : List (String × Json)}
    (distinct : (ns.map Prod.fst).Nodup) {a : α} (h : r.build (ns.lookup ·) = .ok a)
    (what counted : String) : r.decodeAs what counted (.members ns) = .ok a := by
  obtain ⟨kept, hkept, hlookup⟩ := @scanMembers_of_distinct r.fields [] ns distinct
    fun f hf y hy => sound.checked _ a h f hf y (Json.lookup_of_mem distinct hy)
  simp only [decodeAs, Source.view, hkept, bind, Except.bind, Bool.not_true, Bool.false_eq_true,
    if_false]
  rw [← h]
  exact sound.congr _ _ hlookup

/-- The record is built as `a` from an object of these members, in whatever order they, and those of
the objects within, stand. -/
structure Yields (r : Record Json α) (ms : List (String × Json)) (a : α) : Prop where
  sound : r.Sound
  build : ∀ ns, Json.SameMembers ms ns → r.build (ns.lookup ·) = .ok a

section Fields

variable {name : String} {decode : Decoder Json α} {ms : List (String × Json)} {x : Json} {a : α}

theorem yields_required (hx : ms.lookup name = some x) (h : Reads decode x a) :
    (required name decode).Yields ms a where
  sound := sound_required
  build ns hns := by
    obtain ⟨y, hy, hxy⟩ := hns.exists_lookup hx
    change demand name decode (ns.lookup ·) = .ok a
    exact demand_ok_iff.2 ⟨y, hy, h y hxy⟩

theorem yields_deferred (hx : ms.lookup name = some x) (h : Reads decode x a) :
    (deferred name decode).Yields ms a where
  sound := sound_deferred
  build := (yields_required hx h).build

theorem yields_defaulted {default : α} (hx : ms.lookup name = some x) (h : Reads decode x a) :
    (defaulted name default decode).Yields ms a where
  sound := sound_defaulted
  build ns hns := by
    obtain ⟨y, hy, hxy⟩ := hns.exists_lookup hx
    exact build_defaulted_ok_iff.2 (.inl ⟨y, hy, h y hxy⟩)

theorem yields_default {default : α} (hx : ms.lookup name = none) :
    (defaulted name default decode).Yields ms default where
  sound := sound_defaulted
  build _ hns := build_defaulted_ok_iff.2 (.inr ⟨hns.lookup_eq_none hx, rfl⟩)

end Fields

namespace Yields

variable {ms : List (String × Json)}

theorem map {r : Record Json α} {a : α} (h : r.Yields ms a) (f : α → β) :
    (f <$> r).Yields ms (f a) where
  sound := h.sound.map f
  build ns hns := build_map_ok_iff.2 ⟨a, h.build ns hns, rfl⟩

theorem seq {f : Record Json (α → β)} {r : Record Json α} {g : α → β} {a : α} (hf : f.Yields ms g)
    (hr : r.Yields ms a) : (f <*> r).Yields ms (g a) where
  sound := hf.sound.seq hr.sound
  build ns hns := build_seq_ok_iff.2 ⟨g, a, hf.build ns hns, hr.build ns hns, rfl⟩

/-- What a field is read as may depend on the order, as long as what is made of it does not. -/
theorem seq_of_same {f : Record Json (α → β)} {r : Record Json α} {g : α → β} {b : β}
    (hf : f.Yields ms g) (sound : r.Sound)
    (same : ∀ ns, Json.SameMembers ms ns → ∃ a, r.build (ns.lookup ·) = .ok a ∧ g a = b) :
    (f <*> r).Yields ms b where
  sound := hf.sound.seq sound
  build ns hns := by
    obtain ⟨a, ha, hb⟩ := same ns hns
    exact build_seq_ok_iff.2 ⟨g, a, hf.build ns hns, ha, hb⟩

theorem reads {r : Record Json α} {a : α} (h : r.Yields ms a) (distinct : (ms.map Prod.fst).Nodup)
    (what counted : String) : Reads (r.decodeAs what counted) (.members ms) a := by
  intro j' hj'
  obtain ⟨ns, rfl, hns⟩ := hj'.exists_members distinct
  exact decodeAs_of_build h.sound hns.distinct (h.build ns hns) what counted

end Yields

end Members

end GrantGate.Wire.Record
