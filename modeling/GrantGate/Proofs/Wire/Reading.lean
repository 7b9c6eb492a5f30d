import GrantGate.Proofs.Roster
import GrantGate.Wire.Source
import Mathlib.Data.List.Forall2
import Mathlib.Data.List.Nodup

namespace GrantGate

/-- The same value with the members of its objects in any order: an object answers to the same names
with the same, and holds each of them once. -/
inductive Json.Reordered : Json → Json → Prop
  | refl (j : Json) : Reordered j j
  | items {xs ys : List Json} (h : List.Forall₂ Reordered xs ys) :
      Reordered (.items xs) (.items ys)
  | members {ms ns : List (String × Json)} (distinct : (ns.map Prod.fst).Nodup)
      (lookup : ∀ name, Option.Rel Reordered (ms.lookup name) (ns.lookup name)) :
      Reordered (.members ms) (.members ns)

/-- Members of one name at most, which answer to the same names with the same. -/
structure Json.SameMembers (ms ns : List (String × Json)) : Prop where
  distinct : (ns.map Prod.fst).Nodup
  lookup : ∀ name, Option.Rel Json.Reordered (ms.lookup name) (ns.lookup name)

namespace Json

variable {α : Type} {name : String}

theorem mem_of_lookup {ms : List (String × α)} {x : α} (h : ms.lookup name = some x) :
    (name, x) ∈ ms := by
  obtain ⟨before, after, rfl, -⟩ := List.lookup_eq_some_iff.1 h
  simp

/-- Of distinct names none occurs earlier. -/
theorem lookup_eq_none_of_nodup {before after : List (String × α)} {x : α}
    (distinct : ((before ++ (name, x) :: after).map Prod.fst).Nodup) :
    before.lookup name = none := by
  rw [List.map_append, List.map_cons, List.nodup_append] at distinct
  refine List.lookup_eq_none_iff.2 fun m hm => ?_
  have differ := distinct.2.2 m.1 (List.mem_map_of_mem hm) name (List.mem_cons_self ..)
  simpa using differ.symm

theorem lookup_of_mem {ms : List (String × α)} (distinct : (ms.map Prod.fst).Nodup) {x : α}
    (h : (name, x) ∈ ms) : ms.lookup name = some x := by
  obtain ⟨before, after, rfl⟩ := List.append_of_mem h
  have earlier := List.lookup_eq_none_iff.1 (lookup_eq_none_of_nodup distinct)
  exact List.lookup_eq_some_iff.2 ⟨before, after, rfl, earlier⟩

theorem SameMembers.refl {ms : List (String × Json)} (distinct : (ms.map Prod.fst).Nodup) :
    SameMembers ms ms := by
  refine ⟨distinct, fun name => ?_⟩
  cases ms.lookup name with
  | none => exact .none
  | some x => exact .some (.refl x)

namespace Reordered

variable {j : Json}

private theorem exists_items {xs : List Json} (h : (Json.items xs).Reordered j) :
    ∃ ys, j = .items ys ∧ List.Forall₂ Reordered xs ys := by
  cases h with
  | refl => exact ⟨xs, rfl, List.forall₂_same.2 fun x _ => .refl x⟩
  | items h => exact ⟨_, rfl, h⟩

theorem exists_members {ms : List (String × Json)} (distinct : (ms.map Prod.fst).Nodup)
    (h : (Json.members ms).Reordered j) : ∃ ns, j = .members ns ∧ SameMembers ms ns := by
  cases h with
  | refl => exact ⟨ms, rfl, .refl distinct⟩
  | members distinct lookup => exact ⟨_, rfl, distinct, lookup⟩

end Reordered

namespace SameMembers

variable {ms ns : List (String × Json)} {x : Json}

theorem exists_lookup (h : SameMembers ms ns) (hx : ms.lookup name = some x) :
    ∃ y, ns.lookup name = some y ∧ x.Reordered y := by
  have hrel := h.lookup name
  rw [hx] at hrel
  generalize ns.lookup name = found at hrel
  cases hrel with
  | some hxy => exact ⟨_, rfl, hxy⟩

theorem lookup_eq_none (h : SameMembers ms ns) (hx : ms.lookup name = none) :
    ns.lookup name = none := by
  have hrel := h.lookup name
  rw [hx] at hrel
  generalize ns.lookup name = found at hrel
  cases hrel
  rfl

/-- Whatever stands in the one object stands in the other. -/
private theorem exists_mem (h : SameMembers ms ns) {y : Json} (hy : (name, y) ∈ ns) :
    ∃ x, (name, x) ∈ ms ∧ x.Reordered y := by
  cases hx : ms.lookup name with
  | none =>
    have absent := h.lookup_eq_none hx
    rw [lookup_of_mem h.distinct hy] at absent
    cases absent
  | some x =>
    obtain ⟨y', hy', hxy⟩ := h.exists_lookup hx
    obtain rfl : y = y' := Option.some.inj ((lookup_of_mem h.distinct hy).symm.trans hy')
    exact ⟨x, mem_of_lookup hx, hxy⟩

/-- An object of one member has but one order. -/
private theorem eq_singleton (h : SameMembers [(name, x)] ns) :
    ∃ y, ns = [(name, y)] ∧ x.Reordered y := by
  obtain ⟨y, hy, hxy⟩ := h.exists_lookup (List.lookup_cons_self ..)
  have only : ∀ m ∈ ns, m.1 = name := by
    rintro ⟨other, z⟩ hz
    obtain ⟨x', hx', -⟩ := h.exists_mem hz
    exact (Prod.mk.inj (List.mem_singleton.1 hx')).1
  have hmem : (name, y) ∈ ns := mem_of_lookup hy
  refine ⟨y, ?_, hxy⟩
  match ns, h.distinct, only, hmem with
  | [m], _, _, hmem => rw [List.mem_singleton.1 hmem]
  | m :: n :: ns, distinct, only, _ =>
    have hm : m.1 = name := only m (by simp)
    have hn : n.1 = name := only n (by simp)
    simp [hm, hn] at distinct

end SameMembers

end Json

namespace Wire

variable {α β : Type}

theorem bind_ok_iff {x : Except DecodeError α} {f : α → Except DecodeError β} {b : β} :
    (x >>= f) = .ok b ↔ ∃ a, x = .ok a ∧ f a = .ok b := by
  cases x <;> simp [bind, Except.bind]

@[simp] theorem within_ok (step : Step) (a : α) : within step (.ok a) = .ok a := rfl

theorem within_ok_iff {step : Step} {r : Except DecodeError α} {a : α} :
    within step r = .ok a ↔ r = .ok a := by
  cases r <;> simp [within, Except.mapError]

/-- The value is read as `a`, in whatever order the members of its objects stand. -/
def Reads (decode : Decoder Json α) (j : Json) (a : α) : Prop :=
  ∀ j', j.Reordered j' → decode j' = .ok a

theorem reads_text (s : String) : Reads text (.text s) s := by
  rintro _ ⟨⟩
  rfl

theorem reads_boolean (b : Bool) : Reads boolean (.bool b) b := by
  rintro _ ⟨⟩
  rfl

theorem reads_optional_text (s : Option String) : Reads (optional text) (.ofTextOrNull s) s := by
  cases s with
  | none =>
    rintro _ ⟨⟩
    rfl
  | some s =>
    rintro _ ⟨⟩
    rfl

theorem reads_shortNumber (n : UInt16) : Reads shortNumber (.ofNat n.toNat) n := by
  rintro _ ⟨⟩
  have hn : n.toNat < Nat.pow 2 16 := n.toNat_lt
  simp [shortNumber, Source.view, Json.ofNat, hn]

private theorem decodeItems_of_reordered {decode : Decoder Json α} {write : α → Json}
    (h : ∀ a, Reads decode (write a) a) {as : List α} {ys : List Json}
    (hys : List.Forall₂ Json.Reordered (as.map write) ys) (n : Nat) :
    decodeItems decode n ys = .ok as := by
  induction as generalizing ys n with
  | nil =>
    cases hys
    rfl
  | cons a as ih =>
    cases hys with
    | cons hy hys =>
      simp only [decodeItems, h a _ hy, ih hys (n + 1)]
      rfl

theorem reads_list {decode : Decoder Json α} {write : α → Json}
    (h : ∀ a, Reads decode (write a) a) (as : List α) :
    Reads (list decode) (.items (as.map write)) as := by
  intro j' hj'
  obtain ⟨ys, rfl, hys⟩ := hj'.exists_items
  simp only [list, Source.view, decodeItems_of_reordered h hys]
  rfl

theorem reads_texts (ss : List String) : Reads (list text) (.ofTexts ss) ss :=
  reads_list reads_text ss

private theorem decodeMembers_of_reads {decode : Decoder Json α} {ns : List (String × Json)}
    (h : ∀ name y, (name, y) ∈ ns → ∃ a, decode y = .ok a) :
    ∃ as, decodeMembers decode (ns.map fun (name, y) => (some name, y)) = .ok as ∧
      as.map Prod.fst = ns.map Prod.fst ∧
      ∀ name a, (name, a) ∈ as → ∃ y, (name, y) ∈ ns ∧ decode y = .ok a := by
  induction ns with
  | nil => exact ⟨[], rfl, rfl, by simp⟩
  | cons n ns ih =>
    obtain ⟨name, y⟩ := n
    obtain ⟨a, ha⟩ := h name y (List.mem_cons_self ..)
    obtain ⟨as, has, hnames, hmem⟩ := ih fun name y hy => h name y (List.mem_cons_of_mem _ hy)
    refine ⟨(name, a) :: as, ?_, ?_, ?_⟩
    · simp only [List.map_cons, decodeMembers, ha, has]
      rfl
    · simp [hnames]
    · intro other b hb
      rcases List.mem_cons.1 hb with hb | hb
      · obtain ⟨rfl, rfl⟩ := Prod.mk.inj hb
        exact ⟨y, List.mem_cons_self .., ha⟩
      · obtain ⟨z, hz, hdecode⟩ := hmem other b hb
        exact ⟨z, List.mem_cons_of_mem _ hz, hdecode⟩

section Rosters

variable {decode : Decoder Json α} {write : α → Json} {r : Roster (String × α) Prod.fst}
  {ns : List (String × Json)} {name : String} {a : α}

private theorem nodup_written (write : α → Json) (r : Roster (String × α) Prod.fst) :
    ((r.items.map fun (name, a) => (name, write a)).map Prod.fst).Nodup := by
  rw [List.map_map]
  exact r.nodup_names

/-- Each member stands for an item of the roster that was written. -/
private theorem exists_item (h : ∀ a, Reads decode (write a) a)
    (hns : Json.SameMembers (r.items.map fun (name, a) => (name, write a)) ns) {y : Json}
    (hy : (name, y) ∈ ns) : ∃ a, (name, a) ∈ r.items ∧ decode y = .ok a := by
  obtain ⟨x, hx, hxy⟩ := hns.exists_mem hy
  obtain ⟨⟨_, a⟩, ha, heq⟩ := List.mem_map.1 hx
  obtain ⟨rfl, rfl⟩ := Prod.mk.inj heq
  exact ⟨a, ha, h a y hxy⟩

private theorem mem_names_of_item
    (hns : Json.SameMembers (r.items.map fun (name, a) => (name, write a)) ns)
    (ha : (name, a) ∈ r.items) : name ∈ ns.map Prod.fst := by
  have hx := Json.lookup_of_mem (nodup_written write r) (List.mem_map_of_mem ha)
  obtain ⟨y, hy, -⟩ := hns.exists_lookup hx
  exact List.mem_map_of_mem (Json.mem_of_lookup hy)

/-- An object written from a roster is read as its items in any order, which make the roster. -/
theorem map_of_reordered (h : ∀ a, Reads decode (write a) a) {j : Json}
    (hj : (Json.members (r.items.map fun (name, a) => (name, write a))).Reordered j) :
    ∃ as, map decode j = .ok as ∧ Roster.ofList as = r := by
  obtain ⟨ns, rfl, hns⟩ := hj.exists_members (nodup_written write r)
  obtain ⟨as, has, hnames, hmem⟩ := decodeMembers_of_reads fun name y hy => by
    obtain ⟨a, -, ha⟩ := exists_item h hns hy
    exact ⟨a, ha⟩
  have stored {name : String} {a : α} (ha : (name, a) ∈ as) : (name, a) ∈ r.items := by
    obtain ⟨y, hy, hread⟩ := hmem name a ha
    obtain ⟨b, hb, hread'⟩ := exists_item h hns hy
    obtain rfl : b = a := Except.ok.inj (hread'.symm.trans hread)
    exact hb
  have read {name : String} {a : α} (ha : (name, a) ∈ r.items) : (name, a) ∈ as := by
    have hname : name ∈ as.map Prod.fst := hnames ▸ mem_names_of_item hns ha
    obtain ⟨⟨other, b⟩, hb, rfl⟩ := List.mem_map.1 hname
    have hsame : (other, b) = (other, a) := Roster.eq_of_key_eq (stored hb) ha rfl
    exact hsame ▸ hb
  refine ⟨as, ?_, Roster.ofList_eq (hnames ▸ hns.distinct) fun m => ⟨stored, read⟩⟩
  simp only [map, Source.view, has]
  rfl

end Rosters

variable {vs : List (Variant Json α)} {v : Variant Json α} {name : String} {a : α}

theorem Reads.map {decode : Decoder Json β} {j : Json} {b : β} (h : Reads decode j b) (f : β → α) :
    Reads (fun s => (decode s).map f) j (f b) := by
  intro j' hj'
  simp only [h j' hj', Except.map]

theorem reads_bare (found : findVariant vs name = .ok v) (bare : v.bare = .ok a) :
    Reads (oneOf vs) (.text name) a := by
  rintro _ ⟨⟩
  simp only [oneOf, Source.view, found]
  exact bare

theorem reads_wrapped {j : Json} (found : findVariant vs name = .ok v) (h : Reads v.with' j a) :
    Reads (oneOf vs) (.members [(name, j)]) a := by
  intro j' hj'
  obtain ⟨ns, rfl, hns⟩ := hj'.exists_members (by simp)
  obtain ⟨y, rfl, hy⟩ := hns.eq_singleton
  have hy : v.with' y = .ok a := h y hy
  simp [oneOf, Source.view, Source.style, variantOfMembers, found, hy, bind, Except.bind, pure,
    Except.pure]

end Wire

end GrantGate
