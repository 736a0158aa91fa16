import PatronGateway.Json.Record
import PatronGateway.Proofs.Text.Rows

/-!
# What the fields of a record were given

A record is read name by name, so what is read for a row of names is, at each place,
what the field of that name was given.  A field was given the only member of its name.
A record that was written as an object gives back its members (`fields?_record`).
-/

namespace PatronGateway
namespace Json
namespace Document

/-- The members of a name are those that carry it. -/
theorem mem_given_iff {name : String} {members : List (Option String × Document)}
    {d : Document} : d ∈ given name members ↔ (some name, d) ∈ members := by
  unfold given
  rw [List.mem_filterMap]
  constructor
  · rintro ⟨⟨key, value⟩, hmem, hvalue⟩
    split at hvalue
    · rename_i hkey
      obtain rfl : key = some name := hkey
      obtain rfl : value = d := Option.some.inj hvalue
      exact hmem
    · cases hvalue
  · intro hmem
    exact ⟨(some name, d), hmem, if_pos rfl⟩

/-- What a field was given is the only member of its name. -/
theorem eq_of_mem_of_field? {name : String} {members : List (Option String × Document)}
    {field : Option Document} (h : field? name members = some field) {d : Document}
    (hmem : (some name, d) ∈ members) : field = some d := by
  have hgiven : d ∈ given name members := mem_given_iff.mpr hmem
  unfold field? at h
  split at h
  · rename_i hnone
    rw [hnone] at hgiven
    cases hgiven
  · rename_i only honly
    rw [honly] at hgiven
    rw [← Option.some.inj h, List.mem_singleton.mp hgiven]
  · cases h

theorem mem_of_field? {name : String} {members : List (Option String × Document)}
    {d : Document} (h : field? name members = some (some d)) : (some name, d) ∈ members := by
  rw [← mem_given_iff]
  unfold field? at h
  split at h
  · cases h
  · rename_i only honly
    obtain rfl : only = d := Option.some.inj (Option.some.inj h)
    rw [honly]
    exact List.mem_singleton_self only
  · cases h

/-- The fields of a record that is an object were each given what the members of their
name hold. -/
theorem forall₂_of_objectFields? {names : List String} {d : Document}
    {values : List (Option Document)} (h : d.objectFields? names = some values) :
    ∃ members, d = .object members ∧
      List.Forall₂ (fun name value => field? name members = some value) names values := by
  cases d with
  | object members =>
      refine ⟨members, rfl, ?_⟩
      change memberFields? names members = some values at h
      unfold memberFields? at h
      by_cases hnamed : members.all (·.1.isSome) = true
      · rw [if_pos hnamed] at h
        exact Text.mapM_eq_some_iff.mp h
      · rw [if_neg hnamed] at h
        cases h
  | null => cases h
  | bool value => cases h
  | number value => cases h
  | text value => cases h
  | array items => cases h

/-- Where no name is given twice, a name was given its only member. -/
theorem given_map_some {members : List (String × Document)}
    (h : (members.map Prod.fst).Nodup) (name : String) :
    given name (members.map fun m => (some m.1, m.2)) = (members.lookup name).toList := by
  induction members with
  | nil => rfl
  | cons m members ih =>
      obtain ⟨key, value⟩ := m
      rw [List.map_cons, List.nodup_cons] at h
      have hrest := ih h.2
      unfold given at hrest ⊢
      rw [List.map_cons, List.lookup_cons]
      by_cases hkey : key = name
      · subst hkey
        have hnone : members.lookup key = none := by
          rw [List.lookup_eq_none_iff]
          intro m hm
          have hne : key ≠ m.1 := fun heq => h.1 (List.mem_map.mpr ⟨m, hm, heq.symm⟩)
          simpa using hne
        rw [hnone] at hrest
        simp [hrest]
      · have hkey' : (name == key) = false := beq_false_of_ne (Ne.symm hkey)
        simp [hkey, hkey', hrest]

/-- Each field of a record that is written as an object was given the member of its name, if
there is one. -/
theorem fields?_record {members : List (String × Document)} (h : (members.map Prod.fst).Nodup)
    (names : List String) :
    (record members).fields? names = some (names.map fun name => members.lookup name) := by
  have hnamed : (members.map fun m => (some m.1, m.2)).all (·.1.isSome) = true := by simp
  have hfield (name : String) :
      field? name (members.map fun m => (some m.1, m.2)) = some (members.lookup name) := by
    unfold field?
    rw [given_map_some h]
    cases members.lookup name <;> rfl
  change memberFields? names (members.map fun m => (some m.1, m.2)) = _
  unfold memberFields?
  rw [if_pos hnamed]
  simp only [hfield]
  exact List.mapM_pure

theorem lookup_map {α β : Type} (f : α → β) (members : List (String × α)) (name : String) :
    (members.map fun m => (m.1, f m.2)).lookup name = (members.lookup name).map f := by
  induction members with
  | nil => rfl
  | cons m members ih =>
      rw [List.map_cons, List.lookup_cons, List.lookup_cons, ih]
      split <;> rfl

theorem ofString_ne_null (s : String) : ofString s ≠ .null :=
  nofun

/-- A part that may be missing is read back. -/
theorem withDefault?_optional?_map {α : Type} {read : Document → Option α} {write : α → Document}
    {value : Option α}
    (h : ∀ a, value = some a → write a ≠ .null ∧ read (write a) = some a) :
    withDefault? none (optional? read) (value.map write) = some value := by
  cases value with
  | none => rfl
  | some a =>
      obtain ⟨hnull, hread⟩ := h a rfl
      change optional? read (write a) = _
      unfold optional?
      split
      · next heq => exact absurd heq hnull
      · rw [hread, Option.map_some]

/-- A text that may be missing is read back. -/
theorem optionalText_ofString (value : Option String) :
    withDefault? none (optional? string?) (value.map ofString) = some value :=
  withDefault?_optional?_map fun s _ => ⟨ofString_ne_null s, rfl⟩

end Document
end Json
end PatronGateway
