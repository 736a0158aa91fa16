import PatronGateway.Proofs.Json.Meaning
import PatronGateway.Proofs.Json.Record
import PatronGateway.Token.Claims

/-!
# No claim is lost or doubled

Six claims have a type, every other one is kept under its name, and all of them are written into
one object.  A claim with a type is never kept a second time, so what is written has each name
once and is read as the same claims; what is missing of the given object are repeated names and
typed claims that are `null`.

* `FieldsOf` says what each claim with a type is read from, and `exists_of_ofDocument?` that claims
  are read in no other way.
* `KeptAs` relates what an object gives for a name to what is kept of it, and `ReadFrom` does so
  for all names.
* `toDocument_eq` sees the written object as one of values, so that the module on meanings applies;
  `ofDocument?_toDocument` is the round trip of documents.
* `claims_are_kept` is the statement about texts.
-/

namespace PatronGateway
namespace Token
namespace Claims

open Json

/-! ## Names with values -/

section Present

variable {α : Type} {name : String} {value : α} {names : List String} {kept : List (Option α)}
  {extra : List (String × α)}

/-- The members of a row of names, of which those without a value have none. -/
def present : List String → List (Option α) → List (String × α)
  | name :: names, some value :: kept => (name, value) :: present names kept
  | _ :: names, none :: kept => present names kept
  | _, _ => []

theorem mem_present_iff :
    (name, value) ∈ present names kept ↔ (name, some value) ∈ names.zip kept := by
  induction names generalizing kept with
  | nil => simp [present]
  | cons name' names ih =>
      cases kept with
      | nil => simp [present]
      | cons value' kept => cases value' <;> simp [present, ih]

theorem names_present_sublist (names : List String) (kept : List (Option α)) :
    ((present names kept).map Prod.fst).Sublist names := by
  induction names generalizing kept with
  | nil => simp [present]
  | cons name names ih =>
      cases kept with
      | nil => simp [present]
      | cons value kept =>
          cases value with
          | none => exact (ih kept).cons name
          | some value => exact (ih kept).cons_cons name

/-- Each name of a row finds its own value, whatever other names stand behind the row. -/
theorem map_lookup_present (hnodup : names.Nodup) (hlength : names.length = kept.length)
    (hextra : ∀ m ∈ extra, m.1 ∉ names) :
    (names.map fun name => (present names kept ++ extra).lookup name) = kept := by
  induction names generalizing kept with
  | nil => exact (List.length_eq_zero_iff.mp hlength.symm).symm
  | cons name names ih =>
      obtain _ | ⟨value, kept⟩ := kept
      · cases hlength
      obtain ⟨hfirst, hrest⟩ := List.nodup_cons.mp hnodup
      -- behind its place the first name does not come again
      have hnone : (present names kept ++ extra).lookup name = none := by
        rw [List.lookup_eq_none_iff]
        intro m hm
        have hne : name ≠ m.1 := by
          rintro rfl
          obtain hm | hm := List.mem_append.mp hm
          · exact hfirst ((names_present_sublist names kept).mem (List.mem_map_of_mem hm))
          · exact hextra m hm List.mem_cons_self
        simpa using hne
      have htail := ih hrest (Nat.succ.inj hlength)
        fun m hm hmem => hextra m hm (List.mem_cons_of_mem _ hmem)
      rw [List.map_cons]
      cases value with
      | none => exact congrArg₂ _ hnone htail
      | some value =>
          have hother : ∀ name' ∈ names,
              ((name, value) :: (present names kept ++ extra)).lookup name' =
                (present names kept ++ extra).lookup name' := by
            intro name' hname'
            have hne : (name' == name) = false := beq_false_of_ne fun heq => hfirst (heq ▸ hname')
            rw [List.lookup_cons, hne]
          refine congrArg₂ _ ?_ ((List.map_congr_left hother).trans htail)
          simp [present]

end Present

/-! ## Fields -/

section Fields

variable {α : Type} {given : List (Option String × Document)} {name : String}

/-- What a field was given is read as a value. -/
def Reads (given : List (Option String × Document)) (name : String)
    (read : Option Document → Option α) (a : α) : Prop :=
  ∃ field, Document.field? name given = some field ∧ read field = some a

/-- The claims with a type are read from the fields of their names. -/
structure FieldsOf (c : Claims) (given : List (Option String × Document)) : Prop where
  subject : Reads given "sub" (Document.required? Document.string?) c.subject
  issuer : Reads given "iss" (Document.withDefault? none (Document.optional? Document.string?))
    c.issuer
  expiry : Reads given "exp" (Document.required? Document.integer?) c.expiry
  issuedAt : Reads given "iat" (Document.withDefault? none (Document.optional? Document.integer?))
    c.issuedAt
  preferredUsername : Reads given "preferred_username"
    (Document.withDefault? none (Document.optional? Document.string?)) c.preferredUsername
  userId : Reads given "user_id"
    (Document.withDefault? none (Document.optional? Document.string?)) c.userId

/-- Claims are read from the members of an object, and the others from its meaning. -/
theorem exists_of_ofDocument? {c : Claims} {d : Document} (h : ofDocument? d = some c) :
    ∃ given value, d = .object given ∧ d.value? = some value ∧ c.FieldsOf given ∧
      c.extra = extraOf value := by
  obtain ⟨value, hvalue, h⟩ := Option.bind_eq_some_iff.mp h
  obtain ⟨fields, hfields, hrest⟩ := Option.bind_eq_some_iff.mp h
  obtain ⟨given, rfl, hgiven⟩ := Document.forall₂_of_objectFields? hfields
  split at hrest
  case h_2 => cases hrest
  case h_1 sub iss exp iat username userId =>
    obtain ⟨subject, hsubject, hrest⟩ := Option.bind_eq_some_iff.mp hrest
    obtain ⟨issuer, hissuer, hrest⟩ := Option.bind_eq_some_iff.mp hrest
    obtain ⟨expiry, hexpiry, hrest⟩ := Option.bind_eq_some_iff.mp hrest
    obtain ⟨issuedAt, hissuedAt, hrest⟩ := Option.bind_eq_some_iff.mp hrest
    obtain ⟨name, hname, hrest⟩ := Option.bind_eq_some_iff.mp hrest
    obtain ⟨user, huser, hclaims⟩ := Option.bind_eq_some_iff.mp hrest
    cases hclaims
    -- the fields stand in the order of `typedNames`
    obtain - | ⟨hsub, - | ⟨hiss, - | ⟨hexp, - | ⟨hiat, - | ⟨hpreferred, - | ⟨hid, -⟩⟩⟩⟩⟩⟩ := hgiven
    exact ⟨given, value, rfl, hvalue, ⟨⟨sub, hsub, hsubject⟩, ⟨iss, hiss, hissuer⟩,
      ⟨exp, hexp, hexpiry⟩, ⟨iat, hiat, hissuedAt⟩, ⟨username, hpreferred, hname⟩,
      ⟨userId, hid, huser⟩⟩, rfl⟩

/-! ## What is kept of a claim with a type -/

/-- What is kept of a name: what the last member of it means, unless there is none but `null`. -/
def KeptAs (given : List (Option String × Document)) (name : String) : Option Value → Prop
  | some v => ∃ d, IsLast given (some name) d ∧ d ≠ .null ∧ Means d v
  | none => ∀ d, IsLast given (some name) d → d = .null

variable {read : Document → Option α} {toValue : α → Value}

/-- What a field was given is the last member of its name. -/
theorem isLast_of_field? {d : Document} (h : Document.field? name given = some (some d)) :
    IsLast given (some name) d := by
  obtain ⟨d', hlast⟩ := exists_isLast (Document.mem_of_field? h)
  obtain rfl := Option.some.inj (Document.eq_of_mem_of_field? h hlast.mem)
  exact hlast

theorem keptAs_of_required? (hread : ∀ d a, read d = some a → d ≠ .null ∧ Means d (toValue a))
    {a : α} (h : Reads given name (Document.required? read) a) :
    KeptAs given name (some (toValue a)) := by
  obtain ⟨field, hfield, h⟩ := h
  obtain ⟨d, rfl, hd⟩ := Option.bind_eq_some_iff.mp h
  exact ⟨d, isLast_of_field? hfield, hread d a hd⟩

theorem keptAs_of_optional? (hread : ∀ d a, read d = some a → d ≠ .null ∧ Means d (toValue a))
    {a : Option α} (h : Reads given name (Document.withDefault? none (Document.optional? read)) a) :
    KeptAs given name (a.map toValue) := by
  obtain ⟨field, hfield, h⟩ := h
  cases field with
  | none =>
      obtain rfl := Option.some.inj h
      intro d hlast
      cases Document.eq_of_mem_of_field? hfield hlast.mem
  | some d =>
      change Document.optional? read d = some a at h
      unfold Document.optional? at h
      split at h
      · obtain rfl := Option.some.inj h
        intro d hlast
        exact (Option.some.inj (Document.eq_of_mem_of_field? hfield hlast.mem)).symm
      · obtain ⟨b, hb, rfl⟩ := Option.map_eq_some_iff.mp h
        exact ⟨d, isLast_of_field? hfield, hread d b hb⟩

end Fields

theorem means_of_string? (d : Document) (s : String) (h : d.string? = some s) :
    d ≠ .null ∧ Means d (.string s) := by
  unfold Document.string? at h
  split at h
  · subst h
    exact ⟨nofun, .string s⟩
  · cases h

theorem means_of_integer? (d : Document) (i : Int) (h : d.integer? = some i) :
    d ≠ .null ∧ Means d (.number (.ofInt i)) := by
  obtain ⟨whole, rfl, -⟩ := Document.exists_of_integer? h
  exact ⟨nofun, .number (Document.ofNumeral?_of_integer? h)⟩

/-! ## Reading and writing claims -/

variable {c : Claims} {d : Document} {given : List (Option String × Document)}

/-- The values of the claims with a type, in the order of their names. -/
def typedValues (c : Claims) : List (Option Value) :=
  [some (.string c.subject), c.issuer.map .string, some (.number (.ofInt c.expiry)),
    c.issuedAt.map fun i => .number (.ofInt i), c.preferredUsername.map .string,
    c.userId.map .string]

/-- All claims as members with values: first those with a type, then the others. -/
def values (c : Claims) : List (String × Value) :=
  present typedNames c.typedValues ++ c.extra

/-- The object of claims is that of their values. -/
theorem toDocument_eq (c : Claims) : c.toDocument = .object (membersToDocument c.values) := by
  obtain ⟨subject, issuer, expiry, issuedAt, username, userId, extra⟩ := c
  unfold toDocument Document.record values
  rw [membersToDocument_eq, Document.object.injEq]
  cases issuer <;> cases issuedAt <;> cases username <;> cases userId <;>
    simp [typedValues, typedNames, present, member, Function.comp_def]

/-- What claims were read from, and what was kept of it. -/
structure ReadFrom (c : Claims) (given : List (Option String × Document))
    (members : List (String × Value)) : Prop where
  members_eq : membersMeaning? given = some members
  typed : List.Forall₂ (KeptAs given) typedNames c.typedValues
  extra_eq : c.extra = (sortMembers members).filter fun m => !typedNames.contains m.1
  expiry_eq : (Document.number (.ofInt c.expiry)).integer? = some c.expiry
  issuedAt_eq : ∀ i, c.issuedAt = some i → (Document.number (.ofInt i)).integer? = some i

/-- An optional integer that was read is read back. -/
theorem integer?_ofInt_of_optional? {name : String} {value : Option Int}
    (h : Reads given name (Document.withDefault? none (Document.optional? Document.integer?)) value)
    (i : Int) (hi : value = some i) : (Document.number (.ofInt i)).integer? = some i := by
  subst hi
  obtain ⟨field, -, h⟩ := h
  cases field with
  | none => cases h
  | some d =>
      change Document.optional? Document.integer? d = some (some i) at h
      unfold Document.optional? at h
      split at h
      · cases h
      · obtain ⟨j, hj, hsome⟩ := Option.map_eq_some_iff.mp h
        rw [← Option.some.inj hsome]
        exact Document.integer?_ofInt hj

/-- Claims are read from the members of an object that is not too deep. -/
theorem readFrom_of_ofDocument? (h : ofDocument? d = some c) :
    ∃ given members, d = .object given ∧ d.depth < Document.depthLimit ∧
      c.ReadFrom given members := by
  obtain ⟨given, value, rfl, hvalue, hfields, hextra⟩ := exists_of_ofDocument? h
  obtain ⟨hdepth, hmeaning⟩ := Option.ite_none_right_eq_some.mp hvalue
  rw [Document.meaning?] at hmeaning
  obtain ⟨members, hmembers, rfl⟩ := Option.map_eq_some_iff.mp hmeaning
  refine ⟨given, members, rfl, hdepth, ⟨hmembers, ?_, hextra, ?_, ?_⟩⟩
  · exact .cons (keptAs_of_required? means_of_string? hfields.subject)
      (.cons (keptAs_of_optional? means_of_string? hfields.issuer)
      (.cons (keptAs_of_required? means_of_integer? hfields.expiry)
      (.cons (keptAs_of_optional? means_of_integer? hfields.issuedAt)
      (.cons (keptAs_of_optional? means_of_string? hfields.preferredUsername)
      (.cons (keptAs_of_optional? means_of_string? hfields.userId) .nil)))))
  · obtain ⟨exp, -, hexp⟩ := hfields.expiry
    obtain ⟨e, -, he⟩ := Option.bind_eq_some_iff.mp hexp
    exact Document.integer?_ofInt he
  · exact integer?_ofInt_of_optional? hfields.issuedAt

namespace ReadFrom

variable {members : List (String × Value)} (h : c.ReadFrom given members)

include h

theorem isSorted_extra : IsSorted c.extra := by
  rw [h.extra_eq]
  exact (isSorted_sortMembers members).filter _

/-- What is kept besides the claims with a type: of every other name the last value. -/
theorem mem_extra_iff {name : String} {v : Value} :
    (name, v) ∈ c.extra ↔ name ∉ typedNames ∧ IsLast members name v := by
  rw [h.extra_eq, List.mem_filter, mem_sortMembers_iff, and_comm]
  simp

theorem not_typed_of_mem_extra : ∀ m ∈ c.extra, m.1 ∉ typedNames :=
  fun _ hm => (h.mem_extra_iff.mp hm).1

/-- No name is kept twice. -/
theorem nodup_values : (c.values.map Prod.fst).Nodup := by
  unfold values
  rw [List.map_append, List.nodup_append']
  refine ⟨(names_present_sublist _ _).nodup (by decide), h.isSorted_extra.nodup, ?_⟩
  intro name htyped hextra
  obtain ⟨m, hm, rfl⟩ := List.mem_map.mp hextra
  exact h.not_typed_of_mem_extra m hm ((names_present_sublist _ _).mem htyped)

/-- What is kept of a name is what the last member of it means. -/
theorem kept {name : String} {v : Value} (hmem : (name, v) ∈ c.values) :
    ∃ d, IsLast given (some name) d ∧ ¬ (name ∈ typedNames ∧ d = .null) ∧ Means d v := by
  obtain htyped | hextra := List.mem_append.mp hmem
  · have hzip := mem_present_iff.mp htyped
    obtain ⟨d, hlast, hnull, hmeans⟩ := (List.forall₂_iff_zip.mp h.typed).2 hzip
    exact ⟨d, hlast, fun hd => hnull hd.2, hmeans⟩
  · obtain ⟨hname, hlast⟩ := h.mem_extra_iff.mp hextra
    obtain ⟨d, hd, hmeans⟩ := IsLast.of_forall₂ (means_of_membersMeaning? h.members_eq) hlast
    exact ⟨d, hd, fun htyped => hname htyped.1, hmeans⟩

/-- Every name that was given is kept, unless it has a type and was given `null`. -/
theorem exists_mem_values {name : String} {d : Document} (hlast : IsLast given (some name) d)
    (hnull : ¬ (name ∈ typedNames ∧ d = .null)) : ∃ v, (name, v) ∈ c.values := by
  by_cases hname : name ∈ typedNames
  · -- the name has a place in the row, and only `null` leaves this place empty
    have hmem : name ∈ (typedNames.zip c.typedValues).map Prod.fst := by
      rwa [List.map_fst_zip h.typed.length_eq.le]
    obtain ⟨⟨name, kept⟩, hzip, rfl⟩ := List.mem_map.mp hmem
    have hkept := (List.forall₂_iff_zip.mp h.typed).2 hzip
    cases kept with
    | none => exact absurd ⟨hname, hkept d hlast⟩ hnull
    | some v => exact ⟨v, List.mem_append_left _ (mem_present_iff.mpr hzip)⟩
  · have hread := means_of_membersMeaning? h.members_eq
    obtain ⟨⟨name', v⟩, hmem, rfl⟩ := (exists_mem_iff_of_forall₂ hread).mp ⟨_, hlast.mem, rfl⟩
    obtain ⟨v, hv⟩ := exists_isLast hmem
    exact ⟨v, List.mem_append_right _ (h.mem_extra_iff.mpr ⟨hname, hv⟩)⟩

/-- What has a type is a text or an integer, and written as such. -/
theorem writesBack_typed {v : Value} (hv : some v ∈ c.typedValues) : WritesBack 0 v := by
  have hnumber (i : Int) (hi : (Document.number (.ofInt i)).integer? = some i) :
      WritesBack 0 (.number (.ofInt i)) :=
    writesBack_number (Number.toNumeral?_ofInt i) (Numeral.isProper_ofDigits _ _)
      (Document.ofNumeral?_of_integer? hi)
  simp only [typedValues, List.mem_cons, Option.some.injEq, List.not_mem_nil, or_false,
    eq_comm (a := some v), Option.map_eq_some_iff] at hv
  obtain rfl | ⟨s, -, rfl⟩ | rfl | ⟨i, hi, rfl⟩ | ⟨s, -, rfl⟩ | ⟨s, -, rfl⟩ := hv
  · exact writesBack_string _
  · exact writesBack_string s
  · exact hnumber _ h.expiry_eq
  · exact hnumber i (h.issuedAt_eq i hi)
  · exact writesBack_string s
  · exact writesBack_string s

/-- What is kept is written as what it is, no deeper than what was given. -/
theorem writesBack (hintegers : (Document.object given).HasIntegers) :
    ∀ m ∈ c.values, WritesBack (Document.membersDepth given) m.2 := by
  rintro ⟨name, v⟩ hm
  obtain hm | hm := List.mem_append.mp hm
  · have hv := (List.of_mem_zip (mem_present_iff.mp hm)).2
    exact (h.writesBack_typed hv).mono (Nat.zero_le _)
  · exact writesBack_of_membersMeaning? h.members_eq hintegers (h.mem_extra_iff.mp hm).2.mem

/-- The fields of the written object are the claims with a type. -/
theorem objectFields?_toDocument :
    c.toDocument.objectFields? typedNames =
      some (c.typedValues.map (Option.map Value.toDocument)) := by
  have hnames : ((c.values.map fun m => (m.1, m.2.toDocument)).map Prod.fst).Nodup := by
    rw [List.map_map]
    exact h.nodup_values
  have hlookup : (typedNames.map fun name => c.values.lookup name) = c.typedValues :=
    map_lookup_present (by decide) h.typed.length_eq h.not_typed_of_mem_extra
  have hrecord := Document.fields?_record hnames typedNames
  rw [← hlookup, List.map_map, toDocument_eq, membersToDocument_eq]
  simp only [Document.lookup_map] at hrecord
  unfold Document.record at hrecord
  rw [List.map_map] at hrecord
  exact hrecord

/-- Besides the claims with a type, what is written means what was kept. -/
theorem extraOf_eq : extraOf (.object (sortMembers c.values)) = c.extra := by
  refine ((isSorted_sortMembers _).filter _).eq h.isSorted_extra fun m => ?_
  rw [List.mem_filter, mem_sortMembers_iff, isLast_iff_mem h.nodup_values]
  unfold values
  rw [List.mem_append]
  constructor
  · rintro ⟨htyped | hextra, hname⟩
    · have hmem := (names_present_sublist _ _).mem (List.mem_map_of_mem (f := Prod.fst) htyped)
      simp [hmem] at hname
    · exact hextra
  · intro hextra
    have hname := h.not_typed_of_mem_extra m hextra
    exact ⟨.inr hextra, by simpa using hname⟩

/-- Claims are read back from the object that they are written as. -/
theorem ofDocument?_toDocument (hintegers : (Document.object given).HasIntegers)
    (hdepth : (Document.object given).depth < Document.depthLimit) :
    c.toDocument.IsProper ∧ ofDocument? c.toDocument = some c := by
  have hback := h.writesBack hintegers
  obtain ⟨hproper, hle⟩ := proper_members hback
  rw [← toDocument_eq] at hproper hle
  refine ⟨hproper, ?_⟩
  have hmeaning : c.toDocument.value? = some (.object (sortMembers c.values)) := by
    unfold Document.value?
    rw [if_pos (hle.trans_lt hdepth), toDocument_eq, Document.meaning?,
      membersMeaning?_membersToDocument hback, Option.map_some]
  have hsubject : (Document.ofString c.subject).string? = some c.subject := rfl
  have hissuedAt :
      Document.withDefault? none (Document.optional? Document.integer?)
        (c.issuedAt.map fun i => .number (.ofInt i)) = some c.issuedAt :=
    Document.withDefault?_optional?_map fun i hi => ⟨by simp, h.issuedAt_eq i hi⟩
  unfold ofDocument?
  rw [hmeaning, h.objectFields?_toDocument]
  simp only [typedValues, List.map_cons, List.map_nil, Option.map_some, Option.map_map,
    Function.comp_def, Value.toDocument_string, Value.toDocument_ofInt, Option.bind_eq_bind,
    Option.bind_some, Document.required?, hsubject, Document.optionalText_ofString, h.expiry_eq,
    hissuedAt, h.extraOf_eq]
  rfl

end ReadFrom

/-- Members kept with values: each other name that was given, once, and for it what its last member
means. -/
structure KeepsOthers (given : List (Option String × Document)) (extra : List (String × Value)) :
    Prop where
  nodup : (extra.map Prod.fst).Nodup
  mem_iff : ∀ name, name ∈ extra.map Prod.fst ↔
    name ∉ typedNames ∧ some name ∈ given.map Prod.fst
  means : ∀ name v, (name, v) ∈ extra → ∃ d, IsLast given (some name) d ∧ Means d v

/-- Members written for those that were given: each name once, unless it belongs to a type and its
only member is `null`, and for it a document with the meaning of its last member. -/
structure WritesOnce (given : List (Option String × Document)) (written : List (String × Document)) :
    Prop where
  nodup : (written.map Prod.fst).Nodup
  mem_iff : ∀ name, name ∈ written.map Prod.fst ↔
    ∃ d, IsLast given (some name) d ∧ ¬ (name ∈ typedNames ∧ d = .null)
  means : ∀ name e, (name, e) ∈ written →
    ∃ d v, IsLast given (some name) d ∧ Means d v ∧ e.meaning? = some v

theorem ReadFrom.keepsOthers {members : List (String × Value)} (h : c.ReadFrom given members) :
    KeepsOthers given c.extra := by
  have hread := means_of_membersMeaning? h.members_eq
  refine ⟨h.isSorted_extra.nodup, fun name => ?_, fun name v hmem => ?_⟩
  · have hnames : some name ∈ given.map Prod.fst ↔ ∃ p ∈ members, p.1 = name := by
      rw [← exists_mem_iff_of_forall₂ hread, List.mem_map]
    rw [hnames, List.mem_map]
    constructor
    · rintro ⟨m, hm, rfl⟩
      obtain ⟨hname, hlast⟩ := h.mem_extra_iff.mp hm
      exact ⟨hname, m, hlast.mem, rfl⟩
    · rintro ⟨hname, ⟨name, v⟩, hp, rfl⟩
      obtain ⟨v, hlast⟩ := exists_isLast hp
      exact ⟨(name, v), h.mem_extra_iff.mpr ⟨hname, hlast⟩, rfl⟩
  · exact IsLast.of_forall₂ hread (h.mem_extra_iff.mp hmem).2

theorem ReadFrom.writesOnce {members : List (String × Value)} (h : c.ReadFrom given members)
    (hintegers : (Document.object given).HasIntegers) :
    WritesOnce given (c.values.map fun m => (m.1, m.2.toDocument)) := by
  have hnames : (c.values.map fun m => (m.1, m.2.toDocument)).map Prod.fst =
      c.values.map Prod.fst := by
    rw [List.map_map]
    rfl
  refine ⟨hnames ▸ h.nodup_values, fun name => ?_, fun name e hmem => ?_⟩
  · rw [hnames, List.mem_map]
    constructor
    · rintro ⟨m, hm, rfl⟩
      obtain ⟨d, hlast, hnull, -⟩ := h.kept hm
      exact ⟨d, hlast, hnull⟩
    · rintro ⟨d, hlast, hnull⟩
      obtain ⟨v, hv⟩ := h.exists_mem_values hlast hnull
      exact ⟨(name, v), hv, rfl⟩
  · obtain ⟨⟨name, v⟩, hm, heq⟩ := List.mem_map.mp hmem
    obtain ⟨rfl, rfl⟩ := Prod.mk.inj heq
    obtain ⟨d, hlast, -, hmeans⟩ := h.kept hm
    exact ⟨d, v, hlast, hmeans, (h.writesBack hintegers _ hm).meaning_eq⟩

/-- Claims that are read from a text with integers of 64 bits keep every name that is given; their
own text is read as the same claims, and has each of these names once. -/
theorem claims_are_kept {text : String} (htext : Document.read? text = some d)
    (hintegers : d.HasIntegers) (h : ofDocument? d = some c) :
    ∃ given, d = .object given ∧ KeepsOthers given c.extra ∧
      (Document.read? c.toDocument.write).bind ofDocument? = some c ∧
      ∃ written, Document.read? c.toDocument.write = some (.record written) ∧
        WritesOnce given written := by
  obtain ⟨given, members, rfl, hdepth, hfrom⟩ := readFrom_of_ofDocument? h
  obtain ⟨hproper, hback⟩ := hfrom.ofDocument?_toDocument hintegers hdepth
  have hread := Document.read?_write hproper
  have hrecord : c.toDocument = .record (c.values.map fun m => (m.1, m.2.toDocument)) := by
    rw [toDocument_eq, membersToDocument_eq]
    unfold Document.record
    rw [List.map_map]
    rfl
  refine ⟨given, rfl, hfrom.keepsOthers, ?_, _, ?_, hfrom.writesOnce hintegers⟩
  · rw [hread]
    exact hback
  · rw [hread, hrecord]

/-- A name that is given twice, the second time with an object that repeats a name, and a claim
with a type that is `null`. -/
theorem claims_are_kept_repeated :
    let text := "\x7b\"x\":1,\"sub\":\"a\",\"iss\":null,\"exp\":7," ++
      "\"x\":\x7b\"k\":-0,\"k\":[null,18446744073709551615]\x7d\x7d"
    let last : Document := .object [(some "k", .number ⟨true, [0], none, none⟩),
      (some "k", .array [.null, .ofNat 18446744073709551615])]
    let given : List (Option String × Document) := [(some "x", .ofNat 1),
      (some "sub", .ofString "a"), (some "iss", .null), (some "exp", .ofNat 7), (some "x", last)]
    let kept : Value := .object [("k", .array [.null, .number (.natural 18446744073709551615)])]
    let c : Claims := ⟨"a", none, 7, none, none, none, [("x", kept)]⟩
    (Document.read? text = some (.object given) ∧ (Document.object given).HasIntegers ∧
      ofDocument? (.object given) = some c) ∧
    KeepsOthers given c.extra ∧
    c.toDocument.write =
      "\x7b\"sub\":\"a\",\"exp\":7,\"x\":\x7b\"k\":[null,18446744073709551615]\x7d\x7d" ∧
    (Document.read? c.toDocument.write).bind ofDocument? = some c := by
  intro text last given kept c
  have hzero : (⟨true, [0], none, none⟩ : Numeral).IsProper ∧
      (⟨true, [0], none, none⟩ : Numeral).IsInteger :=
    ⟨by constructor <;> simp, by constructor <;> decide⟩
  have hnatural (n : Nat) (hn : n < 2 ^ 64) : (Document.ofNat n).HasIntegers := by
    rw [Document.ofNat, Document.HasIntegers]
    exact ⟨rfl, rfl, fun _ => by rwa [Numeral.ofNat, Text.value_digits], by simp [Numeral.ofNat]⟩
  have hproper : (Document.object given).IsProper := by
    simp [given, last, Document.IsProper, Document.haveProper_iff, Document.areProper_iff,
      Document.isProper_ofNat, Document.isProper_ofString, hzero.1]
  have hintegers : (Document.object given).HasIntegers := by
    simp [given, last, Document.HasIntegers, Document.holdIntegers_iff, Document.haveIntegers_iff,
      hnatural, Document.ofString, hzero.2]
  have hwritten : (Document.object given).write = text := by decide +kernel
  have htext : Document.read? text = some (.object given) := hwritten ▸ Document.read?_write hproper
  have hread : ofDocument? (.object given) = some c := by with_unfolding_all rfl
  obtain ⟨_, hgiven, hkept, hback, -⟩ := claims_are_kept htext hintegers hread
  obtain rfl := Document.object.inj hgiven
  exact ⟨⟨htext, hintegers, hread⟩, hkept, by decide +kernel, hback⟩

end Claims
end Token
end PatronGateway
