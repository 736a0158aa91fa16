import PatronGateway.Proofs.Json.Members
import PatronGateway.Proofs.Json.Number

/-!
# What a document means

A document that is kept as a value loses only what a name says before its last time.  Where all its
numbers are integers of 64 bits, the value is written as a document that means the same value, and
that is no deeper.

* `Means` says what a value has of a document, at any depth.
* `of_meaning?` is the induction over a document together with its meaning.
* `means_of_membersMeaning?` and `writesBack_of_membersMeaning?` are the two statements, for the
  members of an object, whose names may be repeated.
-/

namespace PatronGateway
namespace Json

/-- What a value has of a document: an object has each name once, with what the last member of
this name means. -/
inductive Means : Document → Value → Prop
  | null : Means .null .null
  | bool (b : Bool) : Means (.bool b) (.bool b)
  | number {n : Numeral} {k : Number} (h : Number.ofNumeral? n = some k) :
      Means (.number n) (.number k)
  | string (s : String) : Means (.text (some s)) (.string s)
  | array {items : List Document} {values : List Value} (hlength : items.length = values.length)
      (hitems : ∀ d v, (d, v) ∈ items.zip values → Means d v) :
      Means (.array items) (.array values)
  | object {given : List (Option String × Document)} {members : List (String × Value)}
      (hnames : ∀ name, (∃ m ∈ members, m.1 = name) ↔ ∃ m ∈ given, m.1 = some name)
      (honce : (members.map Prod.fst).Nodup)
      (hlast : ∀ name v d, (name, v) ∈ members → IsLast given (some name) d → Means d v) :
      Means (.object given) (.object members)

/-! ## Induction over meanings -/

/-- A relation of documents and values passes from the parts of a document to the whole. -/
structure PassesUp (P : Document → Value → Prop) : Prop where
  null : P .null .null
  bool : ∀ b, P (.bool b) (.bool b)
  number : ∀ n k, Number.ofNumeral? n = some k → P (.number n) (.number k)
  string : ∀ s, P (.text (some s)) (.string s)
  array : ∀ items values, List.Forall₂ P items values → P (.array items) (.array values)
  object : ∀ given members,
    List.Forall₂ (fun m p => m.1 = some p.1 ∧ P m.2 p.2) given members →
      P (.object given) (.object (sortMembers members))

section Induction

variable {P : Document → Value → Prop}

mutual

/-- What passes from the parts to the whole holds of a document and its meaning. -/
theorem of_meaning? (hP : PassesUp P) : ∀ (d : Document) (v : Value), d.meaning? = some v → P d v
  | .null, v, h => by
      rw [Document.meaning?] at h
      rw [← Option.some.inj h]
      exact hP.null
  | .bool b, v, h => by
      rw [Document.meaning?] at h
      rw [← Option.some.inj h]
      exact hP.bool b
  | .number n, v, h => by
      rw [Document.meaning?] at h
      obtain ⟨k, hk, rfl⟩ := Option.map_eq_some_iff.mp h
      exact hP.number n k hk
  | .text s, v, h => by
      rw [Document.meaning?] at h
      obtain ⟨s, rfl, rfl⟩ := Option.map_eq_some_iff.mp h
      exact hP.string s
  | .array items, v, h => by
      rw [Document.meaning?] at h
      obtain ⟨values, hvalues, rfl⟩ := Option.map_eq_some_iff.mp h
      exact hP.array items values (of_itemsMeaning? hP items values hvalues)
  | .object given, v, h => by
      rw [Document.meaning?] at h
      obtain ⟨members, hmembers, rfl⟩ := Option.map_eq_some_iff.mp h
      exact hP.object given members (of_membersMeaning? hP given members hmembers)

theorem of_itemsMeaning? (hP : PassesUp P) : ∀ (items : List Document) (values : List Value),
    itemsMeaning? items = some values → List.Forall₂ P items values
  | [], values, h => by
      rw [itemsMeaning?] at h
      rw [← Option.some.inj h]
      exact .nil
  | d :: items, values, h => by
      rw [itemsMeaning?] at h
      obtain ⟨v, hv, h⟩ := Option.bind_eq_some_iff.mp h
      obtain ⟨rest, hrest, h⟩ := Option.bind_eq_some_iff.mp h
      rw [← Option.some.inj h]
      exact .cons (of_meaning? hP d v hv) (of_itemsMeaning? hP items rest hrest)

theorem of_membersMeaning? (hP : PassesUp P) : ∀ (given : List (Option String × Document))
    (members : List (String × Value)), membersMeaning? given = some members →
    List.Forall₂ (fun m p => m.1 = some p.1 ∧ P m.2 p.2) given members
  | [], members, h => by
      rw [membersMeaning?] at h
      rw [← Option.some.inj h]
      exact .nil
  | m :: given, members, h => by
      rw [membersMeaning?] at h
      obtain ⟨name, hname, h⟩ := Option.bind_eq_some_iff.mp h
      obtain ⟨v, hv, h⟩ := Option.bind_eq_some_iff.mp h
      obtain ⟨rest, hrest, h⟩ := Option.bind_eq_some_iff.mp h
      rw [← Option.some.inj h]
      exact .cons ⟨hname, of_meaning? hP m.2 v hv⟩ (of_membersMeaning? hP given rest hrest)

end

end Induction

theorem passesUp_means : PassesUp Means where
  null := .null
  bool := .bool
  number _ _ h := .number h
  string := .string
  array _ _ h := .array h.length_eq fun _ _ hmem => (List.forall₂_iff_zip.mp h).2 hmem
  object given members h := by
    refine .object (fun name => ?_) (isSorted_sortMembers members).nodup ?_
    · rw [exists_mem_iff_of_forall₂ h]
      constructor
      · rintro ⟨p, hp, rfl⟩
        exact ⟨p, (mem_sortMembers_iff.mp hp).mem, rfl⟩
      · rintro ⟨⟨name, v⟩, hp, rfl⟩
        obtain ⟨v, hv⟩ := exists_isLast hp
        exact ⟨(name, v), mem_sortMembers_iff.mpr hv, rfl⟩
    · intro name v d hmem hd
      obtain ⟨d', hd', hmeans⟩ := IsLast.of_forall₂ h (mem_sortMembers_iff.mp hmem)
      rwa [hd.eq hd']

/-- The members of an object mean the values that they are read as. -/
theorem means_of_membersMeaning? {given : List (Option String × Document)}
    {members : List (String × Value)} (h : membersMeaning? given = some members) :
    List.Forall₂ (fun m p => m.1 = some p.1 ∧ Means m.2 p.2) given members :=
  of_membersMeaning? passesUp_means given members h

/-! ## Writing what was read -/

namespace Document

mutual

/-- All numbers of a document are integers of 64 bits. -/
def HasIntegers : Document → Prop
  | .number n => n.IsInteger
  | .array items => HaveIntegers items
  | .object members => HoldIntegers members
  | _ => True

/-- Several documents of this kind. -/
def HaveIntegers : List Document → Prop
  | [] => True
  | d :: rest => d.HasIntegers ∧ HaveIntegers rest

/-- Several members with values of this kind. -/
def HoldIntegers : List (Option String × Document) → Prop
  | [] => True
  | m :: rest => m.2.HasIntegers ∧ HoldIntegers rest

end

theorem haveIntegers_iff (items : List Document) :
    HaveIntegers items ↔ ∀ d ∈ items, d.HasIntegers := by
  induction items with
  | nil => simp [HaveIntegers]
  | cons d rest ih => simp [HaveIntegers, ih]

theorem holdIntegers_iff (members : List (Option String × Document)) :
    HoldIntegers members ↔ ∀ m ∈ members, m.2.HasIntegers := by
  induction members with
  | nil => simp [HoldIntegers]
  | cons m rest ih => simp [HoldIntegers, ih]

theorem areProper_iff (items : List Document) : AreProper items ↔ ∀ d ∈ items, d.IsProper := by
  induction items with
  | nil => simp [AreProper]
  | cons d rest ih => simp [AreProper, ih]

theorem haveProper_iff (members : List (Option String × Document)) :
    HaveProper members ↔ ∀ m ∈ members, m.2.IsProper := by
  induction members with
  | nil => simp [HaveProper]
  | cons m rest ih => simp [HaveProper, ih]

theorem itemsDepth_le_iff (items : List Document) (limit : Nat) :
    itemsDepth items ≤ limit ↔ ∀ d ∈ items, d.depth ≤ limit := by
  induction items with
  | nil => simp [itemsDepth]
  | cons d rest ih => simp [itemsDepth, ih]

theorem membersDepth_le_iff (members : List (Option String × Document)) (limit : Nat) :
    membersDepth members ≤ limit ↔ ∀ m ∈ members, m.2.depth ≤ limit := by
  induction members with
  | nil => simp [membersDepth]
  | cons m rest ih => simp [membersDepth, ih]

end Document

theorem itemsToDocument_eq (values : List Value) :
    itemsToDocument values = values.map Value.toDocument := by
  induction values with
  | nil => rfl
  | cons v rest ih => rw [itemsToDocument, ih, List.map_cons]

theorem membersToDocument_eq (members : List (String × Value)) :
    membersToDocument members = members.map fun m => (some m.1, m.2.toDocument) := by
  induction members with
  | nil => rfl
  | cons m rest ih => rw [membersToDocument, ih, List.map_cons]

@[simp] theorem Value.toDocument_string (s : String) :
    (Value.string s).toDocument = .ofString s := by
  rw [Value.toDocument, Document.ofString]

@[simp] theorem Value.toDocument_ofInt (i : Int) :
    (Value.number (.ofInt i)).toDocument = .number (.ofInt i) := by
  rw [Value.toDocument, Number.toNumeral?_ofInt]

/-- What is written for a value means the value, and it is no deeper than some bound. -/
structure WritesBack (limit : Nat) (v : Value) : Prop where
  proper : v.toDocument.IsProper
  meaning_eq : v.toDocument.meaning? = some v
  depth_le : v.toDocument.depth ≤ limit

theorem WritesBack.mono {limit limit' : Nat} {v : Value} (h : WritesBack limit v)
    (hle : limit ≤ limit') : WritesBack limit' v :=
  ⟨h.proper, h.meaning_eq, h.depth_le.trans hle⟩

theorem writesBack_string (s : String) : WritesBack 0 (.string s) := by
  constructor <;> simp [Value.toDocument, Document.IsProper, Document.meaning?, Document.depth]

theorem writesBack_number {k : Number} {n : Numeral} (hwritten : k.toNumeral? = some n)
    (hproper : n.IsProper) (hread : Number.ofNumeral? n = some k) : WritesBack 0 (.number k) := by
  constructor <;>
    simp [Value.toDocument, hwritten, Document.IsProper, hproper, Document.meaning?, hread,
      Document.depth]

theorem itemsMeaning?_itemsToDocument {limit : Nat} {values : List Value}
    (h : ∀ v ∈ values, WritesBack limit v) :
    itemsMeaning? (itemsToDocument values) = some values := by
  induction values with
  | nil => rfl
  | cons v rest ih =>
      rw [List.forall_mem_cons] at h
      rw [itemsToDocument, itemsMeaning?, h.1.meaning_eq, ih h.2]
      rfl

theorem membersMeaning?_membersToDocument {limit : Nat} {members : List (String × Value)}
    (h : ∀ m ∈ members, WritesBack limit m.2) :
    membersMeaning? (membersToDocument members) = some members := by
  induction members with
  | nil => rfl
  | cons m rest ih =>
      rw [List.forall_mem_cons] at h
      rw [membersToDocument, membersMeaning?, h.1.meaning_eq, ih h.2]
      rfl

theorem writesBack_array {limit : Nat} {values : List Value}
    (h : ∀ v ∈ values, WritesBack limit v) : WritesBack (limit + 1) (.array values) := by
  refine ⟨?_, ?_, ?_⟩
  · rw [Value.toDocument, Document.IsProper, Document.areProper_iff, itemsToDocument_eq,
      List.forall_mem_map]
    exact fun v hv => (h v hv).proper
  · rw [Value.toDocument, Document.meaning?, itemsMeaning?_itemsToDocument h, Option.map_some]
  · rw [Value.toDocument, Document.depth, Nat.add_le_add_iff_right, Document.itemsDepth_le_iff,
      itemsToDocument_eq, List.forall_mem_map]
    exact fun v hv => (h v hv).depth_le

theorem proper_members {limit : Nat} {members : List (String × Value)}
    (h : ∀ m ∈ members, WritesBack limit m.2) :
    (Document.object (membersToDocument members)).IsProper ∧
      (Document.object (membersToDocument members)).depth ≤ limit + 1 := by
  constructor
  · rw [Document.IsProper, Document.haveProper_iff, membersToDocument_eq, List.forall_mem_map]
    exact fun m hm => (h m hm).proper
  · rw [Document.depth, Nat.add_le_add_iff_right, Document.membersDepth_le_iff,
      membersToDocument_eq, List.forall_mem_map]
    exact fun m hm => (h m hm).depth_le

theorem writesBack_object {limit : Nat} {members : List (String × Value)}
    (hsorted : IsSorted members) (h : ∀ m ∈ members, WritesBack limit m.2) :
    WritesBack (limit + 1) (.object members) := by
  obtain ⟨hproper, hdepth⟩ := proper_members h
  refine ⟨?_, ?_, ?_⟩
  · rw [Value.toDocument]
    exact hproper
  · rw [Value.toDocument, Document.meaning?, membersMeaning?_membersToDocument h, Option.map_some,
      sortMembers_eq_self hsorted]
  · rw [Value.toDocument]
    exact hdepth

theorem exists_of_mem_of_forall₂ {α β : Type} {R : α → β → Prop} {xs : List α} {ys : List β}
    (h : List.Forall₂ R xs ys) {y : β} (hy : y ∈ ys) : ∃ x ∈ xs, R x y := by
  induction h with
  | nil => cases hy
  | cons hhead _ ih =>
      obtain rfl | hy := List.mem_cons.mp hy
      · exact ⟨_, List.mem_cons_self, hhead⟩
      · obtain ⟨x, hx, hR⟩ := ih hy
        exact ⟨x, List.mem_cons_of_mem _ hx, hR⟩

theorem passesUp_writesBack : PassesUp fun d v => d.HasIntegers → WritesBack d.depth v where
  null _ := by constructor <;> simp [Value.toDocument, Document.IsProper, Document.meaning?]
  bool b _ := by constructor <;> simp [Value.toDocument, Document.IsProper, Document.meaning?]
  number n k hk hn := by
    rw [Document.HasIntegers] at hn
    obtain ⟨n', hn', hproper, hread⟩ := Number.exists_toNumeral?_of_isInteger hn hk
    exact (writesBack_number hn' hproper hread).mono (Nat.zero_le _)
  string s _ := (writesBack_string s).mono (Nat.zero_le _)
  array items values h hitems := by
    rw [Document.HasIntegers, Document.haveIntegers_iff] at hitems
    rw [Document.depth]
    refine writesBack_array fun v hv => ?_
    obtain ⟨d, hd, hback⟩ := exists_of_mem_of_forall₂ h hv
    exact (hback (hitems d hd)).mono ((Document.itemsDepth_le_iff _ _).mp le_rfl d hd)
  object given members h hmembers := by
    rw [Document.HasIntegers, Document.holdIntegers_iff] at hmembers
    rw [Document.depth]
    refine writesBack_object (isSorted_sortMembers members) fun m hm => ?_
    obtain ⟨m', hm', -, hback⟩ := exists_of_mem_of_forall₂ h (mem_sortMembers_iff.mp hm).mem
    exact (hback (hmembers m' hm')).mono ((Document.membersDepth_le_iff _ _).mp le_rfl m' hm')

/-- What is written for the value of a member means the same, and is no deeper than the members
that were given. -/
theorem writesBack_of_membersMeaning? {given : List (Option String × Document)}
    {members : List (String × Value)} (h : membersMeaning? given = some members)
    (hgiven : (Document.object given).HasIntegers) {p : String × Value} (hp : p ∈ members) :
    WritesBack (Document.membersDepth given) p.2 := by
  rw [Document.HasIntegers, Document.holdIntegers_iff] at hgiven
  obtain ⟨m, hm, -, hback⟩ :=
    exists_of_mem_of_forall₂ (of_membersMeaning? passesUp_writesBack given members h) hp
  exact (hback (hgiven m hm)).mono ((Document.membersDepth_le_iff _ _).mp le_rfl m hm)

end Json
end PatronGateway
