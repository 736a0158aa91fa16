import Mathlib.Data.List.Forall2
import Mathlib.Data.List.Nodup
import Mathlib.Data.String.Basic
import PatronGateway.Json.Value

/-!
# Members by their names

Members may repeat a name.  Sorting them keeps, of each name, the last one, and nothing else; a row
that stands in the order of its names is its own sorted form, and it is determined by what it holds.

* `IsLast` says which value a name has last.
* `mem_insertMember_iff` is the step of sorting, and `mem_sortMembers_iff` what comes of it.
* `IsSorted.eq` is what the order is good for.
-/

namespace PatronGateway
namespace Json

section Last

variable {κ α β : Type} {m : κ × α} {members : List (κ × α)} {name : κ} {value value' : α}

/-- Among members, the last one of a name has a value. -/
def IsLast (members : List (κ × α)) (name : κ) (value : α) : Prop :=
  ∃ before after, members = before ++ (name, value) :: after ∧ ∀ m ∈ after, m.1 ≠ name

theorem isLast_nil : ¬ IsLast [] name value := by
  rintro ⟨before, after, hsplit, -⟩
  simp at hsplit

theorem isLast_cons_iff :
    IsLast (m :: members) name value ↔
      IsLast members name value ∨ m = (name, value) ∧ ∀ m' ∈ members, m'.1 ≠ name := by
  constructor
  · rintro ⟨before, after, hsplit, hafter⟩
    cases before with
    | nil =>
        obtain ⟨hfirst, rfl⟩ := List.cons.inj hsplit
        exact .inr ⟨hfirst, hafter⟩
    | cons m' before =>
        obtain ⟨-, hrest⟩ := List.cons.inj hsplit
        exact .inl ⟨before, after, hrest, hafter⟩
  · rintro (⟨before, after, rfl, hafter⟩ | ⟨rfl, hafter⟩)
    · exact ⟨m :: before, after, rfl, hafter⟩
    · exact ⟨[], members, rfl, hafter⟩

theorem IsLast.mem (h : IsLast members name value) : (name, value) ∈ members := by
  obtain ⟨before, after, rfl, -⟩ := h
  simp

/-- A name has one value last. -/
theorem IsLast.eq (h : IsLast members name value) (h' : IsLast members name value') :
    value = value' := by
  induction members with
  | nil => exact absurd h isLast_nil
  | cons m members ih =>
      rw [isLast_cons_iff] at h h'
      obtain h | ⟨hm, hother⟩ := h
      · obtain h' | ⟨-, hother'⟩ := h'
        · exact ih h h'
        · exact absurd rfl (hother' _ h.mem)
      · obtain h' | ⟨hm', -⟩ := h'
        · exact absurd rfl (hother _ h'.mem)
        · rw [hm] at hm'
          exact (Prod.mk.inj hm').2

/-- A name that is given has a value last. -/
theorem exists_isLast (h : (name, value) ∈ members) : ∃ value', IsLast members name value' := by
  induction members generalizing value with
  | nil => cases h
  | cons m members ih =>
      by_cases hlater : ∃ m' ∈ members, m'.1 = name
      · obtain ⟨⟨name, later⟩, hmem, rfl⟩ := hlater
        obtain ⟨value', hlast⟩ := ih hmem
        exact ⟨value', isLast_cons_iff.mpr (.inl hlast)⟩
      · obtain rfl | hmem := List.mem_cons.mp h
        · exact ⟨value, isLast_cons_iff.mpr (.inr ⟨rfl, fun m' hm' heq => hlater ⟨m', hm', heq⟩⟩)⟩
        · exact absurd ⟨_, hmem, rfl⟩ hlater

/-- Where no name is repeated, every member is the last one of its name. -/
theorem isLast_iff_mem (h : (members.map Prod.fst).Nodup) :
    IsLast members name value ↔ (name, value) ∈ members := by
  refine ⟨IsLast.mem, fun hmem => ?_⟩
  obtain ⟨before, after, rfl⟩ := List.append_of_mem hmem
  refine ⟨before, after, rfl, fun m hm heq => ?_⟩
  rw [List.map_append, List.map_cons, List.nodup_append] at h
  exact (List.nodup_cons.mp h.2.1).1 (List.mem_map.mpr ⟨m, hm, heq⟩)

section Reading

variable {R : α → β → Prop} {given : List (Option κ × α)} {read : List (κ × β)} {result : β}

/-- What was read of members has their names. -/
theorem names_of_forall₂ (h : List.Forall₂ (fun m p => m.1 = some p.1 ∧ R m.2 p.2) given read) :
    given.map Prod.fst = read.map fun p => some p.1 := by
  induction h with
  | nil => rfl
  | cons hhead _ ih => rw [List.map_cons, List.map_cons, hhead.1, ih]

theorem exists_mem_iff_of_forall₂
    (h : List.Forall₂ (fun m p => m.1 = some p.1 ∧ R m.2 p.2) given read) :
    (∃ m ∈ given, m.1 = some name) ↔ ∃ p ∈ read, p.1 = name := by
  have hnames := names_of_forall₂ h
  have hgiven : (∃ m ∈ given, m.1 = some name) ↔ some name ∈ given.map Prod.fst := by simp
  rw [hgiven, hnames]
  simp

/-- The last value that was read of a name comes from the last one of that name. -/
theorem IsLast.of_forall₂
    (h : List.Forall₂ (fun m p => m.1 = some p.1 ∧ R m.2 p.2) given read)
    (hlast : IsLast read name result) :
    ∃ value, IsLast given (some name) value ∧ R value result := by
  induction h with
  | nil => exact absurd hlast isLast_nil
  | cons hhead htail ih =>
      rename_i m p given read
      obtain hrest | ⟨rfl, hother⟩ := isLast_cons_iff.mp hlast
      · obtain ⟨value, hvalue, hR⟩ := ih hrest
        exact ⟨value, isLast_cons_iff.mpr (.inl hvalue), hR⟩
      · refine ⟨m.2, isLast_cons_iff.mpr (.inr ⟨Prod.ext hhead.1 rfl, ?_⟩), hhead.2⟩
        intro m' hm' heq
        obtain ⟨p', hp', hname⟩ := (exists_mem_iff_of_forall₂ htail).mp ⟨m', hm', heq⟩
        exact hother p' hp' hname

end Reading

end Last

/-! ## Sorting -/

section Sorting

variable {α : Type} {p : String × α} {members members' : List (String × α)} {name : String}
  {value : α}

/-- Members stand in the order of their names, each of which they hold once. -/
def IsSorted (members : List (String × α)) : Prop :=
  members.Pairwise fun m m' => m.1 < m'.1

theorem IsSorted.nodup (h : IsSorted members) : (members.map Prod.fst).Nodup := by
  unfold List.Nodup
  rw [List.pairwise_map]
  exact List.Pairwise.imp (fun hlt => hlt.ne) h

theorem IsSorted.filter (h : IsSorted members) (keep : String × α → Bool) :
    IsSorted (members.filter keep) :=
  List.Pairwise.filter keep h

/-- What is inserted takes the place of its name, and everything else stays. -/
theorem mem_insertMember_iff (h : IsSorted members) :
    p ∈ insertMember name value members ↔
      p = (name, value) ∨ p.1 ≠ name ∧ p ∈ members := by
  induction members with
  | nil => simp [insertMember]
  | cons m rest ih =>
      obtain ⟨hfirst, hrest⟩ := List.pairwise_cons.mp h
      unfold insertMember
      split
      case isTrue heq =>
        have hname : name = m.1 := by simpa using heq
        have hother : ∀ p' ∈ rest, p'.1 ≠ name := fun p' hp' =>
          hname ▸ (hfirst p' hp').ne'
        rw [List.mem_cons, List.mem_cons]
        constructor
        · rintro (rfl | hmem)
          · exact .inl rfl
          · exact .inr ⟨hother p hmem, .inr hmem⟩
        · rintro (rfl | ⟨hne, rfl | hmem⟩)
          · exact .inl rfl
          · exact absurd hname.symm hne
          · exact .inr hmem
      case isFalse hne =>
        split
        case isTrue hlt =>
          have hother : ∀ p' ∈ m :: rest, p'.1 ≠ name := by
            intro p' hp'
            obtain rfl | hp' := List.mem_cons.mp hp'
            · exact hlt.ne'
            · exact (hlt.trans (hfirst p' hp')).ne'
          rw [List.mem_cons]
          exact or_congr_right ⟨fun hmem => ⟨hother p hmem, hmem⟩, And.right⟩
        case isFalse hge =>
          have hname : m.1 ≠ name := fun heq => hne (by simp [heq])
          rw [List.mem_cons, ih hrest, List.mem_cons]
          constructor
          · rintro (rfl | rfl | ⟨hp, hmem⟩)
            · exact .inr ⟨hname, .inl rfl⟩
            · exact .inl rfl
            · exact .inr ⟨hp, .inr hmem⟩
          · rintro (rfl | ⟨hp, rfl | hmem⟩)
            · exact .inr (.inl rfl)
            · exact .inl rfl
            · exact .inr (.inr ⟨hp, hmem⟩)

theorem isSorted_insertMember (h : IsSorted members) :
    IsSorted (insertMember name value members) := by
  induction members with
  | nil => exact List.pairwise_singleton _ _
  | cons m rest ih =>
      obtain ⟨hfirst, hrest⟩ := List.pairwise_cons.mp h
      unfold insertMember
      split
      case isTrue heq =>
        have hname : name = m.1 := by simpa using heq
        exact List.pairwise_cons.mpr ⟨fun p hp => hname ▸ hfirst p hp, hrest⟩
      case isFalse hne =>
        split
        case isTrue hlt =>
          refine List.pairwise_cons.mpr ⟨fun p hp => ?_, h⟩
          obtain rfl | hp := List.mem_cons.mp hp
          · exact hlt
          · exact hlt.trans (hfirst p hp)
        case isFalse hge =>
          have hlt : m.1 < name :=
            lt_of_le_of_ne (not_lt.mp hge) fun heq => hne (by simp [heq])
          refine List.pairwise_cons.mpr ⟨fun p hp => ?_, ih hrest⟩
          obtain rfl | ⟨-, hmem⟩ := (mem_insertMember_iff hrest).mp hp
          · exact hlt
          · exact hfirst p hmem

/-- Inserting members one after the other leaves the order, and the last one of each name. -/
theorem foldl_insertMember_spec (sorted : List (String × α)) (h : IsSorted sorted) :
    IsSorted (members.foldl (fun sorted m => insertMember m.1 m.2 sorted) sorted) ∧
      ∀ name value,
        (name, value) ∈ members.foldl (fun sorted m => insertMember m.1 m.2 sorted) sorted ↔
          IsLast members name value ∨ (∀ m ∈ members, m.1 ≠ name) ∧ (name, value) ∈ sorted := by
  induction members generalizing sorted with
  | nil => exact ⟨h, fun name value => by simp [isLast_nil]⟩
  | cons m members ih =>
      obtain ⟨hsorted, hmem⟩ := ih (insertMember m.1 m.2 sorted) (isSorted_insertMember h)
      refine ⟨hsorted, fun name value => ?_⟩
      rw [List.foldl_cons, hmem, mem_insertMember_iff h, isLast_cons_iff, List.forall_mem_cons,
        Prod.mk.eta]
      constructor
      · rintro (hlast | ⟨hother, rfl | ⟨hne, hin⟩⟩)
        · exact .inl (.inl hlast)
        · exact .inl (.inr ⟨rfl, hother⟩)
        · exact .inr ⟨⟨Ne.symm hne, hother⟩, hin⟩
      · rintro ((hlast | ⟨rfl, hother⟩) | ⟨⟨hne, hother⟩, hin⟩)
        · exact .inl hlast
        · exact .inr ⟨hother, .inl rfl⟩
        · exact .inr ⟨hother, .inr ⟨Ne.symm hne, hin⟩⟩

theorem isSorted_sortMembers (members : List (String × α)) : IsSorted (sortMembers members) :=
  (foldl_insertMember_spec [] List.Pairwise.nil).1

/-- Sorting keeps the last member of each name. -/
theorem mem_sortMembers_iff :
    (name, value) ∈ sortMembers members ↔ IsLast members name value := by
  unfold sortMembers
  rw [(foldl_insertMember_spec [] List.Pairwise.nil).2 name value]
  simp

/-- Sorted members are determined by what they hold. -/
theorem IsSorted.eq (h : IsSorted members) (h' : IsSorted members')
    (hmem : ∀ p, p ∈ members ↔ p ∈ members') : members = members' := by
  have hnodup : members.Nodup := h.nodup.of_map
  have hnodup' : members'.Nodup := h'.nodup.of_map
  refine ((List.perm_ext_iff_of_nodup hnodup hnodup').mpr hmem).eq_of_pairwise ?_ h h'
  intro p p' _ _ hlt hgt
  exact absurd hgt hlt.asymm

theorem sortMembers_eq_self (h : IsSorted members) : sortMembers members = members :=
  (isSorted_sortMembers members).eq h fun _ => mem_sortMembers_iff.trans (isLast_iff_mem h.nodup)

end Sorting

end Json
end PatronGateway
