import PatronGateway.Hold.Request
import PatronGateway.Proofs.Text.Uuid

/-!
# Which cancellations are valid

A request to cancel a hold is valid for a hold id in a path if its three ids and that of the path
are UUIDs, and the hold is the same on both sides.  Only the UUIDs count, not how they are
spelled.  Where something is wrong, the fault is about the first id of the four that is no UUID,
and about the holds only if all four are UUIDs.

* `mapM_uuidField_cases` reads a row of ids up to the first that is no UUID.
* `Request.FirstFault` says which fault a request has.
* `Request.validate_eq_ok_iff` and `Request.validate_eq_error_iff` are the two outcomes, and
  `Request.validate_respelled` compares requests that differ in their spellings.
-/

namespace PatronGateway
namespace Hold

open Text (Uuid)

/-- A text spells some UUID. -/
def IsUuid (value : String) : Prop := ∃ u, Uuid.Spells value.toList u

/-- Two texts spell the same UUID. -/
def SameUuid (value value' : String) : Prop :=
  ∃ u, Uuid.Spells value.toList u ∧ Uuid.Spells value'.toList u

/-- A text is another one, or spells the same UUID. -/
def Respelled (value value' : String) : Prop := value = value' ∨ SameUuid value value'

section Fields

variable {field value value' : String} {u : Uuid} {f : Fault}

theorem Respelled.symm (h : Respelled value value') : Respelled value' value :=
  h.imp Eq.symm fun ⟨u, hu, hu'⟩ => ⟨u, hu', hu⟩

/-- Whoever spells a text anew spells the same UUID. -/
theorem Respelled.spells (h : Respelled value value') (hu : Uuid.Spells value.toList u) :
    Uuid.Spells value'.toList u := by
  rcases h with rfl | ⟨w, hw, hw'⟩
  · exact hu
  · rw [hu.eq hw]
    exact hw'

theorem Respelled.isUuid_iff (h : Respelled value value') : IsUuid value ↔ IsUuid value' :=
  ⟨fun ⟨u, hu⟩ => ⟨u, h.spells hu⟩, fun ⟨u, hu⟩ => ⟨u, h.symm.spells hu⟩⟩

/-- What is wrong with a field that is no UUID. -/
def fieldFault (field value : String) : Fault :=
  if Text.isBlank value then .missing field else .notUuid field value

theorem uuidField_eq_ok_iff : uuidField field value = .ok u ↔ Uuid.Spells value.toList u := by
  unfold uuidField
  rw [← Uuid.ofChars?_eq_some_iff]
  constructor
  · intro h
    split at h
    · cases h
    · split at h
      · next hread =>
          cases h
          exact hread
      · cases h
  · intro h
    have hread : Uuid.read? value = some u := h
    rw [if_neg (by rw [(Uuid.ofChars?_eq_some_iff.mp h).not_isBlank]; decide), hread]

/-- A field that is no UUID is at fault. -/
theorem uuidField_of_not_isUuid (h : ¬ IsUuid value) :
    uuidField field value = .error (fieldFault field value) := by
  have hread : Uuid.read? value = none := by
    rw [Option.eq_none_iff_forall_ne_some]
    exact fun u hu => h ⟨u, Uuid.ofChars?_eq_some_iff.mp hu⟩
  unfold uuidField fieldFault
  split
  · rfl
  · rw [hread]

/-- The ids of a row are read one after the other, up to the first that is no UUID. -/
theorem mapM_uuidField_cases (fields : List (String × String)) :
    (∃ us, fields.mapM (fun x => uuidField x.1 x.2) = .ok us ∧
      List.Forall₂ (fun x u => Uuid.Spells x.2.toList u) fields us) ∨
    ∃ before field value after, fields = before ++ (field, value) :: after ∧
      (∀ x ∈ before, IsUuid x.2) ∧ ¬ IsUuid value ∧
      fields.mapM (fun x => uuidField x.1 x.2) = .error (fieldFault field value) := by
  -- the row is split at the first id that fails, so the ids before it grow with the row
  induction fields with
  | nil => exact Or.inl ⟨[], rfl, .nil⟩
  | cons x fields ih =>
      obtain ⟨field, value⟩ := x
      rw [List.mapM_cons]
      by_cases hvalue : IsUuid value
      case neg =>
        rw [uuidField_of_not_isUuid hvalue]
        exact Or.inr ⟨[], field, value, fields, rfl, nofun, hvalue, rfl⟩
      obtain ⟨u, hu⟩ := hvalue
      rw [uuidField_eq_ok_iff.mpr hu]
      obtain ⟨us, hread, hspelled⟩ | ⟨before, field', value', after, rfl, hbefore, hno, hread⟩ := ih
      · rw [hread]
        exact Or.inl ⟨u :: us, rfl, .cons hu hspelled⟩
      · rw [hread]
        refine Or.inr ⟨(field, value) :: before, field', value', after, rfl, ?_, hno, rfl⟩
        exact List.forall_mem_cons.mpr ⟨⟨u, hu⟩, hbefore⟩

theorem isUuid_of_forall₂ {fields : List (String × String)} {us : List Uuid}
    (h : List.Forall₂ (fun x u => Uuid.Spells x.2.toList u) fields us) :
    ∀ x ∈ fields, IsUuid x.2 := by
  induction h with
  | nil => exact nofun
  | cons hu _ ih => exact List.forall_mem_cons.mpr ⟨⟨_, hu⟩, ih⟩

end Fields

namespace Request

/-- The ids that are checked, each under the name that faults have for it. -/
def idFields (r : Request) (pathHoldId : String) : List (String × String) :=
  [("path holdId", pathHoldId), ("holdId", r.holdId),
    ("cancellationReasonId", r.cancellationReasonId), ("canceledByUserId", r.canceledByUserId)]

/-- All four ids are UUIDs, and the hold of the path is the one of the request. -/
def Accepted (r : Request) (pathHoldId : String) : Prop :=
  (∀ x ∈ r.idFields pathHoldId, IsUuid x.2) ∧ SameUuid pathHoldId r.holdId

/-- The first thing that is wrong with a request: the first of the ids that is no UUID, which is
missing or is not one, and after all of these that the holds differ. -/
inductive FirstFault (r : Request) (pathHoldId : String) : Fault → Prop
  | field {before after : List (String × String)} {field value : String}
      (hsplit : r.idFields pathHoldId = before ++ (field, value) :: after)
      (hbefore : ∀ x ∈ before, IsUuid x.2) (hvalue : ¬ IsUuid value) :
      FirstFault r pathHoldId (fieldFault field value)
  | otherHold (hall : ∀ x ∈ r.idFields pathHoldId, IsUuid x.2)
      (hdiffer : ¬ SameUuid pathHoldId r.holdId) :
      FirstFault r pathHoldId (.otherHold r.holdId pathHoldId)

variable {r : Request} {p : String} {f f' : Fault}

/-- The first thing in a row that does not have a property is one thing. -/
theorem eq_of_first {α : Type} {P : α → Prop} {xs before before' after after' : List α} {x x' : α}
    (h : xs = before ++ x :: after) (h' : xs = before' ++ x' :: after')
    (hbefore : ∀ y ∈ before, P y) (hbefore' : ∀ y ∈ before', P y) (hx : ¬ P x) (hx' : ¬ P x') :
    x = x' := by
  induction before generalizing xs before' with
  | nil =>
      cases before' with
      | nil => exact (List.cons.inj (h.symm.trans h')).1
      | cons y before' =>
          have hfirst := (List.cons.inj (h.symm.trans h')).1
          exact absurd (hfirst ▸ hbefore' y List.mem_cons_self) hx
  | cons y before ih =>
      cases before' with
      | nil =>
          have hfirst := (List.cons.inj (h.symm.trans h')).1
          exact absurd (hfirst ▸ hbefore y List.mem_cons_self) hx'
      | cons y' before' =>
          have hrest := (List.cons.inj (h.symm.trans h')).2
          exact ih rfl hrest (fun z hz => hbefore z (List.mem_cons_of_mem _ hz))
            fun z hz => hbefore' z (List.mem_cons_of_mem _ hz)

/-- A request has one first fault at most. -/
theorem FirstFault.eq (h : r.FirstFault p f) (h' : r.FirstFault p f') : f = f' := by
  cases h with
  | field hsplit hbefore hvalue =>
      cases h' with
      | field hsplit' hbefore' hvalue' =>
          have hsame := eq_of_first (P := fun x : String × String => IsUuid x.2) hsplit hsplit'
            hbefore hbefore' hvalue hvalue'
          rw [(Prod.mk.inj hsame).1, (Prod.mk.inj hsame).2]
      | otherHold hall =>
          exact absurd (hall _ (hsplit ▸ List.mem_append_right _ List.mem_cons_self)) hvalue
  | otherHold hall =>
      cases h' with
      | field hsplit' _ hvalue' =>
          exact absurd (hall _ (hsplit' ▸ List.mem_append_right _ List.mem_cons_self)) hvalue'
      | otherHold => rfl

theorem FirstFault.not_accepted (h : r.FirstFault p f) : ¬ r.Accepted p := by
  rintro ⟨hall, hsame⟩
  cases h with
  | field hsplit _ hvalue =>
      exact hvalue (hall _ (hsplit ▸ List.mem_append_right _ List.mem_cons_self))
  | otherHold _ hdiffer => exact hdiffer hsame

/-- A check reads the four ids in their order, and then compares the first two. -/
theorem validate_eq (r : Request) (p : String) :
    r.validate p = ((r.idFields p).mapM fun x => uuidField x.1 x.2).bind fun us =>
      if us[0]? = us[1]? then .ok () else .error (.otherHold r.holdId p) := by
  unfold validate idFields
  simp only [List.mapM_cons, List.mapM_nil]
  cases uuidField "path holdId" p with
  | error f => rfl
  | ok u =>
      cases uuidField "holdId" r.holdId with
      | error f => rfl
      | ok v =>
          cases uuidField "cancellationReasonId" r.cancellationReasonId with
          | error f => rfl
          | ok w =>
              cases uuidField "canceledByUserId" r.canceledByUserId with
              | error f => rfl
              | ok x => simp [bind, Except.bind, pure, Except.pure]

/-- A check finds the first fault, or the request is accepted. -/
theorem validate_cases (r : Request) (p : String) :
    (r.validate p = .ok () ∧ r.Accepted p) ∨
      ∃ f, r.validate p = .error f ∧ r.FirstFault p f := by
  rw [validate_eq]
  obtain ⟨us, hread, hspelled⟩ | ⟨before, field, value, after, hsplit, hbefore, hno, hread⟩ :=
    mapM_uuidField_cases (r.idFields p)
  · have hall := isUuid_of_forall₂ hspelled
    rw [hread]
    dsimp only [Except.bind]
    cases hspelled with
    | @cons _ u _ us hu hrest =>
        cases hrest with
        -- both sides of the comparison spell one UUID each, whatever their texts
        | @cons _ v _ us hv _ =>
            have hfirst : (u :: v :: us)[0]? = (u :: v :: us)[1]? ↔ u = v := by simp
            by_cases hsame : u = v
            · rw [if_pos (hfirst.mpr hsame)]
              exact Or.inl ⟨rfl, hall, u, hu, hsame ▸ hv⟩
            · rw [if_neg fun h => hsame (hfirst.mp h)]
              refine Or.inr ⟨_, rfl, .otherHold hall ?_⟩
              rintro ⟨w, hw, hw'⟩
              exact hsame ((hu.eq hw).trans (hw'.eq hv))
  · rw [hread]
    exact Or.inr ⟨_, rfl, .field hsplit hbefore hno⟩

/-- A request is valid if it is accepted. -/
theorem validate_eq_ok_iff : r.validate p = .ok () ↔ r.Accepted p := by
  rcases r.validate_cases p with ⟨hok, haccepted⟩ | ⟨f, herror, hfirst⟩
  · exact iff_of_true hok haccepted
  · exact iff_of_false (by rw [herror]; exact nofun) hfirst.not_accepted

/-- A request that is not valid has its first fault. -/
theorem validate_eq_error_iff : r.validate p = .error f ↔ r.FirstFault p f := by
  rcases r.validate_cases p with ⟨hok, haccepted⟩ | ⟨f', herror, hfirst⟩
  · exact iff_of_false (by rw [hok]; exact nofun) fun h => h.not_accepted haccepted
  · constructor
    · intro h
      rw [Except.error.inj (h.symm.trans herror)]
      exact hfirst
    · intro h
      rw [h.eq hfirst]
      exact herror

/-- How the ids are spelled does not count. -/
theorem validate_respelled {r' : Request} {p' : String} (hpath : Respelled p p')
    (hhold : Respelled r.holdId r'.holdId)
    (hreason : Respelled r.cancellationReasonId r'.cancellationReasonId)
    (huser : Respelled r.canceledByUserId r'.canceledByUserId) :
    r.validate p = .ok () ↔ r'.validate p' = .ok () := by
  have hsame : SameUuid p r.holdId ↔ SameUuid p' r'.holdId :=
    ⟨fun ⟨u, hu, hu'⟩ => ⟨u, hpath.spells hu, hhold.spells hu'⟩,
      fun ⟨u, hu, hu'⟩ => ⟨u, hpath.symm.spells hu, hhold.symm.spells hu'⟩⟩
  rw [validate_eq_ok_iff, validate_eq_ok_iff]
  unfold Accepted idFields
  simp only [List.forall_mem_cons, hpath.isUuid_iff, hhold.isUuid_iff, hreason.isUuid_iff,
    huser.isUuid_iff, hsame]

end Request
end Hold
end PatronGateway
