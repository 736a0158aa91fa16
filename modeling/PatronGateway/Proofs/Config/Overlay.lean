import Mathlib.Data.List.Induction
import PatronGateway.Config.Loader
import PatronGateway.Proofs.Config.Guess

/-!
# What one more variable changes

A variable is laid over the settings of a file together with all others.  Where no other variable
leads to the same member of a part, or to the part as a whole, the tree of all settings differs
from the one without the variable in this member alone.

* `HasBesides` is the difference that a variable makes among the settings of the environment;
  `hasBesides_extend` says that another variable keeps it.
* `Overrides` is the difference between the trees; `Overrides.putAt` says that it stays when
  something else is put into both, and `Overrides.putAll` says so of a whole row.
* `overrides_gather` puts this together.
-/

namespace PatronGateway
namespace Config

open Variables (guess pathText?)

/-! ## Tables -/

section Tables

variable {α : Type} {key : String} {value : α} {members : List (String × α)}

namespace Tree

theorem setMember_cons_self {m : String × α} (h : m.1 = key) :
    setMember key value (m :: members) = (key, value) :: members := by
  rw [setMember, if_pos h]

theorem setMember_cons_ne {m : String × α} (h : m.1 ≠ key) :
    setMember key value (m :: members) = m :: setMember key value members := by
  rw [setMember, if_neg h]

theorem lookup_cons_ne {m : String × α} {name : String} (h : name ≠ m.1) :
    (m :: members).lookup name = members.lookup name := by
  rw [List.lookup_cons, beq_false_of_ne h]

theorem lookup_setMember_self : (setMember key value members).lookup key = some value := by
  induction members with
  | nil => exact List.lookup_cons_self
  | cons m rest ih =>
      by_cases hm : m.1 = key
      · rw [setMember_cons_self hm, List.lookup_cons_self]
      · rw [setMember_cons_ne hm, lookup_cons_ne (Ne.symm hm), ih]

theorem lookup_setMember_ne {name : String} (h : name ≠ key) :
    (setMember key value members).lookup name = members.lookup name := by
  induction members with
  | nil => exact lookup_cons_ne h
  | cons m rest ih =>
      by_cases hm : m.1 = key
      · rw [setMember_cons_self hm, lookup_cons_ne h, lookup_cons_ne (hm ▸ h)]
      · rw [setMember_cons_ne hm, List.lookup_cons, List.lookup_cons, ih]

theorem mem_setMember {m : String × α} (h : m ∈ setMember key value members) :
    m = (key, value) ∨ m ∈ members := by
  induction members with
  | nil => simpa [setMember] using h
  | cons m' rest ih =>
      by_cases hm' : m'.1 = key
      · rw [setMember_cons_self hm', List.mem_cons] at h
        exact h.imp_right (List.mem_cons_of_mem _)
      · rw [setMember_cons_ne hm', List.mem_cons] at h
        obtain rfl | h := h
        · exact .inr List.mem_cons_self
        · exact (ih h).imp_right (List.mem_cons_of_mem _)

theorem setMember_append_of_mem (h : key ∈ members.map Prod.fst) (rest : List (String × α)) :
    setMember key value (members ++ rest) = setMember key value members ++ rest := by
  induction members with
  | nil => cases h
  | cons m members ih =>
      rw [List.cons_append]
      by_cases hm : m.1 = key
      · rw [setMember_cons_self hm, setMember_cons_self hm, List.cons_append]
      · have hrest : key ∈ members.map Prod.fst := by simpa [Ne.symm hm] using h
        rw [setMember_cons_ne hm, setMember_cons_ne hm, ih hrest, List.cons_append]

theorem setMember_append_of_not_mem (h : key ∉ members.map Prod.fst) (rest : List (String × α)) :
    setMember key value (members ++ rest) = members ++ setMember key value rest := by
  induction members with
  | nil => rfl
  | cons m members ih =>
      rw [List.map_cons, List.mem_cons, not_or] at h
      rw [List.cons_append, setMember_cons_ne (Ne.symm h.1), ih h.2, List.cons_append]

end Tree

/-- A row has one member more than another one, somewhere. -/
def HasBesides (m : String × α) (members members' : List (String × α)) : Prop :=
  ∃ before after, members = before ++ after ∧ members' = before ++ m :: after

theorem HasBesides.setMember {m : String × α} {members' : List (String × α)}
    (h : HasBesides m members members') (hkey : key ≠ m.1) :
    HasBesides m (Tree.setMember key value members) (Tree.setMember key value members') := by
  obtain ⟨before, after, rfl, rfl⟩ := h
  by_cases hmem : key ∈ before.map Prod.fst
  · rw [Tree.setMember_append_of_mem hmem, Tree.setMember_append_of_mem hmem]
    exact ⟨_, after, rfl, rfl⟩
  · rw [Tree.setMember_append_of_not_mem hmem, Tree.setMember_append_of_not_mem hmem]
    exact ⟨before, _, rfl, congrArg _ (Tree.setMember_cons_ne (Ne.symm hkey))⟩

end Tables

/-! ## Variables -/

namespace Variables

variable {w : String × String} {vs vs₁ vs₂ : Variables} {path : String}

/-- What one more variable sets. -/
def extend (found : List (String × Tree)) (w : String × String) : List (String × Tree) :=
  match pathText? w.1 with
  | some path => Tree.setMember path (guess w.2) found
  | none => found

theorem settings_eq (vs : Variables) : vs.settings = vs.foldl extend [] := rfl

theorem extend_of_some (h : pathText? w.1 = some path) (found : List (String × Tree)) :
    extend found w = Tree.setMember path (guess w.2) found := by
  rw [extend, h]

theorem extend_of_none (h : pathText? w.1 = none) (found : List (String × Tree)) :
    extend found w = found := by
  rw [extend, h]

/-- Whatever is set is set by a variable. -/
theorem exists_of_mem_settings {m : String × Tree} (h : m ∈ vs.settings) :
    ∃ w ∈ vs, pathText? w.1 = some m.1 := by
  rw [settings_eq] at h
  induction vs using List.reverseRecOn with
  | nil => cases h
  | append_singleton vs w ih =>
      have hearlier : m ∈ vs.foldl extend [] → ∃ w' ∈ vs ++ [w], pathText? w'.1 = some m.1 := by
        intro hm
        obtain ⟨w', hw', hpath⟩ := ih hm
        exact ⟨w', List.mem_append_left _ hw', hpath⟩
      rw [List.foldl_append, List.foldl_cons, List.foldl_nil] at h
      cases hpath : pathText? w.1 with
      | none =>
          rw [extend_of_none hpath] at h
          exact hearlier h
      | some path =>
          rw [extend_of_some hpath] at h
          obtain rfl | h := Tree.mem_setMember h
          · exact ⟨w, by simp, hpath⟩
          · exact hearlier h

section HasBesides

variable {m : String × Tree} {found found' : List (String × Tree)}

/-- A variable for another path keeps the difference of one member. -/
theorem hasBesides_extend (h : HasBesides m found found') (hw : pathText? w.1 ≠ some m.1) :
    HasBesides m (extend found w) (extend found' w) := by
  cases hpath : pathText? w.1 with
  | none => rwa [extend_of_none hpath, extend_of_none hpath]
  | some path =>
      rw [extend_of_some hpath, extend_of_some hpath]
      exact h.setMember fun heq => hw (hpath.trans (congrArg some heq))

theorem hasBesides_foldl_extend (h : HasBesides m found found')
    (hvs : ∀ w ∈ vs, pathText? w.1 ≠ some m.1) :
    HasBesides m (vs.foldl extend found) (vs.foldl extend found') := by
  induction vs generalizing found found' with
  | nil => exact h
  | cons w vs ih =>
      rw [List.forall_mem_cons] at hvs
      exact ih (hasBesides_extend h hvs.1) hvs.2

end HasBesides

/-- A variable for a path that no other one has adds what it sets, and nothing else changes. -/
theorem hasBesides_settings {name v : String} (hpath : pathText? name = some path)
    (hothers : ∀ w ∈ vs₁ ++ vs₂, pathText? w.1 ≠ some path) :
    HasBesides (path, guess v) (vs₁ ++ vs₂).settings (vs₁ ++ (name, v) :: vs₂).settings := by
  have hfresh : path ∉ vs₁.settings.map Prod.fst := by
    intro hmem
    obtain ⟨m, hm, rfl⟩ := List.mem_map.mp hmem
    obtain ⟨w, hw, hwpath⟩ := exists_of_mem_settings hm
    exact hothers w (List.mem_append_left _ hw) hwpath
  -- the variable comes at the end of what is set until then, and what is set later goes around it
  have hlast : extend vs₁.settings (name, v) = vs₁.settings ++ [(path, guess v)] := by
    have happend : Tree.setMember path (guess v) (vs₁.settings ++ []) = _ :=
      Tree.setMember_append_of_not_mem hfresh []
    rwa [List.append_nil, ← extend_of_some (w := (name, v)) hpath] at happend
  have hnew : HasBesides (path, guess v) vs₁.settings (extend vs₁.settings (name, v)) :=
    ⟨_, [], (List.append_nil _).symm, hlast⟩
  have hrun := hasBesides_foldl_extend hnew fun w hw => hothers w (List.mem_append_right _ hw)
  rw [settings_eq, settings_eq, List.foldl_append, List.foldl_append, List.foldl_cons]
  exact hrun

end Variables

/-! ## Trees -/

namespace Tree

variable {p : Path} {name : String} {new t t' : Tree}

theorem memberOf_congr (h : t'.members.lookup name = t.members.lookup name) :
    t'.memberOf name = t.memberOf name := by
  rw [memberOf, memberOf, h]

theorem memberOf_of_lookup {u : Tree} (h : t.members.lookup name = some u) :
    t.memberOf name = u := by
  rw [memberOf, h]
  rfl

theorem lookup_putAt_root (p : Path) (new t : Tree) :
    (putAt p new t).members.lookup p.root = some (overlayAt new p.steps (t.memberOf p.root)) :=
  lookup_setMember_self

theorem lookup_putAt_ne (h : name ≠ p.root) :
    (putAt p new t).members.lookup name = t.members.lookup name :=
  lookup_setMember_ne h

theorem putAll_append (ms ms' : List (String × Tree)) (t : Tree) :
    putAll (ms ++ ms') t = putAll ms' (putAll ms t) := by
  unfold putAll
  rw [List.foldl_append]

end Tree

/-- A path leads past a member of a part: into another part, or to another member. -/
def Path.Spares (p : Path) (part key : String) : Prop :=
  p.root = part → ∃ name rest, p.steps = .member name :: rest ∧ name ≠ key

/-- Two trees differ at most in a member of a part, where the second one has a given value. -/
structure Overrides (part key : String) (value t t' : Tree) : Prop where
  others : ∀ name ≠ part, t'.members.lookup name = t.members.lookup name
  part : ∃ ms, t'.members.lookup part = some (.table ms) ∧ ms.lookup key = some value ∧
    ∀ name ≠ key, ms.lookup name = (t.memberOf part).members.lookup name

section Overrides

variable {part key : String} {value t t' : Tree}

/-- Putting a value at the path of a member changes nothing else. -/
theorem overrides_putAt {p : Path} (hp : p = ⟨part, [.member key]⟩)
    (hvalue : ∀ t, Tree.overlay t value = value) (t : Tree) :
    Overrides part key value t (Tree.putAt p value t) := by
  have hroot := Tree.lookup_putAt_root p value t
  subst hp
  refine ⟨fun _ hname => Tree.lookup_putAt_ne hname, _, hroot, ?_, ?_⟩
  · exact Tree.lookup_setMember_self.trans (congrArg some (hvalue _))
  · exact fun _ hname => Tree.lookup_setMember_ne hname

/-- What is put into both trees, past the member, leaves that difference. -/
theorem Overrides.putAt (h : Overrides part key value t t') {p : Path} (hp : p.Spares part key)
    (new : Tree) : Overrides part key value (Tree.putAt p new t) (Tree.putAt p new t') := by
  obtain ⟨ms, hpart, hkey, hrest⟩ := h.part
  by_cases hroot : p.root = part
  · obtain ⟨name, steps, hsteps, hname⟩ := hp hroot
    subst hroot
    -- what is put goes to another member, below which both trees are alike
    have hbelow : (Tree.table ms).memberOf name = (t.memberOf p.root).memberOf name :=
      Tree.memberOf_congr (hrest name hname)
    refine ⟨fun other hother => ?_, ?_⟩
    · rw [Tree.lookup_putAt_ne hother, Tree.lookup_putAt_ne hother, h.others other hother]
    · rw [Tree.lookup_putAt_root, Tree.memberOf_of_lookup hpart,
        Tree.memberOf_of_lookup (Tree.lookup_putAt_root p new t), hsteps]
      unfold Tree.overlayAt
      rw [hbelow]
      refine ⟨_, rfl, (Tree.lookup_setMember_ne (Ne.symm hname)).trans hkey, fun other hother => ?_⟩
      by_cases heq : other = name
      · rw [heq, Tree.members, Tree.lookup_setMember_self, Tree.members,
          Tree.lookup_setMember_self]
      · exact (Tree.lookup_setMember_ne heq).trans
          ((hrest other hother).trans (Tree.lookup_setMember_ne heq).symm)
  · -- what is put goes to another part
    have hpart' : (Tree.putAt p new t).memberOf part = t.memberOf part :=
      Tree.memberOf_congr (Tree.lookup_putAt_ne (Ne.symm hroot))
    refine ⟨fun other hother => ?_, ms, ?_, hkey, hpart' ▸ hrest⟩
    · by_cases heq : other = p.root
      · subst heq
        rw [Tree.lookup_putAt_root, Tree.lookup_putAt_root,
          Tree.memberOf_congr (h.others _ hother)]
      · rw [Tree.lookup_putAt_ne heq, Tree.lookup_putAt_ne heq, h.others other hother]
    · rw [Tree.lookup_putAt_ne (Ne.symm hroot), hpart]

/-- So does a whole row. -/
theorem Overrides.putAll (h : Overrides part key value t t') {ms : List (String × Tree)}
    (hms : ∀ m ∈ ms, (Path.ofText m.1).Spares part key) :
    Overrides part key value (Tree.putAll ms t) (Tree.putAll ms t') := by
  induction ms generalizing t t' with
  | nil => exact h
  | cons m ms ih =>
      rw [List.forall_mem_cons] at hms
      exact ih (h.putAt hms.1 m.2) hms.2

end Overrides

/-- Everything that is set makes a table. -/
theorem exists_table_putAll (ms : List (String × Tree)) {t : Tree} (h : ∃ ts, t = .table ts) :
    ∃ ts, Tree.putAll ms t = .table ts := by
  induction ms generalizing t with
  | nil => exact h
  | cons m ms ih => exact ih ⟨_, rfl⟩

theorem exists_table_gather (file : List (String × Tree)) (vs : Variables) :
    ∃ ts, gather file vs = .table ts :=
  exists_table_putAll _ (exists_table_putAll file ⟨[], rfl⟩)

/-- A variable leads past a member of a part, if it sets anything. -/
def Variables.Spares (w : String × String) (part key : String) : Prop :=
  ∀ path, pathText? w.1 = some path → (Path.ofText path).Spares part key

/-- Laid over a file with others that lead past its member, a variable changes this member, and
nothing else. -/
theorem overrides_gather {name v path part key : String} {vs₁ vs₂ : Variables}
    (hname : pathText? name = some path) (hpath : Path.ofText path = ⟨part, [.member key]⟩)
    (hvalue : ∀ t, Tree.overlay t (guess v) = guess v)
    (hothers : ∀ w ∈ vs₁ ++ vs₂, Variables.Spares w part key) (file : List (String × Tree)) :
    Overrides part key (guess v) (gather file (vs₁ ++ vs₂))
      (gather file (vs₁ ++ (name, v) :: vs₂)) := by
  have hfree : ∀ w ∈ vs₁ ++ vs₂, pathText? w.1 ≠ some path := by
    intro w hw heq
    have hspares := hothers w hw path heq
    rw [hpath] at hspares
    obtain ⟨other, rest, hsteps, hne⟩ := hspares rfl
    exact hne (Step.member.inj (List.cons.inj hsteps).1).symm
  obtain ⟨before, after, hbefore, hafter⟩ := Variables.hasBesides_settings (v := v) hname hfree
  have hspares : ∀ m ∈ before ++ after, (Path.ofText m.1).Spares part key := by
    intro m hm
    rw [← hbefore] at hm
    obtain ⟨w, hw, hwpath⟩ := Variables.exists_of_mem_settings hm
    exact hothers w hw m.1 hwpath
  have hput := overrides_putAt hpath hvalue (Tree.putAll before (Tree.putAll file (.table [])))
  rw [gather, gather, hbefore, hafter, Tree.putAll_append, Tree.putAll_append]
  exact hput.putAll fun m hm => hspares m (List.mem_append_right _ hm)

end Config
end PatronGateway
