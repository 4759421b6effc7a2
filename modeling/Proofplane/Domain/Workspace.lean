import Proofplane.Domain.Ids
import Mathlib.Data.List.Nodup
import Mathlib.Data.List.Perm.Basic

/-!
# Workspaces and their members

The tenant boundary: a workspace is loaded and saved together with all of its memberships.

* `createOwned`, `rehydrate`, `addMember`, `removeMember`   the operations;
* `Valid`                what `rehydrate` checks: **an owner, every user once, no foreign membership**;
* `addMember_eq_ok`, `addMember_roleFor`   all that the invitation commands need of it;
* `removeMember_ok`      whom a removal removes, and when.
-/

namespace Proofplane

/-- human management-plane role within a workspace -/
inductive WorkspaceRole
  | owner | admin
  deriving DecidableEq, Repr

structure WorkspaceMembership where
  userId : UserId
  workspaceId : WorkspaceId
  role : WorkspaceRole
  createdAt : Int
  deriving DecidableEq, Repr

structure Workspace where
  id : WorkspaceId
  slug : Option String
  name : String
  createdAt : Int
  memberships : List WorkspaceMembership
  deriving DecidableEq, Repr

inductive WorkspaceError
  | invalidMemberships | alreadyMember
  deriving DecidableEq, Repr

inductive WorkspaceMemberError
  | unavailable | notFound | lastOwner | selfRemoval
  deriving DecidableEq, Repr

namespace Workspace

def createOwned (id : WorkspaceId) (slug : Option String) (name : String) (createdAt : Int)
    (ownerUserId : UserId) : Workspace where
  id := id
  slug := slug
  name := name
  createdAt := createdAt
  memberships := [⟨ownerUserId, id, .owner, createdAt⟩]

def rehydrate (id : WorkspaceId) (slug : Option String) (name : String) (createdAt : Int)
    (memberships : List WorkspaceMembership) : Except WorkspaceError Workspace :=
  let inScope := memberships.all fun m => m.workspaceId = id
  let uniqueUsers := decide (memberships.map WorkspaceMembership.userId).Nodup
  let hasOwner := memberships.any fun m => m.role = .owner
  if !inScope || !uniqueUsers || !hasOwner then .error .invalidMemberships
  else .ok ⟨id, slug, name, createdAt, memberships⟩

def roleFor (w : Workspace) (userId : UserId) : Option WorkspaceRole :=
  (w.memberships.find? fun m => m.userId = userId).map WorkspaceMembership.role

def addMember (w : Workspace) (userId : UserId) (role : WorkspaceRole) (createdAt : Int) :
    Except WorkspaceError Workspace :=
  if (w.roleFor userId).isSome then .error .alreadyMember
  else .ok { w with memberships := w.memberships ++ [⟨userId, w.id, role, createdAt⟩] }

def removeMember (w : Workspace) (actorUserId targetUserId : UserId) :
    Except WorkspaceMemberError Workspace :=
  match w.roleFor actorUserId with
  | none => .error .unavailable
  -- owners and admins, that is every member, may remove members
  | some _ =>
    match w.memberships.find? fun m => m.userId = targetUserId with
    | none => .error .notFound
    | some target =>
      if target.role = .owner ∧ (w.memberships.filter fun m => m.role = .owner).length = 1 then
        .error .lastOwner
      else if actorUserId = targetUserId then .error .selfRemoval
      else .ok { w with memberships := w.memberships.eraseP fun m => m.userId = targetUserId }

theorem rehydrate_ok {id : WorkspaceId} {slug : Option String} {name : String} {createdAt : Int}
    {ms : List WorkspaceMembership} {w : Workspace}
    (h : rehydrate id slug name createdAt ms = .ok w) : w = ⟨id, slug, name, createdAt, ms⟩ := by
  unfold rehydrate at h
  dsimp only at h
  split at h
  · cases h
  · cases h
    rfl

theorem addMember_eq_ok {w : Workspace} {userId : UserId} (role : WorkspaceRole) (createdAt : Int)
    (h : w.roleFor userId = none) :
    w.addMember userId role createdAt
      = .ok { w with memberships := w.memberships ++ [⟨userId, w.id, role, createdAt⟩] } := by
  unfold addMember
  rw [h]
  rfl

theorem addMember_roleFor {w w' : Workspace} {userId : UserId} {role : WorkspaceRole}
    {createdAt : Int} (h : w.addMember userId role createdAt = .ok w') :
    w'.roleFor userId = some role := by
  cases hr : w.roleFor userId with
  | some r =>
    unfold addMember at h
    rw [hr] at h
    cases h
  | none =>
    rw [addMember_eq_ok role createdAt hr] at h
    cases h
    unfold roleFor at hr ⊢
    rw [List.find?_append, Option.map_eq_none_iff.mp hr]
    simp

/-! ## What the operations keep -/

/-- what `rehydrate` checks -/
structure Valid (w : Workspace) : Prop where
  inScope : ∀ m ∈ w.memberships, m.workspaceId = w.id
  uniqueUsers : (w.memberships.map WorkspaceMembership.userId).Nodup
  hasOwner : ∃ m ∈ w.memberships, m.role = .owner

theorem rehydrate_iff (w : Workspace) :
    rehydrate w.id w.slug w.name w.createdAt w.memberships = .ok w ↔ w.Valid := by
  have hscope : (w.memberships.all fun m => m.workspaceId = w.id) = true ↔
      ∀ m ∈ w.memberships, m.workspaceId = w.id := by
    rw [List.all_eq_true]
    simp only [decide_eq_true_eq]
  have howner : (w.memberships.any fun m => m.role = .owner) = true ↔
      ∃ m ∈ w.memberships, m.role = .owner := by
    rw [List.any_eq_true]
    simp only [decide_eq_true_eq]
  unfold rehydrate
  dsimp only
  by_cases h : w.Valid
  · rw [hscope.mpr h.inScope, howner.mpr h.hasOwner, decide_eq_true h.uniqueUsers]
    exact iff_of_true rfl h
  · rw [if_pos]
    · exact iff_of_false (fun hc => (by cases hc)) h
    · by_contra hno
      simp only [Bool.or_eq_true, Bool.not_eq_true', not_or, Bool.not_eq_false] at hno
      exact h ⟨hscope.mp hno.1.1, of_decide_eq_true hno.1.2, howner.mp hno.2⟩

theorem createOwned_valid (id : WorkspaceId) (slug : Option String) (name : String) (createdAt : Int)
    (ownerUserId : UserId) : (createOwned id slug name createdAt ownerUserId).Valid where
  inScope m hm := by
    rw [List.mem_singleton.mp hm]
    rfl
  uniqueUsers := List.nodup_singleton _
  hasOwner := ⟨_, List.mem_singleton_self _, rfl⟩

theorem roleFor_eq_none_iff {w : Workspace} {userId : UserId} :
    w.roleFor userId = none ↔ ∀ m ∈ w.memberships, m.userId ≠ userId := by
  unfold roleFor
  rw [Option.map_eq_none_iff, List.find?_eq_none]
  simp only [decide_eq_true_eq, ne_eq]

theorem addMember_valid {w w' : Workspace} {userId : UserId} {role : WorkspaceRole} {createdAt : Int}
    (hv : w.Valid) (h : w.addMember userId role createdAt = .ok w') : w'.Valid := by
  unfold addMember at h
  split at h
  · cases h
  · next hnone =>
    cases h
    have hfresh := roleFor_eq_none_iff.mp (Option.not_isSome_iff_eq_none.mp hnone)
    obtain ⟨owner, howner, hrole⟩ := hv.hasOwner
    refine ⟨fun m hm => ?_, ?_, owner, List.mem_append_left _ howner, hrole⟩
    · rcases List.mem_append.mp hm with hm | hm
      · exact hv.inScope m hm
      · rw [List.mem_singleton.mp hm]
    · rw [List.map_append, List.nodup_append]
      refine ⟨hv.uniqueUsers, List.nodup_singleton _, ?_⟩
      intro u hu v hv' heq
      obtain ⟨m, hm, rfl⟩ := List.mem_map.mp hu
      have hv'' : v = userId := by simpa using hv'
      exact hfresh m hm (heq.trans hv'')

/-- erasing the only element with a key -/
theorem mem_eraseP_user {l : List WorkspaceMembership} {userId : UserId}
    (hnodup : (l.map WorkspaceMembership.userId).Nodup) {x : WorkspaceMembership} :
    x ∈ l.eraseP (fun m => m.userId = userId) ↔ x ∈ l ∧ x.userId ≠ userId := by
  induction l with
  | nil => simp
  | cons m l ih =>
    rw [List.map_cons, List.nodup_cons] at hnodup
    obtain ⟨hm, hl⟩ := hnodup
    by_cases hu : m.userId = userId
    · have hgone : (m :: l).eraseP (fun m => m.userId = userId) = l :=
        List.eraseP_cons_of_pos (decide_eq_true hu)
      rw [hgone]
      constructor
      · intro hx
        refine ⟨List.mem_cons_of_mem _ hx, fun hxu => hm ?_⟩
        rw [hu, ← hxu]
        exact List.mem_map_of_mem hx
      · rintro ⟨hx, hne⟩
        rcases List.mem_cons.mp hx with rfl | hx
        · exact absurd hu hne
        · exact hx
    · have hstays : (m :: l).eraseP (fun m => m.userId = userId)
          = m :: l.eraseP fun m => m.userId = userId :=
        List.eraseP_cons_of_neg (by simpa using hu)
      rw [hstays, List.mem_cons, List.mem_cons, ih hl]
      constructor
      · rintro (rfl | ⟨hx, hne⟩)
        · exact ⟨.inl rfl, hu⟩
        · exact ⟨.inr hx, hne⟩
      · rintro ⟨rfl | hx, hne⟩
        · exact .inl rfl
        · exact .inr ⟨hx, hne⟩

/-- **Who is removed, and when**: a member who is neither the actor nor the last owner, by a member. -/
theorem removeMember_ok {w w' : Workspace} {actor target : UserId}
    (h : w.removeMember actor target = .ok w') :
    (∃ role, w.roleFor actor = some role) ∧ actor ≠ target ∧
      (∃ m ∈ w.memberships, m.userId = target ∧
        (m.role = .owner → (w.memberships.filter fun m => m.role = .owner).length ≠ 1)) ∧
      w' = { w with memberships := w.memberships.eraseP fun m => m.userId = target } := by
  unfold removeMember at h
  split at h
  · cases h
  · next role hrole =>
    split at h
    · cases h
    · next m hfind =>
      split at h
      · cases h
      · next hlast =>
        split at h
        · cases h
        · next hself =>
          cases h
          have hm := List.mem_of_find?_eq_some hfind
          have hu : m.userId = target := by simpa using List.find?_some hfind
          exact ⟨⟨role, hrole⟩, hself, ⟨m, hm, hu, fun ho hc => hlast ⟨ho, hc⟩⟩, rfl⟩

/-- the owners that are left when one of two or more goes, or someone else -/
theorem removeMember_valid {w w' : Workspace} {actor target : UserId} (hv : w.Valid)
    (h : w.removeMember actor target = .ok w') : w'.Valid := by
  obtain ⟨-, -, ⟨m, hm, hu, hlast⟩, rfl⟩ := removeMember_ok h
  refine ⟨fun x hx => hv.inScope x (List.mem_of_mem_eraseP hx),
    hv.uniqueUsers.sublist (List.eraseP_sublist.map _), ?_⟩
  -- an owner other than the target
  have hother : ∃ x ∈ w.memberships, x.role = .owner ∧ x.userId ≠ target := by
    by_contra hno
    push Not at hno
    obtain ⟨owner, howner, hrole⟩ := hv.hasOwner
    have howners : ∀ x ∈ w.memberships.filter fun m => m.role = .owner, x = m := by
      intro x hx
      obtain ⟨hx, hxr⟩ := List.mem_filter.mp hx
      exact List.inj_on_of_nodup_map hv.uniqueUsers hx hm
        ((hno x hx (of_decide_eq_true hxr)).trans hu.symm)
    have hmowner : m.role = .owner := by
      have hin : owner ∈ w.memberships.filter fun m => m.role = .owner :=
        List.mem_filter.mpr ⟨howner, decide_eq_true hrole⟩
      rw [← howners owner hin]
      exact hrole
    have hnodup : (w.memberships.filter fun m => m.role = .owner).Nodup :=
      (List.Nodup.of_map _ hv.uniqueUsers).filter _
    have hmem : m ∈ w.memberships.filter fun m => m.role = .owner :=
      List.mem_filter.mpr ⟨hm, decide_eq_true hmowner⟩
    have hone : (w.memberships.filter fun m => m.role = .owner) = [m] :=
      List.perm_singleton.mp ((List.perm_ext_iff_of_nodup hnodup (List.nodup_singleton m)).mpr
        fun x => ⟨fun hx => List.mem_singleton.mpr (howners x hx),
          fun hx => List.mem_singleton.mp hx ▸ hmem⟩)
    exact hlast hmowner (by rw [hone]; rfl)
  obtain ⟨x, hx, hrole, hne⟩ := hother
  exact ⟨x, (mem_eraseP_user hv.uniqueUsers).mpr ⟨hx, hne⟩, hrole⟩

end Workspace

end Proofplane
