import Proofplane.Base.Table
import Proofplane.Base.Time
import Proofplane.Domain.Workspace

/-!
# Workspaces and memberships in the database

The tables `workspaces` (primary key `id`) and `workspace_memberships` (primary key `user_id`, so a
user belongs to one workspace at most), with the reads and the aggregate repository over them.

* `resolveIdForMember`, `roleFor`    the reads of a member's workspace and role;
* `getWorkspace`, `saveWorkspace`    the workspace with all its memberships; a save replaces them;
* `Owned`, `Owned.loads`             every workspace has an owner, and so it loads;
* `saveWorkspace_getWorkspace`       a save followed by a load, `saveWorkspace_others` and the other rows.
-/

namespace Proofplane
open Base

inductive ConflictKind
  | agentConnectionExists | workspaceSlugTaken | workspaceMembershipExists | policyNameTaken
  deriving DecidableEq, Repr

/-- why a unit of work fails -/
inductive RepositoryError
  | database
  | conflict (kind : ConflictKind)
  | invalidData
  | invariantViolation (message : String)
  deriving DecidableEq, Repr

/-- a row of `workspaces` -/
structure WorkspaceDetails where
  id : WorkspaceId
  slug : Option String
  name : String
  createdAt : Int
  deriving DecidableEq, Repr

structure WorkspaceTables where
  workspaces : Table WorkspaceDetails.id
  memberships : Table WorkspaceMembership.userId

namespace WorkspaceTables

def resolveIdForMember (db : WorkspaceTables) (userId : UserId) : Option WorkspaceId :=
  (db.memberships.get? userId).map WorkspaceMembership.workspaceId

def roleFor (db : WorkspaceTables) (workspaceId : WorkspaceId) (userId : UserId) :
    Option WorkspaceRole :=
  ((db.memberships.get? userId).filter fun m => m.workspaceId = workspaceId).map
    WorkspaceMembership.role

/-- the workspace with its memberships, locked; their order carries nothing -/
def getWorkspace (db : WorkspaceTables) (id : WorkspaceId) :
    Except RepositoryError (Option Workspace) :=
  match db.workspaces.get? id with
  | none => .ok none
  | some row =>
    match Workspace.rehydrate row.id row.slug row.name row.createdAt
        (db.memberships.rows.filter fun m => m.workspaceId = id) with
    | .error _ => .error (.invariantViolation "persisted workspace membership snapshot is inconsistent")
    | .ok workspace => .ok (some workspace)

/-- `INSERT INTO workspace_memberships`, refused where the user has a row already -/
def insertMemberships (memberships : Table WorkspaceMembership.userId) :
    List WorkspaceMembership → Except RepositoryError (Table WorkspaceMembership.userId)
  | [] => .ok memberships
  | m :: ms =>
    match memberships.get? m.userId with
    | some _ => .error (.conflict .workspaceMembershipExists)
    | none => insertMemberships (memberships.upsert { m with createdAt := pgTimestamp m.createdAt }) ms

/-- the table without the memberships of a workspace -/
def deleteMemberships (memberships : Table WorkspaceMembership.userId) (id : WorkspaceId) :
    Table WorkspaceMembership.userId where
  rows := memberships.rows.filter fun m => m.workspaceId ≠ id
  nodup := memberships.nodup.sublist (List.filter_sublist.map _)

/-- the complete snapshot: the row and all of the memberships -/
def saveWorkspace (db : WorkspaceTables) (w : Workspace) : Except RepositoryError WorkspaceTables :=
  if w.slug.isSome && db.workspaces.rows.any (fun r => r.slug = w.slug && r.id ≠ w.id) then
    .error (.conflict .workspaceSlugTaken)
  else
    match insertMemberships (deleteMemberships db.memberships w.id) w.memberships with
    | .error e => .error e
    | .ok memberships =>
      .ok { workspaces := db.workspaces.upsert ⟨w.id, w.slug, w.name, pgTimestamp w.createdAt⟩
            memberships := memberships }

/-- a workspace that is there is never reported missing -/
theorem getWorkspace_ne_none {db : WorkspaceTables} {id : WorkspaceId}
    (h : db.workspaces.get? id ≠ none) : db.getWorkspace id ≠ .ok none := by
  unfold getWorkspace
  cases hrow : db.workspaces.get? id with
  | none => exact absurd hrow h
  | some row =>
    dsimp only
    split
    · intro hc
      cases hc
    · intro hc
      cases hc

/-- a loaded workspace is its row with exactly the memberships in it -/
theorem getWorkspace_ok {db : WorkspaceTables} {id : WorkspaceId} {w : Workspace}
    (h : db.getWorkspace id = .ok (some w)) :
    ∃ row, db.workspaces.get? id = some row ∧
      w = ⟨id, row.slug, row.name, row.createdAt,
        db.memberships.rows.filter fun m => m.workspaceId = id⟩ := by
  unfold getWorkspace at h
  split at h
  · cases h
  · next row hrow =>
    have hid : row.id = id := Table.get?_key hrow
    split at h
    · cases h
    · next w' hw =>
      cases h
      refine ⟨row, hrow, ?_⟩
      rw [Workspace.rehydrate_ok hw, hid]

/-- a user has a role in a loaded workspace exactly as their membership says -/
theorem getWorkspace_roleFor {db : WorkspaceTables} {id : WorkspaceId} {w : Workspace}
    (h : db.getWorkspace id = .ok (some w)) (userId : UserId) :
    w.roleFor userId = db.roleFor id userId := by
  obtain ⟨row, -, rfl⟩ := getWorkspace_ok h
  unfold Workspace.roleFor roleFor
  congr 1
  show (db.memberships.rows.filter fun m => decide (m.workspaceId = id)).find?
      (fun m => decide (m.userId = userId))
    = (db.memberships.get? userId).filter fun m => decide (m.workspaceId = id)
  cases hget : db.memberships.get? userId with
  | none =>
    rw [Table.get?_eq_none_iff] at hget
    rw [Option.filter_none, List.find?_eq_none]
    intro m hm hu
    exact hget m (List.mem_filter.mp hm).1 (of_decide_eq_true hu)
  | some m =>
    obtain ⟨hm, hu⟩ := Table.get?_eq_some_iff.mp hget
    by_cases hw : m.workspaceId = id
    · rw [Option.filter_some, if_pos (decide_eq_true hw)]
      have hmem : m ∈ db.memberships.rows.filter fun m => decide (m.workspaceId = id) :=
        List.mem_filter.mpr ⟨hm, decide_eq_true hw⟩
      cases hfind : (db.memberships.rows.filter fun m => decide (m.workspaceId = id)).find?
          (fun m => decide (m.userId = userId)) with
      | none => exact absurd (decide_eq_true hu) (List.find?_eq_none.mp hfind m hmem)
      | some n =>
        have hn := List.mem_filter.mp (List.mem_of_find?_eq_some hfind)
        have hnu : n.userId = userId := by simpa using List.find?_some hfind
        rw [db.memberships.eq_of_key hn.1 hm (hnu.trans hu.symm)]
    · rw [Option.filter_some, if_neg (by simpa using hw), List.find?_eq_none]
      intro n hn hnu
      have hmem := List.mem_filter.mp hn
      have heq : n = m := db.memberships.eq_of_key hmem.1 hm ((of_decide_eq_true hnu).trans hu.symm)
      rw [heq] at hmem
      exact hw (of_decide_eq_true hmem.2)

/-- what a membership is stored as -/
def storedMembership (m : WorkspaceMembership) : WorkspaceMembership :=
  { m with createdAt := pgTimestamp m.createdAt }

theorem insertMemberships_ok {ms : List WorkspaceMembership}
    {t t' : Table WorkspaceMembership.userId} (h : insertMemberships t ms = .ok t')
    (x : WorkspaceMembership) :
    x ∈ t'.rows ↔ x ∈ t.rows ∨ ∃ m ∈ ms, x = storedMembership m := by
  induction ms generalizing t with
  | nil =>
    cases h
    simp
  | cons m ms ih =>
    unfold insertMemberships at h
    split at h
    · cases h
    · next hnone =>
      have hno := Table.get?_eq_none_iff.mp hnone
      rw [ih h, Table.mem_upsert]
      constructor
      · rintro ((rfl | ⟨hx, -⟩) | ⟨n, hn, rfl⟩)
        · exact .inr ⟨m, List.mem_cons_self, rfl⟩
        · exact .inl hx
        · exact .inr ⟨n, List.mem_cons_of_mem _ hn, rfl⟩
      · rintro (hx | ⟨n, hn, rfl⟩)
        · exact .inl (.inr ⟨hx, hno x hx⟩)
        · rcases List.mem_cons.mp hn with rfl | hn
          · exact .inl (.inl rfl)
          · exact .inr ⟨n, hn, rfl⟩

theorem mem_deleteMemberships {t : Table WorkspaceMembership.userId} {id : WorkspaceId}
    {x : WorkspaceMembership} :
    x ∈ (deleteMemberships t id).rows ↔ x ∈ t.rows ∧ x.workspaceId ≠ id := by
  show x ∈ t.rows.filter _ ↔ _
  rw [List.mem_filter, decide_eq_true_eq]

/-- **A save replaces the memberships of the workspace by those of the snapshot.** -/
theorem saveWorkspace_ok {db db' : WorkspaceTables} {w : Workspace}
    (h : db.saveWorkspace w = .ok db') :
    db'.workspaces = db.workspaces.upsert ⟨w.id, w.slug, w.name, pgTimestamp w.createdAt⟩ ∧
      ∀ x, x ∈ db'.memberships.rows ↔ (x ∈ db.memberships.rows ∧ x.workspaceId ≠ w.id) ∨
        ∃ m ∈ w.memberships, x = storedMembership m := by
  unfold saveWorkspace at h
  split at h
  · cases h
  · split at h
    · cases h
    · next memberships hinsert =>
      cases h
      refine ⟨rfl, fun x => ?_⟩
      rw [insertMemberships_ok hinsert, mem_deleteMemberships]

/-- the rows of the other workspaces are as they were -/
theorem saveWorkspace_others {db db' : WorkspaceTables} {w : Workspace}
    (hscope : ∀ m ∈ w.memberships, m.workspaceId = w.id) (h : db.saveWorkspace w = .ok db') :
    (∀ id, id ≠ w.id → db'.workspaces.get? id = db.workspaces.get? id) ∧
      ∀ x : WorkspaceMembership, x.workspaceId ≠ w.id →
        (x ∈ db'.memberships.rows ↔ x ∈ db.memberships.rows) := by
  obtain ⟨hworkspaces, hmemberships⟩ := saveWorkspace_ok h
  refine ⟨fun id hne => ?_, fun x hx => ?_⟩
  · rw [hworkspaces]
    exact Table.get?_upsert_of_ne _ (fun hc => hne (Eq.symm hc))
  · rw [hmemberships x]
    constructor
    · rintro (⟨hold, -⟩ | ⟨m, hm, rfl⟩)
      · exact hold
      · exact absurd (hscope m hm) hx
    · intro hold
      exact .inl ⟨hold, hx⟩

/-- every instant is one that its column can hold -/
structure Stored (db : WorkspaceTables) : Prop where
  memberships : ∀ m ∈ db.memberships.rows, storedMembership m = m
  workspaces : ∀ w ∈ db.workspaces.rows, pgTimestamp w.createdAt = w.createdAt

theorem saveWorkspace_stored {db db' : WorkspaceTables} {w : Workspace} (hdb : db.Stored)
    (h : db.saveWorkspace w = .ok db') : db'.Stored := by
  obtain ⟨hworkspaces, hmemberships⟩ := saveWorkspace_ok h
  refine ⟨fun m hm => ?_, fun row hrow => ?_⟩
  · rcases (hmemberships m).mp hm with ⟨hold, -⟩ | ⟨n, -, rfl⟩
    · exact hdb.memberships m hold
    · unfold storedMembership
      rw [pgTimestamp_idem]
  · rw [hworkspaces] at hrow
    rcases Table.mem_upsert.mp hrow with rfl | ⟨hold, -⟩
    · exact pgTimestamp_idem _
    · exact hdb.workspaces row hold

/-- every workspace has an owner among the memberships -/
def Owned (db : WorkspaceTables) : Prop :=
  ∀ id row, db.workspaces.get? id = some row →
    ∃ m ∈ db.memberships.rows, m.workspaceId = id ∧ m.role = .owner

/-- **A workspace with an owner loads**: the table and the read see to the rest of what `rehydrate`
checks. -/
theorem Owned.loads {db : WorkspaceTables} (hdb : db.Owned) {id : WorkspaceId}
    {row : WorkspaceDetails} (hrow : db.workspaces.get? id = some row) :
    ∃ w, db.getWorkspace id = .ok (some w) ∧ w.Valid := by
  have hid : row.id = id := Table.get?_key hrow
  have hvalid : Workspace.Valid ⟨row.id, row.slug, row.name, row.createdAt,
      db.memberships.rows.filter fun m => m.workspaceId = id⟩ := by
    refine ⟨fun m hm => ?_, db.memberships.nodup.sublist (List.filter_sublist.map _), ?_⟩
    · have hin : m.workspaceId = id := of_decide_eq_true (List.mem_filter.mp hm).2
      exact hin.trans hid.symm
    · obtain ⟨m, hm, hin, hrole⟩ := hdb id row hrow
      exact ⟨m, List.mem_filter.mpr ⟨hm, decide_eq_true hin⟩, hrole⟩
  refine ⟨_, ?_, hvalid⟩
  unfold getWorkspace
  rw [hrow]
  dsimp only
  rw [(Workspace.rehydrate_iff _).mpr hvalid]

theorem saveWorkspace_owned {db db' : WorkspaceTables} {w : Workspace} (hdb : db.Owned)
    (hw : w.Valid) (h : db.saveWorkspace w = .ok db') : db'.Owned := by
  obtain ⟨hothers, hkept⟩ := saveWorkspace_others hw.inScope h
  intro id row hrow
  by_cases hid : id = w.id
  · obtain ⟨owner, howner, hrole⟩ := hw.hasOwner
    refine ⟨storedMembership owner, ?_, (hw.inScope owner howner).trans hid.symm, hrole⟩
    exact ((saveWorkspace_ok h).2 _).mpr (.inr ⟨owner, howner, rfl⟩)
  · rw [hothers id hid] at hrow
    obtain ⟨m, hm, hin, hrole⟩ := hdb id row hrow
    exact ⟨m, (hkept m (fun hc => hid (hin.symm.trans hc))).mpr hm, hin, hrole⟩

/-- what a workspace is loaded as once it has been saved -/
structure SavedAs (w w' : Workspace) : Prop where
  id : w'.id = w.id
  slug : w'.slug = w.slug
  name : w'.name = w.name
  createdAt : w'.createdAt = pgTimestamp w.createdAt
  memberships : ∀ x, x ∈ w'.memberships ↔ ∃ m ∈ w.memberships, x = storedMembership m

/-- **A save followed by a load gives the same members back.** -/
theorem saveWorkspace_getWorkspace {db db' : WorkspaceTables} {w : Workspace} (hw : w.Valid)
    (h : db.saveWorkspace w = .ok db') :
    ∃ w', db'.getWorkspace w.id = .ok (some w') ∧ SavedAs w w' := by
  obtain ⟨hworkspaces, hmemberships⟩ := saveWorkspace_ok h
  have hrow : db'.workspaces.get? w.id = some ⟨w.id, w.slug, w.name, pgTimestamp w.createdAt⟩ := by
    rw [hworkspaces]
    exact Table.get?_upsert_self _ _
  -- of the rows that the read selects only the saved ones are left
  have hmembers : ∀ x, x ∈ db'.memberships.rows.filter (fun m => m.workspaceId = w.id) ↔
      ∃ m ∈ w.memberships, x = storedMembership m := by
    intro x
    rw [List.mem_filter, hmemberships x, decide_eq_true_eq]
    constructor
    · rintro ⟨⟨-, hne⟩ | hm, hin⟩
      · exact absurd hin hne
      · exact hm
    · rintro ⟨m, hm, rfl⟩
      exact ⟨.inr ⟨m, hm, rfl⟩, hw.inScope m hm⟩
  have hvalid : Workspace.Valid ⟨w.id, w.slug, w.name, pgTimestamp w.createdAt,
      db'.memberships.rows.filter fun m => m.workspaceId = w.id⟩ := by
    refine ⟨fun m hm => of_decide_eq_true (List.mem_filter.mp hm).2,
      db'.memberships.nodup.sublist (List.filter_sublist.map _), ?_⟩
    obtain ⟨owner, howner, hrole⟩ := hw.hasOwner
    exact ⟨storedMembership owner, (hmembers _).mpr ⟨owner, howner, rfl⟩, hrole⟩
  refine ⟨⟨w.id, w.slug, w.name, pgTimestamp w.createdAt, _⟩, ?_, rfl, rfl, rfl, rfl, hmembers⟩
  unfold getWorkspace
  rw [hrow]
  dsimp only
  rw [(Workspace.rehydrate_iff _).mpr hvalid]

end WorkspaceTables

end Proofplane
