import Proofplane.Base.Grouping
import Proofplane.Base.Normalise
import Proofplane.OAuth.Admission

/-!
# The permissions of connections in the database

A connection's permissions are rows of a table of their own, without an order.  A save deletes those of
the connection and inserts them anew; every query that reads them sorts their names by their places in
an array that is written out in the query, and any sort will do.

* `savePermissions`, `savePermissions_ok_iff`   what a save does to the table;
* `getSqlPermissions`, `reusableSqlPermissions`, `authoritySqlPermissions`   what the queries aggregate;
* `HoldsPermissions rows db` the rows are those of the connections; `HoldsPermissions.save` keeps it;
* `loadConnection`, `readReusable`   the reads over the rows, which are those of the tables without them;
* `ServerAndRows`            **the server and its rows at work**, `holds` in every state they come to;
* `permission_lists_canonical`   **every list of permissions that is compared is in the one order**.
-/

namespace Proofplane
open Base

/-! ## The rows -/

structure AgentConnectionPermissionRecord where
  agentConnectionId : AgentConnectionId
  permission : String
  deriving DecidableEq, Repr

def AgentConnectionPermissionRecord.fromDomain (agentConnectionId : AgentConnectionId)
    (permission : WorkspacePermission) : AgentConnectionPermissionRecord :=
  ⟨agentConnectionId, permission.asStr⟩

/-- the rows of `workspace_permissions` -/
def workspacePermissionRows : List String :=
  ["read_evidence", "write_evidence", "read_evidence_submissions", "write_evidence_submissions",
    "read_controls", "write_controls", "manage_auditor_access"]

/-- an insertion, with the primary key and the reference of the table -/
def insertPermission (rows : List AgentConnectionPermissionRecord)
    (record : AgentConnectionPermissionRecord) :
    Except RepositoryError (List AgentConnectionPermissionRecord) :=
  if record ∈ rows ∨ record.permission ∉ workspacePermissionRows then .error .database
  else .ok (record :: rows)

def insertPermissions (id : AgentConnectionId) (rows : List AgentConnectionPermissionRecord) :
    List WorkspacePermission → Except RepositoryError (List AgentConnectionPermissionRecord)
  | [] => .ok rows
  | p :: ps =>
    match insertPermission rows (.fromDomain id p) with
    | .error e => .error e
    | .ok rows => insertPermissions id rows ps

/-- what the save of a connection does to the table -/
def savePermissions (rows : List AgentConnectionPermissionRecord) (id : AgentConnectionId)
    (permissions : List WorkspacePermission) :
    Except RepositoryError (List AgentConnectionPermissionRecord) :=
  insertPermissions id (rows.filter fun r => decide (r.agentConnectionId ≠ id)) permissions

/-- the names in the rows of a connection -/
def permissionTexts (rows : List AgentConnectionPermissionRecord) (id : AgentConnectionId) :
    List String :=
  (rows.filter fun r => decide (r.agentConnectionId = id)).map
    AgentConnectionPermissionRecord.permission

section
variable {rows saved : List AgentConnectionPermissionRecord} {id other : AgentConnectionId}
  {ps : List WorkspacePermission}

open AgentConnectionPermissionRecord (fromDomain)

theorem fromDomain_injective (id : AgentConnectionId) : Function.Injective (fromDomain id) :=
  fun _ _ h => WorkspacePermission.asStr_injective
    (congrArg AgentConnectionPermissionRecord.permission h)

theorem asStr_mem_workspacePermissionRows (p : WorkspacePermission) : p.asStr ∈ workspacePermissionRows :=
  List.mem_map_of_mem (f := WorkspacePermission.asStr) (WorkspacePermission.mem_all p)

/-- the insertions are refused exactly where one of them is made already -/
theorem insertPermissions_ok_iff :
    insertPermissions id rows ps = .ok saved ↔ ps.Nodup ∧ (∀ p ∈ ps, fromDomain id p ∉ rows) ∧
      saved = (ps.map (fromDomain id)).reverse ++ rows := by
  induction ps generalizing rows with
  | nil => simp [insertPermissions, eq_comm]
  | cons p ps ih =>
    unfold insertPermissions insertPermission
    by_cases hp : fromDomain id p ∈ rows
    · rw [if_pos (.inl hp)]
      exact iff_of_false (by simp) fun h => h.2.1 p List.mem_cons_self hp
    · have hname : (fromDomain id p).permission ∈ workspacePermissionRows :=
        asStr_mem_workspacePermissionRows p
      rw [if_neg (not_or.mpr ⟨hp, not_not.mpr hname⟩)]
      dsimp only
      rw [ih, List.nodup_cons, List.forall_mem_cons, List.map_cons, List.reverse_cons, List.append_assoc]
      have hfresh : (∀ q ∈ ps, fromDomain id q ∉ fromDomain id p :: rows) ↔
          p ∉ ps ∧ ∀ q ∈ ps, fromDomain id q ∉ rows := by
        simp only [List.mem_cons, not_or, (fromDomain_injective id).eq_iff]
        constructor
        · intro h
          exact ⟨fun hmem => (h p hmem).1 rfl, fun q hq => (h q hq).2⟩
        · rintro ⟨hnot, hrows⟩ q hq
          exact ⟨fun heq => hnot (heq ▸ hq), hrows q hq⟩
      rw [hfresh, List.singleton_append]
      tauto

/-- **A save is refused exactly if it lists a permission twice**; else it leaves the rows of other
connections and the rows that it inserts. -/
theorem savePermissions_ok_iff :
    savePermissions rows id ps = .ok saved ↔ ps.Nodup ∧
      saved = (ps.map (fromDomain id)).reverse ++
        rows.filter fun r => decide (r.agentConnectionId ≠ id) := by
  unfold savePermissions
  rw [insertPermissions_ok_iff]
  have hfresh : ∀ p ∈ ps, fromDomain id p ∉ rows.filter fun r => decide (r.agentConnectionId ≠ id) := by
    intro p _ hmem
    exact of_decide_eq_true (List.mem_filter.mp hmem).2 rfl
  tauto

theorem exists_savePermissions_iff : (∃ saved, savePermissions rows id ps = .ok saved) ↔ ps.Nodup := by
  constructor
  · rintro ⟨saved, h⟩
    exact (savePermissions_ok_iff.mp h).1
  · intro h
    exact ⟨_, savePermissions_ok_iff.mpr ⟨h, rfl⟩⟩

theorem permissionTexts_save (h : savePermissions rows id ps = .ok saved) :
    permissionTexts saved id = (ps.map WorkspacePermission.asStr).reverse := by
  obtain ⟨-, rfl⟩ := savePermissions_ok_iff.mp h
  unfold permissionTexts
  have hold : ((rows.filter fun r => decide (r.agentConnectionId ≠ id)).filter
      fun r => decide (r.agentConnectionId = id)) = [] := by
    rw [List.filter_filter, List.filter_eq_nil_iff]
    intro r _
    simp
  have hnew : ((ps.map (fromDomain id)).reverse.filter fun r => decide (r.agentConnectionId = id))
      = (ps.map (fromDomain id)).reverse := by
    refine List.filter_eq_self.mpr fun r hr => ?_
    obtain ⟨p, -, rfl⟩ := List.mem_map.mp (List.mem_reverse.mp hr)
    exact decide_eq_true rfl
  rw [List.filter_append, hold, hnew, List.append_nil, List.map_reverse, List.map_map]
  rfl

/-- the rows of other connections stay as they are -/
theorem permissionTexts_save_of_ne (h : savePermissions rows id ps = .ok saved) (hne : other ≠ id) :
    permissionTexts saved other = permissionTexts rows other := by
  obtain ⟨-, rfl⟩ := savePermissions_ok_iff.mp h
  unfold permissionTexts
  have hnew : ((ps.map (fromDomain id)).reverse.filter fun r => decide (r.agentConnectionId = other))
      = [] := by
    refine List.filter_eq_nil_iff.mpr fun r hr => ?_
    obtain ⟨p, -, rfl⟩ := List.mem_map.mp (List.mem_reverse.mp hr)
    exact fun h => hne (of_decide_eq_true h).symm
  rw [List.filter_append, hnew, List.nil_append, List.filter_filter]
  congr 1
  refine List.filter_congr fun r _ => ?_
  by_cases hr : r.agentConnectionId = other
  · simp [hr, hne]
  · simp [hr]

theorem permissionTexts_perm {stored : List AgentConnectionPermissionRecord} (h : stored.Perm rows)
    (id : AgentConnectionId) : (permissionTexts stored id).Perm (permissionTexts rows id) :=
  (h.filter _).map _

end

/-! ## The queries -/

/-- the array in `GET_SQL` -/
def getSqlOrder : List String :=
  ["read_evidence", "write_evidence", "read_evidence_submissions", "write_evidence_submissions",
    "read_controls", "write_controls", "manage_auditor_access"]

/-- the array in `REUSABLE_SQL` -/
def reusableSqlOrder : List String :=
  ["read_evidence", "write_evidence", "read_evidence_submissions", "write_evidence_submissions",
    "read_controls", "write_controls", "manage_auditor_access"]

/-- the array in `AUTHORITY_SQL` -/
def authoritySqlOrder : List String :=
  ["read_evidence", "write_evidence", "read_evidence_submissions", "write_evidence_submissions",
    "read_controls", "write_controls", "manage_auditor_access"]

/-- the sorts of the three queries -/
structure PermissionSorts where
  get : UnstableSort (arrayPosition getSqlOrder)
  reusable : UnstableSort (arrayPosition reusableSqlOrder)
  authority : UnstableSort (arrayPosition authoritySqlOrder)

section
variable {order : List String}

/-- `array_agg(… ORDER BY array_position(…))`, which is `NULL` over no rows -/
def arrayAgg (sort : UnstableSort (arrayPosition order)) (values : List String) :
    Option (List String) :=
  if values = [] then none else some (sort.run values)

/-- `COALESCE(…, ARRAY[]::text[])` of a subquery over the rows of the connection -/
def subqueryPermissions (sort : UnstableSort (arrayPosition order))
    (rows : List AgentConnectionPermissionRecord) (id : AgentConnectionId) : List String :=
  (arrayAgg sort (permissionTexts rows id)).getD []

/-- the same aggregate over a `LEFT JOIN`, `FILTER (WHERE p.permission IS NOT NULL)` -/
def joinedPermissions (sort : UnstableSort (arrayPosition order))
    (rows : List AgentConnectionPermissionRecord) (id : AgentConnectionId) : List String :=
  (arrayAgg sort ((leftJoin (permissionTexts rows id)).filterMap fun text => text)).getD []

end

section
variable (sorts : PermissionSorts) (rows : List AgentConnectionPermissionRecord)
  (id : AgentConnectionId)

def getSqlPermissions : List String := subqueryPermissions sorts.get rows id

def reusableSqlPermissions : List String := joinedPermissions sorts.reusable rows id

def authoritySqlPermissions : List String := joinedPermissions sorts.authority rows id

end

/-- the permissions of a row -/
def permissionsOfTexts (values : List String) : Except RepositoryError (List WorkspacePermission) :=
  match parsePermissions values with
  | none => .error (.invariantViolation "unknown agent connection permission")
  | some ps => .ok ps

/-- every query reads the same permissions of a connection -/
structure ReadAs (sorts : PermissionSorts) (rows : List AgentConnectionPermissionRecord)
    (id : AgentConnectionId) (ps : List WorkspacePermission) : Prop where
  get : permissionsOfTexts (getSqlPermissions sorts rows id) = .ok ps
  reusable : permissionsOfTexts (reusableSqlPermissions sorts rows id) = .ok ps
  authority : permissionsOfTexts (authoritySqlPermissions sorts rows id) = .ok ps

section
variable {order : List String} {rows saved stored : List AgentConnectionPermissionRecord}
  {id : AgentConnectionId} {ps values : List WorkspacePermission}

theorem subqueryPermissions_eq (sort : UnstableSort (arrayPosition order)) :
    subqueryPermissions sort rows id = sort.run (permissionTexts rows id) := by
  unfold subqueryPermissions arrayAgg
  split
  · next h =>
    rw [h, List.perm_nil.mp (sort.perm [])]
    rfl
  · rfl

/-- the join and its filter give the names of the subquery -/
theorem joinedPermissions_eq (sort : UnstableSort (arrayPosition order)) :
    joinedPermissions sort rows id = subqueryPermissions sort rows id := by
  have htexts : (leftJoin (permissionTexts rows id)).filterMap (fun text => text)
      = permissionTexts rows id :=
    (filterMap_leftJoin (fun text => text) rfl _).trans List.filterMap_some
  unfold joinedPermissions subqueryPermissions
  rw [htexts]

/-- names that are sorted by their places come in the fixed order -/
theorem run_texts {texts : List String} (sort : UnstableSort (arrayPosition order))
    (horder : order = WorkspacePermission.all.map WorkspacePermission.asStr)
    (h : CanonicalPermissions ps) (htexts : (ps.map WorkspacePermission.asStr).Perm texts) :
    sort.run texts = ps.map WorkspacePermission.asStr := by
  subst horder
  exact sort.run_sublist (WorkspacePermission.nodup_all.map WorkspacePermission.asStr_injective)
    (h.map WorkspacePermission.asStr) htexts

theorem permissionsOfTexts_asStr (ps : List WorkspacePermission) :
    permissionsOfTexts (ps.map WorkspacePermission.asStr) = .ok ps := by
  unfold permissionsOfTexts
  rw [parsePermissions_asStr]

/-- **Every query reads the canonical list of the permissions in the rows.** -/
theorem readAs_of_texts (sorts : PermissionSorts) (h : CanonicalPermissions ps)
    (htexts : (ps.map WorkspacePermission.asStr).Perm (permissionTexts rows id)) :
    ReadAs sorts rows id ps where
  get := by
    unfold getSqlPermissions
    rw [subqueryPermissions_eq, run_texts sorts.get rfl h htexts]
    exact permissionsOfTexts_asStr ps
  reusable := by
    unfold reusableSqlPermissions
    rw [joinedPermissions_eq, subqueryPermissions_eq, run_texts sorts.reusable rfl h htexts]
    exact permissionsOfTexts_asStr ps
  authority := by
    unfold authoritySqlPermissions
    rw [joinedPermissions_eq, subqueryPermissions_eq, run_texts sorts.authority rfl h htexts]
    exact permissionsOfTexts_asStr ps

/-- what was saved is read as its canonical list, however the rows are stored -/
theorem readAs_save (sorts : PermissionSorts) (h : savePermissions rows id values = .ok saved)
    (hstored : stored.Perm saved) (hps : canonicalPermissionList values = .ok ps) :
    ReadAs sorts stored id ps := by
  obtain ⟨hcanonical, hperm⟩ := canonicalPermissionList_eq_ok_iff.mp hps
  refine readAs_of_texts sorts hcanonical ?_
  refine List.Perm.trans ?_ (permissionTexts_perm hstored id).symm
  rw [permissionTexts_save h]
  exact (hperm.map _).trans (List.reverse_perm _).symm

end

/-! ## The repository over the rows -/

/-- the rows are those of the connections, in whatever order they are stored -/
def HoldsPermissions (rows : List AgentConnectionPermissionRecord) (db : OAuthDb) : Prop :=
  ∀ c ∈ db.connections.rows,
    (permissionTexts rows c.id).Perm (c.permissions.map WorkspacePermission.asStr)

namespace OAuthDb

/-- `get`, with the permissions that `GET_SQL` reads -/
def loadConnection (sorts : PermissionSorts) (rows : List AgentConnectionPermissionRecord)
    (db : OAuthDb) (id : AgentConnectionId) : Except RepositoryError (Option AgentConnection) :=
  match db.connections.get? id with
  | none => .ok none
  | some row =>
    match permissionsOfTexts (getSqlPermissions sorts rows id) with
    | .error e => .error e
    | .ok permissions =>
      match { row with permissions := permissions }.rehydrate with
      | .error _ => .error (.invariantViolation "persisted agent connection is inconsistent")
      | .ok c => .ok (some c)

/-- `find_reusable`, with the permissions that `REUSABLE_SQL` reads -/
def readReusable (sorts : PermissionSorts) (rows : List AgentConnectionPermissionRecord) (db : OAuthDb)
    (auth0Subject auth0ClientId resource : String) (requested : List WorkspacePermission) :
    Except RepositoryError (Option ReusableAgentConnection) :=
  match canonicalPermissionList requested with
  | .error _ => .error (.invariantViolation "invalid requested agent connection permissions")
  | .ok expected =>
    match db.connections.rows.filter (db.reusable auth0Subject auth0ClientId resource) with
    | [] => .ok none
    | [c] =>
      match permissionsOfTexts (reusableSqlPermissions sorts rows c.id) with
      | .error e => .error e
      | .ok permissions =>
        if permissions ≠ expected then .ok none
        else .ok (some ⟨c.id, c.userId, c.workspaceId, permissions⟩)
    | _ => .error .database

end OAuthDb

section
variable {sorts : PermissionSorts} {rows stored : List AgentConnectionPermissionRecord}
  {db db' : OAuthDb} {now : Int} {c : AgentConnection}

theorem HoldsPermissions.perm (h : HoldsPermissions rows db) (hperm : stored.Perm rows) :
    HoldsPermissions stored db :=
  fun c hc => (permissionTexts_perm hperm c.id).trans (h c hc)

theorem AgentConnection.Stored.canonicalPermissions (h : c.Stored) :
    CanonicalPermissions c.permissions := canonicalPermissions_eq_self_iff.mp h.canonical

theorem saveConnection_nodup (h : db.saveConnection c = .ok db') : c.permissions.Nodup := by
  unfold OAuthDb.saveConnection at h
  dsimp only at h
  split at h
  · cases h
  · next hchecks => exact not_not.mp (not_or.mp hchecks).1

/-- **A save keeps the rows those of the connections.** -/
theorem HoldsPermissions.save (h : HoldsPermissions rows db) (hsave : db.saveConnection c = .ok db') :
    ∃ saved, savePermissions rows c.id c.permissions = .ok saved ∧ HoldsPermissions saved db' := by
  have hnodup := saveConnection_nodup hsave
  obtain ⟨rfl, -, -⟩ := OAuthDb.saveConnection_ok hsave
  have hsaved := savePermissions_ok_iff.mpr
    ⟨hnodup, Eq.refl ((c.permissions.map (.fromDomain c.id)).reverse ++
      rows.filter fun r => decide (r.agentConnectionId ≠ c.id))⟩
  refine ⟨_, hsaved, ?_⟩
  intro d hd
  rcases Table.mem_upsert.mp hd with rfl | ⟨hdm, hne⟩
  · rw [AgentConnection.toRow_id, permissionTexts_save hsaved]
    refine (List.reverse_perm _).trans (List.Perm.map _ ?_)
    show c.permissions.Perm (WorkspacePermission.all.filter fun p => decide (p ∈ c.permissions))
    refine (List.perm_ext_iff_of_nodup hnodup (WorkspacePermission.nodup_all.filter _)).mpr fun p => ?_
    simp [WorkspacePermission.mem_all]
  · rw [permissionTexts_save_of_ne hsaved hne]
    exact h d hdm

theorem HoldsPermissions.readAs (sorts : PermissionSorts) (h : HoldsPermissions rows db)
    (hi : ConnectionsInv now db) (hc : c ∈ db.connections.rows) : ReadAs sorts rows c.id c.permissions :=
  readAs_of_texts sorts (hi.stored c hc).canonicalPermissions (h c hc).symm

/-- **The rows load as the connections of the tables.** -/
theorem HoldsPermissions.loadConnection (h : HoldsPermissions rows db) (hi : ConnectionsInv now db)
    (id : AgentConnectionId) : db.loadConnection sorts rows id = db.getConnection id := by
  unfold OAuthDb.loadConnection OAuthDb.getConnection
  cases hget : db.connections.get? id with
  | none => rfl
  | some row =>
    have hid : row.id = id := Table.get?_key hget
    have hread := (h.readAs sorts hi (Table.get?_mem hget)).get
    rw [hid] at hread
    dsimp only
    split
    · next e he =>
      rw [hread] at he
      cases he
    · next permissions hpermissions =>
      rw [hread] at hpermissions
      cases hpermissions
      rfl

theorem mem_of_reusable {auth0Subject auth0ClientId resource : String}
    (h : db.connections.rows.filter (db.reusable auth0Subject auth0ClientId resource) = [c]) :
    c ∈ db.connections.rows := by
  refine List.mem_of_mem_filter (p := db.reusable auth0Subject auth0ClientId resource) ?_
  rw [h]
  exact List.mem_singleton_self c

/-- the query for a connection to reuse finds what the tables say -/
theorem HoldsPermissions.readReusable (h : HoldsPermissions rows db) (hi : ConnectionsInv now db)
    (auth0Subject auth0ClientId resource : String) (requested : List WorkspacePermission) :
    db.readReusable sorts rows auth0Subject auth0ClientId resource requested
      = db.findReusable auth0Subject auth0ClientId resource requested := by
  unfold OAuthDb.readReusable OAuthDb.findReusable
  rw [← canonicalPermissionList_toOption]
  cases canonicalPermissionList requested with
  | error e => rfl
  | ok expected =>
    dsimp only [Except.toOption]
    cases hfound : db.connections.rows.filter (db.reusable auth0Subject auth0ClientId resource) with
    | nil => rfl
    | cons c rest =>
      cases rest with
      | cons d rest => rfl
      | nil =>
        dsimp only
        rw [(h.readAs sorts hi (mem_of_reusable hfound)).reusable]

end

/-! ## The server and its rows -/

section
variable {Key Nonce : Type}

/-- what a step of the server does to the rows: nothing, or what the save of a connection does; the
database may store them in another order at any time -/
inductive RowsFollow (db : OAuthDb) (rows : List AgentConnectionPermissionRecord) (db' : OAuthDb)
    (rows' : List AgentConnectionPermissionRecord) : Prop
  | kept (h : db'.connections = db.connections) (hperm : rows'.Perm rows)
  | saved (c : AgentConnection) (hsave : db.saveConnection c = .ok db')
      (saved : List AgentConnectionPermissionRecord)
      (hsaved : savePermissions rows c.id c.permissions = .ok saved) (hperm : rows'.Perm saved)

/-- the states that the server and its rows come to -/
inductive ServerAndRows (S : OAuthServer Key Nonce) :
    OAuthWorld → List AgentConnectionPermissionRecord → Prop
  | start : ServerAndRows S .empty []
  | step {w w' : OAuthWorld} {rows rows' : List AgentConnectionPermissionRecord} (e : OAuthEvent Nonce)
      (h : ServerAndRows S w rows) (hstep : oauthStep S w e = some w')
      (hrows : RowsFollow w.db rows w'.db rows') : ServerAndRows S w' rows'

variable {S : OAuthServer Key Nonce} {db db' : OAuthDb} {w w' : OAuthWorld} {now : Int}
  {rows rows' : List AgentConnectionPermissionRecord}

theorem RowsFollow.holds (h : RowsFollow db rows db' rows') (hrows : HoldsPermissions rows db) :
    HoldsPermissions rows' db' := by
  cases h with
  | kept h hperm =>
    intro c hc
    rw [h] at hc
    exact hrows.perm hperm c hc
  | saved c hsave saved hsaved hperm =>
    obtain ⟨saved', hsaved', hholds⟩ := hrows.save hsave
    obtain rfl : saved' = saved := Except.ok.inj (hsaved'.symm.trans hsaved)
    exact hholds.perm hperm

/-- every change of the tables is one that the rows can follow -/
theorem OAuthDbMove.rowsFollow (h : OAuthDbMove now db db') (hrows : HoldsPermissions rows db) :
    ∃ rows', RowsFollow db rows db' rows' := by
  have hsaved : ∀ {c : AgentConnection}, db.saveConnection c = .ok db' →
      ∃ rows', RowsFollow db rows db' rows' := by
    intro c hsave
    obtain ⟨saved, hsaved, -⟩ := hrows.save hsave
    exact ⟨saved, .saved c hsave saved hsaved (.refl saved)⟩
  cases h with
  | connections h =>
    cases h with
    | same h => exact ⟨rows, .kept (congrArg OAuthDb.connections h) (.refl rows)⟩
    | changed c c' hmem h hsave => exact hsaved hsave
    | created c hnew hrequest hcanonical hstatus hconsumed hnow hsave => exact hsaved hsave
  | flows h => exact ⟨rows, .kept h.rest.1 (.refl rows)⟩
  | accounts hconnections hflows => exact ⟨rows, .kept hconnections (.refl rows)⟩

/-- **In every state the rows are those of the connections**, and the invariant of the server holds. -/
theorem ServerAndRows.holds (h : ServerAndRows S w rows) : OAuthInv S w ∧ HoldsPermissions rows w.db := by
  induction h with
  | start => exact ⟨oauthInv_empty S, fun c hc => absurd hc (Table.mem_rows_empty c)⟩
  | step e h hstep hrows ih => exact ⟨oauth_step ih.1 hstep, hrows.holds ih.2⟩

/-- the rows follow every run -/
theorem serverAndRows_run {events : List (OAuthEvent Nonce)} (h : ServerAndRows S w rows)
    (hrun : run (oauthStep S) w events = some w') : ∃ rows', ServerAndRows S w' rows' := by
  refine run_inv (fun w => ∃ rows, ServerAndRows S w rows) ?_ ⟨rows, h⟩ hrun
  rintro s e s' ⟨rows, hs⟩ hstep
  obtain ⟨-, hm⟩ := oauthStep_move hstep
  obtain ⟨rows', hrows⟩ := hm.db_move.rowsFollow hs.holds.2
  exact ⟨rows', .step e hs hstep hrows⟩

/-! ## Comparisons -/

/-- the lists of permissions that the server compares with each other -/
inductive Compared (S : OAuthServer Key Nonce) (w : OAuthWorld) : List WorkspacePermission → Prop
  | requested {values ps : List WorkspacePermission} (h : canonicalPermissionList values = .ok ps) :
      Compared S w ps
  | flow {f : OAuthAuthorizationFlow} (hf : f ∈ w.db.flows.rows) : Compared S w f.scopes
  | connection {c : AgentConnection} (hc : c ∈ w.db.connections.rows) : Compared S w c.permissions
  | token {token : String} {now : Int} {claims : VerifiedMcpClaims}
      (h : S.tokens.verifyAccessToken token now = .ok claims) : Compared S w claims.scopes

theorem McpOAuthTokens.verifyAccessToken_canonical {T : McpOAuthTokens Key Nonce} {token : String}
    {claims : VerifiedMcpClaims} (h : T.verifyAccessToken token now = .ok claims) :
    CanonicalPermissions claims.scopes := by
  unfold McpOAuthTokens.verifyAccessToken at h
  split at h
  · cases h
  · split at h
    · cases h
    · next hscopes =>
      cases h
      exact (parseScope_eq_some_iff.mp hscopes).2.1

theorem Compared.canonical {ps : List WorkspacePermission} (hi : OAuthInv S w) (h : Compared S w ps) :
    CanonicalPermissions ps := by
  cases h with
  | requested h => exact (canonicalPermissionList_eq_ok_iff.mp h).1
  | flow hf => exact canonicalPermissions_eq_self_iff.mp (hi.flows.canonical _ hf)
  | connection hc => exact (hi.connections.stored _ hc).canonicalPermissions
  | token h => exact McpOAuthTokens.verifyAccessToken_canonical h

/-- a stored list is the list that was asked for exactly if the permissions are the same -/
theorem eq_expected_iff {ps values expected : List WorkspacePermission} (h : CanonicalPermissions ps)
    (hexpected : canonicalPermissionList values = .ok expected) :
    ps = expected ↔ ∀ p, p ∈ ps ↔ p ∈ values := by
  obtain ⟨hcanonical, hperm⟩ := canonicalPermissionList_eq_ok_iff.mp hexpected
  rw [h.eq_iff hcanonical]
  simp only [hperm.mem_iff]

/-- **A connection is reused exactly if it is the only one and grants what is requested**, in whatever
order the request lists it. -/
theorem findReusable_some_iff (hi : ConnectionsInv now db) {auth0Subject auth0ClientId resource : String}
    {requested : List WorkspacePermission} {found : ReusableAgentConnection} :
    db.findReusable auth0Subject auth0ClientId resource requested = .ok (some found) ↔
      requested.Nodup ∧ ∃ c,
        db.connections.rows.filter (db.reusable auth0Subject auth0ClientId resource) = [c] ∧
          (∀ p, p ∈ c.permissions ↔ p ∈ requested) ∧
          found = ⟨c.id, c.userId, c.workspaceId, c.permissions⟩ := by
  unfold OAuthDb.findReusable
  rw [← exists_canonicalPermissionList_iff, ← canonicalPermissionList_toOption]
  cases hrequested : canonicalPermissionList requested with
  | error e => exact iff_of_false (by simp [Except.toOption]) (by simp)
  | ok expected =>
    dsimp only [Except.toOption]
    rw [and_iff_right ⟨expected, rfl⟩]
    cases hfound : db.connections.rows.filter (db.reusable auth0Subject auth0ClientId resource) with
    | nil => exact iff_of_false (by simp) (by simp)
    | cons c rest =>
      cases rest with
      | cons d rest => exact iff_of_false (by simp) (by simp)
      | nil =>
        have hc := mem_of_reusable hfound
        have hset := eq_expected_iff (hi.stored c hc).canonicalPermissions hrequested
        dsimp only
        by_cases hsame : c.permissions = expected
        · rw [if_neg (not_not.mpr hsame)]
          constructor
          · intro h
            exact ⟨c, rfl, hset.mp hsame, (Option.some.inj (Except.ok.inj h)).symm⟩
          · rintro ⟨d, hd, -, rfl⟩
            cases hd
            rfl
        · rw [if_pos hsame]
          refine iff_of_false (by simp) ?_
          rintro ⟨d, hd, hmem, -⟩
          cases hd
          exact hsame (hset.mpr hmem)

end

/-- **Every list of permissions is in the one order.**  The canonical list, the text of a scope and the
sorts of the queries agree on it, so that what a flow, a token or a connection lists is compared as a
set. -/
theorem permission_lists_canonical {Key Nonce : Type} :
    (∀ values : List WorkspacePermission,
      ((∃ ps, canonicalPermissionList values = .ok ps) ↔ values.Nodup) ∧
      ∀ ps, canonicalPermissionList values = .ok ps →
        ps.Perm values ∧ canonicalPermissionList ps = .ok ps ∧
          ∀ values' : List WorkspacePermission, values'.Nodup → (∀ p, p ∈ values' ↔ p ∈ values) →
            canonicalPermissionList values' = .ok ps) ∧
    (∀ scope : String,
      ((∃ ps, parseScope scope = some ps) ↔ splitAsciiWhitespace scope ≠ [] ∧
        (∀ word ∈ splitAsciiWhitespace scope, ∃ p, WorkspacePermission.fromStr word = some p) ∧
        (splitAsciiWhitespace scope).Nodup) ∧
      ∀ ps, parseScope scope = some ps → canonicalPermissionList ps = .ok ps ∧
        (ps.map WorkspacePermission.asStr).Perm (splitAsciiWhitespace scope)) ∧
    (∀ ps : List WorkspacePermission, ps ≠ [] → canonicalPermissionList ps = .ok ps →
      parseScope (joinSpaces (ps.map WorkspacePermission.asStr)) = some ps) ∧
    (∀ (sorts : PermissionSorts) (rows : List AgentConnectionPermissionRecord)
        (id : AgentConnectionId) (values : List WorkspacePermission),
      ((∃ saved, savePermissions rows id values = .ok saved) ↔ values.Nodup) ∧
      ∀ saved stored, savePermissions rows id values = .ok saved → stored.Perm saved →
        (∃ ps, canonicalPermissionList values = .ok ps ∧ ReadAs sorts stored id ps) ∧
          ∀ other, other ≠ id → (permissionTexts stored other).Perm (permissionTexts rows other)) ∧
    ∀ S : OAuthServer Key Nonce,
      (∀ events w, run (oauthStep S) .empty events = some w → ∃ rows, ServerAndRows S w rows) ∧
      ∀ w rows, ServerAndRows S w rows →
        (∀ sorts, ∀ c ∈ w.db.connections.rows, ReadAs sorts rows c.id c.permissions ∧
          w.db.loadConnection sorts rows c.id = .ok (some c)) ∧
        (∀ ps qs, Compared S w ps → Compared S w qs →
          canonicalPermissionList ps = .ok ps ∧ (ps = qs ↔ ∀ p, p ∈ ps ↔ p ∈ qs)) ∧
        (∀ sorts auth0Subject auth0ClientId resource requested found,
          w.db.readReusable sorts rows auth0Subject auth0ClientId resource requested
              = .ok (some found) ↔
            requested.Nodup ∧ ∃ c,
              w.db.connections.rows.filter (w.db.reusable auth0Subject auth0ClientId resource) = [c] ∧
                (∀ p, p ∈ c.permissions ↔ p ∈ requested) ∧
                found = ⟨c.id, c.userId, c.workspaceId, c.permissions⟩) ∧
        ∀ c ∈ w.db.connections.rows, ∀ (command : AuthorizeAgentConnection)
            (expected : List WorkspacePermission),
          canonicalPermissionList command.permissions = .ok expected →
            (OAuthDb.matchesAuthorization command expected c = true ↔
              c.workspaceId = command.workspaceId ∧ c.auth0Subject = command.auth0Subject ∧
                c.auth0ClientId = command.auth0ClientId ∧ c.resource = command.resource ∧
                ∀ p, p ∈ c.permissions ↔ p ∈ command.permissions) := by
  refine ⟨?_, ?_, ?_, ?_, ?_⟩
  · intro values
    refine ⟨exists_canonicalPermissionList_iff, ?_⟩
    intro ps h
    obtain ⟨hcanonical, hperm⟩ := canonicalPermissionList_eq_ok_iff.mp h
    refine ⟨hperm, hcanonical.canonicalPermissionList, ?_⟩
    intro values' hnodup hmem
    exact canonicalPermissionList_of_mem_iff h hnodup hmem
  · intro scope
    refine ⟨exists_parseScope_iff, ?_⟩
    intro ps h
    obtain ⟨-, hcanonical, hwords⟩ := parseScope_eq_some_iff.mp h
    exact ⟨hcanonical.canonicalPermissionList, hwords⟩
  · intro ps hne h
    refine parseScope_joinSpaces hne ?_
    exact canonicalPermissions_eq_self_iff.mpr (canonicalPermissionList_eq_ok_iff.mp h).1
  · intro sorts rows id values
    refine ⟨exists_savePermissions_iff, ?_⟩
    intro saved stored h hstored
    obtain ⟨ps, hps⟩ := exists_canonicalPermissionList_iff.mpr (savePermissions_ok_iff.mp h).1
    refine ⟨⟨ps, hps, readAs_save sorts h hstored hps⟩, ?_⟩
    intro other hne
    rw [← permissionTexts_save_of_ne h hne]
    exact permissionTexts_perm hstored other
  · intro S
    refine ⟨fun events w h => serverAndRows_run .start h, ?_⟩
    intro w rows h
    obtain ⟨hi, hrows⟩ := h.holds
    refine ⟨?_, ?_, ?_, ?_⟩
    · intro sorts c hc
      refine ⟨hrows.readAs sorts hi.connections hc, ?_⟩
      rw [hrows.loadConnection hi.connections]
      exact OAuthDb.getConnection_eq hc (hi.connections.valid c hc)
    · intro ps qs hps hqs
      have hcanonical := hps.canonical hi
      exact ⟨hcanonical.canonicalPermissionList, hcanonical.eq_iff (hqs.canonical hi)⟩
    · intro sorts auth0Subject auth0ClientId resource requested found
      rw [hrows.readReusable hi.connections]
      exact findReusable_some_iff hi.connections
    · intro c hc command expected hexpected
      rw [matchesAuthorization_iff,
        eq_expected_iff (hi.connections.stored c hc).canonicalPermissions hexpected]

end Proofplane
