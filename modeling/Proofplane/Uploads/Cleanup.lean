import Proofplane.Uploads.Attempts

/-!
# What a failed upload deletes

When its command fails, a call deletes what it has staged.  A command may fail although its unit of
work committed, and then the staged object is that of a document.  An agent's policy upload looks into
the tables before it deletes; the three other paths do not.

* `CleanupSafe`      no document whose upload is not over has lost its bytes to such a deletion;
* `acknowledged`     no call of the other three paths loses the acknowledgement of a unit of work that
                     inserted a document;
* `CleanupInv`       each such document is kept by its call: the call is over, or is about to find out
                     that the document is its own;
* `cleanup_safe`     **with that, no run deletes the bytes of a document**;
* `cleanup_lost`     without it, one does.
-/

namespace Proofplane
open Base

/-- the bytes of every document whose upload is not over are still there, as far as calls go -/
def CleanupSafe (w : UploadWorld) : Prop :=
  ∀ d ∈ w.db.documents.rows, d.waiting = true → d.objectKey ∉ w.cleaned

/-- where a lost acknowledgement does no harm: on the path that looks into the tables, and where the
unit of work has inserted nothing -/
def UploadWorld.acknowledged (w : UploadWorld) : UploadEvent → Bool
  | .complete attempt documentId messageId now .lostAcknowledgement =>
    match w.attempts.get? attempt with
    | none => true
    | some a =>
      match a.task, a.staged with
      | .agentPolicy _ _, _ => true
      | _, none => true
      | _, some staged =>
        match runCompletion w.db a staged documentId messageId now with
        | .ok (.created _, _) => false
        | _ => true
  | _ => true

/-- a call that will not delete the object of this document -/
inductive Keeps (db : DocumentDb) (a : UploadAttempt) (id : DocumentId) : Prop
  | finished (r : UploadResult) (h : a.phase = .finished r) : Keeps db a id
  | reconciling (grant : AgentPolicyDocumentUploadGrant)
      (authority : AgentPolicyDocumentUploadAuthority) (ht : a.task = .agentPolicy grant authority)
      (h : a.phase = .reconciling) (hn : Names db a.task id) : Keeps db a id
  | document (h : a.phase = .reconcilingDocument id) : Keeps db a id

/-- the object under this key is that of a call which keeps it for the document -/
def KeptBy (attempts : Table UploadAttempt.id) (db : DocumentDb) (key : String) (id : DocumentId) :
    Prop :=
  ∃ a ∈ attempts.rows, ∃ s, a.staged = some s ∧ s.objectKey = key ∧ Keeps db a id

/-- the object under this key was deleted by a call that is over -/
def CleanedBy (attempts : Table UploadAttempt.id) (key : String) : Prop :=
  ∃ a ∈ attempts.rows, ∃ s r, a.staged = some s ∧ s.objectKey = key ∧ a.phase = .finished r

structure CleanupInv (w : UploadWorld) : Prop where
  kept : ∀ d ∈ w.db.documents.rows, d.waiting = true → KeptBy w.attempts w.db d.objectKey d.id
  cleaned : ∀ key ∈ w.cleaned, CleanedBy w.attempts key
  safe : CleanupSafe w

section
variable {w w' : UploadWorld} {e : UploadEvent}

/-! ## Calls that keep their object -/

theorem Keeps.mono {db db' : DocumentDb} {a : UploadAttempt} {id : DocumentId}
    (hk : GrantsKept db db') (h : Keeps db a id) : Keeps db' a id := by
  cases h with
  | finished r h => exact .finished r h
  | reconciling grant authority ht h hn => exact .reconciling grant authority ht h (hn.mono hk)
  | document h => exact .document h

/-- the first read of a reconciliation finds the document that the grant names -/
theorem reconcileGrant_names (hi : UploadInv w) {a : UploadAttempt} (ha : AttemptOk w a)
    {grant : AgentPolicyDocumentUploadGrant} {authority : AgentPolicyDocumentUploadAuthority}
    (ht : a.task = .agentPolicy grant authority) {id : DocumentId} (hn : Names w.db a.task id) :
    reconcileGrant w.db grant authority = .reconcilingDocument id := by
  rw [ht] at hn
  obtain ⟨g, hg, hid, hdoc⟩ := hn
  obtain ⟨hauth, hstored⟩ := ha.policy grant authority ht
  have hterms := SameTerms.stored hstored hg hid
  have hws : g.workspaceId = grant.workspaceId := by rw [hterms]
  have hread : w.db.getPolicyGrant grant.id grant.workspaceId = .ok (some g) := by
    rw [← hid, ← hws]
    exact DocumentDb.getGrant_of_mem _ hg (hi.policy.valid g hg)
  have hmatch : g.matchesAuthority authority = .ok () := by
    refine UploadGrant.matchesAuthority_ok.mpr ?_
    rw [hauth, hterms]
    rfl
  unfold reconcileGrant
  rw [hread]
  dsimp only
  rw [if_neg (by simp [hmatch]), hdoc]

theorem loadCompleted_mem {db : DocumentDb} {task : UploadTask} {id : DocumentId} {d : Document}
    (h : loadCompleted db task id = some d) : d ∈ db.documents.rows ∧ d.id = id := by
  have hread : ∀ {ws owner}, db.getWorkspaceDocument ws id owner = some d →
      d ∈ db.documents.rows ∧ d.id = id := by
    intro ws owner h
    obtain ⟨hget, -⟩ := DocumentDb.getWorkspaceDocument_eq_some.mp h
    obtain ⟨hmem, hid, -⟩ := DocumentDb.getDocument_eq_some.mp hget
    exact ⟨hmem, hid⟩
  unfold loadCompleted at h
  split at h
  · unfold DocumentDb.getAgentEvidenceUploadDocument at h
    split at h
    · exact hread h
    · cases h
  · unfold DocumentDb.getAgentPolicyUploadDocument at h
    split at h
    · exact hread h
    · cases h
  · cases h

/-- the second read finds that the staged object is the document's -/
theorem reconcileDocument_own {db : DocumentDb} (task : UploadTask) {staged : StagedDocument}
    {d : Document} (hd : d ∈ db.documents.rows) (hkey : staged.objectKey = d.objectKey) :
    ∃ r, reconcileDocument db task staged d.id = .finished r := by
  unfold reconcileDocument
  cases hload : loadCompleted db task d.id with
  | none => exact ⟨_, rfl⟩
  | some d' =>
    obtain ⟨hd', hid⟩ := loadCompleted_mem hload
    have heq : d' = d := db.documents.eq_of_key hd' hd hid
    dsimp only
    rw [heq, if_pos hkey.symm]
    exact ⟨_, rfl⟩

/-- a call goes on keeping its object -/
theorem Keeps.next (hi : UploadInv w) {a : UploadAttempt} (ha : AttemptOk w a) {d : Document}
    (hd : d ∈ w.db.documents.rows) {s : StagedDocument} (hs : a.staged = some s)
    (hkey : s.objectKey = d.objectKey) (hk : Keeps w.db a d.id) {phase : UploadPhase}
    (hm : PhaseMove w.db a phase) : Keeps w.db { a with phase } d.id := by
  have hphases : (∃ r, a.phase = .finished r) ∨ a.phase = .reconciling ∨
      a.phase = .reconcilingDocument d.id := by
    cases hk with
    | finished r h => exact .inl ⟨r, h⟩
    | reconciling grant authority ht h hn => exact .inr (.inl h)
    | document h => exact .inr (.inr h)
  have hnot : ∀ p, a.phase = p → (∀ r, p ≠ .finished r) → p ≠ .reconciling →
      p ≠ .reconcilingDocument d.id → Keeps w.db { a with phase } d.id := by
    intro p hp h1 h2 h3
    rw [hp] at hphases
    rcases hphases with ⟨r, hr⟩ | h | h
    · exact absurd hr (h1 r)
    · exact absurd h h2
    · exact absurd h h3
  cases hm with
  | checked grant hp ok => exact hnot _ hp (by simp) (by simp) (by simp)
  | unstaged hp => exact hnot _ hp (by simp) (by simp) (by simp)
  | abandoned hp htask =>
    exact hnot _ hp (by simp) (by simp) (by simp)
  | loaded documentId hp ok => exact hnot _ hp (by simp) (by simp) (by simp)
  | undeleted result result' hp hr => exact hnot _ hp (by simp) (by simp) (by simp)
  | crashed hp => exact .finished _ rfl
  | reconciled grant authority hp htask ok =>
    cases ok with
    | false => exact .finished _ rfl
    | true =>
      cases hk with
      | finished r h =>
        rw [hp] at h
        cases h
      | document h =>
        rw [hp] at h
        cases h
      | reconciling grant' authority' ht h hn =>
        exact .document (reconcileGrant_names hi ha htask hn)
  | reconciledDocument documentId staged hp hs' ok =>
    cases ok with
    | false => exact .finished _ rfl
    | true =>
      rw [hs] at hs'
      cases hs'
      rw [hp] at hphases
      rcases hphases with ⟨r, hr⟩ | h | h
      · cases hr
      · cases h
      · cases h
        obtain ⟨r, hr⟩ := reconcileDocument_own a.task hd hkey
        exact .finished r hr

/-! ## One step -/

/-- one call has changed: it was not the keeper, or still is -/
theorem KeptBy.upsert {attempts : Table UploadAttempt.id} {db : DocumentDb} {key : String}
    {id : DocumentId} (h : KeptBy attempts db key id) {a a' : UploadAttempt}
    (ha : attempts.get? a.id = some a) (hid : a'.id = a.id)
    (hnext : ∀ s, a.staged = some s → s.objectKey = key → Keeps db a id →
      a'.staged = some s ∧ Keeps db a' id) : KeptBy (attempts.upsert a') db key id := by
  obtain ⟨x, hx, s, hs, hkey, hk⟩ := h
  by_cases hxa : x.id = a'.id
  · have heq : x = a := attempts.eq_of_key hx (Table.get?_mem ha) (hxa.trans hid)
    subst heq
    obtain ⟨hs', hk'⟩ := hnext s hs hkey hk
    exact ⟨a', Table.mem_upsert.mpr (.inl rfl), s, hs', hkey, hk'⟩
  · exact ⟨x, Table.mem_upsert.mpr (.inr ⟨hx, hxa⟩), s, hs, hkey, hk⟩

/-- one call has changed, and it was not over -/
theorem CleanedBy.upsert {attempts : Table UploadAttempt.id} {key : String}
    (h : CleanedBy attempts key) {a a' : UploadAttempt} (ha : attempts.get? a.id = some a)
    (hid : a'.id = a.id) (hnot : ∀ r, a.phase ≠ .finished r) : CleanedBy (attempts.upsert a') key := by
  obtain ⟨x, hx, s, r, hs, hkey, hp⟩ := h
  have hxa : x.id ≠ a'.id := by
    intro hxa
    have heq : x = a := attempts.eq_of_key hx (Table.get?_mem ha) (hxa.trans hid)
    subst heq
    exact hnot r hp
  exact ⟨x, Table.mem_upsert.mpr (.inr ⟨hx, hxa⟩), s, r, hs, hkey, hp⟩

/-- a call that goes on by itself was not over -/
theorem PhaseMove.not_finished {db : DocumentDb} {a : UploadAttempt} {phase : UploadPhase}
    (hm : PhaseMove db a phase) : ∀ r, a.phase ≠ .finished r := by
  cases hm with
  | checked grant hp ok => simp [hp]
  | unstaged hp => simp [hp]
  | abandoned hp htask => simp [hp]
  | loaded documentId hp ok => simp [hp]
  | reconciled grant authority hp htask ok => simp [hp]
  | reconciledDocument documentId staged hp hs ok => simp [hp]
  | undeleted result result' hp hr => simp [hp]
  | crashed hp => exact hp

/-- a call before its command keeps nothing -/
theorem Keeps.not_before {db : DocumentDb} {a : UploadAttempt} {id : DocumentId}
    (h : Keeps db a id) : a.phase ≠ .staged ∧ ∀ r, a.phase ≠ .deleting r := by
  cases h with
  | finished r h => simp [h]
  | reconciling grant authority ht h hn => simp [h]
  | document h => simp [h]

/-- the tables of the call that creates a document, with the acknowledgement it needs -/
theorem keeps_created {a : UploadAttempt} {staged : StagedDocument} {documentId : DocumentId}
    {now : Int} {fault : CommitFault} {d : Document} {db' : DocumentDb}
    {answer : Except DocumentCommandError Completion}
    (hack : fault = .lostAcknowledgement → ∃ grant authority, a.task = .agentPolicy grant authority)
    (hby : CreatedBy w.db db' staged documentId now a.task d)
    (hanswer : fault = .none ∧ answer = .ok (.created d) ∨
      fault = .lostAcknowledgement ∧ answer = .error (.repository .database)) :
    Keeps db' { a with phase := afterCompletion a.task answer } d.id := by
  rcases hanswer with ⟨-, rfl⟩ | ⟨hlost, rfl⟩
  · exact .finished _ rfl
  · obtain ⟨grant, authority, ht⟩ := hack hlost
    have hid := hby.document.1
    refine .reconciling grant authority ht (by rw [ht]; rfl) ?_
    show Names db' a.task d.id
    rw [ht] at hby ⊢
    cases hby with
    | agentPolicy grant g authority d hg hp hlt hpending hd hvalid hissued heligible hdb =>
      obtain ⟨-, hgid, -⟩ := DocumentDb.getGrant_ok hg
      refine ⟨UploadGrant.toRow { g with lifecycle := .completed documentId now }, ?_, hgid, ?_⟩
      · rw [hdb]
        exact Table.mem_upsert.mpr (.inl rfl)
      · rw [hid]
        rfl

/-- a lost acknowledgement of a creation that does no harm is that of an agent's policy upload -/
theorem acknowledged_lost {a : UploadAttempt} {staged : StagedDocument} {documentId : DocumentId}
    {messageId : Uuid} {now : Int} {d : Document} {db' : DocumentDb}
    (ha : w.attempts.get? a.id = some a) (hs : a.staged = some staged)
    (hrun : runCompletion w.db a staged documentId messageId now = .ok (.created d, db'))
    (hack : w.acknowledged (.complete a.id documentId messageId now .lostAcknowledgement) = true) :
    ∃ grant authority, a.task = .agentPolicy grant authority := by
  cases ht : a.task with
  | humanEvidence connection submissionId evidenceId coverage =>
    simp [UploadWorld.acknowledged, ha, hs, hrun, ht] at hack
  | humanPolicy connection policyId => simp [UploadWorld.acknowledged, ha, hs, hrun, ht] at hack
  | agentEvidence grant authority => simp [UploadWorld.acknowledged, ha, hs, hrun, ht] at hack
  | agentPolicy grant authority => exact ⟨grant, authority, rfl⟩

/-- the step of a completion: what it creates it keeps -/
theorem CleanupInv.completed (hi : UploadInv w) (hc : CleanupInv w) {a : UploadAttempt}
    {staged : StagedDocument} {documentId : DocumentId} {messageId : Uuid} {now : Int}
    {fault : CommitFault} (hkept : GrantsKept w.db
      (w.complete a staged documentId messageId now fault).db)
    (ha : w.attempts.get? a.id = some a) (hphase : a.phase = .staged)
    (hs : a.staged = some staged)
    (hack : w.acknowledged (.complete a.id documentId messageId now fault) = true) :
    CleanupInv (w.complete a staged documentId messageId now fault) := by
  have hmem := Table.get?_mem ha
  -- the call itself keeps nothing and has deleted nothing yet
  have hothers : ∀ {db key id} phase, KeptBy w.attempts db key id →
      KeptBy (w.attempts.upsert { a with phase }) db key id := by
    intro db key id phase h
    refine h.upsert ha rfl ?_
    intro s _ _ hk
    exact absurd hphase hk.not_before.1
  have hcleaned : ∀ {key} phase, CleanedBy w.attempts key →
      CleanedBy (w.attempts.upsert { a with phase }) key := by
    intro key phase h
    exact h.upsert ha rfl (by simp [hphase])
  cases complete_cases w a staged documentId messageId now fault with
  | quiet answer hanswer hknown h =>
    rw [h]
    exact ⟨fun d hd hw => hothers _ (hc.kept d hd hw), fun key hk => hcleaned _ (hc.cleaned key hk),
      hc.safe⟩
  | created d db' hrun hby answer hanswer h =>
    rw [h] at hkept ⊢
    obtain ⟨hid, hkey, -, hdocs⟩ := hby.document
    have hlost : fault = .lostAcknowledgement →
        ∃ grant authority, a.task = .agentPolicy grant authority := by
      intro hf
      subst hf
      exact acknowledged_lost ha hs hrun hack
    refine ⟨?_, fun key hk => hcleaned _ (hc.cleaned key hk), ?_⟩
    · intro x hx hw
      have hx' : x ∈ (w.db.documents.upsert d.toRow).rows := hdocs ▸ hx
      rcases Table.mem_upsert.mp hx' with rfl | ⟨hold, -⟩
      · have hkeeps := keeps_created hlost hby hanswer
        exact ⟨_, Table.mem_upsert.mpr (.inl rfl), staged, hs, hkey.symm, hkeeps⟩
      · obtain ⟨k, hk, s, hks, hkk, hkeeps⟩ := hc.kept x hold hw
        exact hothers _ ⟨k, hk, s, hks, hkk, hkeeps.mono hkept⟩
    · intro x hx hw
      have hx' : x ∈ (w.db.documents.upsert d.toRow).rows := hdocs ▸ hx
      rcases Table.mem_upsert.mp hx' with rfl | ⟨hold, -⟩
      · -- a key that was deleted belongs to a call that is over
        intro hmemc
        obtain ⟨k, hk, s, r, hks, hkk, hkp⟩ := hc.cleaned _ hmemc
        have hsame : k.id = a.id := hi.distinct k hk a hmem s staged hks hs (hkk.trans hkey)
        have heq : k = a := w.attempts.eq_of_key hk hmem hsame
        rw [heq, hphase] at hkp
        cases hkp
      · exact hc.safe x hold hw

/-- **Every acknowledged step keeps the invariant.** -/
theorem CleanupInv.move (hi : UploadInv w) (hc : CleanupInv w) (hm : UploadMove e w w')
    (hack : w.acknowledged e = true) : CleanupInv w' := by
  have hkept := grantsKept_move hi hm.tables
  cases hm with
  | refused h =>
    subst h
    exact hc
  | began a ids hnew hstaged hbegins hids h =>
    subst h
    have hold : ∀ x ∈ w.attempts.rows, x ∈ (w.attempts.upsert a).rows := fun x hx =>
      Table.mem_upsert.mpr (.inr ⟨hx, Table.get?_eq_none_iff.mp hnew x hx⟩)
    refine ⟨?_, ?_, hc.safe⟩
    · intro d hd hw
      obtain ⟨x, hx, rest⟩ := hc.kept d hd hw
      exact ⟨x, hold x hx, rest⟩
    · intro key hk
      obtain ⟨x, hx, rest⟩ := hc.cleaned key hk
      exact ⟨x, hold x hx, rest⟩
  | phase a phase uploadIds ha hphase h =>
    subst h
    refine ⟨?_, ?_, hc.safe⟩
    · intro d hd hw
      refine (hc.kept d hd hw).upsert ha rfl ?_
      intro s hs hkey hk
      exact ⟨hs, hk.next hi (hi.attempts a (Table.get?_mem ha)) hd hs hkey hphase⟩
    · intro key hk
      exact (hc.cleaned key hk).upsert ha rfl hphase.not_finished
  | staged a uploadId file staged ha hphase hnew hs h =>
    subst h
    have hnone := (hi.attempts a (Table.get?_mem ha)).unstaged (.inl hphase)
    refine ⟨?_, ?_, hc.safe⟩
    · intro d hd hw
      refine (hc.kept d hd hw).upsert ha rfl ?_
      intro s hs'
      rw [hnone] at hs'
      cases hs'
    · intro key hk
      exact (hc.cleaned key hk).upsert ha rfl (by simp [hphase])
  | completed a staged documentId messageId now fault he ha hphase hs hnew h =>
    subst h
    rw [he] at hack
    exact hc.completed hi hkept ha hphase hs hack
  | deleted a staged result ha hphase hs h =>
    subst h
    have hmem := Table.get?_mem ha
    refine ⟨?_, ?_, ?_⟩
    · intro d hd hw
      refine (hc.kept d hd hw).upsert ha rfl ?_
      intro s _ _ hk
      exact absurd hphase (hk.not_before.2 result)
    · intro key hk
      rcases List.mem_cons.mp hk with rfl | hold
      · exact ⟨_, Table.mem_upsert.mpr (.inl rfl), staged, result, hs, rfl, rfl⟩
      · exact (hc.cleaned key hold).upsert ha rfl (by simp [hphase])
    · intro d hd hw hk
      rcases List.mem_cons.mp hk with hkey | hold
      · -- the object of a document is kept by its call, and this call does not keep it
        obtain ⟨x, hx, s, hxs, hxk, hkeeps⟩ := hc.kept d hd hw
        have hsame : x.id = a.id := hi.distinct x hx a hmem s staged hxs hs (hxk.trans hkey)
        have heq : x = a := w.attempts.eq_of_key hx hmem hsame
        rw [heq] at hkeeps
        exact hkeeps.not_before.2 result hphase
      · exact hc.safe d hd hw hold
  | commanded db' effect hmove hnot hdb h =>
    subst h
    have hback := precedes_move hmove hnot
    refine ⟨?_, hc.cleaned, ?_⟩
    · intro d' hd' hw'
      obtain ⟨d, hd, hprec⟩ := hback d' hd'
      obtain ⟨hw, hkey⟩ := hprec.waiting hw'
      have hid : d'.id = d.id := congrArg DocumentIdentity.documentId hprec.identity
      obtain ⟨x, hx, s, hxs, hxk, hkeeps⟩ := hc.kept d hd hw
      rw [hkey, hid]
      exact ⟨x, hx, s, hxs, hxk, hkeeps.mono hkept⟩
    · intro d' hd' hw'
      obtain ⟨d, hd, hprec⟩ := hback d' hd'
      obtain ⟨hw, hkey⟩ := hprec.waiting hw'
      rw [hkey]
      exact hc.safe d hd hw
  | housekept db' change ids hk hids h =>
    subst h
    have hdocs := (housekept hk).documents
    refine ⟨?_, hc.cleaned, ?_⟩
    · intro d hd hw
      rw [hdocs] at hd
      obtain ⟨x, hx, s, hxs, hxk, hkeeps⟩ := hc.kept d hd hw
      exact ⟨x, hx, s, hxs, hxk, hkeeps.mono hkept⟩
    · intro d hd hw
      rw [hdocs] at hd
      exact hc.safe d hd hw

theorem cleanupInv_empty : CleanupInv .empty where
  kept := fun d hd => absurd hd (Table.mem_rows_empty d)
  cleaned := fun _ hk => absurd hk List.not_mem_nil
  safe := fun d hd => absurd hd (Table.mem_rows_empty d)

/-- **No run whose units of work are acknowledged deletes the bytes of a document**: on the paths of
people and of agents' evidence only a lost acknowledgement of an inserted document can do it, on the
path of agents' policies nothing can. -/
theorem cleanup_safe {maxDocumentBytes : Nat} {es : List UploadEvent}
    (hack : Along (uploadStep maxDocumentBytes) (fun w e => w.acknowledged e = true) .empty es)
    (h : run (uploadStep maxDocumentBytes) .empty es = some w) : CleanupSafe w := by
  have hboth : UploadInv w ∧ CleanupInv w := by
    refine run_inv_along (fun w => UploadInv w ∧ CleanupInv w) ?_ ⟨uploadInv_empty, cleanupInv_empty⟩
      hack h
    rintro s e s' ⟨hi, hc⟩ hp hstep
    have hm := uploadStep_move hstep
    exact ⟨hi.move hm, hc.move hi hm hp⟩
  exact hboth.2.safe

end

/-! An agent's policy upload whose acknowledgement is lost finds out that the document is its own; an
agent's evidence upload deletes the bytes of its document. -/

def samplePolicyGrant : AgentPolicyDocumentUploadGrant :=
  ⟨⟨4⟩, ⟨1⟩, (⟨7⟩ : PolicyId), ⟨"a.pdf", "application/pdf", 3, none⟩, ⟨2⟩, ⟨3⟩, 0, 1000000, .pending⟩

def samplePolicyUpload : List UploadEvent :=
  [.housekeeping (.addPolicy ⟨⟨7⟩, ⟨1⟩, none⟩),
    .housekeeping (.issuePolicyGrant samplePolicyGrant),
    .openAgentPolicy 1 21 ⟨4⟩ samplePolicyGrant.authority "application/pdf" 3 1000,
    .checkPolicy 1 true,
    .stage 1 11 ⟨"b.pdf", "text/plain", 3, "sha", "crc"⟩ true,
    .complete 1 ⟨9⟩ 31 3000 .lostAcknowledgement,
    .reconcile 1 true,
    .reconcile 1 true]

/-- the documents whose upload is not over, and whether a call has deleted their bytes -/
def UploadWorld.endangered (w : UploadWorld) : List (DocumentId × Bool) :=
  (w.db.documents.rows.filter Document.waiting).map fun d => (d.id, decide (d.objectKey ∈ w.cleaned))

theorem cleanup_safe_policy :
    ∃ w, run (uploadStep 10) .empty samplePolicyUpload = some w ∧ w.endangered = [(⟨9⟩, false)] ∧
      w.quarantine.length = 1 ∧ CleanupSafe w := by
  have hrun : ((run (uploadStep 10) .empty samplePolicyUpload).map fun w =>
      (w.endangered, w.quarantine.length)) = some ([(⟨9⟩, false)], 1) := by
    decide +kernel
  have hack : checkAlong (uploadStep 10) UploadWorld.acknowledged .empty samplePolicyUpload = true := by
    decide +kernel
  obtain ⟨w, hw, hdata⟩ := Option.map_eq_some_iff.mp hrun
  simp only [Prod.mk.injEq] at hdata
  exact ⟨w, hw, hdata.1, hdata.2, cleanup_safe (along_of_check hack) hw⟩

def sampleEvidenceUpload : List UploadEvent :=
  [.housekeeping (.addEvidence ⟨⟨5⟩, ⟨1⟩⟩),
    .housekeeping (.issueEvidenceGrant ⟨⟨4⟩, ⟨1⟩, (⟨⟨6⟩, ⟨5⟩, ⟨0, 1000⟩⟩ : EvidenceUploadTarget),
      ⟨"a.pdf", "application/pdf", 3, none⟩, ⟨2⟩, ⟨3⟩, 0, 1000000, .pending⟩),
    .openAgentEvidence 1 21 ⟨4⟩ ⟨⟨4⟩, ⟨1⟩, (⟨⟨5⟩, ⟨6⟩⟩ : EvidenceUploadRef), ⟨2⟩, ⟨3⟩, 1000000⟩
      "application/pdf" 3 1000,
    .stage 1 11 ⟨"b.pdf", "text/plain", 3, "sha", "crc"⟩ true,
    .complete 1 ⟨9⟩ 31 3000 .lostAcknowledgement,
    .delete 1 true]

theorem cleanup_lost :
    ∃ w, run (uploadStep 10) .empty sampleEvidenceUpload = some w ∧ w.endangered = [(⟨9⟩, true)] ∧
      w.quarantine = [] ∧ ¬ CleanupSafe w := by
  have hrun : ((run (uploadStep 10) .empty sampleEvidenceUpload).map fun w =>
      (w.endangered, w.quarantine)) = some ([(⟨9⟩, true)], []) := by
    decide +kernel
  obtain ⟨w, hw, hdata⟩ := Option.map_eq_some_iff.mp hrun
  simp only [Prod.mk.injEq] at hdata
  refine ⟨w, hw, hdata.1, hdata.2, ?_⟩
  intro hsafe
  have hmem : ((⟨9⟩ : DocumentId), true) ∈ w.endangered := by
    rw [hdata.1]
    exact List.mem_cons_self
  obtain ⟨d, hd, heq⟩ := List.mem_map.mp hmem
  obtain ⟨hrow, hwaiting⟩ := List.mem_filter.mp hd
  exact hsafe d hrow hwaiting (of_decide_eq_true (Prod.mk.inj heq).2)

end Proofplane
