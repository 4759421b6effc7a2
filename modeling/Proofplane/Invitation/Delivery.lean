import Proofplane.Invitation.Windows

/-!
# Mailing an invitation

A message may come any number of times and in any order, and a mail may be out although its unit of work
is lost.  What keeps a generation from being mailed twice is the invitation itself: once a mail has been
recorded, or has been sent too late to be recorded, no message passes the check at the head of the handler.

* `Spent`, `Recorded`     what is left of a generation after a mail whose unit of work has committed;
* `InvitationsMove.spent`, `InvitationsMove.recorded`   every move keeps them;
* `DeliveryInv`           what every state of a run satisfies;
* `invitation_delivery`   **what is mailed, when, how often, and what becomes of it**.
-/

namespace Proofplane
open Base

/-! ## What a change leaves of a generation -/

section
variable {i j : WorkspaceInvitation} {op : InvitationOp} {a : InvitationAnswer}

/-- within a generation a stored invitation that is pending after a change was so before it -/
theorem InvitationChange.pending_back (h : InvitationChange i op a j)
    (hgeneration : j.generation = i.generation) (hstored : i.toRow = i) {t : Int}
    (hpending : j.toRow.statusAt t = .pending) : i.statusAt t = .pending := by
  rw [← hstored]
  cases h with
  | accepted userId s hp =>
    obtain ⟨haccepted, -, -⟩ := (WorkspaceInvitation.statusAt_eq_pending_iff _ t).mp hpending
    cases haccepted
  | resent s expiresAt hp hlater =>
    have hg : i.generation + 1 = i.generation := hgeneration
    omega
  | revoked s hp =>
    obtain ⟨-, hrevoked, -⟩ := (WorkspaceInvitation.statusAt_eq_pending_iff _ t).mp hpending
    cases hrevoked
  | replayed => exact hpending
  | queued => exact hpending
  | ignored => exact hpending
  | delivered => exact hpending
  | failed => exact hpending

/-- within a generation a delivery stays recorded -/
theorem InvitationChange.deliveredGeneration (h : InvitationChange i op a j)
    (hgeneration : j.generation = i.generation)
    (hd : i.deliveredGeneration = some i.generation) :
    j.deliveredGeneration = some j.generation := by
  cases h with
  | resent t expiresAt hpending hlater =>
    have hg : i.generation + 1 = i.generation := hgeneration
    omega
  | replayed => exact hd
  | accepted => exact hd
  | queued => exact hd
  | revoked => exact hd
  | ignored => exact hd
  | delivered => rfl
  | failed => exact hd

/-- and its failure stays cleared, as no failure is recorded over it -/
theorem InvitationChange.lastDeliveryFailure (h : InvitationChange i op a j)
    (hcall : ∀ g classification t, op = .recordDeliveryFailure g classification t →
      i.deliveredGeneration ≠ some i.generation)
    (hd : i.deliveredGeneration = some i.generation) (hf : i.lastDeliveryFailure = none) :
    j.lastDeliveryFailure = none := by
  cases h with
  | failed classification t hpending => exact absurd hd (hcall _ _ _ rfl)
  | replayed => exact hf
  | accepted => exact hf
  | queued => rfl
  | resent => rfl
  | revoked => exact hf
  | ignored => exact hf
  | delivered => rfl

end

theorem WorkspaceInvitation.not_pending_mono {i : WorkspaceInvitation} {s t : Int} (hst : s ≤ t)
    (h : i.statusAt s ≠ .pending) : i.statusAt t ≠ .pending := by
  intro hp
  obtain ⟨ha, hr, ht⟩ := (i.statusAt_eq_pending_iff t).mp hp
  exact h ((i.statusAt_eq_pending_iff s).mpr ⟨ha, hr, lt_of_le_of_lt hst ht⟩)

/-- the generation `g` of the invitation is past, or delivered, or will not be pending again -/
def Spent (now : Int) (db : PeopleDb) (id : WorkspaceInvitationId) (g : Int) : Prop :=
  ∃ row, db.invitations.get? id = some row ∧ g ≤ row.generation ∧
    (row.generation = g → row.deliveredGeneration = some row.generation ∨
      ∀ t, now ≤ t → row.statusAt t ≠ .pending)

/-- the generation `g` of the invitation is past, or shows as delivered -/
def Recorded (db : PeopleDb) (id : WorkspaceInvitationId) (g : Int) : Prop :=
  ∃ row, db.invitations.get? id = some row ∧ g ≤ row.generation ∧
    (row.generation = g → row.deliveredGeneration = some row.generation ∧
      row.lastDeliveryFailure = none)

section
variable {now now' : Int} {db db' : PeopleDb} {resentAt : Option Int} {id : WorkspaceInvitationId} {g : Int}

/-- where the row of an invitation comes from after a move -/
theorem InvitationsMove.row (h : InvitationsMove resentAt now' db db')
    {row : WorkspaceInvitation} (hrow : db.invitations.get? id = some row) :
    db'.invitations.get? id = some row ∨
      ∃ j op a, db'.invitations.get? id = some j.toRow ∧ InvitationChange row op a j ∧
        CalledBy resentAt row op := by
  cases h with
  | same h =>
    rw [h]
    exact .inl hrow
  | created id' workspaceId inviter email t hread hfresh hlock hfree h =>
    refine .inl ?_
    rw [h, Table.get?_upsert, if_neg, hrow]
    intro hc
    have hc : id' = id := hc
    rw [hc, hrow] at hfresh
    cases hfresh
  | changed row' j op a hmem hchange hcall hfree h =>
    rw [h, Table.get?_upsert]
    by_cases hc : row'.id = id
    · have hsame : row' = row := by
        have hget := Table.get?_of_mem hmem
        rw [hc, hrow] at hget
        exact (Option.some.inj hget).symm
      subst hsame
      refine .inr ⟨j, op, a, if_pos ?_, hchange, hcall⟩
      exact hchange.later.id.trans hc
    · refine .inl ?_
      rw [if_neg, hrow]
      intro hk
      exact hc (hchange.later.id.symm.trans hk)

theorem InvitationsMove.spent (h : InvitationsMove resentAt now' db db') (ht : now ≤ now')
    (hinv : WindowsInv now db) (hs : Spent now db id g) : Spent now' db' id g := by
  obtain ⟨row, hrow, hle, hspent⟩ := hs
  rcases h.row hrow with hrow' | ⟨j, op, a, hrow', hchange, hcall⟩
  · exact ⟨row, hrow', hle, fun hg => (hspent hg).imp (fun hd => hd)
      fun hno t h => hno t (le_trans ht h)⟩
  · have hlater := hchange.later
    refine ⟨j.toRow, hrow', le_trans hle hlater.generation, fun hg => ?_⟩
    have hg : j.generation = g := hg
    have hgrow : row.generation = g := le_antisymm (le_trans hlater.generation (le_of_eq hg)) hle
    rcases hspent hgrow with hd | hno
    · exact .inl (hchange.deliveredGeneration (hg.trans hgrow.symm) hd)
    · refine .inr fun t h hpending => hno t (le_trans ht h) ?_
      have hstored : row.toRow = row := hinv.stored row (Table.get?_mem hrow)
      exact hchange.pending_back (hg.trans hgrow.symm) hstored hpending

theorem InvitationsMove.recorded (h : InvitationsMove resentAt now db db')
    (hr : Recorded db id g) : Recorded db' id g := by
  obtain ⟨row, hrow, hle, hrecorded⟩ := hr
  rcases h.row hrow with hrow' | ⟨j, op, a, hrow', hchange, hcall⟩
  · exact ⟨row, hrow', hle, hrecorded⟩
  · have hlater := hchange.later
    refine ⟨j.toRow, hrow', le_trans hle hlater.generation, fun hg => ?_⟩
    have hg : j.generation = g := hg
    have hgrow : row.generation = g := le_antisymm (le_trans hlater.generation (le_of_eq hg)) hle
    obtain ⟨hd, hf⟩ := hrecorded hgrow
    exact ⟨hchange.deliveredGeneration (hg.trans hgrow.symm) hd,
      hchange.lastDeliveryFailure hcall.failure hd hf⟩

end

/-! ## What a step mails -/

section
variable {Key Nonce Token : Type*} {S : InvitationServer Key Nonce Token}

/-- what a mail is sent for: a locked invitation that is pending, in the generation of the message, which
is not delivered yet, with a link for that generation -/
structure MailedFor (S : InvitationServer Key Nonce Token) (db : PeopleDb) (message : WorkerMessage)
    (a : DeliveryAttempt Nonce) (work : WorkspaceInvitationDeliveryWork) (i : WorkspaceInvitation)
    (m : SentMail) : Prop where
  parsed : invitationDelivery message = some work
  invitationId : m.invitationId = ⟨work.invitationId⟩
  generation : m.generation = work.generation
  locked : db.invitations.get? ⟨work.invitationId⟩ = some i
  current : i.generation = work.generation
  pending : i.statusAt a.now = .pending
  undelivered : i.deliveredGeneration ≠ some work.generation
  link : ∃ workspaceName link,
    S.authority.issueAt ⟨i.id, work.generation, i.expiresAt⟩ a.nonce a.issuedAt = .ok link ∧
      m.message = invitationMail i workspaceName (S.urlText link) (deliveryIdempotencyKey work)

theorem DeliveryRun.sent_none {r : DeliveryRun} (message : WorkerMessage)
    (answer : Except MailError Unit) (h : r.mail = none) : r.sent message answer = [] := by
  unfold sent
  rw [h]
  cases invitationDelivery message with
  | none => rfl
  | some work => rfl

theorem DeliveryRun.sent_some {r : DeliveryRun} {message : WorkerMessage}
    {work : WorkspaceInvitationDeliveryWork} {mail : MailMessage} (answer : Except MailError Unit)
    (hwork : invitationDelivery message = some work) (h : r.mail = some mail) :
    r.sent message answer
      = [⟨⟨work.invitationId⟩, work.generation, mail, answer.isOk, r.landed⟩] := by
  unfold sent
  rw [hwork, h]

/-- a delivery that is let through changes nothing, or mails once and then is lost or recorded -/
theorem deliver_step {w w' : InvitationWorld} {message : WorkerMessage} {a : DeliveryAttempt Nonce}
    (h : peopleStep S w (.deliver message a) = some w') :
    (w'.mails = w.mails ∧ w'.db = w.db) ∨
      ∃ work i m, w'.mails = m :: w.mails ∧ MailedFor S w.db message a work i m ∧
        m.delivered = a.answer.isOk ∧ w.clock ≤ a.now ∧ w'.clock = a.recordedAt ∧
        ((m.landed = none ∧ w'.db = w.db) ∨
          ∃ o, m.landed = some o ∧ Records w.db i a.answer a.recordedAt o w'.db) := by
  unfold peopleStep at h
  dsimp only at h
  split at h
  · next hclock =>
    cases h
    have hd := deliverWorkspaceInvitation_delivered S w.db message a
    revert hd
    generalize deliverWorkspaceInvitation S w.db message a = r
    intro hd
    cases hd with
    | silent hmail hdb =>
      refine .inl ⟨?_, hdb⟩
      show r.sent message a.answer ++ w.mails = w.mails
      rw [DeliveryRun.sent_none message a.answer hmail]
      rfl
    | mailed work i workspace link hwork hrow hgeneration hpending hundelivered hlink hmail hdb =>
      refine .inr ⟨work, i,
        ⟨⟨work.invitationId⟩, work.generation,
          invitationMail i workspace.name (S.urlText link) (deliveryIdempotencyKey work),
          a.answer.isOk, r.landed⟩, ?_, ?_, rfl, hclock.1, rfl, hdb⟩
      · show r.sent message a.answer ++ w.mails = _
        rw [DeliveryRun.sent_some a.answer hwork hmail]
        rfl
      · rw [hgeneration] at hundelivered
        refine ⟨hwork, rfl, rfl, hrow, hgeneration, hpending, hundelivered, workspace.name, link, ?_,
          rfl⟩
        rw [← hgeneration]
        exact hlink
  · cases h

/-- no other event mails anything -/
theorem peopleStep_mails {w w' : InvitationWorld} {e : InvitationEvent Nonce Token}
    (he : ∀ message a, e ≠ .deliver message a) (h : peopleStep S w e = some w') :
    w'.mails = w.mails := by
  unfold peopleStep at h
  split at h
  · split at h
    · cases h
      rfl
    · cases h
  · cases h
    rfl
  · split at h
    · cases h
      rfl
    · cases h
  · split at h
    · cases h
      rfl
    · cases h
  · split at h
    · cases h
      rfl
    · cases h
  · split at h
    · cases h
      rfl
    · cases h
  · next message a => exact absurd rfl (he message a)

/-! ## Every run -/

/-- what every state of a run satisfies -/
structure DeliveryInv (w : InvitationWorld) : Prop where
  windows : WindowsInv w.clock w.db
  spent : ∀ m ∈ w.mails, m.delivered = true → m.landed ≠ none →
    Spent w.clock w.db m.invitationId m.generation
  recorded : ∀ m ∈ w.mails, m.landed = some .delivered →
    Recorded w.db m.invitationId m.generation
  once : w.mails.Pairwise fun later earlier =>
    later.invitationId = earlier.invitationId → later.generation = earlier.generation →
      later.delivered = true → earlier.delivered = true → earlier.landed = none

/-- a generation that is spent is not mailed -/
theorem MailedFor.not_spent {db : PeopleDb} {message : WorkerMessage} {a : DeliveryAttempt Nonce}
    {work : WorkspaceInvitationDeliveryWork} {i : WorkspaceInvitation} {m : SentMail} {now : Int}
    (h : MailedFor S db message a work i m) (hnow : now ≤ a.now) :
    ¬ Spent now db m.invitationId m.generation := by
  rintro ⟨row, hrow, -, hspent⟩
  rw [h.invitationId, h.locked] at hrow
  cases hrow
  rcases hspent (h.current.trans h.generation.symm) with hd | hno
  · rw [h.current] at hd
    exact h.undelivered hd
  · exact hno a.now hnow h.pending

/-- a mail that is out and recorded, or out too late, has spent its generation -/
theorem Records.spent {db db' : PeopleDb} {i : WorkspaceInvitation} {answer : Except MailError Unit}
    {t : Int} {o : DeliveryOutcome} (h : Records db i answer t o db')
    (hrow : db.invitations.get? i.id = some i) (hanswer : answer.isOk = true) :
    Spent t db' i.id i.generation := by
  cases h with
  | ignored hstatus =>
    exact ⟨i, hrow, le_refl _, fun _ => .inr fun s hs =>
      WorkspaceInvitation.not_pending_mono hs hstatus⟩
  | success j hchange hdelivered hclean hfree =>
    have hid := hchange.later.id
    refine ⟨j.toRow, ?_, hchange.later.generation, fun hg => .inl ?_⟩
    · exact (Table.get?_upsert _ _ _).trans (if_pos hid)
    · have hg : j.generation = i.generation := hg
      show j.deliveredGeneration = some j.generation
      rw [hg]
      exact hdelivered
  | failure o classification j hchange hfailed ho hfree =>
    rw [hanswer] at hfailed
    cases hfailed

theorem Records.recorded {db db' : PeopleDb} {i : WorkspaceInvitation}
    {answer : Except MailError Unit} {t : Int} (h : Records db i answer t .delivered db') :
    Recorded db' i.id i.generation := by
  cases h with
  | success j hchange hdelivered hclean hfree =>
    have hid := hchange.later.id
    refine ⟨j.toRow, ?_, hchange.later.generation, fun hg => ⟨?_, hclean⟩⟩
    · exact (Table.get?_upsert _ _ _).trans (if_pos hid)
    · have hg : j.generation = i.generation := hg
      show j.deliveredGeneration = some j.generation
      rw [hg]
      exact hdelivered
  | failure o classification j hchange hanswer ho hfree => exact absurd rfl ho

theorem peopleStep_delivery (w : InvitationWorld) (e : InvitationEvent Nonce Token)
    (w' : InvitationWorld) (hinv : DeliveryInv w) (h : peopleStep S w e = some w') :
    DeliveryInv w' := by
  obtain ⟨ht, hmove⟩ := peopleStep_move h
  have hwindows := hmove.windows ht hinv.windows
  have hspent : ∀ m ∈ w.mails, m.delivered = true → m.landed ≠ none →
      Spent w'.clock w'.db m.invitationId m.generation :=
    fun m hm hd hl => hmove.spent ht hinv.windows (hinv.spent m hm hd hl)
  have hrecorded : ∀ m ∈ w.mails, m.landed = some .delivered →
      Recorded w'.db m.invitationId m.generation :=
    fun m hm hl => hmove.recorded (hinv.recorded m hm hl)
  have hold (hmails : w'.mails = w.mails) : DeliveryInv w' := by
    refine ⟨hwindows, ?_, ?_, ?_⟩
    · rw [hmails]
      exact hspent
    · rw [hmails]
      exact hrecorded
    · rw [hmails]
      exact hinv.once
  by_cases he : ∃ message a, e = .deliver message a
  · obtain ⟨message, a, rfl⟩ := he
    rcases deliver_step h with ⟨hmails, -⟩ | ⟨work, i, m, hmails, hfor, hanswer, hnow, hclock, hdb⟩
    · exact hold hmails
    · have hid : i.id = m.invitationId := by
        rw [hfor.invitationId]
        exact Table.get?_key hfor.locked
      have hgeneration : i.generation = m.generation := hfor.current.trans hfor.generation.symm
      have hlocked : w.db.invitations.get? i.id = some i := Table.get?_of_mem (Table.get?_mem hfor.locked)
      refine ⟨hwindows, ?_, ?_, ?_⟩
      · rw [hmails]
        intro n hn hd hl
        rcases List.mem_cons.mp hn with rfl | hn
        · rcases hdb with ⟨hnone, -⟩ | ⟨o, -, hrecords⟩
          · exact absurd hnone hl
          · rw [← hid, ← hgeneration, hclock]
            rw [hanswer] at hd
            exact hrecords.spent hlocked hd
        · exact hspent n hn hd hl
      · rw [hmails]
        intro n hn hl
        rcases List.mem_cons.mp hn with rfl | hn
        · rcases hdb with ⟨hnone, -⟩ | ⟨o, ho, hrecords⟩
          · rw [hnone] at hl
            cases hl
          · rw [hl] at ho
            cases ho
            rw [← hid, ← hgeneration]
            exact hrecords.recorded
        · exact hrecorded n hn hl
      · rw [hmails, List.pairwise_cons]
        refine ⟨fun n hn hsame hg _ hd => ?_, hinv.once⟩
        -- an earlier mail that has landed would have spent the generation
        by_contra hl
        have hs := hinv.spent n hn hd hl
        rw [← hsame, ← hg] at hs
        exact hfor.not_spent hnow hs
  · exact hold (peopleStep_mails (fun message a hc => he ⟨message, a, hc⟩) h)

theorem peopleRun_delivery {es : List (InvitationEvent Nonce Token)} {w : InvitationWorld}
    (h : run (peopleStep S) .empty es = some w) : DeliveryInv w := by
  refine run_inv DeliveryInv peopleStep_delivery ?_ h
  refine ⟨⟨fun _ hi => absurd hi (Table.mem_rows_empty _), fun _ hi => absurd hi (Table.mem_rows_empty _),
    fun _ hi => absurd hi (Table.mem_rows_empty _)⟩, ?_, ?_, List.Pairwise.nil⟩
  · exact fun m hm => absurd hm List.not_mem_nil
  · exact fun m hm => absurd hm List.not_mem_nil

theorem Recorded.deliveryState {db : PeopleDb} {id : WorkspaceInvitationId} {g : Int}
    (h : Recorded db id g) : ∃ row, db.invitations.get? id = some row ∧ g ≤ row.generation ∧
      (row.generation = g → row.deliveryState = .delivered) := by
  obtain ⟨row, hrow, hle, hrecorded⟩ := h
  refine ⟨row, hrow, hle, fun hg => ?_⟩
  obtain ⟨hd, hf⟩ := hrecorded hg
  unfold WorkspaceInvitation.deliveryState
  rw [hf, hd]
  exact if_pos rfl

/-- **Mailing.**  A mail goes out only for a locked invitation that is pending, in the generation of the
message, which is current and not delivered, and its link is issued for that generation; any other message
changes nothing.  Of two successful mails of a generation the unit of work of the earlier one was lost.  And
a generation whose success has been committed shows as delivered until a resend starts the next one. -/
theorem invitation_delivery (S : InvitationServer Key Nonce Token)
    (es : List (InvitationEvent Nonce Token)) (w : InvitationWorld)
    (hrun : run (peopleStep S) .empty es = some w) :
    (∀ message a w', peopleStep S w (.deliver message a) = some w' →
      ((w'.mails = w.mails ∧ w'.db = w.db) ∨
        ∃ work i m, w'.mails = m :: w.mails ∧ MailedFor S w.db message a work i m) ∧
      ∀ work, invitationDelivery message = some work →
        (∀ i, w.db.invitations.get? ⟨work.invitationId⟩ = some i →
          i.generation ≠ work.generation ∨ i.statusAt a.now ≠ .pending) →
        w'.mails = w.mails ∧ w'.db = w.db) ∧
    (∀ e w', (∀ message a, e ≠ .deliver message a) → peopleStep S w e = some w' →
      w'.mails = w.mails) ∧
    (w.mails.Pairwise fun later earlier =>
      later.invitationId = earlier.invitationId → later.generation = earlier.generation →
        later.delivered = true → earlier.delivered = true → earlier.landed = none) ∧
    (∀ m ∈ w.mails, m.landed = some .delivered → ∀ later w',
      run (peopleStep S) w later = some w' →
        ∃ row, w'.db.invitations.get? m.invitationId = some row ∧ m.generation ≤ row.generation ∧
          (row.generation = m.generation → row.deliveryState = .delivered)) := by
  have hinv := peopleRun_delivery hrun
  refine ⟨fun message a w' h => ⟨?_, fun work hwork hno => ?_⟩, fun e w' he h => peopleStep_mails he h,
    hinv.once, fun m hm hl later w' h => ?_⟩
  · rcases deliver_step h with hsame | ⟨work, i, m, hmails, hfor, -⟩
    · exact .inl hsame
    · exact .inr ⟨work, i, m, hmails, hfor⟩
  · rcases deliver_step h with hsame | ⟨work', i, m, hmails, hfor, -⟩
    · exact hsame
    · rw [hfor.parsed] at hwork
      cases hwork
      rcases hno i hfor.locked with hg | hp
      · exact absurd hfor.current hg
      · exact absurd hfor.pending hp
  · have hr : Recorded w'.db m.invitationId m.generation :=
      run_inv (fun w => Recorded w.db m.invitationId m.generation)
        (fun _ _ _ hr hs => (peopleStep_move hs).2.recorded hr) (hinv.recorded m hm hl) h
    exact hr.deliveryState

end

/-! ## A mail whose unit of work is lost -/

/-- the message of the first generation of the invitation of 2026-01-01 -/
def newYearDelivery : WorkerMessage where
  messageId := "1"
  eventType := sendWorkspaceInvitationType
  aggregateType := "workspace_invitation"
  aggregateId := (1 : Uuid).text
  requestId := none
  payload := WorkspaceInvitationDeliveryWork.toJson ⟨1, 1⟩
  deliveryAttempt := some 1

/-- the provider takes the mail at `t` -/
def deliveryAt (t : Int) (fault : CommitFault) : DeliveryAttempt Unit :=
  ⟨t, (), t, .ok (), t, fault⟩

/-- three deliveries of one message: the first is lost before its commit, the last finds it delivered -/
def redeliveredRun :
    List (InvitationEvent Unit (InvitationClaims × InvitationFooter × String)) :=
  [.people acmeTables .empty,
    .tick 1767225600000000000,
    .create ⟨⟨1⟩, ⟨3⟩, "admin@example.com", 1767225600000000000⟩ .background 10 (),
    .deliver newYearDelivery (deliveryAt 1767225601000000000 .beforeCommit),
    .deliver newYearDelivery (deliveryAt 1767225602000000000 .none),
    .deliver newYearDelivery (deliveryAt 1767225603000000000 .none)]

theorem invitation_delivery_redelivered :
    ∃ w, run (peopleStep plainInvitationServer) .empty redeliveredRun = some w ∧
      w.mails.map (fun m => (m.generation, m.delivered, m.landed))
        = [(1, true, some .delivered), (1, true, none)] ∧
      w.mails.Pairwise fun later earlier =>
        later.invitationId = earlier.invitationId → later.generation = earlier.generation →
          later.delivered = true → earlier.delivered = true → earlier.landed = none := by
  have hdata : (run (peopleStep plainInvitationServer) .empty redeliveredRun).map
      (fun w => w.mails.map fun m => (m.generation, m.delivered, m.landed))
        = some [(1, true, some .delivered), (1, true, none)] := by decide
  obtain ⟨w, hw, hmails⟩ := Option.map_eq_some_iff.mp hdata
  exact ⟨w, hw, hmails, (invitation_delivery plainInvitationServer redeliveredRun w hw).2.2.1⟩

end Proofplane
