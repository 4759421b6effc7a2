import Proofplane.Base.Table
import Proofplane.Base.Time
import Proofplane.Domain.Ids

/-!
# Users

A user is known by the subject of his tokens, and is provisioned the first time such a token is seen.

* `User`                what is known of him;
* `provision`, `rehydrate`, `provisionProfile`, `recordLogin`   how that changes;
* `User.Later`          what of it never changes back; `provisionProfile_later`, `recordLogin_later`.
-/

namespace Proofplane.Identity
open Base

structure User where
  id : UserId
  auth0Sub : String
  email : Option String
  name : Option String
  lastLoginAt : Option Int
  createdAt : Int
  deriving DecidableEq, Repr

inductive UserTransition
  | applied | replay
  deriving DecidableEq, Repr

inductive UserError
  | invalidLifecycle
  deriving DecidableEq, Repr

namespace User

def provision (id : UserId) (auth0Sub : String) (email name : Option String) (createdAt : Int) : User :=
  ⟨id, auth0Sub, email, name, none, createdAt⟩

/-- the login is not before the user was provisioned -/
def lifecycle (u : User) : Bool := u.lastLoginAt.all fun loggedInAt => u.createdAt ≤ loggedInAt

def rehydrate (u : User) : Except UserError User := if u.lifecycle then .ok u else .error .invalidLifecycle

def provisionProfile (u : User) (email name : Option String) : User × UserTransition :=
  let nextEmail := email <|> u.email
  let nextName := name <|> u.name
  if u.email = nextEmail ∧ u.name = nextName then (u, .replay)
  else ({ u with email := nextEmail, name := nextName }, .applied)

def recordLogin (u : User) (loggedInAt : Int) : Except UserError (User × UserTransition) :=
  if loggedInAt < u.createdAt then .error .invalidLifecycle
  else if u.lastLoginAt.any fun current => loggedInAt ≤ current then .ok (u, .replay)
  else .ok ({ u with lastLoginAt := some loggedInAt }, .applied)

/-- the row of a user: its instants in whole microseconds -/
def toRow (u : User) : User :=
  { u with lastLoginAt := u.lastLoginAt.map pgTimestamp, createdAt := pgTimestamp u.createdAt }

@[simp] theorem toRow_id (u : User) : u.toRow.id = u.id := rfl

@[simp] theorem toRow_auth0Sub (u : User) : u.toRow.auth0Sub = u.auth0Sub := rfl

@[simp] theorem toRow_toRow (u : User) : u.toRow.toRow = u.toRow := by
  unfold toRow
  cases u.lastLoginAt with
  | none => simp
  | some t => simp

/-- the row of a user with a lifecycle has one -/
theorem lifecycle_toRow {u : User} (h : u.lifecycle = true) : u.toRow.lifecycle = true := by
  unfold lifecycle toRow at *
  cases hlast : u.lastLoginAt with
  | none => rfl
  | some t =>
    rw [hlast] at h
    exact decide_eq_true (pgTimestamp_mono (of_decide_eq_true h))

/-! ## What does not change back -/

/-- `u'` is the user `u` at a later time -/
structure Later (u u' : User) : Prop where
  id : u'.id = u.id
  auth0Sub : u'.auth0Sub = u.auth0Sub
  createdAt : u'.createdAt = u.createdAt
  email : u.email.isSome = true → u'.email.isSome = true
  name : u.name.isSome = true → u'.name.isSome = true
  lastLoginAt : ∀ t, u.lastLoginAt = some t → ∃ t', u'.lastLoginAt = some t' ∧ t ≤ t'

theorem Later.refl (u : User) : Later u u := ⟨rfl, rfl, rfl, fun he => he, fun hn => hn, fun t ht => ⟨t, ht, le_refl t⟩⟩

theorem Later.trans {u u' u'' : User} (h : Later u u') (h' : Later u' u'') : Later u u'' := by
  refine ⟨h'.id.trans h.id, h'.auth0Sub.trans h.auth0Sub, h'.createdAt.trans h.createdAt,
    fun he => h'.email (h.email he), fun hn => h'.name (h.name hn), fun t ht => ?_⟩
  obtain ⟨t', ht', hle⟩ := h.lastLoginAt t ht
  obtain ⟨t'', ht'', hle'⟩ := h'.lastLoginAt t' ht'
  exact ⟨t'', ht'', le_trans hle hle'⟩

/-- what is stored of a later user is later than what was stored -/
theorem Later.toRow {u u' : User} (h : Later u u') (hu : u.toRow = u) : Later u u'.toRow := by
  have hcreated : pgTimestamp u.createdAt = u.createdAt := congrArg User.createdAt hu
  refine ⟨h.id, h.auth0Sub, ?_, h.email, h.name, fun t ht => ?_⟩
  · show pgTimestamp u'.createdAt = u.createdAt
    rw [h.createdAt, hcreated]
  · obtain ⟨t', ht', hle⟩ := h.lastLoginAt t ht
    have hmicros : pgTimestamp t = t := by
      have hlast : u.lastLoginAt.map pgTimestamp = u.lastLoginAt := congrArg User.lastLoginAt hu
      rw [ht] at hlast
      exact Option.some.inj hlast
    refine ⟨pgTimestamp t', ?_, ?_⟩
    · show u'.lastLoginAt.map pgTimestamp = some (pgTimestamp t')
      rw [ht']
      rfl
    · rw [← hmicros]
      exact pgTimestamp_mono hle

/-- **A profile is filled in, and never forgotten.** -/
theorem provisionProfile_later (u : User) (email name : Option String) :
    Later u (u.provisionProfile email name).1 := by
  have hkept : ∀ a b : Option String, b.isSome = true → (a <|> b).isSome = true := by
    intro a b hb
    cases a with
    | none => exact hb
    | some x => rfl
  unfold provisionProfile
  dsimp only
  split
  · exact .refl u
  · exact ⟨rfl, rfl, rfl, hkept _ _, hkept _ _, fun t ht => ⟨t, ht, le_refl t⟩⟩

theorem provisionProfile_lifecycle (u : User) (email name : Option String) :
    (u.provisionProfile email name).1.lifecycle = u.lifecycle := by
  unfold provisionProfile
  dsimp only
  split
  · rfl
  · rfl

/-- **A login is recorded if it is the latest.** -/
theorem recordLogin_later {u u' : User} {loggedInAt : Int} {transition : UserTransition}
    (h : u.recordLogin loggedInAt = .ok (u', transition)) : Later u u' ∧ (transition = .replay → u' = u) := by
  unfold recordLogin at h
  split at h
  · cases h
  · split at h
    · cases h
      exact ⟨.refl u, fun _ => rfl⟩
    · next hlate =>
      cases h
      refine ⟨⟨rfl, rfl, rfl, fun he => he, fun hn => hn, fun t ht => ⟨loggedInAt, rfl, ?_⟩⟩, by simp⟩
      rw [ht] at hlate
      have hnot : ¬ loggedInAt ≤ t := fun hle => hlate (decide_eq_true hle)
      omega

theorem recordLogin_lifecycle {u u' : User} {loggedInAt : Int} {transition : UserTransition}
    (h : u.recordLogin loggedInAt = .ok (u', transition)) (hu : u.lifecycle = true) : u'.lifecycle = true := by
  unfold recordLogin at h
  split at h
  · cases h
  · next hcreated =>
    split at h
    · cases h
      exact hu
    · cases h
      exact decide_eq_true (not_lt.mp hcreated)

end User

end Proofplane.Identity
