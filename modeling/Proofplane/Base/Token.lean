import Mathlib.Data.List.Nodup
import Mathlib.Data.List.Basic

/-!
# Symmetric tokens under a ring of keys

The encryption itself is a parameter: a `TokenLayer` seals a payload with a footer in the clear,
under a key, a nonce and an implicit assertion that the token does not carry.

* `TokenLayer.Faithful`    what was sealed under a key opens under it to the same payload, and the
                           footer can be read without the key;
* `TokenLayer.Bound`       a token opens only under what it was sealed under;
* `TokenLayer.plain`       the layer without secrets, to evaluate with;
* `TokenLayer.only`        the layer that can seal one payload, whatever tokens are;
* `Keyring`                the keys by id with one of them active; `get?_active` finds that one.
-/

namespace Base

/-- sealing and opening of tokens -/
structure TokenLayer (Key Nonce Payload Footer Token : Type*) where
  encrypt : Key → Nonce → Payload → Footer → String → Option Token
  untrustedFooter : Token → Option Footer
  decrypt : Key → Token → String → Option Payload

namespace TokenLayer
variable {Key Nonce Payload Footer Token : Type*}

/-- a token opens to exactly what was sealed in it -/
structure Faithful (P : TokenLayer Key Nonce Payload Footer Token) : Prop where
  footer : ∀ {k n p f a tok}, P.encrypt k n p f a = some tok → P.untrustedFooter tok = some f
  payload : ∀ {k n p f a tok}, P.encrypt k n p f a = some tok → P.decrypt k tok a = some p

/-- a sealed token opens only with the key, the footer and the implicit assertion of its sealing -/
structure Bound (P : TokenLayer Key Nonce Payload Footer Token) : Prop where
  opened : ∀ {k n p f a tok k' a' p'}, P.encrypt k n p f a = some tok →
    P.decrypt k' tok a' = some p' → k' = k ∧ P.untrustedFooter tok = some f ∧ a' = a

/-- the layer that seals nothing: a token is its payload, footer and assertion -/
def plain (Key Nonce Payload Footer : Type*) :
    TokenLayer Key Nonce Payload Footer (Payload × Footer × String) where
  encrypt _ _ p f a := some (p, f, a)
  untrustedFooter tok := some tok.2.1
  decrypt _ tok a := if tok.2.2 = a then some tok.1 else none

theorem plain_faithful (Key Nonce Payload Footer : Type*) :
    (plain Key Nonce Payload Footer).Faithful where
  footer h := by
    cases h
    rfl
  payload h := by
    cases h
    exact if_pos rfl

/-- the layer that seals one payload with one footer under one assertion, and refuses all others -/
def only (Key Nonce : Type*) [DecidableEq Payload] [DecidableEq Footer] [DecidableEq Token]
    (tok : Token) (p : Payload) (f : Footer) (a : String) :
    TokenLayer Key Nonce Payload Footer Token where
  encrypt _ _ p' f' a' := if p' = p ∧ f' = f ∧ a' = a then some tok else none
  untrustedFooter tok' := if tok' = tok then some f else none
  decrypt _ tok' a' := if tok' = tok ∧ a' = a then some p else none

theorem only_encrypt {Key Nonce : Type*} [DecidableEq Payload] [DecidableEq Footer] [DecidableEq Token]
    (k : Key) (n : Nonce) (tok : Token) (p : Payload) (f : Footer) (a : String) :
    (only Key Nonce tok p f a).encrypt k n p f a = some tok :=
  if_pos ⟨rfl, rfl, rfl⟩

theorem only_faithful (Key Nonce : Type*) [DecidableEq Payload] [DecidableEq Footer]
    [DecidableEq Token] (tok : Token) (p : Payload) (f : Footer) (a : String) :
    (only Key Nonce tok p f a).Faithful where
  footer {k n p' f' a' tok'} h := by
    obtain ⟨⟨-, rfl, -⟩, htok⟩ := Option.ite_none_right_eq_some.mp h
    exact if_pos (Option.some.inj htok).symm
  payload {k n p' f' a' tok'} h := by
    obtain ⟨⟨rfl, -, rfl⟩, htok⟩ := Option.ite_none_right_eq_some.mp h
    exact if_pos ⟨(Option.some.inj htok).symm, rfl⟩

theorem only_bound (Nonce : Type*) [DecidableEq Payload] [DecidableEq Footer] [DecidableEq Token]
    (tok : Token) (p : Payload) (f : Footer) (a : String) :
    (only Unit Nonce tok p f a).Bound where
  opened {k n p' f' a' tok' k' a'' p''} h hopen := by
    obtain ⟨⟨-, rfl, rfl⟩, htok⟩ := Option.ite_none_right_eq_some.mp h
    obtain ⟨⟨htok', rfl⟩, -⟩ := Option.ite_none_right_eq_some.mp hopen
    exact ⟨rfl, if_pos htok', rfl⟩

end TokenLayer

/-- keys by id, no id twice, one of them active -/
structure Keyring (Key : Type*) where
  activeKeyId : String
  activeKey : Key
  keys : List (String × Key)
  nodup : (keys.map Prod.fst).Nodup
  active_mem : (activeKeyId, activeKey) ∈ keys

namespace Keyring
variable {Key : Type*}

/-- one key -/
def single (id : String) (key : Key) : Keyring Key :=
  ⟨id, key, [(id, key)], List.nodup_singleton id, List.mem_singleton_self (id, key)⟩

/-- the key with this id -/
def get? (K : Keyring Key) (id : String) : Option Key :=
  (K.keys.find? fun k => decide (k.1 = id)).map Prod.snd

theorem get?_active (K : Keyring Key) : K.get? K.activeKeyId = some K.activeKey := by
  unfold get?
  cases h : K.keys.find? (fun k => decide (k.1 = K.activeKeyId)) with
  | none =>
    have hno := List.find?_eq_none.mp h _ K.active_mem
    exact absurd (decide_eq_true rfl) hno
  | some k =>
    have hmem := List.mem_of_find?_eq_some h
    have hd := List.find?_some h
    have hid : k.1 = K.activeKeyId := of_decide_eq_true hd
    have hk : k = (K.activeKeyId, K.activeKey) :=
      List.inj_on_of_nodup_map K.nodup hmem K.active_mem hid
    rw [hk]
    rfl

end Keyring

end Base
