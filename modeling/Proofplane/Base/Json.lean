import Proofplane.Base.Uuid

/-!
# JSON values

A value as a reader holds it.  A number is an integer or the text of a number with a fraction or an
exponent; the fields of an object are listed with their keys, and the first of a key counts.

* `field?`, `keys`         looking at the fields of an object;
* `asStr?`, `asInt?`, `asUuid?`   reading a value of a given type;
* `ofUuid?`                an optional UUID, `null` if it is absent.
-/

namespace Base

inductive Json
  | null
  | bool (b : Bool)
  | int (n : Int)
  | float (text : String)
  | str (s : String)
  | arr (items : List Json)
  | obj (fields : List (String × Json))

namespace Json

/-- the value of a key in a list of fields -/
def lookup (fields : List (String × Json)) (key : String) : Option Json :=
  (fields.find? fun f => decide (f.1 = key)).map Prod.snd

/-- a field of an object -/
def field? : Json → String → Option Json
  | .obj fields, key => lookup fields key
  | _, _ => none

def isObj : Json → Bool
  | .obj _ => true
  | _ => false

/-- the keys of an object -/
def keys : Json → List String
  | .obj fields => fields.map Prod.fst
  | _ => []

def asStr? : Json → Option String
  | .str s => some s
  | _ => none

/-- an integer between two bounds -/
def asInt? (lo hi : Int) : Json → Option Int
  | .int n => if lo ≤ n ∧ n ≤ hi then some n else none
  | _ => none

def asUuid? : Json → Option Uuid
  | .str s => Uuid.parseStr s
  | _ => none

/-- a UUID as its text -/
def ofUuid (u : Uuid) : Json := .str u.text

/-- an optional UUID -/
def ofUuid? : Option Uuid → Json
  | none => .null
  | some u => ofUuid u

@[simp] theorem asUuid?_ofUuid (u : Uuid) : asUuid? (ofUuid u) = some u := Uuid.parseStr_text u

theorem asInt?_int {lo hi n : Int} (h : lo ≤ n ∧ n ≤ hi) : asInt? lo hi (.int n) = some n :=
  if_pos h

end Json

end Base
