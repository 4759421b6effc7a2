import Mathlib.Data.List.Basic
import Mathlib.Tactic.IntervalCases

/-!
# String literals of JSON

How a text stands between quotes: quotes, backslashes and control characters are escaped, nothing else
is.

* `escapeChar`, `readChar`   one character, `readChar_escapeChar`;
* `quote`                    the literal, **`quote_append_inj`**: it says where it ends and what it holds;
* `quoteAll_inj`             the same for literals with commas between them.
-/

namespace Base
namespace JsonText

def hexDigit (n : Nat) : Char := if n < 10 then Char.ofNat (48 + n) else Char.ofNat (87 + n)

def hexValue (c : Char) : Nat := if c.toNat < 58 then c.toNat - 48 else c.toNat - 87

/-- a character as it stands in a literal -/
def escapeChar (c : Char) : List Char :=
  if c = '"' then ['\\', '"']
  else if c = '\\' then ['\\', '\\']
  else if c.toNat = 8 then ['\\', 'b']
  else if c.toNat = 9 then ['\\', 't']
  else if c.toNat = 10 then ['\\', 'n']
  else if c.toNat = 12 then ['\\', 'f']
  else if c.toNat = 13 then ['\\', 'r']
  else if c.toNat < 32 then
    ['\\', 'u', '0', '0', hexDigit (c.toNat / 16), hexDigit (c.toNat % 16)]
  else [c]

/-- what a letter after a backslash stands for -/
def unescapeChar (c : Char) : Char :=
  if c = 'b' then Char.ofNat 8
  else if c = 't' then Char.ofNat 9
  else if c = 'n' then Char.ofNat 10
  else if c = 'f' then Char.ofNat 12
  else if c = 'r' then Char.ofNat 13
  else c

/-- the first character of the rest of a literal, and what follows it -/
def readChar : List Char → Option (Char × List Char)
  | '\\' :: 'u' :: '0' :: '0' :: h :: l :: r => some (Char.ofNat (16 * hexValue h + hexValue l), r)
  | '\\' :: c :: r => some (unescapeChar c, r)
  | c :: r => some (c, r)
  | [] => none

theorem readChar_escapeChar (c : Char) (r : List Char) : readChar (escapeChar c ++ r) = some (c, r) := by
  by_cases hquote : c = '"'
  · subst hquote
    rfl
  · by_cases hback : c = '\\'
    · subst hback
      rfl
    · by_cases hlow : c.toNat < 32
      · -- the control characters, one by one
        have hc : c = Char.ofNat c.toNat := (Char.ofNat_toNat c).symm
        generalize c.toNat = n at hc hlow
        subst hc
        interval_cases n <;> rfl
      · have hplain : escapeChar c = [c] := by
          unfold escapeChar
          rw [if_neg hquote, if_neg hback, if_neg (by omega), if_neg (by omega), if_neg (by omega),
            if_neg (by omega), if_neg (by omega), if_neg hlow]
        rw [hplain, List.singleton_append]
        unfold readChar
        split
        · next heq => exact absurd (List.cons.inj heq).1 hback
        · next heq => exact absurd (List.cons.inj heq).1 hback
        · next heq =>
          obtain ⟨rfl, rfl⟩ := List.cons.inj heq
          rfl
        · next heq => cases heq

theorem escapeChar_append_inj {c d : Char} {r r' : List Char}
    (h : escapeChar c ++ r = escapeChar d ++ r') : c = d ∧ r = r' := by
  have hread := readChar_escapeChar c r
  rw [h, readChar_escapeChar, Option.some.injEq, Prod.mk.injEq] at hread
  exact ⟨hread.1.symm, hread.2.symm⟩

/-- no character is written as something that starts with a quote -/
theorem escapeChar_ne_quote (c : Char) (r r' : List Char) : escapeChar c ++ r ≠ '"' :: r' := by
  intro h
  have hread := readChar_escapeChar c r
  rw [h] at hread
  have hc : c = '"' := by
    have hquote : readChar ('"' :: r') = some ('"', r') := rfl
    rw [hquote, Option.some.injEq, Prod.mk.injEq] at hread
    exact hread.1.symm
  rw [hc] at h
  exact absurd (List.cons.inj h).1 (by decide)

/-- the literal of a text -/
def quote (s : List Char) : List Char := '"' :: (s.flatMap escapeChar ++ ['"'])

theorem body_append_inj {s t r r' : List Char}
    (h : s.flatMap escapeChar ++ '"' :: r = t.flatMap escapeChar ++ '"' :: r') : s = t ∧ r = r' := by
  induction s generalizing t with
  | nil =>
    cases t with
    | nil => exact ⟨rfl, (List.cons.inj h).2⟩
    | cons d t =>
      rw [List.flatMap_cons, List.append_assoc] at h
      exact absurd h.symm (escapeChar_ne_quote _ _ _)
  | cons c s ih =>
    rw [List.flatMap_cons, List.append_assoc] at h
    cases t with
    | nil => exact absurd h (escapeChar_ne_quote _ _ _)
    | cons d t =>
      rw [List.flatMap_cons, List.append_assoc] at h
      obtain ⟨hcd, hrest⟩ := escapeChar_append_inj h
      obtain ⟨hst, hr⟩ := ih hrest
      exact ⟨by rw [hcd, hst], hr⟩

theorem quote_append_inj {s t r r' : List Char} (h : quote s ++ r = quote t ++ r') :
    s = t ∧ r = r' := by
  unfold quote at h
  simp only [List.cons_append, List.append_assoc, List.cons.injEq, true_and, List.nil_append] at h
  exact body_append_inj h

/-- literals with commas between them, and a bracket at the end -/
def quoteAll : List (List Char) → List Char
  | [] => [']']
  | [s] => quote s ++ [']']
  | s :: l => quote s ++ ',' :: quoteAll l

theorem quoteAll_inj {l l' : List (List Char)} (h : quoteAll l = quoteAll l') : l = l' := by
  induction l using quoteAll.induct generalizing l' with
  | case1 =>
    match l' with
    | [] => rfl
    | [t] => exact absurd (List.cons.inj h).1 (by decide)
    | t :: u :: l' => exact absurd (List.cons.inj h).1 (by decide)
  | case2 s =>
    match l' with
    | [] => exact absurd (List.cons.inj h).1 (by decide)
    | [t] => rw [(quote_append_inj h).1]
    | t :: u :: l' => exact absurd (List.cons.inj (quote_append_inj h).2).1 (by decide)
  | case3 s l hne ih =>
    cases l with
    | nil => exact absurd rfl hne
    | cons a l =>
      match l' with
      | [] => exact absurd (List.cons.inj h).1 (by decide)
      | [t] => exact absurd (List.cons.inj (quote_append_inj h).2).1 (by decide)
      | t :: u :: l' =>
        obtain ⟨hst, hrest⟩ := quote_append_inj h
        rw [hst, ih (List.cons.inj hrest).2]

end JsonText
end Base
