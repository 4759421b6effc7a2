import Proofplane.Base.Text

/-!
# Text inside of HTML

A text is put into a document with five characters written as entities.  What a reader makes of the document
is told by a tokenizer: it goes through the characters one by one and answers tags, with the attributes as
they are written, and the characters between them.

* `replaceChar`        `str::replace` of a character by a text;
* `escapeChar`         a character as an entity, where it has one;
* `unescape`           the text with its entities read, `unescape_flatMap` the way back;
* `amp_begins_entity`  **every ampersand of an escaped text begins an entity**;
* `HtmlState.next`     the tokenizer: data, tags, attributes with values in quotes or without;
* `Reads`              what it makes of a text, `Reads.append` for two of them;
* `reads_data`, `reads_quoted`   a text that cannot end what it is in.

Comments and declarations are passed over up to the next `>`; entities are left as they are written.
-/

namespace Base

/-! ## Replacing a character -/

/-- each such character is replaced by the text -/
def replaceChar (c : Char) (text s : String) : String :=
  String.ofList (s.toList.flatMap fun d => if d = c then text.toList else [d])

theorem replaceChar_toList (c : Char) (text s : String) :
    (replaceChar c text s).toList = s.toList.flatMap fun d => if d = c then text.toList else [d] :=
  String.toList_ofList

/-! ## Entities -/

/-- the five characters that have an entity, and all others as they are -/
def escapeChar (c : Char) : List Char :=
  if c = '&' then ['&', 'a', 'm', 'p', ';']
  else if c = '<' then ['&', 'l', 't', ';']
  else if c = '>' then ['&', 'g', 't', ';']
  else if c = '"' then ['&', 'q', 'u', 'o', 't', ';']
  else if c = '\'' then ['&', '#', '3', '9', ';']
  else [c]

def htmlEntities : List (List Char) :=
  [['&', 'a', 'm', 'p', ';'], ['&', 'l', 't', ';'], ['&', 'g', 't', ';'], ['&', 'q', 'u', 'o', 't', ';'],
    ['&', '#', '3', '9', ';']]

/-- the characters that are written as entities -/
def needsEscape (c : Char) : Bool := c = '&' || c = '<' || c = '>' || c = '"' || c = '\''

/-- the entities are read from left to right; an ampersand that begins none of them stays -/
def unescape : List Char → List Char
  | '&' :: 'a' :: 'm' :: 'p' :: ';' :: l => '&' :: unescape l
  | '&' :: 'l' :: 't' :: ';' :: l => '<' :: unescape l
  | '&' :: 'g' :: 't' :: ';' :: l => '>' :: unescape l
  | '&' :: 'q' :: 'u' :: 'o' :: 't' :: ';' :: l => '"' :: unescape l
  | '&' :: '#' :: '3' :: '9' :: ';' :: l => '\'' :: unescape l
  | c :: l => c :: unescape l
  | [] => []

/-- a character is written as one of the entities, or as itself -/
theorem escapeChar_cases (c : Char) :
    (needsEscape c = true ∧ escapeChar c ∈ htmlEntities) ∨ (needsEscape c = false ∧ escapeChar c = [c]) := by
  unfold needsEscape escapeChar
  by_cases h1 : c = '&'
  · subst h1
    exact .inl (by decide)
  by_cases h2 : c = '<'
  · subst h2
    exact .inl (by decide)
  by_cases h3 : c = '>'
  · subst h3
    exact .inl (by decide)
  by_cases h4 : c = '"'
  · subst h4
    exact .inl (by decide)
  by_cases h5 : c = '\''
  · subst h5
    exact .inl (by decide)
  rw [if_neg h1, if_neg h2, if_neg h3, if_neg h4, if_neg h5]
  exact .inr ⟨by simp [h1, h2, h3, h4, h5], rfl⟩

/-- a character that is no ampersand begins no entity -/
theorem unescape_cons {c : Char} (h : c ≠ '&') (l : List Char) : unescape (c :: l) = c :: unescape l := by
  rw [unescape.eq_6]
  all_goals
    intro _ hc
    exact absurd hc h

/-- an entity is read as the character that was written so -/
theorem unescape_escapeChar (c : Char) (l : List Char) :
    unescape (escapeChar c ++ l) = c :: unescape l := by
  by_cases hamp : c = '&'
  · subst hamp
    rfl
  by_cases hlt : c = '<'
  · subst hlt
    rfl
  by_cases hgt : c = '>'
  · subst hgt
    rfl
  by_cases hquot : c = '"'
  · subst hquot
    rfl
  by_cases hapos : c = '\''
  · subst hapos
    rfl
  unfold escapeChar
  rw [if_neg hamp, if_neg hlt, if_neg hgt, if_neg hquot, if_neg hapos]
  exact unescape_cons hamp l

/-- **Reading the entities gives back the text.** -/
theorem unescape_flatMap (l : List Char) : unescape (l.flatMap escapeChar) = l := by
  induction l with
  | nil => rfl
  | cons c l ih => rw [List.flatMap_cons, unescape_escapeChar, ih]

/-- what is escaped keeps none of the characters, the ampersand apart -/
theorem mem_flatMap_escapeChar {l : List Char} {c : Char} (h : c ∈ l.flatMap escapeChar) :
    c ≠ '<' ∧ c ≠ '>' ∧ c ≠ '"' ∧ c ≠ '\'' := by
  obtain ⟨d, -, hc⟩ := List.mem_flatMap.mp h
  rcases escapeChar_cases d with ⟨-, hmem⟩ | ⟨hplain, heq⟩
  · have hall : (htmlEntities.all fun e =>
        e.all fun x => decide (x ≠ '<' ∧ x ≠ '>' ∧ x ≠ '"' ∧ x ≠ '\'')) = true := by decide
    exact of_decide_eq_true (List.all_eq_true.mp (List.all_eq_true.mp hall _ hmem) c hc)
  · rw [heq, List.mem_singleton] at hc
    subst hc
    unfold needsEscape at hplain
    simp only [Bool.or_eq_false_iff, decide_eq_false_iff_not] at hplain
    exact ⟨hplain.1.1.1.2, hplain.1.1.2, hplain.1.2, hplain.2⟩

/-- an entity has one ampersand, which it begins with -/
theorem htmlEntities_amp : ∀ e ∈ htmlEntities, e.head? = some '&' ∧ '&' ∉ e.tail := by decide

/-- every ampersand of an escaped text begins one of the entities -/
theorem amp_begins_entity {l a b : List Char} (h : l.flatMap escapeChar = a ++ '&' :: b) :
    ∃ e ∈ htmlEntities, e <+: '&' :: b := by
  induction l generalizing a with
  | nil => exact absurd h (by simp)
  | cons c l ih =>
    rw [List.flatMap_cons, List.append_eq_append_iff] at h
    obtain ⟨m, ha, hm⟩ | ⟨m, hm, hb⟩ := h
    · exact ih hm
    · cases m with
      | nil => exact ih (a := []) hb.symm
      | cons x m =>
        -- the ampersand is in what `c` is written as
        obtain ⟨rfl, rfl⟩ := List.cons.inj hb
        rcases escapeChar_cases c with ⟨-, hmem⟩ | ⟨hplain, heq⟩
        · obtain ⟨-, hone⟩ := htmlEntities_amp _ hmem
          rw [hm] at hmem hone
          cases a with
          | nil => exact ⟨_, hmem, List.prefix_append ('&' :: m) _⟩
          | cons y a => exact absurd (List.mem_append_right a List.mem_cons_self) hone
        · have hc : '&' ∈ [c] := heq ▸ hm ▸ List.mem_append_right a List.mem_cons_self
          rw [← List.mem_singleton.mp hc] at hplain
          cases hplain

/-! ## Tags -/

/-- a tag as it is written, its names in lower case and its values with their entities -/
structure HtmlTag where
  closing : Bool
  name : List Char
  attributes : List (List Char × List Char)
  deriving DecidableEq, Repr

/-- one more attribute -/
def HtmlTag.with (t : HtmlTag) (name value : List Char) : HtmlTag :=
  { t with attributes := t.attributes ++ [(name, value)] }

inductive HtmlToken
  | char (c : Char)
  | tag (t : HtmlTag)
  deriving DecidableEq, Repr

/-- the characters of a text -/
def htmlChars (l : List Char) : List HtmlToken := l.map .char

/-- the tags among the tokens -/
def htmlTags (ts : List HtmlToken) : List HtmlTag :=
  ts.filterMap fun t =>
    match t with
    | .char _ => none
    | .tag t => some t

@[simp] theorem htmlTags_nil : htmlTags [] = [] := rfl

@[simp] theorem htmlTags_tag (t : HtmlTag) (ts : List HtmlToken) :
    htmlTags (.tag t :: ts) = t :: htmlTags ts := rfl

@[simp] theorem htmlTags_append (ts ts' : List HtmlToken) :
    htmlTags (ts ++ ts') = htmlTags ts ++ htmlTags ts' :=
  List.filterMap_append

@[simp] theorem htmlTags_htmlChars (l : List Char) : htmlTags (htmlChars l) = [] := by
  unfold htmlTags htmlChars
  rw [List.filterMap_map]
  exact List.filterMap_eq_nil_iff.mpr fun c _ => rfl

/-- where the tokenizer stands; the tag under construction, the attribute and its value go along -/
inductive HtmlState
  | data
  | tagOpen
  | endTagOpen
  | tagName (t : HtmlTag)
  | beforeName (t : HtmlTag)
  | name (t : HtmlTag) (n : List Char)
  | afterName (t : HtmlTag) (n : List Char)
  | beforeValue (t : HtmlTag) (n : List Char)
  | quoted (quote : Char) (t : HtmlTag) (n v : List Char)
  | unquoted (t : HtmlTag) (n v : List Char)
  | afterValue (t : HtmlTag)
  | selfClosing (t : HtmlTag)
  | passedOver
  deriving DecidableEq, Repr

namespace HtmlState

def isLetter (c : Char) : Bool := c.isUpper || c.isLower

/-- between two attributes -/
def nextName (t : HtmlTag) (c : Char) : List HtmlToken × HtmlState :=
  if isAsciiWhitespace c then ([], .beforeName t)
  else if c = '/' then ([], .selfClosing t)
  else if c = '>' then ([.tag t], .data)
  else ([], .name t [asciiLower c])

/-- one character -/
def next (c : Char) : HtmlState → List HtmlToken × HtmlState
  | .data => if c = '<' then ([], .tagOpen) else ([.char c], .data)
  | .tagOpen =>
    if isLetter c then ([], .tagName ⟨false, [asciiLower c], []⟩)
    else if c = '/' then ([], .endTagOpen)
    else if c = '!' || c = '?' then ([], .passedOver)
    else if c = '<' then ([.char '<'], .tagOpen)
    else ([.char '<', .char c], .data)
  | .endTagOpen =>
    if isLetter c then ([], .tagName ⟨true, [asciiLower c], []⟩)
    else if c = '>' then ([], .data)
    else ([], .passedOver)
  | .tagName t =>
    if isAsciiWhitespace c then ([], .beforeName t)
    else if c = '/' then ([], .selfClosing t)
    else if c = '>' then ([.tag t], .data)
    else ([], .tagName { t with name := t.name ++ [asciiLower c] })
  | .beforeName t => nextName t c
  | .name t n =>
    if isAsciiWhitespace c then ([], .afterName t n)
    else if c = '/' then ([], .selfClosing (t.with n []))
    else if c = '>' then ([.tag (t.with n [])], .data)
    else if c = '=' then ([], .beforeValue t n)
    else ([], .name t (n ++ [asciiLower c]))
  | .afterName t n =>
    if isAsciiWhitespace c then ([], .afterName t n)
    else if c = '=' then ([], .beforeValue t n)
    else nextName (t.with n []) c
  | .beforeValue t n =>
    if isAsciiWhitespace c then ([], .beforeValue t n)
    else if c = '"' || c = '\'' then ([], .quoted c t n [])
    else if c = '>' then ([.tag (t.with n [])], .data)
    else ([], .unquoted t n [c])
  | .quoted quote t n v =>
    if c = quote then ([], .afterValue (t.with n v)) else ([], .quoted quote t n (v ++ [c]))
  | .unquoted t n v =>
    if isAsciiWhitespace c then ([], .beforeName (t.with n v))
    else if c = '>' then ([.tag (t.with n v)], .data)
    else ([], .unquoted t n (v ++ [c]))
  | .afterValue t => nextName t c
  | .selfClosing t => if c = '>' then ([.tag t], .data) else nextName t c
  | .passedOver => if c = '>' then ([], .data) else ([], .passedOver)

/-- the characters one by one; the tokens, and where the tokenizer stands at the end -/
def run : List Char → HtmlState → List HtmlToken × HtmlState
  | [], s => ([], s)
  | c :: l, s => ((s.next c).1 ++ (run l (s.next c).2).1, (run l (s.next c).2).2)

end HtmlState

/-- the tokens of a document -/
def htmlTokens (html : String) : List HtmlToken := (HtmlState.data.run html.toList).1

/-- from one state to another over a text -/
def Reads (s : HtmlState) (l : List Char) (ts : List HtmlToken) (s' : HtmlState) : Prop :=
  s.run l = (ts, s')

section
variable {s s' s'' : HtmlState} {l l' : List Char} {ts ts' : List HtmlToken}

theorem HtmlState.run_append (l l' : List Char) (s : HtmlState) :
    s.run (l ++ l') = ((s.run l).1 ++ ((s.run l).2.run l').1, ((s.run l).2.run l').2) := by
  induction l generalizing s with
  | nil => rfl
  | cons c l ih =>
    show ((s.next c).1 ++ ((s.next c).2.run (l ++ l')).1, ((s.next c).2.run (l ++ l')).2) = _
    rw [ih, ← List.append_assoc]
    rfl

theorem Reads.append (h : Reads s l ts s') (h' : Reads s' l' ts' s'') :
    Reads s (l ++ l') (ts ++ ts') s'' := by
  unfold Reads at *
  rw [HtmlState.run_append, h]
  dsimp only
  rw [h']

/-- between tags a text without `<` is characters -/
theorem reads_data (h : ∀ c ∈ l, c ≠ '<') : Reads .data l (htmlChars l) .data := by
  induction l with
  | nil => rfl
  | cons c l ih =>
    have hstep : HtmlState.data.next c = ([.char c], .data) := if_neg (h c List.mem_cons_self)
    have hrest := ih fun d hd => h d (List.mem_cons_of_mem c hd)
    show ((HtmlState.data.next c).1 ++ _, _) = _
    rw [hstep]
    show ([.char c] ++ (HtmlState.data.run l).1, (HtmlState.data.run l).2) = _
    rw [show HtmlState.data.run l = _ from hrest]
    rfl

/-- in quotes a text without the quote is the value -/
theorem reads_quoted {quote : Char} (t : HtmlTag) (n v : List Char) (h : ∀ c ∈ l, c ≠ quote) :
    Reads (.quoted quote t n v) l [] (.quoted quote t n (v ++ l)) := by
  induction l generalizing v with
  | nil =>
    rw [List.append_nil]
    rfl
  | cons c l ih =>
    have hstep : (HtmlState.quoted quote t n v).next c = ([], .quoted quote t n (v ++ [c])) :=
      if_neg (h c List.mem_cons_self)
    have hrest := ih (v ++ [c]) fun d hd => h d (List.mem_cons_of_mem c hd)
    show (((HtmlState.quoted quote t n v).next c).1 ++ _, _) = _
    rw [hstep]
    show ([] ++ ((HtmlState.quoted quote t n (v ++ [c])).run l).1,
      ((HtmlState.quoted quote t n (v ++ [c])).run l).2) = _
    rw [show (HtmlState.quoted quote t n (v ++ [c])).run l = _ from hrest, List.append_assoc]
    rfl

/-- the quote and the end of the tag -/
theorem reads_lastQuote (t : HtmlTag) (n v : List Char) :
    Reads (.quoted '"' t n v) ['"', '>'] [.tag (t.with n v)] .data := rfl

end

end Base
