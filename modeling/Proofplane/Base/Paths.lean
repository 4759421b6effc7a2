import Proofplane.Base.Segments

/-!
# Paths of a file system

A path is a text, as a program builds it; the file system goes by its components.

* `joinPath`        a path below another: what begins with `/` replaces it;
* `components`      the root, the names, and `.` and `..` where they count;
* `Plain`           a name that is one component, `components_joinPath`;
* `below`           a path of many names below another, `components_below`;
* `Inside`, `Ancestor`   relations of paths, by their components.
-/

namespace Base

inductive Component
  | rootDir | curDir | parentDir
  | normal (name : String)
  deriving DecidableEq, Repr

/-- `PathBuf::push` on Unix, as a function -/
def joinPath (path name : String) : String :=
  if name.toList.head? = some '/' then name
  else if path = "" ∨ path.toList.getLast? = some '/' then path ++ name
  else path ++ "/" ++ name

/-- a name of at most so many bytes -/
def Component.fits (limit : Nat) : Component → Bool
  | .normal name => decide (name.utf8ByteSize ≤ limit)
  | _ => true

/-- the component that a segment behind the first is: none where it is empty or `.` -/
def component (segment : String) : Option Component :=
  if segment = "" ∨ segment = "." then none
  else if segment = ".." then some .parentDir
  else some (.normal segment)

/-- the root, or a `.` that begins the path -/
def beginning (path : String) : List Component :=
  if path.toList.head? = some '/' then [.rootDir]
  else if (segments '/' path).head? = some "." then [.curDir]
  else []

def components (path : String) : List Component :=
  beginning path ++ (segments '/' path).filterMap component

/-- a name that is one component of a path -/
structure Plain (name : String) : Prop where
  ne_empty : name ≠ ""
  ne_dot : name ≠ "."
  ne_dotdot : name ≠ ".."
  noSlash : '/' ∉ name.toList

variable {path name : String}

theorem Plain.component (h : Plain name) : component name = some (.normal name) := by
  unfold Base.component
  rw [if_neg, if_neg h.ne_dotdot]
  rintro (hempty | hdot)
  · exact h.ne_empty hempty
  · exact h.ne_dot hdot

theorem Plain.toList_ne (h : Plain name) : name.toList ≠ [] := by
  intro hnil
  exact h.ne_empty (String.toList_eq_nil_iff.mp hnil)

theorem Plain.head_ne (h : Plain name) : name.toList.head? ≠ some '/' := by
  intro hhead
  exact h.noSlash (List.mem_of_head? hhead)

/-- a text behind a plain name, if it has no `/` and does not make it a dot path -/
theorem Plain.append (h : Plain name) {suffix : String} (hslash : '/' ∉ suffix.toList)
    (hlong : 3 ≤ suffix.length) : Plain (name ++ suffix) := by
  have hlength : 3 ≤ (name ++ suffix).length := by
    rw [String.length_append]
    omega
  refine ⟨?_, ?_, ?_, ?_⟩
  · intro heq
    rw [heq] at hlength
    exact absurd hlength (by decide)
  · intro heq
    rw [heq] at hlength
    exact absurd hlength (by decide)
  · intro heq
    rw [heq] at hlength
    exact absurd hlength (by decide)
  · intro hmem
    rw [String.toList_append, List.mem_append] at hmem
    rcases hmem with hmem | hmem
    · exact h.noSlash hmem
    · exact hslash hmem

/-! ## One name -/

theorem segments_plain (h : Plain name) : segments '/' name = [name] := segments_of_notMem h.noSlash

theorem segments_slash (s t : String) : segments '/' (s ++ "/" ++ t) = segments '/' s ++ segments '/' t :=
  segments_append s t

/-- how a path begins is settled before its last separator -/
theorem beginning_append (s t t' : String) :
    beginning (s ++ "/" ++ t) = beginning (s ++ "/" ++ t') := by
  have hhead : ∀ u : String, (s ++ "/" ++ u).toList.head? = (s ++ "/").toList.head? := by
    intro u
    rw [String.toList_append]
    refine List.head?_append_of_ne_nil _ ?_
    rw [String.toList_append]
    simp
  have hfirst : ∀ u : String, (segments '/' (s ++ "/" ++ u)).head? = (segments '/' s).head? := by
    intro u
    rw [segments_slash]
    exact List.head?_append_of_ne_nil _ (segments_ne_nil '/' s)
  unfold beginning
  rw [hhead, hhead, hfirst, hfirst]

theorem beginning_separator {s : String} (hs : s ≠ "") (t : String) :
    beginning (s ++ "/" ++ t) = beginning s := by
  have hnil : s.toList ≠ [] := fun h => hs (String.toList_eq_nil_iff.mp h)
  have hhead : (s ++ "/" ++ t).toList.head? = s.toList.head? := by
    rw [String.toList_append, String.toList_append, List.append_assoc]
    exact List.head?_append_of_ne_nil _ hnil
  have hfirst : (segments '/' (s ++ "/" ++ t)).head? = (segments '/' s).head? := by
    rw [segments_slash]
    exact List.head?_append_of_ne_nil _ (segments_ne_nil '/' s)
  unfold beginning
  rw [hhead, hfirst]

theorem components_empty : components "" = [] := by decide

/-- the components of a path that ends in a name behind a separator -/
theorem components_append (s : String) (h : Plain name) :
    components (s ++ "/" ++ name) = components (s ++ "/" ++ "") ++ [.normal name] := by
  have hempty : segments '/' "" = [""] := segments_of_notMem (by simp)
  have hnone : component "" = none := rfl
  unfold components
  rw [beginning_append s name "", segments_slash, segments_slash, segments_plain h, hempty,
    List.filterMap_append, List.filterMap_append]
  simp [h.component, hnone]

/-- **A plain name below a path is one more component.** -/
theorem components_joinPath (path : String) (h : Plain name) :
    components (joinPath path name) = components path ++ [.normal name] := by
  unfold joinPath
  rw [if_neg h.head_ne]
  by_cases hempty : path = ""
  · rw [if_pos (.inl hempty), hempty, String.empty_append, components_empty]
    unfold components beginning
    rw [if_neg h.head_ne, segments_plain h]
    simp [h.ne_dot, h.component]
  · by_cases hlast : path.toList.getLast? = some '/'
    · rw [if_pos (.inr hlast)]
      -- the path is another one with a separator behind it
      obtain ⟨front, hfront⟩ := List.getLast?_eq_some_iff.mp hlast
      have hpath : path = String.ofList front ++ "/" := by
        rw [← String.toList_inj, hfront, String.toList_append, String.toList_ofList]
        rfl
      have happend := components_append (String.ofList front) h
      rw [String.append_empty, ← hpath] at happend
      exact happend
    · rw [if_neg (not_or.mpr ⟨hempty, hlast⟩)]
      unfold components
      rw [beginning_separator hempty name, segments_slash, segments_plain h, List.filterMap_append]
      simp [h.component]

/-! ## Many names -/

/-- the path of these names below a path -/
def below (path : String) (names : List String) : String := names.foldl joinPath path

theorem below_append (path : String) (names : List String) (name : String) :
    below path (names ++ [name]) = joinPath (below path names) name := by
  unfold below
  rw [List.foldl_append]
  rfl

/-- **Plain names below a path are so many more components.** -/
theorem components_below (path : String) {names : List String} (h : ∀ name ∈ names, Plain name) :
    components (below path names) = components path ++ names.map .normal := by
  induction names generalizing path with
  | nil => exact (List.append_nil _).symm
  | cons name names ih =>
    show components (below (joinPath path name) names) = _
    rw [ih _ fun n hn => h n (List.mem_cons_of_mem _ hn), components_joinPath path (h name List.mem_cons_self),
      List.map_cons, List.append_assoc]
    rfl

/-- a text behind the path of names goes to the last of them -/
theorem below_append_text (path : String) (names : List String) {name suffix : String}
    (h : Plain name) : below path (names ++ [name]) ++ suffix = below path (names ++ [name ++ suffix]) := by
  rw [below_append, below_append]
  have hhead : (name ++ suffix).toList.head? = name.toList.head? := by
    rw [String.toList_append]
    exact List.head?_append_of_ne_nil _ h.toList_ne
  unfold joinPath
  rw [hhead, if_neg h.head_ne, if_neg h.head_ne]
  split
  · exact String.append_assoc
  · rw [String.append_assoc]

/-- different names below one directory are different components -/
theorem append_names_inj {root : List Component} {names names' : List String}
    (h : root ++ names.map .normal = root ++ names'.map .normal) : names = names' :=
  List.map_injective_iff.mpr (fun _ _ hname => Component.normal.inj hname) (List.append_cancel_left h)

/-! ## Relations of paths -/

/-- a path of one name or more below another, and nowhere up -/
def Inside (root path : String) : Prop :=
  ∃ names : List String, names ≠ [] ∧ components path = components root ++ names.map .normal

/-- a path is a directory that another goes through -/
def Ancestor (path path' : String) : Prop :=
  ∃ rest, rest ≠ [] ∧ components path' = components path ++ rest

theorem Ancestor.length {path path' : String} (h : Ancestor path path') :
    (components path).length < (components path').length := by
  obtain ⟨rest, hrest, heq⟩ := h
  rw [heq, List.length_append]
  have := List.length_pos_iff.mpr hrest
  omega

end Base
