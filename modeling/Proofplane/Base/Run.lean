import Mathlib.Data.List.Basic

/-!
# Runs of a labelled system

A system is a partial step function `step : σ → ε → Option σ`; every choice that the system does
not make itself (an instant, a random value, a lost acknowledgement, which process moves next) is
part of the event, so a run is a list of events and can be evaluated.

* `run step s es`        the state after the events `es`, if all of them are enabled in turn;
* `Reach step s t`       some run leads from `s` to `t`;
* `Along step P s es`    every event of the run is taken in a state where it meets `P`
                         (`checkAlong` evaluates it, `runChecked` with the run);
* `run_inv`, `run_inv_along`   **what every step keeps, every run keeps**;
* `along_of_end`         a run that ends well met `P` all along, if not meeting it spoils the state;
* `run_rel`              a preorder that every step respects relates the ends of every run.
-/

set_option linter.unusedSectionVars false

namespace Base

section
variable {σ ε : Type*}

/-- the state after the events, if every one of them is enabled in turn -/
def run (step : σ → ε → Option σ) : σ → List ε → Option σ
  | s, [] => some s
  | s, e :: es => (step s e).bind fun s' => run step s' es

/-- every event of the run is taken in a state where it meets `P` -/
def Along (step : σ → ε → Option σ) (P : σ → ε → Prop) : σ → List ε → Prop
  | _, [] => True
  | s, e :: es => P s e ∧ ∀ s', step s e = some s' → Along step P s' es

/-- the same for a condition that can be evaluated -/
def checkAlong (step : σ → ε → Option σ) (p : σ → ε → Bool) : σ → List ε → Bool
  | _, [] => true
  | s, e :: es =>
    p s e &&
    match step s e with
    | some s' => checkAlong step p s' es
    | none => true

/-- some run leads from the first state to the second -/
def Reach (step : σ → ε → Option σ) (s t : σ) : Prop := ∃ es, run step s es = some t

variable {step : σ → ε → Option σ}

@[simp] theorem run_nil (s : σ) : run step s [] = some s := rfl

theorem run_cons (s : σ) (e : ε) (es : List ε) :
    run step s (e :: es) = (step s e).bind fun s' => run step s' es := rfl

theorem run_cons_some {s t : σ} {e : ε} {es : List ε} (h : run step s (e :: es) = some t) :
    ∃ s', step s e = some s' ∧ run step s' es = some t := by
  rw [run_cons] at h
  exact Option.bind_eq_some_iff.mp h

theorem run_append (s : σ) (es fs : List ε) :
    run step s (es ++ fs) = (run step s es).bind fun s' => run step s' fs := by
  induction es generalizing s with
  | nil => rfl
  | cons e es ih =>
    rw [List.cons_append, run_cons, run_cons, Option.bind_assoc]
    congr 1
    funext s'
    exact ih s'

theorem run_append_some {s t : σ} {es fs : List ε} (h : run step s (es ++ fs) = some t) :
    ∃ s', run step s es = some s' ∧ run step s' fs = some t := by
  rw [run_append] at h
  exact Option.bind_eq_some_iff.mp h

theorem Reach.refl (s : σ) : Reach step s s := ⟨[], rfl⟩

theorem Reach.trans {s t u : σ} (h1 : Reach step s t) (h2 : Reach step t u) : Reach step s u := by
  obtain ⟨es, hes⟩ := h1
  obtain ⟨fs, hfs⟩ := h2
  refine ⟨es ++ fs, ?_⟩
  rw [run_append, hes]
  exact hfs

/-- **A property that every step meeting `P` keeps holds after every run that meets `P`.** -/
theorem run_inv_along {P : σ → ε → Prop} (Inv : σ → Prop)
    (hstep : ∀ s e s', Inv s → P s e → step s e = some s' → Inv s')
    {s t : σ} {es : List ε} (h0 : Inv s) (hP : Along step P s es) (h : run step s es = some t) :
    Inv t := by
  induction es generalizing s with
  | nil =>
    cases h
    exact h0
  | cons e es ih =>
    obtain ⟨s', hs', hrest⟩ := run_cons_some h
    exact ih (hstep s e s' h0 hP.1 hs') (hP.2 s' hs') hrest

theorem Along.of_forall {P : σ → ε → Prop} (h : ∀ s e, P s e) (s : σ) (es : List ε) :
    Along step P s es := by
  induction es generalizing s with
  | nil => exact trivial
  | cons e es ih => exact ⟨h s e, fun s' _ => ih s'⟩

/-- a condition on the events alone -/
theorem Along.of_events {Q : ε → Prop} {es : List ε} (h : ∀ e ∈ es, Q e) (s : σ) :
    Along step (fun _ e => Q e) s es := by
  induction es generalizing s with
  | nil => exact trivial
  | cons e es ih =>
    exact ⟨h e List.mem_cons_self, fun s' _ => ih (fun f hf => h f (List.mem_cons_of_mem _ hf)) s'⟩

theorem along_of_check {p : σ → ε → Bool} {s : σ} {es : List ε} (h : checkAlong step p s es = true) :
    Along step (fun s e => p s e = true) s es := by
  induction es generalizing s with
  | nil => exact trivial
  | cons e es ih =>
    unfold checkAlong at h
    obtain ⟨hp, hrest⟩ := Bool.and_eq_true_iff.mp h
    refine ⟨hp, fun s' hs' => ?_⟩
    rw [hs'] at hrest
    exact ih hrest

/-- the run, if every event meets the condition: run and condition are evaluated together -/
def runChecked (step : σ → ε → Option σ) (p : σ → ε → Bool) : σ → List ε → Option σ
  | s, [] => some s
  | s, e :: es => if p s e then (step s e).bind fun s' => runChecked step p s' es else none

theorem runChecked_some {p : σ → ε → Bool} {s t : σ} {es : List ε} (h : runChecked step p s es = some t) :
    run step s es = some t ∧ Along step (fun s e => p s e = true) s es := by
  induction es generalizing s with
  | nil => exact ⟨h, trivial⟩
  | cons e es ih =>
    unfold runChecked at h
    obtain ⟨hp, hbind⟩ := Option.ite_none_right_eq_some.mp h
    obtain ⟨s', hs', hrest⟩ := Option.bind_eq_some_iff.mp hbind
    obtain ⟨hrun, halong⟩ := ih hrest
    have hfirst : run step s (e :: es) = some t := by
      rw [run_cons, hs']
      exact hrun
    refine ⟨hfirst, hp, fun u hu => ?_⟩
    have hsame : u = s' := Option.some.inj (hu.symm.trans hs')
    rw [hsame]
    exact halong

theorem Along.imp {P Q : σ → ε → Prop} (h : ∀ s e, P s e → Q s e) {s : σ} {es : List ε}
    (hP : Along step P s es) : Along step Q s es := by
  induction es generalizing s with
  | nil => exact trivial
  | cons e es ih => exact ⟨h s e hP.1, fun s' hs' => ih (hP.2 s' hs')⟩

/-- **A run that ends well was good all along**, where a step that does not meet `P` spoils the state for
good.  The invariant `I` is what the steps may assume. -/
theorem along_of_end {P : σ → ε → Prop} (I Spoilt : σ → Prop)
    (hI : ∀ s e s', I s → step s e = some s' → I s')
    (hspoil : ∀ s e s', I s → ¬ P s e → step s e = some s' → Spoilt s')
    (hkeep : ∀ s e s', Spoilt s → step s e = some s' → Spoilt s')
    {s t : σ} {es : List ε} (h0 : I s) (h : run step s es = some t) (hend : ¬ Spoilt t) :
    Along step P s es := by
  have hkept : ∀ (fs : List ε) (u : σ), Spoilt u → run step u fs = some t → False := by
    intro fs
    induction fs with
    | nil =>
      intro u hu hrun
      cases hrun
      exact hend hu
    | cons f fs ih =>
      intro u hu hrun
      obtain ⟨u', hu', hrest⟩ := run_cons_some hrun
      exact ih u' (hkeep u f u' hu hu') hrest
  induction es generalizing s with
  | nil => exact trivial
  | cons e es ih =>
    obtain ⟨s', hs', hrest⟩ := run_cons_some h
    refine ⟨?_, fun u hu => ?_⟩
    · by_contra hP
      exact hkept es s' (hspoil s e s' h0 hP hs') hrest
    · have hsame : u = s' := Option.some.inj (hu.symm.trans hs')
      rw [hsame]
      exact ih (hI s e s' h0 hs') hrest

/-- **A property that every step keeps holds after every run.** -/
theorem run_inv (Inv : σ → Prop) (hstep : ∀ s e s', Inv s → step s e = some s' → Inv s')
    {s t : σ} {es : List ε} (h0 : Inv s) (h : run step s es = some t) : Inv t :=
  run_inv_along (P := fun _ _ => True) Inv (fun s e s' hs _ => hstep s e s' hs) h0
    (Along.of_forall (fun _ _ => trivial) s es) h

theorem Reach.inv (Inv : σ → Prop) (hstep : ∀ s e s', Inv s → step s e = some s' → Inv s')
    {s t : σ} (h0 : Inv s) (h : Reach step s t) : Inv t := by
  obtain ⟨es, hes⟩ := h
  exact run_inv Inv hstep h0 hes

/-- **A preorder that every step respects relates the two ends of every run.**  The invariant `I`
is what the steps may assume. -/
theorem run_rel (I : σ → Prop) (R : σ → σ → Prop)
    (hI : ∀ s e s', I s → step s e = some s' → I s')
    (hrefl : ∀ s, R s s) (htrans : ∀ s t u, R s t → R t u → R s u)
    (hstep : ∀ s e s', I s → step s e = some s' → R s s')
    {s t : σ} {es : List ε} (h0 : I s) (h : run step s es = some t) : R s t := by
  induction es generalizing s with
  | nil =>
    cases h
    exact hrefl _
  | cons e es ih =>
    obtain ⟨s', hs', hrest⟩ := run_cons_some h
    exact htrans s s' t (hstep s e s' h0 hs') (ih (hI s e s' h0 hs') hrest)

end

end Base
