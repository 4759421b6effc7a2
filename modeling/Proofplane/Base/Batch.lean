import Proofplane.Base.Run
import Mathlib.Data.List.Pairwise

/-!
# Batches

A command on a list of elements takes all of them or none.  It takes them exactly if each of them fits the
state, and then it has a known effect.

* `settled`          the state after a command that succeeds;
* `Batch`            what a command on the elements `bs` does to the state `s`;
* `InTurn`           what the commands on single elements must share with each other;
* `InTurn.batch`     **one command on all elements does what the commands on each of them in turn do**.
-/

namespace Base

variable {σ β ε α ε' α' : Type*}

/-- the state after a command that succeeds -/
def settled : Except ε α × σ → Option σ
  | (.ok _, s) => some s
  | (.error _, _) => none

/-- all of the elements, or none of them -/
structure Batch (Fit : σ → β → Prop) (Effect : σ → List β → σ → Prop) (s : σ) (bs : List β)
    (r : Except ε α × σ) : Prop where
  takes : (∀ b ∈ bs, Fit s b) → ∃ t, settled r = some t
  fits : ∀ t, settled r = some t → (∀ b ∈ bs, Fit s b) ∧ Effect s bs t
  refuses : settled r = none → r.2 = s

section
variable {Fit : σ → β → Prop} {Effect : σ → List β → σ → Prop} {s t : σ} {bs : List β}
  {r : Except ε α × σ}

theorem Batch.iff (h : Batch Fit Effect s bs r) : (∃ t, settled r = some t) ↔ ∀ b ∈ bs, Fit s b :=
  ⟨fun ⟨t, ht⟩ => (h.fits t ht).1, h.takes⟩

/-- a batch of elements that are described in another way -/
theorem Batch.of_map {γ : Type*} (f : γ → β) (cs : List γ) (h : Batch Fit Effect s (cs.map f) r) :
    Batch (fun s c => Fit s (f c)) (fun s cs t => Effect s (cs.map f) t) s cs r where
  takes := fun hfit => h.takes fun b hb => by
    obtain ⟨c, hc, rfl⟩ := List.mem_map.mp hb
    exact hfit c hc
  fits := fun t ht =>
    ⟨fun c hc => (h.fits t ht).1 _ (List.mem_map_of_mem hc), (h.fits t ht).2⟩
  refuses := h.refuses

end

/-- elements whose commands do not disturb each other -/
structure InTurn (I : σ → Prop) (Apart : β → β → Prop) (Fit : σ → β → Prop)
    (Effect : σ → List β → σ → Prop) : Prop where
  keep : ∀ s bs t, I s → Effect s bs t → I t
  nil : ∀ s, Effect s [] s
  cons : ∀ s b t bs u, Effect s [b] t → Effect t bs u → Effect s (b :: bs) u
  apart : ∀ s b t c, Effect s [b] t → Apart b c → (Fit t c ↔ Fit s c)

section
variable {I : σ → Prop} {Apart : β → β → Prop} {Fit : σ → β → Prop}
  {Effect : σ → List β → σ → Prop} {f : σ → β → Except ε α × σ}

/-- the commands on single elements, one after the other -/
theorem InTurn.run (h : InTurn I Apart Fit Effect)
    (hf : ∀ s b, I s → Batch Fit Effect s [b] (f s b)) {s : σ} {bs : List β} (hs : I s)
    (hbs : bs.Pairwise Apart) :
    ((∃ t, Base.run (fun s b => settled (f s b)) s bs = some t) ↔ ∀ b ∈ bs, Fit s b) ∧
      ∀ t, Base.run (fun s b => settled (f s b)) s bs = some t → Effect s bs t := by
  induction bs generalizing s with
  | nil =>
    refine ⟨iff_of_true ⟨s, rfl⟩ fun b hb => absurd hb List.not_mem_nil, fun t ht => ?_⟩
    cases ht
    exact h.nil s
  | cons b bs ih =>
    obtain ⟨hb, hbs⟩ := List.pairwise_cons.mp hbs
    have hone := hf s b hs
    -- the state after the first command decides about the others as the state before it does
    have hnext : ∀ s', settled (f s b) = some s' →
        I s' ∧ Effect s [b] s' ∧ ∀ c ∈ bs, (Fit s' c ↔ Fit s c) := by
      intro s' hs'
      have heffect := (hone.fits s' hs').2
      exact ⟨h.keep s [b] s' hs heffect, heffect, fun c hc => h.apart s b s' c heffect (hb c hc)⟩
    constructor
    · constructor
      · rintro ⟨t, ht⟩ c hc
        obtain ⟨s', hs', hrest⟩ := run_cons_some ht
        obtain ⟨hI, -, hsame⟩ := hnext s' hs'
        rcases List.mem_cons.mp hc with rfl | hc
        · exact (hone.fits s' hs').1 c List.mem_cons_self
        · exact (hsame c hc).mp ((ih hI hbs).1.mp ⟨t, hrest⟩ c hc)
      · intro hfit
        obtain ⟨s', hs'⟩ := hone.takes fun c hc => by
          rw [List.mem_singleton.mp hc]
          exact hfit b List.mem_cons_self
        obtain ⟨hI, -, hsame⟩ := hnext s' hs'
        obtain ⟨t, ht⟩ := (ih hI hbs).1.mpr fun c hc =>
          (hsame c hc).mpr (hfit c (List.mem_cons_of_mem _ hc))
        refine ⟨t, ?_⟩
        rw [run_cons, hs']
        exact ht
    · intro t ht
      obtain ⟨s', hs', hrest⟩ := run_cons_some ht
      obtain ⟨hI, heffect, -⟩ := hnext s' hs'
      exact h.cons s b s' bs t heffect ((ih hI hbs).2 t hrest)

/-- elements that are described in another way -/
theorem InTurn.of_map {γ : Type*} (h : InTurn I Apart Fit Effect) (g : γ → β) :
    InTurn I (fun c d => Apart (g c) (g d)) (fun s c => Fit s (g c))
      (fun s cs t => Effect s (cs.map g) t) where
  keep := fun s cs t => h.keep s (cs.map g) t
  nil := h.nil
  cons := fun s c t cs u => h.cons s (g c) t (cs.map g) u
  apart := fun s c t d => h.apart s (g c) t (g d)

/-- **One command on all elements does what the commands on each of them in turn do.** -/
theorem InTurn.batch (h : InTurn I Apart Fit Effect)
    (hf : ∀ s b, I s → Batch Fit Effect s [b] (f s b)) {s : σ} {bs : List β} (hs : I s)
    (hbs : bs.Pairwise Apart) {r : Except ε' α' × σ} (hr : Batch Fit Effect s bs r) :
    ((∃ t, settled r = some t) ↔ ∃ t, Base.run (fun s b => settled (f s b)) s bs = some t) ∧
      ∀ t u, settled r = some t → Base.run (fun s b => settled (f s b)) s bs = some u →
        Effect s bs t ∧ Effect s bs u := by
  obtain ⟨hiff, heffect⟩ := h.run hf hs hbs
  refine ⟨hr.iff.trans hiff.symm, fun t u ht hu => ?_⟩
  exact ⟨(hr.fits t ht).2, heffect u hu⟩

end

end Base
