import Mathlib.Data.List.Basic

namespace Bookclerk.System

open List Option

variable {σ α : Type*}

def run (step : σ → α → Option σ) : σ → List α → Option σ
  | s, [] => some s
  | s, a :: as => (step s a).bind fun s' => run step s' as

def EveryStep (step : σ → α → Option σ) (p : σ → α → Prop) : σ → List α → Prop
  | _, [] => True
  | s, a :: as => p s a ∧ ∀ s', step s a = some s' → EveryStep step p s' as

def Stable (step : σ → α → Option σ) (I : σ → Prop) : Prop :=
  ∀ s a s', I s → step s a = some s' → I s'

variable {step : σ → α → Option σ}

instance EveryStep.decidable {p : σ → α → Prop} [∀ s a, Decidable (p s a)] :
    (s : σ) → (as : List α) → Decidable (EveryStep step p s as)
  | _, [] => .isTrue trivial
  | s, a :: as =>
    have : Decidable (∀ s', step s a = some s' → EveryStep step p s' as) :=
      match h : step s a with
      | none => .isTrue nofun
      | some t =>
        have := EveryStep.decidable (p := p) t as
        decidable_of_iff (EveryStep step p t as) (by simp)
    inferInstanceAs (Decidable (p s a ∧ ∀ s', step s a = some s' → EveryStep step p s' as))

variable {as : List α}

lemma everyStep_of_forall {p : σ → α → Prop} (h : ∀ a ∈ as, ∀ s, p s a) (s : σ) : EveryStep step p s as := by
  induction as generalizing s with
  | nil => trivial
  | cons a as ih => exact ⟨h a mem_cons_self s, fun s' _ => ih (fun b hb => h b (mem_cons_of_mem a hb)) s'⟩

variable {p q : σ → α → Prop}

lemma EveryStep.and {s : σ} (hp : EveryStep step p s as) (hq : EveryStep step q s as) : EveryStep step (fun s a => p s a ∧ q s a) s as := by
  induction as generalizing s with
  | nil => trivial
  | cons a as ih => exact ⟨⟨hp.1, hq.1⟩, fun t h => ih (hp.2 t h) (hq.2 t h)⟩

lemma run_cons {s s'' : σ} {a : α} : run step s (a :: as) = some s'' ↔ ∃ s', step s a = some s' ∧ run step s' as = some s'' := by
  simp [run, bind_eq_some_iff]

variable {s s' : σ}

lemma run_cons_of_step {a : α} (h : step s a = some s') (as : List α) : run step s (a :: as) = run step s' as := by
  rw [run, h, bind_some]

lemma run_append (s : σ) (as bs : List α) : run step s (as ++ bs) = (run step s as).bind fun s' => run step s' bs := by
  induction as generalizing s with
  | nil => rfl
  | cons a as ih => simp only [cons_append, run, ih, bind_assoc]

variable {I : σ → Prop}

theorem run_of_everyStep (hkeep : ∀ s a s', I s → p s a → step s a = some s' → I s')
    (hs : I s) (hp : EveryStep step p s as) (hrun : run step s as = some s') : I s' := by
  induction as generalizing s with
  | nil =>
    cases hrun
    exact hs
  | cons a as ih =>
    obtain ⟨t, hstep, hrest⟩ := run_cons.mp hrun
    exact ih (hkeep s a t hs hp.1 hstep) (hp.2 t hstep) hrest

theorem Stable.run (hI : Stable step I) (hs : I s) (hrun : run step s as = some s') : I s' :=
  run_of_everyStep (fun s a s' hs _ => hI s a s' hs) hs (everyStep_of_forall (fun _ _ _ => trivial) s) hrun

theorem EveryStep.of_inv (hkeep : ∀ s a s', I s → p s a → step s a = some s' → I s')
    (himp : ∀ s a, I s → p s a → q s a) {s : σ} (hs : I s) (h : EveryStep step p s as) : EveryStep step q s as := by
  induction as generalizing s with
  | nil => trivial
  | cons a as ih => exact ⟨himp s a hs h.1, fun t hstep => ih (hkeep s a t hs h.1 hstep) (h.2 t hstep)⟩

theorem Stable.everyStep (hI : Stable step I) (himp : ∀ s a, I s → q s a) (hs : I s) (as : List α) : EveryStep step q s as :=
  EveryStep.of_inv (fun s a s' hs _ => hI s a s' hs) (fun s a hs _ => himp s a hs) hs (everyStep_of_forall (fun _ _ _ => trivial) s)

lemma everyStep_isSome (hrun : System.run step s as = some s') : EveryStep step (fun s a => (step s a).isSome = true) s as := by
  induction as generalizing s with
  | nil => trivial
  | cons a as ih =>
    obtain ⟨t, hstep, hrest⟩ := run_cons.mp hrun
    refine ⟨isSome_iff_exists.mpr ⟨t, hstep⟩, fun t' hstep' => ?_⟩
    obtain rfl := mem_unique hstep hstep'
    exact ih hrest

theorem EveryStep.of_not_bad {I bad : σ → Prop} (hI : ∀ s a s', I s → q s a → step s a = some s' → I s')
    (hbad : ∀ s a s', bad s → q s a → step s a = some s' → bad s')
    (hfail : ∀ s a s', I s → ¬ p s a → step s a = some s' → bad s')
    (hs : I s) (hq : EveryStep step q s as) (hrun : System.run step s as = some s') (hend : ¬ bad s') : EveryStep step p s as := by
  induction as generalizing s with
  | nil => trivial
  | cons a as ih =>
    obtain ⟨t, hstep, hrest⟩ := run_cons.mp hrun
    have hp : p s a := by
      by_contra hp
      exact hend (run_of_everyStep hbad (hfail s a t hs hp hstep) (hq.2 t hstep) hrest)
    refine ⟨hp, fun t' hstep' => ?_⟩
    obtain rfl := mem_unique hstep hstep'
    exact ih (hI s a t hs hq.1 hstep) (hq.2 t hstep) hrest

theorem everyStep_of_not_bad {I bad : σ → Prop} {p : σ → α → Prop} (hI : Stable step I)
    (hbad : Stable step bad)
    (hfail : ∀ s a s', I s → ¬ p s a → step s a = some s' → bad s')
    (hs : I s) (hrun : run step s as = some s') (hend : ¬ bad s') : EveryStep step p s as :=
  EveryStep.of_not_bad (fun s a s' hs (_ : True) => hI s a s' hs) (fun s a s' hs _ => hbad s a s' hs) hfail hs
    (everyStep_of_forall (fun _ _ _ => trivial) s) hrun hend

end Bookclerk.System
