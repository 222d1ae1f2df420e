import BillVpn.Go.Conn

/-!
# Calls under an invariant

* `Under I x Q`     from a state with `I`, `x` does not panic, leaves a state with `I`, and what it
                    returns satisfies `Q`;
* `Stays I x`       `x` leaves a state with `I`, however it ends;
* one rule for each way to put calls together.
-/

set_option linter.unusedVariables false

namespace Go
namespace Proc

section
variable {σ τ α β : Type} {I : σ → Prop} {J : τ → Prop} {P : α → Prop} {Q : β → Prop}

def Under (I : σ → Prop) (x : Proc σ α) (P : α → Prop) : Prop :=
  ∀ s, I s → I (x s).2 ∧ (x s).1 ≠ .panic ∧ ∀ a, (x s).1 = .ok a → P a

theorem Under.pure {a : α} (h : P a) : Under I (Pure.pure a : Proc σ α) P := by
  intro s hs
  refine ⟨hs, fun hp => (nomatch hp), fun b hb => ?_⟩
  cases hb
  exact h

theorem Under.fail (msg : String) : Under I (fail msg : Proc σ α) P :=
  fun s hs => ⟨hs, fun hp => (nomatch hp), fun a ha => (nomatch ha)⟩

theorem Under.lift {x : Res α} (h : x ≠ .panic) (hP : ∀ a, x = .ok a → P a) :
    Under I (lift x : Proc σ α) P := fun s hs => ⟨hs, h, hP⟩

theorem Under.modify {f : σ → σ} (h : ∀ s, I s → I (f s)) : Under I (modify f) fun _ => True :=
  fun s hs => ⟨h s hs, fun hp => (nomatch hp), fun _ _ => trivial⟩

theorem Under.weaken {P' : α → Prop} {x : Proc σ α} (hx : Under I x P) (h : ∀ a, P a → P' a) :
    Under I x P' :=
  fun s hs => ⟨(hx s hs).1, (hx s hs).2.1, fun a ha => h a ((hx s hs).2.2 a ha)⟩

theorem Under.bind {x : Proc σ α} {f : α → Proc σ β} (hx : Under I x P)
    (hf : ∀ a, P a → Under I (f a) Q) : Under I (x >>= f) Q := by
  intro s hs
  have h := hx s hs
  rw [run_bind]
  rcases hr : x s with ⟨r, s'⟩
  rw [hr] at h
  obtain ⟨hs', hp, hv⟩ := h
  cases r with
  | panic => exact absurd rfl hp
  | err e => exact ⟨hs', fun hp => (nomatch hp), fun b hb => (nomatch hb)⟩
  | ok a => exact hf a (hv a rfl) s' hs'

/-- what the value of `attempt` satisfies -/
def OnOk (P : α → Prop) (r : Except String α) : Prop := ∀ a, r = .ok a → P a

theorem Under.attempt {x : Proc σ α} (hx : Under I x P) : Under I (attempt x) (OnOk P) := by
  intro s hs
  have h := hx s hs
  unfold Proc.attempt
  rcases hr : x s with ⟨r, s'⟩
  rw [hr] at h
  obtain ⟨hs', hp, hv⟩ := h
  cases r with
  | panic => exact absurd rfl hp
  | err e =>
    refine ⟨hs', fun hp => (nomatch hp), fun b hb => ?_⟩
    cases hb
    exact fun a ha => (nomatch ha)
  | ok a =>
    refine ⟨hs', fun hp => (nomatch hp), fun b hb => ?_⟩
    cases hb
    intro a' ha'
    cases ha'
    exact hv a rfl

theorem Under.ite {c : Prop} [Decidable c] {x y : Proc σ α} (hx : c → Under I x P)
    (hy : ¬ c → Under I y P) : Under I (if c then x else y) P := by
  by_cases h : c
  · rw [if_pos h]
    exact hx h
  · rw [if_neg h]
    exact hy h

theorem Under.zoom {get : σ → τ} {set : τ → σ → σ} {x : Proc τ α} (hget : ∀ s, I s → J (get s))
    (hset : ∀ s t, I s → J t → I (set t s)) (hx : Under J x P) : Under I (zoom get set x) P := by
  intro s hs
  obtain ⟨ht, hp, hv⟩ := hx (get s) (hget s hs)
  exact ⟨hset s _ hs ht, hp, hv⟩

/-! ## also past a panic -/

def Stays (I : σ → Prop) (x : Proc σ α) : Prop := ∀ s, I s → I (x s).2

theorem Stays.pure (a : α) : Stays I (Pure.pure a : Proc σ α) := fun s hs => hs

theorem Stays.lift (x : Res α) : Stays I (lift x : Proc σ α) := fun s hs => hs

theorem Stays.bind {x : Proc σ α} {f : α → Proc σ β} (hx : Stays I x) (hf : ∀ a, Stays I (f a)) :
    Stays I (x >>= f) := by
  intro s hs
  have h := hx s hs
  rw [run_bind]
  rcases hr : x s with ⟨r, s'⟩
  rw [hr] at h
  cases r with
  | panic => exact h
  | err e => exact h
  | ok a => exact hf a s' h

theorem Stays.lift_bind {x : Res α} {f : α → Proc σ β} (hf : ∀ a, x = .ok a → Stays I (f a)) :
    Stays I (Proc.lift x >>= f) := by
  intro s hs
  cases x with
  | panic => exact hs
  | err e => exact hs
  | ok a => exact hf a rfl s hs

theorem Stays.attempt {x : Proc σ α} (hx : Stays I x) : Stays I (attempt x) := by
  intro s hs
  have h := hx s hs
  unfold Proc.attempt
  rcases hr : x s with ⟨r, s'⟩
  rw [hr] at h
  cases r with
  | panic => exact h
  | err e => exact h
  | ok a => exact h

theorem Stays.ite {c : Prop} [Decidable c] {x y : Proc σ α} (hx : Stays I x) (hy : Stays I y) :
    Stays I (if c then x else y) := by
  by_cases h : c
  · rw [if_pos h]
    exact hx
  · rw [if_neg h]
    exact hy

theorem Stays.zoom {get : σ → τ} {set : τ → σ → σ} {x : Proc τ α} (hx : Stays J x)
    (hget : ∀ s, I s → J (get s)) (hset : ∀ s t, I s → J t → I (set t s)) :
    Stays I (zoom get set x) := fun s hs => hset s _ hs (hx _ (hget s hs))

/-- an invariant of what `x` keeps -/
theorem Keeps.stays {γ : Type} {f : σ → γ} {x : Proc σ α} (hx : Keeps f x)
    (hI : ∀ s s', f s' = f s → I s → I s') : Stays I x := fun s hs => hI s _ (hx s) hs

end

end Proc

end Go
