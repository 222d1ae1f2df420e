import BillVpn.Go.Conn

/-!
# Two runs of one procedure

* `Proc.Sets x a f`      every run of `x` returns `a` and changes the state by `f`;
* `Proc.Same v x`        two runs of `x` from states that look alike through `v` return the same
                         and end in states that look alike;
* `Proc.Confined f v x`  and no run of `x` changes what `f` observes;
* `Proc.view_field`, `Proc.view_modify`   views that blank a part of the state.

As in the other judgements there is a rule for each way to build a procedure.
-/

set_option linter.unusedVariables false

namespace Go
namespace Proc
variable {σ τ α β : Type}

/-! ## runs that do not depend on the state -/

def Sets (x : Proc σ α) (a : α) (f : σ → σ) : Prop := ∀ s, x s = (.ok a, f s)

section
variable {a : α} {b : β} {f f' : σ → σ}

theorem Sets.pure (a : α) : Sets (Pure.pure a : Proc σ α) a id := fun s => rfl

theorem Sets.lift {x : Res α} (h : x = .ok a) : Sets (lift x : Proc σ α) a id := by
  intro s
  rw [h]
  rfl

theorem Sets.modify (f : σ → σ) : Sets (modify f) () f := fun s => rfl

theorem Sets.bind {x : Proc σ α} {k : α → Proc σ β} (hx : Sets x a f) (hk : Sets (k a) b f') :
    Sets (x >>= k) b (f' ∘ f) := by
  intro s
  rw [run_bind_ok (hx s)]
  exact hk (f s)

theorem Sets.congr {x : Proc σ α} (hx : Sets x a f) (hf : ∀ s, f s = f' s) : Sets x a f' := by
  intro s
  rw [← hf s]
  exact hx s

theorem Sets.wrap {msg : String} {x : Proc σ α} (hx : Sets x a f) : Sets (wrap msg x) a f :=
  fun s => wrap_ok (hx s)

end

/-! ## runs from states that look alike -/

section
variable {γ : Type} {v : σ → γ}

def Same (v : σ → γ) (x : Proc σ α) : Prop :=
  ∀ s t, v s = v t → (x s).1 = (x t).1 ∧ v (x s).2 = v (x t).2

theorem Same.pure (a : α) : Same v (Pure.pure a : Proc σ α) := fun s t h => ⟨rfl, h⟩

theorem Same.fail (msg : String) : Same v (fail msg : Proc σ α) := fun s t h => ⟨rfl, h⟩

theorem Same.lift (x : Res α) : Same v (lift x : Proc σ α) := fun s t h => ⟨rfl, h⟩

theorem Same.modify {f : σ → σ} (hf : ∀ s t, v s = v t → v (f s) = v (f t)) : Same v (modify f) :=
  fun s t h => ⟨rfl, hf s t h⟩

theorem Same.bind {x : Proc σ α} {k : α → Proc σ β} (hx : Same v x) (hk : ∀ a, Same v (k a)) :
    Same v (x >>= k) := by
  intro s t h
  obtain ⟨h1, h2⟩ := hx s t h
  rw [run_bind, run_bind]
  rcases hs : x s with ⟨r, s'⟩
  rcases ht : x t with ⟨r', t'⟩
  rw [hs, ht] at h1 h2
  dsimp only at h1 h2
  subst h1
  cases r with
  | ok a => exact hk a s' t' h2
  | err e => exact ⟨rfl, h2⟩
  | panic => exact ⟨rfl, h2⟩

theorem Same.get_bind {k : σ → Proc σ α} (hv : ∀ s t, v s = v t → k s = k t)
    (hk : ∀ s, Same v (k s)) : Same v (get >>= k) := by
  intro s t h
  show (k s s).1 = (k t t).1 ∧ v (k s s).2 = v (k t t).2
  rw [hv s t h]
  exact hk t s t h

theorem Same.attempt {x : Proc σ α} (hx : Same v x) : Same v (attempt x) := by
  intro s t h
  obtain ⟨h1, h2⟩ := hx s t h
  unfold Proc.attempt
  rcases hs : x s with ⟨r, s'⟩
  rcases ht : x t with ⟨r', t'⟩
  rw [hs, ht] at h1 h2
  dsimp only at h1 h2
  subst h1
  cases r with
  | ok a => exact ⟨rfl, h2⟩
  | err e => exact ⟨rfl, h2⟩
  | panic => exact ⟨rfl, h2⟩

theorem Same.wrap {msg : String} {x : Proc σ α} (hx : Same v x) : Same v (wrap msg x) := by
  intro s t h
  obtain ⟨h1, h2⟩ := hx s t h
  exact ⟨congrArg (Res.wrap msg) h1, h2⟩

theorem Same.zoom {get : σ → τ} {set : τ → σ → σ} (hget : ∀ s t, v s = v t → get s = get t)
    (hset : ∀ a s t, v s = v t → v (set a s) = v (set a t)) (x : Proc τ α) :
    Same v (zoom get set x) := by
  intro s t h
  show (x (get s)).1 = (x (get t)).1 ∧ v (set (x (get s)).2 s) = v (set (x (get t)).2 t)
  rw [hget s t h]
  exact ⟨rfl, hset _ s t h⟩

/-- a procedure on a field that `v` shows in part: what `w` observes of it -/
theorem Same.zoom_view {δ : Type} {w : τ → δ} {get : σ → τ} {set : τ → σ → σ} {x : Proc τ α}
    (hget : ∀ s t, v s = v t → w (get s) = w (get t))
    (hset : ∀ a b s t, w a = w b → v s = v t → v (set a s) = v (set b t)) (hx : Same w x) :
    Same v (Proc.zoom get set x) := by
  intro s t h
  obtain ⟨h1, h2⟩ := hx (get s) (get t) (hget s t h)
  exact ⟨h1, hset _ _ s t h2 h⟩

theorem Same.ite {c : Prop} [Decidable c] {x y : Proc σ α} (hx : Same v x) (hy : Same v y) :
    Same v (if c then x else y) := by
  by_cases h : c
  · rw [if_pos h]; exact hx
  · rw [if_neg h]; exact hy

end

/-! ## views that blank a part of the state -/

section
variable {γ : Type} {v : σ → σ}

theorem view_field (p : σ → γ) (hp : ∀ s, p (v s) = p s) {s t : σ} (h : v s = v t) : p s = p t := by
  rw [← hp s, h, hp t]

theorem view_modify {f : σ → σ} (hf : ∀ s, v (f s) = v (f (v s))) (s t : σ) (h : v s = v t) :
    v (f s) = v (f t) := by
  rw [hf s, h, ← hf t]

end

/-! ## procedures that see little and change little -/

structure Confined {γ δ : Type} (f : σ → γ) (v : σ → δ) (x : Proc σ α) : Prop where
  keeps : Keeps f x
  same : Same v x

section
variable {γ δ : Type} {f : σ → γ} {v : σ → δ}

theorem Confined.pure (a : α) : Confined f v (Pure.pure a : Proc σ α) := ⟨Keeps.pure a, Same.pure a⟩

theorem Confined.fail (msg : String) : Confined f v (fail msg : Proc σ α) :=
  ⟨Keeps.fail msg, Same.fail msg⟩

theorem Confined.lift (x : Res α) : Confined f v (lift x : Proc σ α) := ⟨Keeps.lift x, Same.lift x⟩

theorem Confined.modify {g : σ → σ} (hf : ∀ s, f (g s) = f s)
    (hv : ∀ s t, v s = v t → v (g s) = v (g t)) : Confined f v (modify g) :=
  ⟨Keeps.modify hf, Same.modify hv⟩

theorem Confined.bind {x : Proc σ α} {k : α → Proc σ β} (hx : Confined f v x)
    (hk : ∀ a, Confined f v (k a)) : Confined f v (x >>= k) :=
  ⟨hx.keeps.bind fun a => (hk a).keeps, hx.same.bind fun a => (hk a).same⟩

theorem Confined.get_bind {k : σ → Proc σ α} (hv : ∀ s t, v s = v t → k s = k t)
    (hk : ∀ s, Confined f v (k s)) : Confined f v (get >>= k) :=
  ⟨Keeps.get.bind fun s => (hk s).keeps, Same.get_bind hv fun s => (hk s).same⟩

theorem Confined.attempt {x : Proc σ α} (hx : Confined f v x) : Confined f v (attempt x) :=
  ⟨hx.keeps.attempt, hx.same.attempt⟩

theorem Confined.wrap {msg : String} {x : Proc σ α} (hx : Confined f v x) :
    Confined f v (wrap msg x) :=
  ⟨hx.keeps.wrap, hx.same.wrap⟩

theorem Confined.ite {c : Prop} [Decidable c] {x y : Proc σ α} (hx : Confined f v x)
    (hy : Confined f v y) : Confined f v (if c then x else y) :=
  ⟨hx.keeps.ite hy.keeps, hx.same.ite hy.same⟩

end

end Proc
end Go
