import BillVpn.Go.Basic

/-!
# Runs of a state machine

`step e s` is the state after the event `e`; an event that cannot happen leaves the state alone.

* `runAll step es s`       the state after the events `es`;
* `Along step P es s`      every event of the run meets `P` in the state it happens in;
* `Along.invariant`, `runAll_invariant`   the induction over a run;
* `collect step out es s`  what the events of a run put out, in order;
* `collect_queue`          what went into a queue comes out in the same order, or is still there;
* `runAll_refines`         if a step is a run of another machine, so is a run.
-/

set_option linter.unusedVariables false

namespace Go

section
variable {σ ε : Type} (step : ε → σ → σ)

def runAll (es : List ε) (s : σ) : σ := es.foldl (fun s e => step e s) s

@[simp] theorem runAll_nil (s : σ) : runAll step [] s = s := rfl

@[simp] theorem runAll_cons (e : ε) (es : List ε) (s : σ) :
    runAll step (e :: es) s = runAll step es (step e s) := rfl

theorem runAll_append (es fs : List ε) (s : σ) :
    runAll step (es ++ fs) s = runAll step fs (runAll step es s) := List.foldl_append

def Along (P : ε → σ → Prop) : List ε → σ → Prop
  | [], _ => True
  | e :: es, s => P e s ∧ Along P es (step e s)

variable {step} {P : ε → σ → Prop}

theorem along_append {es fs : List ε} : ∀ {s : σ},
    Along step P (es ++ fs) s ↔ Along step P es s ∧ Along step P fs (runAll step es s) := by
  induction es with
  | nil => intro s; exact ⟨fun h => ⟨trivial, h⟩, fun h => h.2⟩
  | cons e es ih =>
    intro s
    show P e s ∧ Along step P (es ++ fs) _ ↔ (P e s ∧ _) ∧ _
    rw [ih, and_assoc]
    rfl

theorem Along.invariant {I : σ → Prop} (hstep : ∀ e s, P e s → I s → I (step e s)) {es : List ε} :
    ∀ {s : σ}, Along step P es s → I s → I (runAll step es s) := by
  induction es with
  | nil => intro s _ hs; exact hs
  | cons e es ih =>
    intro s h hs
    exact ih h.2 (hstep e s h.1 hs)

/-- what every event keeps, a run keeps -/
theorem runAll_invariant {I : σ → Prop} (hstep : ∀ e s, I s → I (step e s)) (es : List ε) :
    ∀ {s : σ}, I s → I (runAll step es s) := by
  induction es with
  | nil => exact fun hs => hs
  | cons e es ih => exact fun hs => ih (hstep e _ hs)

/-- what every event of some kind keeps, a run of such events keeps -/
theorem runAll_invariant_of {I : σ → Prop} {Q : ε → Prop}
    (hstep : ∀ e s, Q e → I s → I (step e s)) {es : List ε} :
    ∀ {s : σ}, (∀ e ∈ es, Q e) → I s → I (runAll step es s) := by
  induction es with
  | nil => exact fun _ hs => hs
  | cons e es ih =>
    intro s hq hs
    exact ih (fun x hx => hq x (List.mem_cons_of_mem _ hx)) (hstep e s (hq e List.mem_cons_self) hs)

theorem Along.of_forall {Q : ε → Prop} {es : List ε} : ∀ {s : σ}, (∀ e ∈ es, Q e) →
    Along step P es s → Along step (fun e s => P e s ∧ Q e) es s := by
  induction es with
  | nil => intro s _ _; trivial
  | cons e es ih =>
    intro s hq h
    exact ⟨⟨h.1, hq e List.mem_cons_self⟩, ih (fun x hx => hq x (List.mem_cons_of_mem _ hx)) h.2⟩

end

/-! ## what a run puts out -/

section
variable {σ ε ω : Type} (step : ε → σ → σ)

def collect (out : ε → σ → List ω) : List ε → σ → List ω
  | [], _ => []
  | e :: es, s => out e s ++ collect out es (step e s)

variable {step}

theorem collect_append (out : ε → σ → List ω) (es fs : List ε) (s : σ) :
    collect step out (es ++ fs) s
      = collect step out es s ++ collect step out fs (runAll step es s) := by
  induction es generalizing s with
  | nil => rfl
  | cons e es ih =>
    show out e s ++ collect step out (es ++ fs) (step e s) = _
    rw [ih, ← List.append_assoc]
    rfl

/-- If each event takes from the front of a queue and puts at its back, so does a run. -/
theorem collect_queue {queue : σ → List ω} {taken put : ε → σ → List ω}
    (hstep : ∀ e s, taken e s ++ queue (step e s) = queue s ++ put e s) (es : List ε) (s : σ) :
    collect step taken es s ++ queue (runAll step es s) = queue s ++ collect step put es s := by
  induction es generalizing s with
  | nil => exact (List.append_nil _).symm
  | cons e es ih =>
    show (taken e s ++ collect step taken es (step e s)) ++ queue (runAll step es (step e s))
      = queue s ++ (put e s ++ collect step put es (step e s))
    rw [List.append_assoc, ih, ← List.append_assoc, hstep, List.append_assoc]

/-- As `collect_queue`, for a queue `Q s q` that is in the state and for what may be lost on the way:
`R` is equality, or "in order, with gaps". -/
theorem Along.flow {P : ε → σ → Prop} {Q : σ → List ω → Prop} {R : List ω → List ω → Prop}
    (hrefl : ∀ a, R a a) (htrans : ∀ {a b c}, R a b → R b c → R a c)
    (hleft : ∀ {a b} c, R a b → R (c ++ a) (c ++ b)) (hright : ∀ {a b} c, R a b → R (a ++ c) (b ++ c))
    {taken put : ε → σ → List ω}
    (hstep : ∀ e s q, P e s → Q s q → ∃ q', Q (step e s) q' ∧ R (taken e s ++ q') (q ++ put e s))
    {es : List ε} : ∀ {s : σ} {q : List ω}, Along step P es s → Q s q →
      ∃ q', Q (runAll step es s) q' ∧
        R (collect step taken es s ++ q') (q ++ collect step put es s) := by
  induction es with
  | nil =>
    intro s q _ hq
    refine ⟨q, hq, ?_⟩
    show R ([] ++ q) (q ++ [])
    rw [List.append_nil]
    exact hrefl q
  | cons e es ih =>
    intro s q h hq
    obtain ⟨q1, hq1, hR1⟩ := hstep e s q h.1 hq
    obtain ⟨q2, hq2, hR2⟩ := ih h.2 hq1
    refine ⟨q2, hq2, ?_⟩
    show R ((taken e s ++ collect step taken es (step e s)) ++ q2)
      (q ++ (put e s ++ collect step put es (step e s)))
    rw [List.append_assoc, ← List.append_assoc q]
    refine htrans (hleft _ hR2) ?_
    rw [← List.append_assoc]
    exact hright _ hR1

theorem collect_forall {out : ε → σ → List ω} {I : σ → Prop} {P : ω → Prop}
    (hstep : ∀ e s, I s → I (step e s)) (hout : ∀ e s, I s → ∀ w ∈ out e s, P w) (es : List ε) :
    ∀ {s : σ}, I s → ∀ w ∈ collect step out es s, P w := by
  induction es with
  | nil =>
    intro s hs w hw
    cases hw
  | cons e es ih =>
    intro s hs w hw
    rcases List.mem_append.mp hw with hw | hw
    · exact hout e s hs w hw
    · exact ih (hstep e s hs) w hw

theorem collect_invariant {out : ε → σ → List ω} {I : List ω → σ → Prop}
    (hstep : ∀ e l s, I l s → I (l ++ out e s) (step e s)) (es : List ε) :
    ∀ {l : List ω} {s : σ}, I l s → I (l ++ collect step out es s) (runAll step es s) := by
  induction es with
  | nil =>
    intro l s h
    show I (l ++ []) s
    rw [List.append_nil]
    exact h
  | cons e es ih =>
    intro l s h
    show I (l ++ (out e s ++ collect step out es (step e s))) _
    rw [← List.append_assoc]
    exact ih (hstep e l s h)

/-- a history of the run, `upd e s` being what the event `e` adds to it or takes from it -/
def history {τ : Type} (step : ε → σ → σ) (upd : ε → σ → τ → τ) : List ε → σ → τ → τ
  | [], _, t => t
  | e :: es, s, t => history step upd es (step e s) (upd e s t)

theorem history_invariant {τ : Type} {upd : ε → σ → τ → τ} {I : τ → σ → Prop}
    (hstep : ∀ e t s, I t s → I (upd e s t) (step e s)) (es : List ε) :
    ∀ {t : τ} {s : σ}, I t s → I (history step upd es s t) (runAll step es s) := by
  induction es with
  | nil => exact fun h => h
  | cons e es ih => exact fun h => ih (hstep e _ _ h)

theorem collect_map {ω' : Type} (f : ω → ω') (out : ε → σ → List ω) (es : List ε) (s : σ) :
    (collect step out es s).map f = collect step (fun e s => (out e s).map f) es s := by
  induction es generalizing s with
  | nil => rfl
  | cons e es ih =>
    show (out e s ++ collect step out es (step e s)).map f = _
    rw [List.map_append, ih]
    rfl

end

/-! ## one machine inside another -/

section
variable {σ τ ε δ ω : Type} {step : ε → σ → σ} {astep : δ → τ → τ} {abs : σ → τ}
  {I : σ → Prop} {P : ε → Prop}

/-- every step is a run of the machine `astep` on the part `abs` of the state -/
theorem runAll_refines {ev : ε → σ → List δ} (hI : ∀ e s, P e → I s → I (step e s))
    (habs : ∀ e s, P e → I s → abs (step e s) = runAll astep (ev e s) (abs s)) {es : List ε} :
    ∀ {s : σ}, (∀ e ∈ es, P e) → I s →
      abs (runAll step es s) = runAll astep (collect step ev es s) (abs s) := by
  induction es with
  | nil => exact fun _ _ => rfl
  | cons e es ih =>
    intro s hP hs
    have he := hP e List.mem_cons_self
    show abs (runAll step es (step e s)) = runAll astep (ev e s ++ collect step ev es (step e s)) _
    rw [runAll_append, ← habs e s he hs,
      ih (fun x hx => hP x (List.mem_cons_of_mem _ hx)) (hI e s he hs)]

theorem collect_refines {ev : ε → σ → List δ} {out : ε → σ → List ω} {aout : δ → τ → List ω}
    (hI : ∀ e s, P e → I s → I (step e s))
    (habs : ∀ e s, P e → I s → abs (step e s) = runAll astep (ev e s) (abs s))
    (hout : ∀ e s, P e → I s → out e s = collect astep aout (ev e s) (abs s)) {es : List ε} :
    ∀ {s : σ}, (∀ e ∈ es, P e) → I s →
      collect step out es s = collect astep aout (collect step ev es s) (abs s) := by
  induction es with
  | nil => exact fun _ _ => rfl
  | cons e es ih =>
    intro s hP hs
    have he := hP e List.mem_cons_self
    show out e s ++ collect step out es (step e s)
      = collect astep aout (ev e s ++ collect step ev es (step e s)) _
    rw [collect_append, ← habs e s he hs, ← hout e s he hs,
      ih (fun x hx => hP x (List.mem_cons_of_mem _ hx)) (hI e s he hs)]

end

/-! ## tables of what is going on -/

theorem update_eq_some {κ ν : Type} [DecidableEq κ] {f : κ → Option ν} {i j : κ} {v : Option ν}
    {x : ν} (h : Function.update f i v j = some x) :
    j = i ∧ v = some x ∨ j ≠ i ∧ f j = some x := by
  by_cases hj : j = i
  · rw [hj, Function.update_self] at h
    exact .inl ⟨hj, h⟩
  · rw [Function.update_of_ne hj] at h
    exact .inr ⟨hj, h⟩

end Go
