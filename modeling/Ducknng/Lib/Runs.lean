import Mathlib.Tactic.Common

namespace Runs

/-!
# Runs of a step function

A system is given by what one event does to its state; `none` says that the event
cannot happen in that state. A run is a list of events taken one after the other.

* `run step s es` — the state after the events.
* `Along step P s es` — every event of the run meets `P` where it happens; `along` evaluates it.
* `run_induction` — what every step preserves holds after every run, with the
  events so far at hand.
-/

universe u v

variable {σ : Type u} {ε : Type v}

/-- The state after a list of events. -/
def run (step : σ → ε → Option σ) : σ → List ε → Option σ
  | s, [] => some s
  | s, e :: es => (step s e).bind fun s' => run step s' es

/-- Every event meets the condition in the state in which it happens. -/
def Along (step : σ → ε → Option σ) (P : σ → ε → Prop) : σ → List ε → Prop
  | _, [] => True
  | s, e :: es => P s e ∧ ∀ s', step s e = some s' → Along step P s' es

section
variable {step : σ → ε → Option σ} {P : σ → ε → Prop} {s s' : σ} {e : ε} {es es' : List ε}

@[simp] theorem run_nil : run step s [] = some s := rfl

theorem run_cons_eq_some :
    run step s (e :: es) = some s' ↔ ∃ t, step s e = some t ∧ run step t es = some s' :=
  Option.bind_eq_some_iff

/-- A run can be cut anywhere. -/
theorem run_append_eq_some :
    run step s (es ++ es') = some s' ↔ ∃ t, run step s es = some t ∧ run step t es' = some s' := by
  induction es generalizing s with
  | nil => simp
  | cons e es ih =>
    simp only [List.cons_append, run_cons_eq_some, ih]
    constructor
    · rintro ⟨t, ht, u, hu, hrest⟩
      exact ⟨u, ⟨t, ht, hu⟩, hrest⟩
    · rintro ⟨u, ⟨t, ht, hu⟩, hrest⟩
      exact ⟨t, ht, u, hu, hrest⟩

/-- One more event, where it leads to. -/
theorem Along.cons (he : P s e) (hstep : step s e = some s') (h : Along step P s' es) :
    Along step P s (e :: es) :=
  ⟨he, fun _ ht => Option.some.inj (hstep.symm.trans ht) ▸ h⟩

/-- The condition that is always met. -/
theorem Along.trivial (es : List ε) : Along step (fun _ _ => True) s es := by
  induction es generalizing s with
  | nil => exact True.intro
  | cons e es ih => exact ⟨True.intro, fun _ _ => ih⟩

/-- A condition that can be evaluated, along a run. -/
def along (step : σ → ε → Option σ) (p : σ → ε → Bool) : σ → List ε → Bool
  | _, [] => true
  | s, e :: es => p s e && (step s e).all fun s' => along step p s' es

theorem Along.of_along {p : σ → ε → Bool} (hp : ∀ s e, p s e = true → P s e)
    (h : along step p s es = true) : Along step P s es := by
  induction es generalizing s with
  | nil => trivial
  | cons e es ih =>
    rw [along, Bool.and_eq_true] at h
    refine ⟨hp s e h.1, fun s' hs' => ih ?_⟩
    have hall := h.2
    rwa [hs', Option.all_some] at hall

/-- What meets a condition all along meets it along the first events. -/
theorem Along.left (h : Along step P s (es ++ es')) : Along step P s es := by
  induction es generalizing s with
  | nil => trivial
  | cons e es ih => exact ⟨h.1, fun s' hs' => ih (h.2 s' hs')⟩

/-- The invariant of a run, from the middle of one. -/
theorem run_induction_from {Inv : List ε → σ → Prop}
    (hstep : ∀ past s e s', Inv past s → P s e → step s e = some s' → Inv (past ++ [e]) s')
    {past : List ε} (hs : Inv past s) (hP : Along step P s es) (hrun : run step s es = some s') :
    Inv (past ++ es) s' := by
  induction es generalizing s past with
  | nil =>
    cases hrun
    rwa [List.append_nil]
  | cons e es ih =>
    obtain ⟨t, ht, hrest⟩ := run_cons_eq_some.1 hrun
    have hnext := hstep past s e t hs hP.1 ht
    have hall := ih hnext (hP.2 t ht) hrest
    rwa [List.append_assoc, List.singleton_append] at hall

/-- **Invariants of a run.** What holds at the start and is kept by every event that
    meets the condition holds at the end; the invariant may speak about the events so
    far. -/
theorem run_induction (Inv : List ε → σ → Prop)
    (hstep : ∀ past s e s', Inv past s → P s e → step s e = some s' → Inv (past ++ [e]) s')
    (hs : Inv [] s) (hP : Along step P s es) (hrun : run step s es = some s') : Inv es s' :=
  run_induction_from hstep hs hP hrun

/-- The same for an invariant of the state under no condition. -/
theorem run_invariant (Inv : σ → Prop)
    (hstep : ∀ s e s', Inv s → step s e = some s' → Inv s') (hs : Inv s)
    (hrun : run step s es = some s') : Inv s' :=
  run_induction (fun _ s => Inv s) (fun _ s e s' h _ => hstep s e s' h) hs (.trivial es) hrun

end

end Runs
