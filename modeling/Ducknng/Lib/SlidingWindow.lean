import Mathlib.Data.List.Basic

namespace SlidingWindow

open List

/-!
# A sliding-window limiter

A limiter keeps the times of the attempts it admitted, forgets those that are a
full width old, and admits an attempt while fewer than `limit` are left.

* `attempt` — one attempt: the outcome and the times kept.
* `outcomes`, `admitted` — the attempts of a list of times, and those that got in.
* `admitted_in_window_le` — no window of the given width holds more than `limit`.
* `refused_of_full` — an attempt is refused only by a full window.
-/

/-- The times less than a width before `t`. -/
def live (width : Nat) (kept : List Nat) (t : Nat) : List Nat :=
  kept.filter fun x => t < x + width

/-- One attempt at time `t`. -/
def attempt (limit width : Nat) (kept : List Nat) (t : Nat) : Bool × List Nat :=
  let left := live width kept t
  if left.length ≥ limit then (false, left) else (true, left ++ [t])

/-- A list of attempts with their outcomes. -/
def outcomes (limit width : Nat) : List Nat → List Nat → List (Nat × Bool)
  | _, [] => []
  | kept, t :: ts =>
    (t, (attempt limit width kept t).1) :: outcomes limit width (attempt limit width kept t).2 ts

/-- The times of the attempts that were admitted. -/
def admitted (history : List (Nat × Bool)) : List Nat := (history.filter Prod.snd).map Prod.fst

/-- Those of a list of times that lie in the window `(w - width, w]`. -/
def inWindow (width w : Nat) (times : List Nat) : List Nat :=
  times.filter fun x => w < x + width ∧ x ≤ w

variable {limit width : Nat}

theorem admitted_append_true (past : List (Nat × Bool)) (t : Nat) :
    admitted (past ++ [(t, true)]) = admitted past ++ [t] := by
  simp [admitted]

theorem admitted_append_false (past : List (Nat × Bool)) (t : Nat) :
    admitted (past ++ [(t, false)]) = admitted past := by
  simp [admitted]

/-- What the limiter knows after a history: every admitted time that is still live at
    the last attempt, and the bound on every window. -/
structure Tracks (limit width : Nat) (past : List (Nat × Bool)) (last : Nat) (kept : List Nat) :
    Prop where
  le_last : ∀ x ∈ admitted past, x ≤ last
  kept_eq : kept = live width (admitted past) last
  window : ∀ w, (inWindow width w (admitted past)).length ≤ limit

variable {last t : Nat} {times : List Nat}

/-- Forgetting in two steps is forgetting at the later time. -/
theorem live_live (h : last ≤ t) (times : List Nat) :
    live width (live width times last) t = live width times t := by
  unfold live
  rw [filter_filter]
  refine filter_congr fun x _ => ?_
  simp only [Bool.and_eq_decide, decide_eq_true_eq, decide_eq_decide]
  omega

/-- Up to the present, the live times are those of the window that ends now. -/
theorem live_eq_inWindow (h : ∀ x ∈ times, x ≤ t) :
    live width times t = inWindow width t times := by
  refine filter_congr fun x hx => ?_
  have hle := h x hx
  simp [hle]

/-- The window bound survives the admission of a time behind which fewer than `limit`
    are live. -/
theorem inWindow_append_le (hroom : (live width times t).length < limit)
    (hwindow : ∀ w, (inWindow width w times).length ≤ limit) (w : Nat) :
    (inWindow width w (times ++ [t])).length ≤ limit := by
  unfold inWindow
  rw [filter_append, length_append]
  by_cases hw : t ≤ w
  · -- Whatever is in the window that ends at `w` is still live at `t`.
    have hsub : (times.filter fun x => w < x + width ∧ x ≤ w).length ≤
        (live width times t).length := by
      refine Sublist.length_le (monotone_filter_right times fun x hx => ?_)
      simp only [decide_eq_true_eq] at hx ⊢
      omega
    have hone : ([t].filter fun x => w < x + width ∧ x ≤ w).length ≤ 1 := length_filter_le _ _
    omega
  · have hnone : [t].filter (fun x => w < x + width ∧ x ≤ w) = [] := by
      simp [hw]
    rw [hnone, length_nil, Nat.add_zero]
    exact hwindow w

/-- **One attempt.** The limiter keeps track, and refuses only when the window that ends
    now holds exactly `limit` admitted times. -/
theorem Tracks.attempt {past : List (Nat × Bool)} {kept : List Nat} (hwidth : 0 < width)
    (h : Tracks limit width past last kept) (ht : last ≤ t) :
    Tracks limit width (past ++ [(t, (attempt limit width kept t).1)]) t
      (attempt limit width kept t).2 ∧
    ((SlidingWindow.attempt limit width kept t).1 = false →
      (inWindow width t (admitted past)).length = limit) := by
  have hle : ∀ x ∈ admitted past, x ≤ t := fun x hx => Nat.le_trans (h.le_last x hx) ht
  have hlive : live width kept t = live width (admitted past) t := by
    rw [h.kept_eq, live_live ht]
  have hbound := h.window t
  rw [← live_eq_inWindow hle] at hbound ⊢
  unfold SlidingWindow.attempt
  rw [hlive]
  -- a refused attempt is not recorded
  by_cases hfull : (live width (admitted past) t).length ≥ limit
  · simp only [hfull, if_true]
    refine ⟨⟨?_, ?_, ?_⟩, fun _ => Nat.le_antisymm hbound hfull⟩
    · rw [admitted_append_false]
      exact hle
    · rw [admitted_append_false]
    · rw [admitted_append_false]
      exact h.window
  · simp only [hfull, if_false, reduceCtorEq, false_implies, and_true]
    refine ⟨?_, ?_, ?_⟩
    · intro x hx
      rw [admitted_append_true, mem_append, mem_singleton] at hx
      exact hx.elim (hle x) fun heq => Nat.le_of_eq heq
    · rw [admitted_append_true]
      simp [live, hwidth]
    · intro w
      rw [admitted_append_true]
      exact inWindow_append_le (Nat.lt_of_not_le hfull) h.window w

/-- The state of a limiter after a list of attempts, and what they were told. -/
theorem Tracks.outcomes {past : List (Nat × Bool)} {kept : List Nat} (hwidth : 0 < width)
    (h : Tracks limit width past last kept) (hsorted : (last :: times).Pairwise (· ≤ ·)) :
    (∀ w, (inWindow width w
      (admitted (past ++ outcomes limit width kept times))).length ≤ limit) ∧
    ∀ before t after, SlidingWindow.outcomes limit width kept times = before ++
      (t, false) :: after → (inWindow width t (admitted (past ++ before))).length = limit := by
  induction times generalizing past last kept with
  | nil =>
    refine ⟨fun w => ?_, fun before t after heq => ?_⟩
    · rw [SlidingWindow.outcomes, append_nil]
      exact h.window w
    · cases before <;> cases heq
  | cons t times ih =>
    have ht : last ≤ t := rel_of_pairwise_cons hsorted mem_cons_self
    obtain ⟨hnext, hfull⟩ := h.attempt hwidth ht
    obtain ⟨hall, hrefused⟩ := ih hnext (Pairwise.of_cons hsorted)
    rw [SlidingWindow.outcomes]
    refine ⟨fun w => ?_, fun before u after heq => ?_⟩
    · have hw := hall w
      rwa [append_assoc, singleton_append] at hw
    · cases before with
      | nil =>
        -- The refused attempt is the first one.
        rw [nil_append, cons.injEq, Prod.mk.injEq] at heq
        rw [← heq.1.1, append_nil]
        exact hfull heq.1.2
      | cons first before =>
        rw [cons_append, cons.injEq] at heq
        have hlater := hrefused before u after heq.2
        rwa [append_assoc, singleton_append, heq.1] at hlater

/-- Nothing has been attempted. -/
theorem Tracks.nil : Tracks limit width [] 0 [] :=
  ⟨forall_mem_nil _, rfl, fun _ => Nat.zero_le _⟩

/-- **No window holds more than the limit.** -/
theorem admitted_in_window_le (hwidth : 0 < width) (hsorted : times.Pairwise (· ≤ ·)) (w : Nat) :
    (inWindow width w (admitted (outcomes limit width [] times))).length ≤ limit := by
  have hstart : Tracks limit width [] 0 [] := Tracks.nil
  have hall := (hstart.outcomes hwidth
    (Pairwise.cons (fun x _ => Nat.zero_le x) hsorted)).1 w
  rwa [nil_append] at hall

/-- **Only a full window refuses.** -/
theorem refused_of_full (hwidth : 0 < width) (hsorted : times.Pairwise (· ≤ ·))
    {before after : List (Nat × Bool)}
    (heq : outcomes limit width [] times = before ++ (t, false) :: after) :
    (inWindow width t (admitted before)).length = limit :=
  (Tracks.nil.outcomes hwidth (Pairwise.cons (fun x _ => Nat.zero_le x) hsorted)).2
    before t after heq

end SlidingWindow
