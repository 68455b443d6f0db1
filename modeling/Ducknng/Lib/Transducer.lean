import Mathlib.Data.List.Infix

/-!
# Incremental readers

A reader takes its input symbol by symbol; each symbol is refused, or moves the reader to
another state and makes it put out some symbols.

* `Reads step s w out t` — from `s` the reader takes all of `w`, puts out `out` and is in `t`.
* `Stops step t rest` — from `t` the reader takes nothing of `rest`.
* `exists_stop`, `Reads.le_stop` — every input has one point where the reader stops, and
  everything it can read lies before that point.

Since `Reads` composes and splits at every cut of the input (`Reads.trans`, `Reads.split`), what
is read does not depend on how the input is cut.
-/

namespace Transducer

open List

variable {σ α β : Type} {step : σ → α → Option (σ × List β)} {s t t' u : σ} {a : α}
  {w w' v v' : List α} {out out' : List β}

/-- From one state to another, with what is taken and what is put out. -/
inductive Reads (step : σ → α → Option (σ × List β)) : σ → List α → List β → σ → Prop
  | nil {s : σ} : Reads step s [] [] s
  | cons {s t u : σ} {a : α} {o : List β} {w : List α} {out : List β}
      (h : step s a = some (t, o)) (hrest : Reads step t w out u) :
      Reads step s (a :: w) (o ++ out) u

/-- Nothing of the rest can be taken. -/
def Stops (step : σ → α → Option (σ × List β)) (t : σ) (rest : List α) : Prop :=
  ∀ a, rest.head? = some a → step t a = none

theorem stops_nil : Stops step t [] := nofun

theorem stops_cons (h : step t a = none) : Stops step t (a :: w) := by
  intro b hb
  cases hb
  exact h

theorem Reads.single {o : List β} (h : step s a = some (t, o)) : Reads step s [a] o t := by
  have hone : Reads step s [a] (o ++ []) t := .cons h .nil
  rwa [append_nil] at hone

section
variable (h : Reads step s w out t)
include h

theorem Reads.trans (h' : Reads step t w' out' u) :
    Reads step s (w ++ w') (out ++ out') u := by
  induction h with
  | nil => exact h'
  | cons hstep _ ih =>
    rw [append_assoc]
    exact .cons hstep (ih h')

omit h in
theorem Reads.split (h : Reads step s (w ++ w') out u) :
    ∃ t o o', Reads step s w o t ∧ Reads step t w' o' u ∧ out = o ++ o' := by
  induction w generalizing s out with
  | nil => exact ⟨s, [], out, .nil, h, rfl⟩
  | cons a w ih =>
    cases h with
    | cons hstep hrest =>
      obtain ⟨t, o, o', ho, ho', rfl⟩ := ih hrest
      exact ⟨t, _, o', .cons hstep ho, ho', (append_assoc _ _ _).symm⟩

theorem Reads.unique (h' : Reads step s w out' t') :
    out = out' ∧ t = t' := by
  induction h generalizing out' with
  | nil =>
    cases h'
    exact ⟨rfl, rfl⟩
  | cons hstep _ ih =>
    cases h' with
    | cons hstep' hrest' =>
      cases hstep.symm.trans hstep'
      obtain ⟨rfl, rfl⟩ := ih hrest'
      exact ⟨rfl, rfl⟩

/-- What is put out grows with what is taken. -/
theorem Reads.out_isPrefix (h' : Reads step s w' out' t')
    (hw : w <+: w') : out <+: out' := by
  obtain ⟨v, rfl⟩ := hw
  obtain ⟨u, o, o', ho, _, rfl⟩ := h'.split
  rw [(h.unique ho).1]
  exact prefix_append o o'

/-- Everything that can be read lies before the point where the reader stops. -/
theorem Reads.le_stop (hstop : Stops step t v)
    (h' : Reads step s w' out' t') (hw : w' <+: w ++ v) : w' <+: w := by
  induction h generalizing w' out' with
  | nil =>
    cases h' with
    | nil => exact nil_prefix
    | cons hstep' _ =>
      obtain ⟨v', rfl⟩ := hw
      rw [hstop _ rfl] at hstep'
      cases hstep'
  | cons hstep _ ih =>
    cases h' with
    | nil => exact nil_prefix
    | cons hstep' hrest' =>
      obtain ⟨rfl, htail⟩ := cons_prefix_cons.1 hw
      cases hstep.symm.trans hstep'
      exact cons_prefix_cons.2 ⟨rfl, ih hstop hrest' htail⟩

/-- Two runs over one input that both stop are the same run. -/
theorem Reads.stop_unique (hstop : Stops step t v)
    (h' : Reads step s w' out' t') (hstop' : Stops step t' v') (hw : w ++ v = w' ++ v') :
    w = w' ∧ out = out' ∧ t = t' := by
  have hle : w' <+: w := h.le_stop hstop h' (hw ▸ prefix_append _ _)
  have hge : w <+: w' := h'.le_stop hstop' h (hw ▸ prefix_append _ _)
  obtain rfl : w = w' := hge.eq_of_length_le hle.length_le
  exact ⟨rfl, h.unique h'⟩

end

/-- Every input is read up to some point. -/
theorem exists_stop (step : σ → α → Option (σ × List β)) (s : σ) (w : List α) :
    ∃ u v out t, w = u ++ v ∧ Reads step s u out t ∧ Stops step t v := by
  induction w generalizing s with
  | nil => exact ⟨[], [], [], s, rfl, .nil, stops_nil⟩
  | cons a w ih =>
    cases hstep : step s a with
    | none => exact ⟨[], a :: w, [], s, rfl, .nil, stops_cons hstep⟩
    | some move =>
      obtain ⟨u, v, out, t, rfl, hreads, hstop⟩ := ih move.1
      exact ⟨a :: u, v, move.2 ++ out, t, rfl, .cons hstep hreads, hstop⟩

/-- What holds at the start and is kept by every symbol taken holds after every reading. -/
theorem Reads.induction {P : List α → List β → σ → Prop} (hstart : P [] [] s)
    (hstep : ∀ w out t a u o, P w out t → step t a = some (u, o) → P (w ++ [a]) (out ++ o) u)
    (h : Reads step s w out t) : P w out t := by
  -- the reading is extended on the right, so the part already read is carried along
  suffices haux : ∀ {s w out t}, Reads step s w out t →
      ∀ past put, P past put s → P (past ++ w) (put ++ out) t from haux h [] [] hstart
  intro s w out t h
  induction h with
  | nil =>
    intro past put hp
    rwa [append_nil, append_nil]
  | @cons _ _ _ a o w out hs _ ih =>
    intro past put hp
    have hnext := ih (past ++ [a]) (put ++ o) (hstep _ _ _ _ _ _ hp hs)
    rwa [append_assoc, append_assoc] at hnext

end Transducer
