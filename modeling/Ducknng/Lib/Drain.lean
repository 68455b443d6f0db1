import Mathlib.Tactic.Common

/-!
# Draining a scan

A table function is called again and again, each call filling one output, until an output of
size 0 ends the scan.

* `Drains scan size s outs` — the outputs of the calls from state `s` on, the last empty one
  left out.
* `Drains.unique` — a scan has one sequence of outputs.
* `Yields scan size s outs ending` — the same for scans that may fail: the outputs before the
  end, and the error if there was one.
* `exists_drains` — a scan whose calls take the next rows off what remains, and whose empty
  output means that nothing remains, ends and emits exactly what remained.
* `reached`, `reached_iff` — what a scan emits whose empty pieces are taken for its end.
-/

namespace Drain

open List

variable {σ ε χ ρ : Type} {scan : σ → Except ε (χ × σ)} {size : χ → Nat}

/-- The outputs of a scan up to its first empty one. -/
inductive Drains (scan : σ → Except ε (χ × σ)) (size : χ → Nat) : σ → List χ → Prop
  | done {s s' : σ} {out : χ} (h : scan s = .ok (out, s')) (hsize : size out = 0) :
      Drains scan size s []
  | more {s s' : σ} {out : χ} {outs : List χ} (h : scan s = .ok (out, s'))
      (hsize : size out ≠ 0) (hrest : Drains scan size s' outs) :
      Drains scan size s (out :: outs)

theorem Drains.unique {s : σ} {outs outs' : List χ} (h : Drains scan size s outs)
    (h' : Drains scan size s outs') : outs = outs' := by
  induction h generalizing outs' with
  | done hs hsize =>
    cases h' with
    | done => rfl
    | more hs' hsize' _ =>
      cases hs.symm.trans hs'
      exact absurd hsize hsize'
  | more hs hsize _ ih =>
    cases h' with
    | done hs' hsize' =>
      cases hs.symm.trans hs'
      exact absurd hsize' hsize
    | more hs' hsize' hrest' =>
      cases hs.symm.trans hs'
      rw [ih hrest']

/-- The outputs of a scan up to its first empty one or up to the call that fails, and the
    error of that call. -/
inductive Yields (scan : σ → Except ε (χ × σ)) (size : χ → Nat) :
    σ → List χ → Option ε → Prop
  | done {s s' : σ} {out : χ} (h : scan s = .ok (out, s')) (hsize : size out = 0) :
      Yields scan size s [] none
  | failed {s : σ} {e : ε} (h : scan s = .error e) : Yields scan size s [] (some e)
  | more {s s' : σ} {out : χ} {outs : List χ} {ending : Option ε} (h : scan s = .ok (out, s'))
      (hsize : size out ≠ 0) (hrest : Yields scan size s' outs ending) :
      Yields scan size s (out :: outs) ending

theorem Yields.unique {s : σ} {outs outs' : List χ} {ending ending' : Option ε}
    (h : Yields scan size s outs ending) (h' : Yields scan size s outs' ending') :
    outs = outs' ∧ ending = ending' := by
  induction h generalizing outs' ending' with
  | done hs hsize =>
    cases h' with
    | done => exact ⟨rfl, rfl⟩
    | failed hs' => cases hs.symm.trans hs'
    | more hs' hsize' _ =>
      cases hs.symm.trans hs'
      exact absurd hsize hsize'
  | failed hs =>
    cases h' with
    | done hs' _ => cases hs.symm.trans hs'
    | failed hs' =>
      cases hs.symm.trans hs'
      exact ⟨rfl, rfl⟩
    | more hs' _ _ => cases hs.symm.trans hs'
  | more hs hsize _ ih =>
    cases h' with
    | done hs' hsize' =>
      cases hs.symm.trans hs'
      exact absurd hsize' hsize
    | failed hs' => cases hs.symm.trans hs'
    | more hs' hsize' hrest' =>
      cases hs.symm.trans hs'
      obtain ⟨rfl, rfl⟩ := ih hrest'
      exact ⟨rfl, rfl⟩

/-- Each call emits the next rows of what remains, or nothing does. -/
theorem exists_drains {Inv : σ → Prop} {rows : χ → List ρ} {remaining : σ → List ρ}
    (hsize : ∀ out, (rows out).length = size out)
    (hstep : ∀ s, Inv s → ∃ out s', scan s = .ok (out, s') ∧ (size out = 0 → remaining s = []) ∧
      (size out ≠ 0 → Inv s' ∧ remaining s = rows out ++ remaining s')) {s : σ}
    (hs : Inv s) : ∃ outs, Drains scan size s outs ∧ outs.flatMap rows = remaining s := by
  -- a call that does not end the scan leaves fewer rows behind
  induction hn : (remaining s).length using Nat.strongRecOn generalizing s with
  | _ n ih =>
    subst hn
    obtain ⟨out, s', hscan, hend, hmore⟩ := hstep s hs
    by_cases hzero : size out = 0
    · exact ⟨[], .done hscan hzero, (hend hzero).symm⟩
    · obtain ⟨hs', hrows⟩ := hmore hzero
      have hless : (remaining s').length < (remaining s).length := by
        rw [hrows, length_append, hsize]
        omega
      obtain ⟨outs, houts, hflat⟩ := ih _ hless hs' rfl
      exact ⟨out :: outs, .more hscan hzero houts, by rw [flatMap_cons, hflat, hrows]⟩

/-- What is emitted of pieces of which an empty one is taken for the end. -/
def reached : List (List ρ) → List ρ
  | [] | [] :: _ => []
  | piece :: pieces => piece ++ reached pieces

theorem reached_cons {piece : List ρ} (h : piece ≠ []) (pieces : List (List ρ)) :
    reached (piece :: pieces) = piece ++ reached pieces := by
  cases piece with
  | nil => exact absurd rfl h
  | cons row rows => rfl

/-- An empty piece is followed by empty ones only. -/
def NoGap (pieces : List (List ρ)) : Prop :=
  ∀ before after, pieces = before ++ [] :: after → after.flatten = []

/-- **Everything is reached** just when no empty piece stands in front of a row. -/
theorem reached_iff (pieces : List (List ρ)) : reached pieces = pieces.flatten ↔ NoGap pieces := by
  induction pieces with
  | nil => exact iff_of_true rfl fun before _ h => by cases before <;> cases h
  | cons piece pieces ih =>
    by_cases hpiece : piece = []
    · subst hpiece
      constructor
      · intro h before after hsplit
        have hnil : (before ++ [] :: after).flatten = [] := hsplit ▸ h.symm
        rw [flatten_append] at hnil
        exact (append_eq_nil_iff.1 hnil).2
      · exact fun h => (h [] pieces rfl).symm
    · rw [reached_cons hpiece, flatten_cons, append_cancel_left_eq, ih]
      constructor
      · intro h before after hsplit
        cases before with
        | nil => exact absurd (cons.inj hsplit).1 hpiece
        | cons _ before => exact h before after (cons.inj hsplit).2
      · exact fun h before after hsplit => h (piece :: before) after (congrArg _ hsplit)

end Drain
