import Ducknng.Lib.Runs
import Mathlib.Data.List.Perm.Basic

/-!
# Programs that act on a shared state, and their interleavings

A program is a tree of actions: `Op α` is an action that is answered by an `α`, and the rest
of the program depends on the answer. A system runs any number of programs over one shared
state, one action at a time in any order; what an action does and answers is up to the state
and to the world. An action that cannot happen yet is a blocked one.

* `Prog`, `Discipline.wp` — programs, and the rules by which a program may use its actions:
  what it holds decides which actions it may take, and an answer changes what it holds.
* `Prog.all` — what is true of every action of a program.
* `wp_bind`, `wp_mono` — the rules for programs made of programs.
* `System`, `step` — the interleavings.
* `Discipline.invariant` — what every permitted action preserves holds in every reachable
  state, and no program ever leaves its discipline.
* `Discipline.history` — the same for what one thread has done.
* `System.past_answers` — what is true of every answer of the machine.
* `Machine.alone`, `Machine.ends` — what a program does when nobody interrupts it.
* `Discipline.perm_others` — what all threads hold is what one holds and what the others hold.
-/

/-- A program over the actions of `Op` that returns a `ρ`. -/
inductive Prog (Op : Type → Type) (ρ : Type) : Type 1 where
  | ret (r : ρ)
  | act {α : Type} (o : Op α) (k : α → Prog Op ρ)

namespace Prog

variable {Op : Type → Type} {ρ τ : Type}

/-- One program after the other. -/
def bind : Prog Op ρ → (ρ → Prog Op τ) → Prog Op τ
  | .ret r, f => f r
  | .act o k, f => .act o fun a => (k a).bind f

instance : Monad (Prog Op) where
  pure := .ret
  bind := bind

/-- The program of one action. -/
def perform {α : Type} (o : Op α) : Prog Op α := .act o .ret

end Prog

/-! ### The actions of a program -/

variable {α : Type}

namespace Prog

variable {Op : Type → Type} {ρ τ : Type} {P : (α : Type) → Op α → Prop} {p : Prog Op ρ}

/-- Every action the program may take has a property, whatever it is answered. -/
def all (P : (α : Type) → Op α → Prop) : Prog Op ρ → Prop
  | .ret _ => True
  | .act o k => P _ o ∧ ∀ a, all P (k a)

theorem all_bind {f : ρ → Prog Op τ} (hp : all P p) (hf : ∀ r, all P (f r)) :
    all P (p >>= f) := by
  induction p with
  | ret r => exact hf r
  | act o k ih => exact ⟨hp.1, fun a => ih a (hp.2 a)⟩

/-- An action, and what follows on its answer. -/
theorem all_then {o : Op α} {f : α → Prog Op τ} (ho : P α o) (hf : ∀ a, all P (f a)) :
    all P (perform o >>= f) :=
  ⟨ho, hf⟩

/-- An action that can fail, by its two outcomes. -/
theorem all_try {ε : Type} {o : Op (Except ε α)} {f : Except ε α → Prog Op τ} (ho : P _ o)
    (he : ∀ e, all P (f (.error e))) (hf : ∀ a, all P (f (.ok a))) : all P (perform o >>= f) := by
  refine all_then ho fun answer => ?_
  cases answer with
  | error e => exact he e
  | ok a => exact hf a

end Prog

/-! ### Disciplines -/

/-- The rules of using actions: with `h` in hand a program may take an action or not, and it
    holds something else when the answer is there. -/
structure Discipline (Op : Type → Type) (H : Type) where
  may : {α : Type} → H → Op α → Prop
  after : {α : Type} → H → Op α → α → H

namespace Discipline

variable {Op : Type → Type} {H ρ τ : Type} (d : Discipline Op H)

/-- The program keeps to the discipline whatever the answers are, and ends with `Q`. -/
def wp : Prog Op ρ → (H → ρ → Prop) → H → Prop
  | .ret r, Q, h => Q h r
  | .act o k, Q, h => d.may h o ∧ ∀ a, wp (k a) Q (d.after h o a)

variable {d} {Q Q' : H → ρ → Prop} {h : H} {p : Prog Op ρ}

/-- An action and what follows it. -/
theorem wp_act {o : Op α} {f : α → Prog Op ρ} (hmay : d.may h o)
    (hf : ∀ a, d.wp (f a) Q (d.after h o a)) : d.wp (Prog.perform o >>= f) Q h :=
  ⟨hmay, hf⟩

theorem wp_mono (hQ : ∀ h r, Q h r → Q' h r) (hp : d.wp p Q h) :
    d.wp p Q' h := by
  induction p generalizing h with
  | ret r => exact hQ _ _ hp
  | act o k ih => exact ⟨hp.1, fun a => ih a (hp.2 a)⟩

@[simp] theorem wp_bind {R : H → τ → Prop} (p : Prog Op ρ) (f : ρ → Prog Op τ) :
    d.wp (p >>= f) R h ↔ d.wp p (fun h r => d.wp (f r) R h) h := by
  induction p generalizing h with
  | ret r => exact Iff.rfl
  | act o k ih => exact and_congr_right fun _ => forall_congr' fun a => ih a

/-- What a discipline permits has a property, and so has every action of a program that keeps
    to it. -/
theorem all_of_wp {P : (α : Type) → Op α → Prop} (hP : ∀ {α : Type} {h} {o : Op α},
    d.may h o → P α o) (hp : d.wp p Q h) : p.all P := by
  induction p generalizing h with
  | ret r => trivial
  | act o k ih => exact ⟨hP hp.1, fun a => ih a (hp.2 a)⟩

/-- Two disciplines at once. -/
def prod {K : Type} (d : Discipline Op H) (e : Discipline Op K) : Discipline Op (H × K) where
  may h o := d.may h.1 o ∧ e.may h.2 o
  after h o a := (d.after h.1 o a, e.after h.2 o a)

theorem wp_of_prod {K : Type} {e : Discipline Op K} {R : K → ρ → Prop} {h : H × K}
    (hp : (d.prod e).wp p (fun h r => Q h.1 r ∧ R h.2 r) h) : d.wp p Q h.1 ∧ e.wp p R h.2 := by
  induction p generalizing h with
  | ret r => exact hp
  | act o k ih =>
    exact ⟨⟨hp.1.1, fun a => (ih a (hp.2 a)).1⟩, hp.1.2, fun a => (ih a (hp.2 a)).2⟩

/-- A program whose actions the second of two disciplines permits and does not notice. -/
theorem wp_prod_of_stricter {K : Type} {e : Discipline Op K} {k : K}
    {may : {α : Type} → H → Op α → Prop} (hmay : ∀ {α : Type} {h} {o : Op α}, may h o →
      d.may h o ∧ e.may k o ∧ ∀ a, e.after k o a = k) (hp : wp ⟨may, d.after⟩ p Q h) :
    (d.prod e).wp p (fun h' r => Q h'.1 r ∧ h'.2 = k) (h, k) := by
  induction p generalizing h with
  | ret r => exact ⟨hp, rfl⟩
  | act o f ih =>
    obtain ⟨hd, he, hsame⟩ := hmay hp.1
    refine ⟨⟨hd, he⟩, fun a => ?_⟩
    show (d.prod e).wp (f a) _ (d.after h o a, e.after k o a)
    rw [hsame a]
    exact ih a (hp.2 a)

/-- A program all of whose actions are permitted and change nothing. -/
theorem wp_of_all {P : (α : Type) → Op α → Prop}
    (hP : ∀ (α : Type) (o : Op α), P α o → d.may h o ∧ ∀ a, d.after h o a = h) (hQ : ∀ r, Q h r)
    (hp : p.all P) : d.wp p Q h := by
  induction p with
  | ret r => exact hQ r
  | act o k ih =>
    obtain ⟨hmay, hafter⟩ := hP _ o hp.1
    refine ⟨hmay, fun a => ?_⟩
    rw [hafter a]
    exact ih a (hp.2 a)

/-- The discipline that permits everything and changes nothing. -/
def free : Discipline Op H where
  may _ _ := True
  after h _ _ := h

theorem free_wp (hQ : ∀ r, Q h r) (p : Prog Op ρ) : free.wp p Q h := by
  induction p with
  | ret r => exact hQ r
  | act o k ih => exact ⟨trivial, fun a => ih a⟩

end Discipline

/-! ### Interleavings -/

/-- What an action of a thread does to the shared state when the world answers so; `none` when
    it cannot happen. -/
structure Machine (σ κ : Type) (Op : Type → Type) where
  exec : {α : Type} → Nat → σ → Op α → κ → Option (α × σ)

/-- The machine in the worlds of a kind. -/
def Machine.within {σ κ : Type} {Op : Type → Type} (m : Machine σ κ Op) (P : κ → Prop) :
    Machine σ {world // P world} Op where
  exec i s o world := m.exec i s o world.1

/-- An action that was taken, with its answer. -/
structure Done (Op : Type → Type) : Type 1 where
  {α : Type}
  op : Op α
  answer : α

/-- A program on its way: what started it, what it did and what is left of it. -/
structure Thread (ι : Type) (Op : Type → Type) (ρ : Type) : Type 1 where
  request : ι
  past : List (Done Op)
  rest : Prog Op ρ

/-- The shared state and all threads, finished ones included. -/
structure System (σ ι : Type) (Op : Type → Type) (ρ : Type) : Type 1 where
  shared : σ
  threads : List (Thread ι Op ρ)

/-- A thread starts, or one of them takes its next action. -/
inductive Event (ι κ : Type) where
  | start (r : ι)
  | act (i : Nat) (world : κ)

namespace System

variable {σ κ ι H ρ : Type} {Op : Type → Type}

/-- One event of a system. -/
def step (m : Machine σ κ Op) (entry : ι → Prog Op ρ) (s : System σ ι Op ρ) :
    Event ι κ → Option (System σ ι Op ρ)
  | .start r => some ⟨s.shared, s.threads ++ [⟨r, [], entry r⟩]⟩
  | .act i world =>
    match s.threads[i]? with
    | none => none
    | some t =>
      match t.rest with
      | .ret _ => none
      | .act o k =>
        match m.exec i s.shared o world with
        | none => none
        | some (a, shared) =>
          some ⟨shared, s.threads.set i ⟨t.request, t.past ++ [⟨o, a⟩], k a⟩⟩

/-- The states that can be reached from a shared state without threads. -/
def Reachable (m : Machine σ κ Op) (entry : ι → Prog Op ρ) (s₀ : σ)
    (s : System σ ι Op ρ) : Prop :=
  ∃ events, Runs.run (step m entry) ⟨s₀, []⟩ events = some s

/-- What a thread holds, from what it did. -/
def held (d : Discipline Op H) (start : ι → H) (t : Thread ι Op ρ) : H :=
  t.past.foldl (fun h x => d.after h x.op x.answer) (start t.request)

theorem held_free (start : ι → H) (t : Thread ι Op ρ) :
    held Discipline.free start t = start t.request := by
  unfold held
  induction t.past with
  | nil => rfl
  | cons x past ih => exact ih

theorem held_snoc (d : Discipline Op H) (start : ι → H) (t : Thread ι Op ρ) (o : Op α)
    (a : α) (rest : Prog Op ρ) :
    held d start ⟨t.request, t.past ++ [⟨o, a⟩], rest⟩ = d.after (held d start t) o a := by
  simp [held]

theorem Reachable.step {m : Machine σ κ Op} {entry : ι → Prog Op ρ} {s₀ : σ}
    {s s' : System σ ι Op ρ} {e : Event ι κ} (hs : Reachable m entry s₀ s)
    (hstep : System.step m entry s e = some s') : Reachable m entry s₀ s' := by
  obtain ⟨events, hrun⟩ := hs
  exact ⟨events ++ [e], Runs.run_append_eq_some.2 ⟨s, hrun, Runs.run_cons_eq_some.2
    ⟨s', hstep, rfl⟩⟩⟩

/-- A step is a start, or an action of one thread that the machine allows. -/
theorem step_cases {m : Machine σ κ Op} {entry : ι → Prog Op ρ} {s s' : System σ ι Op ρ}
    {e : Event ι κ} (h : step m entry s e = some s') :
    (∃ r, e = .start r ∧ s' = ⟨s.shared, s.threads ++ [⟨r, [], entry r⟩]⟩) ∨
    ∃ i world t, e = .act i world ∧ s.threads[i]? = some t ∧
      ∃ (α : Type) (o : Op α) (k : α → Prog Op ρ) (a : α) (shared : σ),
        t.rest = .act o k ∧ m.exec i s.shared o world = some (a, shared) ∧
        s' = ⟨shared, s.threads.set i ⟨t.request, t.past ++ [⟨o, a⟩], k a⟩⟩ := by
  cases e with
  | start r => exact .inl ⟨r, rfl, (Option.some.inj h).symm⟩
  | act i world =>
    rw [step] at h
    split at h
    · cases h
    · next t ht =>
      split at h
      · cases h
      · next o k hrest =>
        split at h
        · cases h
        · next a shared hexec =>
          exact .inr ⟨i, world, t, rfl, ht, _, o, k, a, shared, hrest, hexec,
            (Option.some.inj h).symm⟩

end System

section
open System
variable {σ κ ι H ρ : Type} {Op : Type → Type} {m : Machine σ κ Op} {entry : ι → Prog Op ρ}
  {s₀ : σ} {s : System σ ι Op ρ}

/-- What a new thread has, and a thread keeps by each of its actions, every thread has. -/
theorem System.every_thread (P : Thread ι Op ρ → Prop) (hstart : ∀ r, P ⟨r, [], entry r⟩)
    (hact : ∀ {α : Type} (t : Thread ι Op ρ) (o : Op α) (k a) (i s world s'), P t →
      t.rest = .act o k → m.exec i s o world = some (a, s') →
      P ⟨t.request, t.past ++ [⟨o, a⟩], k a⟩)
    (hs : Reachable m entry s₀ s) : ∀ t ∈ s.threads, P t := by
  obtain ⟨events, hrun⟩ := hs
  refine Runs.run_invariant (fun s : System σ ι Op ρ => ∀ t ∈ s.threads, P t) ?_ (by simp) hrun
  rintro s e s' hall hstep
  rcases step_cases hstep with ⟨r, rfl, rfl⟩ | ⟨i, world, t, rfl, ht, α, o, k, a, shared,
    hrest, hexec, rfl⟩
  · intro u hu
    rcases List.mem_append.1 hu with hu | hu
    · exact hall u hu
    · rw [List.mem_singleton.1 hu]
      exact hstart r
  · intro u hu
    rcases List.mem_or_eq_of_mem_set hu with hu | rfl
    · exact hall u hu
    · exact hact t o k a i _ world shared (hall t (List.mem_of_getElem? ht)) hrest hexec

/-- Threads that keep to a discipline preserve what every permitted action preserves. -/
theorem Discipline.invariant (d : Discipline Op H) (start : ι → H) (Q : H → ρ → Prop)
    (Inv : σ → List H → Prop) (hentry : ∀ r, d.wp (entry r) Q (start r))
    (hstart : ∀ s hs r, Inv s hs → Inv s (hs ++ [start r]))
    (hact : ∀ {α : Type} (s hs i h) (o : Op α) (world a s'), Inv s hs → hs[i]? = some h →
      d.may h o → m.exec i s o world = some (a, s') → Inv s' (hs.set i (d.after h o a)))
    (h₀ : Inv s₀ []) (hs : Reachable m entry s₀ s) :
    Inv s.shared (s.threads.map (held d start)) ∧
      ∀ t ∈ s.threads, d.wp t.rest Q (held d start t) := by
  have hthreads : ∀ {s}, Reachable m entry s₀ s →
      ∀ t ∈ s.threads, d.wp t.rest Q (held d start t) := by
    refine every_thread _ hentry ?_
    intro α t o k a i s world s' hwp hrest _
    rw [hrest] at hwp
    rw [held_snoc]
    exact hwp.2 a
  refine ⟨?_, hthreads hs⟩
  obtain ⟨events, hrun⟩ := hs
  refine (Runs.run_invariant (fun s : System σ ι Op ρ => Reachable m entry s₀ s ∧
    Inv s.shared (s.threads.map (held d start))) ?_ ⟨⟨[], rfl⟩, h₀⟩ hrun).2
  rintro s e s' ⟨hs, hInv⟩ hstep
  refine ⟨hs.step hstep, ?_⟩
  rcases step_cases hstep with ⟨r, rfl, rfl⟩ | ⟨i, world, t, rfl, ht, α, o, k, a, shared,
    hrest, hexec, rfl⟩
  · -- a new thread holds what its request starts with
    rw [List.map_append]
    exact hstart _ _ r hInv
  · have hwp := hthreads hs t (List.mem_of_getElem? ht)
    rw [hrest] at hwp
    rw [List.map_set, held_snoc]
    exact hact s.shared _ i _ o world a shared hInv (by simp [ht]) hwp.1 hexec

/-- What a thread has done and what it holds belong together when every permitted action keeps
    them so, whatever it is answered. -/
theorem Discipline.history (d : Discipline Op H) (start : ι → H) (Q : H → ρ → Prop)
    (P : ι → List (Done Op) → H → Prop) (hentry : ∀ r, d.wp (entry r) Q (start r))
    (hstart : ∀ r, P r [] (start r))
    (hact : ∀ {α : Type} (r past h) (o : Op α) (a : α), P r past h → d.may h o →
      P r (past ++ [⟨o, a⟩]) (d.after h o a))
    (hs : Reachable m entry s₀ s) :
    ∀ t ∈ s.threads, P t.request t.past (held d start t) := by
  have hboth := every_thread (fun t : Thread ι Op ρ =>
    d.wp t.rest Q (held d start t) ∧ P t.request t.past (held d start t))
    (fun r => ⟨hentry r, hstart r⟩) ?_ hs
  · exact fun t ht => (hboth t ht).2
  rintro α t o k a - - - - ⟨hwp, hP⟩ hrest -
  rw [hrest] at hwp
  rw [held_snoc]
  exact ⟨hwp.2 a, hact _ _ _ o a hP hwp.1⟩

/-- What every answer of the machine says is true of all answers that threads have got. -/
theorem System.past_answers (P : {α : Type} → Op α → α → Prop)
    (hexec : ∀ {α : Type} (i s) (o : Op α) (world a s'), m.exec i s o world = some (a, s') → P o a)
    (hs : Reachable m entry s₀ s) : ∀ t ∈ s.threads, ∀ x ∈ t.past, P x.op x.answer := by
  refine every_thread _ (fun r x hx => absurd hx List.not_mem_nil) ?_ hs
  intro α t o k a i s world s' hpast hrest hanswer x hx
  rcases List.mem_append.1 hx with hx | hx
  · exact hpast x hx
  · rw [List.mem_singleton.1 hx]
    exact hexec _ _ _ _ _ _ hanswer

end

/-! ### A program on its own -/

/-- A program of a thread that nobody interrupts: its result and the state it leaves. Each
    action takes the next world. -/
def Machine.alone {σ κ ρ : Type} {Op : Type → Type} (m : Machine σ κ Op) (i : Nat) :
    Prog Op ρ → σ → List κ → Option (ρ × σ)
  | .ret r, s, _ => some (r, s)
  | .act _ _, _, [] => none
  | .act o k, s, world :: worlds =>
    (m.exec i s o world).bind fun answer => m.alone i (k answer.1) answer.2 worlds

section
variable {σ κ ρ : Type} {Op : Type → Type} {m : Machine σ κ Op} {i : Nat} {p : Prog Op ρ}

variable {s : σ}

@[simp] theorem Machine.alone_pure (r : ρ) (s : σ) (worlds : List κ) :
    m.alone i (pure r : Prog Op ρ) s worlds = some (r, s) := by
  cases worlds <;> rfl

/-- The program can go on until it returns, and ends with `Q` whatever the world answers. -/
def Machine.ends (m : Machine σ κ Op) (i : Nat) : Prog Op ρ → (ρ → σ → Prop) → σ → Prop
  | .ret r, Q, s => Q r s
  | .act o k, Q, s => (∃ world answer, m.exec i s o world = some answer) ∧
      ∀ world answer, m.exec i s o world = some answer → m.ends i (k answer.1) Q answer.2

theorem Machine.ends_mono {Q Q' : ρ → σ → Prop} (hQ : ∀ r s, Q r s → Q' r s)
    (h : m.ends i p Q s) : m.ends i p Q' s := by
  induction p generalizing s with
  | ret r => exact hQ r s h
  | act o k ih => exact ⟨h.1, fun world answer hexec => ih _ (h.2 world answer hexec)⟩

theorem Machine.ends_bind {τ : Type} {Q : τ → σ → Prop} {f : ρ → Prog Op τ}
    (h : m.ends i p (fun r s => m.ends i (f r) Q s) s) : m.ends i (p >>= f) Q s := by
  induction p generalizing s with
  | ret r => exact h
  | act o k ih => exact ⟨h.1, fun world answer hexec => ih _ (h.2 world answer hexec)⟩

/-- What `ends` says about the runs of a program on its own. -/
theorem Machine.alone_of_ends {Q : ρ → σ → Prop} (h : m.ends i p Q s) :
    (∃ worlds answer, m.alone i p s worlds = some answer) ∧
      ∀ worlds r s', m.alone i p s worlds = some (r, s') → Q r s' := by
  induction p generalizing s with
  | ret r =>
    refine ⟨⟨[], (r, s), rfl⟩, ?_⟩
    intro worlds r' s' hrun
    obtain ⟨rfl, rfl⟩ := Prod.mk.inj (Option.some.inj
      ((Machine.alone_pure r s worlds).symm.trans hrun))
    exact h
  | act o k ih =>
    obtain ⟨⟨world, answer, hexec⟩, hall⟩ := h
    constructor
    · obtain ⟨⟨worlds, last, hrun⟩, -⟩ := ih answer.1 (hall world answer hexec)
      refine ⟨world :: worlds, last, ?_⟩
      show (m.exec i s o world).bind _ = _
      rw [hexec]
      exact hrun
    · intro worlds r s' hrun
      cases worlds with
      | nil => cases hrun
      | cons world worlds =>
        obtain ⟨answer, hanswer, hrest⟩ := Option.bind_eq_some_iff.1 hrun
        exact (ih answer.1 (hall world answer hanswer)).2 worlds r s' hrest

end

/-! ### What the threads hold together -/

namespace Discipline

variable {H α : Type} {f : H → List α} {hs : List H} {i : Nat} {h : H}

/-- The holdings of all threads but one. -/
def others (f : H → List α) (hs : List H) (i : Nat) : List α := (hs.eraseIdx i).flatMap f

/-- One thread changes what it holds; the others keep theirs. -/
theorem perm_others_set (hi : hs[i]? = some h) (h' : H) :
    ((hs.set i h').flatMap f).Perm (f h' ++ others f hs i) := by
  obtain ⟨hlt, -⟩ := List.getElem?_eq_some_iff.1 hi
  exact (List.set_perm_cons_eraseIdx hlt h').flatMap_right f

theorem perm_others (hi : hs[i]? = some h) : (hs.flatMap f).Perm (f h ++ others f hs i) := by
  obtain ⟨hlt, rfl⟩ := List.getElem?_eq_some_iff.1 hi
  have hset := perm_others_set (f := f) hi hs[i]
  rwa [List.set_getElem_self] at hset

end Discipline
