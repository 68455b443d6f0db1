import Ducknng.Lib.Codec

namespace ByteCodec

/-!
# Readers that are paid for by what they consume

The log of a reader has an event for every step, every round of a loop and every nested call,
whether bytes are consumed or not. A reader is paid for when the bytes it consumes pay for its
events. The values it materialises are paid from a budget instead.

* `WithinBudget` — every check of a run sees the true total, every reservation fits, and a check
  that does not fit ends the run.
* `Meter` — what is allowed: so many events a byte, down to a nesting depth, and so many values.
* `Metered` — the events of a reader are allowed and paid for, up to a constant. `Metered.bind`,
  `Metered.forEach`, `Metered.repeatRead` — how that composes; a loop whose body pays for its
  round costs nothing extra, whatever its length.
* `Costs` — the same as a class, so that the debt of a reader is found from its parts.
-/

variable {ε ε' α β : Type} {p : Step ε α}

/-! ### The budget of a run -/

/-- The values that a step charges for. -/
def Note.commits : Note → Nat
  | .charge _ count true => count
  | _ => 0

/-- The values that the steps of a run charge for. -/
def committed : List Event → Nat
  | [] => 0
  | event :: rest => event.note.commits + committed rest

/-- A step within the budget, after `total` values have been charged for: a check sees that
    total and finds that its values fit, and room is reserved for values that fit only. -/
def Note.Fits (budget total : Nat) : Note → Prop
  | .charge spent count _ => spent = total ∧ total + count ≤ budget
  | .reserve count capacity => total + count ≤ budget ∧ capacity ≤ max count 1
  | _ => True

/-- A check that finds more values than are left. -/
def Note.Refuses (budget total : Nat) : Note → Prop
  | .charge spent count _ => spent = total ∧ budget < total + count
  | _ => False

/-- The events of a run, from a running total on: all of them are within the budget, or a check
    that is not is the last event of a run that fails. -/
def WithinBudget (budget : Nat) : Nat → List Event → Bool → Prop
  | _, [], _ => True
  | total, event :: rest, ok =>
    event.note.Fits budget total ∧ WithinBudget budget (total + event.note.commits) rest ok ∨
      event.note.Refuses budget total ∧ rest = [] ∧ ok = false

section
variable {budget total : Nat} {ok : Bool}

theorem committed_append (first rest : List Event) :
    committed (first ++ rest) = committed first + committed rest := by
  induction first with
  | nil => exact (Nat.zero_add _).symm
  | cons event first ih =>
    show _ + committed (first ++ rest) = _ + committed first + committed rest
    rw [ih, Nat.add_assoc]

/-- Runs one after another. -/
theorem WithinBudget.append {first rest : List Event} (hfirst : WithinBudget budget total
    first true) (hrest : WithinBudget budget (total + committed first) rest ok) :
    WithinBudget budget total (first ++ rest) ok := by
  induction first generalizing total with
  | nil => exact hrest
  | cons event first ih =>
    rw [committed, ← Nat.add_assoc] at hrest
    rcases hfirst with ⟨hfits, hnext⟩ | ⟨_, _, hok⟩
    · exact .inl ⟨hfits, ih hnext hrest⟩
    · cases hok

/-- An event in the middle of a run. -/
theorem WithinBudget.at {before after : List Event} {event : Event}
    (h : WithinBudget budget total (before ++ event :: after) ok) :
    event.note.Fits budget (total + committed before) ∨
      event.note.Refuses budget (total + committed before) ∧ after = [] ∧ ok = false := by
  induction before generalizing total with
  | nil => exact h.imp_left And.left
  | cons first before ih =>
    rcases h with ⟨_, hnext⟩ | ⟨_, hlast, _⟩
    · rw [committed, ← Nat.add_assoc]
      exact ih hnext
    · exact absurd hlast (List.append_ne_nil_of_right_ne_nil _ (List.cons_ne_nil _ _))

/-- An event that has nothing to do with the budget. -/
def Note.Free : Note → Prop
  | .charge _ _ _ | .reserve _ _ => False
  | _ => True

theorem Note.Free.commits {note : Note} (h : note.Free) : note.commits = 0 := by
  cases note with
  | charge => exact h.elim
  | _ => rfl

/-- In front of a run such an event changes nothing. -/
theorem WithinBudget.cons {event : Event} {rest : List Event} (hfree : event.note.Free)
    (h : WithinBudget budget total rest ok) : WithinBudget budget total (event :: rest) ok := by
  refine .inl ⟨?_, ?_⟩
  · cases hnote : event.note with
    | charge =>
      rw [hnote] at hfree
      exact hfree.elim
    | reserve =>
      rw [hnote] at hfree
      exact hfree.elim
    | _ => trivial
  · rw [hfree.commits, Nat.add_zero]
    exact h

end

/-- What is allowed: the events a byte pays for, the deepest nesting, and the values that may be
    charged for. -/
structure Meter where
  rate : Nat
  limit : Nat
  budget : Nat

/-- The events that the meter allows on an input of the given length: not too deep, inside the
    input, and handing out bytes of the input only. -/
def Meter.Allows (M : Meter) (length : Nat) (log : List Event) : Prop :=
  ∀ event ∈ log, event.depth ≤ M.limit ∧ event.off ≤ length ∧
    ∀ stop, event.note = .slice stop → event.off ≤ stop ∧ stop ≤ length

/-- A number of events is paid for: after a success by the bytes consumed and `debt`, which
    may be negative; after a failure by the bytes that were left and `slack`. The reader stays
    inside its input. -/
def Meter.Paid (M : Meter) (c : Cursor) (debt : Int) (slack : Nat) (events : Nat) :
    Except ε (α × Cursor) → Prop
  | .ok (_, c') => c'.data = c.data ∧ c.off ≤ c'.off ∧ c'.off ≤ c.data.length ∧
      (events : Int) ≤ M.rate * ((c'.off : Int) - c.off) + debt
  | .error _ => events ≤ M.rate * (c.data.length - c.off) + slack

/-- The values of a run are within the budget, and the reader has counted those that were
    charged for. -/
def Meter.Accounts (M : Meter) (c : Cursor) (log : List Event) (r : Except ε (α × Cursor)) : Prop :=
  WithinBudget M.budget c.spent log r.isOk ∧ ∀ a c', r = .ok (a, c') →
    c'.spent = c.spent + committed log ∧ c'.spent ≤ M.budget

/-- From every cursor inside the input and the budget the log of the reader is one that the meter
    allows and that is paid for. -/
def Metered (M : Meter) (depth : Nat) (p : Step ε α) (debt : Int) (slack : Nat) : Prop :=
  depth ≤ M.limit → ∀ c : Cursor, c.off ≤ c.data.length → c.spent ≤ M.budget →
    M.Allows c.data.length (p.log depth c) ∧
      M.Paid c debt slack (p.log depth c).length (p c) ∧ M.Accounts c (p.log depth c) (p c)

section
variable {M : Meter} {depth : Nat}

variable {length slack : Nat} {debt : Int} {P : Prop} {q : Step ε α}

theorem Meter.allows_nil : M.Allows length [] := List.forall_mem_nil _

theorem Meter.Allows.append {first rest : List Event} (hfirst : M.Allows length first)
    (hrest : M.Allows length rest) :
    M.Allows length (first ++ rest) := List.forall_mem_append.2 ⟨hfirst, hrest⟩

/-- An event that hands out no bytes. -/
theorem Meter.allows_plain {off : Nat} {note : Note} (hdepth : depth ≤ M.limit)
    (hoff : off ≤ length) (hnote : ∀ stop, note ≠ .slice stop) :
    M.Allows length [⟨depth, off, note⟩] :=
  List.forall_mem_singleton.2 ⟨hdepth, hoff, fun stop h => absurd h (hnote stop)⟩

/-- More events, and as many more that are owed. -/
theorem Meter.Paid.more {c : Cursor} {debt' : Int} {slack' n n' : Nat} {r : Except ε (α × Cursor)}
    (h : M.Paid c debt slack n r) (hdebt : n' + debt ≤ n + debt')
    (hslack : n' + slack ≤ n + slack') : M.Paid c debt' slack' n' r := by
  cases r with
  | error e =>
    have hcount : n ≤ M.rate * (c.data.length - c.off) + slack := h
    show n' ≤ M.rate * (c.data.length - c.off) + slack'
    omega
  | ok x =>
    obtain ⟨hdata, hfrom, hto, hcount⟩ := h
    exact ⟨hdata, hfrom, hto, by omega⟩

/-- Nothing that has to do with the budget happens. -/
theorem Meter.accounts_free {c : Cursor} {log : List Event} {r : Except ε (α × Cursor)}
    (hc : c.spent ≤ M.budget) (hlog : ∀ event ∈ log, event.note.Free)
    (hspent : ∀ a c', r = .ok (a, c') → c'.spent = c.spent) : M.Accounts c log r := by
  have hlog : WithinBudget M.budget c.spent log r.isOk ∧ committed log = 0 := by
    clear hspent
    induction log with
    | nil => exact ⟨trivial, rfl⟩
    | cons event rest ih =>
      obtain ⟨hfree, hrest⟩ := List.forall_mem_cons.1 hlog
      obtain ⟨hwithin, hnone⟩ := ih hrest
      exact ⟨hwithin.cons hfree, by rw [committed, hfree.commits, hnone]⟩
  refine ⟨hlog.1, fun a c' hr => ?_⟩
  have hsame := hspent a c' hr
  exact ⟨by omega, by omega⟩

namespace Metered

theorem mono {debt' : Int} {slack' : Nat} (h : Metered M depth p debt slack)
    (hdebt : debt ≤ debt') (hslack : slack ≤ slack') :
    Metered M depth p debt' slack' := by
  intro hdepth c hc hspent
  obtain ⟨hallows, hpaid, haccounts⟩ := h hdepth c hc hspent
  exact ⟨hallows, hpaid.more (by omega) (by omega), haccounts⟩

/-- A smaller debt and slack, both of them given by numbers. -/
theorem within {debt' : Int} {slack' : Nat} (h : Metered M depth p debt slack)
    (hle : debt ≤ debt' ∧ slack ≤ slack') :
    Metered M depth p debt' slack' := h.mono hle.1 hle.2

theorem pure (a : α) : Metered M depth (Pure.pure a : Step ε α) 0 0 := by
  intro _ c hc hspent
  refine ⟨Meter.allows_nil, ⟨rfl, Nat.le_refl _, hc, ?_⟩,
    Meter.accounts_free hspent (List.forall_mem_nil _) fun _ _ h => by cases h; rfl⟩
  simp [Pure.pure]

theorem throw (e : ε) :
    Metered M depth (MonadExcept.throw e : Step ε α) debt slack :=
  fun _ _ _ hspent => ⟨Meter.allows_nil, Nat.zero_le _,
    Meter.accounts_free hspent (List.forall_mem_nil _) fun _ _ h => by cases h⟩

/-- A step that hands out no bytes and does not move. -/
theorem atom {note : Cursor → Note} {run : Cursor → Except ε (α × Cursor)}
    (hnote : ∀ c stop, note c ≠ .slice stop)
    (hstay : ∀ c a c', run c = .ok (a, c') → c'.data = c.data ∧ c'.off = c.off)
    (hvalues : ∀ c, c.spent ≤ M.budget → M.Accounts c [⟨depth, c.off, note c⟩] (run c)) :
    Metered M depth (.atom note run) 1 1 := by
  intro hdepth c hc hspent
  refine ⟨Meter.allows_plain hdepth hc (hnote c), ?_, hvalues c hspent⟩
  show M.Paid c 1 1 1 (run c)
  cases hp : run c with
  | error e => exact Nat.le_add_left 1 _
  | ok x =>
    obtain ⟨hdata, hoff⟩ := hstay c x.1 x.2 hp
    refine ⟨hdata, Nat.le_of_eq hoff.symm, by omega, ?_⟩
    rw [hoff]
    simp

/-- A step that only looks. -/
theorem watch {note : Cursor → Note} {run : Cursor → Except ε (α × Cursor)}
    (hnote : ∀ c stop, note c ≠ .slice stop) (hfree : ∀ c, (note c).Free)
    (hstay : ∀ c a c', run c = .ok (a, c') → c' = c) : Metered M depth (.atom note run) 1 1 := by
  refine .atom hnote (fun c a c' h => ?_) fun c hspent => ?_
  · rw [hstay c a c' h]
    exact ⟨rfl, rfl⟩
  · exact Meter.accounts_free hspent (List.forall_mem_singleton.2 (hfree c))
      fun a c' h => by rw [hstay c a c' h]

/-- **Sequencing.** The credit of the first program pays for the second one; if the second one
    fails, so must the slack. -/
theorem bind {f : α → Step ε β} {a b : Int} {s t : Nat}
    (hp : Metered M depth p a s) (hf : ∀ x, Metered M depth (f x) b t) :
    Metered M depth (p >>= f) (a + b) (max s (a + t).toNat) := by
  intro hdepth c hc hspent
  obtain ⟨hallows, hpaid, haccounts⟩ := hp hdepth c hc hspent
  have hbind := Step.bind_apply p f c
  cases hpc : p c with
  | error e =>
    rw [hpc] at hpaid hbind haccounts
    have hresult : (p >>= f) c = .error e := hbind
    rw [hresult, Step.log_bind_error hpc]
    refine ⟨hallows, ?_, haccounts.1, fun _ _ h => by cases h⟩
    have hcount : (p.log depth c).length ≤ M.rate * (c.data.length - c.off) + s := hpaid
    show (p.log depth c).length ≤ M.rate * (c.data.length - c.off) + max s (a + t).toNat
    omega
  | ok x =>
    obtain ⟨x, c₁⟩ := x
    rw [hpc] at hpaid hbind haccounts
    have hresult : (p >>= f) c = f x c₁ := hbind
    obtain ⟨hdata, hfrom, hto, hcount⟩ := hpaid
    obtain ⟨hwithin, hends⟩ := haccounts
    obtain ⟨htotal, hspent₁⟩ := hends x c₁ rfl
    obtain ⟨hallows', hpaid', hwithin', hends'⟩ := hf x hdepth c₁ (by rw [hdata]; exact hto) hspent₁
    rw [hdata] at hallows'
    have haccounts : M.Accounts c (p.log depth c ++ (f x).log depth c₁) (f x c₁) := by
      rw [htotal] at hwithin'
      refine ⟨hwithin.append hwithin', fun b c₂ hrun => ?_⟩
      obtain ⟨htotal₂, hspent₂⟩ := hends' b c₂ hrun
      rw [committed_append]
      exact ⟨by omega, hspent₂⟩
    rw [hresult, Step.log_bind_ok hpc]
    refine ⟨hallows.append hallows', ?_, haccounts⟩
    rw [List.length_append]
    cases hfx : f x c₁ with
    | error e =>
      rw [hfx] at hpaid'
      have hcount' : ((f x).log depth c₁).length ≤ M.rate * (c₁.data.length - c₁.off) + t := hpaid'
      rw [hdata] at hcount'
      show (p.log depth c).length + ((f x).log depth c₁).length ≤
        M.rate * (c.data.length - c.off) + max s (a + t).toNat
      -- the bytes left at first are those consumed and those left afterwards
      have hleft : ((c.data.length - c.off : Nat) : Int) =
          ((c₁.off : Int) - c.off) + ((c.data.length - c₁.off : Nat) : Int) := by omega
      have hmul : ((M.rate * (c.data.length - c.off) : Nat) : Int) =
          M.rate * ((c₁.off : Int) - c.off) +
            ((M.rate * (c.data.length - c₁.off) : Nat) : Int) := by
        rw [Int.natCast_mul, Int.natCast_mul, hleft, Int.mul_add]
      omega
    | ok y =>
      rw [hfx] at hpaid'
      obtain ⟨hdata', hfrom', hto', hcount'⟩ := hpaid'
      rw [hdata] at hto'
      refine ⟨hdata'.trans hdata, by omega, hto', ?_⟩
      have hmul : (M.rate : Int) * ((y.2.off : Int) - c.off) =
          M.rate * ((c₁.off : Int) - c.off) + M.rate * ((y.2.off : Int) - c₁.off) := by
        rw [← Int.mul_add]
        congr 1
        omega
      omega

theorem ite [Decidable P] {a b : Int} {s t : Nat} (hp : Metered M depth p a s)
    (hq : Metered M depth q b t) :
    Metered M depth (if P then p else q) (max a b) (max s t) := by
  split
  · exact hp.mono (Int.le_max_left a b) (Nat.le_max_left s t)
  · exact hq.mono (Int.le_max_right a b) (Nat.le_max_right s t)

/-- A check in front of a program. -/
theorem guard [Decidable P] {e : ε} (hq : Metered M depth q debt slack) :
    Metered M depth (if P then MonadExcept.throw e else q) debt slack := by
  split
  · exact .throw e
  · exact hq

/-- A nested call. -/
theorem nested (h : Metered M (depth + 1) p debt slack) (hdepth : depth + 1 ≤ M.limit) :
    Metered M depth (ByteCodec.nested p) (debt + 1) (slack + 1) := by
  intro _ c hc hspent
  obtain ⟨hallows, hpaid, hwithin, hends⟩ := h hdepth c hc hspent
  refine ⟨(Meter.allows_plain hdepth hc (fun _ h => (by cases h))).append hallows, ?_,
    hwithin.cons trivial, fun a c' hrun => ?_⟩
  · show M.Paid c (debt + 1) (slack + 1) ((p.log (depth + 1) c).length + 1) (p c)
    exact hpaid.more (by omega) (by omega)
  · show c'.spent = c.spent + (0 + committed (p.log (depth + 1) c)) ∧ c'.spent ≤ M.budget
    rw [Nat.zero_add]
    exact hends a c' hrun

/-- Another name for the errors. -/
theorem relabel (g : ε → ε') (h : Metered M depth p debt slack) :
    Metered M depth (⟨fun c => (p c).mapError g, p.log⟩ : Step ε' α) debt slack := by
  intro hdepth c hc hspent
  obtain ⟨hallows, hpaid, haccounts⟩ := h hdepth c hc hspent
  refine ⟨hallows, ?_⟩
  show M.Paid c debt slack (p.log depth c).length ((p c).mapError g) ∧
    M.Accounts c (p.log depth c) ((p c).mapError g)
  cases hp : p c with
  | error e =>
    rw [hp] at hpaid haccounts
    exact ⟨hpaid, haccounts.1, fun _ _ h => by cases h⟩
  | ok x =>
    rw [hp] at hpaid haccounts
    exact ⟨hpaid, haccounts.1, fun a c' h => by cases h; exact haccounts.2 a c' rfl⟩

/-- The round of a loop. -/
theorem tick : Metered M depth (ByteCodec.tick : Step ε Unit) 1 1 :=
  .watch (fun _ _ h => by cases h) (fun _ => trivial) fun _ _ _ h => by cases h; rfl

/-- **A loop over a list.** A body that pays for its round pays for the loop. -/
theorem forEach {p : α → Step ε β} (h : ∀ x, Metered M depth (p x) debt slack) (xs : List α)
    (hdebt : debt ≤ -1) :
    Metered M depth (ByteCodec.forEach p xs) 0 slack := by
  induction xs with
  | nil => exact (pure _).mono (Int.le_refl _) (Nat.zero_le _)
  | cons x xs ih =>
    have hround := (h x).bind fun y => tick.bind fun _ => ih.bind fun ys => pure (y :: ys)
    exact hround.mono (by omega) (by omega)

/-- **A loop of an announced length.** -/
theorem repeatRead {p : Step ε β} (h : Metered M depth p debt slack) (n : Nat)
    (hdebt : debt ≤ -1) :
    Metered M depth (ByteCodec.repeatRead p n) 0 slack := by
  induction n with
  | zero => exact (pure _).mono (Int.le_refl _) (Nat.zero_le _)
  | succ n ih =>
    have hround := h.bind fun y => tick.bind fun _ => ih.bind fun ys => pure (y :: ys)
    exact hround.mono (by omega) (by omega)

end Metered

/-! ### Costs from the shape of a reader -/

/-- A metered reader; the debt and the slack are those that its parts add up to. -/
class Costs (M : Meter) (depth : Nat) (p : Step ε α) (debt : outParam Int)
    (slack : outParam Nat) : Prop where
  metered : Metered M depth p debt slack

instance (a : α) : Costs M depth (Pure.pure a : Step ε α) 0 0 := ⟨.pure a⟩

-- a failure owes nothing; its debt is so low that no branch beside it is raised
instance (e : ε) : Costs M depth (MonadExcept.throw e : Step ε α) (-1000) 0 := ⟨.throw e⟩

instance {f : α → Step ε β} {a b : Int} {s t : Nat} [hp : Costs M depth p a s]
    [hf : ∀ x, Costs M depth (f x) b t] :
    Costs M depth (p >>= f) (a + b) (max s (a + t).toNat) :=
  ⟨hp.metered.bind fun x => (hf x).metered⟩

instance [Decidable P] {a b : Int} {s t : Nat} [hp : Costs M depth p a s]
    [hq : Costs M depth q b t] : Costs M depth (if P then p else q) (max a b) (max s t) :=
  ⟨hp.metered.ite hq.metered⟩

/-- The numbers of a reader are rounded up to those that are stated for it. -/
theorem Costs.within {debt' : Int} {slack' : Nat} [h : Costs M depth p debt slack]
    (hle : debt ≤ debt' ∧ slack ≤ slack') : Costs M depth p debt' slack' :=
  ⟨h.metered.mono hle.1 hle.2⟩

theorem Costs.nested [h : Costs M (depth + 1) p debt slack] (hdepth : depth + 1 ≤ M.limit) :
    Costs M depth (ByteCodec.nested p) (debt + 1) (slack + 1) := ⟨h.metered.nested hdepth⟩

theorem Costs.forEach {p : α → Step ε β} [h : ∀ x, Costs M depth (p x) debt slack] (xs : List α)
    (hdebt : debt ≤ -1) : Costs M depth (ByteCodec.forEach p xs) 0 slack :=
  ⟨.forEach (fun x => (h x).metered) xs hdebt⟩

theorem Costs.repeatRead (h : Costs M depth p debt slack) (n : Nat) (hdebt : debt ≤ -1) :
    Costs M depth (ByteCodec.repeatRead p n) 0 slack := ⟨h.metered.repeatRead n hdebt⟩

end

end ByteCodec
