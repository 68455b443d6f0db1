import Mathlib.Algebra.GroupWithZero.Nat
import Mathlib.Data.List.Basic

namespace ByteCodec

open List

/-!
# Cursor readers and bounded sinks

Binary codecs written as programs over an explicit position. A reader walks a
byte string with a `Cursor`, which also counts the work it has been charged for,
and returns a log of the steps it has taken besides its result; a writer appends
to a `Sink`, which either only measures or stores into a region of fixed capacity.

* `Step`, `Emit` — reader and writer programs, failing with an error of any type.
* `Step.atom` — one step of a reader; `tick` — a round of a loop; `nested` — a call of a
  reader from inside a reader. Each of them is an event of the log.
* `Reads limit p bytes cost a` — standing before `bytes`, and with `cost` left
  in the budget, `p` consumes exactly `bytes` and returns `a`.
* `Emits p bytes` — `p` writes exactly `bytes` if they fit, and fails if not.
* `Reads.bind`, `Reads.forEach`, `Emits.bind`, `Emits.forEach` — how they compose.
* `Uncharged p` — `p` does the same whatever has been charged before.
* `Tracks p q` — `q` succeeds wherever `p` does, and stops at the same place, whatever has been
  charged for.
* `Bills p q W` — the same, and `W` says what `p` has been charged for; `Bills.tracks`.
* `Returns p Q` — whatever `p` returns satisfies `Q`.
* `Steady p` — `p` writes the same bytes to every sink or always fails; `Steady.exact` — what
  it measures it fills.
-/

variable {ε α β : Type}

/-! ### Readers -/

/-- A position in a byte string, with the amount of work charged so far. -/
@[ext] structure Cursor where
  data : List UInt8
  off : Nat
  spent : Nat
  deriving DecidableEq, Repr

namespace Cursor

variable (c : Cursor)

/-- The cursor `n` bytes further on, charged `cost` more. -/
def advance (n cost : Nat) : Cursor :=
  { c with off := c.off + n, spent := c.spent + cost }

@[simp] theorem advance_data (n cost : Nat) :
    (c.advance n cost).data = c.data := rfl

@[simp] theorem advance_off (n cost : Nat) :
    (c.advance n cost).off = c.off + n := rfl

@[simp] theorem advance_spent (n cost : Nat) :
    (c.advance n cost).spent = c.spent + cost := rfl

theorem advance_advance (m n a b : Nat) :
    (c.advance m a).advance n b = c.advance (m + n) (a + b) := by
  simp [advance, Nat.add_assoc]

end Cursor

/-- What a reader notes of a step. -/
inductive Note where
  /-- A round of a loop. -/
  | round
  /-- A reader that is called by a reader. -/
  | enter
  /-- The question whether so many bytes are left. -/
  | need (size : Nat)
  /-- A look at the reader itself. -/
  | look
  /-- Bytes that are handed out, from where the reader stands. -/
  | slice (stop : Nat)
  /-- A check of so many values against the budget, and whether they are charged. -/
  | charge (spent count : Nat) (commit : Bool)
  /-- Room that is reserved for so many values, and how much is asked for. -/
  | reserve (count capacity : Nat)
  deriving DecidableEq, Repr

/-- One event of a run: how deep, where the reader stood, and what it did. -/
structure Event where
  depth : Nat
  off : Nat
  note : Note
  deriving DecidableEq, Repr

/-- A program that reads from a cursor and may fail, with the log of its steps. The log is
    that of the run from the cursor at a nesting depth, also of a run that fails. -/
@[ext] structure Step (ε α : Type) where
  run : Cursor → Except ε (α × Cursor)
  log : Nat → Cursor → List Event

instance : CoeFun (Step ε α) fun _ => Cursor → Except ε (α × Cursor) := ⟨Step.run⟩

/-- One step. -/
def Step.atom (note : Cursor → Note) (run : Cursor → Except ε (α × Cursor)) : Step ε α :=
  ⟨run, fun depth c => [⟨depth, c.off, note c⟩]⟩

instance : Monad (Step ε) where
  pure a := ⟨fun c => .ok (a, c), fun _ _ => []⟩
  bind p f := ⟨fun c => (p.run c).bind fun x => (f x.1).run x.2, fun depth c =>
    p.log depth c ++ match p.run c with
      | .ok x => (f x.1).log depth x.2
      | .error _ => []⟩

instance : MonadExcept ε (Step ε) where
  throw e := ⟨fun _ => .error e, fun _ _ => []⟩
  tryCatch p handler := ⟨fun c => tryCatch (p.run c) fun e => (handler e).run c, fun depth c =>
    p.log depth c ++ match p.run c with
      | .ok _ => []
      | .error e => (handler e).log depth c⟩

instance : LawfulMonad (Step ε) := .mk' _
  (fun p => by
    ext1
    · funext c
      show (p.run c).bind _ = _
      cases p.run c <;> rfl
    · funext depth c
      show p.log depth c ++ _ = _
      cases p.run c <;> exact append_nil _)
  (fun _ _ => rfl)
  (fun p f g => by
    ext1
    · funext c
      show ((p.run c).bind _).bind _ = (p.run c).bind _
      cases p.run c <;> rfl
    · funext depth c
      simp only [bind]
      cases p.run c with
      | error e => exact append_nil _
      | ok x => exact append_assoc _ _ _)

/-- The step of a loop into its next round. -/
def tick : Step ε Unit := .atom (fun _ => .round) fun c => .ok ((), c)

/-- A look at the reader. -/
def look : Step ε Cursor := .atom (fun _ => .look) fun c => .ok (c, c)

/-- Reserving room for values; the room is not part of the reader. -/
def reserve (count capacity : Nat) : Step ε Unit :=
  .atom (fun _ => .reserve count capacity) fun c => .ok ((), c)

/-- A reader that is called by a reader: its steps are one level deeper. -/
def nested (p : Step ε α) : Step ε α :=
  ⟨p.run, fun depth c => ⟨depth + 1, c.off, .enter⟩ :: p.log (depth + 1) c⟩

theorem nested_apply (p : Step ε α) (c : Cursor) : nested p c = p c := rfl

theorem map_nested (f : α → β) (p : Step ε α) : f <$> nested p = nested (f <$> p) := rfl

theorem Step.bind_apply (p : Step ε α) (f : α → Step ε β) (c : Cursor) :
    (p >>= f) c = (p c).bind fun x => f x.1 x.2 := rfl

/-- The steps of a sequence are those of its first half and then those of its second half. -/
theorem Step.log_bind_ok {p : Step ε α} {f : α → Step ε β} {depth : Nat} {c c₁ : Cursor} {a : α}
    (h : p c = .ok (a, c₁)) :
    (p >>= f).log depth c = p.log depth c ++ (f a).log depth c₁ := by
  simp only [bind, h]

/-- A first half that fails is all there is. -/
theorem Step.log_bind_error {p : Step ε α} {f : α → Step ε β} {depth : Nat} {c : Cursor} {e : ε}
    (h : p c = .error e) : (p >>= f).log depth c = p.log depth c := by
  simp only [bind, h, append_nil]

variable {f : α → Step ε β} {b : β} {bs cs : List UInt8} {bytes : α → List UInt8} {xs : List α}
  {r p' : Step ε α} {q' : Step ε β}

variable {p : Step ε α} {c c' : Cursor} {a : α} {q : Step ε β} {P : Prop}

/-- **Peeling a reader apart.** A sequence succeeds when both halves do. -/
theorem Step.bind_eq_ok :
    (p >>= f) c = .ok (b, c') ↔ ∃ a c₁, p c = .ok (a, c₁) ∧ f a c₁ = .ok (b, c') := by
  rw [Step.bind_apply]
  cases h : p c with
  | error e => simp [Except.bind]
  | ok x =>
    obtain ⟨a, c₁⟩ := x
    constructor
    · intro hf
      exact ⟨a, c₁, rfl, hf⟩
    · rintro ⟨_, _, hx, hf⟩
      cases hx
      exact hf

theorem Step.pure_eq_ok {b : α} :
    (pure a : Step ε α) c = .ok (b, c') ↔ a = b ∧ c = c' := by
  show Except.ok (a, c) = _ ↔ _
  simp

/-- How long a byte string may be and how much work may be charged for reading it. -/
structure Bounds where
  size : Nat
  budget : Nat

/-- Standing before `bytes`, with `cost` left in the budget, the program consumes
    exactly `bytes`, is charged `cost` and returns `a`. -/
def Reads (limit : Bounds) (p : Step ε α) (bytes : List UInt8) (cost : Nat) (a : α) : Prop :=
  ∀ (c : Cursor) (rest : List UInt8), c.data.length ≤ limit.size →
    c.data.drop c.off = bytes ++ rest → c.spent + cost ≤ limit.budget →
    p c = .ok (a, c.advance bytes.length cost)

section
variable {limit : Bounds}

theorem Reads.tick : Reads limit (ByteCodec.tick : Step ε Unit) [] 0 () := by
  intro c rest _ _ _
  rfl

theorem Reads.nested {n : Nat} (h : Reads limit p bs n a) :
    Reads limit (ByteCodec.nested p) bs n a := h

theorem Reads.pure (a : α) : Reads limit (Pure.pure a : Step ε α) [] 0 a := by
  intro c rest _ _ _
  rfl

/-- What is left to read after a prefix has been consumed. -/
theorem drop_advance {rest : List UInt8} (cost : Nat) (h : c.data.drop c.off = bs ++ rest) :
    (c.advance bs.length cost).data.drop (c.advance bs.length cost).off = rest := by
  rw [Cursor.advance_data, Cursor.advance_off, ← drop_drop, h, drop_left]

/-- Readers compose: the bytes are concatenated and the costs add up. -/
theorem Reads.bind {m n : Nat}
    (hp : Reads limit p bs m a) (hf : Reads limit (f a) cs n b) :
    Reads limit (p >>= f) (bs ++ cs) (m + n) b := by
  intro c rest hsize hdrop hcost
  rw [append_assoc] at hdrop
  have h1 := hp c (cs ++ rest) hsize hdrop (by omega)
  have h2 := hf (c.advance bs.length m) rest hsize (drop_advance m hdrop)
    (by rw [Cursor.advance_spent]; omega)
  rw [Step.bind_eq_ok]
  refine ⟨a, _, h1, ?_⟩
  rw [h2, Cursor.advance_advance, length_append]

variable {n : Nat}

/-- The same for a first step that charges nothing. -/
theorem Reads.bind_free (hp : Reads limit p bs 0 a) (hf : Reads limit (f a) cs n b) :
    Reads limit (p >>= f) (bs ++ cs) n b := by
  have h := hp.bind hf
  rwa [Nat.zero_add] at h

/-- The same for a second step that charges nothing. -/
theorem Reads.bind_last (hp : Reads limit p bs n a) (hf : Reads limit (f a) cs 0 b) :
    Reads limit (p >>= f) (bs ++ cs) n b := hp.bind hf

/-- A second step that reads nothing. -/
theorem Reads.bind_nil (hp : Reads limit p bs n a) (hf : Reads limit (f a) [] 0 b) :
    Reads limit (p >>= f) bs n b := by
  have h : Reads limit (p >>= f) (bs ++ []) (n + 0) b := hp.bind hf
  rwa [append_nil] at h

/-- A first step that reads nothing. -/
theorem Reads.nil_bind (hp : Reads limit p [] 0 a) (hf : Reads limit (f a) bs n b) :
    Reads limit (p >>= f) bs n b := hp.bind_free hf

/-- A last step that only applies a function. -/
theorem Reads.bind_pure (hp : Reads limit p bs n a) (g : α → β) :
    Reads limit (p >>= fun x => Pure.pure (g x)) bs n (g a) := hp.bind_nil (Reads.pure (g a))

end

/-- Running one reader after another, collecting what they return. -/
def forEach (p : α → Step ε β) : List α → Step ε (List β)
  | [] => pure []
  | x :: xs => do
    let y ← p x
    tick
    let ys ← forEach p xs
    pure (y :: ys)

theorem forEach_map {γ : Type} (p : α → Step ε β) (f : γ → α) (xs : List γ) :
    forEach p (xs.map f) = forEach (fun x => p (f x)) xs := by
  induction xs with
  | nil => rfl
  | cons x xs ih => rw [map_cons, forEach, forEach, ih]

/-- Items that are thrown away need not be returned. -/
theorem forEach_discard {γ : Type} (p : α → Step ε β) (xs : List α) (k : Step ε γ) :
    (forEach (fun x => (fun _ => ()) <$> p x) xs >>= fun _ => k) =
      (forEach p xs >>= fun _ => k) := by
  induction xs generalizing k with
  | nil => rfl
  | cons x xs ih => simp only [forEach, bind_assoc, pure_bind, bind_map_left, ih]

/-- Running a reader a fixed number of times. -/
def repeatRead (p : Step ε β) : Nat → Step ε (List β)
  | 0 => pure []
  | n + 1 => do
    let y ← p
    tick
    let ys ← repeatRead p n
    pure (y :: ys)

section
variable {limit : Bounds}

variable {value : α → β}

/-- Reading a list of items, each from its own bytes. -/
theorem Reads.forEach {p : α → Step ε β} {cost : α → Nat}
    (h : ∀ x ∈ xs, Reads limit (p x) (bytes x) (cost x) (value x)) :
    Reads limit (ByteCodec.forEach p xs) (xs.flatMap bytes) (xs.map cost).sum (xs.map value) := by
  induction xs with
  | nil => exact Reads.pure _
  | cons x xs ih =>
    have hx := h x mem_cons_self
    have hxs := ih fun y hy => h y (mem_cons_of_mem x hy)
    exact hx.bind (Reads.tick.bind_free (hxs.bind_pure _))

/-- The same when nothing is charged. -/
theorem Reads.forEach_free {p : α → Step ε β}
    (h : ∀ x ∈ xs, Reads limit (p x) (bytes x) 0 (value x)) :
    Reads limit (ByteCodec.forEach p xs) (xs.flatMap bytes) 0 (xs.map value) := by
  have hall := Reads.forEach h
  rwa [map_const', sum_replicate_nat, Nat.mul_zero] at hall

/-- Reading as many items as a list has, each from its own bytes. -/
theorem Reads.repeatRead {p : Step ε β} (h : ∀ x ∈ xs, Reads limit p (bytes x) 0 (value x)) :
    Reads limit (ByteCodec.repeatRead p xs.length) (xs.flatMap bytes) 0 (xs.map value) := by
  induction xs with
  | nil => exact Reads.pure _
  | cons x xs ih =>
    have hx := h x mem_cons_self
    have hxs := ih fun y hy => h y (mem_cons_of_mem x hy)
    exact hx.bind_free (Reads.tick.bind_free (hxs.bind_pure _))

end

/-! ### Readers that are not charged -/

namespace Cursor

variable (c : Cursor)

/-- The cursor with the charge replaced. -/
def charged (spent : Nat) : Cursor := { c with spent := spent }

@[simp] theorem charged_data (s : Nat) : (c.charged s).data = c.data := rfl

@[simp] theorem charged_off (s : Nat) : (c.charged s).off = c.off := rfl

@[simp] theorem charged_spent (s : Nat) : (c.charged s).spent = s := rfl

@[simp] theorem charged_charged (s t : Nat) :
    (c.charged s).charged t = c.charged t := rfl

@[simp] theorem charged_self : c.charged c.spent = c := rfl

end Cursor

/-- A reader that keeps to its byte string and neither looks at the charge nor
    changes it. -/
class Uncharged (p : Step ε α) : Prop where
  charged : ∀ c s, p (c.charged s) = (p c).map fun x => (x.1, x.2.charged s)
  data : ∀ c a c', p c = .ok (a, c') → c'.data = c.data

section
variable {p : Step ε α} {c c' : Cursor} {a : α}

/-- An uncharged reader does the same under any charge. -/
theorem Uncharged.run [hp : Uncharged p] (s : Nat) (h : p c = .ok (a, c')) :
    p (c.charged s) = .ok (a, c'.charged s) := by
  rw [hp.charged, h]
  rfl

theorem Uncharged.spent [hp : Uncharged p] (h : p c = .ok (a, c')) : c'.spent = c.spent := by
  have hrun := hp.run c.spent h
  rw [Cursor.charged_self, h] at hrun
  injection hrun with hpair
  have hcursor : c' = c'.charged c.spent := congrArg Prod.snd hpair
  rw [hcursor, Cursor.charged_spent]

/-- Where an uncharged reader stops is given by the offset alone. -/
theorem Uncharged.stop [hp : Uncharged p] (h : p c = .ok (a, c')) :
    c' = ⟨c.data, c'.off, c.spent⟩ := by
  ext1
  · exact hp.data c a c' h
  · rfl
  · show c'.spent = c.spent
    exact hp.spent h

end

instance (a : α) : Uncharged (pure a : Step ε α) where
  charged _ _ := rfl
  data c b c' h := by rw [(Step.pure_eq_ok.1 h).2]

instance (e : ε) : Uncharged (throw e : Step ε α) where
  charged _ _ := rfl
  data c b c' h := by cases h

instance (p : Step ε α) (f : α → Step ε β) [hp : Uncharged p] [hf : ∀ a, Uncharged (f a)] :
    Uncharged (p >>= f) where
  charged c s := by
    rw [Step.bind_apply, Step.bind_apply, hp.charged]
    cases p c with
    | error e => rfl
    | ok x => exact (hf x.1).charged x.2 s
  data c b c' h := by
    obtain ⟨a, c₁, h₁, h₂⟩ := Step.bind_eq_ok.1 h
    rw [(hf a).data c₁ b c' h₂, hp.data c a c₁ h₁]

instance : Uncharged (tick : Step ε Unit) where
  charged _ _ := rfl
  data c b c' h := by cases h; rfl

instance (p : Step ε α) [hp : Uncharged p] : Uncharged (nested p) := ⟨hp.charged, hp.data⟩

instance (P : Prop) [Decidable P] (p q : Step ε α) [hp : Uncharged p] [hq : Uncharged q] :
    Uncharged (if P then p else q) := by
  split
  · exact hp
  · exact hq

instance (P : Prop) [Decidable P] (p : P → Step ε α) (q : ¬P → Step ε α)
    [hp : ∀ h, Uncharged (p h)] [hq : ∀ h, Uncharged (q h)] : Uncharged (dite P p q) := by
  split
  · exact hp _
  · exact hq _

instance (p : α → Step ε β) [hp : ∀ a, Uncharged (p a)] (xs : List α) :
    Uncharged (forEach p xs) := by
  induction xs with
  | nil => exact inferInstanceAs (Uncharged (pure []))
  | cons x xs ih =>
    rw [forEach]
    infer_instance

instance (p : Step ε β) [hp : Uncharged p] (n : Nat) : Uncharged (repeatRead p n) := by
  induction n with
  | zero => exact inferInstanceAs (Uncharged (pure []))
  | succ n ih =>
    rw [repeatRead]
    infer_instance

/-- Looking at the bytes ahead. -/
theorem Uncharged.of_look (f : Cursor → α) (hf : ∀ c s, f (c.charged s) = f c) :
    Uncharged (do let c ← look; pure (f c) : Step ε α) where
  charged c s := by
    show Except.ok (f (c.charged s), c.charged s) = _
    rw [hf]
    rfl
  data c a c' h := by
    obtain ⟨c₁, c₂, hget, hpure⟩ := Step.bind_eq_ok.1 h
    cases hget
    rw [(Step.pure_eq_ok.1 hpure).2]

/-! ### Readers that agree -/

/-- Wherever `p` succeeds, `q` succeeds too and stops at the same offset, whatever `q`
    has been charged before. -/
def Tracks (p : Step ε α) (q : Step ε β) : Prop :=
  ∀ c a c' s, p c = .ok (a, c') → ∃ b, q (c.charged s) = .ok (b, c'.charged s)

/-- What tracks a reader consumes what it consumes, without the charge. -/
theorem Tracks.reads {q : Step ε Unit} {limit : Bounds} {cost : Nat} (h : Tracks p q)
    (hp : Reads limit p bs cost a) (hcost : cost ≤ limit.budget) : Reads limit q bs 0 () := by
  intro c rest hsize hdrop _
  have hrun := hp (c.charged 0) rest hsize hdrop (by simpa using hcost)
  obtain ⟨_, hq⟩ := h _ _ _ c.spent hrun
  exact hq

/-- A step that moves nothing, whatever it charges. -/
def Stays (p : Step ε α) : Prop := ∀ c a c', p c = .ok (a, c') → ∃ s, c' = c.charged s

theorem Stays.pure (a : α) : Stays (Pure.pure a : Step ε α) := by
  intro c b c' h
  obtain ⟨_, rfl⟩ := Step.pure_eq_ok.1 h
  exact ⟨c.spent, rfl⟩

theorem Stays.throw (e : ε) : Stays (MonadExcept.throw e : Step ε α) := fun _ _ _ h => by cases h

theorem Stays.ite [Decidable P] {q : Step ε α} (hp : Stays p) (hq : Stays q) :
    Stays (if P then p else q) := by
  split
  · exact hp
  · exact hq

/-- A program that reads nothing and is not charged leaves the cursor alone. -/
theorem Stays.still [Uncharged p] (hp : Stays p) (h : p c = .ok (a, c')) : c' = c := by
  obtain ⟨s, rfl⟩ := hp c a c' h
  have hspent : s = c.spent := Uncharged.spent h
  rw [hspent]
  rfl

/-! ### What readers are charged for -/

/-- Wherever `p` succeeds, `q` succeeds too and stops at the same offset, and `W` relates what
    `q` returns to what `p` has been charged for. -/
def Bills (p : Step ε α) (q : Step ε β) (W : β → Nat → Prop) : Prop :=
  ∀ c a c' s, p c = .ok (a, c') → ∃ b n, q (c.charged s) = .ok (b, c'.charged s) ∧
    c'.spent = c.spent + n ∧ W b n

section
variable {γ δ : Type} {f : α → Step ε γ} {W : β → Nat → Prop}

namespace Bills

theorem throw (e : ε) (q : Step ε β) : Bills (MonadExcept.throw e : Step ε α) q W :=
  fun _ _ _ _ h => by cases h

theorem pure (a : α) (h : W b 0) :
    Bills (Pure.pure a : Step ε α) (Pure.pure b) W := by
  intro c x c' s hp
  obtain ⟨_, rfl⟩ := Step.pure_eq_ok.1 hp
  exact ⟨b, 0, rfl, rfl, h⟩

theorem mono {W' : β → Nat → Prop} (h : Bills p q W) (hW : ∀ b n, W b n → W' b n) :
    Bills p q W' := by
  intro c a c' s hp
  obtain ⟨b, n, hq, hspent, hb⟩ := h c a c' s hp
  exact ⟨b, n, hq, hspent, hW b n hb⟩

theorem bind {g : β → Step ε δ}
    {V : δ → Nat → Prop} (hp : Bills p q W)
    (hf : ∀ a b n, W b n → Bills (f a) (g b) fun y m => V y (n + m)) :
    Bills (p >>= f) (q >>= g) V := by
  intro c x c' s h
  obtain ⟨a, c₁, h₁, h₂⟩ := Step.bind_eq_ok.1 h
  obtain ⟨b, n, hq, hspent, hb⟩ := hp c a c₁ s h₁
  obtain ⟨y, m, hg, hspent', hy⟩ := hf a b n hb c₁ x c' s h₂
  exact ⟨y, n + m, Step.bind_eq_ok.2 ⟨b, c₁.charged s, hq, hg⟩, by omega, hy⟩

/-- A common first step that is not charged for. -/
theorem bind_same [hr : Uncharged r] {g : α → Step ε β}
    (hf : ∀ a, Bills (f a) (g a) W) : Bills (r >>= f) (r >>= g) W := by
  intro c x c' s h
  obtain ⟨a, c₁, h₁, h₂⟩ := Step.bind_eq_ok.1 h
  obtain ⟨y, n, hg, hspent, hy⟩ := hf a c₁ x c' s h₂
  have hfree := Uncharged.spent h₁
  exact ⟨y, n, Step.bind_eq_ok.2 ⟨a, c₁.charged s, hr.run s h₁, hg⟩, by omega, hy⟩

/-- A first step of the first reader that reads nothing and is charged `k`. -/
theorem charge_bind {k : Nat}
    (hr : ∀ c a c', r c = .ok (a, c') → c' = c.charged (c.spent + k))
    (hf : ∀ a, Bills (f a) q fun b n => W b (k + n)) : Bills (r >>= f) q W := by
  intro c x c' s h
  obtain ⟨a, c₁, h₁, h₂⟩ := Step.bind_eq_ok.1 h
  have hc₁ := hr c a c₁ h₁
  subst hc₁
  obtain ⟨b, n, hq, hspent, hb⟩ := hf a _ x c' s h₂
  refine ⟨b, k + n, hq, ?_, hb⟩
  rw [hspent, Cursor.charged_spent, Nat.add_assoc]

/-- Two calls of readers. -/
theorem nested (h : Bills p q W) : Bills (ByteCodec.nested p) (ByteCodec.nested q) W := h

/-- A last step of the first reader that does nothing to the cursor. -/
theorem bind_still (h : Bills p q W)
    (hf : ∀ a c b c', f a c = .ok (b, c') → c' = c) : Bills (p >>= f) q W := by
  intro c x c' s hp
  obtain ⟨a, c₁, h₁, h₂⟩ := Step.bind_eq_ok.1 hp
  have hc := hf a c₁ x c' h₂
  subst hc
  exact h c a _ s h₁

/-- A last step of the second reader that only computes. -/
theorem pure_right {g : β → γ} {V : γ → Nat → Prop} (h : Bills p q W)
    (hV : ∀ b n, W b n → V (g b) n) :
    Bills p (do let b ← q; Pure.pure (g b)) V := by
  intro c a c' s hp
  obtain ⟨b, n, hq, hspent, hb⟩ := h c a c' s hp
  exact ⟨g b, n, Step.bind_eq_ok.2 ⟨b, c'.charged s, hq, rfl⟩, hspent, hV b n hb⟩

theorem ite [Decidable P] (h : P → Bills p q W) (h' : ¬P → Bills p' q' W) :
    Bills (if P then p else p') (if P then q else q') W := by
  by_cases hP : P
  · rw [if_pos hP, if_pos hP]
    exact h hP
  · rw [if_neg hP, if_neg hP]
    exact h' hP

/-- A check that only the first reader makes. -/
theorem guard [Decidable P] {e : ε} (h : ¬P → Bills p q W) :
    Bills (if P then MonadExcept.throw e else p) q W := by
  by_cases hP : P
  · rw [if_pos hP]
    exact .throw e q
  · rw [if_neg hP]
    exact h hP

/-- A list of items costs what its items cost together. -/
theorem forEach {p : α → Step ε γ} {q : α → Step ε β} {cost : β → Nat}
    (h : ∀ x, Bills (p x) (q x) fun b n => n = cost b) (xs : List α) :
    Bills (ByteCodec.forEach p xs) (ByteCodec.forEach q xs) fun bs n => n = (bs.map cost).sum := by
  induction xs with
  | nil => exact .pure _ rfl
  | cons x xs ih =>
    refine (h x).bind fun _ b n hb => ih.bind fun _ bs m hbs => .pure _ ?_
    rw [map_cons, sum_cons, hb, hbs, Nat.add_zero]

/-- What the second reader returns may be thrown away. -/
theorem tracks (h : Bills p q W) : Tracks p ((fun _ => ()) <$> q) := by
  intro c a c' s hp
  obtain ⟨b, n, hq, -⟩ := h c a c' s hp
  rw [map_eq_pure_bind]
  exact ⟨(), Step.bind_eq_ok.2 ⟨b, _, hq, rfl⟩⟩

end Bills

end

/-! ### What readers return -/

/-- Whatever the reader returns, if it succeeds, satisfies `Q`. -/
def Returns (p : Step ε α) (Q : α → Prop) : Prop := ∀ c a c', p c = .ok (a, c') → Q a

section
variable {P Q : α → Prop} {R : β → Prop}

namespace Returns

theorem any (p : Step ε α) : Returns p fun _ => True := fun _ _ _ _ => trivial

theorem pure (h : Q a) : Returns (Pure.pure a : Step ε α) Q := by
  intro c b c' hb
  obtain ⟨rfl, _⟩ := Step.pure_eq_ok.1 hb
  exact h

theorem throw (e : ε) : Returns (MonadExcept.throw e : Step ε α) Q :=
  fun _ _ _ h => by cases h

theorem bind (hp : Returns p P)
    (hf : ∀ a, P a → Returns (f a) R) : Returns (p >>= f) R := by
  intro c b c' h
  obtain ⟨a, c₁, h₁, h₂⟩ := Step.bind_eq_ok.1 h
  exact hf a (hp c a c₁ h₁) c₁ b c' h₂

/-- A first step about whose result nothing has to be known. -/
theorem after (hf : ∀ a, Returns (f a) R) :
    Returns (p >>= f) R := (any p).bind fun a _ => hf a

theorem ite {C : Prop} [Decidable C] {q : Step ε α} (hp : C → Returns p Q)
    (hq : ¬C → Returns q Q) : Returns (if C then p else q) Q := by
  by_cases hC : C
  · rw [if_pos hC]
    exact hp hC
  · rw [if_neg hC]
    exact hq hC

/-- A check that refuses. -/
theorem guard {C : Prop} [Decidable C] {e : ε} (hp : ¬C → Returns p Q) :
    Returns (if C then MonadExcept.throw e else p) Q :=
  ite (fun _ => throw e) hp

/-- A list of items read one after another. -/
theorem repeatRead (h : Returns p Q) (n : Nat) :
    Returns (ByteCodec.repeatRead p n) fun xs => xs.length = n ∧ ∀ x ∈ xs, Q x := by
  induction n with
  | zero => exact pure ⟨rfl, forall_mem_nil _⟩
  | succ n ih =>
    refine h.bind fun x hx => ih.bind fun xs hxs => pure ⟨by simp [hxs.1], ?_⟩
    intro y hy
    rcases mem_cons.1 hy with rfl | hy
    · exact hx
    · exact hxs.2 y hy

end Returns

end

/-! ### Writers -/

/-- Where a writer puts its bytes. A measuring sink only counts; a storing sink
    has a fixed capacity and keeps what it was given. -/
structure Sink where
  storing : Bool
  capacity : Nat
  position : Nat
  data : List UInt8
  deriving DecidableEq, Repr

/-- A program that writes to a sink and may fail. -/
abbrev Emit (ε α : Type) := StateT Sink (Except ε) α

/-- Whether `n` more bytes fit below `maxSize` and, when storing, in the region. -/
def Sink.Fits (maxSize : Nat) (s : Sink) (n : Nat) : Prop :=
  s.position + n ≤ maxSize ∧ (s.storing = true → s.position + n ≤ s.capacity)

/-- The sink after `bs` has been written. -/
def Sink.put (s : Sink) (bs : List UInt8) : Sink :=
  { s with
    position := s.position + bs.length
    data := if s.storing then s.data ++ bs else s.data }

@[simp] theorem Sink.put_nil (s : Sink) : s.put [] = s := by
  simp [Sink.put]

theorem Sink.put_append (s : Sink) (bs cs : List UInt8) :
    s.put (bs ++ cs) = (s.put bs).put cs := by
  cases hs : s.storing <;> simp [Sink.put, hs, Nat.add_assoc]

section
variable {maxSize : Nat}

theorem Sink.fits_append {s : Sink} :
    s.Fits maxSize (bs ++ cs).length ↔
      s.Fits maxSize bs.length ∧ (s.put bs).Fits maxSize cs.length := by
  simp only [Sink.Fits, Sink.put, length_append]
  constructor
  · intro ⟨h1, h2⟩
    refine ⟨⟨by omega, fun hs => ?_⟩, by omega, fun hs => ?_⟩ <;>
    · have := h2 hs
      omega
  · intro ⟨_, h1, h2⟩
    refine ⟨by omega, fun hs => ?_⟩
    have := h2 hs
    omega

/-- After a write that fitted there is still room for nothing. -/
theorem Sink.fits_put {s : Sink} (h : s.Fits maxSize bs.length) :
    (s.put bs).Fits maxSize 0 := by
  have h' : s.Fits maxSize (bs ++ []).length := by rwa [append_nil]
  exact (Sink.fits_append.1 h').2

/-- The program writes exactly `bytes`, or fails because they do not fit. -/
def Emits (maxSize : Nat) (p : Emit ε Unit) (bytes : List UInt8) : Prop :=
  ∀ s : Sink, s.Fits maxSize 0 →
    (s.Fits maxSize bytes.length → p s = .ok ((), s.put bytes)) ∧
    (¬s.Fits maxSize bytes.length → ∃ e, p s = .error e)

theorem Emits.pure : Emits maxSize (Pure.pure () : Emit ε Unit) [] := by
  intro s hs
  refine ⟨fun _ => ?_, fun h => absurd hs h⟩
  rw [Sink.put_nil]
  rfl

/-- Writers compose by concatenation. -/
theorem Emits.bind {p q : Emit ε Unit} (hp : Emits maxSize p bs)
    (hq : Emits maxSize q cs) : Emits maxSize (p >>= fun _ => q) (bs ++ cs) := by
  intro s hs
  have hbind : (p >>= fun _ => q) s = (p s).bind fun x => q x.2 := rfl
  refine ⟨fun hfit => ?_, fun hfit => ?_⟩
  · obtain ⟨h1, h2⟩ := Sink.fits_append.1 hfit
    rw [hbind, (hp s hs).1 h1, Sink.put_append]
    exact (hq (s.put bs) (Sink.fits_put h1)).1 h2
  · -- If the whole does not fit, either the first part or the second one fails.
    by_cases h1 : s.Fits maxSize bs.length
    · have h2 : ¬(s.put bs).Fits maxSize cs.length := fun h => hfit (Sink.fits_append.2 ⟨h1, h⟩)
      rw [hbind, (hp s hs).1 h1]
      exact (hq (s.put bs) (Sink.fits_put h1)).2 h2
    · obtain ⟨e, he⟩ := (hp s hs).2 h1
      exact ⟨e, by rw [hbind, he]; rfl⟩

end

/-- Writing the items of a list one after another. -/
def emitEach (p : α → Emit ε Unit) : List α → Emit ε Unit
  | [] => pure ()
  | x :: xs => do
    p x
    emitEach p xs

theorem emitEach_map {γ : Type} (p : α → Emit ε Unit) (f : γ → α) (xs : List γ) :
    emitEach p (xs.map f) = emitEach (fun x => p (f x)) xs := by
  induction xs with
  | nil => rfl
  | cons x xs ih => rw [map_cons, emitEach, emitEach, ih]

theorem Emits.emitEach {maxSize : Nat} {p : α → Emit ε Unit}
    (h : ∀ x ∈ xs, Emits maxSize (p x) (bytes x)) :
    Emits maxSize (ByteCodec.emitEach p xs) (xs.flatMap bytes) := by
  induction xs with
  | nil => exact Emits.pure
  | cons x xs ih =>
    exact (h x mem_cons_self).bind (ih fun y hy => h y (mem_cons_of_mem x hy))

/-! ### Writers that do the same every time -/

/-- The program writes the same bytes to every sink, or it fails on every sink. -/
class Steady (maxSize : Nat) (p : Emit ε Unit) : Prop where
  steady : (∃ bytes, Emits maxSize p bytes) ∨ ∀ s : Sink, s.Fits maxSize 0 → ∃ e, p s = .error e

section
variable {maxSize : Nat} {p q : Emit ε Unit}

theorem Emits.steady {bytes : List UInt8} (h : Emits maxSize p bytes) : Steady maxSize p :=
  ⟨.inl ⟨bytes, h⟩⟩

instance : Steady maxSize (Pure.pure () : Emit ε Unit) := Emits.pure.steady

instance (e : ε) : Steady maxSize (throw e : Emit ε Unit) := ⟨.inr fun _ _ => ⟨e, rfl⟩⟩

theorem Steady.bind (hp : Steady maxSize p) (hq : Steady maxSize q) :
    Steady maxSize (p >>= fun _ => q) := by
  rcases hp.steady with ⟨bs, hbs⟩ | hfails
  · rcases hq.steady with ⟨cs, hcs⟩ | hfails
    · exact (hbs.bind hcs).steady
    · refine ⟨.inr fun s hs => ?_⟩
      have hbind : (p >>= fun _ => q) s = (p s).bind fun x => q x.2 := rfl
      by_cases hfit : s.Fits maxSize bs.length
      · rw [hbind, (hbs s hs).1 hfit]
        exact hfails _ (Sink.fits_put hfit)
      · obtain ⟨e, he⟩ := (hbs s hs).2 hfit
        exact ⟨e, by rw [hbind, he]; rfl⟩
  · refine ⟨.inr fun s hs => ?_⟩
    obtain ⟨e, he⟩ := hfails s hs
    have hbind : (p >>= fun _ => q) s = (p s).bind fun x => q x.2 := rfl
    exact ⟨e, by rw [hbind, he]; rfl⟩

instance [hp : Steady maxSize p] [hq : Steady maxSize q] : Steady maxSize (p >>= fun _ => q) :=
  hp.bind hq

instance {P : Prop} [Decidable P] [hp : Steady maxSize p] [hq : Steady maxSize q] :
    Steady maxSize (if P then p else q) := by
  split
  · exact hp
  · exact hq

theorem Steady.emitEach {p : α → Emit ε Unit} (h : ∀ x, Steady maxSize (p x)) (xs : List α) :
    Steady maxSize (ByteCodec.emitEach p xs) := by
  induction xs with
  | nil => exact Emits.pure.steady
  | cons x xs ih => exact (h x).bind ih

instance {p : α → Emit ε Unit} [h : ∀ x, Steady maxSize (p x)] (xs : List α) :
    Steady maxSize (emitEach p xs) := Steady.emitEach h xs

/-- **Measuring, then storing.** If a steady program measures `n` bytes from the start, it
    fills a region of `n` bytes exactly. -/
theorem Steady.exact [hp : Steady maxSize p] {measured : Sink}
    (h : p ⟨false, 0, 0, []⟩ = .ok ((), measured)) :
    ∃ bytes : List UInt8, bytes.length = measured.position ∧
      p ⟨true, measured.position, 0, []⟩ =
        .ok ((), ⟨true, measured.position, measured.position, bytes⟩) := by
  have hempty : (⟨false, 0, 0, []⟩ : Sink).Fits maxSize 0 :=
    ⟨Nat.zero_le _, fun hstoring => by cases hstoring⟩
  rcases hp.steady with ⟨bytes, hbytes⟩ | hfails
  · by_cases hfit : (⟨false, 0, 0, []⟩ : Sink).Fits maxSize bytes.length
    · rw [(hbytes _ hempty).1 hfit] at h
      cases h
      have hmax : bytes.length ≤ maxSize := by simpa using hfit.1
      refine ⟨bytes, by simp [Sink.put], ?_⟩
      simp only [Sink.put, Nat.zero_add]
      have hroom : (⟨true, bytes.length, 0, []⟩ : Sink).Fits maxSize bytes.length := by
        simpa [Sink.Fits] using hmax
      have hstart : (⟨true, bytes.length, 0, []⟩ : Sink).Fits maxSize 0 := by
        simp [Sink.Fits]
      rw [(hbytes _ hstart).1 hroom]
      simp [Sink.put]
    · obtain ⟨e, he⟩ := (hbytes _ hempty).2 hfit
      rw [he] at h
      cases h
  · obtain ⟨e, he⟩ := hfails _ hempty
    rw [he] at h
    cases h

end

end ByteCodec
