import Mathlib.Algebra.GroupWithZero.Nat
import Mathlib.Data.List.Nodup

namespace Ledger

open List

/-!
# Ledgers of references, of exclusive slots and of tokens

Books that a concurrent program keeps. Objects with reference counts live at addresses: an
object is listed in a table or owned by one party, and it is retired once, when nobody refers
to it any more. Slots are busy or free, and a busy slot has one holder. Tokens stand for what
the parties are entitled to; they are counted over all parties and move from one to another.

* `Lifetimes` — the book of references; `Lifetimes.acquire`, `Lifetimes.release`,
  `Lifetimes.move`, `Lifetimes.add`, `Lifetimes.retire` — its entries.
* `Exclusive` — the book of slots; `Exclusive.take`, `Exclusive.grow`, `Exclusive.free` — its
  entries.
* `held` — how often the parties hold a token; `held_set`, `held_concat` — one party changes,
  or a new one comes.

The first two only depend on the books up to the order of their lines.
-/

/-! ### Lists of parties -/

/-- An entry of a list that changes in one place. -/
theorem getElem?_set_cases {α : Type} {l : List α} {i j : Nat} {x y : α}
    (h : (l.set i x)[j]? = some y) : j = i ∧ y = x ∨ j ≠ i ∧ l[j]? = some y := by
  grind

/-- An entry of a list that grows by one. -/
theorem getElem?_concat_cases {α : Type} {l : List α} {j : Nat} {x y : α}
    (h : (l ++ [x])[j]? = some y) : j = l.length ∧ y = x ∨ j ≠ l.length ∧ l[j]? = some y := by
  grind

/-! ### References -/

/-- The marks of the objects, by address, are their reference counts and how often they have
    been retired. The counts are those of the references there are, no object is listed or
    owned twice, what is listed, owned or referred to is not retired, and what is not retired is
    listed or owned. -/
structure Lifetimes (marks : List (Nat × Nat)) (listed refs owned : List Nat) : Prop where
  refcount : ∀ addr m, marks[addr]? = some m → m.1 = refs.count addr
  live : (listed ++ owned).Nodup
  untorn : ∀ addr, addr ∈ listed ++ owned ∨ addr ∈ refs → ∃ m, marks[addr]? = some m ∧ m.2 = 0
  once : ∀ m ∈ marks, m.2 ≤ 1
  kept : ∀ addr m, marks[addr]? = some m → m.2 = 0 → addr ∈ listed ++ owned

section
variable {marks : List (Nat × Nat)} {listed listed' refs refs' owned owned' : List Nat} {addr : Nat}

theorem Lifetimes.empty : Lifetimes [] [] [] [] where
  refcount := nofun
  live := nodup_nil
  untorn := by simp
  once := by simp
  kept := nofun

/-- References in another order, and objects that move between the table and the owners. -/
theorem Lifetimes.move (h : Lifetimes marks listed refs owned) (hrefs : refs'.Perm refs)
    (hlive : (listed' ++ owned').Perm (listed ++ owned)) :
    Lifetimes marks listed' refs' owned' where
  refcount addr m hm := by rw [hrefs.count_eq]; exact h.refcount addr m hm
  live := hlive.nodup_iff.2 h.live
  untorn addr haddr := h.untorn addr (haddr.imp hlive.mem_iff.1 hrefs.mem_iff.1)
  once := h.once
  kept addr m hm htorn := hlive.mem_iff.2 (h.kept addr m hm htorn)

/-- Marks that change at one address. -/
theorem getElem?_modify_marks {f : Nat × Nat → Nat × Nat} {a : Nat} {m : Nat × Nat}
    (hm : (marks.modify addr f)[a]? = some m) :
    ∃ m', marks[a]? = some m' ∧ m = if addr = a then f m' else m' := by
  rw [getElem?_modify] at hm
  obtain ⟨m', hm', rfl⟩ := Option.map_eq_some_iff.1 hm
  refine ⟨m', hm', ?_⟩
  split <;> rfl

/-- The count of one object changes with the references to it. -/
theorem Lifetimes.recount (h : Lifetimes marks listed refs owned) {f : Nat → Nat}
    (hcount : ∀ a, refs'.count a = if addr = a then f (refs.count a) else refs.count a)
    (hmem : ∀ a ∈ refs', a ∈ listed ++ owned ∨ a ∈ refs) :
    Lifetimes (marks.modify addr fun m => (f m.1, m.2)) listed refs' owned where
  refcount a m hm := by
    obtain ⟨m', hm', rfl⟩ := getElem?_modify_marks hm
    rw [hcount, ← h.refcount a m' hm']
    split <;> rfl
  live := h.live
  untorn a ha := by
    obtain ⟨m, hm, htorn⟩ := h.untorn a (ha.elim .inl (hmem a))
    refine ⟨if addr = a then (f m.1, m.2) else m, ?_, by split <;> exact htorn⟩
    rw [getElem?_modify, hm]
    split <;> rfl
  once m hm := by
    obtain ⟨a, ha⟩ := mem_iff_getElem?.1 hm
    obtain ⟨m', hm', rfl⟩ := getElem?_modify_marks ha
    have := h.once m' (mem_of_getElem? hm')
    split <;> exact this
  kept a m hm htorn := by
    obtain ⟨m', hm', rfl⟩ := getElem?_modify_marks hm
    refine h.kept a m' hm' ?_
    split at htorn <;> exact htorn

/-- A listed object is referred to once more. -/
theorem Lifetimes.acquire (h : Lifetimes marks listed refs owned) (haddr : addr ∈ listed) :
    Lifetimes (marks.modify addr fun m => (m.1 + 1, m.2)) listed (addr :: refs) owned := by
  refine h.recount (fun a => ?_) fun a ha => ?_
  · by_cases ha : addr = a <;> simp [ha]
  · rcases List.mem_cons.1 ha with rfl | ha
    · exact .inl (mem_append_left _ haddr)
    · exact .inr ha

/-- A reference is given back. -/
theorem Lifetimes.release (h : Lifetimes marks listed (addr :: refs) owned) :
    Lifetimes (marks.modify addr fun m => (m.1 - 1, m.2)) listed refs owned := by
  refine h.recount (f := (· - 1)) (fun a => ?_) fun a ha => .inr (mem_cons_of_mem _ ha)
  by_cases ha : addr = a <;> simp [ha]

/-- A new object is listed. -/
theorem Lifetimes.add (h : Lifetimes marks listed refs owned) :
    Lifetimes (marks ++ [(0, 0)]) (listed ++ [marks.length]) refs owned := by
  have hlt : ∀ a, a ∈ listed ++ owned ∨ a ∈ refs → a < marks.length := by
    intro a ha
    obtain ⟨m, hm, _⟩ := h.untorn a ha
    exact (List.getElem?_eq_some_iff.1 hm).1
  have hperm : (listed ++ [marks.length] ++ owned).Perm (marks.length :: (listed ++ owned)) := by
    rw [append_assoc, singleton_append]
    exact perm_middle
  exact {
    refcount := by
      intro a m hm
      rcases Nat.lt_or_ge a marks.length with ha | ha
      · rw [getElem?_append_left ha] at hm
        exact h.refcount a m hm
      · -- nobody can refer to the new object
        have hnot : a ∉ refs := fun hmem => Nat.not_lt.2 ha (hlt a (.inr hmem))
        rw [getElem?_append_right ha] at hm
        obtain ⟨_, hm⟩ := List.getElem?_eq_some_iff.1 hm
        rw [List.count_eq_zero.2 hnot, ← hm]
        simp
    live := by
      rw [hperm.nodup_iff, List.nodup_cons]
      exact ⟨fun hmem => Nat.lt_irrefl _ (hlt _ (.inl hmem)), h.live⟩
    untorn := by
      intro a ha
      by_cases hnew : a = marks.length
      · subst hnew
        exact ⟨(0, 0), getElem?_concat_length, rfl⟩
      · have hold : a ∈ listed ++ owned ∨ a ∈ refs :=
          ha.imp_left fun hmem => (List.mem_cons.1 (hperm.mem_iff.1 hmem)).resolve_left hnew
        obtain ⟨m, hm, htorn⟩ := h.untorn a hold
        exact ⟨m, by rw [getElem?_append_left (hlt a hold), hm], htorn⟩
    once := by
      intro m hm
      rcases mem_append.1 hm with hm | hm
      · exact h.once m hm
      · rw [mem_singleton.1 hm]
        exact Nat.zero_le _
    kept := by
      intro a m hm htorn
      rw [hperm.mem_iff, List.mem_cons]
      rcases getElem?_concat_cases hm with ⟨hnew, -⟩ | ⟨-, hold⟩
      · exact .inl hnew
      · exact .inr (h.kept a m hold htorn) }

/-- An object that is owned and that nobody refers to is retired. -/
theorem Lifetimes.retire {torn : Nat} (h : Lifetimes marks listed refs (addr :: owned))
    (hmark : marks[addr]? = some (0, torn)) :
    Lifetimes (marks.modify addr fun m => (m.1, m.2 + 1)) listed refs owned := by
  have hperm : (listed ++ addr :: owned).Perm (addr :: (listed ++ owned)) := perm_middle
  have hnodup := List.nodup_cons.1 (hperm.nodup_iff.1 h.live)
  -- nobody refers to what is retired
  have hnoref : addr ∉ refs := List.count_eq_zero.1 (h.refcount addr _ hmark).symm
  obtain ⟨m₀, hm₀, htorn⟩ := h.untorn addr (.inl (hperm.mem_iff.2 mem_cons_self))
  obtain rfl : m₀ = (0, torn) := Option.some.inj (hm₀.symm.trans hmark)
  exact {
    refcount := by
      intro a m hm
      obtain ⟨m', hm', rfl⟩ := getElem?_modify_marks hm
      have hcount := h.refcount a m' hm'
      split <;> exact hcount
    live := hnodup.2
    untorn := by
      intro a ha
      have hne : addr ≠ a := by
        rintro rfl
        exact ha.elim hnodup.1 hnoref
      obtain ⟨m, hm, hzero⟩ := h.untorn a
        (ha.imp_left fun hmem => hperm.mem_iff.2 (mem_cons_of_mem _ hmem))
      exact ⟨m, by simp [hm, hne], hzero⟩
    once := by
      intro m hm
      obtain ⟨a, ha⟩ := mem_iff_getElem?.1 hm
      obtain ⟨m', hm', rfl⟩ := getElem?_modify_marks ha
      split
      · next hadr =>
        subst hadr
        obtain rfl : m' = (0, torn) := Option.some.inj (hm'.symm.trans hmark)
        exact Nat.succ_le_succ (Nat.le_of_eq htorn)
      · exact h.once m' (mem_of_getElem? hm')
    kept := by
      intro a m hm hzero
      obtain ⟨m', hm', rfl⟩ := getElem?_modify_marks hm
      split at hzero
      · cases hzero
      · next hne =>
        have hmem := hperm.mem_iff.1 (h.kept a m' hm' hzero)
        exact (List.mem_cons.1 hmem).resolve_left (Ne.symm hne) }

end

/-! ### Slots -/

/-- A slot is busy when it is held and only then, and no slot is held twice. -/
structure Exclusive (busy : List Bool) (holders : List Nat) : Prop where
  nodup : holders.Nodup
  held : ∀ slot, busy[slot]? = some true → slot ∈ holders
  busy : ∀ slot ∈ holders, busy[slot]? = some true

section
variable {busy : List Bool} {holders holders' : List Nat} {slot : Nat}

theorem Exclusive.perm (h : Exclusive busy holders) (hp : holders'.Perm holders) :
    Exclusive busy holders' :=
  ⟨hp.nodup_iff.2 h.nodup, fun slot hbusy => hp.mem_iff.2 (h.held slot hbusy),
    fun slot hslot => h.busy slot (hp.mem_iff.1 hslot)⟩

/-- A free slot is taken. -/
theorem Exclusive.take (h : Exclusive busy holders) (hfree : busy[slot]? = some false) :
    Exclusive (busy.set slot true) (slot :: holders) := by
  have hnot : slot ∉ holders := fun hmem => by
    have := h.busy slot hmem
    rw [hfree] at this
    cases this
  refine ⟨List.nodup_cons.2 ⟨hnot, h.nodup⟩, fun s hs => ?_, fun s hs => ?_⟩
  · rcases getElem?_set_cases hs with ⟨rfl, -⟩ | ⟨-, hs⟩
    · exact mem_cons_self
    · exact mem_cons_of_mem _ (h.held s hs)
  · have hlt := (List.getElem?_eq_some_iff.1 hfree).1
    rcases List.mem_cons.1 hs with rfl | hs
    · exact List.getElem?_set_self hlt
    · have hne : slot ≠ s := fun heq => hnot (heq ▸ hs)
      rw [getElem?_set_ne hne]
      exact h.busy s hs

/-- A new slot is taken. -/
theorem Exclusive.grow (h : Exclusive busy holders) :
    Exclusive (busy ++ [true]) (busy.length :: holders) := by
  have hlt : ∀ s ∈ holders, s < busy.length := fun s hs =>
    (List.getElem?_eq_some_iff.1 (h.busy s hs)).1
  refine ⟨List.nodup_cons.2 ⟨fun hmem => Nat.lt_irrefl _ (hlt _ hmem), h.nodup⟩, fun s hs => ?_,
    fun s hs => ?_⟩
  · rcases getElem?_concat_cases hs with ⟨rfl, -⟩ | ⟨-, hs⟩
    · exact mem_cons_self
    · exact mem_cons_of_mem _ (h.held s hs)
  · rcases List.mem_cons.1 hs with rfl | hs
    · exact getElem?_concat_length
    · rw [getElem?_append_left (hlt s hs)]
      exact h.busy s hs

/-- The holder of a slot frees it. -/
theorem Exclusive.free (h : Exclusive busy (slot :: holders)) :
    Exclusive (busy.set slot false) holders := by
  obtain ⟨hnot, hnodup⟩ := List.nodup_cons.1 h.nodup
  refine ⟨hnodup, fun s hs => ?_, fun s hs => ?_⟩
  · rcases getElem?_set_cases hs with ⟨-, hfalse⟩ | ⟨hne, hs⟩
    · cases hfalse
    · exact (List.mem_cons.1 (h.held s hs)).resolve_left hne
  · have hne : slot ≠ s := fun heq => hnot (heq ▸ hs)
    rw [getElem?_set_ne hne]
    exact h.busy s (mem_cons_of_mem _ hs)

end

/-! ### Tokens -/

section
variable {α τ : Type} [BEq τ] {f : α → List τ} {l : List α} {x y : α} {i : Nat} {tok : τ}

/-- How often the parties of a list hold a token, where `f` says what each holds. -/
def held (f : α → List τ) (l : List α) (tok : τ) : Nat :=
  (l.map fun x => (f x).count tok).sum

@[simp] theorem held_cons : held f (x :: l) tok = (f x).count tok + held f l tok := rfl

/-- A new party brings its tokens. -/
@[simp] theorem held_concat : held f (l ++ [x]) tok = held f l tok + (f x).count tok := by
  simp [held]

/-- A party that changes gives its tokens up and takes others. -/
theorem held_set (hi : l[i]? = some x) (y : α) (tok : τ) :
    held f (l.set i y) tok + (f x).count tok = held f l tok + (f y).count tok := by
  induction l generalizing i with
  | nil => cases hi
  | cons z l ih =>
    cases i with
    | zero =>
      cases hi
      simp only [set_cons_zero, held_cons]
      omega
    | succ i =>
      have htail := ih (i := i) hi
      simp only [set_cons_succ, held_cons]
      omega

/-- A party's own tokens are among those held. -/
theorem count_le_held (hi : l[i]? = some x) (tok : τ) : (f x).count tok ≤ held f l tok := by
  induction l generalizing i with
  | nil => cases hi
  | cons z l ih =>
    cases i with
    | zero =>
      cases hi
      exact Nat.le_add_right ..
    | succ i =>
      have htail := ih (i := i) hi
      rw [held_cons]
      omega

/-- Parties that all hold a token are not more than hold it. -/
theorem countP_le_held {p : α → Bool} (h : ∀ x ∈ l, p x = true → 0 < (f x).count tok) :
    l.countP p ≤ held f l tok := by
  induction l with
  | nil => exact Nat.zero_le _
  | cons z l ih =>
    have htail := ih fun x hx => h x (mem_cons_of_mem _ hx)
    rw [countP_cons, held_cons]
    split
    · next hz =>
      have := h z mem_cons_self hz
      omega
    · omega

/-- A token that is held has a holder. -/
theorem exists_of_held_pos (hpos : 0 < held f l tok) : ∃ x ∈ l, 0 < (f x).count tok := by
  obtain ⟨_, hmem, hcount⟩ := List.sum_pos_iff_exists_pos_nat.1 hpos
  obtain ⟨x, hx, rfl⟩ := mem_map.1 hmem
  exact ⟨x, hx, hcount⟩

end

end Ledger
