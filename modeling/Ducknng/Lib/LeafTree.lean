import Mathlib.Data.List.Forall2
import Mathlib.Data.List.MinMax
import Mathlib.Order.Nat

/-!
# Trees with leaves and inner nodes of two sorts

A nested column format is a tree whose leaves carry the data and whose inner nodes only
arrange their children.

* `map f g` — another label on every leaf and every node, the shape kept.
* `leaves` — the labels of the leaves, from left to right.
* `fold`, `depth` — values combined from the leaves up, and the nodes on a longest path.
* `Rel R S` — two trees of one shape whose labels are related position by position.
* `map_eq_map_of_leaves`, `Rel.map` — what is known of every leaf holds of the whole tree.
-/

/-- A tree with data at the leaves and layout at the nodes. -/
inductive LeafTree (α β : Type) where
  | leaf (a : α)
  | node (b : β) (children : List (LeafTree α β))

namespace LeafTree

open List

variable {α β γ δ γ' δ' : Type}

/-! ### Recursion over the children -/

mutual

/-- Relabel the leaves by `f` and the nodes by `g`. -/
def map (f : α → γ) (g : β → δ) : LeafTree α β → LeafTree γ δ
  | .leaf a => .leaf (f a)
  | .node b cs => .node (g b) (mapAll f g cs)

def mapAll (f : α → γ) (g : β → δ) : List (LeafTree α β) → List (LeafTree γ δ)
  | [] => []
  | c :: cs => c.map f g :: mapAll f g cs

end

mutual

/-- The leaves, from left to right. -/
def leaves : LeafTree α β → List α
  | .leaf a => [a]
  | .node _ cs => leavesAll cs

def leavesAll : List (LeafTree α β) → List α
  | [] => []
  | c :: cs => c.leaves ++ leavesAll cs

end

mutual

/-- A value of each leaf by `f`, combined at each node by `g`. -/
def fold (f : α → γ) (g : β → List γ → γ) : LeafTree α β → γ
  | .leaf a => f a
  | .node b cs => g b (foldAll f g cs)

def foldAll (f : α → γ) (g : β → List γ → γ) : List (LeafTree α β) → List γ
  | [] => []
  | c :: cs => c.fold f g :: foldAll f g cs

end

/-- The number of nodes on a longest path. -/
def depth : LeafTree α β → Nat := fold (fun _ => 0) fun _ ds => 1 + ds.foldr max 0

/-- Two trees of one shape, related label by label. -/
inductive Rel (R : α → γ → Prop) (S : β → δ → Prop) : LeafTree α β → LeafTree γ δ → Prop
  | leaf {a : α} {c : γ} (h : R a c) : Rel R S (.leaf a) (.leaf c)
  | node {b : β} {d : δ} {cs : List (LeafTree α β)} {ds : List (LeafTree γ δ)}
      (h : S b d) (hs : Forall₂ (Rel R S) cs ds) : Rel R S (.node b cs) (.node d ds)

mutual

/-- A property of the leaves that each node inherits from its children. -/
@[elab_as_elim, induction_eliminator]
theorem induction {P : LeafTree α β → Prop} (leaf : ∀ a, P (.leaf a))
    (node : ∀ b cs, (∀ c ∈ cs, P c) → P (.node b cs)) : ∀ t, P t
  | .leaf a => leaf a
  | .node b cs => node b cs (inductionAll leaf node cs)

theorem inductionAll {P : LeafTree α β → Prop} (leaf : ∀ a, P (.leaf a))
    (node : ∀ b cs, (∀ c ∈ cs, P c) → P (.node b cs)) :
    ∀ cs : List (LeafTree α β), ∀ c ∈ cs, P c
  | [] => forall_mem_nil _
  | c :: cs => forall_mem_cons.2 ⟨induction leaf node c, inductionAll leaf node cs⟩

end

/-! ### The rules -/

theorem mapAll_eq (f : α → γ) (g : β → δ) (cs : List (LeafTree α β)) :
    mapAll f g cs = cs.map (map f g) := by
  induction cs with
  | nil => rfl
  | cons c cs ih => rw [mapAll, ih, map_cons]

theorem leavesAll_eq (cs : List (LeafTree α β)) : leavesAll cs = cs.flatMap leaves := by
  induction cs with
  | nil => rfl
  | cons c cs ih => rw [leavesAll, ih, flatMap_cons]

theorem foldAll_eq (f : α → γ) (g : β → List γ → γ) (cs : List (LeafTree α β)) :
    foldAll f g cs = cs.map (fold f g) := by
  induction cs with
  | nil => rfl
  | cons c cs ih => rw [foldAll, ih, map_cons]

@[simp] theorem map_leaf (f : α → γ) (g : β → δ) (a : α) : (leaf a).map f g = leaf (f a) := rfl

@[simp] theorem map_node (f : α → γ) (g : β → δ) (b : β) (cs : List (LeafTree α β)) :
    (node b cs).map f g = node (g b) (cs.map (map f g)) := by
  rw [map, mapAll_eq]

@[simp] theorem fold_node (f : α → γ) (g : β → List γ → γ) (b : β) (cs : List (LeafTree α β)) :
    (node b cs).fold f g = g b (cs.map (fold f g)) := by
  rw [fold, foldAll_eq]

@[simp] theorem leaves_leaf (a : α) : (leaf a : LeafTree α β).leaves = [a] := rfl

@[simp] theorem mem_leaves_node {a : α} {b : β} {cs : List (LeafTree α β)} :
    a ∈ (node b cs).leaves ↔ ∃ c ∈ cs, a ∈ c.leaves := by
  rw [leaves, leavesAll_eq, mem_flatMap]

variable {t : LeafTree α β} {R : α → γ → Prop} {S : β → δ → Prop}

theorem depth_node (b : β) (cs : List (LeafTree α β)) :
    (node b cs).depth = 1 + (cs.map depth).foldr max 0 :=
  fold_node ..

theorem depth_lt_node {b : β} {c : LeafTree α β} {cs : List (LeafTree α β)} (h : c ∈ cs) :
    c.depth < (node b cs).depth := by
  have hle := le_max_of_le (mem_map_of_mem h) (le_refl c.depth)
  rw [depth_node]
  exact Nat.lt_one_add_iff.2 hle

theorem depth_node_le {b : β} {cs : List (LeafTree α β)} {n : Nat} (h : ∀ c ∈ cs, c.depth ≤ n) :
    (node b cs).depth ≤ 1 + n := by
  rw [depth_node]
  exact Nat.add_le_add_left (max_le_of_forall_le _ _ (forall_mem_map.2 h)) 1

theorem depth_map (f : α → γ) (g : β → δ) (t : LeafTree α β) : (t.map f g).depth = t.depth := by
  induction t with
  | leaf a => rfl
  | node b cs ih =>
    rw [map_node, depth_node, depth_node, map_map]
    exact congrArg (1 + foldr max 0 ·) (map_congr_left ih)

/-- The leaves of a relabelled tree are the relabelled leaves. -/
theorem mem_leaves_map {f : α → γ} {g : β → δ} {c : γ} :
    c ∈ (t.map f g).leaves ↔ ∃ a ∈ t.leaves, f a = c := by
  induction t with
  | leaf a => simp [eq_comm]
  | node b cs ih =>
    rw [map_node, mem_leaves_node]
    constructor
    · rintro ⟨e, he, hc⟩
      obtain ⟨d, hd, rfl⟩ := mem_map.1 he
      obtain ⟨a, ha, rfl⟩ := (ih d hd).1 hc
      exact ⟨a, mem_leaves_node.2 ⟨d, hd, ha⟩, rfl⟩
    · rintro ⟨a, ha, rfl⟩
      obtain ⟨d, hd, ha⟩ := mem_leaves_node.1 ha
      exact ⟨d.map f g, mem_map_of_mem hd, (ih d hd).2 ⟨a, ha, rfl⟩⟩

/-- Two relabellings that agree on every leaf give one tree. -/
theorem map_eq_map_of_leaves {f f' : α → γ} {g : β → δ} (h : ∀ a ∈ t.leaves, f a = f' a) :
    t.map f g = t.map f' g := by
  induction t with
  | leaf a => exact congrArg leaf (h a (by simp))
  | node b cs ih =>
    rw [map_node, map_node]
    refine congrArg (node _) (map_congr_left fun c hc => ih c hc fun a ha => ?_)
    exact h a (mem_leaves_node.2 ⟨c, hc, ha⟩)

/-- Induction over two related trees at once. -/
@[elab_as_elim]
theorem Rel.ind {P : LeafTree α β → LeafTree γ δ → Prop}
    (leaf : ∀ a c, R a c → P (.leaf a) (.leaf c))
    (node : ∀ b d cs ds, S b d → Forall₂ P cs ds → P (.node b cs) (.node d ds)) :
    ∀ t u, Rel R S t u → P t u := by
  intro t
  induction t with
  | leaf a =>
    intro u h
    cases h with
    | leaf h => exact leaf _ _ h
  | node b cs ih =>
    intro u h
    cases h with
    | node h hs =>
      refine node _ _ _ _ h ?_
      -- the children are related one by one, and each is smaller than the node
      induction hs with
      | nil => exact .nil
      | cons hc _ ihs =>
        refine .cons (ih _ (by simp) _ hc) (ihs fun c hc => ih c (by simp [hc]))

/-- Related trees stay related under relabellings that keep the relation at every leaf and
    node. -/
theorem Rel.map {α' β' : Type} {R' : α' → γ' → Prop} {S' : β' → δ' → Prop} {f : α → α'} {g : β → β'}
    {f' : γ → γ'} {g' : δ → δ'} (hleaf : ∀ a c, R a c → R' (f a) (f' c))
    (hnode : ∀ b d, S b d → S' (g b) (g' d)) {u : LeafTree γ δ} (h : Rel R S t u) :
    Rel R' S' (t.map f g) (u.map f' g') := by
  refine Rel.ind (fun a c h => .leaf (hleaf a c h)) (fun b d cs ds h hs => ?_) t u h
  rw [map_node, map_node]
  exact .node (hnode b d h) (forall₂_map_left_iff.2 (forall₂_map_right_iff.2 hs))

/-- Each element on the right of two paired lists has its partner on the left. -/
theorem exists_left_of_forall₂ {xs : List α} {ys : List γ} (h : Forall₂ R xs ys) :
    ∀ y ∈ ys, ∃ x ∈ xs, R x y := by
  intro y hy
  obtain ⟨hlen, hpairs⟩ := forall₂_iff_get.1 h
  obtain ⟨i, hi, rfl⟩ := getElem_of_mem hy
  have hi' : i < xs.length := hlen ▸ hi
  exact ⟨xs[i], getElem_mem hi', hpairs i hi' hi⟩

/-- Each leaf of a tree has its partner in a related one. -/
theorem Rel.exists_leaf {u : LeafTree γ δ} (h : Rel R S t u) :
    ∀ c ∈ u.leaves, ∃ a ∈ t.leaves, R a c := by
  refine Rel.ind (fun a c h => ?_) (fun b d cs ds _ hs => ?_) t u h
  · intro c' hc'
    rw [leaves_leaf, mem_singleton] at hc'
    subst hc'
    exact ⟨a, by simp, h⟩
  · intro c hc
    obtain ⟨e, he, hc⟩ := mem_leaves_node.1 hc
    obtain ⟨e', he', hpartner⟩ := exists_left_of_forall₂ hs e he
    obtain ⟨a, ha, hR⟩ := hpartner c hc
    exact ⟨a, mem_leaves_node.2 ⟨e', he', ha⟩, hR⟩

end LeafTree
