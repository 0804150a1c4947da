import Mathlib.Data.List.Basic
/-!
# Ways through trees

A way goes from a node of a tree to a node directly inside of it, and on until nothing is inside.
How deep a tree is in nodes of one sort is told by the way that meets most of them. Trees are given
by the list of nodes directly inside of a node, so all of this holds of expressions and of templates
alike.
-/

namespace Stencil

variable {α : Type} {inner : α → List α} {counts : α → Bool} {height : α → Nat}

/-- That nodes are a way from one of them to a leaf. -/
inductive Way (inner : α → List α) : α → List α → Prop where
  | leaf {node : α} (nothing : inner node = []) : Way inner node [node]
  | step {node deeper : α} {later : List α} (inside : deeper ∈ inner node)
      (way : Way inner deeper later) : Way inner node (node :: later)

/-- That a number of every tree is the height of the tree, counted in nodes of one sort. -/
structure IsHeight (inner : α → List α) (counts : α → Bool) (height : α → Nat) : Prop where
  /-- A tree is as high as any inside of it, and higher if its root counts. -/
  above : ∀ {node deeper}, deeper ∈ inner node →
    height deeper + (counts node).toNat ≤ height node
  /-- It is no higher than that. -/
  reached : ∀ node, height node = (counts node).toNat ∨
    ∃ deeper ∈ inner node, height node = height deeper + (counts node).toNat

/-- The height of the highest of some trees. -/
def highest (height : α → Nat) : List α → Nat
  | [] => 0
  | node :: others => max (height node) (highest height others)

theorem highest_append (nodes more : List α) :
    highest height (nodes ++ more) = max (highest height nodes) (highest height more) := by
  induction nodes with
  | nil => simp [highest]
  | cons node others ih => simp only [List.cons_append, highest, ih, Nat.max_assoc]

theorem le_highest {nodes : List α} {node : α} (member : node ∈ nodes) :
    height node ≤ highest height nodes := by
  induction member with
  | head others => exact Nat.le_max_left _ _
  | tail other _ ih => exact Nat.le_trans ih (Nat.le_max_right _ _)

theorem highest_reached (nodes : List α) :
    highest height nodes = 0 ∨ ∃ node ∈ nodes, highest height nodes = height node := by
  induction nodes with
  | nil => exact .inl rfl
  | cons node others ih =>
      rw [highest]
      rcases Nat.le_total (highest height others) (height node) with lower | higher
      · exact .inr ⟨node, List.mem_cons_self, Nat.max_eq_left lower⟩
      · rw [Nat.max_eq_right higher]
        rcases ih with none | ⟨deeper, member, same⟩
        · exact .inl none
        · exact .inr ⟨deeper, List.mem_cons_of_mem _ member, same⟩

namespace IsHeight

/-- A number is the height of every tree if it is that of the highest tree inside of it, and one
more if the root counts. -/
theorem of_highest
    (same : ∀ node, height node = highest height (inner node) + (counts node).toNat) :
    IsHeight inner counts height where
  above := by
    intro node deeper inside
    rw [same node]
    exact Nat.add_le_add_right (le_highest inside) _
  reached := by
    intro node
    rw [same node]
    rcases highest_reached (inner node) with none | ⟨deeper, inside, here⟩
    · exact .inl (by rw [none, Nat.zero_add])
    · exact .inr ⟨deeper, inside, by rw [here]⟩

theorem root_le (isHeight : IsHeight inner counts height) (node : α) :
    (counts node).toNat ≤ height node := by
  rcases isHeight.reached node with here | ⟨deeper, inside, here⟩
  · exact Nat.le_of_eq here.symm
  · omega

/-- A tree with none but lower trees inside of it is lower too, but for its root. -/
theorem lt_of_inner (isHeight : IsHeight inner counts height) {bound : Nat} (positive : 0 < bound)
    {node : α} (lower : ∀ deeper ∈ inner node, height deeper < bound) :
    height node < bound + (counts node).toNat := by
  rcases isHeight.reached node with here | ⟨deeper, inside, here⟩
  · omega
  · have below := lower deeper inside
    omega

theorem countP_cons (node : α) (later : List α) :
    (node :: later).countP counts = later.countP counts + (counts node).toNat := by
  rw [List.countP_cons]
  cases counts node <;> rfl

/-- No way meets more nodes of the sort than the tree is high. -/
theorem countP_le (isHeight : IsHeight inner counts height) {node : α} {way : List α}
    (isWay : Way inner node way) : way.countP counts ≤ height node := by
  induction isWay with
  | leaf nothing =>
      rw [countP_cons, List.countP_nil, Nat.zero_add]
      exact isHeight.root_le _
  | step inside way ih =>
      have above := isHeight.above inside
      rw [countP_cons]
      omega

/-- The trees inside of a tree have fewer nodes. -/
theorem length_walk_lt {walk : α → List α}
    (walks : ∀ node, walk node = node :: (inner node).flatMap walk) {node deeper : α}
    (inside : deeper ∈ inner node) : (walk deeper).length < (walk node).length := by
  have part : (walk deeper).length ≤ ((inner node).flatMap walk).length := by
    rcases List.append_of_mem inside with ⟨before, after, same⟩
    rw [same, List.flatMap_append, List.flatMap_cons, List.length_append, List.length_append]
    omega
  rw [walks node, List.length_cons]
  omega

/-- Some way meets as many nodes of the sort as the tree is high. -/
theorem exists_way (isHeight : IsHeight inner counts height) {walk : α → List α}
    (walks : ∀ node, walk node = node :: (inner node).flatMap walk) (node : α) :
    ∃ way, Way inner node way ∧ way.countP counts = height node := by
  cases children : inner node with
  | nil =>
      refine ⟨[node], .leaf children, ?_⟩
      rcases isHeight.reached node with here | ⟨deeper, inside, _⟩
      · rw [countP_cons, List.countP_nil, Nat.zero_add, here]
      · rw [children] at inside
        cases inside
  | cons first others =>
      have child : first ∈ inner node := by simp [children]
      rcases isHeight.reached node with here | ⟨deeper, inside, here⟩
      · -- The root is all that counts, so any way will do.
        have fewer := length_walk_lt walks child
        rcases isHeight.exists_way walks first with ⟨way, isWay, count⟩
        have above := isHeight.above child
        refine ⟨node :: way, .step child isWay, ?_⟩
        rw [countP_cons, count]
        omega
      · have fewer := length_walk_lt walks inside
        rcases isHeight.exists_way walks deeper with ⟨way, isWay, count⟩
        refine ⟨node :: way, .step inside isWay, ?_⟩
        rw [countP_cons, count, here]
termination_by (walk node).length

end IsHeight

end Stencil
