import Mathlib.Data.List.Flatten

/-!
# Rose trees, breadth first

A tree of labelled nodes and the list of its subtrees in breadth-first order:
level by level, and from left to right in a level.
-/

namespace PaymentsPlatform.Library

inductive RoseTree (α : Type) where
  | node (label : α) (children : List (RoseTree α))

namespace RoseTree

variable {α : Type}

def label : RoseTree α → α
  | .node label _ => label

def children : RoseTree α → List (RoseTree α)
  | .node _ children => children

mutual

/-- The subtrees, parents before children. -/
def subtrees : RoseTree α → List (RoseTree α)
  | .node label children => .node label children :: subtreesOf children

def subtreesOf : List (RoseTree α) → List (RoseTree α)
  | [] => []
  | tree :: rest => tree.subtrees ++ subtreesOf rest

end

mutual

def depth : RoseTree α → Nat
  | .node _ children => depthOf children + 1

def depthOf : List (RoseTree α) → Nat
  | [] => 0
  | tree :: rest => max tree.depth (depthOf rest)

end

/-- The nodes at a distance below the given ones. -/
def level : Nat → List (RoseTree α) → List (RoseTree α)
  | 0, trees => trees
  | distance + 1, trees => level distance (trees.flatMap children)

/-- The labels of all nodes. -/
def labels (tree : RoseTree α) : List α := tree.subtrees.map label

/-- A label that stands somewhere in one of the trees. -/
def Under (value : α) (trees : List (RoseTree α)) : Prop := ∃ tree ∈ trees, value ∈ tree.labels

/-- All subtrees in breadth-first order. -/
def walk (tree : RoseTree α) : List (RoseTree α) :=
  (List.range tree.depth).flatMap fun distance => level distance [tree]

/-! ## What a walk visits -/

theorem subtreesOf_eq (trees : List (RoseTree α)) : subtreesOf trees = trees.flatMap subtrees := by
  induction trees with
  | nil => rfl
  | cons tree rest ih => rw [subtreesOf, ih, List.flatMap_cons]

theorem mem_subtrees_self (tree : RoseTree α) : tree ∈ tree.subtrees := by
  cases tree with
  | node label children => simp [subtrees]

theorem mem_subtrees_node {tree : RoseTree α} {label : α} {children : List (RoseTree α)} :
    tree ∈ (node label children).subtrees ↔
      tree = node label children ∨ ∃ child ∈ children, tree ∈ child.subtrees := by
  simp [subtrees, subtreesOf_eq]

@[simp]
theorem under_nil (value : α) : ¬ Under value [] := by
  simp [Under]

@[simp]
theorem under_cons (value : α) (tree : RoseTree α) (trees : List (RoseTree α)) :
    Under value (tree :: trees) ↔ value ∈ tree.labels ∨ Under value trees := by
  simp [Under]

@[simp]
theorem under_append (value : α) (left right : List (RoseTree α)) :
    Under value (left ++ right) ↔ Under value left ∨ Under value right := by
  simp [Under, or_and_right, exists_or]

@[simp]
theorem mem_labels_node {value label : α} {children : List (RoseTree α)} :
    value ∈ (node label children).labels ↔
      value = label ∨ Under value children := by
  simp only [labels, Under, subtrees, subtreesOf_eq, List.map_cons, List.mem_cons, List.mem_map,
    List.mem_flatMap, RoseTree.label]
  constructor
  · rintro (same | ⟨tree, ⟨child, within, inner⟩, rfl⟩)
    · exact Or.inl same
    · exact Or.inr ⟨child, within, tree, inner, rfl⟩
  · rintro (same | ⟨child, within, tree, inner, rfl⟩)
    · exact Or.inl same
    · exact Or.inr ⟨tree, ⟨child, within, inner⟩, rfl⟩

theorem subtrees_of_child {tree child : RoseTree α} {label : α} {children : List (RoseTree α)}
    (member : child ∈ children) (inner : tree ∈ child.subtrees) :
    tree ∈ (node label children).subtrees :=
  mem_subtrees_node.mpr (Or.inr ⟨child, member, inner⟩)

theorem depth_le_depthOf {tree : RoseTree α} {trees : List (RoseTree α)} (member : tree ∈ trees) :
    tree.depth ≤ depthOf trees := by
  induction trees with
  | nil => simp at member
  | cons first rest ih =>
      rw [depthOf]
      rcases List.mem_cons.mp member with
        rfl | member
      · exact Nat.le_max_left _ _
      · exact Nat.le_trans (ih member) (Nat.le_max_right _ _)

theorem level_append (distance : Nat) (left right : List (RoseTree α)) :
    level distance (left ++ right) = level distance left ++ level distance right := by
  induction distance generalizing left right with
  | zero => rfl
  | succ distance ih => rw [level, List.flatMap_append, ih, level, level]

theorem mem_level {tree : RoseTree α} {distance : Nat} {trees : List (RoseTree α)} :
    tree ∈ level distance trees ↔ ∃ top ∈ trees, tree ∈ level distance [top] := by
  induction trees with
  | nil =>
      induction distance with
      | zero => simp [level]
      | succ distance ih => simpa [level] using ih
  | cons first rest ih =>
      have split := level_append distance [first] rest
      rw [List.singleton_append] at split
      rw [split, List.mem_append, ih]
      simp only [List.mem_cons, exists_eq_or_imp]

theorem mem_level_succ {tree top : RoseTree α} {distance : Nat} :
    tree ∈ level (distance + 1) [top] ↔
      ∃ child ∈ top.children, tree ∈ level distance [child] := by
  rw [level, List.flatMap_singleton, mem_level]

theorem subtrees_of_level {tree top : RoseTree α} {distance : Nat}
    (reached : tree ∈ level distance [top]) : tree ∈ top.subtrees := by
  induction distance generalizing top with
  | zero =>
      have same : tree = top := by simpa [level] using reached
      rw [same]
      exact mem_subtrees_self top
  | succ distance ih =>
      obtain ⟨child, member, below⟩ := mem_level_succ.mp reached
      cases top with
      | node label children => exact subtrees_of_child member (ih below)

mutual

theorem level_of_subtrees (tree top : RoseTree α) (member : tree ∈ top.subtrees) :
    ∃ distance < top.depth, tree ∈ level distance [top] := by
  match top with
  | .node label children =>
      rcases mem_subtrees_node.mp member with
        rfl | ⟨child, within, inner⟩
      · exact ⟨0, by simp [depth], by simp [level]⟩
      · obtain ⟨distance, short, reached⟩ := level_of_subtreesOf tree children child within inner
        refine ⟨distance + 1, ?_, mem_level_succ.mpr ⟨child, within, reached⟩⟩
        have bound := depth_le_depthOf within
        rw [depth]
        omega

theorem level_of_subtreesOf (tree : RoseTree α) (trees : List (RoseTree α)) (child : RoseTree α)
    (within : child ∈ trees) (inner : tree ∈ child.subtrees) :
    ∃ distance < child.depth, tree ∈ level distance [child] := by
  match trees with
  | first :: rest =>
      rcases List.mem_cons.mp within with
        same | within
      · rw [same] at inner ⊢
        exact level_of_subtrees tree first inner
      · exact level_of_subtreesOf tree rest child within inner

end

@[simp]
theorem mem_walk {tree top : RoseTree α} : tree ∈ top.walk ↔ tree ∈ top.subtrees := by
  constructor
  · intro visited
    obtain ⟨distance, -, reached⟩ := List.mem_flatMap.mp visited
    exact subtrees_of_level reached
  · intro member
    obtain ⟨distance, short, reached⟩ := level_of_subtrees tree top member
    exact List.mem_flatMap.mpr ⟨distance, List.mem_range.mpr short, reached⟩

theorem exists_walk_eq (label : α) (children : List (RoseTree α)) :
    ∃ rest, (node label children).walk = node label children :: rest ∧
      ∀ tree ∈ rest, ∃ child ∈ children, tree ∈ child.subtrees := by
  refine ⟨(List.range (depthOf children)).flatMap fun distance => level distance children, ?_, ?_⟩
  · rw [walk, depth, List.range_succ_eq_map, List.flatMap_cons, List.flatMap_map]
    simp [level, RoseTree.children]
  · intro tree visited
    obtain ⟨distance, -, reached⟩ := List.mem_flatMap.mp visited
    obtain ⟨child, member, below⟩ := mem_level.mp reached
    exact ⟨child, member, subtrees_of_level below⟩

theorem subtrees_trans {tree middle top : RoseTree α} (lower : tree ∈ middle.subtrees)
    (upper : middle ∈ top.subtrees) : tree ∈ top.subtrees := by
  obtain ⟨distance, -, reached⟩ := level_of_subtrees middle top upper
  induction distance generalizing top with
  | zero =>
      have same : middle = top := by simpa [level] using reached
      exact same ▸ lower
  | succ distance ih =>
      obtain ⟨child, member, below⟩ := mem_level_succ.mp reached
      cases top with
      | node label children =>
          exact subtrees_of_child member (ih (subtrees_of_level below) below)

end RoseTree

end PaymentsPlatform.Library
