import Mathlib.Data.List.Basic

/-!
# Trees with any number of children

`Rose.values` lists a tree from the root down, each node before its children;
`Rose.valuesAll` and `Rose.mapAll` are the same for the trees of a forest.
-/

namespace Shopping

inductive Rose (α : Type) where
  | node (value : α) (children : List (Rose α))
  deriving Repr

namespace Rose

variable {α β : Type}

mutual

def map (f : α → β) : Rose α → Rose β
  | .node a children => .node (f a) (mapAll f children)

def mapAll (f : α → β) : List (Rose α) → List (Rose β)
  | [] => []
  | t :: ts => t.map f :: mapAll f ts

end

mutual

def values : Rose α → List α
  | .node a children => a :: valuesAll children

def valuesAll : List (Rose α) → List α
  | [] => []
  | t :: ts => t.values ++ valuesAll ts

end

mutual

theorem values_map (f : α → β) : ∀ t : Rose α, (t.map f).values = t.values.map f
  | .node a children => by
    rw [map, values, values, List.map_cons, valuesAll_mapAll]

/-- The nodes of the image are the images of the nodes, in the same order. -/
theorem valuesAll_mapAll (f : α → β) :
    ∀ ts : List (Rose α), valuesAll (mapAll f ts) = (valuesAll ts).map f
  | [] => rfl
  | t :: ts => by
    rw [mapAll, valuesAll, valuesAll, List.map_append, values_map, valuesAll_mapAll]

end

end Rose

end Shopping
