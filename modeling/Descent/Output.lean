set_option autoImplicit false

/-!
What a parse yields: one leaf, or the results of its parts in order, which may be lists again.

`Output.leaves` is the view of an output as the sequence of its leaves. `Output.flatten` computes
the same sequence without recursion into the tree, by a list of subtrees still to be visited.
-/

namespace Descent

/-- A parse result over leaves of type `α`. -/
inductive Output (α : Type) where
  /-- A single leaf. -/
  | value (leaf : α)
  /-- The results of the parts, in the order of the input. -/
  | list (items : List (Output α))
  deriving Repr

namespace Output

variable {α β : Type}

/-- The list without items, which stands for "nothing yet". -/
def empty : Output α := .list []

instance : Inhabited (Output α) := ⟨empty⟩

/-- Only the list without items is empty; no leaf is. -/
def isEmpty : Output α → Bool
  | .list [] => true
  | _ => false

/-- The leaf of a one-leaf output. -/
def value? : Output α → Option α
  | .value leaf => some leaf
  | .list _ => none

/-- The items of a list. -/
def list? : Output α → Option (List (Output α))
  | .value _ => none
  | .list items => some items

/-- The item at an index of a list, counted from zero. -/
def nth? (output : Output α) (index : Nat) : Option (Output α) :=
  output.list?.bind (·[index]?)

mutual

/-- The leaves, depth first and from left to right. -/
def leaves : Output α → List α
  | .value leaf => [leaf]
  | .list items => leavesOfItems items

/-- The leaves of several outputs, one after the other. -/
def leavesOfItems : List (Output α) → List α
  | [] => []
  | item :: items => item.leaves ++ leavesOfItems items

end

mutual

/-- The number of nodes, leaves and lists alike. -/
def nodes : Output α → Nat
  | .value _ => 1
  | .list items => nodesOfItems items + 1

/-- The number of nodes of several outputs. -/
def nodesOfItems : List (Output α) → Nat
  | [] => 0
  | item :: items => item.nodes + nodesOfItems items

end

theorem nodesOfItems_append (first second : List (Output α)) :
    nodesOfItems (first ++ second) = nodesOfItems first + nodesOfItems second := by
  induction first with
  | nil => simp [nodesOfItems]
  | cons item items ih => simp [nodesOfItems, ih, Nat.add_assoc]

/-- The leaves of the pending outputs. A list at the head is replaced by its items, so that the
next leaf is always found at the head. -/
def flattenAll : List (Output α) → List α
  | [] => []
  | .value leaf :: pending => leaf :: flattenAll pending
  | .list items :: pending => flattenAll (items ++ pending)
termination_by pending => nodesOfItems pending
decreasing_by
  · simp [nodesOfItems, nodes]
  · simp only [nodesOfItems, nodesOfItems_append, nodes]; omega

/-- The leaves, by visiting subtrees in order. -/
def flatten (output : Output α) : List α := flattenAll [output]

mutual

/-- The same tree with a function applied to every leaf. -/
def mapLeaves (f : α → β) : Output α → Output β
  | .value leaf => .value (f leaf)
  | .list items => .list (mapLeavesOfItems f items)

/-- `mapLeaves` on each item. -/
def mapLeavesOfItems (f : α → β) : List (Output α) → List (Output β)
  | [] => []
  | item :: items => item.mapLeaves f :: mapLeavesOfItems f items

end

mutual

/-- The output as text: a leaf as it is, a list in square brackets with `, ` between its items. -/
def display (leafText : α → String) : Output α → String
  | .value leaf => leafText leaf
  | .list items => "[" ++ ", ".intercalate (displayOfItems leafText items) ++ "]"

/-- The texts of the items. -/
def displayOfItems (leafText : α → String) : List (Output α) → List String
  | [] => []
  | item :: items => item.display leafText :: displayOfItems leafText items

end

mutual

/-- How deeply lists are nested: a leaf has depth zero, a list one more than its deepest item. -/
def listDepth : Output α → Nat
  | .value _ => 0
  | .list items => listDepthOfItems items + 1

/-- The greatest depth among the items, zero for none. -/
def listDepthOfItems : List (Output α) → Nat
  | [] => 0
  | item :: items => max item.listDepth (listDepthOfItems items)

end

mutual

/-- Two outputs are compared node by node. -/
def decideEq [DecidableEq α] : (first second : Output α) → Decidable (first = second)
  | .value first, .value second =>
    if same : first = second then .isTrue (same ▸ rfl)
    else .isFalse fun equal => same (by cases equal; rfl)
  | .list first, .list second =>
    match decideEqOfItems first second with
    | .isTrue same => .isTrue (same ▸ rfl)
    | .isFalse differ => .isFalse fun equal => differ (by cases equal; rfl)
  | .value _, .list _ => .isFalse nofun
  | .list _, .value _ => .isFalse nofun

/-- Two lists of outputs are compared item by item. -/
def decideEqOfItems [DecidableEq α] :
    (first second : List (Output α)) → Decidable (first = second)
  | [], [] => .isTrue rfl
  | [], _ :: _ => .isFalse nofun
  | _ :: _, [] => .isFalse nofun
  | head :: tail, head' :: tail' =>
    match decideEq head head' with
    | .isFalse differ => .isFalse fun equal => differ (by cases equal; rfl)
    | .isTrue sameHead =>
      match decideEqOfItems tail tail' with
      | .isTrue sameTail => .isTrue (sameHead ▸ sameTail ▸ rfl)
      | .isFalse differ => .isFalse fun equal => differ (by cases equal; rfl)

end

instance [DecidableEq α] : DecidableEq (Output α) := decideEq

@[simp] theorem leaves_value (leaf : α) : (value leaf).leaves = [leaf] := rfl

theorem leavesOfItems_append (first second : List (Output α)) :
    leavesOfItems (first ++ second) = leavesOfItems first ++ leavesOfItems second := by
  induction first with
  | nil => rfl
  | cons item items ih => simp [leavesOfItems, ih]

theorem mapLeavesOfItems_eq_map (f : α → β) (items : List (Output α)) :
    mapLeavesOfItems f items = items.map (mapLeaves f) := by
  induction items with
  | nil => rfl
  | cons item items ih => simp [mapLeavesOfItems, ih]

theorem displayOfItems_eq_map (leafText : α → String) (items : List (Output α)) :
    displayOfItems leafText items = items.map (display leafText) := by
  induction items with
  | nil => rfl
  | cons item items ih => simp [displayOfItems, ih]

end Output

end Descent
