import Descent.Proofs.Leaves
import Descent.Proofs.Relabeling
import Mathlib.Data.List.Forall2

set_option autoImplicit false

/-!
Leaves in order, and outputs of one shape.

Visiting subtrees finds the leaves that recursion finds, because what is still to be visited has the
leaves that are still to come (`Output.flattenAll_eq_leavesOfItems`). A function on leaves changes
them where they stand. Since an output is settled by its shape and its leaves, nothing else has the
same shape and the changed leaves (`Output.eq_mapLeaves_iff`).
-/

namespace Descent.Output

variable {α β γ : Type}

/-- What holds of an output if it holds of its items holds of all. -/
theorem induction {motive : Output α → Prop} (value : ∀ leaf, motive (.value leaf))
    (list : ∀ items, (∀ item ∈ items, motive item) → motive (.list items)) (output : Output α) :
    motive output :=
  @Output.rec α motive (fun items => ∀ item ∈ items, motive item) value list nofun
    (fun _ _ first rest => List.forall_mem_cons.mpr ⟨first, rest⟩) output

theorem leaves_list (items : List (Output α)) : (list items).leaves = items.flatMap leaves := by
  rw [leaves]
  induction items with
  | nil => rfl
  | cons item items ih => rw [leavesOfItems, ih, List.flatMap_cons]

theorem leaves_mapLeaves (f : α → β) (output : Output α) :
    (output.mapLeaves f).leaves = output.leaves.map f := by
  induction output using induction with
  | value leaf => rfl
  | list items ih =>
    rw [mapLeaves_list, leaves_list, leaves_list, List.map_flatMap, List.flatMap_map]
    exact List.flatMap_congr ih

theorem mapLeaves_mapLeaves (f : α → β) (g : β → γ) (output : Output α) :
    (output.mapLeaves f).mapLeaves g = output.mapLeaves (g ∘ f) := by
  induction output using induction with
  | value leaf => rfl
  | list items ih =>
    rw [mapLeaves_list, mapLeaves_list, mapLeaves_list, List.map_map]
    exact congrArg list (List.map_congr_left ih)

/-- Leaves stand where there are leaves, and lists of as many items where there are lists. -/
inductive SameShape : Output α → Output β → Prop where
  | value (leaf : α) (other : β) : SameShape (.value leaf) (.value other)
  | list {items : List (Output α)} {others : List (Output β)} :
      List.Forall₂ SameShape items others → SameShape (.list items) (.list others)

theorem sameShape_mapLeaves (f : α → β) (output : Output α) :
    output.SameShape (output.mapLeaves f) := by
  induction output using induction with
  | value leaf => exact .value leaf (f leaf)
  | list items ih =>
    rw [mapLeaves_list]
    exact .list (List.forall₂_map_right_iff.mpr (List.forall₂_same.mpr ih))

namespace SameShape

variable {output : Output α} {other : Output β}

/-- What holds of outputs of one shape if it holds of their items, pair by pair, holds of all. -/
protected theorem induction {motive : (output : Output α) → (other : Output β) →
      output.SameShape other → Prop}
    (value : ∀ leaf other, motive _ _ (.value leaf other))
    (list : ∀ {items others} (all : List.Forall₂ SameShape items others),
      List.Forall₂ (fun (item : Output α) (other : Output β) => ∃ same, motive item other same)
        items others → motive _ _ (.list all))
    (same : output.SameShape other) : motive output other same :=
  @SameShape.rec α β motive
    (fun items others _ => List.Forall₂ (fun item other => ∃ same, motive item other same)
      items others)
    value list .nil (fun shape _ first rest => .cons ⟨shape, first⟩ rest) output other same

theorem length_leaves (same : output.SameShape other) :
    output.leaves.length = other.leaves.length := by
  induction same using SameShape.induction with
  | value leaf other => rfl
  | list all ih =>
    rw [leaves_list, leaves_list]
    clear all
    induction ih with
    | nil => rfl
    | cons first _ more =>
      obtain ⟨_, length⟩ := first
      rw [List.flatMap_cons, List.flatMap_cons, List.length_append, List.length_append, length,
        more]

theorem eq_mapLeaves {f : α → β} (same : output.SameShape other)
    (changed : other.leaves = output.leaves.map f) : other = output.mapLeaves f := by
  induction same using SameShape.induction with
  | value leaf other =>
    obtain rfl : other = f leaf := by simpa using changed
    rfl
  | list all ih =>
    rw [leaves_list, leaves_list, List.map_flatMap] at changed
    rw [mapLeaves_list]
    refine congrArg Output.list ?_
    clear all
    induction ih with
    | nil => rfl
    | @cons item other _ _ first _ more =>
      obtain ⟨same, determined⟩ := first
      -- The first items have as many leaves, so that these can be told from the others.
      have many : other.leaves.length = (item.leaves.map f).length := by
        rw [List.length_map, same.length_leaves]
      obtain ⟨one, rest⟩ := List.append_inj changed many
      rw [determined one, more rest, List.map_cons]

end SameShape

theorem eq_mapLeaves_iff {f : α → β} {output : Output α} {other : Output β} :
    other = output.mapLeaves f ↔
      output.SameShape other ∧ other.flatten = output.flatten.map f := by
  rw [flatten_eq_leaves, flatten_eq_leaves]
  constructor
  · rintro rfl
    exact ⟨sameShape_mapLeaves f output, leaves_mapLeaves f output⟩
  · rintro ⟨same, changed⟩
    exact same.eq_mapLeaves changed

/-- Flattening gives the leaves depth first and from left to right. A function on leaves changes each
of them and leaves the shape alone. The leaves of a list are those of its items, in their order. -/
theorem flatten_laws (output : Output α) :
    output.flatten = output.leaves ∧
      (∀ f : α → β, (output.mapLeaves f).flatten = output.flatten.map f ∧
        output.SameShape (output.mapLeaves f) ∧
        ∀ g : β → γ, (output.mapLeaves f).mapLeaves g = output.mapLeaves (g ∘ f)) ∧
      ∀ outputs : List (Output α), (list outputs).flatten = outputs.flatMap flatten := by
  refine ⟨output.flatten_eq_leaves, fun f => ?_, fun outputs => ?_⟩
  · obtain ⟨same, changed⟩ := eq_mapLeaves_iff.mp (rfl : output.mapLeaves f = output.mapLeaves f)
    exact ⟨changed, same, fun g => mapLeaves_mapLeaves f g output⟩
  · rw [flatten_eq_leaves, leaves_list]
    exact List.flatMap_congr fun item _ => item.flatten_eq_leaves.symm

example : (list [.value "a", .list [.list [], .value "b"]]).flatten = ["a", "b"] := by
  rw [flatten_eq_leaves]
  rfl

end Descent.Output
