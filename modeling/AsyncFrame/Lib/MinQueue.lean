import Mathlib.Data.Multiset.AddSub
import Mathlib.Data.Multiset.Basic
import Mathlib.Data.List.Sort

/-!
# Priority queues that release a least entry

The interface of a binary heap as its users see it: a bag of entries, of which
`pop` releases one whose key is least.  Which of several entries with the same
least key comes out is left open.
-/

namespace AsyncFrame.Lib

universe u v

/-- A container with `push` and a `pop` that takes out an entry of least key. -/
structure MinQueue (α : Type u) {τ : Type v} [LinearOrder τ] (key : α → τ) where
  Carrier : Type u
  empty : Carrier
  push : α → Carrier → Carrier
  pop : Carrier → Option (α × Carrier)
  elems : Carrier → Multiset α
  elems_empty : elems empty = 0
  elems_push : ∀ entry queue, elems (push entry queue) = entry ::ₘ elems queue
  elems_of_pop_none : ∀ {queue}, pop queue = none → elems queue = 0
  elems_of_pop_some : ∀ {queue entry rest},
    pop queue = some (entry, rest) → elems queue = entry ::ₘ elems rest
  least_of_pop_some : ∀ {queue entry rest},
    pop queue = some (entry, rest) →
      ∀ other ∈ elems rest, key entry ≤ key other

namespace MinQueue

variable {α : Type u} {τ : Type v} [LinearOrder τ] {key : α → τ}
variable (queues : MinQueue α key)

attribute [simp] elems_empty elems_push

/-- Entries compared by their keys. -/
def KeyLE (key : α → τ) (left right : α) : Prop :=
  key left ≤ key right

instance : DecidableRel (KeyLE key) :=
  fun left right => inferInstanceAs (Decidable (key left ≤ key right))

instance : Std.Total (KeyLE key) :=
  ⟨fun left right => le_total (key left) (key right)⟩

instance : IsTrans α (KeyLE key) :=
  ⟨fun _ _ _ => le_trans⟩

/-- The sorted lists are such a container; among equal keys the newest entry
comes out first. -/
def sorted (key : α → τ) : MinQueue α key where
  Carrier := { queue : List α // queue.Pairwise (KeyLE key) }
  empty := ⟨[], List.Pairwise.nil⟩
  push entry queue :=
    ⟨queue.1.orderedInsert (KeyLE key) entry,
      queue.2.orderedInsert entry queue.1⟩
  pop queue :=
    match queue with
    | ⟨[], _⟩ => none
    | ⟨head :: tail, ordered⟩ =>
        some (head, ⟨tail, (List.pairwise_cons.mp ordered).2⟩)
  elems queue := (queue.1 : Multiset α)
  elems_empty := rfl
  elems_push entry queue :=
    Multiset.coe_eq_coe.mpr (List.perm_orderedInsert _ entry queue.1)
  elems_of_pop_none := by
    rintro ⟨queue, ordered⟩ popped
    cases queue with
    | nil => rfl
    | cons head tail => cases popped
  elems_of_pop_some := by
    rintro ⟨queue, ordered⟩ entry rest popped
    cases queue with
    | nil => cases popped
    | cons head tail =>
        cases popped
        rfl
  least_of_pop_some := by
    rintro ⟨queue, ordered⟩ entry rest popped other member
    cases queue with
    | nil => cases popped
    | cons head tail =>
        cases popped
        exact (List.pairwise_cons.mp ordered).1 other member

end MinQueue

end AsyncFrame.Lib
