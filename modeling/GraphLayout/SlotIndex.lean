import GraphLayout.Node

/-!
# Index of slots

Tells in which slot the node with an id is found. Each id has at most one slot
that counts; entering an id that is present leaves its slot as it is.
-/

namespace GraphLayout

structure SlotIndex where
  entries : List (NodeId × Nat)
  deriving DecidableEq

namespace SlotIndex

def empty : SlotIndex where
  entries := []

def slot? (index : SlotIndex) (id : NodeId) : Option Nat :=
  index.entries.lookup id

/-- Enters an id unless it has a slot already. -/
def enter (index : SlotIndex) (id : NodeId) (slot : Nat) : SlotIndex :=
  if (index.slot? id).isSome then index
  else ⟨(id, slot) :: index.entries⟩

def erase (index : SlotIndex) (id : NodeId) : SlotIndex :=
  ⟨index.entries.filter fun entry => !(entry.fst == id)⟩

def replace (index : SlotIndex) (id : NodeId) (slot : Option Nat) : SlotIndex :=
  match slot with
  | some slot => ⟨(id, slot) :: (index.erase id).entries⟩
  | none => index.erase id

theorem slot?_enter (index : SlotIndex) (id : NodeId) (slot : Nat) (other : NodeId) :
    (index.enter id slot).slot? other =
      if other = id then some ((index.slot? id).getD slot) else index.slot? other := by
  cases h : index.slot? id with
  | some present =>
      by_cases same : other = id
      · simp [enter, h, same]
      · simp [enter, h, same]
  | none =>
      have entered : index.enter id slot = ⟨(id, slot) :: index.entries⟩ := by
        simp [enter, h]
      by_cases same : other = id
      · simp [entered, same, slot?]
      · simp [entered, same, slot?, List.lookup_cons, beq_false_of_ne same]

theorem slot?_erase (index : SlotIndex) (id other : NodeId) :
    (index.erase id).slot? other = if other = id then none else index.slot? other := by
  obtain ⟨entries⟩ := index
  simp only [slot?, erase]
  induction entries with
  | nil =>
      simp
  | cons entry rest ih =>
      obtain ⟨key, slot⟩ := entry
      by_cases hkey : key = id
      · subst hkey
        rw [List.filter_cons_of_neg (by simp), ih]
        by_cases same : other = key
        · simp [same]
        · simp [same, List.lookup_cons, beq_false_of_ne same]
      · rw [List.filter_cons_of_pos (by simp [hkey])]
        by_cases same : other = key
        · subst same
          simp [hkey]
        · simp [List.lookup_cons, beq_false_of_ne same, ih]

theorem slot?_replace (index : SlotIndex) (id : NodeId) (slot : Option Nat) (other : NodeId) :
    (index.replace id slot).slot? other = if other = id then slot else index.slot? other := by
  cases slot with
  | none =>
      exact slot?_erase index id other
  | some slot =>
      have erased := slot?_erase index id other
      by_cases same : other = id
      · simp [replace, slot?, same]
      · simp only [if_neg same] at erased ⊢
        simp only [replace, slot?, List.lookup_cons, beq_false_of_ne same]
        exact erased

end SlotIndex
end GraphLayout
