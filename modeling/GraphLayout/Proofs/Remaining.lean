import GraphLayout.Edge
import GraphLayout.Graph
import GraphLayout.Node
import Mathlib.Data.List.Basic

/-!
# What remains of a graph

The nodes and edges that a loaded graph still has after removals, told from the list
of its elements and from how often each id was removed. No arena and no index is
involved; `Proofs.LoadedGraph` shows that a layout keeps to this account.
-/

namespace GraphLayout

def increase (count : NodeId -> Nat) (id : NodeId) : NodeId -> Nat :=
  Function.update count id (count id + 1)

/-!
# Lists without first occurrences
-/

section DropFirst

variable {β : Type} {key : β -> NodeId}

/-- Leaves out the first entries with each id, as many as are counted for it. -/
def dropFirst (key : β -> NodeId) (count : NodeId -> Nat) : List β -> List β
  | [] => []
  | entry :: rest =>
      match count (key entry) with
      | 0 => entry :: dropFirst key count rest
      | n + 1 => dropFirst key (Function.update count (key entry) n) rest

theorem dropFirst_cons_of_zero {count : NodeId -> Nat} {x : β} (h : count (key x) = 0)
    (rest : List β) : dropFirst key count (x :: rest) = x :: dropFirst key count rest := by
  rw [dropFirst, h]

theorem dropFirst_cons_of_succ {count : NodeId -> Nat} {x : β} {n : Nat}
    (h : count (key x) = n + 1) (rest : List β) :
    dropFirst key count (x :: rest) = dropFirst key (Function.update count (key x) n) rest := by
  rw [dropFirst, h]

theorem dropFirst_zero (xs : List β) : dropFirst key (fun _ => 0) xs = xs := by
  induction xs with
  | nil =>
      rfl
  | cons x rest ih =>
      show x :: dropFirst key (fun _ => 0) rest = x :: rest
      rw [ih]

theorem dropFirst_sublist (count : NodeId -> Nat) (xs : List β) :
    (dropFirst key count xs).Sublist xs := by
  induction xs generalizing count with
  | nil =>
      exact List.Sublist.refl []
  | cons x rest ih =>
      unfold dropFirst
      split
      · exact (ih count).cons_cons x
      · exact (ih _).cons x

theorem find?_dropFirst {count : NodeId -> Nat} {id : NodeId} (h : count id = 0)
    (xs : List β) :
    ((dropFirst key count xs).find? fun x => key x == id) = xs.find? fun x => key x == id := by
  induction xs generalizing count with
  | nil =>
      rfl
  | cons x rest ih =>
      unfold dropFirst
      split
      · by_cases hx : key x = id
        · rw [List.find?_cons_of_pos (by simpa using hx),
            List.find?_cons_of_pos (by simpa using hx)]
        · rw [List.find?_cons_of_neg (by simpa using hx),
            List.find?_cons_of_neg (by simpa using hx)]
          exact ih h
      · next n hcount =>
          have hx : key x ≠ id := by
            intro heq
            rw [heq, h] at hcount
            cases hcount
          rw [List.find?_cons_of_neg (by simpa using hx)]
          apply ih
          rw [Function.update_of_ne (Ne.symm hx)]
          exact h

theorem eraseP_dropFirst (count : NodeId -> Nat) (id : NodeId) (xs : List β) :
    ((dropFirst key count xs).eraseP fun x => key x == id) =
      dropFirst key (increase count id) xs := by
  induction xs generalizing count with
  | nil =>
      rfl
  | cons x rest ih =>
      by_cases hx : key x = id
      · subst hx
        have hincreased : increase count (key x) (key x) = count (key x) + 1 :=
          Function.update_self (key x) _ count
        cases hcount : count (key x) with
        | zero =>
            have hback : Function.update (increase count (key x)) (key x) 0 = count := by
              rw [increase, Function.update_idem, ← hcount, Function.update_eq_self]
            rw [hcount] at hincreased
            rw [dropFirst_cons_of_zero hcount, List.eraseP_cons_of_pos (by simp),
              dropFirst_cons_of_succ hincreased, hback]
        | succ n =>
            -- the removal is put off to a later entry with the id
            have hback : increase (Function.update count (key x) n) (key x) =
                Function.update (increase count (key x)) (key x) (n + 1) := by
              rw [increase, increase, Function.update_self, Function.update_idem,
                Function.update_idem]
            rw [hcount] at hincreased
            rw [dropFirst_cons_of_succ hcount, ih, dropFirst_cons_of_succ hincreased, hback]
      · have hsame : increase count id (key x) = count (key x) :=
          Function.update_of_ne hx _ count
        cases hcount : count (key x) with
        | zero =>
            rw [dropFirst_cons_of_zero hcount, List.eraseP_cons_of_neg (by simpa using hx), ih,
              dropFirst_cons_of_zero (hsame.trans hcount)]
        | succ n =>
            have hcomm : increase (Function.update count (key x) n) id =
                Function.update (increase count id) (key x) n := by
              rw [increase, increase, Function.update_of_ne (Ne.symm hx),
                Function.update_comm hx]
            rw [dropFirst_cons_of_succ hcount, ih,
              dropFirst_cons_of_succ (hsame.trans hcount), hcomm]

end DropFirst

/-!
# Node elements
-/

def Element.label (element : Element) : NodeId × Attributes :=
  (⟨element.id⟩, element.values)

def nodeElements (elements : List Element) : List (Element × Nat) :=
  (elements.filter fun element => !element.isEdge).zipIdx

theorem nodeElements_append_node (elements : List Element) {element : Element}
    (h : element.isEdge = false) :
    nodeElements (elements ++ [element]) =
      nodeElements elements ++ [(element, (nodeElements elements).length)] := by
  unfold nodeElements
  rw [List.filter_append, List.filter_cons_of_pos (by simpa using h), List.filter_nil,
    List.zipIdx_append, List.length_zipIdx, Nat.zero_add]
  rfl

theorem nodeElements_append_edge (elements : List Element) {element : Element}
    (h : element.isEdge = true) :
    nodeElements (elements ++ [element]) = nodeElements elements := by
  unfold nodeElements
  rw [List.filter_append, List.filter_cons_of_neg (by simpa using h), List.filter_nil,
    List.append_nil]

theorem eq_of_mem_nodeElements {elements : List Element} {a b : Element} {place : Nat}
    (ha : (a, place) ∈ nodeElements elements) (hb : (b, place) ∈ nodeElements elements) :
    a = b := by
  unfold nodeElements at ha hb
  rw [List.mk_mem_zipIdx_iff_getElem?] at ha hb
  rw [ha] at hb
  exact Option.some.inj hb

theorem exists_mem_nodeElements {elements : List Element} {element : Element} :
    (exists place, (element, place) ∈ nodeElements elements) <->
      element ∈ elements ∧ element.isEdge = false := by
  unfold nodeElements
  simp only [List.mk_mem_zipIdx_iff_getElem?]
  rw [← List.mem_iff_getElem?, List.mem_filter, Bool.not_eq_true']

def remainingNodes (elements : List Element) (count : NodeId -> Nat) : List (Element × Nat) :=
  dropFirst (fun entry => entry.1.label.1) count (nodeElements elements)

def firstNode? (elements : List Element) (count : NodeId -> Nat) (id : NodeId) : Option Nat :=
  ((remainingNodes elements count).find? fun entry => entry.1.label.1 == id).map Prod.snd

theorem firstNode?_of_zero (elements : List Element) {count : NodeId -> Nat} {id : NodeId}
    (h : count id = 0) : firstNode? elements count id = firstNode? elements (fun _ => 0) id := by
  unfold firstNode? remainingNodes
  rw [find?_dropFirst h, dropFirst_zero]

theorem mem_of_firstNode? {elements : List Element} {count : NodeId -> Nat} {id : NodeId}
    {place : Nat} (h : firstNode? elements count id = some place) :
    exists element, (element, place) ∈ nodeElements elements ∧ element.label.1 = id := by
  rcases Option.map_eq_some_iff.mp h with ⟨⟨element, _⟩, hfind, rfl⟩
  refine ⟨element, ?_, ?_⟩
  · exact (dropFirst_sublist count _).subset (List.mem_of_find?_eq_some hfind)
  · simpa using List.find?_some hfind

theorem isSome_firstNode? {elements : List Element} {count : NodeId -> Nat} {id : NodeId} :
    (firstNode? elements count id).isSome = true <->
      exists entry, entry ∈ remainingNodes elements count ∧ entry.1.label.1 = id := by
  unfold firstNode?
  rw [Option.isSome_map, List.find?_isSome]
  simp only [beq_iff_eq]

theorem firstNode?_append {elements : List Element} {id : NodeId} {place : Nat}
    (h : firstNode? elements (fun _ => 0) id = some place) (later : List Element) :
    firstNode? (elements ++ later) (fun _ => 0) id = some place := by
  unfold firstNode? remainingNodes at h ⊢
  rw [dropFirst_zero] at h ⊢
  unfold nodeElements at h ⊢
  rcases Option.map_eq_some_iff.mp h with ⟨entry, hentry, hplace⟩
  rw [List.filter_append, List.zipIdx_append, List.find?_append, hentry]
  exact congrArg some hplace

/-!
# Edge elements
-/

/-- The slot at which an edge ends whose element names an id and comes after the given
elements. Only a node element before the edge gives the edge an end, and only until the
id is removed for the first time. -/
def endSlot? (count : NodeId -> Nat) (earlier : List Element) (raw : Option Int64) : Option Nat :=
  raw.bind fun raw => if count ⟨raw⟩ = 0 then firstNode? earlier (fun _ => 0) ⟨raw⟩ else none

theorem endSlot?_eq_some_iff {count : NodeId -> Nat} {earlier : List Element}
    {raw : Option Int64} {place : Nat} :
    endSlot? count earlier raw = some place <->
      exists id : NodeId, raw = some id.raw ∧ count id = 0 ∧
        firstNode? earlier (fun _ => 0) id = some place := by
  unfold endSlot?
  rw [Option.bind_eq_some_iff]
  constructor
  · intro h
    rcases h with ⟨id, hraw, hplace⟩
    cases hcount : count ⟨id⟩ with
    | zero =>
        rw [if_pos hcount] at hplace
        exact ⟨⟨id⟩, hraw, hcount, hplace⟩
    | succ n =>
        rw [if_neg (by simp [hcount])] at hplace
        cases hplace
  · intro h
    rcases h with ⟨id, hraw, hcount, hplace⟩
    exact ⟨id.raw, hraw, by rw [if_pos hcount, hplace]⟩

theorem isSome_endSlot?_iff {count : NodeId -> Nat} {earlier : List Element} {raw : Option Int64} :
    (endSlot? count earlier raw).isSome = true <->
      exists id : NodeId, raw = some id.raw ∧ count id = 0 ∧
        exists node, node ∈ earlier ∧ node.isEdge = false ∧ node.label.1 = id := by
  have hnode : forall id, (exists place, firstNode? earlier (fun _ => 0) id = some place) <->
      exists node, node ∈ earlier ∧ node.isEdge = false ∧ node.label.1 = id := by
    intro id
    rw [← Option.isSome_iff_exists, isSome_firstNode?, remainingNodes, dropFirst_zero]
    constructor
    · intro h
      rcases h with ⟨⟨node, place⟩, hmem, hid⟩
      rcases exists_mem_nodeElements.mp ⟨place, hmem⟩ with ⟨hearlier, hkind⟩
      exact ⟨node, hearlier, hkind, hid⟩
    · intro h
      rcases h with ⟨node, hearlier, hkind, hid⟩
      rcases exists_mem_nodeElements.mpr ⟨hearlier, hkind⟩ with ⟨place, hmem⟩
      exact ⟨(node, place), hmem, hid⟩
  rw [Option.isSome_iff_exists]
  constructor
  · intro h
    rcases h with ⟨place, hplace⟩
    rcases endSlot?_eq_some_iff.mp hplace with ⟨id, hraw, hcount, hfirst⟩
    exact ⟨id, hraw, hcount, (hnode id).mp ⟨place, hfirst⟩⟩
  · intro h
    rcases h with ⟨id, hraw, hcount, hexists⟩
    rcases (hnode id).mpr hexists with ⟨place, hfirst⟩
    exact ⟨place, endSlot?_eq_some_iff.mpr ⟨id, hraw, hcount, hfirst⟩⟩

theorem endSlot?_increase {elements earlier later : List Element}
    (hsplit : elements = earlier ++ later) (count : NodeId -> Nat) (id : NodeId)
    (raw : Option Int64) :
    endSlot? (increase count id) earlier raw =
      if endSlot? count earlier raw = firstNode? elements count id then none
      else endSlot? count earlier raw := by
  cases raw with
  | none =>
      show none = if none = _ then none else none
      split <;> rfl
  | some raw =>
      by_cases hraw : (⟨raw⟩ : NodeId) = id
      · have hgone : endSlot? (increase count id) earlier (some raw) = none := by
          show (if increase count id ⟨raw⟩ = 0 then _ else _) = _
          rw [hraw, increase, Function.update_self, if_neg (Nat.succ_ne_zero _)]
        rw [hgone]
        cases hend : endSlot? count earlier (some raw) with
        | none =>
            split <;> rfl
        | some place =>
            rcases endSlot?_eq_some_iff.mp hend with ⟨other, hother, hcount, hfirst⟩
            have hid : other = id := by
              rw [← hraw]
              cases other
              cases hother
              rfl
            rw [hid] at hcount hfirst
            rw [firstNode?_of_zero elements hcount, hsplit, firstNode?_append hfirst,
              if_pos rfl]
      · have hsame : endSlot? (increase count id) earlier (some raw) =
            endSlot? count earlier (some raw) := by
          show (if increase count id ⟨raw⟩ = 0 then _ else _) = _
          rw [increase, Function.update_of_ne hraw]
          rfl
        rw [hsame]
        cases hend : endSlot? count earlier (some raw) with
        | none =>
            split <;> rfl
        | some place =>
            -- the node at this end has another id
            rw [if_neg]
            intro hfound
            rcases endSlot?_eq_some_iff.mp hend with ⟨other, hother, hcount, hfirst⟩
            rcases mem_of_firstNode? (hsplit ▸ firstNode?_append hfirst later) with
              ⟨a, ha, haId⟩
            rcases mem_of_firstNode? hfound.symm with ⟨b, hb, hbId⟩
            rw [eq_of_mem_nodeElements ha hb, hbId] at haId
            cases hother
            exact hraw haId.symm

def edgeOf (count : NodeId -> Nat) (element : Element) (earlier : List Element) : Edge where
  id := ⟨element.id⟩
  source := endSlot? count earlier element.source
  target := endSlot? count earlier element.target
  attributes := element.values

theorem edgeOf_increase {elements earlier later : List Element}
    (hsplit : elements = earlier ++ later) (count : NodeId -> Nat) (id : NodeId)
    (element : Element) :
    edgeOf (increase count id) element earlier =
      (firstNode? elements count id).elim (edgeOf count element earlier)
        fun place => (edgeOf count element earlier).detach place := by
  unfold edgeOf
  rw [endSlot?_increase hsplit, endSlot?_increase hsplit]
  cases firstNode? elements count id with
  | some place =>
      rfl
  | none =>
      have hnone : forall slot? : Option Nat, (if slot? = none then none else slot?) = slot? := by
        intro slot?
        cases slot? with
        | none =>
            rfl
        | some slot =>
            rfl
      rw [hnone, hnone]
      rfl

def edgeElements (elements : List Element) : List (Element × List Element) :=
  (elements.zipIdx.filter fun entry => entry.1.isEdge).map fun entry =>
    (entry.1, elements.take entry.2)

theorem edgeElements_append_singleton (elements : List Element) (element : Element) :
    edgeElements (elements ++ [element]) =
      edgeElements elements ++ if element.isEdge then [(element, elements)] else [] := by
  unfold edgeElements
  rw [List.zipIdx_append, List.filter_append, List.map_append]
  congr 1
  · apply List.map_congr_left
    intro entry hentry
    have hlt := List.snd_lt_of_mem_zipIdx (List.mem_filter.mp hentry).1
    rw [List.take_append_of_le_length (by omega)]
  · cases hkind : element.isEdge with
    | true =>
        simp [hkind]
    | false =>
        simp [hkind]

theorem exists_eq_append_of_mem_edgeElements {elements : List Element}
    {entry : Element × List Element} (h : entry ∈ edgeElements elements) :
    exists later, elements = entry.2 ++ later := by
  rcases List.mem_map.mp h with ⟨place, _, rfl⟩
  exact ⟨elements.drop place.2, (List.take_append_drop place.2 elements).symm⟩

/-- The edges that remain of a list of elements. No edge is lost, but ends are. -/
def remainingEdges (elements : List Element) (count : NodeId -> Nat) : List Edge :=
  (edgeElements elements).map fun entry => edgeOf count entry.1 entry.2

end GraphLayout
