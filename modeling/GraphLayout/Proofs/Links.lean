import GraphLayout.Arena
import GraphLayout.Edge
import Mathlib.Data.List.Nodup

/-!
# Links of a list of edges

The links that an arena should record for a list of edges: one for each edge with
both ends, carrying the place of the edge in the list, the most recent in front.
-/

namespace GraphLayout

namespace Edge

theorem touches_iff {slot : Nat} {edge : Edge} :
    edge.touches slot = true <-> edge.source = some slot ∨ edge.target = some slot := by
  unfold touches
  rw [Bool.or_eq_true, beq_iff_eq, beq_iff_eq]

def link? (place : Nat) (edge : Edge) : Option Link :=
  edge.endpoints?.map fun ends => ⟨ends.1, ends.2, place⟩

theorem link?_eq_some_iff {place : Nat} {edge : Edge} {link : Link} :
    edge.link? place = some link <->
      edge.endpoints? = some (link.source, link.target) ∧ link.edge = place := by
  unfold link?
  rw [Option.map_eq_some_iff]
  constructor
  · intro h
    rcases h with ⟨ends, hends, rfl⟩
    exact ⟨hends, rfl⟩
  · intro h
    rcases h with ⟨hends, rfl⟩
    exact ⟨_, hends, rfl⟩

theorem source_detach_eq_some_iff {slot s : Nat} {edge : Edge} :
    (edge.detach slot).source = some s <-> edge.source = some s ∧ s ≠ slot := by
  unfold detach
  by_cases hslot : edge.source = some slot
  · rw [if_pos hslot, hslot]
    simp [eq_comm]
  · rw [if_neg hslot]
    constructor
    · intro h
      refine ⟨h, ?_⟩
      intro hs
      rw [hs] at h
      exact hslot h
    · exact And.left

theorem target_detach_eq_some_iff {slot t : Nat} {edge : Edge} :
    (edge.detach slot).target = some t <-> edge.target = some t ∧ t ≠ slot := by
  have hswap := @source_detach_eq_some_iff slot t
    { edge with source := edge.target, target := edge.source }
  exact hswap

theorem touches_detach_iff {slot s : Nat} {edge : Edge} :
    (edge.detach slot).touches s = true <-> edge.touches s = true ∧ s ≠ slot := by
  rw [touches_iff, touches_iff, source_detach_eq_some_iff, target_detach_eq_some_iff,
    or_and_right]

theorem link?_detach (slot place : Nat) (edge : Edge) :
    (edge.detach slot).link? place =
      (edge.link? place).filter fun link => !link.touches slot := by
  apply Option.ext
  intro link
  rw [Option.filter_eq_some_iff, link?_eq_some_iff, link?_eq_some_iff, endpoints?_eq_some_iff,
    endpoints?_eq_some_iff, source_detach_eq_some_iff, target_detach_eq_some_iff]
  simp only [Link.touches, Bool.not_or, Bool.and_eq_true, Bool.not_eq_true', beq_eq_false_iff_ne]
  tauto

end Edge

def linksOf (edges : List Edge) : List Link :=
  (edges.zipIdx.filterMap fun entry => entry.1.link? entry.2).reverse

theorem linksOf_append_singleton (edges : List Edge) (edge : Edge) :
    linksOf (edges ++ [edge]) = (edge.link? edges.length).toList ++ linksOf edges := by
  unfold linksOf
  rw [List.zipIdx_append, List.filterMap_append, List.reverse_append]
  congr 1
  cases hlink : edge.link? edges.length with
  | none =>
      simp [hlink]
  | some link =>
      simp [hlink]

theorem linksOf_map_detach (slot : Nat) (edges : List Edge) :
    linksOf (edges.map (Edge.detach slot)) =
      (linksOf edges).filter fun link => !link.touches slot := by
  unfold linksOf
  rw [List.filter_reverse, List.filter_filterMap, List.zipIdx_map, List.filterMap_map]
  congr 1
  apply List.filterMap_congr
  intro entry _
  exact Edge.link?_detach slot entry.2 entry.1

theorem mem_linksOf {edges : List Edge} {link : Link} :
    link ∈ linksOf edges <->
      (edges[link.edge]?).bind Edge.endpoints? = some (link.source, link.target) := by
  unfold linksOf
  rw [List.mem_reverse, List.mem_filterMap, Option.bind_eq_some_iff]
  constructor
  · intro h
    rcases h with ⟨⟨edge, place⟩, hmem, hlink⟩
    rcases Edge.link?_eq_some_iff.mp hlink with ⟨hends, hplace⟩
    rw [hplace]
    exact ⟨edge, List.mk_mem_zipIdx_iff_getElem?.mp hmem, hends⟩
  · intro h
    rcases h with ⟨edge, hedge, hends⟩
    refine ⟨(edge, link.edge), List.mk_mem_zipIdx_iff_getElem?.mpr hedge, ?_⟩
    exact Edge.link?_eq_some_iff.mpr ⟨hends, rfl⟩

/-- Each edge has one link at most, since links carry the place of their edge. -/
theorem nodup_linksOf (edges : List Edge) : (linksOf edges).Nodup := by
  unfold linksOf
  rw [List.nodup_reverse]
  have hplaces : (edges.zipIdx.map Prod.snd).Pairwise (· < ·) := by
    rw [List.zipIdx_map_snd]
    exact List.pairwise_lt_range'
  unfold List.Nodup
  rw [List.pairwise_filterMap]
  apply (List.pairwise_map.mp hplaces).imp
  intro a b hlt first hfirst second hsecond heq
  have ha := (Edge.link?_eq_some_iff.mp hfirst).2
  have hb := (Edge.link?_eq_some_iff.mp hsecond).2
  rw [heq, hb] at ha
  exact absurd ha (Nat.ne_of_gt hlt)

theorem count_linksOf (edges : List Edge) (link : Link) :
    (linksOf edges).count link =
      if (edges[link.edge]?).bind Edge.endpoints? = some (link.source, link.target) then 1
      else 0 := by
  rw [(nodup_linksOf edges).count]
  simp only [mem_linksOf]

end GraphLayout
