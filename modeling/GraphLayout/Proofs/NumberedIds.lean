import GraphLayout.Layout.FloatIds
import GraphLayout.Layout.LoadJson
import GraphLayout.Proofs.Neighbors
import GraphLayout.Proofs.WholeFloats

/-!
# Ids that are handed out as binary64 numbers

A caller whose only numbers are binary64 ones gets the ids of neighbors as numbers and may
hand them back. A number in the exact range stands for one id and finds the node of it. An id
beyond the range is rounded, to a number beyond the range, and such a number names no node.
-/

namespace GraphLayout
namespace NodeId

open Decimal (Parts Magnitude)
open Float.Model (UnpackedFloat)
open Float.Model.UnpackedFloat (Sign)

/-!
# The numbers of ids
-/

/-- No whole number in the exact range is a rounded one. -/
def InExactRange (x : Float) : Prop :=
  x.abs ≤ Float.ofNat greatestExact

theorem wholeValue?_eq_some_iff {magnitude : Magnitude} {value : Nat} :
    wholeValue? magnitude = some value <->
      magnitude.mantissa * 2 ^ magnitude.exponent.toNat =
        value * 2 ^ (-magnitude.exponent).toNat := by
  have hpos := Nat.two_pow_pos (-magnitude.exponent).toNat
  simp only [wholeValue?, Decimal.scaled, Nat.pow_eq, Int.toNat_zero, Int.neg_zero, Nat.pow_zero,
    Nat.mul_one]
  generalize magnitude.mantissa * 2 ^ magnitude.exponent.toNat = numerator
  generalize 2 ^ (-magnitude.exponent).toNat = denominator at hpos
  constructor
  · intro h
    split at h
    · next hdvd =>
        cases h
        exact (Nat.div_mul_cancel (Nat.dvd_of_mod_eq_zero hdvd)).symm
    · contradiction
  · intro h
    rw [h, Nat.mul_mod_left, if_pos rfl, Nat.mul_div_cancel value hpos]

theorem wholeValue?_zero : wholeValue? ⟨0, -1074⟩ = some 0 := by
  rw [wholeValue?_eq_some_iff, Nat.zero_mul, Nat.zero_mul]

theorem value_eq_zero_iff {magnitude : Magnitude} {value : Nat}
    (hwhole : wholeValue? magnitude = some value) : value = 0 <-> magnitude.mantissa = 0 := by
  have hscaled : forall n twos : Nat, n * 2 ^ twos = 0 <-> n = 0 := by
    simp
  rw [wholeValue?_eq_some_iff] at hwhole
  rw [← hscaled value, ← hwhole, hscaled]

theorem ofFloat?_eq_some_iff {x : Float} {id : NodeId} :
    ofFloat? x = some id <->
      exists negative magnitude value, Parts.ofFloat x = .finite negative magnitude ∧
        wholeValue? magnitude = some value ∧ value ≤ greatestExact ∧
        id = ⟨.ofInt (if negative then -(value : Int) else value)⟩ := by
  unfold ofFloat?
  constructor
  · intro h
    split at h
    · next negative magnitude hparts =>
        split at h
        · next value hwhole =>
            split at h
            · next hle =>
                cases h
                exact ⟨negative, magnitude, value, hparts, hwhole, hle, rfl⟩
            · contradiction
        · contradiction
    · contradiction
  · intro h
    rcases h with ⟨negative, magnitude, value, hparts, hwhole, hle, rfl⟩
    simp only [hparts, hwhole, if_pos hle]

theorem natAbs_toInt_le (id : NodeId) : id.raw.toInt.natAbs ≤ 2 ^ 63 := by
  have hlow := id.raw.le_toInt
  have hhigh := id.raw.toInt_lt
  omega

theorem parts_toFloat_of_le {id : NodeId} (hne : id.raw.toInt ≠ 0)
    (h : id.raw.toInt.natAbs ≤ greatestExact) :
    Parts.ofFloat id.toFloat =
      .finite (Parts.isNegative (signOf id.raw.toInt)) (.ofWhole id.raw.toInt.natAbs) := by
  have hlt : id.raw.toInt.natAbs < 2 ^ 53 := Nat.lt_succ_of_le h
  have hpos := Magnitude.mantissa_ofWhole_pos (Int.natAbs_ne_zero.mpr hne)
  rw [Parts.ofFloat_eq, toFloat, unpack_ofInt_of_lt hne hlt hpos]
  rfl

theorem signed_natAbs (value : Int) :
    (if Parts.isNegative (signOf value) = true then -(value.natAbs : Int) else value.natAbs) =
      value := by
  unfold signOf
  by_cases hnegative : value < 0
  · rw [if_pos hnegative, Parts.isNegative, if_pos rfl]
    omega
  · rw [if_neg hnegative, Parts.isNegative, if_neg Bool.false_ne_true]
    omega

theorem ofFloat?_toFloat {id : NodeId} (h : id.raw.toInt.natAbs ≤ greatestExact) :
    ofFloat? id.toFloat = some id := by
  by_cases hzero : id.raw.toInt = 0
  · have hid : id = ⟨0⟩ := congrArg NodeId.mk (Int64.toInt_inj.mp hzero)
    rw [hid, ofFloat?_eq_some_iff]
    exact ⟨false, ⟨0, -1074⟩, 0, rfl, wholeValue?_zero, Nat.zero_le _, rfl⟩
  · rw [ofFloat?_eq_some_iff]
    refine ⟨_, _, id.raw.toInt.natAbs, parts_toFloat_of_le hzero h, ?_, h, ?_⟩
    · rw [wholeValue?_eq_some_iff]
      simp [Magnitude.mantissa_ofWhole, Magnitude.exponent_ofWhole]
    · rw [signed_natAbs, Int64.ofInt_toInt]

/-- The only mantissa of 53 digits for a whole number in the exact range. -/
theorem magnitude_of_wholeValue? {magnitude : Magnitude} {value : Nat}
    (hwhole : wholeValue? magnitude = some value) (hle : value ≤ greatestExact)
    (hfull : magnitude.mantissa.log2 = 52) :
    magnitude = .ofWhole value := by
  have hmantissa := Rounding.ne_zero_of_log2 hfull
  have hvalue : value ≠ 0 := mt (value_eq_zero_iff hwhole).mp hmantissa
  rcases magnitude with ⟨mantissa, exponent⟩
  rw [wholeValue?_eq_some_iff] at hwhole
  change mantissa.log2 = 52 at hfull
  change mantissa * 2 ^ exponent.toNat = value * 2 ^ (-exponent).toNat at hwhole
  have hlog : value.log2 < 53 := (Nat.log2_lt hvalue).mpr (Nat.lt_succ_of_le hle)
  have hdigits := congrArg Nat.log2 hwhole
  rw [Rounding.log2_mul_two_pow hmantissa, Rounding.log2_mul_two_pow hvalue, hfull] at hdigits
  have hexponent : exponent = -(52 - value.log2 : Nat) := by
    omega
  subst hexponent
  simpa [Magnitude.ofWhole] using hwhole

theorem unpack_of_parts {x : Float} {negative : Bool} {magnitude : Magnitude}
    (h : Parts.ofFloat x = .finite negative magnitude) :
    (exists sign, x.toModel.unpack = .zero sign ∧ magnitude.mantissa = 0) ∨
      exists hpos, x.toModel.unpack = .finite (if negative then .negative else .positive)
        magnitude.mantissa magnitude.exponent hpos := by
  rw [Parts.ofFloat_eq] at h
  cases hunpack : x.toModel.unpack with
  | notANumber =>
      rw [hunpack] at h
      contradiction
  | infinity sign =>
      rw [hunpack] at h
      contradiction
  | zero sign =>
      rw [hunpack] at h
      cases h
      exact Or.inl ⟨sign, rfl, rfl⟩
  | finite sign mantissa exponent hpos =>
      rw [hunpack] at h
      cases h
      cases sign with
      | positive =>
          exact Or.inr ⟨hpos, rfl⟩
      | negative =>
          exact Or.inr ⟨hpos, rfl⟩

theorem log2_mantissa_of_parts {x : Float} {negative : Bool} {magnitude : Magnitude} {value : Nat}
    (hparts : Parts.ofFloat x = .finite negative magnitude)
    (hwhole : wholeValue? magnitude = some value) (hne : value ≠ 0) :
    magnitude.mantissa.log2 = 52 := by
  rcases Parts.mantissa_of_ofFloat hparts with hfull | ⟨hsmall, hexponent⟩
  · exact hfull
  · rw [wholeValue?_eq_some_iff, hexponent] at hwhole
    have hpow : 2 ^ 52 ≤ 2 ^ (-(-1074) : Int).toNat :=
      Nat.pow_le_pow_right Nat.two_pos (by decide)
    have hlarge := Nat.le_mul_of_pos_left (2 ^ (-(-1074) : Int).toNat) (Nat.pos_of_ne_zero hne)
    rw [Int.toNat_of_nonpos (by decide), Nat.pow_zero, Nat.mul_one] at hwhole
    omega

theorem natAbs_of_negative {negative : Bool} {value : Nat} :
    (if negative then -(value : Int) else value).natAbs = value := by
  cases negative with
  | false =>
      exact Int.natAbs_natCast value
  | true =>
      exact (Int.natAbs_neg value).trans (Int.natAbs_natCast value)

theorem toInt_of_negative {negative : Bool} {value : Nat} (hle : value ≤ greatestExact) :
    (Int64.ofInt (if negative then -(value : Int) else value)).toInt =
      if negative then -(value : Int) else value := by
  have hlt : value < 2 ^ 53 := Nat.lt_succ_of_le hle
  have hvalue := @natAbs_of_negative negative value
  exact Int64.toInt_ofInt_of_le (by omega) (by omega)

theorem signOf_of_negative {negative : Bool} {value : Nat} (hne : value ≠ 0) :
    signOf (if negative then -(value : Int) else value) =
      if negative then .negative else .positive := by
  cases negative with
  | false =>
      rw [if_neg Bool.false_ne_true, if_neg Bool.false_ne_true, signOf, if_neg (by omega)]
  | true =>
      rw [if_pos rfl, if_pos rfl, signOf, if_pos (by omega)]

theorem beq_of_unpack_eq {x y : Float} (h : x.toModel.unpack = y.toModel.unpack)
    (hne : y.toModel.unpack ≠ .notANumber) : (x == y) = true := by
  change UnpackedFloat.beq x.toModel.unpack y.toModel.unpack = true
  rw [UnpackedFloat.beq_iff_ne_notANumber_and_eq, h]
  exact ⟨hne, hne, Or.inl rfl⟩

theorem beq_ofInt_zero {x : Float} {sign : Sign} (h : x.toModel.unpack = .zero sign) :
    (x == Float.ofInt 0) = true := by
  change UnpackedFloat.beq x.toModel.unpack (Float.ofInt 0).toModel.unpack = true
  rw [h]
  cases sign with
  | positive =>
      rfl
  | negative =>
      rfl

theorem unpack_ofInt_of_parts {x : Float} {negative : Bool} {magnitude : Magnitude} {value : Nat}
    (hparts : Parts.ofFloat x = .finite negative magnitude)
    (hwhole : wholeValue? magnitude = some value) (hle : value ≤ greatestExact) (hne : value ≠ 0)
    (hpos) :
    (Float.ofInt (if negative then -(value : Int) else value)).toModel.unpack =
      .finite (if negative then .negative else .positive) magnitude.mantissa magnitude.exponent
        hpos := by
  have hlt : value < 2 ^ 53 := Nat.lt_succ_of_le hle
  have hmagnitude := magnitude_of_wholeValue? hwhole hle (log2_mantissa_of_parts hparts hwhole hne)
  subst hmagnitude
  have hvalue := @natAbs_of_negative negative value
  rw [← signOf_of_negative hne]
  generalize (if negative then -(value : Int) else value) = signed at hvalue
  subst hvalue
  exact unpack_ofInt_of_lt (by omega) hlt hpos

/-- A number that names a node is the number of the id that it names. -/
theorem beq_toFloat {x : Float} {id : NodeId} (h : ofFloat? x = some id) :
    (x == id.toFloat) = true := by
  rcases ofFloat?_eq_some_iff.mp h with ⟨negative, magnitude, value, hparts, hwhole, hle, rfl⟩
  rw [toFloat, toInt_of_negative hle]
  rcases unpack_of_parts hparts with ⟨sign, hunpack, hmantissa⟩ | ⟨hpos, hunpack⟩
  · rw [(value_eq_zero_iff hwhole).mpr hmantissa, Int.natCast_zero, Int.neg_zero, ite_self]
    exact beq_ofInt_zero hunpack
  · have hne : value ≠ 0 := mt (value_eq_zero_iff hwhole).mp hpos.ne'
    have hsame := unpack_ofInt_of_parts hparts hwhole hle hne hpos
    apply beq_of_unpack_eq
    · rw [hunpack, hsame]
    · rw [hsame]
      simp

/-!
# Beyond the range
-/

theorem parts_toFloat_of_lt {id : NodeId} (h : greatestExact < id.raw.toInt.natAbs) :
    exists magnitude,
      Parts.ofFloat id.toFloat = .finite (Parts.isNegative (signOf id.raw.toInt)) magnitude ∧
        magnitude.IsNormal ∧ 0 < magnitude.exponent := by
  rcases unpack_ofInt_of_le (Nat.succ_le_of_lt h) id.natAbs_toInt_le with
    ⟨magnitude, hpos, hunpack, hnormal, hexponent⟩
  refine ⟨magnitude, ?_, hnormal, hexponent⟩
  rw [Parts.ofFloat_eq, toFloat, hunpack]
  rfl

theorem ofFloat?_toFloat_of_lt {id : NodeId} (h : greatestExact < id.raw.toInt.natAbs) :
    ofFloat? id.toFloat = none := by
  rw [Option.eq_none_iff_forall_ne_some]
  intro other hother
  rcases parts_toFloat_of_lt h with ⟨magnitude, hparts, hnormal, hexponent⟩
  rcases ofFloat?_eq_some_iff.mp hother with ⟨_, _, value, hparts', hwhole, hle, -⟩
  rw [hparts] at hparts'
  cases hparts'
  rw [magnitude_of_wholeValue? hwhole hle hnormal.full, Magnitude.exponent_ofWhole] at hexponent
  omega

theorem inExactRange_iff {x : Float} {sign : Sign} {magnitude : Magnitude}
    {hpos : 0 < magnitude.mantissa}
    (hunpack : x.toModel.unpack = .finite sign magnitude.mantissa magnitude.exponent hpos)
    (h : magnitude.IsNormal) :
    InExactRange x <->
      magnitude.exponent < 0 ∨ magnitude.exponent = 0 ∧ magnitude.mantissa ≤ greatestExact := by
  have hgreatest : (Float.ofNat greatestExact).toModel.unpack =
      .finite .positive greatestExact 0 (by decide) := rfl
  have hle : InExactRange x <->
      UnpackedFloat.le x.abs.toModel.unpack (Float.ofNat greatestExact).toModel.unpack = true :=
    decide_eq_true_iff
  have habs : x.abs.toModel.unpack =
      .finite .positive magnitude.mantissa magnitude.exponent hpos :=
    unpack_of_resigned UnpackedFloat.abs hunpack h rfl rfl
  rw [hle, habs, hgreatest]
  change ((compare magnitude.exponent 0).then
    (compare magnitude.mantissa greatestExact)).isLE = true <-> _
  rcases Int.lt_trichotomy magnitude.exponent 0 with hlt | heq | hgt
  · rw [Int.compare_eq_lt.mpr hlt]
    simp [hlt]
  · rw [heq]
    simp [Nat.isLE_compare]
  · rw [Int.compare_eq_gt.mpr hgt]
    simp
    omega

theorem inExactRange_toFloat {id : NodeId} :
    InExactRange id.toFloat <-> id.raw.toInt.natAbs ≤ greatestExact := by
  unfold toFloat
  by_cases hzero : id.raw.toInt = 0
  · rw [hzero]
    exact ⟨fun _ => Nat.zero_le _, fun _ => rfl⟩
  by_cases h : id.raw.toInt.natAbs ≤ greatestExact
  · have hlt : id.raw.toInt.natAbs < 2 ^ 53 := Nat.lt_succ_of_le h
    have hne := Int.natAbs_ne_zero.mpr hzero
    rw [inExactRange_iff (unpack_ofInt_of_lt hzero hlt (Magnitude.mantissa_ofWhole_pos hne))
      (Magnitude.isNormal_ofWhole hne hlt), iff_true_right h, Magnitude.mantissa_ofWhole,
      Magnitude.exponent_ofWhole]
    by_cases hexponent : 52 - id.raw.toInt.natAbs.log2 = 0
    · rw [hexponent, Nat.pow_zero, Nat.mul_one]
      exact Or.inr ⟨rfl, h⟩
    · left
      omega
  · rcases unpack_ofInt_of_le (Nat.succ_le_of_lt (Nat.lt_of_not_le h)) id.natAbs_toInt_le with
      ⟨magnitude, hpos, hunpack, hnormal, hexponent⟩
    rw [inExactRange_iff hunpack hnormal, iff_false_right h]
    omega

/-!
# Equal numbers
-/

theorem ofFloat?_congr {x y : Float} (h : (x == y) = true) : ofFloat? x = ofFloat? y := by
  have hzero : ofFloat? 0 = some ⟨0⟩ := @ofFloat?_toFloat ⟨0⟩ (Nat.zero_le _)
  have hminus : ofFloat? (-0) = some ⟨0⟩ := by
    rw [ofFloat?_eq_some_iff]
    exact ⟨true, ⟨0, -1074⟩, 0, rfl, wholeValue?_zero, Nat.zero_le _, rfl⟩
  rcases Float.beq_iff_ne_nan_and_eq.mp h with ⟨-, -, rfl | ⟨rfl, rfl⟩ | ⟨rfl, rfl⟩⟩
  · rfl
  · rw [hzero, hminus]
  · rw [hzero, hminus]

theorem toFloat_beq_iff {id other : NodeId} (h : id.raw.toInt.natAbs ≤ greatestExact) :
    (other.toFloat == id.toFloat) = true <-> other = id := by
  have hid := ofFloat?_toFloat h
  constructor
  · intro hbeq
    have hother : ofFloat? other.toFloat = some id := (ofFloat?_congr hbeq).trans hid
    rcases Nat.lt_or_ge greatestExact other.raw.toInt.natAbs with hlt | hle
    · rw [ofFloat?_toFloat_of_lt hlt] at hother
      contradiction
    · rw [ofFloat?_toFloat hle] at hother
      exact Option.some.inj hother
  · rintro rfl
    exact beq_toFloat hid

example : toFloat ⟨9007199254740992⟩ = toFloat ⟨9007199254740993⟩ :=
  rfl

end NodeId

/-!
# Calls
-/

inductive NumberedCall where
  | loadJson (text : String)
  | simulate
  | remove (x : Float)
  | clear

namespace Layout

variable {α : Type} [Scalar α]

def call (layout : Layout α) : NumberedCall -> Layout α
  | .loadJson text => (layout.loadJson text).1
  | .simulate => layout.simulate.1
  | .remove x => (layout.removeNumbered x).1
  | .clear => layout.clear

def callAll (layout : Layout α) (calls : List NumberedCall) : Layout α :=
  calls.foldl call layout

theorem coherent_loadJson {layout : Layout α} (h : layout.Coherent) (text : String) :
    (layout.loadJson text).1.Coherent := by
  unfold loadJson
  cases Graph.ofJson text with
  | ok graph =>
      exact coherent_load layout graph
  | error error =>
      exact h

theorem coherent_removeNumbered {layout : Layout α} (h : layout.Coherent) (x : Float) :
    (layout.removeNumbered x).1.Coherent := by
  unfold removeNumbered
  cases NodeId.ofFloat? x with
  | some id =>
      exact coherent_remove h id
  | none =>
      exact h

theorem coherent_call {layout : Layout α} (h : layout.Coherent) (request : NumberedCall) :
    (layout.call request).Coherent := by
  cases request with
  | loadJson text =>
      exact coherent_loadJson h text
  | simulate =>
      exact coherent_simulate h
  | remove x =>
      exact coherent_removeNumbered h x
  | clear =>
      exact coherent_perform h .clear

theorem coherent_callAll {layout : Layout α} (h : layout.Coherent) (calls : List NumberedCall) :
    (layout.callAll calls).Coherent := by
  induction calls generalizing layout with
  | nil =>
      exact h
  | cons request rest ih =>
      exact ih (coherent_call h request)

/-!
# Numbers of neighbors
-/

omit [Scalar α] in
theorem mem_numberedNeighbors {layout : Layout α} {x y : Float} :
    y ∈ layout.numberedNeighbors x <->
      exists a b, NodeId.ofFloat? x = some a ∧ b ∈ layout.neighbors a ∧ b.toFloat = y := by
  unfold numberedNeighbors
  cases NodeId.ofFloat? x with
  | none =>
      simp
  | some id =>
      simp

omit [Scalar α] in
theorem numberedNeighbors_of_some (layout : Layout α) {x : Float} {id : NodeId}
    (h : NodeId.ofFloat? x = some id) :
    layout.numberedNeighbors x = (layout.neighbors id).map NodeId.toFloat := by
  unfold numberedNeighbors
  rw [h]

omit [Scalar α] in
theorem findNumbered?_of_some (layout : Layout α) {x : Float} {id : NodeId}
    (h : NodeId.ofFloat? x = some id) : layout.findNumbered? x = layout.findNode? id := by
  unfold findNumbered?
  rw [h, Option.bind_some]

omit [Scalar α] in
theorem nodup_neighbors (layout : Layout α) (id : NodeId) : (layout.neighbors id).Nodup := by
  refine (layout.pairwise_neighbors id).imp fun {a b} hlt heq => ?_
  rw [heq] at hlt
  exact Int64.lt_irrefl hlt

omit [Scalar α] in
theorem count_numberedNeighbors (layout : Layout α) {x : Float} {a b : NodeId}
    (hx : NodeId.ofFloat? x = some a) (hb : b ∈ layout.neighbors a)
    (hrange : b.raw.toInt.natAbs ≤ NodeId.greatestExact) :
    (layout.numberedNeighbors x).count b.toFloat = 1 := by
  have hcount : (layout.neighbors a).countP ((· == b.toFloat) ∘ NodeId.toFloat) =
      (layout.neighbors a).countP (· == b) := by
    refine List.countP_congr fun other _ => ?_
    rw [Function.comp_apply, NodeId.toFloat_beq_iff hrange, beq_iff_eq]
  rw [layout.numberedNeighbors_of_some hx, List.count, List.countP_map, hcount]
  exact List.count_eq_one_of_mem (layout.nodup_neighbors a) hb

omit [Scalar α] in
theorem unnumbered_toFloat (layout : Layout α) {id : NodeId}
    (hrange : NodeId.greatestExact < id.raw.toInt.natAbs) :
    layout.findNumbered? id.toFloat = none ∧ layout.numberedNeighbors id.toFloat = [] := by
  have hnone := NodeId.ofFloat?_toFloat_of_lt hrange
  constructor
  · rw [findNumbered?, hnone]
    rfl
  · rw [numberedNeighbors, hnone]

theorem Coherent.findNode?_of_mem_neighbors {layout : Layout α} (h : layout.Coherent)
    {a b : NodeId} (hb : b ∈ layout.neighbors a) :
    exists node, layout.findNode? b = some node ∧ node.id = b := by
  rcases h.mem_neighbors.mp (h.mem_neighbors_comm.mp hb) with ⟨_, _, slot, _, _, hslot, -⟩
  rcases h.holds_of_nodeIndex? hslot with ⟨node, hnode, hid⟩
  refine ⟨node, ?_, hid⟩
  rw [findNode?, hslot]
  exact hnode

theorem Coherent.findNumbered?_of_mem_neighbors {layout : Layout α} (h : layout.Coherent)
    {a b : NodeId} (hb : b ∈ layout.neighbors a)
    (hrange : b.raw.toInt.natAbs ≤ NodeId.greatestExact) :
    exists node, layout.findNumbered? b.toFloat = some node ∧ node.id.toFloat = b.toFloat := by
  rcases h.findNode?_of_mem_neighbors hb with ⟨node, hnode, hid⟩
  rw [layout.findNumbered?_of_some (NodeId.ofFloat?_toFloat hrange)]
  exact ⟨node, hnode, congrArg NodeId.toFloat hid⟩

theorem Coherent.contains_numberedNeighbors {layout : Layout α} (h : layout.Coherent) {x : Float}
    {a b : NodeId} (hx : NodeId.ofFloat? x = some a) (hb : b ∈ layout.neighbors a)
    (hrange : b.raw.toInt.natAbs ≤ NodeId.greatestExact) :
    (layout.numberedNeighbors b.toFloat).contains x = true := by
  rw [layout.numberedNeighbors_of_some (NodeId.ofFloat?_toFloat hrange),
    List.contains_iff_exists_mem_beq]
  exact ⟨a.toFloat, List.mem_map_of_mem (h.mem_neighbors_comm.mp hb), NodeId.beq_toFloat hx⟩

/-- The number of an id in the range stands for it, so that neighbors can be handed back. -/
theorem numberedNeighbors_handed_back (dimensions : Dimensions) (config : Config α)
    (calls : List NumberedCall) :
    let layout := (new dimensions config).callAll calls
    (forall id : NodeId, id.raw.toInt.natAbs ≤ NodeId.greatestExact ->
      layout.findNumbered? id.toFloat = layout.findNode? id ∧
        layout.numberedNeighbors id.toFloat = (layout.neighbors id).map NodeId.toFloat) ∧
      forall x y, y ∈ layout.numberedNeighbors x ->
        (NodeId.InExactRange y ->
          (layout.numberedNeighbors x).count y = 1 ∧
            (exists node, layout.findNumbered? y = some node ∧ node.id.toFloat = y) ∧
            (layout.numberedNeighbors y).contains x = true) ∧
          (¬NodeId.InExactRange y ->
            layout.findNumbered? y = none ∧ layout.numberedNeighbors y = []) := by
  intro layout
  have hcoherent : layout.Coherent := coherent_callAll (coherent_new dimensions config) calls
  constructor
  · intro id hrange
    have hid := NodeId.ofFloat?_toFloat hrange
    exact ⟨layout.findNumbered?_of_some hid, layout.numberedNeighbors_of_some hid⟩
  · intro x y hy
    rcases mem_numberedNeighbors.mp hy with ⟨a, b, hx, hb, rfl⟩
    rw [NodeId.inExactRange_toFloat]
    constructor
    · intro hrange
      exact ⟨layout.count_numberedNeighbors hx hb hrange,
        hcoherent.findNumbered?_of_mem_neighbors hb hrange,
        hcoherent.contains_numberedNeighbors hx hb hrange⟩
    · intro hrange
      exact layout.unnumbered_toFloat (Nat.lt_of_not_le hrange)

theorem numberedNeighbors_handed_back_pair :
    let text := "[\x7b\"id\":1\x7d,\x7b\"id\":2\x7d," ++
      "\x7b\"id\":-1,\"from\":1,\"to\":2\x7d]"
    let layout := (new .two (Config.default : Config Float)).callAll [.loadJson text]
    layout.numberedNeighbors 1 = [2] ∧ NodeId.InExactRange 2 ∧
      (layout.numberedNeighbors 1).count 2 = 1 ∧
      (exists node, layout.findNumbered? 2 = some node ∧ node.id.toFloat = 2) ∧
      (layout.numberedNeighbors 2).contains 1 = true := by
  intro text layout
  have hneighbors : layout.neighbors ⟨1⟩ = [⟨2⟩] := by
    decide +kernel
  rcases numberedNeighbors_handed_back .two (Config.default : Config Float) [.loadJson text] with
    ⟨hnumbered, hback⟩
  have hlist : layout.numberedNeighbors 1 = [2] :=
    (hnumbered ⟨1⟩ (by decide)).2.trans (congrArg (List.map NodeId.toFloat) hneighbors)
  have hmem : (2 : Float) ∈ layout.numberedNeighbors 1 := by
    rw [hlist]
    exact List.mem_singleton_self 2
  have hrange : NodeId.InExactRange 2 := rfl
  exact ⟨hlist, hrange, (hback 1 2 hmem).1 hrange⟩

/-- A neighbor beyond the range is handed out as a number that names no node. -/
theorem numberedNeighbors_rounded :
    let text := "[\x7b\"id\":1\x7d,\x7b\"id\":9007199254740992\x7d," ++
      "\x7b\"id\":-1,\"from\":1,\"to\":9007199254740992\x7d]"
    let layout := (new .two (Config.default : Config Float)).callAll [.loadJson text]
    ¬forall x y, y ∈ layout.numberedNeighbors x ->
      (layout.numberedNeighbors x).count y = 1 ∧ (layout.findNumbered? y).isSome = true ∧
        (layout.numberedNeighbors y).contains x = true := by
  intro text layout h
  have hneighbor : (⟨9007199254740992⟩ : NodeId) ∈ layout.neighbors ⟨1⟩ := by
    decide +kernel
  have hone : NodeId.ofFloat? 1 = some ⟨1⟩ := @NodeId.ofFloat?_toFloat ⟨1⟩ (by decide)
  have hnone : NodeId.ofFloat? 9007199254740992 = none :=
    @NodeId.ofFloat?_toFloat_of_lt ⟨9007199254740992⟩ (by decide)
  have hmem : (9007199254740992 : Float) ∈ layout.numberedNeighbors 1 :=
    mem_numberedNeighbors.mpr ⟨⟨1⟩, ⟨9007199254740992⟩, hone, hneighbor, rfl⟩
  have hfound := (h 1 9007199254740992 hmem).2.1
  rw [findNumbered?, hnone] at hfound
  contradiction

end Layout
end GraphLayout
