import GraphLayout.Encode
import GraphLayout.Proofs.Parameters
import GraphLayout.Proofs.Rendering
import GraphLayout.Proofs.WholeFloats

/-!
# Parameters that are given

An object that has some members of the text of a config overrides the defaults by them. No
parameter may be given twice, and none may be given a value of another kind than its own.
-/

namespace GraphLayout

open Json (Value)

/-!
# Refusals
-/

/-- The values that may be given for a parameter: natural numbers of 32 bits for the greatest
number of iterations, and any numbers for the others. -/
def Parameter.Allows : Parameter -> Value -> Prop
  | maxIterations, value => exists n : Nat, n < UInt32.size ∧ value = .ofInt n
  | _, value => exists number, value = .number number

theorem Json.Number.toUInt32_eq_ok_iff {number : Json.Number} {result : UInt32} :
    number.toUInt32 = .ok result <->
      exists n : Nat, n < UInt32.size ∧ number = .whole n ∧ UInt32.ofNat n = result := by
  cases number with
  | real value =>
      simp [toUInt32]
  | whole value =>
      simp only [toUInt32]
      by_cases hrange : 0 ≤ value ∧ value < UInt32.size
      · rcases Int.eq_ofNat_of_zero_le hrange.1 with ⟨n, rfl⟩
        have hn : n < UInt32.size := Int.ofNat_lt.mp hrange.2
        rw [if_pos hrange]
        simp [hn]
      · rw [if_neg hrange]
        constructor
        · intro h
          cases h
        · intro h
          rcases h with ⟨n, hn, hvalue, _⟩
          cases hvalue
          exact absurd ⟨Int.natCast_nonneg n, Int.ofNat_lt.mpr hn⟩ hrange

theorem Json.Value.number?_ofInt {n : Nat} (h : n < UInt32.size) :
    (ofInt n).number?.bind (fun number => number.toUInt32.toOption) = some (UInt32.ofNat n) := by
  have hread : (Json.Number.whole n).toUInt32 = .ok (UInt32.ofNat n) :=
    Json.Number.toUInt32_eq_ok_iff.mpr ⟨n, h, rfl, rfl⟩
  exact Option.bind_eq_some_iff.mpr ⟨_, rfl, Json.toOption_eq_some_iff.mpr hread⟩

theorem Parameter.exists_convert_iff {parameter : Parameter} {value : Value} :
    (exists content, parameter.convert value = some content) <-> parameter.Allows value := by
  cases parameter with
  | maxIterations =>
      constructor
      · intro h
        rcases h with ⟨content, hcontent⟩
        rcases Option.bind_eq_some_iff.mp hcontent with ⟨number, hnumber, hread⟩
        rcases Json.Number.toUInt32_eq_ok_iff.mp (Json.toOption_eq_some_iff.mp hread) with
          ⟨n, hn, rfl, _⟩
        exact ⟨n, hn, Value.number?_eq_some_iff.mp hnumber⟩
      · intro h
        rcases h with ⟨n, hn, rfl⟩
        have hread := Value.number?_ofInt hn
        exact ⟨UInt32.ofNat n, hread⟩
  | _ =>
      constructor
      · intro h
        rcases h with ⟨content, hcontent⟩
        rcases Option.map_eq_some_iff.mp hcontent with ⟨number, hnumber, _⟩
        exact ⟨number, Value.number?_eq_some_iff.mp hnumber⟩
      · intro h
        rcases h with ⟨number, rfl⟩
        exact ⟨number.toFloat, rfl⟩

theorem Parameter.exists_sets_iff {parameter : Parameter} {values : List Value} :
    (exists content, parameter.Sets values content) <->
      values.length ≤ 1 ∧ forall value, value ∈ values -> parameter.Allows value := by
  constructor
  · intro h
    rcases h with ⟨content, hsets⟩
    cases hsets with
    | default =>
        exact ⟨Nat.zero_le 1, by simp⟩
    | given hcontent =>
        refine ⟨Nat.le_refl 1, fun value hvalue => ?_⟩
        cases List.mem_singleton.mp hvalue
        exact exists_convert_iff.mp ⟨_, hcontent⟩
  · intro h
    rcases h with ⟨hlength, hvalues⟩
    cases values with
    | nil =>
        exact ⟨_, Sets.default⟩
    | cons value values =>
        cases List.eq_nil_of_length_eq_zero (Nat.le_zero.mp (Nat.le_of_succ_le_succ hlength))
        rcases exists_convert_iff.mpr (hvalues value (List.mem_singleton.mpr rfl)) with
          ⟨content, hcontent⟩
        exact ⟨content, Sets.given hcontent⟩

namespace Config

theorem exists_ofJson_iff {text : String} {members : List (String × Value)}
    (htext : Json.Written text (.object members)) :
    (exists config, ofJson text = .ok config) <->
      forall parameter : Parameter,
        (Value.membersNamed parameter.name members).length ≤ 1 ∧
        forall value, value ∈ Value.membersNamed parameter.name members ->
          parameter.Allows value := by
  simp only [← Parameter.exists_sets_iff, ofJson_eq_ok_iff htext]
  constructor
  · intro h parameter
    rcases h with ⟨config, hconfig⟩
    exact ⟨config.part parameter, hconfig parameter⟩
  · intro h
    choose content hcontent using h
    refine ⟨ofParts content, fun parameter => ?_⟩
    rw [part_ofParts]
    exact hcontent parameter

theorem exists_error_of_not_ok {text : String} (h : ¬exists config, ofJson text = .ok config) :
    exists error, ofJson text = .error error := by
  cases hread : ofJson text with
  | error failure =>
      exact ⟨failure, rfl⟩
  | ok config =>
      exact absurd ⟨config, hread⟩ h

end Config

/-!
# Texts of objects
-/

theorem Json.written_of_value {text : String} {content : Value}
    (h : Json.value text.toList = .ok (content, [])) : Json.Written text content :=
  (Json.document_iff_written.mp
    (Json.document_iff.mpr ⟨[], h, Json.finish_eq_ok_iff.mp rfl⟩)).1

theorem Json.exists_spells_of_number (word : List Char) {number : Json.Number}
    (h : Json.number word = .ok (number, [])) : exists word, Json.Spells word (.number number) := by
  rcases Json.reads_number.sound h with ⟨word, _, hword⟩
  exact ⟨word, Json.Spells.number hword⟩

theorem Json.exists_written_object {members : List (String × Value)}
    (h : forall member, member ∈ members -> exists word, Json.Spells word member.2) :
    exists text, Json.Written text (.object members) := by
  have hmembers : forall member, member ∈ members ->
      exists word, Json.SpellsMember Json.Spells word member :=
    fun member hmem => Json.exists_spellsMember (h member hmem) member.1
  rcases Json.exists_spellsEntries hmembers '\x7d' true with ⟨word, hword⟩
  refine ⟨String.ofList ('\x7b' :: word), [], '\x7b' :: word, [], ?_, Json.blanks_nil,
    Json.blanks_nil, Json.Spells.object hword⟩
  rw [String.toList_ofList, List.append_nil, List.nil_append]

/-!
# Overrides
-/

theorem Decimal.Parts.exists_ofFloat_eq_finite {x : Float} (h : x.isFinite = true) :
    exists negative magnitude, ofFloat x = .finite negative magnitude := by
  rw [ofFloat_eq]
  change x.toModel.unpack.isFinite = true at h
  cases hunpack : x.toModel.unpack with
  | notANumber =>
      rw [hunpack] at h
      cases h
  | infinity sign =>
      rw [hunpack] at h
      cases h
  | zero sign =>
      exact ⟨_, _, rfl⟩
  | finite sign mantissa exponent canonical =>
      exact ⟨_, _, rfl⟩

theorem Json.Value.number?_ofFloat {x : Float} (h : x.isFinite = true) :
    (ofFloat x).number?.map Json.Number.toFloat = some x := by
  rcases Decimal.Parts.exists_ofFloat_eq_finite h with ⟨negative, magnitude, hparts⟩
  simp only [ofFloat, hparts]
  rfl

def Parameter.write : (parameter : Parameter) -> parameter.Content -> Value
  | maxIterations => fun (iterations : UInt32) => .ofInt iterations.toNat
  | attraction | repulsion | springLength | gravity | damper | movementThreshold => Value.ofFloat

def Parameter.membersOf (members : List (String × Value)) : List (String × Value) :=
  members.filter fun member => (ofName? member.1).isSome

namespace Config

structure Finite (config : Config Float) : Prop where
  attraction : config.attraction.isFinite = true
  repulsion : config.repulsion.isFinite = true
  springLength : config.springLength.isFinite = true
  gravity : config.gravity.isFinite = true
  damper : config.damper.isFinite = true
  movementThreshold : config.movementThreshold.isFinite = true

def member (config : Config Float) (parameter : Parameter) : String × Value :=
  (parameter.name, parameter.write (config.part parameter))

def keeping (config : Config Float) (chosen : List Parameter) : Config Float :=
  ofParts fun parameter =>
    if parameter ∈ chosen then config.part parameter
    else (Config.default : Config Float).part parameter

theorem toJson_eq (config : Config Float) :
    config.toJson = .object (Parameter.all.map config.member) :=
  rfl

theorem exists_written_toJson {config : Config Float}
    (h : forall parameter, exists word, Json.Spells word (config.member parameter).2) :
    exists text, Json.Written text config.toJson := by
  rw [toJson_eq]
  apply Json.exists_written_object
  intro member hmem
  rcases List.mem_map.mp hmem with ⟨parameter, _, rfl⟩
  exact h parameter

theorem finite_default : (Config.default : Config Float).Finite := by
  constructor <;> decide

theorem exists_spells_default (parameter : Parameter) :
    exists word, Json.Spells word ((Config.default : Config Float).member parameter).2 := by
  cases parameter with
  | attraction =>
      exact Json.exists_spells_of_number ['0', '.', '1'] rfl
  | repulsion =>
      exact Json.exists_spells_of_number ['1', '0', '0', '0', '0', '0', '.', '0'] rfl
  | springLength =>
      exact Json.exists_spells_of_number ['1', '0', '0', '.', '0'] rfl
  | gravity =>
      exact Json.exists_spells_of_number ['0', '.', '1'] rfl
  | damper =>
      exact Json.exists_spells_of_number ['0', '.', '5'] rfl
  | maxIterations =>
      exact Json.exists_spells_of_number ['5', '0', '0'] rfl
  | movementThreshold =>
      exact Json.exists_spells_of_number ['1', '0', '.', '0'] rfl

theorem keeping_all (config : Config Float) : config.keeping Parameter.all = config := by
  apply ext_part
  intro parameter
  rw [keeping, part_ofParts, if_pos parameter.mem_all]

theorem convert_member {config : Config Float} (h : config.Finite) (parameter : Parameter) :
    parameter.convert (config.member parameter).2 = some (config.part parameter) := by
  cases parameter with
  | attraction =>
      exact Value.number?_ofFloat h.attraction
  | repulsion =>
      exact Value.number?_ofFloat h.repulsion
  | springLength =>
      exact Value.number?_ofFloat h.springLength
  | gravity =>
      exact Value.number?_ofFloat h.gravity
  | damper =>
      exact Value.number?_ofFloat h.damper
  | maxIterations =>
      have hread := Value.number?_ofInt config.maxIterations.toNat_lt_size
      rw [UInt32.ofNat_toNat] at hread
      exact hread
  | movementThreshold =>
      exact Value.number?_ofFloat h.movementThreshold

theorem membersNamed_map_member {config : Config Float} {chosen : List Parameter}
    (h : chosen.Nodup) (parameter : Parameter) :
    Value.membersNamed parameter.name (chosen.map config.member) =
      if parameter ∈ chosen then [(config.member parameter).2] else [] := by
  induction chosen with
  | nil =>
      rfl
  | cons first chosen ih =>
      rcases List.nodup_cons.mp h with ⟨hfirst, hchosen⟩
      rw [List.map_cons]
      by_cases hsame : parameter = first
      · rw [hsame] at ih ⊢
        have hcons := Value.membersNamed_cons_self first.name (config.member first).2
          (chosen.map config.member)
        rw [ih hchosen, if_neg hfirst] at hcons
        rw [if_pos (List.mem_cons_self ..)]
        exact hcons
      · have hname : first.name ≠ parameter.name :=
          fun h => hsame (Parameter.name_injective h.symm)
        have hcons := Value.membersNamed_cons_of_ne hname (config.member first).2
          (chosen.map config.member)
        rw [ih hchosen] at hcons
        simp only [List.mem_cons, hsame, false_or]
        exact hcons

theorem membersNamed_membersOf (parameter : Parameter) (members : List (String × Value)) :
    Value.membersNamed parameter.name (Parameter.membersOf members) =
      Value.membersNamed parameter.name members := by
  rw [Value.membersNamed, Parameter.membersOf, List.filterMap_filter, Value.membersNamed]
  congr
  funext entry
  by_cases hname : entry.1 = parameter.name
  · simp [hname, Parameter.ofName?_name]
  · simp [hname]

theorem sets_part_keeping {config : Config Float} {chosen : List Parameter}
    (hfinite : config.Finite) (hchosen : chosen.Nodup) (parameter : Parameter) :
    parameter.Sets (Value.membersNamed parameter.name (chosen.map config.member))
      ((config.keeping chosen).part parameter) := by
  rw [membersNamed_map_member hchosen, keeping, part_ofParts]
  by_cases hmem : parameter ∈ chosen
  · rw [if_pos hmem, if_pos hmem]
    exact Parameter.Sets.given (convert_member hfinite parameter)
  · rw [if_neg hmem, if_neg hmem]
    exact Parameter.Sets.default

/-- Members of the text of a config, some or all of them and in any order among other members,
override the defaults. A parameter that is given twice is refused, and so is one that is given a
value that it does not allow, whatever else the object has. -/
theorem ofJson_overrides {text : String} {members : List (String × Value)}
    (htext : Json.Written text (.object members)) :
    (forall (config : Config Float) (chosen : List Parameter), config.Finite -> chosen.Nodup ->
      Parameter.membersOf members = chosen.map config.member ->
        ofJson text = .ok (config.keeping chosen)) ∧
    (forall config : Config Float, config.Finite -> config.toJson = .object members ->
      ofJson text = .ok config) ∧
    (forall parameter : Parameter,
      1 < (Value.membersNamed parameter.name members).length ->
        exists error, ofJson text = .error error) ∧
    (forall (parameter : Parameter) (value : Value), (parameter.name, value) ∈ members ->
      ¬parameter.Allows value -> exists error, ofJson text = .error error) := by
  have hkeeping : forall (config : Config Float) (chosen : List Parameter), config.Finite ->
      chosen.Nodup -> Parameter.membersOf members = chosen.map config.member ->
        ofJson text = .ok (config.keeping chosen) := by
    intro config chosen hfinite hchosen hmembers
    refine (ofJson_eq_ok_iff htext).mpr fun parameter => ?_
    rw [← membersNamed_membersOf, hmembers]
    exact sets_part_keeping hfinite hchosen parameter
  refine ⟨hkeeping, ?_, ?_, ?_⟩
  · intro config hfinite hmembers
    rw [toJson_eq] at hmembers
    cases hmembers
    rw [hkeeping config Parameter.all hfinite Parameter.nodup_all rfl, keeping_all]
  · intro parameter htwice
    exact exists_error_of_not_ok fun h =>
      Nat.not_le.mpr htwice ((exists_ofJson_iff htext).mp h parameter).1
  · intro parameter value hmem hvalue
    have hnamed : value ∈ Value.membersNamed parameter.name members :=
      List.mem_filterMap.mpr ⟨_, hmem, if_pos rfl⟩
    exact exists_error_of_not_ok fun h =>
      hvalue (((exists_ofJson_iff htext).mp h parameter).2 value hnamed)

/-- Two parameters with another member between them, all parameters, one of them twice, and one
that is null. -/
theorem ofJson_overrides_texts :
    let few : List (String × Value) := [("springLength", .number (.real 50.0)),
      ("x", .array [.null]), ("maxIterations", .ofInt 20)]
    let twice := "\x7b\"damper\":1,\"damper\":1\x7d"
    let unset := "\x7b\"gravity\":null\x7d"
    (exists text, Json.Written text (.object few) ∧
      ofJson text = .ok { Config.default with springLength := 50.0, maxIterations := 20 }) ∧
    (exists text, Json.Written text (Config.default : Config Float).toJson ∧
      ofJson text = .ok Config.default) ∧
    (exists error, ofJson twice = .error error) ∧ (exists error, ofJson unset = .error error) := by
  intro few twice unset
  have hfinite : ({ Config.default with springLength := 50.0, maxIterations := 20 } :
      Config Float).Finite := by
    constructor <;> decide
  refine ⟨?_, ?_, ?_, ?_⟩
  · have hfew : forall member, member ∈ few -> exists word, Json.Spells word member.2 := by
      have hlist : Json.SpellsEntries Json.Spells ']' true _ [.null] :=
        Json.SpellsEntries.entry (Json.SpellsLead.first Json.blanks_nil) Json.Spells.null
          (Json.SpellsEntries.closed Json.blanks_nil)
      intro member hmem
      simp only [few, List.mem_cons, List.not_mem_nil, or_false] at hmem
      rcases hmem with rfl | rfl | rfl
      · exact Json.exists_spells_of_number ['5', '0', '.', '0'] rfl
      · exact ⟨_, Json.Spells.array hlist⟩
      · exact Json.exists_spells_of_number ['2', '0'] rfl
    rcases Json.exists_written_object hfew with ⟨text, htext⟩
    exact ⟨text, htext, (ofJson_overrides htext).1 _ [.springLength, .maxIterations] hfinite
      (by decide) rfl⟩
  · rcases exists_written_toJson exists_spells_default with ⟨text, htext⟩
    exact ⟨text, htext, (ofJson_overrides htext).2.1 _ finite_default rfl⟩
  · have htwice : Json.Written twice (.object [("damper", .ofInt 1), ("damper", .ofInt 1)]) :=
      Json.written_of_value (by cbv)
    exact (ofJson_overrides htwice).2.2.1 .damper (by decide)
  · have hunset : Json.Written unset (.object [("gravity", .null)]) :=
      Json.written_of_value (by cbv)
    refine (ofJson_overrides hunset).2.2.2 .gravity .null (List.mem_singleton.mpr rfl) fun h => ?_
    rcases h with ⟨number, hnumber⟩
    cases hnumber

end Config
end GraphLayout
