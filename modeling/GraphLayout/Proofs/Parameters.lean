import GraphLayout.Decode.Config
import GraphLayout.Proofs.Json.Records
import Mathlib.Tactic.Choose

/-!
# Parameters by name

The parameters of a layout one by one: the name of each, its part in a config and in a draft,
and what is read for it. What an object of parameters is read to is told for each parameter
by the values that the object gives for it, in whatever order they stand among other members.
-/

namespace GraphLayout

open Json (Value Converts)

inductive Parameter where
  | attraction
  | repulsion
  | springLength
  | gravity
  | damper
  | maxIterations
  | movementThreshold
  deriving DecidableEq

namespace Parameter

def all : List Parameter :=
  [attraction, repulsion, springLength, gravity, damper, maxIterations, movementThreshold]

def name : Parameter -> String
  | attraction => "attraction"
  | repulsion => "repulsion"
  | springLength => "springLength"
  | gravity => "gravity"
  | damper => "damper"
  | maxIterations => "maxIterations"
  | movementThreshold => "movementThreshold"

def Content : Parameter -> Type
  | maxIterations => UInt32
  | _ => Float

def ofName? (name : String) : Option Parameter :=
  all.find? fun parameter => parameter.name == name

theorem mem_all (parameter : Parameter) : parameter ∈ all := by
  cases parameter <;> decide

theorem nodup_all : all.Nodup := by
  decide

theorem ofName?_name (parameter : Parameter) : ofName? parameter.name = some parameter := by
  cases parameter <;> decide

theorem ofName?_eq_some_iff {name : String} {parameter : Parameter} :
    ofName? name = some parameter <-> name = parameter.name := by
  constructor
  · intro h
    have hname := List.find?_some h
    exact (beq_iff_eq.mp hname).symm
  · intro h
    rw [h, ofName?_name]

theorem ne_name_of_ofName? {name : String} (h : ofName? name = none) (parameter : Parameter) :
    name ≠ parameter.name := by
  intro hname
  rw [hname, ofName?_name] at h
  contradiction

theorem name_injective {first second : Parameter} (h : first.name = second.name) :
    first = second := by
  have hfirst := ofName?_name first
  rw [h, ofName?_name] at hfirst
  exact (Option.some.inj hfirst).symm

end Parameter

/-!
# Configs and drafts by their parts
-/

namespace Config

def part (config : Config Float) : (parameter : Parameter) -> parameter.Content
  | .attraction => config.attraction
  | .repulsion => config.repulsion
  | .springLength => config.springLength
  | .gravity => config.gravity
  | .damper => config.damper
  | .maxIterations => config.maxIterations
  | .movementThreshold => config.movementThreshold

def ofParts (part : (parameter : Parameter) -> parameter.Content) : Config Float where
  attraction := part .attraction
  repulsion := part .repulsion
  springLength := part .springLength
  gravity := part .gravity
  damper := part .damper
  maxIterations := part .maxIterations
  movementThreshold := part .movementThreshold

theorem ofParts_part (config : Config Float) : ofParts config.part = config :=
  rfl

theorem part_ofParts (part : (parameter : Parameter) -> parameter.Content)
    (parameter : Parameter) : (ofParts part).part parameter = part parameter := by
  cases parameter <;> rfl

theorem ext_part {first second : Config Float}
    (h : forall parameter, first.part parameter = second.part parameter) : first = second := by
  rw [← ofParts_part first, ← ofParts_part second, funext h]

namespace Draft

def part (draft : Draft) : (parameter : Parameter) -> Option parameter.Content
  | .attraction => draft.attraction
  | .repulsion => draft.repulsion
  | .springLength => draft.springLength
  | .gravity => draft.gravity
  | .damper => draft.damper
  | .maxIterations => draft.maxIterations
  | .movementThreshold => draft.movementThreshold

def ofParts (part : (parameter : Parameter) -> Option parameter.Content) : Draft where
  attraction := part .attraction
  repulsion := part .repulsion
  springLength := part .springLength
  gravity := part .gravity
  damper := part .damper
  maxIterations := part .maxIterations
  movementThreshold := part .movementThreshold

def put (draft : Draft) : (parameter : Parameter) -> parameter.Content -> Draft
  | .attraction, value => { draft with attraction := some value }
  | .repulsion, value => { draft with repulsion := some value }
  | .springLength, value => { draft with springLength := some value }
  | .gravity, value => { draft with gravity := some value }
  | .damper, value => { draft with damper := some value }
  | .maxIterations, value => { draft with maxIterations := some value }
  | .movementThreshold, value => { draft with movementThreshold := some value }

theorem ofParts_part (draft : Draft) : ofParts draft.part = draft :=
  rfl

theorem part_ofParts (part : (parameter : Parameter) -> Option parameter.Content)
    (parameter : Parameter) : (ofParts part).part parameter = part parameter := by
  cases parameter <;> rfl

theorem ext_part {first second : Draft}
    (h : forall parameter, first.part parameter = second.part parameter) : first = second := by
  rw [← ofParts_part first, ← ofParts_part second, funext h]

theorem part_blank (parameter : Parameter) : blank.part parameter = none := by
  cases parameter <;> rfl

theorem part_put_self (draft : Draft) (parameter : Parameter) (value : parameter.Content) :
    (draft.put parameter value).part parameter = some value := by
  cases parameter <;> rfl

theorem part_put_of_ne (draft : Draft) {parameter other : Parameter} (h : other ≠ parameter)
    (value : parameter.Content) : (draft.put parameter value).part other = draft.part other := by
  cases parameter <;> cases other <;> first | rfl | contradiction

theorem part_complete (draft : Draft) (parameter : Parameter) :
    draft.complete.part parameter =
      (draft.part parameter).getD ((Config.default : Config Float).part parameter) := by
  cases parameter <;> rfl

end Draft
end Config

/-!
# Reading one member
-/

namespace Parameter

def reader : (parameter : Parameter) -> Json.Reader parameter.Content
  | maxIterations => Json.uint32
  | attraction | repulsion | springLength | gravity | damper | movementThreshold => Json.float

def convert : (parameter : Parameter) -> Value -> Option parameter.Content
  | maxIterations => fun value => value.number?.bind fun number => number.toUInt32.toOption
  | attraction | repulsion | springLength | gravity | damper | movementThreshold =>
      fun value => value.number?.map Json.Number.toFloat

def field (parameter : Parameter) : Json.Field Config.Draft :=
  .ofPart parameter.name parameter.reader (fun draft => draft.part parameter)
    fun draft => draft.put parameter

theorem converts_reader (parameter : Parameter) : Converts parameter.reader parameter.convert := by
  cases parameter with
  | maxIterations =>
      exact Json.converts_numberAs .uint32 Json.Number.toUInt32
  | _ =>
      exact Json.converts_float

end Parameter

namespace Config

theorem field?_record (name : String) :
    record.field? name = (Parameter.ofName? name).map Parameter.field := by
  change (Parameter.all.map Parameter.field).find? (fun field => field.name == name) = _
  rw [List.find?_map]
  rfl

def Draft.take (draft : Draft) (member : String × Value) : Option Draft :=
  match Parameter.ofName? member.1 with
  | none => some draft
  | some parameter =>
      if (draft.part parameter).isSome then none
      else (parameter.convert member.2).map (draft.put parameter)

theorem takes_record : record.Takes Draft.take := by
  constructor
  case other =>
    intro draft name value h
    rw [field?_record, Option.map_eq_none_iff] at h
    simp only [Draft.take, h]
  case repeated =>
    intro draft name value field h hset
    rw [field?_record, Option.map_eq_some_iff] at h
    rcases h with ⟨parameter, hname, rfl⟩
    simp only [Draft.take, hname]
    exact if_pos hset
  case given =>
    intro draft name field h hset
    rw [field?_record, Option.map_eq_some_iff] at h
    rcases h with ⟨parameter, hname, rfl⟩
    have hunset : ¬(draft.part parameter).isSome = true := Bool.eq_false_iff.mp hset
    simp only [Draft.take, hname, if_neg hunset]
    exact Converts.ofPart parameter.converts_reader _ _ _ draft

end Config

/-!
# Reading all members
-/

/-- What the values that are given for a part of a draft make of it. A part is given at most
once. -/
inductive Fills {β : Type} (convert : Value -> Option β) :
    Option β -> List Value -> Option β -> Prop where
  | kept (part : Option β) : Fills convert part [] part
  | given {value : Value} {result : β} : convert value = some result ->
      Fills convert none [value] (some result)

section Fills

variable {β : Type} {convert : Value -> Option β}

theorem fills_nil_iff {before after : Option β} :
    Fills convert before [] after <-> before = after := by
  constructor
  · intro h
    cases h
    rfl
  · intro h
    rw [h]
    exact Fills.kept after

theorem not_fills_some_cons {before : β} {value : Value} {values : List Value} {after : Option β} :
    ¬Fills convert (some before) (value :: values) after := by
  intro h
  cases h

theorem fills_none_cons_iff {value : Value} {values : List Value} {after : Option β} :
    Fills convert none (value :: values) after <->
      exists result, convert value = some result ∧ Fills convert (some result) values after := by
  constructor
  · intro h
    cases h with
    | given hresult =>
        exact ⟨_, hresult, Fills.kept _⟩
  · intro h
    rcases h with ⟨result, hresult, hvalues⟩
    cases hvalues with
    | kept =>
        exact Fills.given hresult

end Fills

theorem Json.Value.membersNamed_cons_of_ne {name found : String} (h : found ≠ name) (value : Value)
    (members : List (String × Value)) :
    membersNamed name ((found, value) :: members) = membersNamed name members := by
  simp [membersNamed, h]

theorem Json.Value.membersNamed_cons_self (name : String) (value : Value)
    (members : List (String × Value)) :
    membersNamed name ((name, value) :: members) = value :: membersNamed name members := by
  simp [membersNamed]

namespace Config

/-- A value that is given for a parameter is one of the values given for it, and for no other
parameter. -/
theorem fills_put_iff {draft : Draft} {given : Parameter} {value : Value} {content : given.Content}
    (hpart : draft.part given = none) (hcontent : given.convert value = some content)
    (parameter : Parameter) (members : List (String × Value))
    {after : Option parameter.Content} :
    Fills parameter.convert ((draft.put given content).part parameter)
        (Value.membersNamed parameter.name members) after <->
      Fills parameter.convert (draft.part parameter)
        (Value.membersNamed parameter.name ((given.name, value) :: members)) after := by
  by_cases hsame : parameter = given
  · cases hsame
    rw [Draft.part_put_self, hpart, Value.membersNamed_cons_self, fills_none_cons_iff]
    simp [hcontent]
  · have hname : given.name ≠ parameter.name :=
      fun h => hsame (Parameter.name_injective h.symm)
    rw [Draft.part_put_of_ne draft hsame, Value.membersNamed_cons_of_ne hname]

theorem foldlM_take_eq_some_iff {members : List (String × Value)} {draft result : Draft} :
    members.foldlM Draft.take draft = some result <->
      forall parameter : Parameter, Fills parameter.convert (draft.part parameter)
        (Value.membersNamed parameter.name members) (result.part parameter) := by
  induction members generalizing draft with
  | nil =>
      simp only [List.foldlM_nil, Value.membersNamed, List.filterMap_nil, fills_nil_iff]
      constructor
      · intro h parameter
        cases h
        rfl
      · intro h
        rw [Draft.ext_part h]
        rfl
  | cons member members ih =>
      rcases member with ⟨name, value⟩
      rw [List.foldlM_cons]
      cases hname : Parameter.ofName? name with
      | none =>
          have hne := Parameter.ne_name_of_ofName? hname
          simp only [Draft.take, hname, Value.membersNamed_cons_of_ne (hne _)]
          exact ih
      | some given =>
          cases Parameter.ofName?_eq_some_iff.mp hname
          cases hpart : draft.part given with
          | some kept =>
              simp only [Draft.take, hname, hpart, Option.isSome_some, if_true]
              constructor
              · intro h
                cases h
              · intro h
                have hgiven := h given
                rw [hpart, Value.membersNamed_cons_self] at hgiven
                exact absurd hgiven not_fills_some_cons
          | none =>
              simp only [Draft.take, hname, hpart, Option.isSome_none, Bool.false_eq_true, if_false]
              cases hcontent : given.convert value with
              | none =>
                  constructor
                  · intro h
                    cases h
                  · intro h
                    have hgiven := h given
                    rw [hpart, Value.membersNamed_cons_self, fills_none_cons_iff, hcontent]
                      at hgiven
                    simp at hgiven
              | some content =>
                  exact ih.trans (forall_congr' fun parameter =>
                    fills_put_iff hpart hcontent parameter members)

end Config

/-- What a config has for a parameter if these are the values that are given for it: its
default if there is none, and else the one that is given. -/
inductive Parameter.Sets (parameter : Parameter) : List Value -> parameter.Content -> Prop where
  | default : Sets parameter [] ((Config.default : Config Float).part parameter)
  | given {value : Value} {content : parameter.Content} :
      parameter.convert value = some content -> Sets parameter [value] content

theorem Parameter.sets_iff {parameter : Parameter} {values : List Value}
    {content : parameter.Content} :
    parameter.Sets values content <->
      exists part, Fills parameter.convert none values part ∧
        part.getD ((Config.default : Config Float).part parameter) = content := by
  constructor
  · intro h
    cases h with
    | default =>
        exact ⟨none, Fills.kept none, rfl⟩
    | given hcontent =>
        exact ⟨some content, Fills.given hcontent, rfl⟩
  · intro h
    rcases h with ⟨part, hpart, rfl⟩
    cases hpart with
    | kept =>
        exact Sets.default
    | given hcontent =>
        exact Sets.given hcontent

namespace Config

theorem ofJson_eq_ok_iff {text : String} {members : List (String × Value)}
    (htext : Json.Written text (.object members)) {config : Config Float} :
    ofJson text = .ok config <->
      forall parameter : Parameter,
        parameter.Sets (Value.membersNamed parameter.name members) (config.part parameter) := by
  have hread : ofJson text = .ok config <->
      exists draft, members.foldlM Draft.take Draft.blank = some draft ∧
        draft.complete = config := by
    rw [← Json.toOption_eq_some_iff, ofJson, takes_record.readAll htext, Option.bind_eq_some_iff]
    exact exists_congr fun draft => and_congr_right' Option.some_inj
  rw [hread]
  constructor
  · intro h parameter
    rcases h with ⟨draft, hdraft, rfl⟩
    have hpart := foldlM_take_eq_some_iff.mp hdraft parameter
    rw [Draft.part_blank] at hpart
    exact Parameter.sets_iff.mpr ⟨draft.part parameter, hpart, (draft.part_complete _).symm⟩
  · intro h
    choose part hpart hcontent using fun parameter => Parameter.sets_iff.mp (h parameter)
    refine ⟨Draft.ofParts part, foldlM_take_eq_some_iff.mpr fun parameter => ?_,
      ext_part fun parameter => ?_⟩
    · rw [Draft.part_blank, Draft.part_ofParts]
      exact hpart parameter
    · rw [Draft.part_complete, Draft.part_ofParts, hcontent]

end Config

end GraphLayout
