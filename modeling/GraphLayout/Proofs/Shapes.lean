import Mathlib.Data.List.Forall2
import Mathlib.Data.List.Induction
import GraphLayout.Decode.Graph

/-!
# The shapes of payloads

Which JSON values are payloads and which graphs they stand for, told without the decoder.
A payload is the list of its elements, or an object with that list as its only member
`elements`. An element has its fields by name or by place.
-/

namespace GraphLayout

open Json (Value)

/-!
# Members
-/

def Absent (name : String) (members : List (String × Value)) : Prop :=
  forall member, member ∈ members -> member.1 ≠ name

def Once (name : String) (members : List (String × Value)) (value : Value) : Prop :=
  exists before after, members = before ++ ((name, value) :: after) ∧
    Absent name before ∧ Absent name after

/-- At most one member has the name, and this is its value if there is one. -/
inductive AtMostOnce (name : String) (members : List (String × Value)) : Option Value -> Prop where
  | absent : Absent name members -> AtMostOnce name members none
  | once {value : Value} : Once name members value -> AtMostOnce name members (some value)

theorem membersNamed_eq_nil_iff {name : String} {members : List (String × Value)} :
    Value.membersNamed name members = [] <-> Absent name members := by
  simp [Value.membersNamed, Absent]

theorem membersNamed_eq_singleton_iff {name : String} {members : List (String × Value)}
    {value : Value} : Value.membersNamed name members = [value] <-> Once name members value := by
  unfold Value.membersNamed
  rw [List.filterMap_eq_cons_iff]
  constructor
  · intro h
    rcases h with ⟨before, ⟨found, content⟩, after, hsplit, hbefore, hfound, hafter⟩
    by_cases hname : found = name
    · rw [if_pos hname] at hfound
      cases hfound
      refine ⟨before, after, by rw [hsplit, hname], ?_, membersNamed_eq_nil_iff.mp hafter⟩
      intro member hmem
      simpa using hbefore member hmem
    · simp [hname] at hfound
  · intro h
    rcases h with ⟨before, after, hsplit, hbefore, hafter⟩
    refine ⟨before, (name, value), after, hsplit, ?_, by simp, membersNamed_eq_nil_iff.mpr hafter⟩
    intro member hmem
    rw [if_neg (hbefore member hmem)]

theorem atMostOne?_eq_some_iff {name : String} {members : List (String × Value)}
    {found : Option Value} :
    Value.atMostOne? name members = some found <-> AtMostOnce name members found := by
  unfold Value.atMostOne?
  constructor
  · intro h
    split at h
    · next hnil =>
        cases h
        exact AtMostOnce.absent (membersNamed_eq_nil_iff.mp hnil)
    · next value hone =>
        cases h
        exact AtMostOnce.once (membersNamed_eq_singleton_iff.mp hone)
    · cases h
  · intro h
    cases h with
    | absent habsent =>
        rw [membersNamed_eq_nil_iff.mpr habsent]
    | once honce =>
        rw [membersNamed_eq_singleton_iff.mpr honce]

/-!
# Shapes
-/

def IsInt64 (value : Value) : Prop :=
  exists number : Int, value = .number (.whole number) ∧
    Int64.minValue.toInt ≤ number ∧ number ≤ Int64.maxValue.toInt

def IsEnd (value : Value) : Prop :=
  value = .null ∨ IsInt64 value

def objectOfTexts (pairs : List (String × String)) : Value :=
  .object (pairs.map fun pair => (pair.1, .string pair.2))

def IsAttributes (value : Value) : Prop :=
  exists pairs, value = objectOfTexts pairs

/-- The value has fields of an element, by their names or by their places. -/
inductive HasFields : Value -> Value -> Option Value -> Option Value -> Option Value -> Prop where
  | named {members : List (String × Value)} {id : Value} {values source target : Option Value} :
      Once "id" members id -> AtMostOnce "values" members values ->
      AtMostOnce "from" members source -> AtMostOnce "to" members target ->
      HasFields (.object members) id values source target
  | listed {id : Value} {more : List Value} : more.length ≤ 3 ->
      HasFields (.array (id :: more)) id more[0]? more[1]? more[2]?

def IsElement (value : Value) : Prop :=
  exists id values source target, HasFields value id values source target ∧ IsInt64 id ∧
    (forall given, values = some given -> IsAttributes given) ∧
    (forall given, source = some given -> IsEnd given) ∧
    (forall given, target = some given -> IsEnd given)

inductive HasElements : Value -> List Value -> Prop where
  | named {members : List (String × Value)} {items : List Value} :
      Once "elements" members (.array items) -> HasElements (.object members) items
  | bare {items : List Value} : HasElements (.array items) items

def IsPayload (value : Value) : Prop :=
  exists items, HasElements value items ∧ forall item, item ∈ items -> IsElement item

/-!
# What a shape stands for
-/

/-- Each name has the place of its first member and the text of its last one. -/
def DecodesAttributes (value : Value) (attributes : Attributes) : Prop :=
  exists pairs, value = objectOfTexts pairs ∧
    attributes.entries.map Prod.fst = (pairs.map Prod.fst).eraseDups ∧
    forall key, attributes.get? key = pairs.reverse.lookup key

inductive DecodesValues : Option Value -> Attributes -> Prop where
  | absent : DecodesValues none .empty
  | given {value : Value} {attributes : Attributes} : DecodesAttributes value attributes ->
      DecodesValues (some value) attributes

inductive DecodesEnd : Option Value -> Option Int64 -> Prop where
  | absent : DecodesEnd none none
  | null : DecodesEnd (some .null) none
  | given {id : Int64} : DecodesEnd (some (.number (.whole id.toInt))) (some id)

def DecodesElement (value : Value) (element : Element) : Prop :=
  exists values source target,
    HasFields value (.number (.whole element.id.toInt)) values source target ∧
      DecodesValues values element.values ∧ DecodesEnd source element.source ∧
      DecodesEnd target element.target

def Decodes (value : Value) (graph : Graph) : Prop :=
  exists items, HasElements value items ∧ List.Forall₂ DecodesElement items graph.elements

/-!
# Attributes
-/

theorem eraseDups_concat (keys : List String) (key : String) :
    (keys ++ [key]).eraseDups =
      if key ∈ keys then keys.eraseDups else keys.eraseDups ++ [key] := by
  rw [List.eraseDups_append]
  by_cases hmem : key ∈ keys
  · rw [if_pos hmem]
    simp [List.removeAll, hmem]
  · rw [if_neg hmem]
    simp [List.removeAll, hmem, List.eraseDups_cons]

theorem lookup_eq_none {key : String} {entries : List (String × String)}
    (h : key ∉ entries.map Prod.fst) : entries.lookup key = none := by
  rw [List.lookup_eq_none_iff]
  intro entry hmem
  have hne : key ≠ entry.1 := fun heq => h (heq ▸ List.mem_map_of_mem hmem)
  simp [hne]

theorem entries_ext {first second : List (String × String)}
    (hkeys : first.map Prod.fst = second.map Prod.fst) (hdistinct : (first.map Prod.fst).Nodup)
    (hlookup : forall key, first.lookup key = second.lookup key) : first = second := by
  induction first generalizing second with
  | nil =>
      exact (List.map_eq_nil_iff.mp hkeys.symm).symm
  | cons entry first ih =>
      cases second with
      | nil =>
          cases hkeys
      | cons entry' second =>
          rcases entry with ⟨key, text⟩
          rcases entry' with ⟨key', text'⟩
          simp only [List.map_cons, List.cons.injEq] at hkeys
          rcases hkeys with ⟨rfl, hkeys⟩
          rw [List.map_cons, List.nodup_cons] at hdistinct
          have htext : text = text' := by
            simpa using hlookup key
          have htail : first = second := by
            refine ih hkeys hdistinct.2 fun k => ?_
            by_cases hk : k = key
            · -- The name of the head occurs in neither tail.
              have hsecond : key ∉ second.map Prod.fst := hkeys ▸ hdistinct.1
              rw [hk, lookup_eq_none hdistinct.1, lookup_eq_none hsecond]
            · simpa [List.lookup_cons, beq_false_of_ne hk] using hlookup k
          rw [htext, htail]

namespace Attributes

theorem ofList_concat (pairs : List (String × String)) (pair : String × String) :
    ofList (pairs ++ [pair]) = (ofList pairs).insert pair.1 pair.2 := by
  simp [ofList]

theorem keys_ofList (pairs : List (String × String)) :
    (ofList pairs).entries.map Prod.fst = (pairs.map Prod.fst).eraseDups := by
  induction pairs using List.reverseRecOn with
  | nil =>
      rfl
  | append_singleton pairs pair ih =>
      rw [ofList_concat, List.map_append, List.map_singleton, eraseDups_concat]
      simp only [insert, keys_insertEntry, ih, List.mem_eraseDups]

theorem get?_ofList (pairs : List (String × String)) (key : String) :
    (ofList pairs).get? key = pairs.reverse.lookup key := by
  induction pairs using List.reverseRecOn with
  | nil =>
      rfl
  | append_singleton pairs pair ih =>
      rw [ofList_concat, get?_insert, List.reverse_concat, List.lookup_cons, ih]
      by_cases hkey : key = pair.1
      · simp [hkey]
      · simp [hkey, beq_false_of_ne hkey]

theorem ext_keys {a b : Attributes} (hkeys : a.entries.map Prod.fst = b.entries.map Prod.fst)
    (hget : forall key, a.get? key = b.get? key) : a = b :=
  ext (entries_ext hkeys a.distinct hget)

end Attributes

/-!
# The decoder of values
-/

theorem mapM_eq_some_iff {β γ : Type} {f : β -> Option γ} {items : List β} {results : List γ} :
    items.mapM f = some results <->
      List.Forall₂ (fun item result => f item = some result) items results := by
  induction items generalizing results with
  | nil =>
      simp [eq_comm]
  | cons item items ih =>
      cases results with
      | nil =>
          simp [Option.bind_eq_some_iff]
      | cons result results =>
          simp [Option.bind_eq_some_iff, ← ih]

namespace Element

theorem mapM_textOfMember?_eq_some_iff {members : List (String × Value)}
    {pairs : List (String × String)} :
    members.mapM textOfMember? = some pairs <->
      members = pairs.map fun pair => (pair.1, .string pair.2) := by
  have htext : forall (member : String × Value) (pair : String × String),
      textOfMember? member = some pair <-> member = (pair.1, .string pair.2) := by
    intro member pair
    rcases member with ⟨name, value⟩
    cases value with
    | string text =>
        simp [textOfMember?, Prod.ext_iff]
    | _ =>
        simp [textOfMember?]
  rw [mapM_eq_some_iff]
  simp only [htext]
  induction members generalizing pairs with
  | nil =>
      cases pairs with
      | nil =>
          simp
      | cons pair pairs =>
          simp
  | cons member members ih =>
      cases pairs with
      | nil =>
          simp
      | cons pair pairs =>
          simp [ih]

theorem attributesOfValue?_eq_some_iff {value : Value} {attributes : Attributes} :
    attributesOfValue? value = some attributes <-> DecodesAttributes value attributes := by
  constructor
  · intro h
    cases value with
    | object members =>
        rw [attributesOfValue?, Option.map_eq_some_iff] at h
        rcases h with ⟨pairs, hpairs, rfl⟩
        rw [mapM_textOfMember?_eq_some_iff] at hpairs
        exact ⟨pairs, congrArg Value.object hpairs, Attributes.keys_ofList pairs,
          Attributes.get?_ofList pairs⟩
    | _ =>
        cases h
  · intro h
    rcases h with ⟨pairs, rfl, hkeys, hget⟩
    rw [objectOfTexts, attributesOfValue?, mapM_textOfMember?_eq_some_iff.mpr rfl,
      Option.map_some, Option.some_inj]
    apply Attributes.ext_keys
    · rw [Attributes.keys_ofList, hkeys]
    · intro key
      rw [Attributes.get?_ofList, hget]

theorem toInt_ofInt_of_range {value : Int} (hlower : Int64.minValue.toInt ≤ value)
    (hupper : value ≤ Int64.maxValue.toInt) : (Int64.ofInt value).toInt = value := by
  rw [Int64.toInt_minValue] at hlower
  rw [Int64.toInt_maxValue] at hupper
  exact Int64.toInt_ofInt_of_le hlower (by omega)

theorem toOption_toInt64_eq_some_iff {number : Json.Number} {id : Int64} :
    number.toInt64.toOption = some id <-> number = .whole id.toInt := by
  cases number with
  | real value =>
      simp [Json.Number.toInt64, Except.toOption]
  | whole value =>
      simp only [Json.Number.toInt64, Json.Number.whole.injEq]
      by_cases hrange : Int64.minValue.toInt ≤ value ∧ value ≤ Int64.maxValue.toInt
      · rw [if_pos hrange, Except.toOption, Option.some_inj, ← Int64.toInt_inj,
          toInt_ofInt_of_range hrange.1 hrange.2]
      · rw [if_neg hrange]
        simp only [Except.toOption, reduceCtorEq, false_iff]
        intro hvalue
        exact hrange ⟨hvalue ▸ id.minValue_le_toInt, hvalue ▸ id.toInt_le⟩

theorem idOfValue?_eq_some_iff {value : Value} {id : Int64} :
    idOfValue? value = some id <-> value = .number (.whole id.toInt) := by
  cases value with
  | number number =>
      rw [idOfValue?, toOption_toInt64_eq_some_iff, Value.number.injEq]
  | _ =>
      simp [idOfValue?]

theorem endOf_eq_some_iff {value : Option Value} {id : Option Int64} :
    (value.map endOfValue?).getD (some none) = some id <-> DecodesEnd value id := by
  constructor
  · intro h
    cases value with
    | none =>
        cases h
        exact DecodesEnd.absent
    | some value =>
        rw [Option.map_some, Option.getD_some] at h
        unfold endOfValue? at h
        split at h
        · cases h
          exact DecodesEnd.null
        · rw [Option.map_eq_some_iff] at h
          rcases h with ⟨found, hfound, rfl⟩
          rw [idOfValue?_eq_some_iff.mp hfound]
          exact DecodesEnd.given
  · intro h
    cases h with
    | absent =>
        rfl
    | null =>
        rfl
    | given =>
        rename_i found
        rw [Option.map_some, Option.getD_some, endOfValue?, idOfValue?_eq_some_iff.mpr rfl,
          Option.map_some]
        simp

theorem valuesOf_eq_some_iff {value : Option Value} {attributes : Attributes} :
    (value.map attributesOfValue?).getD (some .empty) = some attributes <->
      DecodesValues value attributes := by
  constructor
  · intro h
    cases value with
    | none =>
        cases h
        exact DecodesValues.absent
    | some value =>
        exact DecodesValues.given (attributesOfValue?_eq_some_iff.mp h)
  · intro h
    cases h with
    | absent =>
        rfl
    | given hgiven =>
        exact attributesOfValue?_eq_some_iff.mpr hgiven

theorem ofFields?_eq_some_iff {id : Value} {values source target : Option Value}
    {element : Element} :
    ofFields? id values source target = some element <->
      id = .number (.whole element.id.toInt) ∧ DecodesValues values element.values ∧
        DecodesEnd source element.source ∧ DecodesEnd target element.target := by
  rw [← idOfValue?_eq_some_iff, ← valuesOf_eq_some_iff, ← endOf_eq_some_iff,
    ← endOf_eq_some_iff]
  simp only [ofFields?, bind, Option.bind_eq_some_iff, Option.some_inj]
  constructor
  · intro h
    rcases h with ⟨_, hid, _, hvalues, _, hsource, _, htarget, rfl⟩
    exact ⟨hid, hvalues, hsource, htarget⟩
  · intro h
    exact ⟨_, h.1, _, h.2.1, _, h.2.2.1, _, h.2.2.2, rfl⟩

theorem ofMembers?_eq_some_iff {members : List (String × Value)} {element : Element} :
    ofMembers? members = some element <->
      exists id values source target, Once "id" members id ∧
        AtMostOnce "values" members values ∧ AtMostOnce "from" members source ∧
        AtMostOnce "to" members target ∧ ofFields? id values source target = some element := by
  simp only [ofMembers?, bind, Option.bind_eq_some_iff, atMostOne?_eq_some_iff]
  constructor
  · intro h
    rcases h with ⟨id?, hid, values, hvalues, source, hsource, target, htarget, id, rfl, h⟩
    cases hid with
    | once hid =>
        exact ⟨id, values, source, target, hid, hvalues, hsource, htarget, h⟩
  · intro h
    rcases h with ⟨id, values, source, target, hid, hvalues, hsource, htarget, h⟩
    exact ⟨some id, AtMostOnce.once hid, values, hvalues, source, hsource, target, htarget,
      id, rfl, h⟩

theorem ofValue?_array (id : Value) (more : List Value) :
    ofValue? (.array (id :: more)) =
      if more.length ≤ 3 then ofFields? id more[0]? more[1]? more[2]? else none := by
  match more with
  | [] =>
      rfl
  | [_] =>
      rfl
  | [_, _] =>
      rfl
  | [_, _, _] =>
      rfl
  | _ :: _ :: _ :: _ :: rest =>
      rw [if_neg (by simp)]
      rfl

theorem ofValue?_eq_some_iff {value : Value} {element : Element} :
    ofValue? value = some element <-> DecodesElement value element := by
  constructor
  · intro h
    cases value with
    | object members =>
        rcases ofMembers?_eq_some_iff.mp h with
          ⟨id, values, source, target, hid, hvalues, hsource, htarget, hfields⟩
        rcases ofFields?_eq_some_iff.mp hfields with ⟨rfl, hdecodes⟩
        exact ⟨values, source, target, HasFields.named hid hvalues hsource htarget, hdecodes⟩
    | array items =>
        cases items with
        | nil =>
            cases h
        | cons id more =>
            rw [ofValue?_array] at h
            by_cases hlength : more.length ≤ 3
            · rw [if_pos hlength] at h
              rcases ofFields?_eq_some_iff.mp h with ⟨rfl, hdecodes⟩
              exact ⟨_, _, _, HasFields.listed hlength, hdecodes⟩
            · rw [if_neg hlength] at h
              cases h
    | _ =>
        cases h
  · intro h
    rcases h with ⟨values, source, target, hfields, hdecodes⟩
    cases hfields with
    | named hid hvalues hsource htarget =>
        exact ofMembers?_eq_some_iff.mpr ⟨_, values, source, target, hid, hvalues, hsource, htarget,
          ofFields?_eq_some_iff.mpr ⟨rfl, hdecodes⟩⟩
    | listed hlength =>
        rw [ofValue?_array, if_pos hlength]
        exact ofFields?_eq_some_iff.mpr ⟨rfl, hdecodes⟩

end Element

namespace Graph

theorem ofItems?_eq_some_iff {items : List Value} {graph : Graph} :
    ofItems? items = some graph <-> List.Forall₂ DecodesElement items graph.elements := by
  cases graph with
  | mk elements =>
      simp only [ofItems?, Option.map_eq_some_iff, mapM_eq_some_iff, Element.ofValue?_eq_some_iff,
        Graph.mk.injEq, exists_eq_right]

theorem ofValue?_eq_some_iff {value : Value} {graph : Graph} :
    ofValue? value = some graph <-> Decodes value graph := by
  constructor
  · intro h
    cases value with
    | object members =>
        rw [ofValue?] at h
        split at h
        · next items hitems =>
            exact ⟨items, HasElements.named (membersNamed_eq_singleton_iff.mp hitems),
              ofItems?_eq_some_iff.mp h⟩
        · cases h
    | array items =>
        exact ⟨items, HasElements.bare, ofItems?_eq_some_iff.mp h⟩
    | _ =>
        cases h
  · intro h
    rcases h with ⟨items, hitems, hdecodes⟩
    cases hitems with
    | named honce =>
        rw [ofValue?, membersNamed_eq_singleton_iff.mpr honce]
        exact ofItems?_eq_some_iff.mpr hdecodes
    | bare =>
        exact ofItems?_eq_some_iff.mpr hdecodes

end Graph

/-!
# Every shape stands for a graph
-/

theorem isInt64_iff {value : Value} :
    IsInt64 value <-> exists id : Int64, value = .number (.whole id.toInt) := by
  constructor
  · intro h
    rcases h with ⟨number, hvalue, hlower, hupper⟩
    refine ⟨.ofInt number, ?_⟩
    rw [hvalue, Element.toInt_ofInt_of_range hlower hupper]
  · intro h
    rcases h with ⟨id, hvalue⟩
    exact ⟨id.toInt, hvalue, id.minValue_le_toInt, id.toInt_le⟩

theorem isAttributes_iff {value : Value} :
    IsAttributes value <-> exists attributes, DecodesAttributes value attributes := by
  constructor
  · intro h
    rcases h with ⟨pairs, hvalue⟩
    exact ⟨.ofList pairs, pairs, hvalue, Attributes.keys_ofList pairs, Attributes.get?_ofList pairs⟩
  · intro h
    rcases h with ⟨_, pairs, hvalue, _⟩
    exact ⟨pairs, hvalue⟩

theorem exists_decodesValues_iff {value : Option Value} :
    (exists attributes, DecodesValues value attributes) <->
      forall given, value = some given -> IsAttributes given := by
  constructor
  · intro h given hgiven
    rcases h with ⟨attributes, h⟩
    cases h with
    | absent =>
        cases hgiven
    | given h =>
        cases hgiven
        exact isAttributes_iff.mpr ⟨attributes, h⟩
  · intro h
    cases value with
    | none =>
        exact ⟨.empty, DecodesValues.absent⟩
    | some given =>
        rcases isAttributes_iff.mp (h given rfl) with ⟨attributes, hdecodes⟩
        exact ⟨attributes, DecodesValues.given hdecodes⟩

theorem exists_decodesEnd_iff {value : Option Value} :
    (exists id, DecodesEnd value id) <-> forall given, value = some given -> IsEnd given := by
  constructor
  · intro h given hgiven
    rcases h with ⟨id, h⟩
    cases h with
    | absent =>
        cases hgiven
    | null =>
        cases hgiven
        exact Or.inl rfl
    | given =>
        cases hgiven
        exact Or.inr (isInt64_iff.mpr ⟨_, rfl⟩)
  · intro h
    cases value with
    | none =>
        exact ⟨none, DecodesEnd.absent⟩
    | some given =>
        cases h given rfl with
        | inl hnull =>
            rw [hnull]
            exact ⟨none, DecodesEnd.null⟩
        | inr hint =>
            rcases isInt64_iff.mp hint with ⟨id, hid⟩
            rw [hid]
            exact ⟨some id, DecodesEnd.given⟩

theorem isElement_iff {value : Value} :
    IsElement value <-> exists element, DecodesElement value element := by
  constructor
  · intro h
    rcases h with ⟨idValue, values, source, target, hfields, hid, hvalues, hsource, htarget⟩
    rcases isInt64_iff.mp hid with ⟨id, rfl⟩
    rcases exists_decodesValues_iff.mpr hvalues with ⟨attributes, hattributes⟩
    rcases exists_decodesEnd_iff.mpr hsource with ⟨sourceId, hsourceId⟩
    rcases exists_decodesEnd_iff.mpr htarget with ⟨targetId, htargetId⟩
    exact ⟨⟨id, attributes, sourceId, targetId⟩, values, source, target, hfields, hattributes,
      hsourceId, htargetId⟩
  · intro h
    rcases h with ⟨element, values, source, target, hfields, hvalues, hsource, htarget⟩
    exact ⟨_, values, source, target, hfields, isInt64_iff.mpr ⟨element.id, rfl⟩,
      exists_decodesValues_iff.mp ⟨_, hvalues⟩, exists_decodesEnd_iff.mp ⟨_, hsource⟩,
      exists_decodesEnd_iff.mp ⟨_, htarget⟩⟩

theorem forall_isElement_iff {items : List Value} :
    (forall item, item ∈ items -> IsElement item) <->
      exists elements, List.Forall₂ DecodesElement items elements := by
  induction items with
  | nil =>
      simp
  | cons item items ih =>
      rw [List.forall_mem_cons, ih, isElement_iff]
      constructor
      · intro h
        rcases h with ⟨⟨element, helement⟩, elements, helements⟩
        exact ⟨element :: elements, List.Forall₂.cons helement helements⟩
      · intro h
        rcases h with ⟨_, helements⟩
        cases helements with
        | cons helement helements =>
            exact ⟨⟨_, helement⟩, _, helements⟩

theorem isPayload_iff {value : Value} : IsPayload value <-> exists graph, Decodes value graph := by
  simp only [IsPayload, Decodes, forall_isElement_iff]
  constructor
  · intro h
    rcases h with ⟨items, hitems, elements, helements⟩
    exact ⟨⟨elements⟩, items, hitems, helements⟩
  · intro h
    rcases h with ⟨graph, items, hitems, helements⟩
    exact ⟨items, hitems, graph.elements, helements⟩

end GraphLayout
