import Mathlib
import GraphLayout.Proofs.Decoding

/-!
# Renderings of graphs

A graph may be written as JSON in many ways: with its elements bare or in a record, with
the members of an element in any order, with blanks, and with characters that stand for
themselves or are escaped. Every one of these texts is decoded to the graph it was
written from, and every graph has such a text.
-/

namespace GraphLayout

open Json (Value Blanks Spells SpellsString SpellsEntries SpellsMember Document)

/-!
# Texts of a graph
-/

def RendersId (word : List Char) (id : Int64) : Prop :=
  word = id.toInt.repr.toList

inductive RendersEnd : List Char -> Option Int64 -> Prop where
  | null : RendersEnd ['n', 'u', 'l', 'l'] none
  | given {word : List Char} {id : Int64} : RendersId word id -> RendersEnd word (some id)

inductive RendersAttributes : List Char -> Attributes -> Prop where
  | members {word : List Char} {attributes : Attributes} :
      SpellsEntries (SpellsMember SpellsString) '\x7d' true word attributes.entries ->
      RendersAttributes ('\x7b' :: word) attributes

inductive Part where
  | id (number : Int64)
  | values (attributes : Attributes)
  | source (found : Option Int64)
  | target (found : Option Int64)

namespace Part

def name : Part -> String
  | id _ => "id"
  | values _ => "values"
  | source _ => "from"
  | target _ => "to"

def IsBlank : Part -> Prop
  | id _ => False
  | values attributes => attributes = .empty
  | source found => found = none
  | target found => found = none

def Renders (word : List Char) : Part -> Prop
  | id number => RendersId word number
  | values attributes => RendersAttributes word attributes
  | source found => RendersEnd word found
  | target found => RendersEnd word found

def RendersMember (word : List Char) (part : Part) : Prop :=
  SpellsMember Renders word (part.name, part)

end Part

namespace Element

def parts (element : Element) : List Part :=
  [.id element.id, .values element.values, .source element.source, .target element.target]

/-- The members are in any order, and only blank ones are left out. -/
inductive Renders : List Char -> Element -> Prop where
  | members {word : List Char} {element : Element} {given omitted : List Part} :
      (given ++ omitted).Perm element.parts ->
      (forall part, part ∈ omitted -> part.IsBlank) ->
      SpellsEntries Part.RendersMember '\x7d' true word given ->
      Renders ('\x7b' :: word) element

end Element

namespace Graph

inductive RendersElements : List Char -> List Element -> Prop where
  | items {word : List Char} {elements : List Element} :
      SpellsEntries Element.Renders ']' true word elements ->
      RendersElements ('[' :: word) elements

inductive RendersPayload : List Char -> Graph -> Prop where
  | bare {word : List Char} {graph : Graph} : RendersElements word graph.elements ->
      RendersPayload word graph
  | record {word : List Char} {graph : Graph} :
      SpellsEntries (SpellsMember RendersElements) '\x7d' true word
        [("elements", graph.elements)] ->
      RendersPayload ('\x7b' :: word) graph

def Renders (graph : Graph) (text : String) : Prop :=
  exists before word after, text.toList = before ++ (word ++ after) ∧ Blanks before ∧
    Blanks after ∧ RendersPayload word graph

end Graph

/-!
# Decimal digits
-/

namespace Json

theorem digitsValue_toDigits (n : Nat) : digitsValue (Nat.toDigits 10 n) = n :=
  Nat.ofDigitChars_eq_foldl.symm.trans Nat.ofDigitChars_ten_toDigits

theorem digits_toDigits (n : Nat) : Digits (Nat.toDigits 10 n) :=
  ⟨Nat.toDigits_ne_nil, fun _ hc => Nat.isDigit_of_mem_toDigits (by decide) (by decide) hc⟩

/-- The first digit is a zero only if it is the last one, too. -/
theorem wholeDigits_toDigits (n : Nat) : WholeDigits (Nat.toDigits 10 n) := by
  refine ⟨digits_toDigits n, ?_⟩
  induction n using Nat.strongRecOn with
  | ind n ih =>
      intro hzero
      rw [Nat.toDigits_eq_if (by decide)] at hzero ⊢
      by_cases hn : n < 10
      · rw [if_pos hn] at hzero ⊢
        exact congrArg List.singleton (Option.some.inj hzero)
      · -- The front digits would be a zero, but they are those of a tenth of the number.
        rw [if_neg hn, List.head?_append_of_ne_nil _ Nat.toDigits_ne_nil] at hzero
        have hfront := congrArg digitsValue (ih (n / 10) (by omega) hzero)
        rw [digitsValue_toDigits] at hfront
        have hvalue : digitsValue ['0'] = 0 := rfl
        omega

theorem spellsInteger_repr {value : Int} (hlower : -(Nat.pow 2 63 : Int) ≤ value)
    (hupper : value < UInt64.size) : SpellsInteger value.repr.toList value := by
  cases value with
  | ofNat n =>
      have hless : digitsValue (Nat.toDigits 10 n) < UInt64.size := by
        rw [digitsValue_toDigits]
        exact Int.ofNat_lt.mp hupper
      have hword : (Int.ofNat n).repr.toList = Nat.toDigits 10 n := Nat.toList_repr
      have hspells := SpellsInteger.natural (wholeDigits_toDigits n) hless
      rwa [digitsValue_toDigits, ← hword] at hspells
  | negSucc n =>
      have hbound : digitsValue (Nat.toDigits 10 (n + 1)) ≤ Nat.pow 2 63 := by
        rw [digitsValue_toDigits]
        omega
      have hpositive : 0 < digitsValue (Nat.toDigits 10 (n + 1)) := by
        rw [digitsValue_toDigits]
        exact Nat.succ_pos n
      have hword : (Int.negSucc n).repr.toList = '-' :: Nat.toDigits 10 (n + 1) := by
        simp [Int.repr, Nat.toList_repr]
      have hspells := SpellsInteger.negative (wholeDigits_toDigits (n + 1)) hpositive hbound
      rwa [digitsValue_toDigits, ← hword] at hspells

theorem spells_of_rendersId {word : List Char} {id : Int64} (h : RendersId word id) :
    Spells word (.number (.whole id.toInt)) := by
  have hlower := id.minValue_le_toInt
  have hupper := id.toInt_le
  rw [Int64.toInt_minValue] at hlower
  rw [Int64.toInt_maxValue] at hupper
  rw [h]
  refine Spells.number (SpellsNumber.whole (spellsInteger_repr hlower ?_))
  simp only [UInt64.size]
  omega

/-!
# Entries that stand for others
-/

variable {β γ : Type} {spells : List Char -> β -> Prop} {spells' : List Char -> γ -> Prop}
  {stands : γ -> β -> Prop}

theorem SpellsEntries.lift {closing : Char} {first : Bool} {word : List Char} {entries : List β}
    (h : SpellsEntries spells closing first word entries)
    (hspells : forall word entry, spells word entry ->
      exists value, spells' word value ∧ stands value entry) :
    exists values, SpellsEntries spells' closing first word values ∧
      List.Forall₂ stands values entries := by
  induction h with
  | closed hblanks =>
      exact ⟨[], SpellsEntries.closed hblanks, List.Forall₂.nil⟩
  | entry hlead hword _ ih =>
      rcases hspells _ _ hword with ⟨value, hvalue, hstands⟩
      rcases ih with ⟨values, hvalues, hall⟩
      exact ⟨value :: values, SpellsEntries.entry hlead hvalue hvalues,
        List.Forall₂.cons hstands hall⟩

theorem SpellsMember.lift {word : List Char} {name : String} {entry : β}
    (h : SpellsMember spells word (name, entry))
    (hspells : forall word entry, spells word entry ->
      exists value, spells' word value ∧ stands value entry) :
    exists value, SpellsMember spells' word (name, value) ∧ stands value entry := by
  cases h with
  | member hname hblanks hblanks' hword =>
      rcases hspells _ _ hword with ⟨value, hvalue, hstands⟩
      exact ⟨value, SpellsMember.member hname hblanks hblanks' hvalue, hstands⟩

end Json

/-!
# Values of the words
-/

open Json (SpellsWithin spellsWithin_array_iff spellsWithin_object_iff nestedWithin_atom)

theorem exists_value_of_rendersEnd {word : List Char} {found : Option Int64}
    (h : RendersEnd word found) (depth : Nat) :
    exists value, SpellsWithin depth word value ∧ DecodesEnd (some value) found := by
  cases h with
  | null =>
      exact ⟨.null, ⟨Spells.null, nestedWithin_atom (by simp) (by simp)⟩, DecodesEnd.null⟩
  | given hid =>
      exact ⟨_, ⟨Json.spells_of_rendersId hid, nestedWithin_atom (by simp) (by simp)⟩,
        DecodesEnd.given⟩

theorem eraseDups_of_nodup {keys : List String} (h : keys.Nodup) : keys.eraseDups = keys := by
  induction keys using List.reverseRecOn with
  | nil =>
      rfl
  | append_singleton keys key ih =>
      rw [List.nodup_append'] at h
      rw [eraseDups_concat, if_neg (List.disjoint_singleton.mp h.2.2), ih h.1]

theorem lookup_reverse {entries : List (String × String)}
    (h : (entries.map Prod.fst).Nodup) (key : String) :
    entries.reverse.lookup key = entries.lookup key := by
  induction entries with
  | nil =>
      rfl
  | cons entry entries ih =>
      rw [List.map_cons, List.nodup_cons] at h
      rw [List.reverse_cons, List.lookup_append, ih h.2, List.lookup_cons, List.lookup_cons]
      by_cases hkey : key = entry.1
      · rw [hkey, lookup_eq_none h.1]
        simp
      · simp [beq_false_of_ne hkey]

theorem Attributes.decodesAttributes (attributes : Attributes) :
    DecodesAttributes (objectOfTexts attributes.entries) attributes :=
  ⟨attributes.entries, rfl, (eraseDups_of_nodup attributes.distinct).symm,
    fun key => (lookup_reverse attributes.distinct key).symm⟩

theorem exists_value_of_rendersAttributes {word : List Char} {attributes : Attributes}
    (h : RendersAttributes word attributes) (depth : Nat) :
    exists value, SpellsWithin (depth + 1) word value ∧ DecodesAttributes value attributes := by
  cases h with
  | members hword =>
      have hmember : forall word (pair : String × String), SpellsMember SpellsString word pair ->
          exists member, SpellsMember (SpellsWithin depth) word member ∧
            member = (pair.1, Value.string pair.2) := by
        intro word pair hpair
        have htext : forall word text, SpellsString word text ->
            exists value, SpellsWithin depth word value ∧ value = Value.string text :=
          fun word text htext =>
            ⟨_, ⟨Spells.string htext, nestedWithin_atom (by simp) (by simp)⟩, rfl⟩
        rcases hpair.lift htext with ⟨value, hvalue, rfl⟩
        exact ⟨_, hvalue, rfl⟩
      rcases hword.lift hmember with ⟨members, hmembers, hpairs⟩
      rw [← List.forall₂_map_right_iff, List.forall₂_eq_eq_eq] at hpairs
      rw [hpairs] at hmembers
      exact ⟨_, spellsWithin_object_iff.mp hmembers, attributes.decodesAttributes⟩

/-!
# Elements
-/

namespace Part

def Decodes (found : Option Value) : Part -> Prop
  | id number => found = some (.number (.whole number.toInt))
  | values attributes => DecodesValues found attributes
  | source number => DecodesEnd found number
  | target number => DecodesEnd found number

theorem exists_value_of_renders {word : List Char} {part : Part} (h : part.Renders word)
    (depth : Nat) :
    exists value, SpellsWithin (depth + 1) word value ∧ part.Decodes (some value) := by
  cases part with
  | id number =>
      exact ⟨_, ⟨Json.spells_of_rendersId h, nestedWithin_atom (by simp) (by simp)⟩, rfl⟩
  | values attributes =>
      rcases exists_value_of_rendersAttributes h depth with ⟨value, hvalue, hdecodes⟩
      exact ⟨value, hvalue, DecodesValues.given hdecodes⟩
  | source found =>
      exact exists_value_of_rendersEnd h (depth + 1)
  | target found =>
      exact exists_value_of_rendersEnd h (depth + 1)

theorem IsBlank.decodes {part : Part} (h : part.IsBlank) : part.Decodes none := by
  cases part with
  | id number =>
      cases h
  | values attributes =>
      cases h
      exact DecodesValues.absent
  | source found =>
      cases h
      exact DecodesEnd.absent
  | target found =>
      cases h
      exact DecodesEnd.absent

def DecodesMember (member : String × Value) (part : Part) : Prop :=
  member.1 = part.name ∧ part.Decodes (some member.2)

theorem absent_of_decodesMember {members : List (String × Value)} {parts : List Part}
    (h : List.Forall₂ DecodesMember members parts) {name : String}
    (hname : name ∉ parts.map Part.name) : Absent name members := by
  induction h with
  | nil =>
      intro member hmem
      cases hmem
  | cons hmember _ ih =>
      rw [List.map_cons, List.mem_cons, not_or] at hname
      rw [Absent, List.forall_mem_cons, hmember.1]
      exact ⟨Ne.symm hname.1, ih hname.2⟩

theorem exists_once_of_decodesMember {members : List (String × Value)} {parts : List Part}
    (h : List.Forall₂ DecodesMember members parts) (hdistinct : (parts.map Part.name).Nodup)
    {part : Part} (hpart : part ∈ parts) :
    exists value, Once part.name members value ∧ part.Decodes (some value) := by
  induction h with
  | nil =>
      cases hpart
  | @cons member first members parts hmember hmembers ih =>
      rw [List.map_cons, List.nodup_cons] at hdistinct
      cases List.mem_cons.mp hpart with
      | inl hhead =>
          rw [hhead, ← hmember.1]
          refine ⟨member.2, ⟨[], members, rfl, by simp [Absent], ?_⟩, hmember.2⟩
          exact absent_of_decodesMember hmembers (hmember.1 ▸ hdistinct.1)
      | inr htail =>
          rcases ih hdistinct.2 htail with ⟨value, ⟨before, after, hsplit, hbefore, hafter⟩, hvalue⟩
          refine ⟨value, ⟨member :: before, after, by rw [hsplit, List.cons_append], ?_, hafter⟩,
            hvalue⟩
          -- The name of the head is that of another part.
          have hne : member.1 ≠ part.name := fun heq =>
            hdistinct.1 (hmember.1 ▸ heq ▸ List.mem_map_of_mem htail)
          exact List.forall_mem_cons.mpr ⟨hne, hbefore⟩

end Part

namespace Element

theorem nodup_names_parts (element : Element) : (element.parts.map Part.name).Nodup := by
  simp [parts, Part.name]

theorem atMostOnce_of_decodesMember {element : Element} {members : List (String × Value)}
    {given omitted : List Part} (hparts : (given ++ omitted).Perm element.parts)
    (hblank : forall part, part ∈ omitted -> part.IsBlank)
    (hmembers : List.Forall₂ Part.DecodesMember members given)
    {part : Part} (hpart : part ∈ element.parts) :
    exists found, AtMostOnce part.name members found ∧ part.Decodes found := by
  have hdistinct : ((given ++ omitted).map Part.name).Nodup :=
    (hparts.map Part.name).nodup_iff.mpr element.nodup_names_parts
  rw [List.map_append, List.nodup_append'] at hdistinct
  cases List.mem_append.mp (hparts.mem_iff.mpr hpart) with
  | inl hgiven =>
      rcases Part.exists_once_of_decodesMember hmembers hdistinct.1 hgiven with
        ⟨value, honce, hdecodes⟩
      exact ⟨some value, AtMostOnce.once honce, hdecodes⟩
  | inr homitted =>
      have habsent : Absent part.name members := Part.absent_of_decodesMember hmembers
        fun hname => hdistinct.2.2 hname (List.mem_map_of_mem homitted)
      exact ⟨none, AtMostOnce.absent habsent, (hblank part homitted).decodes⟩

theorem decodesElement_of_members {element : Element} {members : List (String × Value)}
    {given omitted : List Part} (hparts : (given ++ omitted).Perm element.parts)
    (hblank : forall part, part ∈ omitted -> part.IsBlank)
    (hmembers : List.Forall₂ Part.DecodesMember members given) :
    DecodesElement (.object members) element := by
  have hfound : forall part, part ∈ element.parts ->
      exists found, AtMostOnce part.name members found ∧ part.Decodes found :=
    fun _ hpart => atMostOnce_of_decodesMember hparts hblank hmembers hpart
  rcases hfound (.id element.id) (by simp [parts]) with ⟨_, hid, rfl⟩
  rcases hfound (.values element.values) (by simp [parts]) with ⟨values, hvalues, hdecodesValues⟩
  rcases hfound (.source element.source) (by simp [parts]) with ⟨source, hsource, hdecodesSource⟩
  rcases hfound (.target element.target) (by simp [parts]) with ⟨target, htarget, hdecodesTarget⟩
  cases hid with
  | once hid =>
      exact ⟨values, source, target, HasFields.named hid hvalues hsource htarget,
        hdecodesValues, hdecodesSource, hdecodesTarget⟩

theorem exists_value_of_renders {word : List Char} {element : Element}
    (h : Renders word element) (depth : Nat) :
    exists value, SpellsWithin (depth + 2) word value ∧ DecodesElement value element := by
  cases h with
  | members hparts hblank hword =>
      have hmember : forall word (part : Part), Part.RendersMember word part ->
          exists member, SpellsMember (SpellsWithin (depth + 1)) word member ∧
            Part.DecodesMember member part := by
        intro word part hpart
        rcases hpart.lift (fun _ _ h => Part.exists_value_of_renders h depth) with
          ⟨value, hvalue, hdecodes⟩
        exact ⟨(part.name, value), hvalue, rfl, hdecodes⟩
      rcases hword.lift hmember with ⟨members, hmembers, hall⟩
      exact ⟨_, spellsWithin_object_iff.mp hmembers,
        decodesElement_of_members hparts hblank hall⟩

end Element

/-!
# Graphs
-/

namespace Graph

open Json (SpellsEscape SpellsChars SpellsLead PlainChar spellsString_plain blanks_nil)

theorem exists_items_of_rendersElements {word : List Char} {elements : List Element}
    (h : RendersElements word elements) (depth : Nat) :
    exists items, SpellsWithin (depth + 3) word (.array items) ∧
      List.Forall₂ DecodesElement items elements := by
  cases h with
  | items hword =>
      rcases hword.lift (fun _ _ h => Element.exists_value_of_renders h depth) with
        ⟨items, hitems, hdecodes⟩
      exact ⟨items, spellsWithin_array_iff.mp hitems, hdecodes⟩

theorem exists_value_of_rendersPayload {word : List Char} {graph : Graph}
    (h : RendersPayload word graph) (depth : Nat) :
    exists value, SpellsWithin (depth + 4) word value ∧ Decodes value graph := by
  cases h with
  | bare hword =>
      rcases exists_items_of_rendersElements hword (depth + 1) with ⟨items, hitems, hdecodes⟩
      exact ⟨.array items, hitems, items, HasElements.bare, hdecodes⟩
  | record hword =>
      have hmember : forall word (entry : String × List Element),
          SpellsMember RendersElements word entry ->
            exists member, SpellsMember (SpellsWithin (depth + 3)) word member ∧
              exists items, member = (entry.1, .array items) ∧
                List.Forall₂ DecodesElement items entry.2 := by
        intro word entry hentry
        have hitems : forall word elements, RendersElements word elements ->
            exists value, SpellsWithin (depth + 3) word value ∧
              exists items, value = .array items ∧ List.Forall₂ DecodesElement items elements := by
          intro word elements h
          rcases exists_items_of_rendersElements h depth with ⟨items, hitems, hdecodes⟩
          exact ⟨.array items, hitems, items, rfl, hdecodes⟩
        rcases hentry.lift hitems with ⟨_, hvalue, items, rfl, hdecodes⟩
        exact ⟨_, hvalue, items, rfl, hdecodes⟩
      rcases hword.lift hmember with ⟨members, hmembers, hall⟩
      rcases List.forall₂_cons_right_iff.mp hall with ⟨_, rest, ⟨items, rfl, hdecodes⟩, hrest, rfl⟩
      rw [List.forall₂_nil_right_iff.mp hrest] at hmembers
      refine ⟨_, spellsWithin_object_iff.mp hmembers, items, ?_, hdecodes⟩
      exact HasElements.named ⟨[], [], rfl, by simp [Absent], by simp [Absent]⟩

theorem Renders.exists_document {text : String} {graph : Graph} (h : graph.Renders text) :
    exists value, Document text value ∧ Decodes value graph := by
  rcases h with ⟨before, word, after, htext, hbefore, hafter, hword⟩
  rcases exists_value_of_rendersPayload hword 123 with ⟨value, ⟨hspells, hdepth⟩, hdecodes⟩
  exact ⟨value, ⟨before, word, after, htext, hbefore, hafter, hspells, hdepth⟩, hdecodes⟩

theorem ofJson_of_renders {text : String} {graph : Graph} (h : graph.Renders text) :
    ofJson text = .ok graph :=
  ofJson_eq_ok_iff.mpr h.exists_document

/-- The members of an element in another order, an end that is null and one that is left
out, and a name as a pair of surrogates. -/
theorem ofJson_of_renders_surrogates :
    let text := "[\x7b\"to\":null,\"id\":-1,\"values\":\x7b\"\\ud83d\\uDE00\": \"\"\x7d\x7d]"
    let attributes : Attributes := .ofList [(String.ofList [Char.ofNat 0x1F600], "")]
    let graph : Graph := ⟨[⟨-1, attributes, none, none⟩]⟩
    graph.Renders text ∧ ofJson text = .ok graph := by
  intro text attributes graph
  have hto : SpellsString ['"', 't', 'o', '"'] "to" :=
    spellsString_plain ['t', 'o'] (by simp [PlainChar, Json.isControl])
  have hid : SpellsString ['"', 'i', 'd', '"'] "id" :=
    spellsString_plain ['i', 'd'] (by simp [PlainChar, Json.isControl])
  have hvalues : SpellsString ['"', 'v', 'a', 'l', 'u', 'e', 's', '"'] "values" :=
    spellsString_plain ['v', 'a', 'l', 'u', 'e', 's'] (by simp [PlainChar, Json.isControl])
  have hpair : SpellsEscape ['u', 'd', '8', '3', 'd', '\\', 'u', 'D', 'E', '0', '0']
      (Char.ofNat (Json.pairValue 0xD83D 0xDE00)) :=
    SpellsEscape.pair (by decide) (by decide) (by decide) (by decide) (by decide)
  have hname : SpellsString ['"', '\\', 'u', 'd', '8', '3', 'd', '\\', 'u', 'D', 'E', '0', '0', '"']
      (String.ofList [Char.ofNat 0x1F600]) :=
    SpellsString.quoted (SpellsChars.escape hpair SpellsChars.nil)
  have hspace : Blanks [' '] := by
    simp [Blanks, Json.isBlank]
  have hattributes : RendersAttributes _ attributes :=
    RendersAttributes.members
      (SpellsEntries.entry (SpellsLead.first blanks_nil)
        (SpellsMember.member hname blanks_nil hspace (SpellsString.quoted SpellsChars.nil))
        (SpellsEntries.closed blanks_nil))
  have hparts : ([Part.target none, .id (-1), .values attributes] ++ [Part.source none]).Perm
      (Element.mk (-1) attributes none none).parts :=
    (List.perm_append_singleton (Part.target none)
      [.id (-1), .values attributes, .source none]).symm
  have hblank : forall part, part ∈ [Part.source none] -> part.IsBlank := by
    simp [Part.IsBlank]
  have htarget : Part.RendersMember _ (.target none) :=
    SpellsMember.member hto blanks_nil blanks_nil RendersEnd.null
  have hnumber : Part.RendersMember _ (.id (-1)) :=
    SpellsMember.member hid blanks_nil blanks_nil (rfl : RendersId ['-', '1'] (-1))
  have hgiven : Part.RendersMember _ (.values attributes) :=
    SpellsMember.member hvalues blanks_nil blanks_nil hattributes
  have helement : Element.Renders _ ⟨-1, attributes, none, none⟩ :=
    Element.Renders.members hparts hblank
      (SpellsEntries.entry (SpellsLead.first blanks_nil) htarget
        (SpellsEntries.entry (SpellsLead.next blanks_nil blanks_nil) hnumber
          (SpellsEntries.entry (SpellsLead.next blanks_nil blanks_nil) hgiven
            (SpellsEntries.closed blanks_nil))))
  have hpayload : RendersPayload _ graph :=
    RendersPayload.bare (RendersElements.items
      (SpellsEntries.entry (SpellsLead.first blanks_nil) helement
        (SpellsEntries.closed blanks_nil)))
  have hrenders : graph.Renders text :=
    ⟨[], _, [], by cbv, blanks_nil, blanks_nil, hpayload⟩
  exact ⟨hrenders, ofJson_of_renders hrenders⟩

theorem Renders.unique {text : String} {first second : Graph} (hfirst : first.Renders text)
    (hsecond : second.Renders text) : first = second := by
  have hread := ofJson_eq_ok_iff.mpr hfirst.exists_document
  rw [ofJson_eq_ok_iff.mpr hsecond.exists_document] at hread
  exact (Except.ok.inj hread).symm

end Graph

/-!
# Every graph has a text

Nothing is left out, there are no blanks, and a character is escaped only where it has to be.
-/

namespace Json

theorem exists_spellsEntries {β : Type} {spells : List Char -> β -> Prop} {entries : List β}
    (hspells : forall entry, entry ∈ entries -> exists word, spells word entry)
    (closing : Char) (first : Bool) :
    exists word, SpellsEntries spells closing first word entries := by
  induction entries generalizing first with
  | nil =>
      exact ⟨_, SpellsEntries.closed blanks_nil⟩
  | cons entry entries ih =>
      rw [List.forall_mem_cons] at hspells
      rcases hspells.1 with ⟨word, hword⟩
      rcases ih hspells.2 false with ⟨tail, htail⟩
      cases first with
      | true =>
          exact ⟨_, SpellsEntries.entry (SpellsLead.first blanks_nil) hword htail⟩
      | false =>
          exact ⟨_, SpellsEntries.entry (SpellsLead.next blanks_nil blanks_nil) hword htail⟩

theorem hexValue?_control {n : Nat} (h : n < 0x20) :
    hexValue? '0' '0' (Nat.digitChar (n / 16)) (Nat.digitChar (n % 16)) = some n := by
  revert n
  decide

theorem exists_spellsChars (chars : List Char) : exists word, SpellsChars word chars := by
  induction chars with
  | nil =>
      exact ⟨[], SpellsChars.nil⟩
  | cons c chars ih =>
      rcases ih with ⟨word, hword⟩
      by_cases hquote : c = '"'
      · have hescape : SpellsEscape ['"'] c := SpellsEscape.letter (by rw [hquote]; rfl)
        exact ⟨_, SpellsChars.escape hescape hword⟩
      by_cases hbackslash : c = '\\'
      · have hescape : SpellsEscape ['\\'] c := SpellsEscape.letter (by rw [hbackslash]; rfl)
        exact ⟨_, SpellsChars.escape hescape hword⟩
      cases hcontrol : isControl c with
      | false =>
          exact ⟨_, SpellsChars.plain hquote hbackslash hcontrol hword⟩
      | true =>
          rw [isControl, decide_eq_true_eq] at hcontrol
          have hescape := SpellsEscape.code (hexValue?_control hcontrol)
            (by simp [isTrailing]; omega) (by simp [isLeading]; omega)
          rw [Char.ofNat_toNat] at hescape
          exact ⟨_, SpellsChars.escape hescape hword⟩

theorem exists_spellsString (text : String) : exists word, SpellsString word text := by
  rcases exists_spellsChars text.toList with ⟨word, hword⟩
  have hstring := SpellsString.quoted hword
  rw [String.ofList_toList] at hstring
  exact ⟨_, hstring⟩

theorem exists_spellsMember {β : Type} {spells : List Char -> β -> Prop} {content : β}
    (hspells : exists word, spells word content) (name : String) :
    exists word, SpellsMember spells word (name, content) := by
  rcases hspells with ⟨word, hword⟩
  rcases exists_spellsString name with ⟨nameWord, hname⟩
  exact ⟨_, SpellsMember.member hname blanks_nil blanks_nil hword⟩

end Json

theorem exists_rendersEnd (found : Option Int64) : exists word, RendersEnd word found := by
  cases found with
  | none =>
      exact ⟨_, RendersEnd.null⟩
  | some id =>
      exact ⟨_, RendersEnd.given rfl⟩

theorem exists_rendersAttributes (attributes : Attributes) :
    exists word, RendersAttributes word attributes := by
  have hmember : forall pair, pair ∈ attributes.entries ->
      exists word, SpellsMember SpellsString word pair :=
    fun pair _ => Json.exists_spellsMember (Json.exists_spellsString pair.2) pair.1
  rcases Json.exists_spellsEntries hmember '\x7d' true with ⟨word, hword⟩
  exact ⟨_, RendersAttributes.members hword⟩

theorem Part.exists_renders (part : Part) : exists word, part.Renders word := by
  cases part with
  | id number =>
      exact ⟨_, rfl⟩
  | values attributes =>
      exact exists_rendersAttributes attributes
  | source found =>
      exact exists_rendersEnd found
  | target found =>
      exact exists_rendersEnd found

theorem Element.exists_renders (element : Element) : exists word, element.Renders word := by
  have hmember : forall part, part ∈ element.parts -> exists word, Part.RendersMember word part :=
    fun part _ => Json.exists_spellsMember part.exists_renders part.name
  rcases Json.exists_spellsEntries hmember '\x7d' true with ⟨word, hword⟩
  have hparts : (element.parts ++ []).Perm element.parts := by
    rw [List.append_nil]
  exact ⟨_, Element.Renders.members hparts (by simp) hword⟩

theorem Graph.exists_renders (graph : Graph) : exists text, graph.Renders text := by
  have hitem : forall element, element ∈ graph.elements ->
      exists word, Element.Renders word element :=
    fun element _ => element.exists_renders
  rcases Json.exists_spellsEntries hitem ']' true with ⟨word, hword⟩
  have hpayload := RendersPayload.bare (RendersElements.items hword)
  refine ⟨String.ofList ('[' :: word), [], '[' :: word, [], ?_, Json.blanks_nil, Json.blanks_nil,
    hpayload⟩
  rw [String.toList_ofList, List.nil_append, List.append_nil]

end GraphLayout
