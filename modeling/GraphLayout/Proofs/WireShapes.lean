import Mathlib
import GraphLayout.Proofs.Decoding
import GraphLayout.Proofs.Json.Brackets
import GraphLayout.Proofs.Json.Nesting

/-!
# The two shapes of a payload

A list of elements and the record around that list stand for the same graph. The record
takes one more pair of brackets, so that a list whose brackets are nested as deeply as the
limit allows is decoded only without the record.
-/

namespace GraphLayout

open Json (Value Blanks Brackets Balanced Spells SpellsString SpellsEntries SpellsMember SpellsLead
  SpellsWithin Written Document PlainChar blanks_nil)

/-- One list with blanks around it. Nothing is asked of what is between its brackets but
that the brackets and the quotation marks there match. -/
def ListText (text : String) : Prop :=
  exists before inner after, text.toList = before ++ ('[' :: (inner ++ (']' :: after))) ∧
    Blanks before ∧ Blanks after ∧ Balanced inner

def recordOf (text : String) : String :=
  "\x7b\"elements\":" ++ text ++ "\x7d"

theorem listText_of_written {text : String} {items : List Value}
    (h : Written text (.array items)) : ListText text := by
  rcases h with ⟨before, word, after, htext, hbefore, hafter, hword⟩
  rcases Value.exists_nestedWithin (.array items) with ⟨depth, hdepth⟩
  rcases SpellsWithin.enclosed ⟨hword, hdepth⟩ with ⟨inner, rfl, hinner⟩
  refine ⟨before, inner, after, ?_, hbefore, hafter, hinner⟩
  rw [htext, List.cons_append, List.append_assoc, List.singleton_append]

/-!
# The word of the record
-/

theorem toList_recordOf (text : String) :
    (recordOf text).toList =
      '\x7b' :: ('"' :: ("elements\"".toList ++ (':' :: (text.toList ++ ['\x7d'])))) := by
  simp [recordOf]

theorem spellsString_elements : SpellsString ('"' :: "elements\"".toList) "elements" :=
  Json.spellsString_plain ['e', 'l', 'e', 'm', 'e', 'n', 't', 's']
    (by simp [PlainChar, Json.isControl])

theorem written_recordOf {text : String} {value : Value} (h : Written text value) :
    Written (recordOf text) (.object [("elements", value)]) := by
  rcases h with ⟨before, word, after, htext, hbefore, hafter, hword⟩
  have hmember : SpellsMember Spells
      (('"' :: "elements\"".toList) ++ ([] ++ (':' :: (before ++ word)))) ("elements", value) :=
    SpellsMember.member spellsString_elements blanks_nil hbefore hword
  have hobject := Spells.object (SpellsEntries.entry (SpellsLead.first blanks_nil) hmember
    (SpellsEntries.closed hafter))
  refine ⟨[], _, [], ?_, blanks_nil, blanks_nil, hobject⟩
  rw [toList_recordOf, htext]
  simp

/-!
# The value of the record

The word of the record is taken apart from its front: the name, the colon, and the list up
to the bracket that closes it. Nothing but the bracket of the record is left then.
-/

theorem spells_of_starts {c : Char} {more : List Char} {value : Value}
    (h : Spells (c :: more) value) :
    (c = '[' -> exists items, value = .array items) ∧
      (c = '\x7b' -> exists members, value = .object members ∧
        SpellsEntries (SpellsMember Spells) '\x7d' true more members) := by
  cases h with
  | null =>
      exact ⟨by simp, by simp⟩
  | yes =>
      exact ⟨by simp, by simp⟩
  | no =>
      exact ⟨by simp, by simp⟩
  | array _ =>
      exact ⟨fun _ => ⟨_, rfl⟩, by simp⟩
  | object hmembers =>
      exact ⟨by simp, fun _ => ⟨_, rfl, hmembers⟩⟩
  | number hnumber =>
      rcases hnumber.starts with ⟨_, _, hword, hstarts⟩
      cases hword
      constructor
      · rintro rfl
        cases hstarts
      · rintro rfl
        cases hstarts
  | string hstring =>
      rcases hstring.starts with ⟨_, hword⟩
      cases hword
      exact ⟨by simp, by simp⟩

theorem list_unique {depth : Nat} {word before inner rest rest' blanks : List Char} {value : Value}
    (hword : SpellsWithin depth word value) (hblanks : Blanks blanks) (hbefore : Blanks before)
    (hinner : Balanced inner)
    (h : blanks ++ (word ++ rest) = before ++ ('[' :: (inner ++ (']' :: rest')))) :
    (exists items, value = .array items) ∧ blanks = before ∧
      word = '[' :: (inner ++ [']']) ∧ rest = rest' := by
  rcases hword.1.startsItem with ⟨c, more, rfl, hc, _⟩
  rcases hblanks.unique hbefore hc (by decide) h with ⟨hsame, rfl, hmore⟩
  rcases (spells_of_starts hword.1).1 rfl with ⟨items, rfl⟩
  rcases hword.enclosed with ⟨inner', hword', hinner'⟩
  rw [(List.cons.inj hword').2, List.append_eq, List.append_assoc, List.singleton_append] at hmore
  rcases hinner'.unique (Or.inl ⟨rfl, rfl⟩) hinner hmore with ⟨rfl, hrest⟩
  exact ⟨⟨items, rfl⟩, hsame, hword', hrest⟩

theorem exists_first_member {word behind rest : List Char} {members : List (String × Value)}
    (h : SpellsEntries (SpellsMember Spells) '\x7d' true word members)
    (htext : '"' :: ("elements\"".toList ++ (':' :: rest)) = word ++ behind) :
    exists value more blanks valueWord tail, members = ("elements", value) :: more ∧
      Blanks blanks ∧ Spells valueWord value ∧
      SpellsEntries (SpellsMember Spells) '\x7d' false tail more ∧
      rest = blanks ++ (valueWord ++ (tail ++ behind)) := by
  cases h with
  | closed hblanks =>
      rw [List.append_assoc] at htext
      have hmark := (blanks_nil.unique hblanks (by decide) (by decide) htext).2.1
      contradiction
  | entry hlead hmember htail =>
      cases hlead with
      | first hlead =>
          cases hmember with
          | member hname hblanks hblanks' hvalue =>
              rcases hname.starts with ⟨nameTail, rfl⟩
              simp only [List.append_assoc, List.cons_append] at htext
              rcases blanks_nil.unique hlead (by decide) (by decide) htext with ⟨_, _, hbehind⟩
              rcases Json.reads_stringTail.unique spellsString_elements hname trivial trivial
                hbehind with ⟨rfl, hcolon⟩
              rcases blanks_nil.unique hblanks (by decide) (by decide) hcolon with ⟨_, _, hrest⟩
              exact ⟨_, _, _, _, _, rfl, hblanks', hvalue, htail, hrest⟩

theorem spellsEntries_closed {word after rest : List Char} {members : List (String × Value)}
    (h : SpellsEntries (SpellsMember Spells) '\x7d' false word members) (hafter : Blanks after)
    (hword : word ++ rest = after ++ ['\x7d']) : members = [] := by
  cases h with
  | closed _ =>
      rfl
  | entry hlead _ _ =>
      cases hlead with
      | next hblanks _ =>
          simp only [List.append_assoc, List.cons_append] at hword
          have hcomma := (hblanks.unique hafter (by decide) (by decide) hword).2.1
          contradiction

theorem written_of_recordOf {text : String} (htext : ListText text) {value : Value}
    (h : Document (recordOf text) value) :
    exists items, Written text (.array items) ∧ value = .object [("elements", .array items)] := by
  rcases htext with ⟨before, inner, after, htext, hbefore, hafter, hinner⟩
  rcases h with ⟨blanks, word, behind, hrecord, hblanks, _, hword, hdepth⟩
  rw [toList_recordOf, htext] at hrecord
  rcases hword.startsItem with ⟨c, more, rfl, hc, _⟩
  rcases blanks_nil.unique hblanks (by decide) hc hrecord with ⟨rfl, rfl, hmore⟩
  rcases (spells_of_starts hword).2 rfl with ⟨members, rfl, hmembers⟩
  rcases exists_first_member hmembers hmore with
    ⟨value, others, blanks', valueWord, tail, rfl, hblanks', hvalue, htail, hrest⟩
  simp only [List.append_assoc, List.cons_append] at hrest
  have hwithin : SpellsWithin 126 valueWord value := ⟨hvalue, hdepth _ (List.mem_cons_self ..)⟩
  rcases list_unique hwithin hblanks' hbefore hinner hrest.symm with
    ⟨⟨items, rfl⟩, _, hlist, hbehind⟩
  rw [spellsEntries_closed htail hafter hbehind]
  refine ⟨items, ⟨before, valueWord, after, ?_, hbefore, hafter, hvalue⟩, rfl⟩
  rw [htext, hlist]
  simp

/-!
# Decoding
-/

namespace Graph

theorem decodes_record_iff {items : List Value} {graph : Graph} :
    Decodes (.object [("elements", .array items)]) graph <-> Decodes (.array items) graph := by
  rw [← ofValue?_eq_some_iff, ← ofValue?_eq_some_iff]
  rfl

theorem nestedWithin_record_iff {items : List Value} {depth : Nat} :
    Value.NestedWithin (depth + 1) (.object [("elements", .array items)]) <->
      Value.NestedWithin depth (.array items) := by
  simp [Value.NestedWithin]

theorem ofJson_of_recordOf {text : String} (htext : ListText text) {graph : Graph}
    (h : ofJson (recordOf text) = .ok graph) : ofJson text = .ok graph := by
  rcases ofJson_eq_ok_iff.mp h with ⟨value, hdocument, hdecodes⟩
  rcases written_of_recordOf htext hdocument with ⟨items, hwritten, rfl⟩
  have hdepth := nestedWithin_record_iff.mp (Json.document_iff_written.mp hdocument).2
  exact ofJson_eq_ok_iff.mpr ⟨.array items, Json.document_iff_written.mpr ⟨hwritten, hdepth.succ⟩,
    decodes_record_iff.mp hdecodes⟩

theorem exists_list_document {text : String} (htext : ListText text) {graph : Graph}
    (h : ofJson text = .ok graph) :
    exists items, Document text (.array items) ∧ Decodes (.array items) graph := by
  rcases htext with ⟨before, inner, after, htext, hbefore, _, _⟩
  rcases ofJson_eq_ok_iff.mp h with ⟨value, hdocument, hdecodes⟩
  have hlist : exists items, value = .array items := by
    rcases hdocument with ⟨blanks, word, behind, hword, hblanks, _, hspells, _⟩
    rw [htext] at hword
    rcases hspells.startsItem with ⟨c, more, rfl, hc, _⟩
    rcases hbefore.unique hblanks (by decide) hc hword with ⟨_, rfl, _⟩
    exact (spells_of_starts hspells).1 rfl
  rcases hlist with ⟨items, rfl⟩
  exact ⟨items, hdocument, hdecodes⟩

theorem ofJson_recordOf_of_nestedWithin {text : String} {items : List Value} {graph : Graph}
    (hdocument : Document text (.array items)) (hdecodes : Decodes (.array items) graph)
    (hdepth : Value.NestedWithin 126 (.array items)) : ofJson (recordOf text) = .ok graph :=
  ofJson_eq_ok_iff.mpr ⟨_, Json.document_iff_written.mpr
    ⟨written_recordOf (Json.document_iff_written.mp hdocument).1,
      nestedWithin_record_iff.mpr hdepth⟩, decodes_record_iff.mpr hdecodes⟩

theorem ofJson_recordOf_of_not_nestedWithin {text : String} {items : List Value}
    (hdocument : Document text (.array items))
    (hdepth : ¬Value.NestedWithin 126 (.array items)) :
    exists position, ofJson (recordOf text) = .error ⟨.located .nestingLimit position⟩ := by
  have hrecord := written_recordOf (Json.document_iff_written.mp hdocument).1
  rcases hrecord.fails (fun h => hdepth (nestedWithin_record_iff.mp h)) with ⟨left, hfails⟩
  simp only [ofJson, hfails]
  exact ⟨_, rfl⟩

end Graph

/-!
# A list at the limit

A member that is ignored may be nested as deeply as the limit allows.
-/

def nestedList : Nat -> Value
  | 0 => .array []
  | depth + 1 => .array [nestedList depth]

def nestedListWord : Nat -> List Char
  | 0 => ['[', ']']
  | depth + 1 => '[' :: (nestedListWord depth ++ [']'])

theorem spells_nestedList (depth : Nat) : Spells (nestedListWord depth) (nestedList depth) := by
  induction depth with
  | zero =>
      exact Spells.array (SpellsEntries.closed blanks_nil)
  | succ depth ih =>
      exact Spells.array (SpellsEntries.entry (SpellsLead.first blanks_nil) ih
        (SpellsEntries.closed blanks_nil))

theorem nestedWithin_nestedList_iff {depth limit : Nat} :
    (nestedList depth).NestedWithin limit <-> depth < limit := by
  induction depth generalizing limit with
  | zero =>
      cases limit with
      | zero =>
          simp [nestedList, Value.NestedWithin]
      | succ limit =>
          simp [nestedList, Value.NestedWithin]
  | succ depth ih =>
      cases limit with
      | zero =>
          simp [nestedList, Value.NestedWithin]
      | succ limit =>
          simp [nestedList, Value.NestedWithin, ih]

def textWith (word : List Char) : String :=
  "[\x7b\"id\":1,\"x\":" ++ String.ofList word ++ "\x7d]"

def valueWith (value : Value) : Value :=
  .array [.object [("id", .number (.whole 1)), ("x", value)]]

theorem written_textWith {word : List Char} {value : Value} (h : Spells word value) :
    Written (textWith word) (valueWith value) := by
  have hid : SpellsString ['"', 'i', 'd', '"'] "id" :=
    Json.spellsString_plain ['i', 'd'] (by simp [PlainChar, Json.isControl])
  have hname : SpellsString ['"', 'x', '"'] "x" :=
    Json.spellsString_plain ['x'] (by simp [PlainChar, Json.isControl])
  have hdigits : Json.WholeDigits ['1'] :=
    ⟨⟨by simp, by simp⟩, by simp⟩
  have hone : Spells ['1'] (.number (.whole 1)) :=
    Spells.number (Json.SpellsNumber.whole (Json.SpellsInteger.natural hdigits (by decide)))
  have hobject := Spells.object
    (SpellsEntries.entry (SpellsLead.first blanks_nil)
      (SpellsMember.member hid blanks_nil blanks_nil hone)
      (SpellsEntries.entry (SpellsLead.next blanks_nil blanks_nil)
        (SpellsMember.member hname blanks_nil blanks_nil h)
        (SpellsEntries.closed blanks_nil)))
  have hlist := Spells.array (SpellsEntries.entry (SpellsLead.first blanks_nil) hobject
    (SpellsEntries.closed blanks_nil))
  refine ⟨[], _, [], ?_, blanks_nil, blanks_nil, hlist⟩
  simp [textWith]

theorem nestedWithin_valueWith_iff {value : Value} {depth : Nat} :
    (valueWith value).NestedWithin (depth + 2) <-> value.NestedWithin depth := by
  simp [valueWith, Value.NestedWithin]

theorem decodes_valueWith (value : Value) : Decodes (valueWith value) ⟨[.node 1 .empty]⟩ :=
  Graph.ofValue?_eq_some_iff.mp rfl

namespace Graph

/-- Both shapes are decoded alike, unless the list is nested exactly to the limit. The
record is then refused for its depth, which does happen. -/
theorem ofJson_recordOf :
    (forall text, ListText text ->
      (forall graph, ofJson (recordOf text) = .ok graph -> ofJson text = .ok graph) ∧
      forall graph, ofJson text = .ok graph -> exists value, Document text value ∧
        (value.NestedWithin 126 -> ofJson (recordOf text) = .ok graph) ∧
        (¬value.NestedWithin 126 ->
          exists position, ofJson (recordOf text) = .error ⟨.located .nestingLimit position⟩)) ∧
    exists text graph value position, ListText text ∧ Document text value ∧
      ¬value.NestedWithin 126 ∧ ofJson text = .ok graph ∧
      ofJson (recordOf text) = .error ⟨.located .nestingLimit position⟩ := by
  constructor
  · intro text htext
    refine ⟨fun graph h => ofJson_of_recordOf htext h, ?_⟩
    intro graph h
    rcases exists_list_document htext h with ⟨items, hdocument, hdecodes⟩
    exact ⟨.array items, hdocument, ofJson_recordOf_of_nestedWithin hdocument hdecodes,
      ofJson_recordOf_of_not_nestedWithin hdocument⟩
  · have hwritten := written_textWith (spells_nestedList 124)
    have hdocument : Document (textWith (nestedListWord 124)) (valueWith (nestedList 124)) :=
      Json.document_iff_written.mpr ⟨hwritten,
        nestedWithin_valueWith_iff.mpr (nestedWithin_nestedList_iff.mpr (by decide))⟩
    have hdepth : ¬(valueWith (nestedList 124)).NestedWithin 126 := by
      rw [nestedWithin_valueWith_iff, nestedWithin_nestedList_iff]
      decide
    have hdecoded := ofJson_eq_ok_iff.mpr ⟨_, hdocument, decodes_valueWith _⟩
    rcases ofJson_recordOf_of_not_nestedWithin hdocument hdepth with ⟨position, hrefused⟩
    exact ⟨_, _, _, position, listText_of_written hwritten, hdocument, hdepth, hdecoded, hrefused⟩

end Graph
end GraphLayout
