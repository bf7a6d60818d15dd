import GraphLayout.Proofs.Json.Values

/-!
# Brackets beyond the limit

A word of the grammar whose brackets are nested more deeply than a reader allows is
refused by that reader, and the refusal names the limit. So a text of a value is either a
document or refused for its depth.
-/

namespace GraphLayout
namespace Json

variable {β γ : Type}

def FailsFor (cause : Cause) (result : Except Failure β) : Prop :=
  exists left, result = .error ⟨cause, left⟩

theorem FailsFor.bind {cause : Cause} {result : Except Failure β} (h : FailsFor cause result)
    (f : β -> Except Failure γ) : FailsFor cause (result >>= f) := by
  rcases h with ⟨left, rfl⟩
  exact ⟨left, rfl⟩

/-!
# Entries
-/

/-- The entries in front of the first one beyond the depth are read, and that one fails. -/
theorem entriesFrom_fails {next : Bool -> List Char -> Except Failure Next}
    {unclosed cause : Cause} {entry : Reader β} {closing : Char} {mark : List Char}
    {starts : List Char -> Prop} {spells : List Char -> β -> Prop} {holds : β -> Prop}
    (hclosing : closing = ']' ∨ closing = '\x7d')
    (hnext : Punctuates next closing mark starts)
    (hstarts : forall {word : List Char} {value : β}, spells word value -> word ≠ [] ∧
      exists inner, word = mark ++ inner ∧ forall rest, starts (inner ++ rest))
    (hread : forall {inner rest : List Char} {value : β}, spells (mark ++ inner) value ->
      holds value -> Stops rest -> entry (inner ++ rest) = .ok (value, rest))
    (hfails : forall {inner rest : List Char} {value : β}, spells (mark ++ inner) value ->
      ¬holds value -> Stops rest -> FailsFor cause (entry (inner ++ rest)))
    {first : Bool} {word : List Char} {values : List β}
    (h : SpellsEntries spells closing first word values)
    (hvalues : ¬forall value, value ∈ values -> holds value) {budget : List Char}
    (hbudget : word.length ≤ budget.length) (rest : List Char) :
    FailsFor cause (entriesFrom next unclosed entry budget first (word ++ rest)) := by
  induction h generalizing budget with
  | closed hblanks =>
      exact absurd (by simp) hvalues
  | entry hlead hword htail ih =>
      rcases hstarts hword with ⟨hnonempty, inner, rfl, hinner⟩
      have hlength := List.length_pos_iff.mpr hnonempty
      rename_i tail value values
      have hstops : Stops (tail ++ rest) := htail.stops hclosing rest
      simp only [List.length_append] at hbudget hlength
      cases budget with
      | nil =>
          simp only [List.length_nil] at hbudget
          omega
      | cons c budget =>
          have hless : tail.length ≤ budget.length := by
            simp only [List.length_cons] at hbudget
            omega
          simp only [entriesFrom, List.append_assoc]
          rw [hnext.mpr (Or.inr ⟨_, _, hlead, hinner _, rfl, rfl⟩), ok_bind]
          by_cases hvalue : holds value
          · have hmore : ¬forall value, value ∈ values -> holds value := fun hall =>
              hvalues (List.forall_mem_cons.mpr ⟨hvalue, hall⟩)
            simp only [hread hword hvalue hstops, ok_bind]
            exact (ih hmore hless).bind _
          · exact (hfails hword hvalue hstops).bind _

/-!
# Depths
-/

theorem Value.NestedWithin.succ {depth : Nat} {value : Value} (h : value.NestedWithin depth) :
    value.NestedWithin (depth + 1) := by
  induction depth generalizing value with
  | zero =>
      cases value with
      | array items =>
          cases h
      | object members =>
          cases h
      | _ =>
          exact nestedWithin_atom (by simp) (by simp)
  | succ depth ih =>
      cases value with
      | array items =>
          exact fun item hmem => ih (h item hmem)
      | object members =>
          exact fun member hmem => ih (h member hmem)
      | _ =>
          exact nestedWithin_atom (by simp) (by simp)

theorem Value.NestedWithin.mono {depth limit : Nat} {value : Value}
    (h : value.NestedWithin depth) (hle : depth ≤ limit) : value.NestedWithin limit := by
  induction hle with
  | refl =>
      exact h
  | step _ ih =>
      exact ih.succ

theorem exists_common_depth {values : List Value}
    (h : forall value, value ∈ values -> exists depth, value.NestedWithin depth) :
    exists depth, forall value, value ∈ values -> value.NestedWithin depth := by
  induction values with
  | nil =>
      exact ⟨0, by simp⟩
  | cons value values ih =>
      rw [List.forall_mem_cons] at h
      rcases h.1 with ⟨depth, hvalue⟩
      rcases ih h.2 with ⟨depth', hvalues⟩
      refine ⟨max depth depth', List.forall_mem_cons.mpr ⟨hvalue.mono (Nat.le_max_left ..), ?_⟩⟩
      exact fun value hmem => (hvalues value hmem).mono (Nat.le_max_right ..)

theorem Value.exists_nestedWithin (value : Value) : exists depth, value.NestedWithin depth := by
  match value with
  | .array items =>
      have hitems : forall item, item ∈ items -> exists depth, item.NestedWithin depth :=
        fun item hmem => item.exists_nestedWithin
      rcases exists_common_depth hitems with ⟨depth, h⟩
      exact ⟨depth + 1, h⟩
  | .object members =>
      have hmembers : forall member, member ∈ members ->
          exists depth, member.2.NestedWithin depth :=
        fun member hmem => member.2.exists_nestedWithin
      have hcontents : forall content, content ∈ members.map Prod.snd ->
          exists depth, content.NestedWithin depth :=
        List.forall_mem_map.mpr hmembers
      rcases exists_common_depth hcontents with ⟨depth, h⟩
      exact ⟨depth + 1, List.forall_mem_map.mp h⟩
  | .null | .bool _ | .number _ | .string _ =>
      exact ⟨0, nestedWithin_atom (by simp) (by simp)⟩
termination_by sizeOf value
decreasing_by
  · have hsize := List.sizeOf_lt_of_mem hmem
    simp only [Value.array.sizeOf_spec]
    omega
  · have hsize := List.sizeOf_lt_of_mem hmem
    have hcontent : sizeOf member = 1 + sizeOf member.1 + sizeOf member.2 := by
      cases member
      rfl
    simp only [Value.object.sizeOf_spec]
    omega

/-!
# Values
-/

section Within

variable {depth : Nat}
  (hfails : forall {word rest : List Char} {value : Value}, Spells word value ->
    ¬value.NestedWithin depth -> Stops rest ->
      FailsFor .nestingLimit (valueWithin depth (word ++ rest)))

include hfails

theorem items_fails {word : List Char} {values : List Value}
    (h : SpellsEntries Spells ']' true word values)
    (hvalues : ¬forall value, value ∈ values -> value.NestedWithin depth) (rest : List Char) :
    FailsFor .nestingLimit (items (valueWithin depth) (word ++ rest)) := by
  rw [items, itemsFrom_eq]
  refine entriesFrom_fails (Or.inl rfl) punctuates_nextItem ?_ ?_ hfails h hvalues (by simp) rest
  · intro word value hword
    rcases hword.startsItem with ⟨c, more, rfl, hblank, hclosing⟩
    exact ⟨by simp, _, rfl, fun rest => ⟨c, more ++ rest, rfl, hblank, hclosing⟩⟩
  · intro word rest value hword hvalue hrest
    exact (reads_valueWithin depth).complete ⟨[], word, rfl, blanks_nil, hword, hvalue⟩ hrest

theorem memberTail_fails {inner rest : List Char} {member : String × Value}
    (h : SpellsMember Spells (['"'] ++ inner) member) (hmember : ¬member.2.NestedWithin depth)
    (hrest : Stops rest) :
    FailsFor .nestingLimit (memberTail stringTail (valueWithin depth) (inner ++ rest)) := by
  generalize hword : ['"'] ++ inner = word at h
  cases h with
  | @member nameWord blanks blanks' valueWord name value hname hblanks hblanks' hvalue =>
      rcases hname.starts with ⟨nameTail, rfl⟩
      have hinner : inner = nameTail ++ (blanks ++ (':' :: (blanks' ++ valueWord))) :=
        (List.cons.inj hword).2
      have hcolon : colon (blanks ++ (':' :: (blanks' ++ (valueWord ++ rest)))) =
          .ok (blanks' ++ (valueWord ++ rest)) :=
        colon_eq_ok_iff.mpr ⟨blanks, hblanks, rfl⟩
      have hcontent := hfails hvalue hmember hrest
      rw [← valueWithin_append hblanks'] at hcontent
      simp only [memberTail, hinner, List.append_assoc, List.cons_append]
      rw [reads_stringTail.complete hname trivial, ok_bind]
      simp only [hcolon, ok_bind]
      exact hcontent.bind _

theorem members_fails {word : List Char} {members : List (String × Value)}
    (h : SpellsEntries (SpellsMember Spells) '\x7d' true word members)
    (hmembers : ¬forall member, member ∈ members -> member.2.NestedWithin depth)
    (rest : List Char) :
    FailsFor .nestingLimit (Json.members stringTail (valueWithin depth) (word ++ rest)) := by
  rw [Json.members, membersFrom_eq]
  refine entriesFrom_fails (Or.inr rfl) punctuates_nextMember ?_ ?_ (memberTail_fails hfails) h
    hmembers (by simp) rest
  · intro word member hword
    cases hword with
    | member hname _ _ _ =>
        rcases hname.starts with ⟨nameTail, rfl⟩
        exact ⟨by simp, _, rfl, fun _ => trivial⟩
  · intro inner rest member hword hmember hrest
    exact (reads_memberTail reads_stringTail (reads_valueWithin depth)).complete
      ⟨[], _, rfl, blanks_nil, spellsMember_and_iff.mpr ⟨hword, hmember⟩⟩ hrest

end Within

theorem valueWithin_fails {depth : Nat} {word rest : List Char} {value : Value}
    (h : Spells word value) (hdepth : ¬value.NestedWithin depth) (hrest : Stops rest) :
    FailsFor .nestingLimit (valueWithin depth (word ++ rest)) := by
  induction depth generalizing word rest value with
  | zero =>
      cases h with
      | array hitems =>
          exact ⟨_, rfl⟩
      | object hmembers =>
          exact ⟨_, rfl⟩
      | _ =>
          exact absurd (nestedWithin_atom (by simp) (by simp)) hdepth
  | succ depth ih =>
      cases h with
      | array hitems =>
          exact (items_fails ih hitems hdepth rest).bind _
      | object hmembers =>
          exact (members_fails ih hmembers hdepth rest).bind _
      | _ =>
          exact absurd (nestedWithin_atom (by simp) (by simp)) hdepth

/-!
# Texts
-/

/-- The text is JSON for the value, however deeply it is nested. -/
def Written (text : String) (value : Value) : Prop :=
  exists before word after, text.toList = before ++ (word ++ after) ∧ Blanks before ∧
    Blanks after ∧ Spells word value

theorem document_iff_written {text : String} {value : Value} :
    Document text value <-> Written text value ∧ value.NestedWithin nestingLimit := by
  constructor
  · intro h
    rcases h with ⟨before, word, after, htext, hbefore, hafter, hword, hdepth⟩
    exact ⟨⟨before, word, after, htext, hbefore, hafter, hword⟩, hdepth⟩
  · intro h
    rcases h with ⟨⟨before, word, after, htext, hbefore, hafter, hword⟩, hdepth⟩
    exact ⟨before, word, after, htext, hbefore, hafter, hword, hdepth⟩

theorem Written.fails {text : String} {content : Value} (h : Written text content)
    (hdepth : ¬content.NestedWithin nestingLimit) : FailsFor .nestingLimit (value text.toList) := by
  rcases h with ⟨before, word, after, htext, hbefore, hafter, hword⟩
  rw [htext, value, valueWithin_append hbefore]
  exact valueWithin_fails hword hdepth (stops_of_blanks hafter)

end Json
end GraphLayout
