import GraphLayout.Json.Record
import GraphLayout.Proofs.Json.Nesting
import GraphLayout.Proofs.Json.Skipping

/-!
# Reading records

What a record makes of an object is told by what it makes of one member after the other,
whatever the texts of the members are. A failure is told apart from other failures by
neither its cause nor its place here.
-/

namespace GraphLayout
namespace Json

variable {β γ δ ε : Type}

/-!
# Outcomes
-/

theorem toOption_bind (x : Except ε β) (f : β -> Except ε γ) :
    (x >>= f).toOption = x.toOption.bind fun value => (f value).toOption := by
  cases x with
  | error failure =>
      rfl
  | ok value =>
      rfl

theorem toOption_eq_some_iff {x : Except ε β} {value : β} :
    x.toOption = some value <-> x = .ok value := by
  cases x with
  | error failure =>
      simp [Except.toOption]
  | ok found =>
      simp [Except.toOption]

@[simp]
theorem toOption_failBefore (cause : Cause) (rest : List Char) :
    (failBefore cause rest : Except Failure β).toOption = none :=
  rfl

@[simp]
theorem toOption_failBehind (cause : Cause) (rest : List Char) :
    (failBehind cause rest : Except Failure β).toOption = none :=
  rfl

@[simp]
theorem toOption_refuse (cause : γ -> Cause) (reading : Except Failure (γ × List Char)) :
    (refuse cause reading : Except Failure (β × List Char)).toOption = none := by
  cases reading with
  | error failure =>
      rfl
  | ok result =>
      rfl

@[simp]
theorem toOption_refuseValue (wanted : Wanted) (text : List Char) :
    (refuseValue wanted text : Except Failure (β × List Char)).toOption = none := by
  cases text with
  | nil =>
      rfl
  | cons c rest =>
      simp only [refuseValue, apply_ite Except.toOption, toOption_refuse, toOption_failBefore,
        toOption_failBehind, ite_self]

theorem toOption_readAll {reader : Reader β} {text : String} {result : Option β}
    {rest : List Char}
    (hread : (reader text.toList).toOption = result.map fun value => (value, rest))
    (hrest : Blanks rest) : (readAll reader text).toOption = result := by
  have hmapError (reading : Except Failure β) :
      (reading.mapError (Failure.locate text.toList)).toOption = reading.toOption := by
    cases reading with
    | error failure =>
        rfl
    | ok value =>
        rfl
  simp only [readAll, hmapError, toOption_bind, hread]
  cases result with
  | none =>
      rfl
  | some value =>
      simp only [Option.map_some, Option.bind_some, finish_eq_ok_iff.mpr hrest]
      rfl

/-!
# Numbers
-/

def Value.number? : Value -> Option Number
  | number value => some value
  | _ => none

theorem Value.number?_eq_some_iff {value : Value} {found : Number} :
    value.number? = some found <-> value = .number found := by
  cases value with
  | number content =>
      simp [number?]
  | _ =>
      simp [number?]

/-- In front of what ends a value, the reader gives what the conversion makes of the value. -/
def Converts (reader : Reader β) (convert : Value -> Option β) : Prop :=
  forall ⦃word rest : List Char⦄ ⦃value : Value⦄, AfterBlanks Spells word value -> Stops rest ->
    (reader (word ++ rest)).toOption = (convert value).map fun result => (result, rest)

theorem converts_numberAs (wanted : Wanted) (convert : Number -> Except Cause β) :
    Converts (numberAs wanted convert) fun value =>
      value.number?.bind fun number => (convert number).toOption := by
  intro word rest value hword hrest
  rcases hword with ⟨blanks, inner, rfl, hblanks, hinner⟩
  rcases hinner.startsItem with ⟨c, more, hstart, hblank, _⟩
  have hskip : skipBlanks (blanks ++ inner ++ rest) = c :: (more ++ rest) := by
    rw [List.append_assoc, skipBlanks_append hblanks, hstart, List.cons_append,
      skipBlanks_cons hblank]
  simp only [numberAs, hskip]
  cases hinner with
  | number hnumber =>
      rcases hnumber.starts with ⟨d, more', hstart', hd⟩
      rw [hstart'] at hstart
      cases hstart
      have hread := reads_number.complete hnumber hrest
      rw [hstart', List.cons_append] at hread
      rw [if_pos hd, hread, ok_bind]
      simp only [Value.number?, Option.bind_some]
      cases convert _ with
      | error cause =>
          rfl
      | ok result =>
          rfl
  | string hstring =>
      rcases hstring.starts with ⟨more', rfl⟩
      cases hstart
      simp [startsNumber, Value.number?]
  | _ =>
      cases hstart
      simp [startsNumber, Value.number?]

theorem converts_float : Converts float fun value => value.number?.map Number.toFloat := by
  have hconvert : (fun value : Value => value.number?.map Number.toFloat) =
      fun value => value.number?.bind fun number => some number.toFloat :=
    funext fun _ => Option.map_eq_bind
  rw [hconvert]
  exact converts_numberAs .float fun number => .ok number.toFloat

theorem Converts.ofPart {reader : Reader β} {convert : Value -> Option β}
    (h : Converts reader convert) (name : String) (get : δ -> Option β) (set : δ -> β -> δ)
    (draft : δ) :
    Converts ((Field.ofPart name reader get set).read draft) fun value =>
      (convert value).map (set draft) := by
  intro word rest value hword hrest
  simp only [Field.ofPart, toOption_bind, h hword hrest]
  cases convert value with
  | none =>
      rfl
  | some result =>
      rfl

/-!
# Members
-/

theorem SpellsMember.starts {spells : List Char -> β -> Prop} {word : List Char}
    {member : String × β} (h : SpellsMember spells word member) :
    exists inner, word = ['"'] ++ inner := by
  cases h with
  | member hname _ _ _ =>
      rcases hname.starts with ⟨nameTail, rfl⟩
      exact ⟨_, rfl⟩

namespace Record

variable {record : Record δ β} {take : δ -> String × Value -> Option δ}

/-- What the record makes of a member. A member that names no field is passed over, and a
field is not given twice. -/
structure Takes (record : Record δ β) (take : δ -> String × Value -> Option δ) : Prop where
  other : forall {draft : δ} {name : String} {value : Value}, record.field? name = none ->
    take draft (name, value) = some draft
  repeated : forall {draft : δ} {name : String} {value : Value} {field : Field δ},
    record.field? name = some field -> field.isSet draft = true -> take draft (name, value) = none
  given : forall {draft : δ} {name : String} {field : Field δ},
    record.field? name = some field -> field.isSet draft = false ->
      Converts (field.read draft) fun value => take draft (name, value)

theorem Takes.member (h : record.Takes take) (draft : δ) {inner rest : List Char}
    {entry : String × Value} (hword : SpellsMember Spells (['"'] ++ inner) entry)
    (hrest : Stops rest) :
    (record.member draft (inner ++ rest)).toOption =
      (take draft entry).map fun draft => (draft, rest) := by
  generalize hquoted : ['"'] ++ inner = word at hword
  cases hword with
  | @member nameWord blanks blanks' valueWord name value hname hblanks hblanks' hvalue =>
      rcases hname.starts with ⟨nameTail, rfl⟩
      have hinner : inner = nameTail ++ (blanks ++ (':' :: (blanks' ++ valueWord))) :=
        (List.cons.inj hquoted).2
      have hcolon : colon (blanks ++ (':' :: (blanks' ++ (valueWord ++ rest)))) =
          .ok (blanks' ++ (valueWord ++ rest)) :=
        colon_eq_ok_iff.mpr ⟨blanks, hblanks, rfl⟩
      simp only [Record.member, hinner, List.append_assoc, List.cons_append]
      rw [reads_stringTail.complete hname trivial, ok_bind]
      cases hfield : record.field? name with
      | none =>
          rcases value.exists_nestedWithin with ⟨depth, hdepth⟩
          have hread := (reads_valueWithin depth).complete
            ⟨blanks', valueWord, rfl, hblanks', hvalue, hdepth⟩ hrest
          have hskip := skipValue_of_valueWithin hread
          rw [List.append_assoc] at hskip
          simp only [hcolon, ok_bind, hskip, h.other hfield]
          rfl
      | some field =>
          cases hset : field.isSet draft with
          | true =>
              simp [hset, h.repeated hfield hset]
          | false =>
              have hgiven := h.given hfield hset ⟨blanks', valueWord, rfl, hblanks', hvalue⟩ hrest
              rw [List.append_assoc] at hgiven
              simp only [hset, Bool.false_eq_true, if_false, hcolon, ok_bind]
              exact hgiven

theorem Takes.draftFrom (h : record.Takes take) {first : Bool} {word : List Char}
    {members : List (String × Value)}
    (hword : SpellsEntries (SpellsMember Spells) '\x7d' first word members) (draft : δ)
    {budget : List Char} (hbudget : word.length ≤ budget.length) (rest : List Char) :
    (record.draftFrom budget first draft (word ++ rest)).toOption =
      (members.foldlM take draft).map fun draft => (draft, rest) := by
  induction hword generalizing budget draft with
  | closed hblanks =>
      cases budget with
      | nil =>
          simp at hbudget
      | cons c budget =>
          rw [Record.draftFrom, List.append_assoc, List.singleton_append,
            punctuates_nextMember.mpr (Or.inl ⟨_, rest, hblanks, rfl, rfl⟩)]
          rfl
  | @entry first lead word tail member members hlead hmember htail ih =>
      have hstops : Stops (tail ++ rest) := htail.stops (Or.inr rfl) rest
      rcases hmember.starts with ⟨inner, rfl⟩
      cases budget with
      | nil =>
          simp at hbudget
      | cons c budget =>
          -- Every member takes a character, so that the budget outlasts the members.
          have hless : tail.length ≤ budget.length := by
            simp only [List.length_append, List.length_cons] at hbudget
            omega
          rw [Record.draftFrom, List.append_assoc, List.append_assoc, List.append_assoc,
            punctuates_nextMember.mpr (Or.inr ⟨_, _, hlead, trivial, rfl, rfl⟩), ok_bind]
          simp only [toOption_bind, h.member draft hmember hstops, List.foldlM_cons]
          cases take draft member with
          | none =>
              rfl
          | some draft' =>
              exact ih draft' hless

theorem Takes.readAll (h : record.Takes take) {text : String} {members : List (String × Value)}
    (htext : Written text (.object members)) :
    (Json.readAll record.reader text).toOption =
      (members.foldlM take record.blank).bind fun draft => (record.complete draft).toOption := by
  rcases htext with ⟨before, word, after, htext, hbefore, hafter, hword⟩
  cases hword with
  | @object word _ hmembers =>
      have hskip : skipBlanks text.toList = '\x7b' :: (word ++ after) := by
        rw [htext, skipBlanks_append hbefore, List.cons_append, skipBlanks_cons (by decide)]
      have hdraft : (record.draftFrom (word ++ after) true record.blank (word ++ after)).toOption =
          (members.foldlM take record.blank).map fun draft => (draft, after) :=
        h.draftFrom hmembers record.blank (by simp) after
      apply toOption_readAll _ hafter
      simp only [reader, hskip, ofMembers, toOption_bind, hdraft]
      cases members.foldlM take record.blank with
      | none =>
          rfl
      | some draft =>
          simp only [Option.map_some, Option.bind_some]
          cases record.complete draft with
          | error name =>
              rfl
          | ok value =>
              rfl

end Record
end Json
end GraphLayout
