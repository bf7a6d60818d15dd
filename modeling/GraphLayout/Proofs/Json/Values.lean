import GraphLayout.Proofs.Json.Numbers
import GraphLayout.Proofs.Json.Strings

/-!
# Reading values

The reader of values takes exactly the words of the grammar whose brackets are nested to at
most its depth. A text is the document of a value if the reader leaves nothing but blanks
behind the value.
-/

namespace GraphLayout
namespace Json

variable {β : Type}

/-!
# First characters
-/

theorem SpellsNumber.exists_numeral {word : List Char} {number : Number}
    (h : SpellsNumber word number) : exists numeral, SpellsNumeral word numeral := by
  cases h with
  | whole hinteger =>
      rcases spellsInteger_iff.mp hinteger with ⟨numeral, hspells, _⟩
      exact ⟨numeral, hspells⟩
  | real hspells _ _ _ =>
      exact ⟨_, hspells⟩

theorem SpellsNumber.starts {word : List Char} {number : Number} (h : SpellsNumber word number) :
    exists c more, word = c :: more ∧ startsNumber c = true := by
  rcases h.exists_numeral with ⟨numeral, hspells⟩
  cases hspells with
  | positive hword =>
      rcases hword.starts with ⟨c, more, hword, hdigit⟩
      exact ⟨c, more, hword, by simp [startsNumber, hdigit]⟩
  | negative _ =>
      exact ⟨'-', _, rfl, by decide⟩

theorem isBlank_of_startsNumber {c : Char} (h : startsNumber c = true) : isBlank c = false := by
  cases hblank : isBlank c with
  | false =>
      rfl
  | true =>
      simp only [isBlank, Bool.or_eq_true, decide_eq_true_eq] at hblank
      rcases hblank with ((rfl | rfl) | rfl) | rfl
      all_goals contradiction

theorem Spells.startsItem {word : List Char} {value : Value} (h : Spells word value) :
    StartsItem word := by
  cases h with
  | null =>
      exact ⟨_, _, rfl, by decide, by decide⟩
  | yes =>
      exact ⟨_, _, rfl, by decide, by decide⟩
  | no =>
      exact ⟨_, _, rfl, by decide, by decide⟩
  | number hnumber =>
      rcases hnumber.starts with ⟨c, more, hword, hstarts⟩
      exact ⟨c, more, hword, isBlank_of_startsNumber hstarts,
        ne_of_class hstarts (by decide)⟩
  | string hstring =>
      rcases hstring.starts with ⟨inner, hword⟩
      exact ⟨_, _, hword, by decide, by decide⟩
  | array _ =>
      exact ⟨_, _, rfl, by decide, by decide⟩
  | object _ =>
      exact ⟨_, _, rfl, by decide, by decide⟩

/-!
# Depth
-/

theorem spellsEntries_and_iff {spells : List Char -> β -> Prop} {holds : β -> Prop}
    {closing : Char} {first : Bool} {word : List Char} {entries : List β} :
    SpellsEntries (fun word entry => spells word entry ∧ holds entry) closing first word entries <->
      SpellsEntries spells closing first word entries ∧
        forall entry, entry ∈ entries -> holds entry := by
  constructor
  · intro h
    induction h with
    | closed hblanks =>
        exact ⟨SpellsEntries.closed hblanks, by simp⟩
    | entry hlead hword _ ih =>
        refine ⟨SpellsEntries.entry hlead hword.1 ih.1, ?_⟩
        intro entry hmem
        cases List.mem_cons.mp hmem with
        | inl hhead =>
            rw [hhead]
            exact hword.2
        | inr htail =>
            exact ih.2 entry htail
  · intro h
    rcases h with ⟨h, hall⟩
    induction h with
    | closed hblanks =>
        exact SpellsEntries.closed hblanks
    | entry hlead hword _ ih =>
        exact SpellsEntries.entry hlead ⟨hword, hall _ (List.mem_cons_self ..)⟩
          (ih fun entry hmem => hall entry (List.mem_cons_of_mem _ hmem))

theorem spellsMember_and_iff {spells : List Char -> β -> Prop} {holds : β -> Prop}
    {word : List Char} {member : String × β} :
    SpellsMember (fun word content => spells word content ∧ holds content) word member <->
      SpellsMember spells word member ∧ holds member.2 := by
  constructor
  · intro h
    cases h with
    | member hname hblanks hblanks' hword =>
        exact ⟨SpellsMember.member hname hblanks hblanks' hword.1, hword.2⟩
  · intro h
    rcases h with ⟨h, hholds⟩
    cases h with
    | member hname hblanks hblanks' hword =>
        exact SpellsMember.member hname hblanks hblanks' ⟨hword, hholds⟩

def SpellsWithin (depth : Nat) (word : List Char) (value : Value) : Prop :=
  Spells word value ∧ value.NestedWithin depth

theorem spellsWithin_array_iff {depth : Nat} {word : List Char} {values : List Value} :
    SpellsEntries (SpellsWithin depth) ']' true word values <->
      SpellsWithin (depth + 1) ('[' :: word) (.array values) := by
  constructor
  · intro h
    rcases spellsEntries_and_iff.mp h with ⟨hspells, hdepth⟩
    exact ⟨Spells.array hspells, hdepth⟩
  · intro h
    rcases h with ⟨hspells, hdepth⟩
    cases hspells with
    | array hspells =>
        exact spellsEntries_and_iff.mpr ⟨hspells, hdepth⟩

theorem spellsWithin_object_iff {depth : Nat} {word : List Char}
    {members : List (String × Value)} :
    SpellsEntries (SpellsMember (SpellsWithin depth)) '\x7d' true word members <->
      SpellsWithin (depth + 1) ('\x7b' :: word) (.object members) := by
  have hmember : SpellsMember (SpellsWithin depth) =
      fun word (member : String × Value) =>
        SpellsMember Spells word member ∧ member.2.NestedWithin depth := by
    funext word member
    exact propext spellsMember_and_iff
  rw [hmember]
  constructor
  · intro h
    rcases spellsEntries_and_iff.mp h with ⟨hspells, hdepth⟩
    exact ⟨Spells.object hspells, hdepth⟩
  · intro h
    rcases h with ⟨hspells, hdepth⟩
    cases hspells with
    | object hspells =>
        exact spellsEntries_and_iff.mpr ⟨hspells, hdepth⟩

/-!
# Values
-/

def contentWithin : Nat -> Option (Reader Value)
  | 0 => none
  | depth + 1 => some (valueWithin depth)

theorem valueWithin_eq (depth : Nat) : valueWithin depth = valueAround (contentWithin depth) := by
  cases depth with
  | zero =>
      rfl
  | succ depth =>
      rfl

/-- The induction hypothesis on the depth, in terms of the reader of the values within. -/
def ContentRead (depth : Nat) : Prop :=
  forall inner, depth = inner + 1 ->
    Reads (valueWithin inner) (AfterBlanks (SpellsWithin inner)) Stops

theorem nestedWithin_atom {depth : Nat} {value : Value}
    (harray : forall items, value ≠ .array items)
    (hobject : forall members, value ≠ .object members) : value.NestedWithin depth := by
  cases value with
  | array items =>
      exact absurd rfl (harray items)
  | object members =>
      exact absurd rfl (hobject members)
  | _ =>
      simp [Value.NestedWithin]

theorem word_sound {depth : Nat} {c : Char} {expected tail rest : List Char}
    {content result : Value} (hcontent : SpellsWithin depth (c :: expected) content)
    (h : word content expected tail = .ok (result, rest)) :
    exists word, c :: tail = word ++ rest ∧ SpellsWithin depth word result := by
  rcases word_eq_ok_iff.mp h with ⟨rfl, rfl⟩
  exact ⟨c :: expected, rfl, hcontent⟩

theorem valueAround_sound {depth : Nat} (hcontent : ContentRead depth) {c : Char}
    {tail rest : List Char} {value : Value} (hblank : isBlank c = false)
    (h : valueAround (contentWithin depth) (c :: tail) = .ok (value, rest)) :
    exists word, c :: tail = word ++ rest ∧ SpellsWithin depth word value := by
  simp only [valueAround, skipBlanks_cons hblank] at h
  by_cases hn : c = 'n'
  · rw [if_pos hn] at h
    rw [hn]
    exact word_sound ⟨Spells.null, nestedWithin_atom (by simp) (by simp)⟩ h
  rw [if_neg hn] at h
  by_cases ht : c = 't'
  · rw [if_pos ht] at h
    rw [ht]
    exact word_sound ⟨Spells.yes, nestedWithin_atom (by simp) (by simp)⟩ h
  rw [if_neg ht] at h
  by_cases hf : c = 'f'
  · rw [if_pos hf] at h
    rw [hf]
    exact word_sound ⟨Spells.no, nestedWithin_atom (by simp) (by simp)⟩ h
  rw [if_neg hf] at h
  by_cases hquote : c = '"'
  · simp only [if_pos hquote, bind_eq_ok_iff, Prod.exists] at h
    rcases h with ⟨text, behind, htext, h⟩
    cases h
    rcases reads_stringTail.sound htext with ⟨word, htail, hword⟩
    rw [hquote, htail]
    exact ⟨'"' :: word, rfl, Spells.string hword, nestedWithin_atom (by simp) (by simp)⟩
  rw [if_neg hquote] at h
  by_cases hnumber : startsNumber c = true
  · simp only [if_pos hnumber, bind_eq_ok_iff, Prod.exists] at h
    rcases h with ⟨number, behind, hread, h⟩
    cases h
    rcases reads_number.sound hread with ⟨word, htext, hword⟩
    exact ⟨word, htext, Spells.number hword, nestedWithin_atom (by simp) (by simp)⟩
  rw [if_neg hnumber] at h
  by_cases hlist : c = '['
  · rw [if_pos hlist] at h
    cases depth with
    | zero =>
        simp [contentWithin] at h
    | succ depth =>
        simp only [contentWithin, bind_eq_ok_iff, Prod.exists] at h
        rcases h with ⟨values, behind, hvalues, h⟩
        cases h
        rcases (reads_items (hcontent depth rfl) fun h => h.1.startsItem).sound hvalues with
          ⟨word, htail, hword⟩
        rw [hlist, htail]
        exact ⟨'[' :: word, rfl, spellsWithin_array_iff.mp hword⟩
  rw [if_neg hlist] at h
  by_cases hobject : c = '\x7b'
  · rw [if_pos hobject] at h
    cases depth with
    | zero =>
        simp [contentWithin] at h
    | succ depth =>
        simp only [contentWithin, bind_eq_ok_iff, Prod.exists] at h
        rcases h with ⟨entries, behind, hentries, h⟩
        cases h
        rcases (reads_members reads_stringTail (hcontent depth rfl)).sound hentries with
          ⟨word, htail, hword⟩
        rw [hobject, htail]
        exact ⟨'\x7b' :: word, rfl, spellsWithin_object_iff.mp hword⟩
  · simp [hobject] at h

theorem valueAround_complete {depth : Nat} (hcontent : ContentRead depth)
    {word rest : List Char} {value : Value} (h : SpellsWithin depth word value)
    (hrest : Stops rest) :
    valueAround (contentWithin depth) (word ++ rest) = .ok (value, rest) := by
  rcases h with ⟨hspells, hdepth⟩
  rcases hspells.startsItem with ⟨c, more, hword, hblank, _⟩
  simp only [valueAround, hword, List.cons_append, skipBlanks_cons hblank]
  cases hspells with
  | null =>
      cases hword
      exact word_eq_ok_iff.mpr ⟨rfl, rfl⟩
  | yes =>
      cases hword
      exact word_eq_ok_iff.mpr ⟨rfl, rfl⟩
  | no =>
      cases hword
      exact word_eq_ok_iff.mpr ⟨rfl, rfl⟩
  | number hnumber =>
      have hread := reads_number.complete hnumber hrest
      rcases hnumber.starts with ⟨d, more', hword', hstarts⟩
      rw [hword] at hword'
      cases hword'
      rw [hword, List.cons_append] at hread
      have hn : c ≠ 'n' := ne_of_class hstarts (by decide)
      have ht : c ≠ 't' := ne_of_class hstarts (by decide)
      have hf : c ≠ 'f' := ne_of_class hstarts (by decide)
      have hquote : c ≠ '"' := ne_of_class hstarts (by decide)
      rw [if_neg hn, if_neg ht, if_neg hf, if_neg hquote, if_pos hstarts]
      rw [hread, ok_bind]
  | string hstring =>
      rcases hstring.starts with ⟨inner, hword'⟩
      rw [hword] at hword'
      cases hword'
      rw [hword] at hstring
      simp [reads_stringTail.complete hstring trivial, ok_bind]
  | @array _ values hitems =>
      cases hword
      cases depth with
      | zero =>
          cases hdepth
      | succ depth =>
          have hread : items (valueWithin depth) (more ++ rest) = .ok (values, rest) :=
            (reads_items (hcontent depth rfl) fun h => h.1.startsItem).complete
              (spellsWithin_array_iff.mpr ⟨Spells.array hitems, hdepth⟩) trivial
          simp [startsNumber, contentWithin, hread, ok_bind]
  | @object _ entries hmembers =>
      cases hword
      cases depth with
      | zero =>
          cases hdepth
      | succ depth =>
          have hread : members stringTail (valueWithin depth) (more ++ rest) =
              .ok (entries, rest) :=
            (reads_members reads_stringTail (hcontent depth rfl)).complete
              (spellsWithin_object_iff.mpr ⟨Spells.object hmembers, hdepth⟩) trivial
          simp [startsNumber, contentWithin, hread, ok_bind]

theorem valueWithin_append {blanks : List Char} (h : Blanks blanks) (depth : Nat)
    (text : List Char) : valueWithin depth (blanks ++ text) = valueWithin depth text := by
  simp only [valueWithin_eq, valueAround, skipBlanks_append h]

theorem ContentRead.reads {depth : Nat} (h : ContentRead depth) :
    Reads (valueWithin depth) (AfterBlanks (SpellsWithin depth)) Stops := by
  constructor
  case sound =>
    intro text value rest hread
    rcases exists_blanks text with ⟨blanks, hblanks, htext⟩
    rw [htext, valueWithin_append hblanks, valueWithin_eq] at hread
    cases hskip : skipBlanks text with
    | nil =>
        rw [hskip] at hread
        cases hread
    | cons c tail =>
        rw [hskip] at hread htext
        rcases valueAround_sound h (isBlank_of_skipBlanks hskip) hread with ⟨word, htail, hword⟩
        refine ⟨blanks ++ word, ?_, blanks, word, rfl, hblanks, hword⟩
        rw [htext, htail, List.append_assoc]
  case complete =>
    intro word value rest hword hrest
    rcases hword with ⟨blanks, inner, rfl, hblanks, hinner⟩
    rw [List.append_assoc, valueWithin_append hblanks, valueWithin_eq]
    exact valueAround_complete h hinner hrest

theorem reads_valueWithin (depth : Nat) :
    Reads (valueWithin depth) (AfterBlanks (SpellsWithin depth)) Stops := by
  induction depth with
  | zero =>
      exact ContentRead.reads fun inner h => by cases h
  | succ depth ih =>
      exact ContentRead.reads fun inner h => by
        cases h
        exact ih

/-!
# Documents
-/

theorem stops_of_blanks {rest : List Char} (h : Blanks rest) : Stops rest := by
  intro c hc
  exact Or.inl (h c (List.mem_of_head? hc))

theorem document_iff {text : String} {content : Value} :
    Document text content <->
      exists rest, value text.toList = .ok (content, rest) ∧ Blanks rest := by
  constructor
  · intro h
    rcases h with ⟨before, word, after, htext, hbefore, hafter, hword, hdepth⟩
    refine ⟨after, ?_, hafter⟩
    rw [htext, ← List.append_assoc]
    exact (reads_valueWithin nestingLimit).complete
      ⟨before, word, rfl, hbefore, hword, hdepth⟩ (stops_of_blanks hafter)
  · intro h
    rcases h with ⟨rest, hread, hrest⟩
    rcases (reads_valueWithin nestingLimit).sound hread with
      ⟨_, htext, blanks, word, rfl, hblanks, hword, hdepth⟩
    refine ⟨blanks, word, rest, ?_, hblanks, hrest, hword, hdepth⟩
    rw [htext, List.append_assoc]

theorem Document.unique {text : String} {first second : Value} (hfirst : Document text first)
    (hsecond : Document text second) : first = second := by
  rcases document_iff.mp hfirst with ⟨rest, hread, _⟩
  rcases document_iff.mp hsecond with ⟨rest', hread', _⟩
  rw [hread] at hread'
  cases hread'
  rfl

theorem finish_eq_ok_iff {rest : List Char} : finish rest = .ok () <-> Blanks rest := by
  constructor
  · intro h
    rcases exists_blanks rest with ⟨blanks, hblanks, hrest⟩
    unfold finish at h
    cases hskip : skipBlanks rest with
    | nil =>
        rw [hrest, hskip, List.append_nil]
        exact hblanks
    | cons c tail =>
        simp [hskip] at h
  · intro h
    simp [finish, skipBlanks_eq_self h]

end Json
end GraphLayout
