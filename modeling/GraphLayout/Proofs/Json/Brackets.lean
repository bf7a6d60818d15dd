import GraphLayout.Proofs.Json.Values

/-!
# Matching brackets

The word of a list or an object ends with the bracket that closes its first one. Only the
brackets and the quotation marks tell where that is: neither the numbers nor the escapes of
a word matter, nor whether it is a word of the grammar at all.
-/

namespace GraphLayout
namespace Json

/-- The characters of a string, in which only a backslash hides a quotation mark. -/
inductive Quoted : List Char -> Prop where
  | nil : Quoted []
  | plain {c : Char} {word : List Char} : c ≠ '"' -> c ≠ '\\' -> Quoted word -> Quoted (c :: word)
  | escaped {c : Char} {word : List Char} : Quoted word -> Quoted ('\\' :: c :: word)

def Brackets (opening closing : Char) : Prop :=
  (opening = '[' ∧ closing = ']') ∨ (opening = '\x7b' ∧ closing = '\x7d')

def Unmarked (c : Char) : Prop :=
  c ≠ '"' ∧ c ≠ '[' ∧ c ≠ ']' ∧ c ≠ '\x7b' ∧ c ≠ '\x7d'

inductive Balanced : List Char -> Prop where
  | nil : Balanced []
  | plain {c : Char} {word : List Char} : Unmarked c -> Balanced word -> Balanced (c :: word)
  | string {inner word : List Char} : Quoted inner -> Balanced word ->
      Balanced ('"' :: (inner ++ ('"' :: word)))
  | brackets {opening closing : Char} {inner word : List Char} : Brackets opening closing ->
      Balanced inner -> Balanced word -> Balanced (opening :: (inner ++ (closing :: word)))

/-!
# The end of a bracket

A scan that counts the brackets that are open passes over a balanced word, so that the word
and what follows it are told apart in one way only.
-/

inductive ScanMode where
  | plain
  | quoted
  | escaped

/-- What is left behind the bracket that closes one more than the given number of them. -/
def behindClosing : Nat -> ScanMode -> List Char -> Option (List Char)
  | _, _, [] => none
  | depth, .escaped, _ :: rest => behindClosing depth .quoted rest
  | depth, .quoted, c :: rest =>
      if c = '"' then behindClosing depth .plain rest
      else if c = '\\' then behindClosing depth .escaped rest
      else behindClosing depth .quoted rest
  | depth, .plain, c :: rest =>
      if c = '"' then behindClosing depth .quoted rest
      else if c = '[' ∨ c = '\x7b' then behindClosing (depth + 1) .plain rest
      else if c = ']' ∨ c = '\x7d' then
        match depth with
        | 0 => some rest
        | depth + 1 => behindClosing depth .plain rest
      else behindClosing depth .plain rest

theorem Quoted.behindClosing {word : List Char} (h : Quoted word) (depth : Nat)
    (rest : List Char) :
    behindClosing depth .quoted (word ++ ('"' :: rest)) = behindClosing depth .plain rest := by
  induction h with
  | nil =>
      simp [Json.behindClosing]
  | plain hquote hbackslash _ ih =>
      simp [Json.behindClosing, hquote, hbackslash, ih]
  | escaped _ ih =>
      simp [Json.behindClosing, ih]

theorem Brackets.behindClosing {opening closing : Char} (h : Brackets opening closing)
    (depth : Nat) (rest : List Char) :
    behindClosing depth .plain (opening :: rest) = behindClosing (depth + 1) .plain rest ∧
      behindClosing (depth + 1) .plain (closing :: rest) = behindClosing depth .plain rest ∧
      behindClosing 0 .plain (closing :: rest) = some rest := by
  rcases h with ⟨rfl, rfl⟩ | ⟨rfl, rfl⟩
  all_goals
    simp [Json.behindClosing]

theorem Balanced.behindClosing {word : List Char} (h : Balanced word) (depth : Nat)
    (rest : List Char) :
    behindClosing depth .plain (word ++ rest) = behindClosing depth .plain rest := by
  induction h generalizing depth rest with
  | nil =>
      rfl
  | plain hplain _ ih =>
      rcases hplain with ⟨hquote, hlist, hlistEnd, hobject, hobjectEnd⟩
      simp [Json.behindClosing, hquote, hlist, hlistEnd, hobject, hobjectEnd, ih]
  | string hinner _ ih =>
      simp [Json.behindClosing, hinner.behindClosing, ih]
  | brackets hbrackets _ _ ihInner ih =>
      simp only [List.cons_append, List.append_assoc]
      rw [(hbrackets.behindClosing _ _).1, ihInner, (hbrackets.behindClosing _ _).2.1, ih]

theorem Balanced.unique {opening closing : Char} (hbrackets : Brackets opening closing)
    {first second : List Char} (hfirst : Balanced first) (hsecond : Balanced second)
    {rest rest' : List Char} (h : first ++ (closing :: rest) = second ++ (closing :: rest')) :
    first = second ∧ rest = rest' := by
  have hbehind := congrArg (Json.behindClosing 0 .plain) h
  rw [hfirst.behindClosing, hsecond.behindClosing, (hbrackets.behindClosing 0 _).2.2,
    (hbrackets.behindClosing 0 _).2.2, Option.some_inj] at hbehind
  rw [hbehind] at h
  exact ⟨List.append_cancel_right h, hbehind⟩

/-!
# Words of values
-/

theorem Balanced.append {first second : List Char} (hfirst : Balanced first)
    (hsecond : Balanced second) : Balanced (first ++ second) := by
  induction hfirst with
  | nil =>
      exact hsecond
  | plain hplain _ ih =>
      exact Balanced.plain hplain ih
  | string hinner _ ih =>
      simpa using Balanced.string hinner ih
  | brackets hbrackets hinner _ _ ih =>
      simpa using Balanced.brackets hbrackets hinner ih

theorem balanced_of_unmarked {word : List Char} (h : forall c, c ∈ word -> Unmarked c) :
    Balanced word := by
  induction word with
  | nil =>
      exact Balanced.nil
  | cons c word ih =>
      rw [List.forall_mem_cons] at h
      exact Balanced.plain h.1 (ih h.2)

theorem unmarked_of_class {part : Char -> Bool} {c : Char} (hc : part c = true)
    (hpart : (part '"' || part '[' || part ']' || part '\x7b' || part '\x7d') = false) :
    Unmarked c := by
  simp only [Bool.or_eq_false_iff] at hpart
  rcases hpart with ⟨⟨⟨⟨hquote, hlist⟩, hlistEnd⟩, hobject⟩, hobjectEnd⟩
  exact ⟨ne_of_class hc hquote, ne_of_class hc hlist, ne_of_class hc hlistEnd,
    ne_of_class hc hobject, ne_of_class hc hobjectEnd⟩

theorem Blanks.balanced {word : List Char} (h : Blanks word) : Balanced word :=
  balanced_of_unmarked fun c hc => unmarked_of_class (h c hc) (by decide)

theorem Digits.balanced {word : List Char} (h : Digits word) : Balanced word :=
  balanced_of_unmarked fun c hc => unmarked_of_class (h.2 c hc) (by decide)

theorem SpellsFraction.balanced {word digits : List Char} (h : SpellsFraction word digits) :
    Balanced word := by
  cases h with
  | none =>
      exact Balanced.nil
  | some hdigits =>
      exact Balanced.plain (by simp [Unmarked]) hdigits.balanced

theorem SpellsSign.balanced {word : List Char} {negative : Bool} (h : SpellsSign word negative) :
    Balanced word := by
  cases h with
  | none =>
      exact Balanced.nil
  | plus =>
      exact Balanced.plain (by simp [Unmarked]) Balanced.nil
  | minus =>
      exact Balanced.plain (by simp [Unmarked]) Balanced.nil

theorem SpellsExponent.balanced {word : List Char} {exponent : Option Int}
    (h : SpellsExponent word exponent) : Balanced word := by
  cases h with
  | none =>
      exact Balanced.nil
  | some hmark hsign hdigits =>
      have hsigned := hsign.balanced.append hdigits.balanced
      cases hmark with
      | inl hlower =>
          exact Balanced.plain (by simp [Unmarked, hlower]) hsigned
      | inr hupper =>
          exact Balanced.plain (by simp [Unmarked, hupper]) hsigned

theorem SpellsNumeral.balanced {word : List Char} {numeral : Numeral}
    (h : SpellsNumeral word numeral) : Balanced word := by
  have hunsigned : forall {word whole fraction : List Char} {exponent : Option Int},
      SpellsUnsigned word whole fraction exponent -> Balanced word := by
    intro word whole fraction exponent h
    cases h with
    | parts hwhole hfraction hexponent =>
        exact hwhole.1.balanced.append (hfraction.balanced.append hexponent.balanced)
  cases h with
  | positive h =>
      exact hunsigned h
  | negative h =>
      exact Balanced.plain (by simp [Unmarked]) (hunsigned h)

theorem quoted_of_hexValue? {a b c d : Char} {value : Nat} (h : hexValue? a b c d = some value)
    {word : List Char} (hword : Quoted word) : Quoted (a :: b :: c :: d :: word) := by
  have hdigit : forall {digit : Char} {value : Nat}, hexDigit? digit = some value ->
      forall {word : List Char}, Quoted word -> Quoted (digit :: word) := by
    intro digit value hvalue word hword
    refine Quoted.plain ?_ ?_ hword
    · rintro rfl
      cases hvalue
    · rintro rfl
      cases hvalue
  simp only [hexValue?, bind, Option.bind_eq_some_iff] at h
  rcases h with ⟨_, ha, _, hb, _, hc, _, hd, _⟩
  exact hdigit ha (hdigit hb (hdigit hc (hdigit hd hword)))

theorem quoted_of_escape {code word : List Char} {c : Char} (h : SpellsEscape code c)
    (hword : Quoted word) : Quoted ('\\' :: (code ++ word)) := by
  cases h with
  | letter _ =>
      exact Quoted.escaped hword
  | code hcode _ _ =>
      exact Quoted.escaped (quoted_of_hexValue? hcode hword)
  | pair hleading _ _ htrailing _ =>
      exact Quoted.escaped (quoted_of_hexValue? hleading
        (Quoted.escaped (quoted_of_hexValue? htrailing hword)))

theorem SpellsChars.quoted {word chars : List Char} (h : SpellsChars word chars) :
    Quoted word := by
  induction h with
  | nil =>
      exact Quoted.nil
  | plain hquote hbackslash _ _ ih =>
      exact Quoted.plain hquote hbackslash ih
  | escape hescape _ ih =>
      exact quoted_of_escape hescape ih

theorem SpellsString.balanced {word : List Char} {text : String} (h : SpellsString word text) :
    Balanced word := by
  cases h with
  | quoted hchars =>
      exact Balanced.string hchars.quoted Balanced.nil

theorem SpellsLead.balanced {first : Bool} {lead : List Char} (h : SpellsLead first lead) :
    Balanced lead := by
  cases h with
  | first hblanks =>
      exact hblanks.balanced
  | next hblanks hblanks' =>
      exact hblanks.balanced.append (Balanced.plain (by simp [Unmarked]) hblanks'.balanced)

theorem SpellsMember.balanced {β : Type} {spells : List Char -> β -> Prop}
    (hspells : forall {word : List Char} {content : β}, spells word content -> Balanced word)
    {word : List Char} {member : String × β} (h : SpellsMember spells word member) :
    Balanced word := by
  cases h with
  | member hname hblanks hblanks' hword =>
      exact hname.balanced.append (hblanks.balanced.append
        (Balanced.plain (by simp [Unmarked]) (hblanks'.balanced.append (hspells hword))))

theorem SpellsEntries.balanced {β : Type} {spells : List Char -> β -> Prop}
    (hspells : forall {word : List Char} {entry : β}, spells word entry -> Balanced word)
    {closing : Char} {first : Bool} {word : List Char} {entries : List β}
    (h : SpellsEntries spells closing first word entries) :
    exists inner, word = inner ++ [closing] ∧ Balanced inner := by
  induction h with
  | closed hblanks =>
      exact ⟨_, rfl, hblanks.balanced⟩
  | entry hlead hword _ ih =>
      rcases ih with ⟨inner, rfl, hinner⟩
      refine ⟨_ ++ (_ ++ inner), ?_, hlead.balanced.append ((hspells hword).append hinner)⟩
      simp only [List.append_assoc]

theorem SpellsWithin.balanced {depth : Nat} {word : List Char} {value : Value}
    (h : SpellsWithin depth word value) : Balanced word := by
  induction depth using Nat.strongRecOn generalizing word value with
  | ind depth ih =>
      rcases h with ⟨hspells, hdepth⟩
      cases hspells with
      | null =>
          exact balanced_of_unmarked (by simp [Unmarked])
      | yes =>
          exact balanced_of_unmarked (by simp [Unmarked])
      | no =>
          exact balanced_of_unmarked (by simp [Unmarked])
      | number hnumber =>
          rcases hnumber.exists_numeral with ⟨_, hnumeral⟩
          exact hnumeral.balanced
      | string hstring =>
          exact hstring.balanced
      | array hitems =>
          cases depth with
          | zero =>
              cases hdepth
          | succ depth =>
              have hwithin := spellsWithin_array_iff.mpr ⟨Spells.array hitems, hdepth⟩
              rcases hwithin.balanced (ih depth (Nat.lt_succ_self depth)) with ⟨inner, rfl, hinner⟩
              exact Balanced.brackets (Or.inl ⟨rfl, rfl⟩) hinner Balanced.nil
      | object hmembers =>
          cases depth with
          | zero =>
              cases hdepth
          | succ depth =>
              have hwithin := spellsWithin_object_iff.mpr ⟨Spells.object hmembers, hdepth⟩
              rcases hwithin.balanced
                (SpellsMember.balanced (ih depth (Nat.lt_succ_self depth))) with
                ⟨inner, rfl, hinner⟩
              exact Balanced.brackets (Or.inr ⟨rfl, rfl⟩) hinner Balanced.nil

theorem SpellsWithin.enclosed {depth : Nat} {word : List Char} {items : List Value}
    (h : SpellsWithin depth word (.array items)) :
    exists inner, word = '[' :: (inner ++ [']']) ∧ Balanced inner := by
  rcases h with ⟨hspells, hdepth⟩
  cases hspells with
  | array hitems =>
      cases depth with
      | zero =>
          cases hdepth
      | succ depth =>
          have hwithin := spellsWithin_array_iff.mpr ⟨Spells.array hitems, hdepth⟩
          rcases hwithin.balanced SpellsWithin.balanced with ⟨inner, rfl, hinner⟩
          exact ⟨inner, rfl, hinner⟩

end Json
end GraphLayout
