import GraphLayout.Proofs.Json.Readers

/-!
# Reading strings

The reader of strings takes exactly the words of the grammar: characters that stand for
themselves, escapes with a letter, escapes with a code, and codes in pairs.
-/

namespace GraphLayout
namespace Json

/-!
# Codes
-/

@[simp]
theorem badCode_ne_ok {text : List Char} {result : Nat × List Char} :
    badCode text ≠ .ok result := by
  intro h
  unfold badCode at h
  split at h
  · simp at h
  · cases h

theorem code_eq_ok_iff {text rest : List Char} {value : Nat} :
    code text = .ok (value, rest) <->
      exists a b c d, text = a :: b :: c :: d :: rest ∧ hexValue? a b c d = some value := by
  constructor
  · intro h
    unfold code at h
    split at h
    · next a b c d behind =>
        cases hvalue : hexValue? a b c d with
        | none =>
            simp [hvalue] at h
        | some found =>
            simp only [hvalue] at h
            cases h
            exact ⟨a, b, c, d, rfl, hvalue⟩
    · simp at h
  · intro h
    rcases h with ⟨a, b, c, d, rfl, hvalue⟩
    simp only [code, hvalue]

theorem pairMark_eq_ok_iff {mark : Char} {text rest : List Char} :
    pairMark mark text = .ok rest <-> text = mark :: rest := by
  cases text with
  | nil =>
      simp [pairMark]
  | cons c tail =>
      simp only [pairMark]
      by_cases hmark : c = mark
      · simp [hmark]
      · simp [hmark]

theorem trailingHalf_eq_ok_iff {leading : Nat} {text rest : List Char} {value : Char} :
    trailingHalf leading text = .ok (value, rest) <->
      exists a b c d trailing, text = '\\' :: 'u' :: a :: b :: c :: d :: rest ∧
        hexValue? a b c d = some trailing ∧ isTrailing trailing = true ∧
        value = Char.ofNat (pairValue leading trailing) := by
  constructor
  · intro h
    simp only [trailingHalf, bind_eq_ok_iff, pairMark_eq_ok_iff, Prod.exists] at h
    rcases h with ⟨_, rfl, _, rfl, trailing, behind, hcode, h⟩
    rcases code_eq_ok_iff.mp hcode with ⟨a, b, c, d, rfl, hvalue⟩
    by_cases htrailing : isTrailing trailing = true
    · rw [if_pos htrailing] at h
      simp only [Except.ok.injEq, Prod.mk.injEq] at h
      rw [← h.2]
      exact ⟨a, b, c, d, trailing, rfl, hvalue, htrailing, h.1.symm⟩
    · simp [htrailing] at h
  · intro h
    rcases h with ⟨a, b, c, d, trailing, htext, hvalue, htrailing, hpair⟩
    have hcode : code (a :: b :: c :: d :: rest) = .ok (trailing, rest) :=
      code_eq_ok_iff.mpr ⟨a, b, c, d, rfl, hvalue⟩
    simp only [htext, trailingHalf, pairMark, if_true, ok_bind, hcode, htrailing, hpair]

/-!
# Escapes
-/

theorem codedChar_sound {text rest : List Char} {value : Char}
    (h : codedChar text = .ok (value, rest)) :
    exists word, text = word ++ rest ∧ SpellsEscape ('u' :: word) value := by
  simp only [codedChar, bind_eq_ok_iff, Prod.exists] at h
  rcases h with ⟨found, behind, hcode, h⟩
  rcases code_eq_ok_iff.mp hcode with ⟨a, b, c, d, rfl, hfound⟩
  cases htrailing : isTrailing found with
  | true =>
      simp [htrailing] at h
  | false =>
      cases hleading : isLeading found with
      | false =>
          simp only [htrailing, hleading, Bool.false_eq_true, if_false] at h
          cases h
          exact ⟨[a, b, c, d], rfl, SpellsEscape.code hfound htrailing hleading⟩
      | true =>
          simp only [htrailing, hleading, Bool.false_eq_true, if_false, if_true,
            trailingHalf_eq_ok_iff] at h
          rcases h with ⟨a', b', c', d', trailing, htext, htrailing', hpair, hvalue⟩
          rw [htext, hvalue]
          exact ⟨[a, b, c, d, '\\', 'u', a', b', c', d'], rfl,
            SpellsEscape.pair hfound htrailing hleading htrailing' hpair⟩

theorem reads_escape : Reads escape SpellsEscape Anything := by
  constructor
  case sound =>
    intro text value rest h
    cases text with
    | nil =>
        simp [escape] at h
    | cons c tail =>
        simp only [escape] at h
        cases hletter : letterEscape? c with
        | some found =>
            simp only [hletter] at h
            cases h
            exact ⟨[c], rfl, SpellsEscape.letter hletter⟩
        | none =>
            simp only [hletter] at h
            by_cases hcode : c = 'u'
            · rw [if_pos hcode] at h
              rcases codedChar_sound h with ⟨word, htail, hspells⟩
              rw [hcode, htail]
              exact ⟨'u' :: word, rfl, hspells⟩
            · simp [hcode] at h
  case complete =>
    intro word value rest h _
    have hletter : letterEscape? 'u' = none := by decide
    cases h with
    | letter hletter =>
        simp [escape, hletter]
    | @code a b c d found hvalue htrailing hleading =>
        have hcode : code (a :: b :: c :: d :: rest) = .ok (found, rest) :=
          code_eq_ok_iff.mpr ⟨a, b, c, d, rfl, hvalue⟩
        simp [escape, hletter, codedChar, hcode, ok_bind, htrailing, hleading]
    | @pair a b c d a' b' c' d' leading trailing hvalue htrailing hleading hvalue' hpair =>
        have hcode : code (a :: b :: c :: d :: '\\' :: 'u' :: a' :: b' :: c' :: d' :: rest) =
            .ok (leading, '\\' :: 'u' :: a' :: b' :: c' :: d' :: rest) :=
          code_eq_ok_iff.mpr ⟨a, b, c, d, rfl, hvalue⟩
        have hhalf : trailingHalf leading ('\\' :: 'u' :: a' :: b' :: c' :: d' :: rest) =
            .ok (Char.ofNat (pairValue leading trailing), rest) :=
          trailingHalf_eq_ok_iff.mpr ⟨a', b', c', d', trailing, rfl, hvalue', hpair, rfl⟩
        simp [escape, hletter, codedChar, hcode, ok_bind, htrailing, hleading, hhalf]

/-!
# Strings
-/

theorem charsFrom_sound {budget text chars rest : List Char}
    (h : charsFrom budget text = .ok (chars, rest)) :
    exists word, text = word ++ ('"' :: rest) ∧ SpellsChars word chars := by
  induction budget generalizing text chars with
  | nil =>
      simp [charsFrom] at h
  | cons b budget ih =>
      cases text with
      | nil =>
          simp [charsFrom] at h
      | cons c tail =>
          simp only [charsFrom] at h
          by_cases hquote : c = '"'
          · rw [if_pos hquote] at h
            cases h
            rw [hquote]
            exact ⟨[], rfl, SpellsChars.nil⟩
          · rw [if_neg hquote] at h
            by_cases hbackslash : c = '\\'
            · simp only [if_pos hbackslash, bind_eq_ok_iff, Prod.exists] at h
              rcases h with ⟨value, behind, hvalue, more, behind', hmore, h⟩
              cases h
              rcases reads_escape.sound hvalue with ⟨code, htail, hcode⟩
              rcases ih hmore with ⟨word, hbehind, hword⟩
              refine ⟨'\\' :: (code ++ word), ?_, SpellsChars.escape hcode hword⟩
              rw [hbackslash, htail, hbehind]
              simp
            · rw [if_neg hbackslash] at h
              cases hcontrol : isControl c with
              | true =>
                  simp [hcontrol] at h
              | false =>
                  simp only [hcontrol, Bool.false_eq_true, if_false, bind_eq_ok_iff,
                    Prod.exists] at h
                  rcases h with ⟨more, behind, hmore, h⟩
                  cases h
                  rcases ih hmore with ⟨word, htail, hword⟩
                  rw [htail]
                  exact ⟨c :: word, rfl, SpellsChars.plain hquote hbackslash hcontrol hword⟩

theorem charsFrom_complete {word chars : List Char} (h : SpellsChars word chars)
    {budget : List Char} (hbudget : word.length < budget.length) (rest : List Char) :
    charsFrom budget (word ++ ('"' :: rest)) = .ok (chars, rest) := by
  induction h generalizing budget with
  | nil =>
      cases budget with
      | nil =>
          simp at hbudget
      | cons b budget =>
          simp [charsFrom]
  | @plain c word chars hquote hbackslash hcontrol hword ih =>
      cases budget with
      | nil =>
          simp at hbudget
      | cons b budget =>
          have hless : word.length < budget.length := Nat.lt_of_succ_lt_succ hbudget
          simp [charsFrom, hquote, hbackslash, hcontrol, ih hless, ok_bind]
  | @escape code word chars c hcode hword ih =>
      cases budget with
      | nil =>
          simp at hbudget
      | cons b budget =>
          have hless : word.length < budget.length := by
            simp only [List.length_cons, List.length_append] at hbudget
            omega
          have hescape : escape (code ++ (word ++ ('"' :: rest))) =
              .ok (c, word ++ ('"' :: rest)) := reads_escape.complete hcode trivial
          simp [charsFrom, hescape, ih hless, ok_bind]

theorem reads_stringTail :
    Reads stringTail (fun word text => SpellsString ('"' :: word) text) Anything := by
  constructor
  case sound =>
    intro text value rest h
    simp only [stringTail, bind_eq_ok_iff, Prod.exists] at h
    rcases h with ⟨chars, behind, hchars, h⟩
    cases h
    rcases charsFrom_sound hchars with ⟨word, htext, hword⟩
    refine ⟨word ++ ['"'], ?_, SpellsString.quoted hword⟩
    rw [htext, List.append_assoc, List.singleton_append]
  case complete =>
    intro word value rest h _
    cases h with
    | @quoted inner chars hchars =>
        have hless : inner.length < (inner ++ ('"' :: rest)).length := by
          simp
        rw [List.append_assoc, List.singleton_append, stringTail,
          charsFrom_complete hchars hless rest, ok_bind]

/-!
# Plain strings
-/

def PlainChar (c : Char) : Prop :=
  c ≠ '"' ∧ c ≠ '\\' ∧ isControl c = false

theorem spellsString_plain (chars : List Char) (h : forall c, c ∈ chars -> PlainChar c) :
    SpellsString ('"' :: (chars ++ ['"'])) (String.ofList chars) := by
  refine SpellsString.quoted ?_
  induction chars with
  | nil =>
      exact SpellsChars.nil
  | cons c chars ih =>
      rw [List.forall_mem_cons] at h
      exact SpellsChars.plain h.1.1 h.1.2.1 h.1.2.2 (ih h.2)

end Json
end GraphLayout
