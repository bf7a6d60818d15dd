import GraphLayout.Proofs.Json.Readers

/-!
# Reading numbers

The reader of numbers takes exactly the numerals of the grammar whose exponent is not
refused. A numeral ends where what follows cannot prolong it.
-/

namespace GraphLayout
namespace Json

/-!
# Digits
-/

/-- What follows does not start with a character of the part in front of it. -/
def Ends (part : Char -> Bool) (rest : List Char) : Prop :=
  forall c, rest.head? = some c -> part c = false

theorem Ends.imp {part wider : Char -> Bool} (hpart : forall c, part c = true -> wider c = true)
    {rest : List Char} (h : Ends wider rest) : Ends part rest := by
  intro c hc
  cases hpart' : part c with
  | false =>
      rfl
  | true =>
      have hfalse := h c hc
      rw [hpart c hpart'] at hfalse
      contradiction

theorem ends_cons {part : Char -> Bool} {c : Char} (h : part c = false) (rest : List Char) :
    Ends part (c :: rest) := by
  intro d hd
  cases hd
  exact h

theorem takeWhile_append_ends {part : Char -> Bool} {word rest : List Char}
    (hword : forall c, c ∈ word -> part c = true) (hrest : Ends part rest) :
    (word ++ rest).takeWhile part = word := by
  rw [List.takeWhile_append_of_pos hword]
  cases rest with
  | nil =>
      simp
  | cons c rest =>
      simp [hrest c rfl]

theorem dropWhile_append_ends {part : Char -> Bool} {word rest : List Char}
    (hword : forall c, c ∈ word -> part c = true) (hrest : Ends part rest) :
    (word ++ rest).dropWhile part = rest := by
  rw [List.dropWhile_append_of_pos hword]
  cases rest with
  | nil =>
      rfl
  | cons c rest =>
      simp [hrest c rfl]

theorem digits_cons_takeWhile {c : Char} (hc : c.isDigit = true) (rest : List Char) :
    Digits (c :: rest.takeWhile Char.isDigit) := by
  refine ⟨List.cons_ne_nil _ _, ?_⟩
  intro d hd
  cases List.mem_cons.mp hd with
  | inl hhead =>
      rw [hhead]
      exact hc
  | inr htail =>
      exact List.all_eq_true.mp List.all_takeWhile d htail

theorem wholeDigits_zero : WholeDigits ['0'] :=
  ⟨⟨List.cons_ne_nil _ _, List.forall_mem_singleton.mpr rfl⟩, fun _ => rfl⟩

theorem wholeDigits_sound {text digits rest : List Char}
    (h : wholeDigits text = .ok (digits, rest)) : text = digits ++ rest ∧ WholeDigits digits := by
  cases text with
  | nil =>
      simp [wholeDigits] at h
  | cons c tail =>
      simp only [wholeDigits] at h
      by_cases hzero : c = '0'
      · rw [if_pos hzero, hzero] at h
        rw [hzero]
        split at h
        · cases h
          exact ⟨rfl, wholeDigits_zero⟩
        · split at h
          · simp at h
          · cases h
            exact ⟨rfl, wholeDigits_zero⟩
      · rw [if_neg hzero] at h
        cases hdigit : c.isDigit with
        | false =>
            simp [hdigit] at h
        | true =>
            rw [if_pos hdigit] at h
            cases h
            refine ⟨?_, digits_cons_takeWhile hdigit tail, ?_⟩
            · rw [List.cons_append, List.takeWhile_append_dropWhile]
            · intro hhead
              cases hhead
              contradiction

theorem wholeDigits_complete {digits rest : List Char} (h : WholeDigits digits)
    (hrest : Ends Char.isDigit rest) : wholeDigits (digits ++ rest) = .ok (digits, rest) := by
  rcases h with ⟨⟨hnonempty, hdigits⟩, hzero⟩
  cases digits with
  | nil =>
      contradiction
  | cons c more =>
      by_cases hc : c = '0'
      · have hmore : more = [] := by
          have hword := hzero (by simp [hc])
          simp at hword
          exact hword.2
        rw [hmore]
        cases rest with
        | nil =>
            simp [wholeDigits, hc]
        | cons d rest =>
            simp [wholeDigits, hc, hrest d rfl]
      · have hdigit : c.isDigit = true := hdigits c (List.mem_cons_self ..)
        have hmore : forall d, d ∈ more -> d.isDigit = true :=
          fun d hd => hdigits d (List.mem_cons_of_mem c hd)
        simp only [List.cons_append, wholeDigits]
        rw [if_neg hc, if_pos hdigit, takeWhile_append_ends hmore hrest,
          dropWhile_append_ends hmore hrest]

theorem reads_wholeDigits :
    Reads wholeDigits (fun word digits => WholeDigits word ∧ digits = word)
      (Ends Char.isDigit) := by
  constructor
  case sound =>
    intro text digits rest h
    rcases wholeDigits_sound h with ⟨htext, hdigits⟩
    exact ⟨digits, htext, hdigits, rfl⟩
  case complete =>
    intro word digits rest h hrest
    rcases h with ⟨hword, rfl⟩
    exact wholeDigits_complete hword hrest

/-!
# Fractions
-/

def inFraction (c : Char) : Bool :=
  c.isDigit || c == '.'

theorem fractionDigits_sound {text digits rest : List Char}
    (h : fractionDigits text = .ok (digits, rest)) :
    exists word, text = word ++ rest ∧ SpellsFraction word digits := by
  cases text with
  | nil =>
      cases h
      exact ⟨[], rfl, SpellsFraction.none⟩
  | cons c tail =>
      simp only [fractionDigits] at h
      by_cases hpoint : c = '.'
      · rw [if_pos hpoint] at h
        split at h
        · simp at h
        · next d more =>
            cases hdigit : d.isDigit with
            | false =>
                simp [hdigit] at h
            | true =>
                rw [if_pos hdigit] at h
                cases h
                refine ⟨'.' :: (d :: more).takeWhile Char.isDigit, ?_, SpellsFraction.some ?_⟩
                · rw [hpoint, List.cons_append, List.takeWhile_append_dropWhile]
                · rw [List.takeWhile_cons_of_pos hdigit]
                  exact digits_cons_takeWhile hdigit more
      · rw [if_neg hpoint] at h
        cases h
        exact ⟨[], rfl, SpellsFraction.none⟩

theorem fractionDigits_complete {word digits rest : List Char} (h : SpellsFraction word digits)
    (hrest : Ends inFraction rest) : fractionDigits (word ++ rest) = .ok (digits, rest) := by
  cases h with
  | none =>
      cases rest with
      | nil =>
          rfl
      | cons c rest =>
          have hpoint : c ≠ '.' := (ne_of_class rfl (hrest c rfl)).symm
          simp [fractionDigits, hpoint]
  | some hdigits =>
      rcases hdigits with ⟨hnonempty, hdigits⟩
      have hrest' : Ends Char.isDigit rest := hrest.imp fun c hc => by simp [inFraction, hc]
      cases digits with
      | nil =>
          contradiction
      | cons d more =>
          have hdigit : d.isDigit = true := hdigits d (List.mem_cons_self ..)
          simp only [List.cons_append, fractionDigits, if_true, hdigit]
          rw [← List.cons_append, takeWhile_append_ends hdigits hrest',
            dropWhile_append_ends hdigits hrest']

theorem reads_fractionDigits : Reads fractionDigits SpellsFraction (Ends inFraction) :=
  ⟨fractionDigits_sound, fractionDigits_complete⟩

/-!
# Exponents
-/

def inExponent (c : Char) : Bool :=
  c.isDigit || c == 'e' || c == 'E'

def appendDigits (value : Nat) (digits : List Char) : Nat :=
  digits.foldl (fun value digit => 10 * value + digitValue digit) value

theorem le_appendDigits (value : Nat) (digits : List Char) :
    value ≤ appendDigits value digits := by
  induction digits generalizing value with
  | nil =>
      exact Nat.le_refl value
  | cons c digits ih =>
      have hnext := ih (10 * value + digitValue c)
      simp only [appendDigits, List.foldl_cons] at hnext ⊢
      omega

theorem exponentDigits_sound {limited : Bool} {value result : Nat} {text rest : List Char}
    (h : exponentDigits limited value text = .ok (result, rest))
    (hvalue : limited = true -> value ≤ greatestExponent) :
    exists digits, text = digits ++ rest ∧ (forall c, c ∈ digits -> c.isDigit = true) ∧
      Ends Char.isDigit rest ∧ result = appendDigits value digits ∧
      (limited = true -> result ≤ greatestExponent) := by
  induction text generalizing value with
  | nil =>
      cases h
      refine ⟨[], rfl, by simp, ?_, rfl, hvalue⟩
      intro c hc
      cases hc
  | cons c tail ih =>
      simp only [exponentDigits] at h
      cases hdigit : c.isDigit with
      | false =>
          simp only [hdigit, Bool.false_eq_true, if_false] at h
          cases h
          exact ⟨[], rfl, by simp, ends_cons hdigit tail, rfl, hvalue⟩
      | true =>
          rw [if_pos hdigit] at h
          by_cases hlimit :
              (limited && decide (greatestExponent < 10 * value + digitValue c)) = true
          · simp [hlimit] at h
          · rw [if_neg hlimit] at h
            have hnext : limited = true -> 10 * value + digitValue c ≤ greatestExponent := by
              intro hlimited
              simpa [hlimited] using hlimit
            rcases ih h hnext with ⟨digits, htail, hdigits, hends, hresult, hbound⟩
            refine ⟨c :: digits, by rw [htail, List.cons_append], ?_, hends, hresult, hbound⟩
            intro d hd
            cases List.mem_cons.mp hd with
            | inl hhead =>
                rw [hhead]
                exact hdigit
            | inr hmem =>
                exact hdigits d hmem

theorem exponentDigits_complete {limited : Bool} {digits rest : List Char}
    (hdigits : forall c, c ∈ digits -> c.isDigit = true) (hrest : Ends Char.isDigit rest)
    {value : Nat} (hbound : limited = true -> appendDigits value digits ≤ greatestExponent) :
    exponentDigits limited value (digits ++ rest) = .ok (appendDigits value digits, rest) := by
  induction digits generalizing value with
  | nil =>
      cases rest with
      | nil =>
          rfl
      | cons c rest =>
          simp [exponentDigits, hrest c rfl, appendDigits]
  | cons c digits ih =>
      have hdigit : c.isDigit = true := hdigits c (List.mem_cons_self ..)
      -- Further digits only increase the value, so that this one is within the limit.
      have hlimit : ¬(limited && decide (greatestExponent < 10 * value + digitValue c)) = true := by
        intro hrefused
        rw [Bool.and_eq_true, decide_eq_true_eq] at hrefused
        have hle : 10 * value + digitValue c ≤ appendDigits value (c :: digits) :=
          le_appendDigits _ digits
        have hgreatest := hbound hrefused.1
        omega
      rw [List.cons_append, exponentDigits, if_pos hdigit]
      simp only [if_neg hlimit]
      exact ih (fun d hd => hdigits d (List.mem_cons_of_mem c hd)) hbound

theorem exists_sign (text : List Char) :
    exists sign, text = sign ++ (exponentSign text).2 ∧ SpellsSign sign (exponentSign text).1 := by
  cases text with
  | nil =>
      exact ⟨[], rfl, SpellsSign.none⟩
  | cons c tail =>
      simp only [exponentSign]
      by_cases hminus : c = '-'
      · rw [if_pos hminus, hminus]
        exact ⟨['-'], rfl, SpellsSign.minus⟩
      · rw [if_neg hminus]
        by_cases hplus : c = '+'
        · rw [if_pos hplus, hplus]
          exact ⟨['+'], rfl, SpellsSign.plus⟩
        · rw [if_neg hplus]
          exact ⟨[], rfl, SpellsSign.none⟩

theorem exponentSign_append {sign : List Char} {negative : Bool} (h : SpellsSign sign negative)
    {c : Char} (hdigit : c.isDigit = true) (rest : List Char) :
    exponentSign (sign ++ (c :: rest)) = (negative, c :: rest) := by
  cases h with
  | none =>
      have hminus : c ≠ '-' := ne_of_class hdigit (by decide)
      have hplus : c ≠ '+' := ne_of_class hdigit (by decide)
      simp [exponentSign, hminus, hplus]
  | plus =>
      simp [exponentSign]
  | minus =>
      simp [exponentSign]

/-- An exponent that makes a number greater is limited, unless the number is zero. -/
def ExponentBounded (zero : Bool) (exponent : Option Int) : Prop :=
  forall value : Int, exponent = some value -> value ≤ greatestExponent ∨ zero = true

theorem exponentBounded_none (zero : Bool) : ExponentBounded zero none := by
  intro value hvalue
  cases hvalue

theorem exponentBounded_some_iff {zero negative : Bool} {size : Nat} :
    ExponentBounded zero (some (if negative then -(size : Int) else size)) <->
      ((!negative && !zero) = true -> size ≤ greatestExponent) := by
  simp only [ExponentBounded, Option.some.injEq, forall_eq']
  cases negative with
  | true =>
      simp only [if_true, Bool.not_true, Bool.false_and, Bool.false_eq_true, false_implies,
        iff_true]
      omega
  | false =>
      cases zero with
      | true =>
          simp
      | false =>
          simp

theorem exponentPart_of_ends {rest : List Char} (h : Ends inExponent rest) (zero : Bool) :
    exponentPart zero rest = .ok (none, rest) := by
  cases rest with
  | nil =>
      rfl
  | cons c rest =>
      have hmark : ¬(decide (c = 'e') || decide (c = 'E')) = true := by
        have he : c ≠ 'e' := (ne_of_class rfl (h c rfl)).symm
        have hE : c ≠ 'E' := (ne_of_class rfl (h c rfl)).symm
        simp [he, hE]
      rw [exponentPart, if_neg hmark]

theorem exponentPart_sound_of_mark {zero : Bool} {mark : Char} {tail rest : List Char}
    {exponent : Option Int} (hmark : mark = 'e' ∨ mark = 'E')
    (h : exponentPart zero (mark :: tail) = .ok (exponent, rest)) :
    exists word, tail = word ++ rest ∧ SpellsExponent (mark :: word) exponent ∧
      ExponentBounded zero exponent := by
  rw [exponentPart, if_pos (by simpa using hmark)] at h
  rcases exists_sign tail with ⟨sign, htail, hsign⟩
  cases hbehind : (exponentSign tail).2 with
  | nil =>
      simp [hbehind] at h
  | cons d more =>
      rw [hbehind] at htail
      simp only [hbehind] at h
      cases hdigit : d.isDigit with
      | false =>
          simp [hdigit] at h
      | true =>
          simp only [hdigit, if_true, bind_eq_ok_iff, Prod.exists] at h
          rcases h with ⟨size, behind, hsize, h⟩
          cases h
          rcases exponentDigits_sound hsize (fun _ => Nat.zero_le _) with
            ⟨digits, hsplit, hdigits, hends, rfl, hbound⟩
          have hnonempty : digits ≠ [] := by
            rintro rfl
            exact ne_of_class hdigit (hends d (congrArg List.head? hsplit.symm)) rfl
          refine ⟨sign ++ digits, by rw [htail, hsplit, List.append_assoc],
            SpellsExponent.some hmark hsign ⟨hnonempty, hdigits⟩,
            exponentBounded_some_iff.mpr hbound⟩

theorem exponentPart_sound {zero : Bool} {text rest : List Char} {exponent : Option Int}
    (h : exponentPart zero text = .ok (exponent, rest)) :
    exists word, text = word ++ rest ∧ SpellsExponent word exponent ∧
      ExponentBounded zero exponent := by
  cases text with
  | nil =>
      cases h
      exact ⟨[], rfl, SpellsExponent.none, exponentBounded_none zero⟩
  | cons c tail =>
      by_cases hmark : c = 'e' ∨ c = 'E'
      · rcases exponentPart_sound_of_mark hmark h with ⟨word, rfl, hword, hbounded⟩
        exact ⟨c :: word, rfl, hword, hbounded⟩
      · rw [exponentPart, if_neg (by simpa using hmark)] at h
        cases h
        exact ⟨[], rfl, SpellsExponent.none, exponentBounded_none zero⟩

theorem exponentPart_complete {zero : Bool} {word rest : List Char} {exponent : Option Int}
    (hword : SpellsExponent word exponent) (hbounded : ExponentBounded zero exponent)
    (hrest : Ends inExponent rest) :
    exponentPart zero (word ++ rest) = .ok (exponent, rest) := by
  cases hword with
  | none =>
      exact exponentPart_of_ends hrest zero
  | @some mark sign digits negative hmark hsign hdigits =>
      have hread := exponentDigits_complete hdigits.2
        (hrest.imp fun c hc => by simp [inExponent, hc]) (exponentBounded_some_iff.mp hbounded)
      cases digits with
      | nil =>
          exact absurd rfl hdigits.1
      | cons d more =>
          have hdigit : d.isDigit = true := hdigits.2 d (List.mem_cons_self ..)
          rw [List.cons_append, List.append_assoc, exponentPart, if_pos (by simpa using hmark),
            List.cons_append, exponentSign_append hsign hdigit]
          simp only [hdigit, if_true]
          rw [← List.cons_append, hread, ok_bind]
          rfl

theorem reads_exponentPart (zero : Bool) :
    Reads (exponentPart zero)
      (fun word exponent => SpellsExponent word exponent ∧ ExponentBounded zero exponent)
      (Ends inExponent) :=
  ⟨exponentPart_sound, fun h => exponentPart_complete h.1 h.2⟩

/-!
# Numerals
-/

def inNumeral (c : Char) : Bool :=
  inFraction c || inExponent c

theorem SpellsExponent.ends {word rest : List Char} {exponent : Option Int}
    (h : SpellsExponent word exponent) (hrest : Ends inNumeral rest) :
    Ends inFraction (word ++ rest) := by
  cases h with
  | none =>
      exact hrest.imp fun c hc => by simp [inNumeral, hc]
  | some hmark _ _ =>
      cases hmark with
      | inl he =>
          rw [he]
          exact ends_cons (by decide) _
      | inr hE =>
          rw [hE]
          exact ends_cons (by decide) _

theorem SpellsFraction.ends {word fraction rest : List Char} (h : SpellsFraction word fraction)
    (hrest : Ends inFraction rest) : Ends Char.isDigit (word ++ rest) := by
  cases h with
  | none =>
      exact hrest.imp fun c hc => by simp [inFraction, hc]
  | some _ =>
      exact ends_cons (by decide) _

theorem Numeral.bounded_iff (numeral : Numeral) :
    numeral.Bounded <->
      ExponentBounded (digitsValue (numeral.whole ++ numeral.fraction) == 0) numeral.exponent := by
  simp only [Numeral.Bounded, ExponentBounded, beq_iff_eq]

theorem reads_unsignedNumeral (negative : Bool) :
    Reads (unsignedNumeral negative)
      (fun word numeral => numeral.negative = negative ∧
        SpellsUnsigned word numeral.whole numeral.fraction numeral.exponent ∧ numeral.Bounded)
      (Ends inNumeral) := by
  constructor
  case sound =>
    intro text numeral rest h
    simp only [unsignedNumeral, bind_eq_ok_iff, Prod.exists] at h
    rcases h with ⟨whole, behind, hwhole, fraction, behind', hfraction, exponent, behind'',
      hexponent, h⟩
    cases h
    rcases reads_wholeDigits.sound hwhole with ⟨word, htext, hword, rfl⟩
    rcases reads_fractionDigits.sound hfraction with ⟨fractionWord, hbehind, hfractionWord⟩
    rcases (reads_exponentPart _).sound hexponent with
      ⟨exponentWord, hbehind', hexponentWord, hbounded⟩
    refine ⟨whole ++ (fractionWord ++ exponentWord), ?_, rfl,
      SpellsUnsigned.parts hword hfractionWord hexponentWord, (Numeral.bounded_iff _).mpr hbounded⟩
    rw [htext, hbehind, hbehind']
    simp
  case complete =>
    intro word numeral rest h hrest
    rcases h with ⟨hnegative, hspells, hbounded⟩
    cases numeral with
    | mk negative' whole fraction exponent =>
        cases hnegative
        cases hspells with
        | @parts _ fractionWord _ exponentWord _ hwhole hfraction hexponent =>
            have hends := hexponent.ends hrest
            have hreadWhole : wholeDigits (whole ++ (fractionWord ++ (exponentWord ++ rest))) =
                .ok (whole, fractionWord ++ (exponentWord ++ rest)) :=
              reads_wholeDigits.complete ⟨hwhole, rfl⟩ (hfraction.ends hends)
            have hreadFraction := reads_fractionDigits.complete hfraction hends
            have hreadExponent := (reads_exponentPart _).complete
              ⟨hexponent, (Numeral.bounded_iff _).mp hbounded⟩
              (hrest.imp fun c hc => by simp [inNumeral, hc])
            simp only [unsignedNumeral, List.append_assoc]
            rw [hreadWhole, ok_bind]
            simp only []
            rw [hreadFraction, ok_bind]
            simp only []
            rw [hreadExponent, ok_bind]

theorem SpellsUnsigned.starts {word whole fraction : List Char} {exponent : Option Int}
    (h : SpellsUnsigned word whole fraction exponent) :
    exists c more, word = c :: more ∧ c.isDigit = true := by
  cases h with
  | parts hwhole _ _ =>
      cases whole with
      | nil =>
          exact absurd rfl hwhole.1.1
      | cons c whole =>
          exact ⟨c, _, rfl, hwhole.1.2 c (List.mem_cons_self ..)⟩

theorem spellsUnsigned_digits_iff {word whole : List Char} :
    SpellsUnsigned word whole [] none <-> WholeDigits whole ∧ word = whole := by
  constructor
  · intro h
    cases h with
    | parts hwhole hfraction hexponent =>
        cases hexponent
        cases hfraction with
        | none =>
            exact ⟨hwhole, by simp⟩
        | some hdigits =>
            exact absurd rfl hdigits.1
  · intro h
    rcases h with ⟨hwhole, rfl⟩
    have hparts := SpellsUnsigned.parts hwhole SpellsFraction.none SpellsExponent.none
    rw [List.append_nil, List.append_nil] at hparts
    exact hparts

theorem reads_numeral :
    Reads numeral (fun word numeral => SpellsNumeral word numeral ∧ numeral.Bounded)
      (Ends inNumeral) := by
  have hspells : forall {word : List Char} {found : Numeral}, found.negative = false ->
      SpellsUnsigned word found.whole found.fraction found.exponent ->
      SpellsNumeral word found := by
    intro word found hnegative h
    cases found
    cases hnegative
    exact SpellsNumeral.positive h
  constructor
  case sound =>
    intro text found rest h
    cases text with
    | nil =>
        rcases (reads_unsignedNumeral false).sound h with ⟨word, htext, hpositive, hword, hbounded⟩
        exact ⟨word, htext, hspells hpositive hword, hbounded⟩
    | cons c tail =>
        simp only [numeral] at h
        by_cases hminus : c = '-'
        · rw [if_pos hminus] at h
          rcases (reads_unsignedNumeral true).sound h with
            ⟨word, htail, hnegative, hword, hbounded⟩
          refine ⟨'-' :: word, by rw [hminus, htail, List.cons_append], ?_, hbounded⟩
          cases found
          cases hnegative
          exact SpellsNumeral.negative hword
        · rw [if_neg hminus] at h
          rcases (reads_unsignedNumeral false).sound h with
            ⟨word, htext, hpositive, hword, hbounded⟩
          exact ⟨word, htext, hspells hpositive hword, hbounded⟩
  case complete =>
    intro word found rest h hrest
    rcases h with ⟨hspells, hbounded⟩
    cases hspells with
    | positive hword =>
        have hread := (reads_unsignedNumeral false).complete ⟨rfl, hword, hbounded⟩ hrest
        rcases hword.starts with ⟨c, more, rfl, hdigit⟩
        have hminus : c ≠ '-' := ne_of_class hdigit (by decide)
        simp only [List.cons_append, numeral, if_neg hminus]
        exact hread
    | negative hword =>
        simp only [List.cons_append, numeral, if_true]
        exact (reads_unsignedNumeral true).complete ⟨rfl, hword, hbounded⟩ hrest

/-!
# Numbers
-/

theorem Numeral.whole?_natural (digits : List Char) :
    (Numeral.mk false digits [] none).whole? =
      if digitsValue digits < UInt64.size then some (digitsValue digits : Int) else none :=
  rfl

theorem Numeral.whole?_negative (digits : List Char) :
    (Numeral.mk true digits [] none).whole? =
      if 0 < digitsValue digits ∧ digitsValue digits ≤ Nat.pow 2 63 then
        some (-(digitsValue digits : Int))
      else none :=
  rfl

theorem Numeral.whole?_eq_some_iff {numeral : Numeral} {value : Int} :
    numeral.whole? = some value <->
      numeral.fraction = [] ∧ numeral.exponent = none ∧
        ((numeral.negative = false ∧ digitsValue numeral.whole < UInt64.size ∧
            value = digitsValue numeral.whole) ∨
          (numeral.negative = true ∧ 0 < digitsValue numeral.whole ∧
            digitsValue numeral.whole ≤ Nat.pow 2 63 ∧
            value = -(digitsValue numeral.whole : Int))) := by
  constructor
  · intro h
    rcases numeral with ⟨negative, digits, fraction, exponent⟩
    cases fraction with
    | cons c fraction =>
        cases h
    | nil =>
        cases exponent with
        | some exponent =>
            cases h
        | none =>
            refine ⟨rfl, rfl, ?_⟩
            cases negative with
            | false =>
                rw [Numeral.whole?_natural] at h
                split at h
                · next hless =>
                    exact Or.inl ⟨rfl, hless, (Option.some.inj h).symm⟩
                · cases h
            | true =>
                rw [Numeral.whole?_negative] at h
                split at h
                · next hbound =>
                    exact Or.inr ⟨rfl, hbound.1, hbound.2, (Option.some.inj h).symm⟩
                · cases h
  · intro h
    rcases numeral with ⟨negative, digits, fraction, exponent⟩
    rcases h with ⟨rfl, rfl, ⟨rfl, hless, rfl⟩ | ⟨rfl, hpositive, hle, rfl⟩⟩
    · rw [Numeral.whole?_natural]
      exact if_pos hless
    · rw [Numeral.whole?_negative]
      exact if_pos ⟨hpositive, hle⟩

theorem spellsInteger_iff {word : List Char} {value : Int} :
    SpellsInteger word value <->
      exists numeral, SpellsNumeral word numeral ∧ numeral.whole? = some value := by
  constructor
  · intro h
    cases h with
    | natural hdigits hless =>
        exact ⟨⟨false, word, [], none⟩,
          SpellsNumeral.positive (spellsUnsigned_digits_iff.mpr ⟨hdigits, rfl⟩),
          Numeral.whole?_eq_some_iff.mpr ⟨rfl, rfl, Or.inl ⟨rfl, hless, rfl⟩⟩⟩
    | @negative digits hdigits hpositive hle =>
        exact ⟨⟨true, digits, [], none⟩,
          SpellsNumeral.negative (spellsUnsigned_digits_iff.mpr ⟨hdigits, rfl⟩),
          Numeral.whole?_eq_some_iff.mpr ⟨rfl, rfl, Or.inr ⟨rfl, hpositive, hle, rfl⟩⟩⟩
  · intro h
    rcases h with ⟨numeral, hspells, hwhole⟩
    rcases Numeral.whole?_eq_some_iff.mp hwhole with ⟨hfraction, hexponent, hvalue⟩
    cases hspells with
    | positive hword =>
        cases hfraction
        cases hexponent
        rcases spellsUnsigned_digits_iff.mp hword with ⟨hdigits, rfl⟩
        rcases hvalue with ⟨_, hless, rfl⟩ | ⟨hnegative, _⟩
        · exact SpellsInteger.natural hdigits hless
        · cases hnegative
    | negative hword =>
        cases hfraction
        cases hexponent
        rcases spellsUnsigned_digits_iff.mp hword with ⟨hdigits, rfl⟩
        rcases hvalue with ⟨hnegative, _⟩ | ⟨_, hpositive, hle, rfl⟩
        · cases hnegative
        · exact SpellsInteger.negative hdigits hpositive hle

theorem Numeral.bounded_of_whole? {numeral : Numeral} {value : Int}
    (h : numeral.whole? = some value) : numeral.Bounded := by
  intro exponent hexponent
  rw [(Numeral.whole?_eq_some_iff.mp h).2.1] at hexponent
  cases hexponent

theorem SpellsNumeral.unique {word : List Char} {first second : Numeral}
    (hfirst : SpellsNumeral word first) (hsecond : SpellsNumeral word second)
    (hbounded : first.Bounded) (hbounded' : second.Bounded) : first = second := by
  have hends : Ends inNumeral [] := fun c hc => by cases hc
  have hread := reads_numeral.complete ⟨hfirst, hbounded⟩ hends
  have hread' := reads_numeral.complete ⟨hsecond, hbounded'⟩ hends
  rw [hread] at hread'
  cases hread'
  rfl

theorem Stops.endsNumeral {rest : List Char} (h : Stops rest) : Ends inNumeral rest := by
  intro c hc
  cases h c hc with
  | inl hblank =>
      simp only [isBlank, Bool.or_eq_true, decide_eq_true_eq] at hblank
      rcases hblank with ((rfl | rfl) | rfl) | rfl
      all_goals decide
  | inr hmark =>
      rcases hmark with rfl | rfl | rfl
      all_goals decide

theorem reads_number : Reads number SpellsNumber Stops := by
  constructor
  case sound =>
    intro text found rest h
    simp only [number, bind_eq_ok_iff, Prod.exists] at h
    rcases h with ⟨numeral, behind, hnumeral, h⟩
    rcases reads_numeral.sound hnumeral with ⟨word, htext, hspells, hbounded⟩
    refine ⟨word, ?_⟩
    cases hwhole : numeral.whole? with
    | some value =>
        simp only [Numeral.value?, hwhole] at h
        cases h
        exact ⟨htext, SpellsNumber.whole (spellsInteger_iff.mpr ⟨numeral, hspells, hwhole⟩)⟩
    | none =>
        cases hmagnitude : numeral.magnitude? with
        | none =>
            simp [Numeral.value?, hwhole, hmagnitude] at h
        | some magnitude =>
            simp only [Numeral.value?, hwhole, hmagnitude, Option.map_some] at h
            cases h
            refine ⟨htext, SpellsNumber.real hspells hbounded ?_ hmagnitude⟩
            -- An integer would be the same numeral, which stands for no whole number.
            intro value hinteger
            rcases spellsInteger_iff.mp hinteger with ⟨numeral', hspells', hwhole'⟩
            rw [hspells.unique hspells' hbounded (Numeral.bounded_of_whole? hwhole')] at hwhole
            rw [hwhole] at hwhole'
            cases hwhole'
  case complete =>
    intro word found rest h hrest
    cases h with
    | whole hinteger =>
        rcases spellsInteger_iff.mp hinteger with ⟨numeral, hspells, hwhole⟩
        have hread := reads_numeral.complete ⟨hspells, Numeral.bounded_of_whole? hwhole⟩
          hrest.endsNumeral
        simp only [number]
        rw [hread, ok_bind]
        simp only [Numeral.value?, hwhole]
    | @real numeral magnitude hspells hbounded hreal hmagnitude =>
        have hread := reads_numeral.complete ⟨hspells, hbounded⟩ hrest.endsNumeral
        have hwhole : numeral.whole? = none := by
          cases hwhole : numeral.whole? with
          | none =>
              rfl
          | some value =>
              exact absurd (spellsInteger_iff.mpr ⟨numeral, hspells, hwhole⟩) (hreal value)
        simp only [number]
        rw [hread, ok_bind]
        simp only [Numeral.value?, hwhole, hmagnitude, Option.map_some]

end Json
end GraphLayout
