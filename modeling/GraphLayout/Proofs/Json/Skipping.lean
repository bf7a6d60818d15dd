import GraphLayout.Json.Skip
import GraphLayout.Proofs.Json.Values

/-!
# Passing over values

What can be read can also be passed over, and the same is left of the text then. The
converse does not hold, as a value that is passed over may be nested more deeply and hold
greater numbers than one that is read.
-/

namespace GraphLayout
namespace Json

variable {β : Type}

/-!
# Numbers
-/

theorem skipWhole_of_wholeDigits {text digits rest : List Char}
    (h : wholeDigits text = .ok (digits, rest)) : skipWhole text = .ok rest := by
  cases text with
  | nil =>
      simp [wholeDigits] at h
  | cons c tail =>
      simp only [wholeDigits] at h
      simp only [skipWhole]
      by_cases hzero : c = '0'
      · rw [if_pos hzero] at h ⊢
        cases tail with
        | nil =>
            cases h
            rfl
        | cons d more =>
            cases hdigit : d.isDigit with
            | true =>
                simp [hdigit] at h
            | false =>
                simp only [hdigit, Bool.false_eq_true, if_false] at h ⊢
                cases h
                rfl
      · rw [if_neg hzero] at h ⊢
        cases hdigit : c.isDigit with
        | false =>
            simp [hdigit] at h
        | true =>
            rw [if_pos hdigit] at h
            cases h
            simp [skipDigits, hdigit]

theorem skipFraction_of_fractionDigits {text digits rest : List Char}
    (h : fractionDigits text = .ok (digits, rest)) : skipFraction text = .ok rest := by
  cases text with
  | nil =>
      cases h
      rfl
  | cons c tail =>
      simp only [fractionDigits] at h
      simp only [skipFraction]
      by_cases hpoint : c = '.'
      · rw [if_pos hpoint] at h ⊢
        cases tail with
        | nil =>
            simp at h
        | cons d more =>
            cases hdigit : d.isDigit with
            | false =>
                simp [hdigit] at h
            | true =>
                simp only [hdigit, if_true] at h
                cases h
                simp [skipDigits, hdigit]
      · rw [if_neg hpoint] at h ⊢
        cases h
        rfl

theorem skipExponent_of_exponentPart {zero : Bool} {text rest : List Char} {exponent : Option Int}
    (h : exponentPart zero text = .ok (exponent, rest)) : skipExponent text = .ok rest := by
  cases text with
  | nil =>
      cases h
      rfl
  | cons c tail =>
      simp only [exponentPart] at h
      simp only [skipExponent]
      by_cases hmark : (decide (c = 'e') || decide (c = 'E')) = true
      · rw [if_pos hmark] at h ⊢
        cases hbehind : (exponentSign tail).2 with
        | nil =>
            simp [hbehind] at h
        | cons d more =>
            simp only [hbehind] at h
            cases hdigit : d.isDigit with
            | false =>
                simp [hdigit] at h
            | true =>
                simp only [hdigit, if_true, bind_eq_ok_iff, Prod.exists] at h
                rcases h with ⟨value, behind, hvalue, h⟩
                cases h
                rcases exponentDigits_sound hvalue (fun _ => Nat.zero_le _) with
                  ⟨digits, hsplit, hdigits, hends, _, _⟩
                have hrest := dropWhile_append_ends hdigits hends
                rw [← hsplit, List.dropWhile_cons_of_pos hdigit] at hrest
                simp [skipDigits, hdigit, hrest]
      · rw [if_neg hmark] at h ⊢
        cases h
        rfl

theorem skipNumber_of_unsignedNumeral {negative : Bool} {text rest : List Char}
    {numeral : Numeral} (h : unsignedNumeral negative text = .ok (numeral, rest)) :
    (do
      let rest ← skipWhole text
      let rest ← skipFraction rest
      skipExponent rest) = .ok rest := by
  simp only [unsignedNumeral, bind_eq_ok_iff, Prod.exists] at h
  rcases h with ⟨whole, behind, hwhole, fraction, behind', hfraction, exponent, behind'',
    hexponent, h⟩
  cases h
  rw [skipWhole_of_wholeDigits hwhole, ok_bind, skipFraction_of_fractionDigits hfraction, ok_bind,
    skipExponent_of_exponentPart hexponent]

theorem skipNumber_of_number {text rest : List Char} {found : Number}
    (h : number text = .ok (found, rest)) : skipNumber text = .ok rest := by
  simp only [number, bind_eq_ok_iff, Prod.exists] at h
  rcases h with ⟨parts, behind, hparts, h⟩
  have hrest : behind = rest := by
    cases hvalue : parts.value? with
    | none =>
        simp [hvalue] at h
    | some value =>
        simp only [hvalue] at h
        cases h
        rfl
  rw [hrest] at hparts
  cases text with
  | nil =>
      exact skipNumber_of_unsignedNumeral hparts
  | cons c tail =>
      simp only [numeral] at hparts
      simp only [skipNumber, List.head?_cons, Option.some.injEq, List.drop_succ_cons,
        List.drop_zero]
      by_cases hminus : c = '-'
      · rw [if_pos hminus] at hparts ⊢
        exact skipNumber_of_unsignedNumeral hparts
      · rw [if_neg hminus] at hparts ⊢
        exact skipNumber_of_unsignedNumeral hparts

/-!
# Strings

A pair of surrogates is read at once, but each half of it is passed over by itself.
-/

theorem skipEscape_of_code {a b c d : Char} {value : Nat} (h : hexValue? a b c d = some value)
    (rest : List Char) : skipEscape ('u' :: a :: b :: c :: d :: rest) = .ok rest := by
  have hletter : (letterEscape? 'u').isSome = false := by decide
  have hcode : code (a :: b :: c :: d :: rest) = .ok (value, rest) :=
    code_eq_ok_iff.mpr ⟨a, b, c, d, rfl, h⟩
  simp [skipEscape, hletter, hcode, ok_bind]

theorem skipCharsFrom_of_escape {left text rest : List Char} {c : Char}
    (h : escape text = .ok (c, rest)) (hleft : text.length < left.length) :
    exists more, rest.length < more.length ∧
      skipCharsFrom left ('\\' :: text) = skipCharsFrom more rest := by
  rcases reads_escape.sound h with ⟨word, rfl, hspells⟩
  cases left with
  | nil =>
      simp at hleft
  | cons b left =>
      simp only [List.length_append, List.length_cons] at hleft
      cases hspells with
      | @letter letter _ hletter =>
          refine ⟨left, by simp at hleft; omega, ?_⟩
          simp [skipCharsFrom, skipEscape, hletter, ok_bind]
      | @code a b c d _ hcode _ _ =>
          refine ⟨left, by simp at hleft; omega, ?_⟩
          simp [skipCharsFrom, skipEscape_of_code hcode, ok_bind]
      | @pair a b c d a' b' c' d' _ _ hleading _ _ htrailing _ =>
          cases left with
          | nil =>
              simp at hleft
          | cons b' left =>
              refine ⟨left, by simp at hleft; omega, ?_⟩
              simp [skipCharsFrom, skipEscape_of_code hleading, skipEscape_of_code htrailing,
                ok_bind]

theorem skipCharsFrom_of_charsFrom {budget left text chars rest : List Char}
    (h : charsFrom budget text = .ok (chars, rest)) (hleft : text.length ≤ left.length) :
    skipCharsFrom left text = .ok rest := by
  induction budget generalizing left text chars with
  | nil =>
      simp [charsFrom] at h
  | cons b budget ih =>
      cases text with
      | nil =>
          simp [charsFrom] at h
      | cons c tail =>
          cases left with
          | nil =>
              simp at hleft
          | cons b' left =>
              simp only [charsFrom] at h
              by_cases hquote : c = '"'
              · rw [if_pos hquote] at h
                cases h
                simp [skipCharsFrom, hquote]
              · rw [if_neg hquote] at h
                by_cases hbackslash : c = '\\'
                · simp only [if_pos hbackslash, bind_eq_ok_iff, Prod.exists] at h
                  rcases h with ⟨value, behind, hvalue, more, behind', hmore, h⟩
                  cases h
                  rcases skipCharsFrom_of_escape hvalue (Nat.lt_of_succ_le hleft) with
                    ⟨left', hleft', hskip⟩
                  rw [hbackslash, hskip]
                  exact ih hmore (Nat.le_of_lt hleft')
                · rw [if_neg hbackslash] at h
                  cases hcontrol : isControl c with
                  | true =>
                      simp [hcontrol] at h
                  | false =>
                      simp only [hcontrol, Bool.false_eq_true, if_false, bind_eq_ok_iff,
                        Prod.exists] at h
                      rcases h with ⟨more, behind, hmore, h⟩
                      cases h
                      simp only [skipCharsFrom, if_neg hquote, if_neg hbackslash, hcontrol,
                        Bool.false_eq_true, if_false]
                      exact ih hmore (Nat.le_of_succ_le_succ hleft)

theorem skipString_of_stringTail {text rest : List Char} {found : String}
    (h : stringTail text = .ok (found, rest)) : skipString text = .ok rest := by
  simp only [stringTail, bind_eq_ok_iff, Prod.exists] at h
  rcases h with ⟨chars, behind, hchars, h⟩
  cases h
  exact skipCharsFrom_of_charsFrom hchars (Nat.le_refl _)

/-!
# Turns of the loop

Every turn takes one character of the budget and at least one of the text. So the budget
lasts as long as there are as many characters in it as are left of the text.
-/

structure Passing where
  done : Bool
  brackets : List Bracket
  text : List Char

namespace Passing

def run (state : Passing) (budget : List Char) : Except Failure (List Char) :=
  skipFrom budget state.done state.brackets state.text

def Leads (first second : Passing) : Prop :=
  forall budget, first.text.length ≤ budget.length ->
    exists left, second.text.length ≤ left.length ∧ first.run budget = second.run left

theorem Leads.trans {first second third : Passing} (h : first.Leads second)
    (h' : second.Leads third) : first.Leads third := by
  intro budget hbudget
  rcases h budget hbudget with ⟨left, hleft, hrun⟩
  rcases h' left hleft with ⟨left', hleft', hrun'⟩
  exact ⟨left', hleft', hrun.trans hrun'⟩

theorem leads_of_turn {first second : Passing}
    (hturn : forall c budget, first.run (c :: budget) = second.run budget)
    (hless : second.text.length < first.text.length) : first.Leads second := by
  intro budget hbudget
  cases budget with
  | nil =>
      exact absurd (Nat.lt_of_lt_of_le hless hbudget) (Nat.not_lt_zero _)
  | cons c budget =>
      exact ⟨budget, Nat.le_of_lt_succ (Nat.lt_of_lt_of_le hless hbudget), hturn c budget⟩

theorem length_skipBlanks_le (text : List Char) : (skipBlanks text).length ≤ text.length :=
  (List.dropWhile_sublist isBlank).length_le

theorem leads_atom {text rest more : List Char} {c : Char} (outer : List Bracket)
    (hskip : skipBlanks text = c :: more) (hopening : Bracket.opening? c = none)
    (hatom : skipAtom (c :: more) = .ok rest) (hless : rest.length < (c :: more).length) :
    Leads ⟨false, outer, text⟩ ⟨true, outer, rest⟩ := by
  apply leads_of_turn
  · intro b budget
    simp only [run, skipFrom, hskip, hopening]
    rw [hatom, ok_bind]
  · exact Nat.lt_of_lt_of_le hless (hskip ▸ length_skipBlanks_le text)

theorem leads_closed {blanks rest : List Char} (bracket : Bracket) (outer : List Bracket)
    (hblanks : Blanks blanks) :
    Leads ⟨true, bracket :: outer, blanks ++ (bracket.closing :: rest)⟩ ⟨true, outer, rest⟩ := by
  have hclosing : isBlank bracket.closing = false ∧ bracket.closing ≠ ',' := by
    cases bracket <;> decide
  apply leads_of_turn
  · intro b budget
    simp only [run, skipFrom, skipBlanks_append hblanks, skipBlanks_cons hclosing.1]
    simp [hclosing.2]
  · simp only [List.length_append, List.length_cons]
    omega

theorem leads_comma {blanks rest inner : List Char} {bracket : Bracket} (outer : List Bracket)
    (hblanks : Blanks blanks) (henter : enterEntry bracket rest = .ok inner)
    (hle : inner.length ≤ rest.length) :
    Leads ⟨true, bracket :: outer, blanks ++ (',' :: rest)⟩ ⟨false, bracket :: outer, inner⟩ := by
  apply leads_of_turn
  · intro b budget
    simp only [run, skipFrom, skipBlanks_append hblanks]
    rw [skipBlanks_cons (by decide)]
    simp only [if_true]
    rw [henter, ok_bind]
  · simp only [List.length_append, List.length_cons]
    omega

theorem leads_opened_closed {text blanks rest : List Char} {opening : Char} {bracket : Bracket}
    (outer : List Bracket) (hopening : Bracket.opening? opening = some bracket)
    (hblanks : Blanks blanks)
    (hskip : skipBlanks text = opening :: (blanks ++ (bracket.closing :: rest))) :
    Leads ⟨false, outer, text⟩ ⟨true, outer, rest⟩ := by
  have hclosing : isBlank bracket.closing = false := by
    cases bracket <;> decide
  have hle := length_skipBlanks_le text
  apply leads_of_turn
  · intro b budget
    simp only [run, skipFrom, hskip, hopening, skipBlanks_append hblanks, skipBlanks_cons hclosing,
      if_true]
  · simp only [hskip, List.length_append, List.length_cons] at hle ⊢
    omega

theorem leads_opened {text blanks more inner : List Char} {opening d : Char} {bracket : Bracket}
    (outer : List Bracket) (hopening : Bracket.opening? opening = some bracket)
    (hblanks : Blanks blanks) (hblank : isBlank d = false) (hclosing : d ≠ bracket.closing)
    (hskip : skipBlanks text = opening :: (blanks ++ (d :: more)))
    (henter : enterEntry bracket (d :: more) = .ok inner)
    (hle : inner.length ≤ (d :: more).length) :
    Leads ⟨false, outer, text⟩ ⟨false, bracket :: outer, inner⟩ := by
  have htext := length_skipBlanks_le text
  apply leads_of_turn
  · intro b budget
    simp only [run, skipFrom, hskip, hopening, skipBlanks_append hblanks, skipBlanks_cons hblank,
      if_neg hclosing]
    rw [henter, ok_bind]
  · simp only [hskip, List.length_append, List.length_cons] at htext hle ⊢
    omega

/-!
# Lists and objects
-/

section Entries

variable {next : Bool -> List Char -> Except Failure Next} {unclosed : Cause}
  {entry : Reader β} {content : Reader Value} {bracket : Bracket} {mark : List Char}
  {starts : List Char -> Prop}

/-- What stands in front of the value of an entry can be passed over, up to where the reader
of the entry reads the value. -/
def Enters (bracket : Bracket) (mark : List Char) (entry : Reader β) (content : Reader Value) :
    Prop :=
  forall {blanks behind rest : List Char} {value : β}, Blanks blanks ->
    entry behind = .ok (value, rest) -> exists inner found,
      enterEntry bracket (blanks ++ (mark ++ behind)) = .ok inner ∧
        inner.length ≤ (blanks ++ (mark ++ behind)).length ∧ content inner = .ok (found, rest)

def Skips (content : Reader Value) : Prop :=
  forall ⦃text rest : List Char⦄ ⦃value : Value⦄ (outer : List Bracket),
    content text = .ok (value, rest) -> Leads ⟨false, outer, text⟩ ⟨true, outer, rest⟩

theorem leads_of_entriesFrom (hnext : Punctuates next bracket.closing mark starts)
    (henters : Enters bracket mark entry content) (hcontent : Skips content)
    {budget text rest : List Char} {values : List β} (outer : List Bracket)
    (h : entriesFrom next unclosed entry budget false text = .ok (values, rest)) :
    Leads ⟨true, bracket :: outer, text⟩ ⟨true, outer, rest⟩ := by
  induction budget generalizing text values with
  | nil =>
      simp [entriesFrom] at h
  | cons c budget ih =>
      rw [entriesFrom, bind_eq_ok_iff] at h
      rcases h with ⟨found, hfound, h⟩
      rcases hnext.mp hfound with ⟨blanks, behind, hblanks, rfl, rfl⟩ |
        ⟨lead, behind, hlead, _, rfl, rfl⟩
      · cases h
        exact leads_closed bracket outer hblanks
      · simp only [bind_eq_ok_iff, Prod.exists] at h
        rcases h with ⟨value, behind', hvalue, more, behind'', hmore, h⟩
        cases h
        cases hlead with
        | next hblanks hblanks' =>
            rcases henters hblanks' hvalue with ⟨inner, _, henter, hle, hread⟩
            rw [List.append_assoc, List.cons_append]
            exact ((leads_comma outer hblanks henter hle).trans
              (hcontent (bracket :: outer) hread)).trans (ih hmore)

theorem leads_of_brackets (hnext : Punctuates next bracket.closing mark starts)
    (henters : Enters bracket mark entry content) (hcontent : Skips content)
    (hstarts : forall {behind : List Char}, starts behind ->
      exists d more, mark ++ behind = d :: more ∧ isBlank d = false ∧ d ≠ bracket.closing)
    {budget text inside rest : List Char} {values : List β} {opening : Char}
    (outer : List Bracket) (hopening : Bracket.opening? opening = some bracket)
    (hskip : skipBlanks text = opening :: inside)
    (h : entriesFrom next unclosed entry budget true inside = .ok (values, rest)) :
    Leads ⟨false, outer, text⟩ ⟨true, outer, rest⟩ := by
  cases budget with
  | nil =>
      simp [entriesFrom] at h
  | cons c budget =>
      rw [entriesFrom, bind_eq_ok_iff] at h
      rcases h with ⟨found, hfound, h⟩
      rcases hnext.mp hfound with ⟨blanks, behind, hblanks, rfl, rfl⟩ |
        ⟨lead, behind, hlead, hbehind, rfl, rfl⟩
      · cases h
        exact leads_opened_closed outer hopening hblanks hskip
      · simp only [bind_eq_ok_iff, Prod.exists] at h
        rcases h with ⟨value, behind', hvalue, more, behind'', hmore, h⟩
        cases h
        cases hlead with
        | first hblanks =>
            rcases hstarts hbehind with ⟨d, more', hmark, hblank, hclosing⟩
            rcases henters blanks_nil hvalue with ⟨inner, _, henter, hle, hread⟩
            rw [List.nil_append, hmark] at henter hle
            rw [hmark] at hskip
            exact ((leads_opened outer hopening hblanks hblank hclosing hskip henter hle).trans
              (hcontent (bracket :: outer) hread)).trans
              (leads_of_entriesFrom hnext henters hcontent outer hmore)

end Entries

theorem enters_item (depth : Nat) : Enters .list [] (valueWithin depth) (valueWithin depth) := by
  intro blanks behind rest value hblanks h
  refine ⟨blanks ++ behind, value, rfl, Nat.le_refl _, ?_⟩
  rw [valueWithin_append hblanks]
  exact h

theorem enters_member (depth : Nat) :
    Enters .object ['"'] (memberTail stringTail (valueWithin depth)) (valueWithin depth) := by
  intro blanks behind rest member hblanks h
  simp only [memberTail, bind_eq_ok_iff, Prod.exists] at h
  rcases h with ⟨name, behind', hname, inner, hcolon, value, behind'', hvalue, h⟩
  cases h
  have hskip : skipBlanks (blanks ++ (['"'] ++ behind)) = '"' :: behind := by
    rw [skipBlanks_append hblanks, List.singleton_append, skipBlanks_cons (by decide)]
  refine ⟨inner, value, ?_, ?_, hvalue⟩
  · simp only [enterEntry, skipKey, hskip, if_true]
    rw [skipString_of_stringTail hname, ok_bind, hcolon]
  · rcases reads_stringTail.sound hname with ⟨nameWord, rfl, _⟩
    rcases colon_eq_ok_iff.mp hcolon with ⟨blanks', _, rfl⟩
    simp only [List.length_append, List.length_cons]
    omega

/-!
# Values
-/

theorem skipAtom_of_word {content result : Value} {expected tail rest : List Char}
    (h : word content expected tail = .ok (result, rest)) :
    (word () expected tail).map Prod.snd = .ok rest ∧ rest.length ≤ tail.length := by
  rcases word_eq_ok_iff.mp h with ⟨rfl, _⟩
  have hread : word () expected (expected ++ rest) = .ok ((), rest) :=
    word_eq_ok_iff.mpr ⟨rfl, rfl⟩
  rw [hread]
  exact ⟨rfl, by simp⟩

theorem skipAtom_of_valueAround {inner : Option (Reader Value)} {c : Char} {tail rest : List Char}
    {value : Value} (hblank : isBlank c = false) (hlist : c ≠ '[') (hobject : c ≠ '\x7b')
    (h : valueAround inner (c :: tail) = .ok (value, rest)) :
    skipAtom (c :: tail) = .ok rest ∧ rest.length < (c :: tail).length := by
  simp only [valueAround, skipBlanks_cons hblank] at h
  simp only [skipAtom, List.length_cons, Nat.lt_succ_iff]
  by_cases hn : c = 'n'
  · rw [if_pos hn] at h ⊢
    exact skipAtom_of_word h
  rw [if_neg hn] at h ⊢
  by_cases ht : c = 't'
  · rw [if_pos ht] at h ⊢
    exact skipAtom_of_word h
  rw [if_neg ht] at h ⊢
  by_cases hf : c = 'f'
  · rw [if_pos hf] at h ⊢
    exact skipAtom_of_word h
  rw [if_neg hf] at h ⊢
  by_cases hquote : c = '"'
  · simp only [if_pos hquote, bind_eq_ok_iff, Prod.exists] at h ⊢
    rcases h with ⟨text, behind, htext, h⟩
    cases h
    rcases reads_stringTail.sound htext with ⟨word, hword, _⟩
    exact ⟨skipString_of_stringTail htext, by simp [hword]⟩
  rw [if_neg hquote] at h ⊢
  by_cases hnumber : startsNumber c = true
  · simp only [if_pos hnumber, bind_eq_ok_iff, Prod.exists] at h ⊢
    rcases h with ⟨number, behind, hread, h⟩
    cases h
    rcases reads_number.sound hread with ⟨word, hword, hspells⟩
    rcases hspells.starts with ⟨d, more, rfl, _⟩
    cases hword
    exact ⟨skipNumber_of_number hread, by simp⟩
  · simp [hnumber, hlist, hobject] at h

theorem skips_valueAround {depth : Nat}
    (hcontent : forall inner, depth = inner + 1 -> Skips (valueWithin inner)) :
    Skips (valueAround (contentWithin depth)) := by
  intro text rest value outer h
  rcases exists_blanks text with ⟨blanks, hblanks, htext⟩
  have hread : valueAround (contentWithin depth) (skipBlanks text) = .ok (value, rest) := by
    rw [← valueWithin_eq] at h ⊢
    rw [← h, htext, valueWithin_append hblanks, ← htext]
  cases hskip : skipBlanks text with
  | nil =>
      rw [hskip] at hread
      cases hread
  | cons c tail =>
      rw [hskip] at hread
      have hblank := isBlank_of_skipBlanks hskip
      by_cases hlist : c = '['
      · rw [hlist] at hskip hread
        cases depth with
        | zero =>
            cases hread
        | succ depth =>
            change (items (valueWithin depth) tail >>= _) = _ at hread
            rcases bind_eq_ok_iff.mp hread with ⟨⟨values, behind⟩, hitems, hread⟩
            cases hread
            rw [items, itemsFrom_eq] at hitems
            refine leads_of_brackets punctuates_nextItem (enters_item depth) (hcontent depth rfl)
              ?_ outer rfl hskip hitems
            intro behind hbehind
            exact hbehind
      · by_cases hobject : c = '\x7b'
        · rw [hobject] at hskip hread
          cases depth with
          | zero =>
              cases hread
          | succ depth =>
              change (members stringTail (valueWithin depth) tail >>= _) = _ at hread
              rcases bind_eq_ok_iff.mp hread with ⟨⟨entries, behind⟩, hmembers, hread⟩
              cases hread
              rw [members, membersFrom_eq] at hmembers
              refine leads_of_brackets punctuates_nextMember (enters_member depth)
                (hcontent depth rfl) ?_ outer rfl hskip hmembers
              intro behind _
              exact ⟨'"', behind, rfl, by decide, by decide⟩
        · rcases skipAtom_of_valueAround hblank hlist hobject hread with ⟨hatom, hless⟩
          have hopening : Bracket.opening? c = none := by
            simp [Bracket.opening?, hlist, hobject]
          exact leads_atom outer hskip hopening hatom hless

theorem leads_of_valueWithin (depth : Nat) : Skips (valueWithin depth) := by
  induction depth with
  | zero =>
      rw [valueWithin_eq]
      exact skips_valueAround fun inner h => by cases h
  | succ depth ih =>
      rw [valueWithin_eq]
      exact skips_valueAround fun inner h => by
        cases h
        exact ih

end Passing

/-- Whatever follows the value, the same is left. -/
theorem skipValue_of_valueWithin {depth : Nat} {text rest : List Char} {value : Value}
    (h : valueWithin depth text = .ok (value, rest)) : skipValue text = .ok rest := by
  rcases Passing.leads_of_valueWithin depth [] h text (Nat.le_refl _) with ⟨left, _, hrun⟩
  rw [skipValue]
  refine hrun.trans ?_
  cases left <;> rfl

end Json
end GraphLayout
