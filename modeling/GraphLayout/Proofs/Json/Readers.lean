import GraphLayout.Proofs.Json.Grammar

/-!
# Readers and their words

A reader is held to the words that it takes off the front of a text: it takes no other
word, and each of them wherever what follows cannot be a part of it. Here are blanks, fixed
words and the punctuation of lists and objects, whatever their entries are.
-/

namespace GraphLayout
namespace Json

variable {β γ : Type}

/-!
# Steps of a reader
-/

theorem bind_eq_ok_iff {x : Except Failure β} {f : β -> Except Failure γ} {result : γ} :
    (x >>= f) = .ok result <-> exists value, x = .ok value ∧ f value = .ok result := by
  cases x with
  | error failure =>
      simp [bind, Except.bind]
  | ok value =>
      simp [bind, Except.bind]

theorem ok_bind (value : β) (f : β -> Except Failure γ) : (Except.ok value >>= f) = f value :=
  rfl

@[simp]
theorem failBefore_ne_ok {cause : Cause} {rest : List Char} {result : β} :
    failBefore cause rest ≠ .ok result := by
  intro h
  cases h

@[simp]
theorem failBehind_ne_ok {cause : Cause} {rest : List Char} {result : β} :
    failBehind cause rest ≠ .ok result := by
  intro h
  cases h

/-- The reader takes the words of a value, and no others, off the front of a text. It takes
each of them where what follows is as given. -/
structure Reads (reader : Reader β) (spells : List Char -> β -> Prop)
    (follows : List Char -> Prop) : Prop where
  sound : forall {text : List Char} {value : β} {rest : List Char},
    reader text = .ok (value, rest) -> exists word, text = word ++ rest ∧ spells word value
  complete : forall {word : List Char} {value : β} {rest : List Char},
    spells word value -> follows rest -> reader (word ++ rest) = .ok (value, rest)

theorem Reads.unique {reader : Reader β} {spells : List Char -> β -> Prop}
    {follows : List Char -> Prop} (h : Reads reader spells follows) {word word' : List Char}
    {value value' : β} {rest rest' : List Char} (hword : spells word value)
    (hword' : spells word' value') (hrest : follows rest) (hrest' : follows rest')
    (htext : word ++ rest = word' ++ rest') : value = value' ∧ rest = rest' := by
  have hread := h.complete hword hrest
  rw [htext, h.complete hword' hrest'] at hread
  cases hread
  exact ⟨rfl, rfl⟩

def Anything (_ : List Char) : Prop :=
  True

def AfterBlanks (spells : List Char -> β -> Prop) (word : List Char) (value : β) : Prop :=
  exists blanks inner, word = blanks ++ inner ∧ Blanks blanks ∧ spells inner value

def Stops (rest : List Char) : Prop :=
  forall c, rest.head? = some c -> isBlank c = true ∨ c = ',' ∨ c = ']' ∨ c = '\x7d'

/-!
# Blanks and words
-/

theorem blanks_nil : Blanks [] := by
  intro c h
  cases h

theorem Blanks.append {first second : List Char} (hfirst : Blanks first)
    (hsecond : Blanks second) : Blanks (first ++ second) := by
  intro c h
  cases List.mem_append.mp h with
  | inl hmem =>
      exact hfirst c hmem
  | inr hmem =>
      exact hsecond c hmem

theorem ne_of_class {part : Char -> Bool} {c d : Char} (hc : part c = true)
    (hd : part d = false) : c ≠ d := by
  intro h
  rw [h, hd] at hc
  contradiction

theorem exists_blanks (text : List Char) :
    exists blanks, Blanks blanks ∧ text = blanks ++ skipBlanks text := by
  refine ⟨text.takeWhile isBlank, ?_, List.takeWhile_append_dropWhile.symm⟩
  intro c h
  exact List.all_eq_true.mp List.all_takeWhile c h

theorem skipBlanks_append {blanks : List Char} (h : Blanks blanks) (text : List Char) :
    skipBlanks (blanks ++ text) = skipBlanks text :=
  List.dropWhile_append_of_pos h

theorem skipBlanks_cons {c : Char} (h : isBlank c = false) (rest : List Char) :
    skipBlanks (c :: rest) = c :: rest := by
  unfold skipBlanks
  rw [List.dropWhile_cons_of_neg (by simp [h])]

theorem Blanks.unique {first second : List Char} (hfirst : Blanks first)
    (hsecond : Blanks second) {c d : Char} (hc : isBlank c = false) (hd : isBlank d = false)
    {rest rest' : List Char} (h : first ++ (c :: rest) = second ++ (d :: rest')) :
    first = second ∧ c = d ∧ rest = rest' := by
  have hskip := congrArg skipBlanks h
  rw [skipBlanks_append hfirst, skipBlanks_append hsecond, skipBlanks_cons hc,
    skipBlanks_cons hd] at hskip
  rw [hskip] at h
  exact ⟨List.append_cancel_right h, List.cons.inj hskip⟩

theorem skipBlanks_eq_self {blanks : List Char} (h : Blanks blanks) : skipBlanks blanks = [] := by
  have happend := skipBlanks_append h []
  rw [List.append_nil] at happend
  exact happend

theorem isBlank_of_skipBlanks {text rest : List Char} {c : Char}
    (h : skipBlanks text = c :: rest) : isBlank c = false := by
  have hhead := List.head?_dropWhile_not isBlank text
  unfold skipBlanks at h
  rw [h] at hhead
  simpa using hhead

theorem skipBlanks_skipBlanks (text : List Char) :
    skipBlanks (skipBlanks text) = skipBlanks text := by
  cases hskip : skipBlanks text with
  | nil =>
      rfl
  | cons c rest =>
      exact skipBlanks_cons (isBlank_of_skipBlanks hskip) rest

theorem blanks_of_skipBlanks {text rest : List Char} (h : skipBlanks text = rest) :
    exists blanks, Blanks blanks ∧ text = blanks ++ rest := by
  rcases exists_blanks text with ⟨blanks, hblanks, htext⟩
  rw [h] at htext
  exact ⟨blanks, hblanks, htext⟩

theorem word_eq_ok_iff {value result : β} {expected text rest : List Char} :
    word value expected text = .ok (result, rest) <->
      text = expected ++ rest ∧ result = value := by
  induction expected generalizing text with
  | nil =>
      simp [word, eq_comm, and_comm]
  | cons e more ih =>
      cases text with
      | nil =>
          simp [word]
      | cons c tail =>
          unfold word
          by_cases hc : c = e
          · rw [if_pos hc, ih]
            simp [hc]
          · rw [if_neg hc]
            simp [hc]

/-!
# Punctuation
-/

theorem SpellsLead.append_blanks {first : Bool} {lead blanks : List Char}
    (h : SpellsLead first lead) (hblanks : Blanks blanks) : SpellsLead first (lead ++ blanks) := by
  cases h with
  | first hlead =>
      exact SpellsLead.first (hlead.append hblanks)
  | next hleft hright =>
      rw [List.append_assoc, List.cons_append]
      exact SpellsLead.next hleft (hright.append hblanks)

/-- What the punctuation of a kind of brackets means: their end, or a lead and the mark with
which an entry begins. What follows the mark starts as given. -/
def Punctuates (next : Bool -> List Char -> Except Failure Next) (closing : Char)
    (mark : List Char) (starts : List Char -> Prop) : Prop :=
  forall {first : Bool} {text : List Char} {found : Next}, next first text = .ok found <->
    (exists blanks rest, Blanks blanks ∧ text = blanks ++ (closing :: rest) ∧
      found = .closed rest) ∨
    (exists lead rest, SpellsLead first lead ∧ starts rest ∧ text = lead ++ (mark ++ rest) ∧
      found = .entry rest)

/-- What follows in brackets of a kind, if its first entry begins where the blanks end, and every
further one behind a comma and blanks. -/
def nextEntry (closing : Char) (unclosed unseparated : Cause)
    (enter : List Char -> Except Failure Next) (first : Bool) (text : List Char) :
    Except Failure Next :=
  match skipBlanks text with
  | [] => failBefore unclosed []
  | c :: rest =>
      if c = closing then .ok (.closed rest)
      else if first then enter (c :: rest)
      else if c = ',' then enter (skipBlanks rest)
      else failBehind unseparated (c :: rest)

/-- Where the blanks end, an entry begins with the mark, and with nothing that closes the
brackets. -/
structure Begins (enter : List Char -> Except Failure Next) (closing : Char) (mark : List Char)
    (starts : List Char -> Prop) : Prop where
  eq_ok_iff : forall {text : List Char} {found : Next}, skipBlanks text = text ->
    (enter text = .ok found <->
      exists rest, starts rest ∧ text = mark ++ rest ∧ found = .entry rest)
  unclosed : forall {rest : List Char}, starts rest ->
    exists c more, mark ++ rest = c :: more ∧ isBlank c = false ∧ c ≠ closing

section NextEntry

variable {closing : Char} {unclosed unseparated : Cause} {first : Bool}
  {enter : List Char -> Except Failure Next} {mark : List Char} {starts : List Char -> Prop}

theorem nextEntry_sound (henter : Begins enter closing mark starts) {text : List Char}
    {found : Next} (h : nextEntry closing unclosed unseparated enter first text = .ok found) :
    (exists blanks rest, Blanks blanks ∧ text = blanks ++ (closing :: rest) ∧
      found = .closed rest) ∨
    (exists lead rest, SpellsLead first lead ∧ starts rest ∧ text = lead ++ (mark ++ rest) ∧
      found = .entry rest) := by
  unfold nextEntry at h
  cases hskip : skipBlanks text with
  | nil =>
      simp [hskip] at h
  | cons c tail =>
      rcases blanks_of_skipBlanks hskip with ⟨blanks, hblanks, htext⟩
      simp only [hskip] at h
      by_cases hclosed : c = closing
      · rw [if_pos hclosed] at h
        cases h
        exact Or.inl ⟨blanks, tail, hblanks, hclosed ▸ htext, rfl⟩
      · rw [if_neg hclosed] at h
        cases first with
        | true =>
            rcases (henter.eq_ok_iff (skipBlanks_cons (isBlank_of_skipBlanks hskip) tail)).mp h with
              ⟨rest, hrest, hmark, hfound⟩
            exact Or.inr ⟨blanks, rest, SpellsLead.first hblanks, hrest, hmark ▸ htext, hfound⟩
        | false =>
            by_cases hseparated : c = ','
            · simp only [Bool.false_eq_true, if_false, if_pos hseparated] at h
              rcases (henter.eq_ok_iff (skipBlanks_skipBlanks tail)).mp h with
                ⟨rest, hrest, hmark, hfound⟩
              rcases blanks_of_skipBlanks hmark with ⟨blanks', hblanks', htail⟩
              refine Or.inr ⟨blanks ++ (',' :: blanks'), rest,
                SpellsLead.next hblanks hblanks', hrest, ?_, hfound⟩
              rw [htext, htail, hseparated]
              simp
            · simp [hseparated] at h

theorem nextEntry_closed (hclosing : isBlank closing = false) {blanks : List Char}
    (hblanks : Blanks blanks) (rest : List Char) :
    nextEntry closing unclosed unseparated enter first (blanks ++ (closing :: rest)) =
      .ok (.closed rest) := by
  unfold nextEntry
  rw [skipBlanks_append hblanks, skipBlanks_cons hclosing]
  exact if_pos rfl

theorem nextEntry_entry (henter : Begins enter closing mark starts) (hcomma : ',' ≠ closing)
    {lead rest : List Char} (hlead : SpellsLead first lead) (hrest : starts rest) :
    nextEntry closing unclosed unseparated enter first (lead ++ (mark ++ rest)) =
      .ok (.entry rest) := by
  rcases henter.unclosed hrest with ⟨c, more, hmark, hblank, hopen⟩
  have hskip : skipBlanks (c :: more) = c :: more := skipBlanks_cons hblank more
  have hread := (henter.eq_ok_iff hskip).mpr ⟨rest, hrest, hmark.symm, rfl⟩
  unfold nextEntry
  rw [hmark]
  cases hlead with
  | first hblanks =>
      rw [skipBlanks_append hblanks, hskip]
      simp only [if_neg hopen, if_true]
      exact hread
  | next hblanks hblanks' =>
      rw [List.append_assoc, skipBlanks_append hblanks, List.cons_append,
        skipBlanks_cons (by decide)]
      simp only [if_neg hcomma, Bool.false_eq_true, if_false, if_true]
      rw [skipBlanks_append hblanks', hskip]
      exact hread

end NextEntry

theorem Begins.punctuates {closing : Char} {unclosed unseparated : Cause}
    {enter : List Char -> Except Failure Next} {mark : List Char} {starts : List Char -> Prop}
    (henter : Begins enter closing mark starts) (hclosing : isBlank closing = false)
    (hcomma : ',' ≠ closing) :
    Punctuates (nextEntry closing unclosed unseparated enter) closing mark starts := by
  intro first text found
  constructor
  · exact nextEntry_sound henter
  · rintro (⟨blanks, rest, hblanks, rfl, rfl⟩ | ⟨lead, rest, hlead, hrest, rfl, rfl⟩)
    · exact nextEntry_closed hclosing hblanks rest
    · exact nextEntry_entry henter hcomma hlead hrest

def StartsItem (rest : List Char) : Prop :=
  exists c more, rest = c :: more ∧ isBlank c = false ∧ c ≠ ']'

def itemMark : List Char -> Except Failure Next
  | [] => failBefore .endOfValue []
  | c :: rest =>
      if c = ']' then failBehind .trailingComma (c :: rest)
      else .ok (.entry (c :: rest))

theorem nextItem_eq : nextItem = nextEntry ']' .endOfList .expectedCommaInList itemMark := by
  funext first text
  unfold nextItem nextEntry
  cases skipBlanks text with
  | nil =>
      rfl
  | cons c rest =>
      by_cases hclosing : c = ']'
      · rw [hclosing]
        rfl
      · have hitem : itemMark (c :: rest) = .ok (.entry (c :: rest)) := if_neg hclosing
        dsimp only
        rw [hitem]
        rfl

theorem itemMark_eq_ok_iff {text : List Char} {found : Next} (h : skipBlanks text = text) :
    itemMark text = .ok found <->
      exists rest, StartsItem rest ∧ text = rest ∧ found = .entry rest := by
  cases text with
  | nil =>
      constructor
      · intro hfound
        cases hfound
      · rintro ⟨_, ⟨_, _, rfl, _⟩, htext, _⟩
        cases htext
  | cons c tail =>
      simp only [itemMark]
      constructor
      · intro hfound
        by_cases hclosing : c = ']'
        · simp [hclosing] at hfound
        · rw [if_neg hclosing] at hfound
          cases hfound
          exact ⟨c :: tail, ⟨c, tail, rfl, isBlank_of_skipBlanks h, hclosing⟩, rfl, rfl⟩
      · rintro ⟨_, ⟨_, _, rfl, _, hclosing⟩, htext, rfl⟩
        cases htext
        exact if_neg hclosing

theorem punctuates_nextItem : Punctuates nextItem ']' [] StartsItem := by
  have hbegins : Begins itemMark ']' [] StartsItem := ⟨itemMark_eq_ok_iff, id⟩
  rw [nextItem_eq]
  intro first text found
  exact hbegins.punctuates (by decide) (by decide)

theorem keyMark_eq_ok_iff {text : List Char} {found : Next} :
    keyMark text = .ok found <->
      exists rest, Anything rest ∧ text = ['"'] ++ rest ∧ found = .entry rest := by
  cases text with
  | nil =>
      simp [keyMark]
  | cons c rest =>
      simp only [keyMark]
      by_cases hmark : c = '"'
      · rw [if_pos hmark]
        simp [hmark, Anything, eq_comm]
      · rw [if_neg hmark]
        split
        · simp [hmark]
        · simp [hmark]

theorem nextMember_eq :
    nextMember = nextEntry '\x7d' .endOfObject .expectedCommaInObject keyMark :=
  rfl

theorem punctuates_nextMember : Punctuates nextMember '\x7d' ['"'] Anything := by
  have hbegins : Begins keyMark '\x7d' ['"'] Anything :=
    ⟨fun _ => keyMark_eq_ok_iff, fun {rest} _ => ⟨'"', rest, rfl, by decide, by decide⟩⟩
  rw [nextMember_eq]
  intro first text found
  exact hbegins.punctuates (by decide) (by decide)

theorem colon_eq_ok_iff {text rest : List Char} :
    colon text = .ok rest <-> exists blanks, Blanks blanks ∧ text = blanks ++ (':' :: rest) := by
  constructor
  · intro h
    unfold colon at h
    cases hskip : skipBlanks text with
    | nil =>
        simp [hskip] at h
    | cons c tail =>
        rcases blanks_of_skipBlanks hskip with ⟨blanks, hblanks, htext⟩
        simp only [hskip] at h
        by_cases hcolon : c = ':'
        · rw [if_pos hcolon] at h
          cases h
          exact ⟨blanks, hblanks, hcolon ▸ htext⟩
        · simp [hcolon] at h
  · intro h
    rcases h with ⟨blanks, hblanks, rfl⟩
    unfold colon
    rw [skipBlanks_append hblanks, skipBlanks_cons (by decide)]
    rfl

/-!
# Entries

Items and members are read by one loop, which differs in the punctuation and in the reader
of an entry.
-/

def entriesFrom (next : Bool -> List Char -> Except Failure Next) (unclosed : Cause)
    (entry : Reader β) : List Char -> Bool -> Reader (List β)
  | [], _, text => failBefore unclosed text
  | _ :: budget, first, text => do
      match ← next first text with
      | .closed rest => .ok ([], rest)
      | .entry rest =>
          let (value, rest) ← entry rest
          let (values, rest) ← entriesFrom next unclosed entry budget false rest
          .ok (value :: values, rest)

def memberTail (key : Reader String) (content : Reader β) : Reader (String × β) := fun text => do
  let (name, rest) ← key text
  let rest ← colon rest
  let (value, rest) ← content rest
  .ok ((name, value), rest)

theorem itemsFrom_eq (item : Reader β) (budget : List Char) (first : Bool) (text : List Char) :
    itemsFrom item budget first text =
      entriesFrom nextItem .endOfList item budget first text := by
  induction budget generalizing first text with
  | nil =>
      rfl
  | cons c budget ih =>
      rw [itemsFrom]
      simp only [ih]
      rfl

theorem membersFrom_eq (key : Reader String) (content : Reader β) (budget : List Char)
    (first : Bool) (text : List Char) :
    membersFrom key content budget first text =
      entriesFrom nextMember .endOfObject (memberTail key content) budget first text := by
  induction budget generalizing first text with
  | nil =>
      rfl
  | cons c budget ih =>
      rw [membersFrom, entriesFrom]
      simp only [ih, memberTail, bind_assoc]
      rfl

theorem stops_append_cons {blanks : List Char} (h : Blanks blanks) {c : Char}
    (hc : c = ',' ∨ c = ']' ∨ c = '\x7d') (rest : List Char) : Stops (blanks ++ (c :: rest)) := by
  intro d hd
  cases blanks with
  | nil =>
      cases hd
      exact Or.inr hc
  | cons b blanks =>
      cases hd
      exact Or.inl (h d (List.mem_cons_self ..))

/-- What is left of a list or an object behind an entry ends the word of that entry. -/
theorem SpellsEntries.stops {spells : List Char -> β -> Prop} {closing : Char}
    {tail : List Char} {entries : List β} (hclosing : closing = ']' ∨ closing = '\x7d')
    (h : SpellsEntries spells closing false tail entries) (rest : List Char) :
    Stops (tail ++ rest) := by
  cases h with
  | closed hblanks =>
      rw [List.append_assoc]
      exact stops_append_cons hblanks (Or.inr hclosing) _
  | entry h _ _ =>
      cases h with
      | next hblanks _ =>
          simp only [List.append_assoc, List.cons_append]
          exact stops_append_cons hblanks (Or.inl rfl) _

section Entries

variable {next : Bool -> List Char -> Except Failure Next} {unclosed : Cause}
  {entry : Reader β} {closing : Char} {mark : List Char} {starts : List Char -> Prop}
  {spells : List Char -> β -> Prop}

theorem entriesFrom_sound (hnext : Punctuates next closing mark starts)
    (hentry : Reads entry (fun word value => AfterBlanks spells (mark ++ word) value) Stops)
    {budget : List Char} {first : Bool} {text : List Char} {values : List β} {rest : List Char}
    (h : entriesFrom next unclosed entry budget first text = .ok (values, rest)) :
    exists word, text = word ++ rest ∧ SpellsEntries spells closing first word values := by
  induction budget generalizing first text values with
  | nil =>
      simp [entriesFrom] at h
  | cons c budget ih =>
      rw [entriesFrom, bind_eq_ok_iff] at h
      rcases h with ⟨found, hfound, h⟩
      cases hnext.mp hfound with
      | inl hclosed =>
          rcases hclosed with ⟨blanks, rest', hblanks, htext, rfl⟩
          cases h
          refine ⟨blanks ++ [closing], ?_, SpellsEntries.closed hblanks⟩
          rw [htext, List.append_assoc, List.singleton_append]
      | inr hmarked =>
          rcases hmarked with ⟨lead, behind, hlead, _, htext, rfl⟩
          simp only [bind_eq_ok_iff, Prod.exists] at h
          rcases h with ⟨value, behind', hvalue, more, behind'', hmore, h⟩
          cases h
          rcases hentry.sound hvalue with ⟨taken, hbehind, blanks, word, htaken, hblanks, hword⟩
          rcases ih hmore with ⟨tail, hbehind', htail⟩
          -- The blanks that the reader of the entry passes over belong to the lead.
          refine ⟨(lead ++ blanks) ++ (word ++ tail), ?_,
            SpellsEntries.entry (hlead.append_blanks hblanks) hword htail⟩
          rw [htext, hbehind, hbehind', ← List.append_assoc mark, htaken]
          simp only [List.append_assoc]

theorem entriesFrom_complete (hclosing : closing = ']' ∨ closing = '\x7d')
    (hnext : Punctuates next closing mark starts)
    (hentry : Reads entry (fun word value => AfterBlanks spells (mark ++ word) value) Stops)
    (hstarts : forall {word : List Char} {value : β}, spells word value -> word ≠ [] ∧
      exists inner, word = mark ++ inner ∧ forall rest, starts (inner ++ rest))
    {first : Bool} {word : List Char} {values : List β}
    (h : SpellsEntries spells closing first word values) {budget : List Char}
    (hbudget : word.length ≤ budget.length) (rest : List Char) :
    entriesFrom next unclosed entry budget first (word ++ rest) = .ok (values, rest) := by
  induction h generalizing budget with
  | closed hblanks =>
      cases budget with
      | nil =>
          simp at hbudget
      | cons c budget =>
          rw [entriesFrom, List.append_assoc, List.singleton_append,
            hnext.mpr (Or.inl ⟨_, rest, hblanks, rfl, rfl⟩)]
          rfl
  | entry hlead hword htail ih =>
      rcases hstarts hword with ⟨hnonempty, inner, hinner, hinnerStarts⟩
      rename_i tail value values
      have hread : entry (inner ++ (tail ++ rest)) = .ok (value, tail ++ rest) := by
        apply hentry.complete
        · rw [← hinner]
          exact ⟨[], _, rfl, blanks_nil, hword⟩
        · exact htail.stops hclosing rest
      cases budget with
      | nil =>
          simp [hnonempty] at hbudget
      | cons c budget =>
          -- Every entry takes a character, so that the budget outlasts the entries.
          have hless : tail.length ≤ budget.length := by
            have hlength := List.length_pos_iff.mpr hnonempty
            simp only [List.length_append, List.length_cons] at hbudget
            omega
          rw [entriesFrom, List.append_assoc, List.append_assoc, hinner, List.append_assoc,
            hnext.mpr (Or.inr ⟨_, _, hlead, hinnerStarts _, rfl, rfl⟩), ok_bind]
          simp only [hread, ih hless, ok_bind]

end Entries

/-!
# Lists and objects
-/

theorem reads_items {item : Reader β} {spells : List Char -> β -> Prop}
    (hitem : Reads item (AfterBlanks spells) Stops)
    (hstarts : forall {word : List Char} {value : β}, spells word value -> StartsItem word) :
    Reads (items item) (SpellsEntries spells ']' true) Anything := by
  have hentry : Reads item (fun word value => AfterBlanks spells ([] ++ word) value) Stops := hitem
  constructor
  case sound =>
    intro text values rest h
    rw [items, itemsFrom_eq] at h
    exact entriesFrom_sound punctuates_nextItem hentry h
  case complete =>
    intro word values rest h _
    rw [items, itemsFrom_eq]
    apply entriesFrom_complete (Or.inl rfl) punctuates_nextItem hentry _ h
    · simp
    · intro word value hword
      rcases hstarts hword with ⟨c, more, rfl, hblank, hclosing⟩
      exact ⟨by simp, _, rfl, fun rest => ⟨c, more ++ rest, rfl, hblank, hclosing⟩⟩

theorem SpellsString.starts {word : List Char} {text : String} (h : SpellsString word text) :
    exists inner, word = '"' :: inner := by
  cases h with
  | quoted _ =>
      exact ⟨_, rfl⟩

theorem reads_memberTail {key : Reader String} {content : Reader β}
    {spells : List Char -> β -> Prop}
    (hkey : Reads key (fun word name => SpellsString ('"' :: word) name) Anything)
    (hcontent : Reads content (AfterBlanks spells) Stops) :
    Reads (memberTail key content)
      (fun word member => AfterBlanks (SpellsMember spells) (['"'] ++ word) member) Stops := by
  constructor
  case sound =>
    intro text member rest h
    simp only [memberTail, bind_eq_ok_iff, Prod.exists] at h
    rcases h with ⟨name, behind, hname, behind', hcolon, value, behind'', hvalue, h⟩
    cases h
    rcases hkey.sound hname with ⟨nameWord, htext, hspells⟩
    rcases colon_eq_ok_iff.mp hcolon with ⟨blanks, hblanks, hbehind⟩
    rcases hcontent.sound hvalue with ⟨taken, hbehind', blanks', word, htaken, hblanks', hword⟩
    refine ⟨nameWord ++ (blanks ++ (':' :: (blanks' ++ word))), ?_, [], _, rfl, blanks_nil,
      SpellsMember.member hspells hblanks hblanks' hword⟩
    rw [htext, hbehind, hbehind', htaken]
    simp
  case complete =>
    intro word member rest h hrest
    rcases h with ⟨outer, inner, hsplit, houter, hmember⟩
    cases outer with
    | cons c outer =>
        cases hsplit
        have hmark := houter '"' (List.mem_cons_self ..)
        contradiction
    | nil =>
        cases hmember with
        | @member nameWord blanks blanks' valueWord name value hname hblanks hblanks' hword =>
            rcases hname.starts with ⟨nameTail, rfl⟩
            have hword' : word = nameTail ++ (blanks ++ (':' :: (blanks' ++ valueWord))) :=
              List.cons.inj hsplit |>.2
            have hcolon : colon (blanks ++ (':' :: (blanks' ++ (valueWord ++ rest)))) =
                .ok (blanks' ++ (valueWord ++ rest)) :=
              colon_eq_ok_iff.mpr ⟨blanks, hblanks, rfl⟩
            have hvalue : content (blanks' ++ (valueWord ++ rest)) = .ok (value, rest) := by
              rw [← List.append_assoc]
              exact hcontent.complete ⟨blanks', valueWord, rfl, hblanks', hword⟩ hrest
            simp only [memberTail, hword', List.append_assoc, List.cons_append]
            rw [hkey.complete hname trivial, ok_bind]
            simp only [hcolon, hvalue, ok_bind]

theorem reads_members {key : Reader String} {content : Reader β}
    {spells : List Char -> β -> Prop}
    (hkey : Reads key (fun word name => SpellsString ('"' :: word) name) Anything)
    (hcontent : Reads content (AfterBlanks spells) Stops) :
    Reads (members key content) (SpellsEntries (SpellsMember spells) '\x7d' true) Anything := by
  have hentry := reads_memberTail hkey hcontent
  constructor
  case sound =>
    intro text values rest h
    rw [members, membersFrom_eq] at h
    exact entriesFrom_sound punctuates_nextMember hentry h
  case complete =>
    intro word values rest h _
    rw [members, membersFrom_eq]
    apply entriesFrom_complete (Or.inr rfl) punctuates_nextMember hentry _ h
    · simp
    · intro word member hword
      cases hword with
      | member hname _ _ _ =>
          rcases hname.starts with ⟨nameTail, rfl⟩
          exact ⟨by simp, _, rfl, fun _ => trivial⟩

end Json
end GraphLayout
