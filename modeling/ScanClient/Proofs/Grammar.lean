import ScanClient.Proofs.Except
import ScanClient.Proofs.Numerals
import ScanClient.Proofs.Strings

/-!
# The grammar of JSON

What a JSON text says, apart from the blanks in it and from what its strings and numbers stand for,
is a form. A text spells one value with blanks around it. Readers differ in what they make of a
form, and in whether they make anything of it; that they make something of nothing else, and the
same of all texts that spell it, is said here of each reader.
-/

namespace ScanClient.Json

/-- A value as it is written: strings as their pieces, numbers as their digits. -/
inductive Form where
  | null
  | boolean (value : Bool)
  | number (numeral : Numeral)
  | string (pieces : List Piece)
  | array (elements : List Form)
  | object (members : List (List Piece × Form))

/-- A value, or what follows inside brackets up to the closing one. -/
inductive Phrase where
  | value (form : Form)
  | elements (first : Bool) (forms : List Form)
  | members (first : Bool) (members : List (List Piece × Form))

/-- The grammar: which texts spell a phrase. -/
inductive Spells : Phrase → List Char → Prop where
  | null : Spells (.value .null) ['n', 'u', 'l', 'l']
  | isTrue : Spells (.value (.boolean true)) ['t', 'r', 'u', 'e']
  | isFalse : Spells (.value (.boolean false)) ['f', 'a', 'l', 's', 'e']
  | number {n : Numeral} {text : List Char} (h : n.Spelt text) : Spells (.value (.number n)) text
  | string (pieces : List Piece) :
      Spells (.value (.string pieces)) ('"' :: (piecesChars pieces ++ ['"']))
  | array {forms : List Form} {text : List Char} (h : Spells (.elements true forms) text) :
      Spells (.value (.array forms)) ('[' :: text)
  | object {members : List (List Piece × Form)} {text : List Char}
      (h : Spells (.members true members) text) : Spells (.value (.object members)) ('\x7b' :: text)
  | noElement (first : Bool) {gap : List Char} (hgap : Blank gap) :
      Spells (.elements first []) (gap ++ [']'])
  | element {first : Bool} {lead text more : List Char} {form : Form} {forms : List Form}
      (hlead : Lead first lead) (h : Spells (.value form) text)
      (hmore : Spells (.elements false forms) more) :
      Spells (.elements first (form :: forms)) (lead ++ (text ++ more))
  | noMember (first : Bool) {gap : List Char} (hgap : Blank gap) :
      Spells (.members first []) (gap ++ ['\x7d'])
  | member {first : Bool} {lead before after text more : List Char} {key : List Piece}
      {form : Form} {members : List (List Piece × Form)} (hlead : Lead first lead)
      (hbefore : Blank before) (hafter : Blank after) (h : Spells (.value form) text)
      (hmore : Spells (.members false members) more) :
      Spells (.members first ((key, form) :: members))
        (lead ++ '"' :: (piecesChars key ++ '"' :: (before ++ ':' :: (after ++ (text ++ more)))))

/-- A whole text spells a value, with blanks around it. -/
def IsText (text : String) (form : Form) : Prop :=
  ∃ before chars after, Blank before ∧ Blank after ∧ Spells (.value form) chars ∧
    text.toList = before ++ (chars ++ after)

/-- What a reader makes of a form, wherever it stands. -/
def Interprets {α : Type} (read : Reader α) (meaning : Form → Option α) : Prop :=
  ∀ ⦃gap chars rest : List Char⦄ ⦃form : Form⦄, Blank gap → Spells (.value form) chars →
    Closes rest → taken (read (gap ++ (chars ++ rest))) = (meaning form).map fun a => (a, rest)

/-- A reader takes nothing that is not spelt. -/
def Accepts {α : Type} (read : Reader α) : Prop :=
  ∀ ⦃s rest : List Char⦄ ⦃a : α⦄, taken (read s) = some (a, rest) →
    ∃ gap chars form, Blank gap ∧ Spells (.value form) chars ∧ s = gap ++ (chars ++ rest)

theorem Interprets.map {α β : Type} {read : Reader α} {meaning : Form → Option α}
    (interprets : Interprets read meaning) (f : α → β) :
    Interprets (read.map f) fun form => (meaning form).map f := by
  intro gap chars rest form hgap hspells hrest
  rw [taken_readerMap, interprets hgap hspells hrest]
  simp only [Option.map_map]
  rfl

theorem Accepts.map {α β : Type} {read : Reader α} (accepts : Accepts read) (f : α → β) :
    Accepts (read.map f) := by
  intro s rest b h
  rw [taken_readerMap] at h
  obtain ⟨got, hread, heq⟩ := Option.map_eq_some_iff.mp h
  cases heq
  exact accepts hread

/-! ## Whole texts -/

section

variable {α : Type} {read : Reader α} {text : String}

theorem readAll_eq_ok {a : α} :
    readAll read text = .ok a ↔ ∃ rest, taken (read text.toList) = some (a, rest) ∧ Blank rest := by
  constructor
  · intro h
    unfold readAll at h
    cases hread : read text.toList with
    | error fault =>
      simp only [hread] at h
      cases h
    | ok r =>
      simp only [hread] at h
      split at h
      next hnone =>
        cases h
        exact ⟨r.rest, rfl, List.dropWhile_eq_nil_iff.mp hnone⟩
      next => cases h
  · rintro ⟨rest, hread, hblank⟩
    exact (gives_iff.mpr hread).readAll hblank

/-- A text is read as what the reader makes of its form. -/
theorem Interprets.readAll {meaning : Form → Option α} (interprets : Interprets read meaning)
    {form : Form} (h : IsText text form) : (Json.readAll read text).toOption = meaning form := by
  obtain ⟨before, chars, after, hbefore, hafter, hspells, htext⟩ := h
  have hread := interprets hbefore hspells (closes_blank hafter)
  rw [← htext] at hread
  cases hmeaning : meaning form with
  | some a =>
    rw [hmeaning] at hread
    rw [readAll_eq_ok.mpr ⟨after, hread, hafter⟩]
    rfl
  | none =>
    cases hall : Json.readAll read text with
    | error e => rfl
    | ok a =>
      obtain ⟨rest, htaken, _⟩ := readAll_eq_ok.mp hall
      rw [hread, hmeaning] at htaken
      cases htaken

/-- And a text that is read has a form. -/
theorem Accepts.isText (accepts : Accepts read) {a : α} (h : Json.readAll read text = .ok a) :
    ∃ form, IsText text form := by
  obtain ⟨rest, htaken, hblank⟩ := readAll_eq_ok.mp h
  obtain ⟨gap, chars, form, hgap, hspells, htext⟩ := accepts htaken
  exact ⟨form, gap, chars, rest, hgap, hblank, hspells, htext⟩

/-- What a text holds: the meaning of its form. -/
def Holds (meaning : Form → Option α) (text : String) (a : α) : Prop :=
  ∃ form, IsText text form ∧ meaning form = some a

/-- What is read of a text is what it holds. -/
theorem readAll_iff_holds {meaning : Form → Option α} (interprets : Interprets read meaning)
    (accepts : Accepts read) {a : α} :
    Json.readAll read text = .ok a ↔ Holds meaning text a := by
  constructor
  · intro h
    obtain ⟨form, htext⟩ := accepts.isText h
    have hmeaning := interprets.readAll htext
    rw [h] at hmeaning
    exact ⟨form, htext, hmeaning.symm⟩
  · rintro ⟨form, htext, hmeaning⟩
    exact toOption_eq_some ((interprets.readAll htext).trans hmeaning)

end

/-! ## How values begin -/

/-- The first character of a value. -/
def Form.BeginsWith (c : Char) : Form → Prop
  | .null => c = 'n'
  | .boolean true => c = 't'
  | .boolean false => c = 'f'
  | .number _ => c = '-' ∨ c.isDigit = true
  | .string _ => c = '"'
  | .array _ => c = '['
  | .object _ => c = '\x7b'

theorem Spells.begins {form : Form} {chars : List Char} (h : Spells (.value form) chars) :
    ∃ c more, chars = c :: more ∧ form.BeginsWith c := by
  cases h with
  | null => exact ⟨'n', _, rfl, rfl⟩
  | isTrue => exact ⟨'t', _, rfl, rfl⟩
  | isFalse => exact ⟨'f', _, rfl, rfl⟩
  | number h =>
    obtain ⟨c, more, htext, hc⟩ := h.text_cons
    exact ⟨c, more, htext, hc⟩
  | string pieces => exact ⟨'"', _, rfl, rfl⟩
  | array h => exact ⟨'[', _, rfl, rfl⟩
  | object h => exact ⟨'\x7b', _, rfl, rfl⟩

theorem Form.BeginsWith.isBlank {c : Char} {form : Form} (h : form.BeginsWith c) :
    Json.isBlank c = false := by
  cases form with
  | null => cases h; rfl
  | boolean b => cases b <;> cases h <;> rfl
  | number n => exact isBlank_of_numeral h
  | string pieces => cases h; rfl
  | array forms => cases h; rfl
  | object members => cases h; rfl

/-- No value begins with a bracket that closes. -/
theorem Form.BeginsWith.ne_close {form : Form} {c : Char}
    (h : form.BeginsWith c) (bracket : Bracket) : c ≠ bracket.close := by
  rintro rfl
  cases form with
  | boolean b => cases b <;> cases bracket <;> cases h
  | number n => rcases h with h | h <;> cases bracket <;> cases h
  | _ => cases bracket <;> cases h

/-- A reader that first looks for a character finds that of the value. -/
theorem interprets_afterBlank {α : Type} {atEnd : Cause}
    {read : (c : Char) → (rest : List Char) → Except Fault (Read α (c :: rest))}
    {meaning : Form → Option α}
    (h : ∀ {c : Char} {more rest : List Char} {form : Form}, Spells (.value form) (c :: more) →
      form.BeginsWith c → Closes rest →
      taken (read c (more ++ rest)) = (meaning form).map fun a => (a, rest)) :
    Interprets (afterBlank atEnd read) meaning := by
  intro gap chars rest form hgap hspells hrest
  obtain ⟨c, more, rfl, hc⟩ := hspells.begins
  rw [List.cons_append, taken_afterBlank hgap hc.isBlank]
  exact h hspells hc hrest

/-- What is read after blanks has a form if what is read at once has one. -/
theorem accepts_afterBlank {α : Type} {atEnd : Cause}
    {read : (c : Char) → (rest : List Char) → Except Fault (Read α (c :: rest))}
    (h : ∀ {c : Char} {s rest : List Char} {a : α}, isBlank c = false →
      taken (read c s) = some (a, rest) →
      ∃ chars form, Spells (.value form) chars ∧ c :: s = chars ++ rest) :
    Accepts (afterBlank atEnd read) := by
  intro s rest a hread
  obtain ⟨gap, c, more, rfl, hgap, hc, hread⟩ := exists_of_afterBlank hread
  obtain ⟨chars, form, hspells, htext⟩ := h hc hread
  exact ⟨gap, chars, form, hgap, hspells, by rw [htext]⟩

/-! ## Words -/

theorem taken_readWord {α : Type} (letters : String) (value : α) (c : Char) (rest : List Char) :
    taken (readWord letters value c (letters.toList ++ rest)) = some (value, rest) :=
  (gives_readWord letters value c rest).taken

theorem eq_of_readLetters {letters s : List Char} {t : Tail s} (h : readLetters letters s = .ok t) :
    s = letters ++ t.rest := by
  induction letters generalizing s with
  | nil =>
    cases h
    rfl
  | cons letter letters ih =>
    cases s with
    | nil => cases h
    | cons c rest =>
      rw [readLetters] at h
      split at h
      next hc =>
        cases hletters : readLetters letters rest with
        | error e =>
          rw [hletters] at h
          cases h
        | ok u =>
          rw [hletters] at h
          cases h
          exact hc ▸ congrArg (c :: ·) (ih hletters)
      next => cases h

theorem eq_of_readWord {α : Type} {letters : String} {value a : α} {c : Char} {s rest : List Char}
    (h : taken (readWord letters value c s) = some (a, rest)) :
    s = letters.toList ++ rest ∧ a = value := by
  unfold readWord at h
  cases hletters : readLetters letters.toList s with
  | error e =>
    rw [hletters] at h
    cases h
  | ok t =>
    rw [hletters] at h
    cases h
    exact ⟨eq_of_readLetters hletters, rfl⟩

/-! ## Numbers -/

/-- The number a numeral stands for, if it is in range. -/
def Numeral.number? (n : Numeral) : Option Number := (n.value []).toOption

/-- What follows a numeral shows in faults only. -/
theorem Numeral.toOption_value (n : Numeral) (rest : List Char) :
    (n.value rest).toOption = n.number? := by
  unfold Numeral.number? Numeral.value
  generalize absorb maxSignificand 0 n.whole = whole
  obtain ⟨whole, extra⟩ := whole
  dsimp only
  split
  · rfl
  · generalize absorb maxSignificand whole n.fraction = significand
    obtain ⟨significand, dropped⟩ := significand
    dsimp only
    split
    · generalize scale (.ofNat significand) _ = scaled
      cases scaled <;> rfl
    · split
      · generalize scale (.ofNat significand) _ = scaled
        cases scaled <;> rfl
      · split <;> rfl

theorem taken_readNumber {n : Numeral} {text : List Char} (spelt : n.Spelt text) {rest : List Char}
    (hrest : Ends rest) :
    taken (readNumber (text ++ rest)) = n.number?.map fun number => (number, rest) := by
  obtain ⟨shorter, hread⟩ := spelt.gives_readNumeral hrest .endInValue
  simp only [readNumber, hread]
  rw [← n.toOption_value rest]
  cases n.value rest <;> rfl

theorem exists_of_readNumber {s : List Char} {got : Number × List Char}
    (h : taken (readNumber s) = some got) :
    ∃ (n : Numeral) (text : List Char), n.Spelt text ∧ s = text ++ got.2 := by
  unfold readNumber at h
  split at h
  next => cases h
  next r hread =>
    obtain ⟨text, spelt, hs⟩ := exists_of_readNumeral hread
    cases hvalue : r.value.value r.rest with
    | error e =>
      rw [hvalue] at h
      cases h
    | ok number =>
      rw [hvalue] at h
      cases h
      exact ⟨r.value, text, spelt, hs⟩

/-! ## Colons -/

section

variable {α : Type} {read : Reader α} {s rest : List Char}

theorem taken_readColon {gap : List Char} (hgap : Blank gap) (rest : List Char) :
    taken (readColon (gap ++ ':' :: rest)) = some ((), rest) := by
  rw [readColon, taken_afterBlank hgap (by decide)]
  rfl

theorem exists_of_readColon {got : Unit × List Char} (h : taken (readColon s) = some got) :
    ∃ gap, Blank gap ∧ s = gap ++ ':' :: got.2 := by
  obtain ⟨gap, c, more, rfl, hgap, _, hread⟩ := exists_of_afterBlank h
  split at hread
  next hcolon =>
    cases hread
    exact ⟨gap, hgap, by rw [hcolon]; rfl⟩
  next => cases hread

theorem taken_afterColon {colon : Unit} (h : taken (readColon s) = some (colon, rest)) :
    taken (afterColon read s) = taken (read rest) := by
  obtain ⟨shorter, hcolon⟩ := gives_iff.mpr h
  simp only [afterColon, hcolon]
  exact taken_follow ⟨colon, rest, shorter⟩ (read rest)

theorem Interprets.afterColon {meaning : Form → Option α} (interprets : Interprets read meaning)
    {before after chars : List Char} {form : Form} (hbefore : Blank before) (hafter : Blank after)
    (hspells : Spells (.value form) chars) (hrest : Closes rest) :
    taken (Json.afterColon read (before ++ ':' :: (after ++ (chars ++ rest)))) =
      (meaning form).map fun a => (a, rest) := by
  rw [taken_afterColon (taken_readColon hbefore _)]
  exact interprets hafter hspells hrest

theorem Accepts.afterColon (accepts : Accepts read) {a : α}
    (h : taken (Json.afterColon read s) = some (a, rest)) :
    ∃ before after chars form, Blank before ∧ Blank after ∧ Spells (.value form) chars ∧
      s = before ++ ':' :: (after ++ (chars ++ rest)) := by
  cases hcolon : readColon s with
  | error e =>
    simp only [Json.afterColon, hcolon] at h
    cases h
  | ok colon =>
    have htaken : taken (readColon s) = some (colon.value, colon.rest) := by
      rw [hcolon, taken_ok]
    obtain ⟨before, hbefore, hs⟩ := exists_of_readColon htaken
    rw [taken_afterColon htaken] at h
    obtain ⟨after, chars, form, hafter, hspells, hmore⟩ := accepts h
    exact ⟨before, after, chars, form, hbefore, hafter, hspells, hs.trans (by rw [hmore])⟩

end

/-! ## What follows a value -/

theorem closes_append {gap : List Char} (hgap : Blank gap) {s : List Char} (h : Closes s) :
    Closes (gap ++ s) := by
  cases gap with
  | nil => exact h
  | cons c gap =>
    intro d hd
    obtain rfl : c = d := Option.some.inj hd
    exact .inr (.inr (.inr (hgap c List.mem_cons_self)))

theorem closes_bracket (rest : List Char) : Closes (']' :: rest) := fun _ h =>
  .inr (.inl (Option.some.inj h).symm)

theorem closes_brace (rest : List Char) : Closes ('\x7d' :: rest) := fun _ h =>
  .inr (.inr (.inl (Option.some.inj h).symm))

theorem Lead.closes {lead : List Char} (h : Lead false lead) (rest : List Char) :
    Closes (lead ++ rest) := by
  cases h with
  | later hbefore hafter =>
    rw [List.append_assoc]
    exact closes_append hbefore (closes_comma _)

/-- Another element may follow an element, or the end of the array. -/
theorem Spells.closes_elements {forms : List Form} {text : List Char}
    (h : Spells (.elements false forms) text) (rest : List Char) : Closes (text ++ rest) := by
  cases h with
  | noElement first hgap =>
    rw [List.append_assoc]
    exact closes_append hgap (closes_bracket _)
  | element hlead h hmore =>
    rw [List.append_assoc]
    exact hlead.closes _

theorem Spells.closes_members {members : List (List Piece × Form)} {text : List Char}
    (h : Spells (.members false members) text) (rest : List Char) : Closes (text ++ rest) := by
  cases h with
  | noMember first hgap =>
    rw [List.append_assoc]
    exact closes_append hgap (closes_brace _)
  | member hlead hbefore hafter h hmore =>
    rw [List.append_assoc]
    exact hlead.closes _

/-! ## Scalars -/

/-- The value of a form without brackets. -/
def Form.scalar? : Form → Option Value
  | .null => some .null
  | .boolean b => some (.boolean b)
  | .number n => n.number?.map .number
  | .string pieces => (Piece.text? pieces).map .string
  | .array _ => none
  | .object _ => none

theorem taken_readScalar {c : Char} {more : List Char} {form : Form}
    (h : Spells (.value form) (c :: more)) {rest : List Char} (hrest : Closes rest) :
    taken (readScalar c (more ++ rest)) = form.scalar?.map fun v => (v, rest) := by
  cases h with
  | null => exact taken_readWord "ull" Value.null 'n' rest
  | isTrue => exact taken_readWord "rue" (Value.boolean true) 't' rest
  | isFalse => exact taken_readWord "alse" (Value.boolean false) 'f' rest
  | @number n _ spelt =>
    obtain ⟨c', more', htext, hc⟩ := spelt.text_cons
    cases htext
    obtain ⟨hnull, htrue, hfalse, htext, _, _⟩ := ne_of_numeral hc
    have hnumber := taken_readNumber spelt hrest.ends
    rw [List.cons_append] at hnumber
    rw [readScalar, if_neg hnull, if_neg htrue, if_neg hfalse, if_neg htext, if_pos hc,
      taken_readerMap, hnumber]
    simp only [Form.scalar?, Option.map_map]
    rfl
  | string pieces =>
    show taken (behindChar (Reader.map Value.string readText) '"' _) = _
    rw [taken_behindChar, taken_readerMap, List.append_assoc, List.singleton_append,
      taken_readText]
    simp only [Form.scalar?, Option.map_map]
    rfl
  | array h => rfl
  | object h => rfl

theorem taken_skipScalar {c : Char} {more : List Char} {form : Form}
    (h : Spells (.value form) (c :: more)) (hscalar : Bracket.ofChar? c = none)
    {rest : List Char} (hrest : Closes rest) :
    taken (skipScalar c (more ++ rest)) = some ((), rest) := by
  cases h with
  | null => exact taken_readWord "ull" () 'n' rest
  | isTrue => exact taken_readWord "rue" () 't' rest
  | isFalse => exact taken_readWord "alse" () 'f' rest
  | @number n _ spelt =>
    obtain ⟨c', more', htext, hc⟩ := spelt.text_cons
    cases htext
    obtain ⟨hnull, htrue, hfalse, htext, _, _⟩ := ne_of_numeral hc
    have hnumber := (spelt.gives_readNumeral hrest.ends .badNumber).taken
    rw [List.cons_append] at hnumber
    rw [skipScalar, if_neg hnull, if_neg htrue, if_neg hfalse, if_neg htext, if_pos hc,
      taken_readerMap, hnumber]
    rfl
  | string pieces =>
    show taken (behindChar skipText '"' _) = _
    rw [taken_behindChar, List.append_assoc, List.singleton_append, taken_skipText]
  | array h => cases hscalar
  | object h => cases hscalar

section

variable {α : Type} {c : Char} {s rest : List Char}

/-- A reader of scalars, whatever it makes of each, takes nothing but scalars. -/
theorem exists_of_scalar {null true false : α} {text : Reader α} {number : Reader α} {got : α}
    (htext : ∀ {s rest : List Char} {a : α}, taken (text s) = some (a, rest) →
      ∃ pieces, s = piecesChars pieces ++ '"' :: rest)
    (hnumber : ∀ {s rest : List Char} {a : α}, taken (number s) = some (a, rest) →
      ∃ (n : Numeral) (chars : List Char), n.Spelt chars ∧ s = chars ++ rest)
    (h : taken (if c = 'n' then readWord "ull" null c s
      else if c = 't' then readWord "rue" true c s
      else if c = 'f' then readWord "alse" false c s
      else if c = '"' then behindChar text c s
      else if c = '-' ∨ c.isDigit then number (c :: s)
      else .error (.ahead .noValue (c :: s))) = some (got, rest)) :
    ∃ chars form, Spells (.value form) chars ∧ c :: s = chars ++ rest := by
  split at h
  next hc =>
    exact ⟨_, _, .null, by rw [hc, (eq_of_readWord h).1]; rfl⟩
  split at h
  next hc =>
    exact ⟨_, _, .isTrue, by rw [hc, (eq_of_readWord h).1]; rfl⟩
  split at h
  next hc =>
    exact ⟨_, _, .isFalse, by rw [hc, (eq_of_readWord h).1]; rfl⟩
  split at h
  next hc =>
    rw [taken_behindChar] at h
    obtain ⟨pieces, hs⟩ := htext h
    refine ⟨_, _, .string pieces, ?_⟩
    rw [hc, hs, List.cons_append, List.append_assoc, List.singleton_append]
  split at h
  next =>
    obtain ⟨n, chars, spelt, hs⟩ := hnumber h
    exact ⟨chars, _, .number spelt, hs⟩
  next => cases h

theorem exists_of_readScalar {got : Value × List Char} (h : taken (readScalar c s) = some got) :
    ∃ chars form, Spells (.value form) chars ∧ c :: s = chars ++ got.2 := by
  refine exists_of_scalar (fun hread => ?_) (fun hread => ?_) h
  · rw [taken_readerMap] at hread
    obtain ⟨got, htext, heq⟩ := Option.map_eq_some_iff.mp hread
    cases heq
    exact exists_of_readText htext
  · rw [taken_readerMap] at hread
    obtain ⟨got, hnumber, heq⟩ := Option.map_eq_some_iff.mp hread
    cases heq
    exact exists_of_readNumber hnumber

theorem exists_of_skipScalar {got : Unit × List Char} (h : taken (skipScalar c s) = some got) :
    ∃ chars form, Spells (.value form) chars ∧ c :: s = chars ++ got.2 := by
  refine exists_of_scalar exists_of_skipText (fun hread => ?_) h
  rw [taken_readerMap] at hread
  obtain ⟨got, hnumeral, heq⟩ := Option.map_eq_some_iff.mp hread
  obtain ⟨r, hfound, rfl⟩ := exists_of_taken hnumeral
  cases heq
  obtain ⟨text, spelt, hs⟩ := exists_of_readNumeral hfound
  exact ⟨_, text, spelt, hs⟩

end

end ScanClient.Json
