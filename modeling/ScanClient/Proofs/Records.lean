import ScanClient.Proofs.Skipping
import ScanClient.Proofs.Values

/-!
# Records

What a record makes of an object are the fields that its members give, whatever else is among them;
of a list it makes the fields that its elements give in order. Each field comes with what it makes
of a form, so that what a record is read as can be told from its fields.
-/

namespace ScanClient.Json

/-! ## Fields by their kind -/

/-- The text of a string. -/
def Form.text? : Form → Option String
  | .string pieces => Piece.text? pieces
  | _ => none

def Form.boolean? : Form → Option Bool
  | .boolean b => some b
  | _ => none

def Form.double? : Form → Option Double
  | .number n => n.number?.map Number.toDouble
  | _ => none

/-- Null is the absence of a value. -/
def Form.optional {α : Type} (meaning : Form → Option α) : Form → Option (Option α)
  | .null => some none
  | form => (meaning form).map some

theorem interprets_readString (expected : String) : Interprets (readString expected) Form.text? := by
  refine interprets_afterBlank fun {c more rest form} h hc hrest => ?_
  by_cases hquote : c = '"'
  · subst hquote
    cases h with
    | string pieces =>
      rw [if_pos rfl, taken_behindChar, List.append_assoc, List.singleton_append, taken_readText]
      rfl
    | number spelt => exact absurd rfl (ne_of_numeral hc).2.2.2.1
  · rw [if_neg hquote]
    cases form with
    | string pieces => exact absurd hc hquote
    | _ => rfl

theorem accepts_readString (expected : String) : Accepts (readString expected) := by
  refine accepts_afterBlank fun {c s rest a} hblank h => ?_
  split at h
  next hc =>
    rw [taken_behindChar] at h
    obtain ⟨pieces, hs⟩ := exists_of_readText h
    refine ⟨_, _, .string pieces, ?_⟩
    rw [hc, hs, List.cons_append, List.append_assoc, List.singleton_append]
  next => cases h

theorem interprets_readBoolean : Interprets readBoolean Form.boolean? := by
  refine interprets_afterBlank fun {c more rest form} h hc hrest => ?_
  cases h with
  | isTrue => exact taken_readWord "rue" true 't' rest
  | isFalse => exact taken_readWord "alse" false 'f' rest
  | number spelt =>
    obtain ⟨_, htrue, hfalse, _⟩ := ne_of_numeral hc
    rw [if_neg htrue, if_neg hfalse]
    rfl
  | _ => rfl

theorem accepts_readBoolean : Accepts readBoolean := by
  refine accepts_afterBlank fun {c s rest a} hblank h => ?_
  split at h
  next hc => exact ⟨_, _, .isTrue, by rw [hc, (eq_of_readWord h).1]; rfl⟩
  split at h
  next hc => exact ⟨_, _, .isFalse, by rw [hc, (eq_of_readWord h).1]; rfl⟩
  next => cases h

theorem interprets_readDouble : Interprets readDouble Form.double? := by
  refine interprets_afterBlank fun {c more rest form} h hc hrest => ?_
  cases h with
  | number spelt =>
    have hnumber := taken_readNumber spelt hrest.ends
    rw [List.cons_append] at hnumber
    rw [if_pos (show c = '-' ∨ c.isDigit = true from hc), taken_readerMap, hnumber]
    simp only [Form.double?, Option.map_map]
    rfl
  | _ => rfl

theorem accepts_readDouble : Accepts readDouble := by
  refine accepts_afterBlank fun {c s rest a} hblank h => ?_
  split at h
  next =>
    rw [taken_readerMap] at h
    obtain ⟨got, hnumber, heq⟩ := Option.map_eq_some_iff.mp h
    cases heq
    obtain ⟨n, text, spelt, hs⟩ := exists_of_readNumber hnumber
    exact ⟨text, _, .number spelt, hs⟩
  next => cases h

section

variable {α : Type} {read : Reader α}

theorem Interprets.optional {meaning : Form → Option α} (interprets : Interprets read meaning) :
    Interprets (readOptional read) (Form.optional meaning) := by
  refine interprets_afterBlank fun {c more rest form} h hc hrest => ?_
  have hread := interprets blank_nil h hrest
  rw [List.nil_append, List.cons_append] at hread
  by_cases hnull : c = 'n'
  · subst hnull
    cases h with
    | null => exact taken_readWord "ull" none 'n' rest
    | number spelt => exact absurd rfl (ne_of_numeral hc).1
  · rw [if_neg hnull, taken_readerMap, hread]
    cases form with
    | null => exact absurd hc hnull
    | _ =>
      simp only [Form.optional, Option.map_map]
      rfl

theorem Accepts.optional (accepts : Accepts read) : Accepts (readOptional read) := by
  refine accepts_afterBlank fun {c s rest a} hblank h => ?_
  split at h
  next hc => exact ⟨_, _, .null, by rw [hc, (eq_of_readWord h).1]; rfl⟩
  next =>
    rw [taken_readerMap] at h
    obtain ⟨got, hread, heq⟩ := Option.map_eq_some_iff.mp h
    cases heq
    obtain ⟨gap, chars, form, hgap, hspells, hs⟩ := accepts hread
    -- what was not blank before is no blank now
    cases gap with
    | nil => exact ⟨chars, form, hspells, hs⟩
    | cons d gap =>
      obtain rfl : c = d := (List.cons.inj hs).1
      exact absurd (hgap c List.mem_cons_self) (Bool.eq_false_iff.mp hblank)

end

/-! ## Fields -/

/-- A field of a record together with what it makes of a form. -/
structure Asked (draft : Type) where
  field : RecordField draft
  make : Form → Option (draft → draft)
  interprets : ∀ d, Interprets (field.read d) fun form => (make form).map fun set => set d
  accepts : ∀ d, Accepts (field.read d)

/-- A field whose value is put into the draft. -/
def Asked.of {α draft : Type} (name : String) {read : Reader α} {meaning : Form → Option α}
    (interprets : Interprets read meaning) (accepts : Accepts read) (get : draft → Option α)
    (set : draft → α → draft) : Asked draft where
  field := .of name read get set
  make := fun form => (meaning form).map fun a d => set d a
  interprets := fun d => by
    simp only [Option.map_map]
    exact interprets.map (set d)
  accepts := fun d => accepts.map (set d)

section

variable {draft α : Type}

/-- The draft behind a member. No field may be given twice, and members of other names say nothing. -/
def memberStep (asked : List (Asked draft)) (d : draft) (key : String) (form : Form) :
    Option draft :=
  match asked.find? (·.field.name == key) with
  | none => some d
  | some a => if a.field.given d then none else (a.make form).map fun set => set d

/-- The draft behind the elements of a list, which give fields in order, and how many there are. -/
def rowOf (count : Nat) (d : draft) : List (Asked draft) → List Form → Option (Nat × draft)
  | _, [] => some (count, d)
  | [], _ :: _ => none
  | a :: asked, form :: forms => (a.make form).bind fun set => rowOf (count + 1) (set d) asked forms

/-- What a record makes of a form. -/
def Shape.meaning (shape : Shape draft α) (asked : List (Asked draft)) : Form → Option α
  | .object members =>
    (collect (memberStep asked) shape.empty members).bind fun d => (shape.ofMembers d).toOption
  | .array forms =>
    (rowOf 0 shape.empty asked forms).bind fun row => (shape.ofElements row.1 row.2).toOption
  | _ => none

theorem find?_fields (asked : List (Asked draft)) (key : String) :
    (asked.map (·.field)).find? (·.name == key) =
      (asked.find? (·.field.name == key)).map (·.field) :=
  List.find?_map ..

theorem interprets_readMember (asked : List (Asked draft)) :
    InterpretsMember (readMember (asked.map (·.field))) (memberStep asked) := by
  intro d key before after chars rest form hbefore hafter hspells hrest
  rw [readMember, find?_fields, memberStep]
  cases asked.find? (·.field.name == key) with
  | none =>
    exact (interprets_skipValue.map fun _ => d).afterColon hbefore hafter hspells hrest
  | some a =>
    simp only [Option.map_some]
    split
    · rfl
    · exact (a.interprets d).afterColon hbefore hafter hspells hrest

theorem accepts_readMember (asked : List (Asked draft)) :
    AcceptsMember (readMember (asked.map (·.field))) := by
  intro d next key s rest h
  rw [readMember, find?_fields] at h
  cases hfind : asked.find? (·.field.name == key) with
  | none =>
    rw [hfind] at h
    exact (accepts_skipValue.map fun _ => d).afterColon h
  | some a =>
    rw [hfind] at h
    simp only [Option.map_some] at h
    split at h
    · cases h
    · exact (a.accepts d).afterColon h

/-! ## Lists of fields -/

/-- An element or a comma stands where a list goes on. -/
theorem Spells.exists_of_element {first : Bool} {form : Form} {forms : List Form}
    {text : List Char} (h : Spells (.elements first (form :: forms)) text) :
    ∃ gap c s, Blank gap ∧ isBlank c = false ∧ c ≠ ']' ∧ text = gap ++ c :: s := by
  cases h with
  | @element _ lead chars more _ _ hlead hform hmore =>
    obtain ⟨c, tail, rfl, hc⟩ := hform.begins
    cases hlead with
    | first hgap =>
      exact ⟨lead, c, tail ++ more, hgap, hc.isBlank, hc.ne_close .square, rfl⟩
    | later hbefore hafter =>
      refine ⟨_, ',', _, hbefore, by decide, by decide, List.append_assoc ..⟩

/-- Behind the last field that is asked for nothing but the end of a list is read. -/
theorem taken_readListEnd {first : Bool} {forms : List Form} {text : List Char}
    (h : Spells (.elements first forms) text) (rest : List Char) :
    taken (readListEnd (text ++ rest)) = if forms = [] then some ((), rest) else none := by
  cases forms with
  | nil =>
    cases h with
    | @noElement _ gap hgap =>
      rw [List.append_assoc, readListEnd]
      exact taken_afterBlank hgap (by decide) rest
  | cons form forms =>
    obtain ⟨gap, c, s, hgap, hblank, hc, rfl⟩ := h.exists_of_element
    rw [List.append_assoc, List.cons_append, readListEnd, taken_afterBlank hgap hblank, if_neg hc]
    split
    · split <;> rfl
    · rfl

theorem exists_of_readListEnd {s rest : List Char} (h : taken (readListEnd s) = some ((), rest)) :
    ∃ gap, Blank gap ∧ s = gap ++ ']' :: rest := by
  obtain ⟨gap, c, more, rfl, hgap, _, hread⟩ := exists_of_afterBlank h
  split at hread
  next hc =>
    cases hread
    exact ⟨gap, hgap, hc ▸ rfl⟩
  next =>
    split at hread
    · split at hread <;> cases hread
    · cases hread

theorem taken_readRow (asked : List (Asked draft)) (count : Nat) (d : draft) {forms : List Form}
    {first : Bool} {text rest s : List Char} (h : Spells (.elements first forms) text)
    (hs : s = text ++ rest) :
    taken (readRow first count d (asked.map (·.field)) s) =
      (rowOf count d asked forms).map fun row => (row, rest) := by
  induction asked generalizing count d forms first text s with
  | nil =>
    rw [hs, List.map_nil, readRow, taken_readerMap, taken_readListEnd h rest]
    cases forms <;> rfl
  | cons a asked ih =>
    rw [List.map_cons, readRow]
    cases h with
    | @noElement _ gap hgap =>
      obtain rfl : s = gap ++ ']' :: rest := hs.trans (List.append_assoc ..)
      obtain ⟨_, hdone⟩ := nextElement_done first hgap rest
      simp only [hdone]
      rfl
    | @element _ lead chars more form forms hlead hform hmore =>
      obtain ⟨c, tail, rfl, hc⟩ := hform.begins
      obtain rfl : s = lead ++ c :: (tail ++ (more ++ rest)) := by
        rw [hs]
        simp only [List.append_assoc, List.cons_append]
      obtain ⟨gap, _, hgap, hitem⟩ := nextElement_lead hlead hc.isBlank (hc.ne_close .square)
        (tail ++ (more ++ rest))
      have hread := a.interprets d hgap hform (hmore.closes_elements rest)
      rw [List.cons_append] at hread
      simp only [hitem]
      rw [rowOf]
      rcases found_of_taken hread with ⟨hnone, e, hfound⟩ | ⟨next, _, hsome, hfound⟩
      · rw [Option.map_eq_none_iff] at hnone
        simp only [hfound, taken_error, hnone]
        rfl
      · obtain ⟨set, hset, rfl⟩ := Option.map_eq_some_iff.mp hsome
        simp only [hfound, hset]
        rw [taken_within]
        exact ih (count + 1) (set d) hmore rfl

theorem exists_of_readRow (asked : List (Asked draft)) {count : Nat} {d : draft} {first : Bool}
    {s rest : List Char} {row : Nat × draft}
    (h : taken (readRow first count d (asked.map (·.field)) s) = some (row, rest)) :
    ∃ forms text, Spells (.elements first forms) text ∧ s = text ++ rest := by
  induction asked generalizing count d first s with
  | nil =>
    rw [List.map_nil, readRow, taken_readerMap] at h
    obtain ⟨got, hend, heq⟩ := Option.map_eq_some_iff.mp h
    cases heq
    obtain ⟨gap, hgap, rfl⟩ := exists_of_readListEnd hend
    exact ⟨[], _, .noElement first hgap, (List.append_assoc gap [']'] _).symm⟩
  | cons a asked ih =>
    rw [List.map_cons, readRow] at h
    simp only at h
    split at h
    next => cases h
    next hdone =>
      cases h
      obtain ⟨gap, hgap, rfl⟩ := eq_of_nextElement_done hdone
      exact ⟨[], _, .noElement first hgap, (List.append_assoc gap [']'] _).symm⟩
    next t ht hitem =>
      split at h
      next => cases h
      next r hread =>
        rw [taken_within] at h
        obtain ⟨lead, rfl, hlead⟩ := eq_of_nextElement_item hitem
        obtain ⟨gap, chars, form, hgap, hspells, hform⟩ := a.accepts d (congrArg taken hread)
        obtain ⟨forms, text, hmore, hrest⟩ := ih h
        refine ⟨form :: forms, _, .element (hlead gap hgap) hspells hmore, ?_⟩
        rw [hform, hrest]
        simp only [List.append_assoc]

/-! ## Records -/

/-- A record is read as what its fields make of a form. -/
theorem interprets_readRecord (shape : Shape draft α) {asked : List (Asked draft)}
    (hfields : shape.fields = asked.map (·.field)) :
    Interprets (readRecord shape) (shape.meaning asked) := by
  refine interprets_afterBlank fun {c more rest form} h hc hrest => ?_
  rcases h.cases_open with ⟨forms, rfl, rfl, hinside⟩ | ⟨members, rfl, rfl, hinside⟩ | hopen
  · rw [if_neg (by decide), if_pos rfl, taken_behindChar, taken_finish, hfields,
      taken_readRow asked 0 shape.empty hinside rfl]
    simp only [Shape.meaning, Option.bind_map, Option.map_bind]
    rfl
  · rw [if_pos rfl, taken_behindChar, taken_finish, hfields,
      taken_readMembers (interprets_readMember asked) shape.empty hinside]
    simp only [Shape.meaning, Option.bind_map, Option.map_bind]
    rfl
  · rw [if_neg fun h => hopen (.inr h), if_neg fun h => hopen (.inl h)]
    cases form with
    | array forms => exact absurd (.inl hc) hopen
    | object members => exact absurd (.inr hc) hopen
    | _ => rfl

/-- And of nothing else is a record read. -/
theorem accepts_readRecord (shape : Shape draft α) {asked : List (Asked draft)}
    (hfields : shape.fields = asked.map (·.field)) : Accepts (readRecord shape) := by
  refine accepts_afterBlank fun {c s rest a} _ h => ?_
  split at h
  next hc =>
    rw [taken_behindChar, taken_finish, hfields] at h
    obtain ⟨got, hread, hmade⟩ := Option.bind_eq_some_iff.mp h
    obtain ⟨_, _, heq⟩ := Option.map_eq_some_iff.mp hmade
    cases heq
    obtain ⟨members, text, hspells, hs⟩ := exists_of_readMembers (accepts_readMember asked) hread
    exact ⟨c :: text, .object members, hc ▸ .object hspells, congrArg (c :: ·) hs⟩
  next =>
    split at h
    next hc =>
      rw [taken_behindChar, taken_finish, hfields] at h
      obtain ⟨got, hread, hmade⟩ := Option.bind_eq_some_iff.mp h
      obtain ⟨_, _, heq⟩ := Option.map_eq_some_iff.mp hmade
      cases heq
      obtain ⟨forms, text, hspells, hs⟩ := exists_of_readRow asked hread
      exact ⟨c :: text, .array forms, hc ▸ .array hspells, congrArg (c :: ·) hs⟩
    next => cases h

end

end ScanClient.Json
