import ScanClient.Proofs.Grammar

/-!
# The values of forms

A list is read item by item, and so is an object, from the state that its members have made so far.
What a reader makes of an item decides what is made of the whole. Of values the same follows by
induction on how deep brackets may nest: the value of a form does not depend on how it is spelt.
-/

namespace ScanClient.Json

/-! ## Elements -/

section

variable {first : Bool} {gap lead s rest : List Char} {c : Char}

theorem nextElement_done (first : Bool) (hgap : Blank gap) (rest : List Char) :
    ∃ h, nextElement first (gap ++ ']' :: rest) = .ok (.done rest h) := by
  have hskip := skipBlank_gap hgap (c := ']') (by decide) rest
  refine ⟨length_lt_of_skipBlank hskip, ?_⟩
  unfold nextElement
  split
  next hnone =>
    rw [hskip] at hnone
    cases hnone
  next d more hmore =>
    rw [hskip] at hmore
    cases hmore
    rfl

/-- An element is found behind its lead, perhaps with blanks before it. -/
theorem nextElement_lead (hlead : Lead first lead) (hblank : isBlank c = false) (hc : c ≠ ']')
    (rest : List Char) :
    ∃ gap h, Blank gap ∧ nextElement first (lead ++ c :: rest) = .ok (.item (gap ++ c :: rest) h) := by
  cases hlead with
  | first hgap =>
    have hskip := skipBlank_gap hgap hblank rest
    refine ⟨[], Nat.le_trans (Nat.le_of_eq rfl) (length_lt_of_skipBlank hskip), blank_nil, ?_⟩
    unfold nextElement
    split
    next hnone =>
      rw [hskip] at hnone
      cases hnone
    next d more hmore =>
      rw [hskip] at hmore
      cases hmore
      rw [if_neg hc]
      rfl
  | @later before after hbefore hafter =>
    have hcomma : skipBlank (before ++ ',' :: after ++ c :: rest) = ',' :: (after ++ c :: rest) :=
      (congrArg skipBlank (List.append_assoc ..)).trans (skipBlank_gap hbefore (by decide) _)
    have hskip := skipBlank_gap hafter hblank rest
    refine ⟨after, Nat.le_of_lt (length_lt_of_skipBlank hcomma), hafter, ?_⟩
    unfold nextElement
    split
    next hnone =>
      rw [hcomma] at hnone
      cases hnone
    next d more hmore =>
      rw [hcomma] at hmore
      cases hmore
      rw [if_neg (by decide), if_neg (by decide), if_pos rfl, hskip]
      split
      next hnone => cases hnone
      next heq => exact absurd (List.cons.inj heq).1 hc
      next => rfl

theorem eq_of_nextElement_done {h : rest.length < s.length}
    (hnext : nextElement first s = .ok (.done rest h)) :
    ∃ gap, Blank gap ∧ s = gap ++ ']' :: rest := by
  unfold nextElement at hnext
  split at hnext
  next => cases hnext
  next d more hmore =>
    obtain ⟨gap, hgap, hs⟩ := exists_of_skipBlank hmore
    split at hnext
    next hd =>
      cases hnext
      exact ⟨gap, hgap, hd ▸ hs⟩
    next =>
      split at hnext
      · cases hnext
      · split at hnext
        · split at hnext <;> cases hnext
        · cases hnext

/-- Where an element is found, there is a lead before it, whatever blanks are counted in. -/
theorem eq_of_nextElement_item {h : rest.length ≤ s.length}
    (hnext : nextElement first s = .ok (.item rest h)) :
    ∃ lead, s = lead ++ rest ∧ ∀ gap, Blank gap → Lead first (lead ++ gap) := by
  unfold nextElement at hnext
  split at hnext
  next => cases hnext
  next d more hmore =>
    obtain ⟨before, hbefore, hs⟩ := exists_of_skipBlank hmore
    split at hnext
    · cases hnext
    · split at hnext
      next hfirst =>
        cases hnext
        refine ⟨before, hs, fun gap hgap => ?_⟩
        rw [hfirst]
        exact .first fun c hc => (List.mem_append.mp hc).elim (hbefore c) (hgap c)
      next hfirst =>
        split at hnext
        next hd =>
          split at hnext
          · cases hnext
          · cases hnext
          · cases hnext
            refine ⟨before ++ [','], ?_, fun gap hgap => ?_⟩
            · rw [List.append_assoc, ← hd]
              exact hs
            · rw [Bool.not_eq_true] at hfirst
              rw [hfirst, List.append_assoc]
              exact .later hbefore hgap
        next => cases hnext

end

section

variable {α : Type} {element : Reader α} {start : List Char}

theorem taken_readElementsFrom {meaning : Form → Option α} (interprets : Interprets element meaning)
    (forms : List Form) {first : Bool} {text rest : List Char}
    (hspells : Spells (.elements first forms) text) (read : List α) {s : List Char}
    (hs : s = text ++ rest) (h : s.length ≤ start.length) :
    taken (readElementsFrom element start first read s h) =
      (forms.mapM meaning).map fun values => (read.reverse ++ values, rest) := by
  induction forms generalizing first text read s with
  | nil =>
    cases hspells with
    | @noElement _ gap hgap =>
      obtain rfl : s = gap ++ ']' :: rest := hs.trans (List.append_assoc ..)
      obtain ⟨_, hdone⟩ := nextElement_done first hgap rest
      rw [readElementsFrom, hdone]
      simp
  | cons form forms ih =>
    cases hspells with
    | @element _ lead chars more _ _ hlead hform hmore =>
      obtain ⟨c, tail, rfl, hc⟩ := hform.begins
      obtain rfl : s = lead ++ c :: (tail ++ (more ++ rest)) := by
        rw [hs]
        simp only [List.append_assoc, List.cons_append]
      obtain ⟨gap, _, hgap, hitem⟩ := nextElement_lead hlead hc.isBlank (hc.ne_close .square)
        (tail ++ (more ++ rest))
      have hread := interprets hgap hform (hmore.closes_elements rest)
      rw [List.cons_append] at hread
      rw [readElementsFrom, hitem]
      rcases found_of_taken hread with ⟨hnone, e, hfound⟩ | ⟨a, shorter, hsome, hfound⟩
      · simp only [hfound, taken_error, List.mapM_cons, hnone]
        rfl
      · simp only [hfound, List.mapM_cons, hsome]
        rw [ih hmore (a :: read) rfl]
        simp only [List.reverse_cons, List.append_assoc, List.singleton_append]
        cases forms.mapM meaning <;> rfl

theorem exists_of_readElementsFrom (accepts : Accepts element) {first : Bool} {read : List α}
    {s : List Char} {h : s.length ≤ start.length} {r : Read (List α) start}
    (hread : readElementsFrom element start first read s h = .ok r) :
    ∃ forms text, Spells (.elements first forms) text ∧ s = text ++ r.rest := by
  fun_induction readElementsFrom element start first read s h with
  | case1 => cases hread
  | case2 first read s h rest hrest hdone =>
    cases hread
    obtain ⟨gap, hgap, hs⟩ := eq_of_nextElement_done hdone
    exact ⟨[], _, .noElement first hgap, hs.trans (List.append_assoc gap [']'] rest).symm⟩
  | case3 => cases hread
  | case4 first read s h t ht hitem r' helement ih =>
    obtain ⟨lead, hs, hlead⟩ := eq_of_nextElement_item hitem
    obtain ⟨gap, chars, form, hgap, hspells, ht'⟩ := accepts (congrArg taken helement)
    obtain ⟨forms, text, hmore, hrest⟩ := ih hread
    refine ⟨form :: forms, _, .element (hlead gap hgap) hspells hmore, ?_⟩
    rw [hs, ht', hrest]
    simp only [List.append_assoc]

/-- A list is read as what is made of each of its elements. -/
theorem taken_readElements {meaning : Form → Option α} (interprets : Interprets element meaning)
    {forms : List Form} {text : List Char} (h : Spells (.elements true forms) text)
    (rest : List Char) :
    taken (readElements element (text ++ rest)) =
      (forms.mapM meaning).map fun values => (values, rest) :=
  taken_readElementsFrom interprets forms h [] rfl (length_le_self _)

theorem exists_of_readElements (accepts : Accepts element) {s : List Char}
    {got : List α × List Char} (h : taken (readElements element s) = some got) :
    ∃ forms text, Spells (.elements true forms) text ∧ s = text ++ got.2 := by
  obtain ⟨r, hread, rfl⟩ := exists_of_taken h
  exact exists_of_readElementsFrom accepts hread

end

/-! ## Members -/

/-- What a reader of members makes of a form in a given state. -/
def InterpretsMember {σ : Type} (member : σ → String → Reader σ)
    (step : σ → String → Form → Option σ) : Prop :=
  ∀ (state : σ) (key : String) ⦃before after chars rest : List Char⦄ ⦃form : Form⦄,
    Blank before → Blank after → Spells (.value form) chars → Closes rest →
    taken (member state key (before ++ ':' :: (after ++ (chars ++ rest)))) =
      (step state key form).map fun next => (next, rest)

/-- Nothing but a value behind a colon is read as a member. -/
def AcceptsMember {σ : Type} (member : σ → String → Reader σ) : Prop :=
  ∀ ⦃state next : σ⦄ ⦃key : String⦄ ⦃s rest : List Char⦄,
    taken (member state key s) = some (next, rest) →
    ∃ before after chars form, Blank before ∧ Blank after ∧ Spells (.value form) chars ∧
      s = before ++ ':' :: (after ++ (chars ++ rest))

/-- The state that members lead to, one after the other. -/
def collect {σ : Type} (step : σ → String → Form → Option σ) (state : σ)
    (members : List (List Piece × Form)) : Option σ :=
  members.foldlM (fun state member =>
    (Piece.text? member.1).bind fun key => step state key member.2) state

theorem collect_cons {σ : Type} (step : σ → String → Form → Option σ) (state : σ)
    (key : List Piece) (form : Form) (members : List (List Piece × Form)) :
    collect step state ((key, form) :: members) =
      ((Piece.text? key).bind fun key => step state key form).bind fun next =>
        collect step next members := by
  rw [collect, List.foldlM_cons]
  rfl

theorem collect_append {σ : Type} (step : σ → String → Form → Option σ) (state : σ)
    (before after : List (List Piece × Form)) :
    collect step state (before ++ after) =
      (collect step state before).bind fun next => collect step next after := by
  rw [collect, List.foldlM_append]
  rfl

theorem eq_of_nextMember_done {first : Bool} {s rest : List Char} {h : rest.length < s.length}
    (hnext : nextMember first s = .ok (.done rest h)) :
    ∃ gap, Blank gap ∧ s = gap ++ '\x7d' :: rest := by
  unfold nextMember at hnext
  split at hnext
  next => cases hnext
  next d more hmore =>
    obtain ⟨gap, hgap, hs⟩ := exists_of_skipBlank hmore
    split at hnext
    next hd =>
      cases hnext
      exact ⟨gap, hgap, hd ▸ hs⟩
    next =>
      split at hnext
      · split at hnext <;> cases hnext
      · split at hnext
        · split at hnext
          · cases hnext
          · split at hnext <;> cases hnext
        · cases hnext

theorem eq_of_nextMember_item {first : Bool} {s rest : List Char} {h : rest.length ≤ s.length}
    (hnext : nextMember first s = .ok (.item rest h)) :
    ∃ lead, Lead first lead ∧ s = lead ++ '"' :: rest := by
  unfold nextMember at hnext
  split at hnext
  next => cases hnext
  next d more hmore =>
    obtain ⟨before, hbefore, hs⟩ := exists_of_skipBlank hmore
    split at hnext
    · cases hnext
    · split at hnext
      next hfirst =>
        split at hnext
        next hd =>
          cases hnext
          rw [hfirst]
          exact ⟨before, .first hbefore, hd ▸ hs⟩
        next => cases hnext
      next hfirst =>
        rw [Bool.not_eq_true] at hfirst
        split at hnext
        next hcomma =>
          split at hnext
          next => cases hnext
          next q tail htail =>
            obtain ⟨after, hafter, hrest⟩ := exists_of_skipBlank htail
            split at hnext
            next hq =>
              cases hnext
              rw [hfirst]
              refine ⟨_, .later hbefore hafter, ?_⟩
              rw [List.append_assoc, List.cons_append, ← hq, ← hrest, ← hcomma]
              exact hs
            next => cases hnext
        next => cases hnext

section

variable {σ : Type} {member : σ → String → Reader σ} {start : List Char}

theorem taken_readMembersFrom {step : σ → String → Form → Option σ}
    (interprets : InterpretsMember member step) (members : List (List Piece × Form))
    {first : Bool} {text rest : List Char} (hspells : Spells (.members first members) text)
    (state : σ) {s : List Char} (hs : s = text ++ rest) (h : s.length ≤ start.length) :
    taken (readMembersFrom member start first state s h) =
      (collect step state members).map fun final => (final, rest) := by
  induction members generalizing first text state s with
  | nil =>
    cases hspells with
    | @noMember _ gap hgap =>
      obtain rfl : s = gap ++ '\x7d' :: rest := hs.trans (List.append_assoc ..)
      obtain ⟨_, hdone⟩ := nextMember_done first hgap rest
      rw [readMembersFrom, hdone]
      rfl
  | cons head members ih =>
    cases hspells with
    | @member _ lead before after chars more key form _ hlead hbefore hafter hform hmore =>
      obtain rfl : s = lead ++ '"' :: (piecesChars key ++ '"' ::
          (before ++ ':' :: (after ++ (chars ++ (more ++ rest))))) := by
        rw [hs]
        simp only [List.append_assoc, List.cons_append]
      obtain ⟨_, hitem⟩ := nextMember_lead hlead (piecesChars key ++ '"' ::
        (before ++ ':' :: (after ++ (chars ++ (more ++ rest)))))
      have hkey := taken_readText key (before ++ ':' :: (after ++ (chars ++ (more ++ rest))))
      rw [readMembersFrom, hitem, collect_cons]
      -- the key is read first, and then the member
      rcases found_of_taken hkey with ⟨hnone, e, hfound⟩ | ⟨name, _, hsome, hfound⟩
      · simp only [hfound, taken_error, hnone]
        rfl
      · have hread := interprets state name hbefore hafter hform (hmore.closes_members rest)
        rcases found_of_taken hread with ⟨hnone', e, hfound'⟩ | ⟨next, _, hsome', hfound'⟩
        · simp only [hfound, hfound', taken_error, hsome, Option.bind_some, hnone']
          rfl
        · simp only [hfound, hfound', hsome, Option.bind_some, hsome']
          exact ih hmore next rfl _

theorem exists_of_readMembersFrom (accepts : AcceptsMember member) {first : Bool} {state : σ}
    {s : List Char} {h : s.length ≤ start.length} {r : Read σ start}
    (hread : readMembersFrom member start first state s h = .ok r) :
    ∃ members text, Spells (.members first members) text ∧ s = text ++ r.rest := by
  fun_induction readMembersFrom member start first state s h with
  | case1 => cases hread
  | case2 first state s h rest hrest hdone =>
    cases hread
    obtain ⟨gap, hgap, hs⟩ := eq_of_nextMember_done hdone
    exact ⟨[], _, .noMember first hgap, hs.trans (List.append_assoc gap ['\x7d'] rest).symm⟩
  | case3 => cases hread
  | case4 => cases hread
  | case5 first state s h t ht hitem key hkey r' hmember ih =>
    obtain ⟨lead, hlead, hs⟩ := eq_of_nextMember_item hitem
    obtain ⟨pieces, ht'⟩ := exists_of_readText (congrArg taken hkey)
    obtain ⟨before, after, chars, form, hbefore, hafter, hspells, hrest⟩ :=
      accepts (congrArg taken hmember)
    obtain ⟨members, text, hmore, hleft⟩ := ih hread
    refine ⟨(pieces, form) :: members, _, .member hlead hbefore hafter hspells hmore, ?_⟩
    rw [hs, ht', hrest, hleft]
    simp only [List.append_assoc, List.cons_append]

/-- An object is read as what its members lead to. -/
theorem taken_readMembers {step : σ → String → Form → Option σ}
    (interprets : InterpretsMember member step) (empty : σ) {members : List (List Piece × Form)}
    {text : List Char} (h : Spells (.members true members) text) (rest : List Char) :
    taken (readMembers member empty (text ++ rest)) =
      (collect step empty members).map fun final => (final, rest) :=
  taken_readMembersFrom interprets members h empty rfl (length_le_self _)

theorem exists_of_readMembers (accepts : AcceptsMember member) {empty : σ} {s : List Char}
    {got : σ × List Char} (h : taken (readMembers member empty s) = some got) :
    ∃ members text, Spells (.members true members) text ∧ s = text ++ got.2 := by
  obtain ⟨r, hread, rfl⟩ := exists_of_taken h
  exact exists_of_readMembersFrom accepts hread

end

section

variable {α σ : Type} {read : Reader α}

/-- Members may all be read as one kind of value. -/
theorem Interprets.member {meaning : Form → Option α} (interprets : Interprets read meaning)
    (put : σ → String → α → σ) :
    InterpretsMember (fun state key => (Json.afterColon read).map (put state key))
      fun state key form => (meaning form).map (put state key) := by
  intro state key before after chars rest form hbefore hafter hspells hrest
  rw [taken_readerMap, interprets.afterColon hbefore hafter hspells hrest]
  simp only [Option.map_map]
  rfl

theorem Accepts.member (accepts : Accepts read) (put : σ → String → α → σ) :
    AcceptsMember fun state key => (Json.afterColon read).map (put state key) := by
  intro state next key s rest h
  rw [taken_readerMap] at h
  obtain ⟨got, hread, heq⟩ := Option.map_eq_some_iff.mp h
  cases heq
  exact accepts.afterColon hread

end

/-! ## Values -/

/-- The value of a form in which brackets nest at most so deep, if its strings and its numbers have
values. -/
def Form.value? : Nat → Form → Option Value
  | room + 1, .array forms => (forms.mapM (Form.value? room)).map .array
  | room + 1, .object members =>
    (collect (fun state key form => (Form.value? room form).map fun v => insertMember key v state)
      [] members).map .object
  | _, form => form.scalar?

section

variable {c : Char} {more : List Char} {form : Form}

theorem Form.value?_scalar (room : Nat) (hc : form.BeginsWith c) (hopen : ¬(c = '[' ∨ c = '\x7b')) :
    form.value? room = form.scalar? := by
  cases form with
  | array forms => exact absurd (.inl hc) hopen
  | object members => exact absurd (.inr hc) hopen
  | _ => cases room <;> rfl

/-- What does not begin with a bracket that opens is no array and no object. -/
theorem Spells.cases_open (h : Spells (.value form) (c :: more)) :
    (∃ forms, form = .array forms ∧ c = '[' ∧ Spells (.elements true forms) more) ∨
      (∃ members, form = .object members ∧ c = '\x7b' ∧ Spells (.members true members) more) ∨
      ¬(c = '[' ∨ c = '\x7b') := by
  cases h with
  | array h => exact .inl ⟨_, rfl, rfl, h⟩
  | object h => exact .inr (.inl ⟨_, rfl, rfl, h⟩)
  | number spelt =>
    obtain ⟨c', more', htext, hc⟩ := spelt.text_cons
    cases htext
    obtain ⟨_, _, _, _, hsquare, hcurly⟩ := ne_of_numeral hc
    exact .inr (.inr (not_or.mpr ⟨hsquare, hcurly⟩))
  | _ => exact .inr (.inr (by decide))

/-- A value is read as that of its form, however it is spelt. -/
theorem interprets_readValue (room : Nat) : Interprets (readValue room) (Form.value? room) := by
  induction room with
  | zero =>
    refine interprets_afterBlank fun {c more rest form} h hc hrest => ?_
    rcases h.cases_open with ⟨forms, rfl, rfl, _⟩ | ⟨members, rfl, rfl, _⟩ | hopen
    · rfl
    · rfl
    · rw [if_neg hopen, Form.value?_scalar 0 hc hopen]
      exact taken_readScalar h hrest
  | succ room ih =>
    refine interprets_afterBlank fun {c more rest form} h hc hrest => ?_
    rcases h.cases_open with ⟨forms, rfl, rfl, hinside⟩ | ⟨members, rfl, rfl, hinside⟩ | hopen
    · show taken (behindChar (Reader.map Value.array (readElements (readValue room))) '[' _) = _
      rw [taken_behindChar, taken_readerMap, taken_readElements ih hinside]
      simp only [Form.value?, Option.map_map]
      rfl
    · show taken (behindChar (Reader.map Value.object (readMembers _ [])) '\x7b' _) = _
      rw [taken_behindChar, taken_readerMap,
        taken_readMembers (ih.member fun state key v => insertMember key v state) [] hinside]
      simp only [Form.value?, Option.map_map]
      rfl
    · rw [if_neg hopen, Form.value?_scalar (room + 1) hc hopen]
      exact taken_readScalar h hrest

/-- And nothing but a value is read as one. -/
theorem accepts_readValue (room : Nat) : Accepts (readValue room) := by
  induction room with
  | zero =>
    refine accepts_afterBlank fun {c s rest a} _ h => ?_
    split at h
    · cases h
    · exact exists_of_readScalar h
  | succ room ih =>
    refine accepts_afterBlank fun {c s rest a} _ h => ?_
    split at h
    next hopen =>
      simp only at h
      split at h
      next hc =>
        rw [taken_behindChar, taken_readerMap] at h
        obtain ⟨got, hread, heq⟩ := Option.map_eq_some_iff.mp h
        cases heq
        obtain ⟨forms, text, hspells, hs⟩ := exists_of_readElements ih hread
        exact ⟨c :: text, .array forms, hc ▸ .array hspells, congrArg (c :: ·) hs⟩
      next hc =>
        rw [taken_behindChar, taken_readerMap] at h
        obtain ⟨got, hread, heq⟩ := Option.map_eq_some_iff.mp h
        cases heq
        obtain ⟨members, text, hspells, hs⟩ := exists_of_readMembers (ih.member _) hread
        exact ⟨c :: text, .object members, hopen.resolve_left hc ▸ .object hspells,
          congrArg (c :: ·) hs⟩
    next => exact exists_of_readScalar h

end

/-! ## What has a value -/

namespace Form

/-- Whether all strings and numbers of a form have values and brackets nest at most so deep. -/
def isReadable : Nat → Form → Bool
  | _, .null => true
  | _, .boolean _ => true
  | _, .number n => n.number?.isSome
  | _, .string pieces => (Piece.text? pieces).isSome
  | 0, .array _ => false
  | 0, .object _ => false
  | room + 1, .array forms => forms.all (isReadable room)
  | room + 1, .object members =>
    members.all fun member => (Piece.text? member.1).isSome && isReadable room member.2

end Form

theorem isSome_mapM {α β : Type} (f : α → Option β) (as : List α) :
    (as.mapM f).isSome = as.all fun a => (f a).isSome := by
  induction as with
  | nil => rfl
  | cons a as ih =>
    rw [List.mapM_cons, List.all_cons, ← ih]
    cases f a with
    | none => rfl
    | some b => cases as.mapM f <;> rfl

/-- Members that may always be put into a state are collected if each of them can be read. -/
theorem isSome_collect {σ α : Type} (meaning : Form → Option α) (put : σ → String → α → σ)
    (state : σ) (members : List (List Piece × Form)) :
    (collect (fun state key form => (meaning form).map (put state key)) state members).isSome =
      members.all fun member => (Piece.text? member.1).isSome && (meaning member.2).isSome := by
  induction members generalizing state with
  | nil => rfl
  | cons head members ih =>
    obtain ⟨key, form⟩ := head
    rw [collect_cons, List.all_cons]
    cases Piece.text? key with
    | none => rfl
    | some name =>
      cases hform : meaning form with
      | none => simp
      | some a =>
        simp only [Option.bind_some, Option.map_some, Option.isSome_some, Bool.true_and]
        exact ih _

theorem isSome_value? (room : Nat) (form : Form) :
    (form.value? room).isSome = form.isReadable room := by
  induction room generalizing form with
  | zero => cases form <;> simp [Form.value?, Form.scalar?, Form.isReadable]
  | succ room ih =>
    cases form with
    | array forms =>
      simp only [Form.value?, Form.isReadable, Option.isSome_map, isSome_mapM, ih]
    | object members =>
      simp only [Form.value?, Form.isReadable, Option.isSome_map]
      rw [isSome_collect]
      simp only [ih]
    | _ => simp [Form.value?, Form.scalar?, Form.isReadable]

end ScanClient.Json
