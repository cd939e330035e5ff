import ScanClient.Proofs.Grammar

/-!
# Skipping values

A value is skipped whatever it is, as deep as its brackets may nest, and whatever its strings and
numbers stand for; nothing is skipped but a value. The open brackets are kept in a list. What is
spelt leads from one state of this list to the next, and the other way round the list tells what is
still to come, one bracket after the other.
-/

namespace ScanClient.Json

/-! ## Brackets -/

theorem ofChar?_eq_none {c : Char} (hsquare : c ≠ '[') (hcurly : c ≠ '\x7b') :
    Bracket.ofChar? c = none := by
  unfold Bracket.ofChar?
  split
  · exact absurd rfl hsquare
  · exact absurd rfl hcurly
  · rfl

/-! ## Steps -/

/-- Where skipping has come to: the open brackets, what is expected, and the text ahead. -/
structure Skipping where
  unclosed : List Bracket
  place : Place
  ahead : List Char

/-- Skipping goes on from one point as it goes on from another. -/
def Skipping.Leads (a b : Skipping) : Prop :=
  ∀ start h, ∃ h', skipInside start a.unclosed a.place a.ahead h =
    skipInside start b.unclosed b.place b.ahead h'

namespace Skipping

theorem Leads.trans {a b c : Skipping} (hab : a.Leads b) (hbc : b.Leads c) : a.Leads c := by
  intro start h
  obtain ⟨h', hab⟩ := hab start h
  obtain ⟨h'', hbc⟩ := hbc start h'
  exact ⟨h'', hab.trans hbc⟩

theorem Leads.of {unclosed unclosed' : List Bracket} {place place' : Place} {s s' : List Char}
    (hle : s'.length ≤ s.length)
    (hsame : ∀ start h h', skipInside start unclosed place s h =
      skipInside start unclosed' place' s' h') :
    Leads ⟨unclosed, place, s⟩ ⟨unclosed', place', s'⟩ :=
  fun start h => ⟨Nat.le_trans hle h, hsame start h _⟩

section Steps

variable {bracket inner : Bracket} {outer : List Bracket} {gap rest s : List Char} {c : Char}

theorem leads_bracket (hgap : Blank gap) (hblank : isBlank c = false)
    (hc : Bracket.ofChar? c = some inner) :
    Leads ⟨bracket :: outer, .value, gap ++ c :: rest⟩
      ⟨inner :: bracket :: outer, .next false, rest⟩ := by
  have hskip := skipBlank_gap hgap hblank rest
  refine .of (Nat.le_of_lt (length_lt_of_skipBlank hskip)) fun start h _ => ?_
  conv_lhs => rw [skipInside]
  split
  next hnone =>
    rw [hskip] at hnone
    cases hnone
  next d more hmore =>
    rw [hskip] at hmore
    cases hmore
    simp only [hc]

theorem leads_scalar (hgap : Blank gap) (hblank : isBlank c = false)
    (hc : Bracket.ofChar? c = none) (hscalar : taken (skipScalar c s) = some ((), rest)) :
    Leads ⟨bracket :: outer, .value, gap ++ c :: s⟩ ⟨bracket :: outer, .next true, rest⟩ := by
  have hskip := skipBlank_gap hgap hblank s
  obtain ⟨shorter, hread⟩ := gives_iff.mpr hscalar
  have hle := Nat.le_trans (Nat.le_of_lt_succ shorter) (Nat.le_of_lt (length_lt_of_skipBlank hskip))
  refine .of hle fun start h _ => ?_
  conv_lhs => rw [skipInside]
  split
  next hnone =>
    rw [hskip] at hnone
    cases hnone
  next d more hmore =>
    rw [hskip] at hmore
    cases hmore
    simp only [hc, hread]

theorem leads_element :
    Leads ⟨.square :: outer, .element, s⟩ ⟨.square :: outer, .value, s⟩ := by
  refine .of (length_le_self s) fun start h _ => ?_
  conv_lhs => rw [skipInside]

theorem leads_key (outer : List Bracket) (hkey : taken (skipKey s) = some ((), rest)) :
    Leads ⟨.curly :: outer, .element, s⟩ ⟨.curly :: outer, .value, rest⟩ := by
  obtain ⟨shorter, hread⟩ := gives_iff.mpr hkey
  refine .of (Nat.le_of_lt shorter) fun start h _ => ?_
  conv_lhs => rw [skipInside]
  simp only [hread]

/-- What becomes of brackets between their items, by the first character there. -/
theorem skipInside_next {start more : List Char} {comma : Bool} (hskip : skipBlank s = c :: more)
    (h : s.length ≤ start.length) (h' : more.length ≤ start.length) :
    skipInside start (bracket :: outer) (.next comma) s h =
      if comma ∧ c = ',' then skipInside start (bracket :: outer) .element more h'
      else if c = bracket.close then skipInside start outer (.next true) more h'
      else if comma then .error (.ahead bracket.noComma (c :: more))
      else skipInside start (bracket :: outer) .element s h := by
  conv_lhs => rw [skipInside]
  split
  next hnone =>
    rw [hskip] at hnone
    cases hnone
  next d tail htail =>
    rw [hskip] at htail
    cases htail
    rfl

theorem leads_comma (hgap : Blank gap) :
    Leads ⟨bracket :: outer, .next true, gap ++ ',' :: rest⟩
      ⟨bracket :: outer, .element, rest⟩ := by
  have hskip := skipBlank_gap hgap (c := ',') (by decide) rest
  refine .of (Nat.le_of_lt (length_lt_of_skipBlank hskip)) fun start h h' => ?_
  rw [skipInside_next hskip h h', if_pos ⟨rfl, rfl⟩]

theorem leads_close (comma : Bool) (hgap : Blank gap) :
    Leads ⟨bracket :: outer, .next comma, gap ++ bracket.close :: rest⟩
      ⟨outer, .next true, rest⟩ := by
  have hclose : isBlank bracket.close = false ∧ bracket.close ≠ ',' := by
    cases bracket <;> decide
  have hskip := skipBlank_gap hgap hclose.1 rest
  refine .of (Nat.le_of_lt (length_lt_of_skipBlank hskip)) fun start h h' => ?_
  rw [skipInside_next hskip h h', if_neg (fun h => hclose.2 h.2), if_pos rfl]

/-- Nothing but an element, or the bracket that closes, can follow a bracket that opens. -/
theorem leads_first (hgap : Blank gap) (hblank : isBlank c = false) (hc : c ≠ bracket.close) :
    Leads ⟨bracket :: outer, .next false, gap ++ c :: rest⟩
      ⟨bracket :: outer, .element, gap ++ c :: rest⟩ := by
  have hskip := skipBlank_gap hgap hblank rest
  have hle := Nat.le_of_lt (length_lt_of_skipBlank hskip)
  refine .of (length_le_self _) fun start h _ => ?_
  rw [skipInside_next hskip h (Nat.le_trans hle h), if_neg (by simp), if_neg hc, if_neg (by simp)]

/-- Before an item skipping comes to its first blank, past a comma if there must be one. -/
theorem leads_lead (bracket : Bracket) (outer : List Bracket) {first : Bool} {lead : List Char}
    (hlead : Lead first lead) (hblank : isBlank c = false) (hc : c ≠ bracket.close)
    (rest : List Char) : ∃ gap, Blank gap ∧ Leads ⟨bracket :: outer, .next !first, lead ++ c :: rest⟩
      ⟨bracket :: outer, .element, gap ++ c :: rest⟩ := by
  cases hlead with
  | first hgap => exact ⟨lead, hgap, leads_first hgap hblank hc⟩
  | @later before after hbefore hafter =>
    refine ⟨after, hafter, ?_⟩
    rw [List.append_assoc]
    exact leads_comma hbefore

end Steps

/-! ## What is skipped -/

theorem taken_skipKey {gap before : List Char} (hgap : Blank gap) (hbefore : Blank before)
    (key : List Piece) (rest : List Char) :
    taken (skipKey (gap ++ '"' :: (piecesChars key ++ '"' :: (before ++ ':' :: rest)))) =
      some ((), rest) := by
  have hname : taken (afterBlank .endInObject (fun c rest =>
      if c = '"' then behindChar skipText c rest
      else .error (.ahead .keyNotString (c :: rest)))
      (gap ++ '"' :: (piecesChars key ++ '"' :: (before ++ ':' :: rest)))) =
      some ((), before ++ ':' :: rest) := by
    rw [taken_afterBlank hgap (by decide), if_pos rfl, taken_behindChar, taken_skipText]
  obtain ⟨shorter, hread⟩ := gives_iff.mpr hname
  simp only [skipKey, hread]
  rw [taken_follow ⟨(), before ++ ':' :: rest, shorter⟩ (readColon _)]
  exact taken_readColon hbefore rest

/-- A phrase is skipped, whatever brackets are open around it. -/
def Skips : Phrase → List Char → Prop
  | .value _, text => ∀ bracket outer gap rest, Blank gap → Closes rest →
      Leads ⟨bracket :: outer, .value, gap ++ (text ++ rest)⟩ ⟨bracket :: outer, .next true, rest⟩
  | .elements first _, text => ∀ outer rest,
      Leads ⟨.square :: outer, .next !first, text ++ rest⟩ ⟨outer, .next true, rest⟩
  | .members first _, text => ∀ outer rest,
      Leads ⟨.curly :: outer, .next !first, text ++ rest⟩ ⟨outer, .next true, rest⟩

theorem skips_scalar {form : Form} {c : Char} {more : List Char}
    (h : Spells (.value form) (c :: more)) (hc : form.BeginsWith c)
    (hscalar : Bracket.ofChar? c = none) : Skips (.value form) (c :: more) := by
  intro bracket outer gap rest hgap hrest
  exact leads_scalar hgap hc.isBlank hscalar (taken_skipScalar h hscalar hrest)

/-- Whatever phrase is spelt is skipped. -/
theorem skips_of_spells {phrase : Phrase} {text : List Char} (h : Spells phrase text) :
    Skips phrase text := by
  induction h with
  | null => exact skips_scalar .null rfl rfl
  | isTrue => exact skips_scalar .isTrue rfl rfl
  | isFalse => exact skips_scalar .isFalse rfl rfl
  | number spelt =>
    obtain ⟨c, more, rfl, hc⟩ := spelt.text_cons
    obtain ⟨_, _, _, _, hsquare, hcurly⟩ := ne_of_numeral hc
    exact skips_scalar (.number spelt) hc (ofChar?_eq_none hsquare hcurly)
  | string pieces => exact skips_scalar (.string pieces) rfl rfl
  | array h ih =>
    intro bracket outer gap rest hgap _
    exact (leads_bracket hgap (by decide) rfl).trans (ih (bracket :: outer) rest)
  | object h ih =>
    intro bracket outer gap rest hgap _
    exact (leads_bracket hgap (by decide) rfl).trans (ih (bracket :: outer) rest)
  | noElement first hgap =>
    intro outer rest
    rw [List.append_assoc]
    exact leads_close _ hgap
  | @element first lead text more form forms hlead h hmore ihvalue ihmore =>
    intro outer rest
    obtain ⟨c, chars, rfl, hc⟩ := h.begins
    obtain ⟨gap, hgap, hitem⟩ := leads_lead .square outer hlead hc.isBlank (hc.ne_close .square)
      (chars ++ (more ++ rest))
    have hvalue := ihvalue .square outer gap (more ++ rest) hgap (hmore.closes_elements rest)
    simp only [List.append_assoc, List.cons_append] at hitem hvalue ⊢
    exact hitem.trans (leads_element.trans (hvalue.trans (ihmore outer rest)))
  | noMember first hgap =>
    intro outer rest
    rw [List.append_assoc]
    exact leads_close _ hgap
  | @member first lead before after text more key form members hlead hbefore hafter h hmore
      ihvalue ihmore =>
    intro outer rest
    obtain ⟨gap, hgap, hitem⟩ := leads_lead .curly outer (c := '"') hlead (by decide) (by decide)
      (piecesChars key ++ '"' :: (before ++ ':' :: (after ++ (text ++ (more ++ rest)))))
    have hkey := leads_key outer
      (taken_skipKey hgap hbefore key (after ++ (text ++ (more ++ rest))))
    have hvalue := ihvalue .curly outer after (more ++ rest) hafter (hmore.closes_members rest)
    simp only [List.append_assoc, List.cons_append] at hitem ⊢
    exact hitem.trans (hkey.trans (hvalue.trans (ihmore outer rest)))

end Skipping

/-- Whatever is spelt is skipped. -/
theorem interprets_skipValue : Interprets skipValue fun _ => some () := by
  refine interprets_afterBlank fun {c more rest form} h hc hrest => ?_
  have hscalar : Bracket.ofChar? c = none →
      taken (skipScalar c (more ++ rest)) = some ((), rest) :=
    fun hnone => taken_skipScalar h hnone hrest
  have hinside : ∀ {bracket : Bracket},
      Skipping.Leads ⟨[bracket], .next false, more ++ rest⟩ ⟨[], .next true, rest⟩ →
      taken ((skipInside (more ++ rest) [bracket] (.next false) (more ++ rest)
        (length_le_self _)).map (·.asRead () c)) = some ((), rest) := by
    intro bracket h
    obtain ⟨h', hread⟩ := h (more ++ rest) (length_le_self _)
    rw [hread, skipInside]
    rfl
  cases h with
  | array h => exact hinside (Skipping.skips_of_spells h [] rest)
  | object h => exact hinside (Skipping.skips_of_spells h [] rest)
  | number spelt =>
    obtain ⟨_, _, _, _, hsquare, hcurly⟩ := ne_of_numeral hc
    have hnone := ofChar?_eq_none hsquare hcurly
    rw [hnone]
    exact hscalar hnone
  | _ => exact hscalar rfl

/-! ## Nothing else is skipped -/

/-- The text behind a bracket, or behind an item, up to the bracket that closes. -/
def Bracket.Spelt : Bracket → Bool → List Char → Prop
  | .square, first, text => ∃ forms, Spells (.elements first forms) text
  | .curly, first, text => ∃ members, Spells (.members first members) text

/-- The text behind a place inside brackets, up to the bracket that closes. -/
def Bracket.Remains (bracket : Bracket) : Place → List Char → Prop
  | .value, text => ∃ gap chars form more, Blank gap ∧ Spells (.value form) chars ∧
      bracket.Spelt false more ∧ text = gap ++ (chars ++ more)
  | .element, text => bracket.Spelt true text ∧
      ∀ before, Blank before → bracket.Spelt false (before ++ ',' :: text)
  | .next comma, text => bracket.Spelt (!comma) text

/-- What closes the brackets, one after the other, lies between two texts. -/
def Unwinds : List Bracket → Place → List Char → List Char → Prop
  | [], _, s, t => s = t
  | bracket :: outer, place, s, t => ∃ text mid, bracket.Remains place text ∧ s = text ++ mid ∧
      Unwinds outer (.next true) mid t

theorem Bracket.spelt_close (bracket : Bracket) (first : Bool) {gap : List Char}
    (hgap : Blank gap) : bracket.Spelt first (gap ++ [bracket.close]) := by
  cases bracket with
  | square => exact ⟨[], .noElement first hgap⟩
  | curly => exact ⟨[], .noMember first hgap⟩

/-- A bracket and what is behind it up to its end make a value. -/
theorem Bracket.Spelt.spells {bracket : Bracket} {c : Char} {text : List Char}
    (h : bracket.Spelt true text) (hc : Bracket.ofChar? c = some bracket) :
    ∃ form, Spells (.value form) (c :: text) := by
  unfold ofChar? at hc
  split at hc
  · cases hc
    obtain ⟨forms, h⟩ := h
    exact ⟨_, .array h⟩
  · cases hc
    obtain ⟨members, h⟩ := h
    exact ⟨_, .object h⟩
  · cases hc

theorem Bracket.remains_element {text : List Char} (h : Bracket.square.Remains .value text) :
    Bracket.square.Remains .element text := by
  obtain ⟨gap, chars, form, more, hgap, hspells, ⟨forms, hmore⟩, rfl⟩ := h
  refine ⟨⟨form :: forms, .element (.first hgap) hspells hmore⟩, fun before hbefore => ?_⟩
  refine ⟨form :: forms, ?_⟩
  have hlater := Spells.element (.later hbefore hgap) hspells hmore
  rw [List.append_assoc] at hlater
  exact hlater

theorem Bracket.remains_member {text gap before : List Char} (hgap : Blank gap)
    (hbefore : Blank before) (key : List Piece) (h : Bracket.curly.Remains .value text) :
    Bracket.curly.Remains .element
      (gap ++ '"' :: (piecesChars key ++ '"' :: (before ++ ':' :: text))) := by
  obtain ⟨after, chars, form, more, hafter, hspells, ⟨members, hmore⟩, rfl⟩ := h
  refine ⟨⟨_, .member (.first hgap) hbefore hafter hspells hmore⟩, fun lead hlead => ?_⟩
  refine ⟨(key, form) :: members, ?_⟩
  have hlater : Spells (.members false ((key, form) :: members)) _ :=
    .member (.later hlead hgap) hbefore hafter hspells hmore
  rw [List.append_assoc] at hlater
  exact hlater

theorem exists_of_skipKey {s rest : List Char} (h : taken (skipKey s) = some ((), rest)) :
    ∃ gap key before, Blank gap ∧ Blank before ∧
      s = gap ++ '"' :: (piecesChars key ++ '"' :: (before ++ ':' :: rest)) := by
  unfold skipKey at h
  split at h
  next => cases h
  next name hname =>
    rw [taken_follow] at h
    obtain ⟨before, hbefore, hrest⟩ := exists_of_readColon h
    obtain ⟨gap, c, more, hs, hgap, _, hread⟩ := exists_of_afterBlank (congrArg taken hname)
    split at hread
    next hc =>
      rw [taken_behindChar] at hread
      obtain ⟨key, hkey⟩ := exists_of_skipText hread
      refine ⟨gap, key, before, hgap, hbefore, ?_⟩
      rw [hs, hc, hkey, hrest]
    next => cases hread

theorem unwinds_of_skipInside {start : List Char} {unclosed : List Bracket} {place : Place}
    {s : List Char} {h : s.length ≤ start.length} {t : Tail start}
    (hskip : skipInside start unclosed place s h = .ok t) :
    Unwinds unclosed place s t.rest := by
  fun_induction skipInside start unclosed place s h with
  | case1 =>
    cases hskip
    rfl
  | case2 => cases hskip
  | case3 s h bracket outer c rest hs _ inner hinner ih =>
    -- the brackets that open are read before what follows them
    obtain ⟨gap, hgap, rfl⟩ := exists_of_skipBlank hs
    obtain ⟨text, mid, hinside, rfl, more, mid', hmore, rfl, hunwinds⟩ := ih hskip
    obtain ⟨form, hspells⟩ := Bracket.Spelt.spells hinside hinner
    refine ⟨gap ++ (c :: text ++ more), mid', ⟨gap, _, form, more, hgap, hspells, hmore, rfl⟩, ?_,
      hunwinds⟩
    simp only [List.append_assoc, List.cons_append]
  | case4 => cases hskip
  | case5 s h bracket outer c rest hs _ hc r hscalar ih =>
    obtain ⟨gap, hgap, rfl⟩ := exists_of_skipBlank hs
    obtain ⟨chars, form, hspells, hrest⟩ := exists_of_skipScalar (congrArg taken hscalar)
    obtain ⟨more, mid, hmore, hleft, hunwinds⟩ := ih hskip
    refine ⟨gap ++ (chars ++ more), mid, ⟨gap, chars, form, more, hgap, hspells, hmore, rfl⟩, ?_,
      hunwinds⟩
    rw [hrest, hleft]
    simp only [List.append_assoc]
  | case6 s h outer ih =>
    obtain ⟨text, mid, hvalue, hs, hunwinds⟩ := ih hskip
    exact ⟨text, mid, Bracket.remains_element hvalue, hs, hunwinds⟩
  | case7 => cases hskip
  | case8 s h outer key hkey ih =>
    obtain ⟨gap, pieces, before, hgap, hbefore, hs⟩ := exists_of_skipKey (congrArg taken hkey)
    obtain ⟨text, mid, hvalue, hrest, hunwinds⟩ := ih hskip
    refine ⟨_, mid, Bracket.remains_member hgap hbefore pieces hvalue, ?_, hunwinds⟩
    rw [hs, hrest]
    simp only [List.append_assoc, List.cons_append]
  | case9 => cases hskip
  | case10 s h bracket outer comma c rest hs _ hcomma ih =>
    obtain ⟨gap, hgap, rfl⟩ := exists_of_skipBlank hs
    obtain ⟨rfl, rfl⟩ := hcomma
    obtain ⟨text, mid, helement, rfl, hunwinds⟩ := ih hskip
    refine ⟨gap ++ ',' :: text, mid, helement.2 gap hgap, ?_, hunwinds⟩
    simp only [List.append_assoc, List.cons_append]
  | case11 s h bracket outer comma rest hs _ _ ih =>
    obtain ⟨gap, hgap, rfl⟩ := exists_of_skipBlank hs
    refine ⟨gap ++ [bracket.close], rest, bracket.spelt_close _ hgap, ?_, ih hskip⟩
    simp only [List.append_assoc, List.singleton_append]
  | case12 => cases hskip
  | case13 s h bracket outer comma c rest hs _ _ _ hcomma ih =>
    obtain ⟨text, mid, helement, hs, hunwinds⟩ := ih hskip
    rw [Bool.not_eq_true] at hcomma
    rw [hcomma]
    exact ⟨text, mid, helement.1, hs, hunwinds⟩

/-- Nothing is skipped that is not spelt. -/
theorem accepts_skipValue : Accepts skipValue := by
  refine accepts_afterBlank fun {c s rest a} _ h => ?_
  split at h
  next bracket hbracket =>
    cases hinside : skipInside s [bracket] (.next false) s (length_le_self s) with
    | error e =>
      rw [hinside] at h
      cases h
    | ok t =>
      rw [hinside] at h
      obtain ⟨text, mid, hspelt, hs, hmid⟩ := unwinds_of_skipInside hinside
      obtain ⟨form, hspells⟩ := Bracket.Spelt.spells hspelt hbracket
      cases h
      cases hmid
      exact ⟨c :: text, form, hspells, congrArg (c :: ·) hs⟩
  next => exact exists_of_skipScalar h

end ScanClient.Json
