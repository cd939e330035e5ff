import ScanClient.Json.Record
import ScanClient.Json.Writer

/-!
# Reading what was written

A reader keeps a proof that the text left is shorter, which only its termination needs. What a
reader gives is stated here without it, and for each way to put readers together there is a lemma on
what the whole gives. Words and strings are then read as they were written, whatever follows them.
-/

namespace ScanClient.Json

/-- A value was read, and a text is left. -/
def Gives {α : Type} {s : List Char} (found : Except Fault (Read α s)) (value : α)
    (rest : List Char) : Prop :=
  ∃ shorter, found = .ok ⟨value, rest, shorter⟩

/-- Nothing but blanks. -/
def Blank (s : List Char) : Prop := ∀ c ∈ s, isBlank c = true

theorem blank_nil : Blank [] := fun _ h => nomatch h

theorem skipBlank_append {gap : List Char} (hgap : Blank gap) (s : List Char) :
    skipBlank (gap ++ s) = skipBlank s :=
  List.dropWhile_append_of_pos hgap

theorem skipBlank_cons {c : Char} (h : isBlank c = false) (rest : List Char) :
    skipBlank (c :: rest) = c :: rest := by
  rw [skipBlank, List.dropWhile_cons, h]
  rfl

/-- A text behind blanks, where it does not begin with one. -/
theorem skipBlank_gap {gap : List Char} (hgap : Blank gap) {c : Char} (h : isBlank c = false)
    (rest : List Char) : skipBlank (gap ++ c :: rest) = c :: rest :=
  (skipBlank_append hgap _).trans (skipBlank_cons h rest)

section Combinators

variable {α β : Type} {s t : List Char} {value : α} {rest : List Char}

theorem Gives.map {found : Except Fault (Read α s)} (h : Gives found value rest) (f : α → β) :
    Gives (found.map (·.map f)) (f value) rest := by
  obtain ⟨shorter, rfl⟩ := h
  exact ⟨shorter, rfl⟩

theorem Gives.reader {read : Reader α} (h : Gives (read s) value rest) (f : α → β) :
    Gives (Reader.map f read s) (f value) rest :=
  h.map f

theorem Gives.behind {found : Except Fault (Read α s)} (h : Gives found value rest) (c : Char) :
    Gives (found.map (·.behind c)) value rest := by
  obtain ⟨shorter, rfl⟩ := h
  exact ⟨Nat.lt_succ_of_lt shorter, rfl⟩

theorem Gives.within {found : Except Fault (Read α s)} (h : Gives found value rest)
    (hle : s.length ≤ t.length) : Gives (found.map (·.within hle)) value rest := by
  obtain ⟨shorter, rfl⟩ := h
  exact ⟨Nat.lt_of_lt_of_le shorter hle, rfl⟩

/-- Blanks before what is read do not matter. -/
theorem Gives.afterBlank {atEnd : Cause}
    {read : (c : Char) → (rest : List Char) → Except Fault (Read α (c :: rest))} {c : Char}
    {s : List Char} (h : Gives (read c s) value rest) (hc : isBlank c = false) {gap : List Char}
    (hgap : Blank gap) : Gives (Json.afterBlank atEnd read (gap ++ c :: s)) value rest := by
  have hskip := skipBlank_gap hgap hc s
  unfold Json.afterBlank
  split
  next hnone =>
    rw [hskip] at hnone
    cases hnone
  next d more hmore =>
    rw [hskip] at hmore
    cases hmore
    exact h.within _

/-- And so they do not before what may have blanks before it. -/
theorem Gives.skip {atEnd : Cause}
    {read : (c : Char) → (rest : List Char) → Except Fault (Read α (c :: rest))} {s : List Char}
    (h : Gives (Json.afterBlank atEnd read s) value rest) {gap : List Char} (hgap : Blank gap) :
    Gives (Json.afterBlank atEnd read (gap ++ s)) value rest := by
  obtain ⟨shorter, hread⟩ := h
  have hskip := skipBlank_append hgap s
  unfold Json.afterBlank at hread ⊢
  split at hread
  next => cases hread
  next c more hmore =>
    split
    next hnone => cases (hskip.trans hmore).symm.trans hnone
    next d left hleft =>
      cases (hskip.trans hmore).symm.trans hleft
      cases hfound : read c more with
      | error fault =>
        rw [hfound] at hread
        cases hread
      | ok found =>
        rw [hfound] at hread
        cases hread
        exact Gives.within ⟨_, rfl⟩ _

theorem Gives.atOnce {atEnd : Cause}
    {read : (c : Char) → (rest : List Char) → Except Fault (Read α (c :: rest))} {c : Char}
    {s : List Char} (h : Gives (read c s) value rest) (hc : isBlank c = false) :
    Gives (Json.afterBlank atEnd read (c :: s)) value rest :=
  h.afterBlank hc blank_nil

/-- What was read may be made into something else. -/
theorem Gives.finish {read : Reader α} (h : Gives (read s) value rest) {make : α → Except Cause β}
    {made : β} (hmake : make value = .ok made) : Gives (Json.finish make read s) made rest := by
  obtain ⟨shorter, hread⟩ := h
  refine ⟨shorter, ?_⟩
  rw [Json.finish, hread]
  simp only [hmake]

theorem gives_single (value : α) (c : Char) (rest : List Char) :
    Gives (.ok (.single value c rest)) value rest :=
  ⟨length_lt_cons c rest, rfl⟩

/-- A text that holds one value and nothing else but blanks is read as that value. -/
theorem Gives.readAll {read : Reader α} {text : String} (h : Gives (read text.toList) value rest)
    (hrest : Blank rest) : Json.readAll read text = .ok value := by
  obtain ⟨shorter, hread⟩ := h
  have hend : skipBlank (rest ++ []) = [] := skipBlank_append hrest []
  rw [List.append_nil] at hend
  simp only [Json.readAll, hread, hend]

end Combinators

/-! ## Words -/

/-- What is left behind letters that were read. -/
theorem readLetters_append (letters rest : List Char) :
    ∃ h, readLetters letters (letters ++ rest) = .ok ⟨rest, h⟩ := by
  induction letters with
  | nil => exact ⟨Nat.le_refl _, rfl⟩
  | cons c letters ih =>
    obtain ⟨h, hletters⟩ := ih
    refine ⟨Nat.le_trans h (Nat.le_succ _), ?_⟩
    simp only [List.cons_append, readLetters, if_true, hletters]
    rfl

theorem gives_readWord {α : Type} (letters : String) (value : α) (c : Char) (rest : List Char) :
    Gives (readWord letters value c (letters.toList ++ rest)) value rest := by
  obtain ⟨h, hletters⟩ := readLetters_append letters.toList rest
  refine ⟨Nat.lt_succ_of_le h, ?_⟩
  rw [readWord, hletters]
  rfl

theorem gives_readColon (rest : List Char) : Gives (readColon (':' :: rest)) () rest :=
  (gives_single () ':' rest).atOnce (by decide)

/-- What is read behind a colon. -/
theorem Gives.afterColon {α : Type} {read : Reader α} {s : List Char} {value : α}
    {rest : List Char} (h : Gives (read s) value rest) :
    Gives (Json.afterColon read (':' :: s)) value rest := by
  obtain ⟨shorter, hcolon⟩ := gives_readColon s
  obtain ⟨shorter', hread⟩ := h
  refine ⟨Nat.lt_trans shorter' shorter, ?_⟩
  simp only [Json.afterColon, hcolon, hread]
  rfl

/-! ## Strings -/

/-- The two digits of a number below 32, behind two zeros. -/
theorem hexValue_lowerHexChar : ∀ n < 32,
    hexValue ['0', '0', Text.lowerHexChar (n / 16), Text.lowerHexChar (n % 16)] = some n := by
  decide

theorem gives_readHex {a b c d : Char} {n : Nat} (h : hexValue [a, b, c, d] = some n)
    (rest : List Char) : Gives (readHex (a :: b :: c :: d :: rest)) n rest := by
  refine ⟨by simp only [List.length_cons]; omega, ?_⟩
  simp only [readHex]
  split
  next m hm =>
    rw [h] at hm
    cases hm
    rfl
  next hm =>
    rw [h] at hm
    cases hm

/-- The number of a control character is read as that character. -/
theorem gives_readNumbered {c : Char} (hc : c < ' ') (rest : List Char) :
    Gives (readNumbered
      ('0' :: '0' :: Text.lowerHexChar (c.toNat / 16) :: Text.lowerHexChar (c.toNat % 16) :: rest))
      c rest := by
  have hlt : c.toNat < 32 := hc
  obtain ⟨shorter, hhex⟩ := gives_readHex (hexValue_lowerHexChar c.toNat hlt) rest
  have htrailing : isTrailing c.toNat = false := by
    simp only [isTrailing, Bool.and_eq_false_iff, decide_eq_false_iff_not]
    omega
  have hleading : isLeading c.toNat = false := by
    simp only [isLeading, Bool.and_eq_false_iff, decide_eq_false_iff_not]
    omega
  refine ⟨shorter, ?_⟩
  simp only [readNumbered, hhex, htrailing, hleading, Char.ofNat_toNat]
  rfl

/-- A character is written as itself or behind a backslash, and then read as itself again. -/
theorem escapeChar_cases (c : Char) :
    (escapeChar c = [c] ∧ c ≠ '"' ∧ c ≠ '\\' ∧ ¬c < ' ') ∨
      ∃ letters, escapeChar c = '\\' :: letters ∧
        ∀ rest, Gives (readEscape (letters ++ rest)) c rest := by
  have hshort : ∀ {d : Char}, shortEscape d = some c →
      ∀ rest, Gives (readEscape ([d] ++ rest)) c rest := by
    intro d hd rest
    refine ⟨length_lt_cons d rest, ?_⟩
    simp only [List.singleton_append, readEscape, hd]
    rfl
  -- the cases are those of the writer, in its order
  unfold escapeChar
  split
  next h => exact .inr ⟨['"'], rfl, hshort (by rw [h]; rfl)⟩
  next hquote =>
  split
  next h => exact .inr ⟨['\\'], rfl, hshort (by rw [h]; rfl)⟩
  next hbackslash =>
  split
  next h => exact .inr ⟨['b'], rfl, hshort (by rw [h]; rfl)⟩
  split
  next h => exact .inr ⟨['f'], rfl, hshort (by rw [h]; rfl)⟩
  split
  next h => exact .inr ⟨['n'], rfl, hshort (by rw [h]; rfl)⟩
  split
  next h => exact .inr ⟨['r'], rfl, hshort (by rw [h]; rfl)⟩
  split
  next h => exact .inr ⟨['t'], rfl, hshort (by rw [h]; rfl)⟩
  split
  next h => exact .inr ⟨_, rfl, fun rest => (gives_readNumbered h rest).behind 'u'⟩
  next h => exact .inl ⟨rfl, hquote, hbackslash, h⟩

theorem gives_readTextFrom (start read chars rest : List Char)
    (h : (chars.flatMap escapeChar ++ '"' :: rest).length ≤ start.length) :
    Gives (readTextFrom start read (chars.flatMap escapeChar ++ '"' :: rest) h)
      (String.ofList (read.reverse ++ chars)) rest := by
  induction chars generalizing read with
  | nil =>
    refine ⟨h, ?_⟩
    simp only [List.flatMap_nil, List.nil_append, List.append_nil]
    rw [readTextFrom]
    rfl
  | cons c chars ih =>
    rcases escapeChar_cases c with ⟨hplain, hquote, hbackslash, hcontrol⟩ | ⟨letters, hescape, hread⟩
    · -- a character that is written as itself
      simp only [List.flatMap_cons, hplain, List.cons_append] at h ⊢
      rw [readTextFrom, if_neg hquote, if_neg hbackslash, if_neg hcontrol]
      have hih := ih (c :: read) (Nat.le_of_lt h)
      rw [List.reverse_cons, List.append_assoc] at hih
      exact hih
    · -- a character that is written behind a backslash
      simp only [List.flatMap_cons, hescape, List.cons_append, List.append_assoc] at h ⊢
      obtain ⟨shorter, hletter⟩ := hread (chars.flatMap escapeChar ++ '"' :: rest)
      rw [readTextFrom, if_neg (by decide), if_pos rfl]
      simp only [hletter]
      have hih := ih (c :: read) (Nat.le_of_lt (Nat.lt_trans shorter h))
      rw [List.reverse_cons, List.append_assoc] at hih
      exact hih

/-- A string is read as it was written. -/
theorem gives_readText (s : String) (rest : List Char) :
    Gives (readText (s.toList.flatMap escapeChar ++ '"' :: rest)) s rest := by
  have h := gives_readTextFrom (s.toList.flatMap escapeChar ++ '"' :: rest) [] s.toList rest
    (length_le_self _)
  rw [List.reverse_nil, List.nil_append, String.ofList_toList] at h
  exact h

theorem textChars_append (s : String) (rest : List Char) :
    textChars s ++ rest = '"' :: (s.toList.flatMap escapeChar ++ '"' :: rest) := by
  simp only [textChars, List.cons_append, List.append_assoc, List.nil_append]

/-! ## Members -/

/-- Members as they are written, with the same blanks before each key. -/
def membersChars (gap : List Char) (first : Bool) : List (String × List Char) → List Char
  | [] => []
  | (key, text) :: more =>
    (if first then [] else [',']) ++ gap ++ textChars key ++ ':' :: text ++
      membersChars gap false more

/-- What stands before an item: blanks, with a comma among them if another item comes before. -/
inductive Lead : Bool → List Char → Prop where
  | first {gap : List Char} (hgap : Blank gap) : Lead true gap
  | later {before after : List Char} (hbefore : Blank before) (hafter : Blank after) :
      Lead false (before ++ ',' :: after)

/-- What may follow a value inside brackets. -/
def Closes (s : List Char) : Prop :=
  ∀ c, s.head? = some c → c = ',' ∨ c = ']' ∨ c = '\x7d' ∨ isBlank c = true

theorem closes_comma (rest : List Char) : Closes (',' :: rest) := fun _ h =>
  .inl (Option.some.inj h).symm

theorem closes_blank {s : List Char} (h : Blank s) : Closes s := by
  intro c hc
  exact .inr (.inr (.inr (h c (List.mem_of_head? hc))))

/-- The bracket that closes an object, behind blanks. -/
theorem closes_last {last : List Char} (hlast : Blank last) (rest : List Char) :
    Closes (last ++ '\x7d' :: rest) := by
  intro c hc
  cases last with
  | nil => exact .inr (.inr (.inl (Option.some.inj hc).symm))
  | cons d last =>
    obtain rfl : d = c := Option.some.inj hc
    exact .inr (.inr (.inr (hlast d List.mem_cons_self)))

theorem closes_members {gap last : List Char} (hlast : Blank last)
    (members : List (String × List Char)) (rest : List Char) :
    Closes (membersChars gap false members ++ (last ++ '\x7d' :: rest)) := by
  cases members with
  | nil => exact closes_last hlast rest
  | cons member members => exact closes_comma _

/-- A member is found behind the quote of its key. -/
theorem nextMember_lead {first : Bool} {lead : List Char} (hlead : Lead first lead)
    (rest : List Char) : ∃ h, nextMember first (lead ++ '"' :: rest) = .ok (.item rest h) := by
  cases hlead with
  | first hgap =>
    have hskip := skipBlank_gap hgap (c := '"') (by decide) rest
    refine ⟨Nat.le_of_lt (length_lt_of_skipBlank hskip), ?_⟩
    unfold nextMember
    split
    next hnone =>
      rw [hskip] at hnone
      cases hnone
    next c more hmore =>
      rw [hskip] at hmore
      cases hmore
      rfl
  | @later before after hbefore hafter =>
    have hcomma : skipBlank (before ++ ',' :: after ++ '"' :: rest) = ',' :: (after ++ '"' :: rest) :=
      (congrArg skipBlank (List.append_assoc ..)).trans (skipBlank_gap hbefore (by decide) _)
    have hskip := skipBlank_gap hafter (c := '"') (by decide) rest
    have hlt := Nat.lt_trans (length_lt_of_skipBlank hskip) (length_lt_of_skipBlank hcomma)
    refine ⟨Nat.le_of_lt hlt, ?_⟩
    unfold nextMember
    split
    next hnone =>
      rw [hcomma] at hnone
      cases hnone
    next c more hmore =>
      rw [hcomma] at hmore
      cases hmore
      rw [if_neg (by decide), if_neg (by decide), if_pos rfl]
      split
      next hnone =>
        rw [hskip] at hnone
        cases hnone
      next d more hmore =>
        rw [hskip] at hmore
        cases hmore
        rfl

theorem nextMember_done (first : Bool) {last : List Char} (hlast : Blank last) (rest : List Char) :
    ∃ h, nextMember first (last ++ '\x7d' :: rest) = .ok (.done rest h) := by
  have hskip := skipBlank_gap hlast (c := '\x7d') (by decide) rest
  refine ⟨length_lt_of_skipBlank hskip, ?_⟩
  unfold nextMember
  split
  next hnone =>
    rw [hskip] at hnone
    cases hnone
  next c more hmore =>
    rw [hskip] at hmore
    cases hmore
    rfl

theorem nextMember_item (first : Bool) {gap : List Char} (hgap : Blank gap) (rest : List Char) :
    ∃ h, nextMember first ((if first then [] else [',']) ++ (gap ++ '"' :: rest)) =
      .ok (.item rest h) := by
  cases first with
  | true => exact nextMember_lead (.first hgap) rest
  | false => exact nextMember_lead (.later blank_nil hgap) rest

/-- Members take a state on to another, each read from behind its key. -/
inductive Collects {σ : Type} (member : σ → String → Reader σ) :
    σ → List (String × List Char) → σ → Prop where
  | nil (state : σ) : Collects member state [] state
  | cons {state : σ} (next : σ) {final : σ} {key : String} {text : List Char}
      {more : List (String × List Char)}
      (h : ∀ rest, Closes rest → Gives (member state key (':' :: (text ++ rest))) next rest)
      (hmore : Collects member next more final) :
      Collects member state ((key, text) :: more) final

theorem gives_readMembersFrom {σ : Type} {member : σ → String → Reader σ} {gap last : List Char}
    (hgap : Blank gap) (hlast : Blank last) {state final : σ}
    {members : List (String × List Char)} (collects : Collects member state members final)
    (start : List Char) (first : Bool) (rest : List Char)
    (h : (membersChars gap first members ++ (last ++ '\x7d' :: rest)).length ≤ start.length) :
    Gives (readMembersFrom member start first state
      (membersChars gap first members ++ (last ++ '\x7d' :: rest)) h) final rest := by
  induction collects generalizing first with
  | nil state =>
    obtain ⟨hdone, hnext⟩ := nextMember_done first hlast rest
    refine ⟨Nat.lt_of_lt_of_le hdone h, ?_⟩
    simp only [membersChars, List.nil_append]
    rw [readMembersFrom]
    simp only [hnext]
  | @cons state next final key text more hread hmore ih =>
    -- the text as the pieces that are read one after another
    have htext : membersChars gap first ((key, text) :: more) ++ (last ++ '\x7d' :: rest) =
        (if first then [] else [',']) ++ (gap ++ '"' :: (key.toList.flatMap escapeChar ++ '"' ::
          (':' :: (text ++ (membersChars gap false more ++ (last ++ '\x7d' :: rest)))))) := by
      simp only [membersChars, textChars, List.append_assoc, List.cons_append, List.nil_append]
    simp only [htext] at h ⊢
    obtain ⟨hitem, hnext⟩ := nextMember_item first hgap (key.toList.flatMap escapeChar ++ '"' ::
      (':' :: (text ++ (membersChars gap false more ++ (last ++ '\x7d' :: rest)))))
    obtain ⟨hkey, htextRead⟩ := gives_readText key
      (':' :: (text ++ (membersChars gap false more ++ (last ++ '\x7d' :: rest))))
    obtain ⟨hvalue, hvalueRead⟩ := hread _ (closes_members hlast more rest)
    rw [readMembersFrom]
    simp only [hnext, htextRead]
    -- the member is read, and the others from where it ends
    split
    next e he =>
      rw [hvalueRead] at he
      cases he
    next r hr =>
      rw [hvalueRead] at hr
      cases hr
      exact ih false _

/-- Members are read as they were written. -/
theorem gives_readMembers {σ : Type} {member : σ → String → Reader σ} {gap last : List Char}
    (hgap : Blank gap) (hlast : Blank last) {empty final : σ}
    {members : List (String × List Char)} (collects : Collects member empty members final)
    (rest : List Char) :
    Gives (readMembers member empty (membersChars gap true members ++ (last ++ '\x7d' :: rest)))
      final rest :=
  gives_readMembersFrom hgap hlast collects _ true rest _

end ScanClient.Json
