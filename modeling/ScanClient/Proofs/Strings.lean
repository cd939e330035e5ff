import ScanClient.Proofs.Reading

/-!
# Strings

A string is made of pieces: characters that stand for themselves, and escapes. A reader takes a
string just if its pieces make characters, which half of a surrogate pair does not; who skips a
string does not look that far. Either way what is read are the pieces up to the closing quote.
-/

namespace ScanClient.Json

/-! ## What a reader takes -/

/-- What was read and the text that is left, if nothing was wrong. -/
def taken {α : Type} {s : List Char} : Except Fault (Read α s) → Option (α × List Char)
  | .ok r => some (r.value, r.rest)
  | .error _ => none

section Combinators

variable {α β : Type} {s t : List Char}

theorem gives_iff {found : Except Fault (Read α s)} {value : α} {rest : List Char} :
    Gives found value rest ↔ taken found = some (value, rest) := by
  constructor
  · rintro ⟨shorter, rfl⟩
    rfl
  · intro h
    cases found with
    | error e => cases h
    | ok r =>
      cases h
      exact ⟨r.shorter, rfl⟩

theorem exists_of_taken {found : Except Fault (Read α s)} {got : α × List Char}
    (h : taken found = some got) : ∃ r, found = .ok r ∧ got = (r.value, r.rest) := by
  cases found with
  | error e => cases h
  | ok r =>
    cases h
    exact ⟨r, rfl, rfl⟩

/-- What was found, by what a form means. -/
theorem found_of_taken {found : Except Fault (Read α s)} {made : Option α} {rest : List Char}
    (h : taken found = made.map fun a => (a, rest)) :
    (made = none ∧ ∃ e, found = .error e) ∨
      ∃ a shorter, made = some a ∧ found = .ok ⟨a, rest, shorter⟩ := by
  cases made with
  | none =>
    cases found with
    | error e => exact .inl ⟨rfl, e, rfl⟩
    | ok r => cases h
  | some a =>
    obtain ⟨shorter, hfound⟩ := gives_iff.mpr h
    exact .inr ⟨a, shorter, rfl, hfound⟩

theorem Gives.taken {found : Except Fault (Read α s)} {value : α} {rest : List Char}
    (h : Gives found value rest) : taken found = some (value, rest) :=
  gives_iff.mp h

@[simp] theorem taken_ok (r : Read α s) : taken (.ok r) = some (r.value, r.rest) := rfl

@[simp] theorem taken_error (e : Fault) :
    taken (.error e : Except Fault (Read α s)) = none := rfl

@[simp] theorem taken_map (found : Except Fault (Read α s)) (f : α → β) :
    taken (found.map (·.map f)) = (taken found).map fun (a, rest) => (f a, rest) := by
  cases found <;> rfl

@[simp] theorem taken_readerMap (read : Reader α) (f : α → β) (s : List Char) :
    taken (Reader.map f read s) = (taken (read s)).map fun (a, rest) => (f a, rest) :=
  taken_map _ _

@[simp] theorem taken_behind (found : Except Fault (Read α s)) (c : Char) :
    taken (found.map (·.behind c)) = taken found := by
  cases found <;> rfl

@[simp] theorem taken_behindChar (read : Reader α) (c : Char) (s : List Char) :
    taken (behindChar read c s) = taken (read s) :=
  taken_behind _ _

@[simp] theorem taken_within (found : Except Fault (Read α s)) (h : s.length ≤ t.length) :
    taken (found.map (·.within h)) = taken found := by
  cases found <;> rfl

@[simp] theorem taken_follow (r : Read α s) (found : Except Fault (Read β r.rest)) :
    taken (found.map r.follow) = taken found := by
  cases found <;> rfl

theorem taken_finish (make : α → Except Cause β) (read : Reader α) (s : List Char) :
    taken (finish make read s) =
      (taken (read s)).bind fun (a, rest) => (make a).toOption.map fun b => (b, rest) := by
  unfold finish
  cases read s with
  | error e => rfl
  | ok r =>
    simp only [taken_ok, Option.bind_some]
    cases make r.value <;> rfl

/-- Blanks before what is read do not matter. -/
theorem taken_afterBlank {atEnd : Cause}
    {read : (c : Char) → (rest : List Char) → Except Fault (Read α (c :: rest))} {gap : List Char}
    (hgap : Blank gap) {c : Char} (hc : isBlank c = false) (s : List Char) :
    taken (afterBlank atEnd read (gap ++ c :: s)) = taken (read c s) := by
  have hskip := skipBlank_gap hgap hc s
  unfold afterBlank
  split
  next hnone =>
    rw [hskip] at hnone
    cases hnone
  next d more hmore =>
    rw [hskip] at hmore
    cases hmore
    exact taken_within _ _

/-- A text has blanks before its first other character. -/
theorem exists_of_skipBlank {c : Char} (h : skipBlank s = c :: t) :
    ∃ gap, Blank gap ∧ s = gap ++ c :: t := by
  refine ⟨s.takeWhile isBlank, List.all_eq_true.mp List.all_takeWhile, ?_⟩
  rw [← h]
  exact (List.takeWhile_append_dropWhile).symm

/-- What is read after blanks has blanks before it. -/
theorem exists_of_afterBlank {atEnd : Cause}
    {read : (c : Char) → (rest : List Char) → Except Fault (Read α (c :: rest))}
    {got : α × List Char} (h : taken (afterBlank atEnd read s) = some got) :
    ∃ gap c more, s = gap ++ c :: more ∧ Blank gap ∧ isBlank c = false ∧
      taken (read c more) = some got := by
  unfold afterBlank at h
  split at h
  · cases h
  next c more hmore =>
    obtain ⟨gap, hgap, hs⟩ := exists_of_skipBlank hmore
    refine ⟨gap, c, more, hs, hgap, ?_, ?_⟩
    · have hhead := List.head?_dropWhile_not isBlank s
      rw [show s.dropWhile isBlank = c :: more from hmore] at hhead
      exact Bool.eq_false_iff.mpr (by simpa using hhead)
    · rw [taken_within] at h
      exact h

end Combinators

/-! ## Pieces -/

/-- A piece of a string: a character as itself, a letter behind a backslash, or a backslash, the
letter u and four digits. -/
inductive Piece where
  | plain (c : Char) (h : c ≠ '"' ∧ c ≠ '\\' ∧ ¬c < ' ')
  | short (letter c : Char) (h : shortEscape letter = some c)
  | numbered (a b c d : Char) (n : Nat) (h : hexValue [a, b, c, d] = some n)

namespace Piece

def chars : Piece → List Char
  | plain c _ => [c]
  | short letter _ _ => ['\\', letter]
  | numbered a b c d _ _ => ['\\', 'u', a, b, c, d]

/-- The characters that pieces stand for. A character beyond the others comes as two numbers, of which
neither stands for anything alone. -/
def decode : List Piece → Option (List Char)
  | [] => some []
  | plain c _ :: pieces => (decode pieces).map (c :: ·)
  | short _ c _ :: pieces => (decode pieces).map (c :: ·)
  | numbered _ _ _ _ n _ :: pieces =>
    if isTrailing n then none
    else if isLeading n then
      match pieces with
      | numbered _ _ _ _ m _ :: pieces =>
        if isTrailing m then (decode pieces).map (pairSurrogates n m :: ·) else none
      | _ => none
    else (decode pieces).map (Char.ofNat n :: ·)

/-- The text that pieces stand for. -/
def text? (pieces : List Piece) : Option String := (decode pieces).map String.ofList

end Piece

/-- What stands between the quotes. -/
def piecesChars (pieces : List Piece) : List Char := pieces.flatMap Piece.chars

theorem piecesChars_cons (piece : Piece) (pieces : List Piece) :
    piecesChars (piece :: pieces) = piece.chars ++ piecesChars pieces := List.flatMap_cons

theorem piecesChars_append (pieces more : List Piece) :
    piecesChars (pieces ++ more) = piecesChars pieces ++ piecesChars more := List.flatMap_append

/-- Characters that stand for themselves. -/
def Piece.plainly (cs : List Char) (h : ∀ c ∈ cs, c ≠ '"' ∧ c ≠ '\\' ∧ ¬c < ' ') : List Piece :=
  cs.pmap Piece.plain h

theorem plain_of_all {cs : List Char}
    (h : (cs.all fun c => c != '"' && c != '\\' && !decide (c < ' ')) = true) :
    ∀ c ∈ cs, c ≠ '"' ∧ c ≠ '\\' ∧ ¬c < ' ' := by
  intro c hc
  simpa [and_assoc] using List.all_eq_true.mp h c hc

theorem piecesChars_plainly (cs : List Char) (h : ∀ c ∈ cs, c ≠ '"' ∧ c ≠ '\\' ∧ ¬c < ' ') :
    piecesChars (Piece.plainly cs h) = cs := by
  induction cs with
  | nil => rfl
  | cons c cs ih => exact congrArg (c :: ·) (ih fun d hd => h d (List.mem_cons_of_mem c hd))

theorem Piece.text?_plainly (cs : List Char) (h : ∀ c ∈ cs, c ≠ '"' ∧ c ≠ '\\' ∧ ¬c < ' ') :
    text? (plainly cs h) = some (String.ofList cs) := by
  have hdecode : decode (plainly cs h) = some cs := by
    induction cs with
    | nil => rfl
    | cons c cs ih =>
      exact congrArg (Option.map (c :: ·)) (ih fun d hd => h d (List.mem_cons_of_mem c hd))
  rw [text?, hdecode]
  rfl

theorem Piece.decode_numbered {a b c d : Char} {n : Nat} (h : hexValue [a, b, c, d] = some n)
    (pieces : List Piece) :
    decode (numbered a b c d n h :: pieces) =
      if isTrailing n then none
      else if isLeading n then
        match pieces with
        | numbered _ _ _ _ m _ :: pieces =>
          if isTrailing m then (decode pieces).map (pairSurrogates n m :: ·) else none
        | _ => none
      else (decode pieces).map (Char.ofNat n :: ·) := by
  rw [decode.eq_def]

/-! ## Reading pieces -/

theorem shortEscape_ne_u {letter c : Char} (h : shortEscape letter = some c) : letter ≠ 'u' := by
  rintro rfl
  cases h

theorem taken_readHex {a b c d : Char} {n : Nat} (h : hexValue [a, b, c, d] = some n)
    (rest : List Char) : taken (readHex (a :: b :: c :: d :: rest)) = some (n, rest) :=
  (gives_readHex h rest).taken

theorem exists_of_readHex {s : List Char} {r : Read Nat s} (h : readHex s = .ok r) :
    ∃ a b c d, s = a :: b :: c :: d :: r.rest ∧ hexValue [a, b, c, d] = some r.value := by
  unfold readHex at h
  split at h
  next a b c d rest =>
    split at h
    next n hn =>
      cases h
      exact ⟨a, b, c, d, rfl, hn⟩
    next => cases h
  next => cases h

/-- The half of a pair that is to follow another half. -/
theorem taken_readTrailing (n : Nat) (pieces : List Piece) (rest : List Char) :
    taken (readTrailing n (piecesChars pieces ++ '"' :: rest)) =
      match pieces with
      | .numbered _ _ _ _ m _ :: pieces =>
        if isTrailing m then some (pairSurrogates n m, piecesChars pieces ++ '"' :: rest) else none
      | _ => none := by
  have hplain : ∀ (c : Char) (s : List Char), c ≠ '\\' → taken (readTrailing n (c :: s)) = none := by
    intro c s hc
    rw [readTrailing.eq_5] <;> simp [hc]
  cases pieces with
  | nil => exact hplain '"' rest (by decide)
  | cons piece pieces =>
    rw [piecesChars_cons]
    cases piece with
    | plain c h => exact hplain c _ h.2.1
    | short letter c h =>
      simp only [Piece.chars, List.cons_append, List.nil_append]
      rw [readTrailing.eq_4 n letter _ (shortEscape_ne_u h)]
      rfl
    | numbered a b c d m h =>
      obtain ⟨shorter, hread⟩ := gives_readHex h (piecesChars pieces ++ '"' :: rest)
      simp only [Piece.chars, List.cons_append, List.nil_append, readTrailing, hread]
      by_cases htrailing : isTrailing m = true
      · simp only [if_pos htrailing, taken_ok]
      · simp only [if_neg htrailing, taken_error]

/-- A number stands for a character, or with another number behind it. -/
theorem taken_readEscape_numbered {a b c d : Char} {n : Nat} (h : hexValue [a, b, c, d] = some n)
    (pieces : List Piece) (rest : List Char) :
    taken (readEscape ('u' :: a :: b :: c :: d :: (piecesChars pieces ++ '"' :: rest))) =
      if isTrailing n then none
      else if isLeading n then taken (readTrailing n (piecesChars pieces ++ '"' :: rest))
      else some (Char.ofNat n, piecesChars pieces ++ '"' :: rest) := by
  obtain ⟨shorter, hread⟩ := gives_readHex h (piecesChars pieces ++ '"' :: rest)
  rw [readEscape, show shortEscape 'u' = none from rfl]
  simp only [if_true, taken_behindChar, readNumbered, hread]
  split
  · rfl
  · split
    · rw [taken_follow]
    · rfl

section

variable {start : List Char} (read : List Char) {s : List Char}

theorem taken_readTextFrom_plain {c : Char} (hc : c ≠ '"' ∧ c ≠ '\\' ∧ ¬c < ' ')
    (h : (c :: s).length ≤ start.length) :
    taken (readTextFrom start read (c :: s) h) =
      taken (readTextFrom start (c :: read) s (Nat.le_of_lt h)) := by
  rw [readTextFrom, if_neg hc.1, if_neg hc.2.1, if_neg hc.2.2]

variable (h : ('\\' :: s).length ≤ start.length)

/-- Behind a backslash an escape is read, and the string goes on behind it. -/
theorem taken_readTextFrom_escape {c : Char} {rest : List Char}
    (hescape : taken (readEscape s) = some (c, rest)) :
    ∃ h', taken (readTextFrom start read ('\\' :: s) h) =
      taken (readTextFrom start (c :: read) rest h') := by
  obtain ⟨shorter, hread⟩ := gives_iff.mpr hescape
  refine ⟨Nat.le_of_lt (Nat.lt_trans shorter h), ?_⟩
  rw [readTextFrom, if_neg (by decide), if_pos rfl, hread]

theorem taken_readTextFrom_none (hescape : taken (readEscape s) = none) :
    taken (readTextFrom start read ('\\' :: s) h) = none := by
  rw [readTextFrom, if_neg (by decide), if_pos rfl]
  cases hread : readEscape s with
  | error e => rfl
  | ok r =>
    rw [hread] at hescape
    cases hescape

end

/-- The pieces up to a quote are read as the characters they stand for. -/
theorem taken_readTextFrom (start read : List Char) (pieces : List Piece) (rest : List Char)
    (h : (piecesChars pieces ++ '"' :: rest).length ≤ start.length) :
    taken (readTextFrom start read (piecesChars pieces ++ '"' :: rest) h) =
      (Piece.decode pieces).map fun cs => (String.ofList (read.reverse ++ cs), rest) := by
  have step : ∀ {read : List Char} {c : Char} {pieces : List Piece} (h' : _),
      taken (readTextFrom start (c :: read) (piecesChars pieces ++ '"' :: rest) h') =
        (Piece.decode pieces).map (fun cs => (String.ofList ((c :: read).reverse ++ cs), rest)) →
      taken (readTextFrom start (c :: read) (piecesChars pieces ++ '"' :: rest) h') =
        ((Piece.decode pieces).map (c :: ·)).map
          fun cs => (String.ofList (read.reverse ++ cs), rest) := by
    intro read c pieces h' hread
    rw [hread, Option.map_map]
    simp only [List.reverse_cons, List.append_assoc, List.singleton_append]
    rfl
  -- the induction is on the pieces as they are decoded, one by one or as the halves of a pair
  induction pieces using Piece.decode.induct generalizing read with
  | case1 =>
    simp only [piecesChars, List.flatMap_nil, List.nil_append]
    rw [readTextFrom, if_pos rfl]
    simp only [Piece.decode, Option.map_some, List.append_nil, taken_ok]
  | case2 c hc pieces ih =>
    exact (taken_readTextFrom_plain read hc h).trans (step _ (ih _ _))
  | case3 letter c hc pieces ih =>
    have hescape : taken (readEscape (letter :: (piecesChars pieces ++ '"' :: rest))) =
        some (c, piecesChars pieces ++ '"' :: rest) := by
      rw [readEscape, hc]
      rfl
    obtain ⟨h', hread⟩ := taken_readTextFrom_escape read h hescape
    exact hread.trans (step h' (ih _ h'))
  | case4 a b c d n hn pieces htrailing =>
    have hescape := taken_readEscape_numbered hn pieces rest
    rw [if_pos htrailing] at hescape
    rw [Piece.decode_numbered, if_pos htrailing]
    exact taken_readTextFrom_none read h hescape
  | case5 a b c d n hn htrailing hleading a' b' c' d' m hm pieces htrailing' ih =>
    have hescape := taken_readEscape_numbered hn (.numbered a' b' c' d' m hm :: pieces) rest
    rw [if_neg htrailing, if_pos hleading, taken_readTrailing] at hescape
    simp only [if_pos htrailing'] at hescape
    obtain ⟨h', hread⟩ := taken_readTextFrom_escape read h hescape
    rw [Piece.decode_numbered, if_neg htrailing, if_pos hleading]
    simp only [if_pos htrailing']
    exact hread.trans (step h' (ih _ h'))
  | case6 a b c d n hn htrailing hleading a' b' c' d' m hm pieces htrailing' =>
    have hescape := taken_readEscape_numbered hn (.numbered a' b' c' d' m hm :: pieces) rest
    rw [if_neg htrailing, if_pos hleading, taken_readTrailing] at hescape
    simp only [if_neg htrailing'] at hescape
    rw [Piece.decode_numbered, if_neg htrailing, if_pos hleading]
    simp only [if_neg htrailing']
    exact taken_readTextFrom_none read h hescape
  | case7 a b c d n hn pieces htrailing hleading hother =>
    have hescape := taken_readEscape_numbered hn pieces rest
    rw [if_neg htrailing, if_pos hleading, taken_readTrailing] at hescape
    rw [Piece.decode_numbered, if_neg htrailing, if_pos hleading]
    -- whatever follows, it is no other half
    cases pieces with
    | nil => exact taken_readTextFrom_none read h hescape
    | cons piece pieces =>
      cases piece with
      | plain c' h' => exact taken_readTextFrom_none read h hescape
      | short letter c' h' => exact taken_readTextFrom_none read h hescape
      | numbered a' b' c' d' m hm => exact (hother a' b' c' d' m hm pieces rfl).elim
  | case8 a b c d n hn pieces htrailing hleading ih =>
    have hescape := taken_readEscape_numbered hn pieces rest
    rw [if_neg htrailing, if_neg hleading] at hescape
    obtain ⟨h', hread⟩ := taken_readTextFrom_escape read h hescape
    rw [Piece.decode_numbered, if_neg htrailing, if_neg hleading]
    exact hread.trans (step h' (ih _ h'))

/-- A string is read as the text its pieces stand for. -/
theorem taken_readText (pieces : List Piece) (rest : List Char) :
    taken (readText (piecesChars pieces ++ '"' :: rest)) =
      (Piece.text? pieces).map fun text => (text, rest) := by
  rw [Piece.text?, Option.map_map]
  exact taken_readTextFrom _ [] pieces rest _

/-! ## What has been read are pieces -/

theorem exists_of_readTrailing {n : Nat} {s rest : List Char} {c : Char}
    (h : taken (readTrailing n s) = some (c, rest)) : ∃ piece : Piece, s = piece.chars ++ rest := by
  unfold readTrailing at h
  split at h
  · cases h
  · cases h
  next more =>
    cases hdigits : readHex more with
    | error e =>
      simp only [hdigits] at h
      cases h
    | ok digits =>
      obtain ⟨a, b, c', d, hmore, hhex⟩ := exists_of_readHex hdigits
      simp only [hdigits] at h
      split at h
      · simp only [taken_ok, Option.some.injEq, Prod.mk.injEq] at h
        obtain ⟨_, rfl⟩ := h
        exact ⟨.numbered a b c' d _ hhex, congrArg ('\\' :: 'u' :: ·) hmore⟩
      · cases h
  · cases h
  · cases h

theorem exists_of_readNumbered {s rest : List Char} {c : Char}
    (h : taken (readNumbered s) = some (c, rest)) :
    ∃ pieces, '\\' :: 'u' :: s = piecesChars pieces ++ rest := by
  unfold readNumbered at h
  cases hdigits : readHex s with
  | error e =>
    simp only [hdigits] at h
    cases h
  | ok digits =>
    obtain ⟨a, b, c', d, hs, hhex⟩ := exists_of_readHex hdigits
    simp only [hdigits] at h
    split at h
    · cases h
    · split at h
      · -- one half of a pair, and then the other
        rw [taken_follow] at h
        obtain ⟨piece, hpiece⟩ := exists_of_readTrailing h
        refine ⟨[.numbered a b c' d _ hhex, piece], ?_⟩
        have htext : '\\' :: 'u' :: s =
            '\\' :: 'u' :: a :: b :: c' :: d :: (piece.chars ++ rest) := by
          rw [← hpiece, ← hs]
        simp [htext, piecesChars, Piece.chars]
      · simp only [taken_ok, Option.some.injEq, Prod.mk.injEq] at h
        obtain ⟨_, rfl⟩ := h
        exact ⟨[.numbered a b c' d _ hhex], congrArg ('\\' :: 'u' :: ·) hs⟩

/-- An escape is one piece, or two where the first is half of a pair. -/
theorem exists_of_readEscape {s rest : List Char} {c : Char}
    (h : taken (readEscape s) = some (c, rest)) :
    ∃ pieces, '\\' :: s = piecesChars pieces ++ rest := by
  unfold readEscape at h
  split at h
  · cases h
  next letter more =>
    split at h
    next plain hplain =>
      simp only [Read.single, taken_ok, Option.some.injEq, Prod.mk.injEq] at h
      obtain ⟨_, rfl⟩ := h
      exact ⟨[.short letter plain hplain], rfl⟩
    next =>
      split at h
      next hu =>
        subst hu
        rw [taken_behindChar] at h
        exact exists_of_readNumbered h
      next => cases h

theorem exists_of_readTextFrom {start read s : List Char} {h : s.length ≤ start.length}
    {r : Read String start} (hread : readTextFrom start read s h = .ok r) :
    ∃ pieces, s = piecesChars pieces ++ '"' :: r.rest := by
  fun_induction readTextFrom start read s h with
  | case1 => cases hread
  | case2 =>
    cases hread
    exact ⟨[], rfl⟩
  | case3 => cases hread
  | case4 read rest r' hescape _ _ _ _ ih =>
    obtain ⟨pieces, hpieces⟩ := exists_of_readEscape (show taken (readEscape rest) = _ by
      rw [hescape, taken_ok])
    obtain ⟨more, hmore⟩ := ih hread
    refine ⟨pieces ++ more, ?_⟩
    rw [hpieces, hmore, piecesChars_append, List.append_assoc]
  | case5 => cases hread
  | case6 read c rest _ _ hquote hbackslash hcontrol _ ih =>
    obtain ⟨more, hmore⟩ := ih hread
    exact ⟨.plain c ⟨hquote, hbackslash, hcontrol⟩ :: more, congrArg (c :: ·) hmore⟩

/-- Whatever string is read, it is made of pieces. -/
theorem exists_of_readText {s : List Char} {got : String × List Char}
    (h : taken (readText s) = some got) : ∃ pieces, s = piecesChars pieces ++ '"' :: got.2 := by
  obtain ⟨r, hread, rfl⟩ := exists_of_taken h
  exact exists_of_readTextFrom hread

/-! ## Skipping pieces -/

theorem taken_skipEscape (piece : Piece) {letters : List Char} (h : piece.chars = '\\' :: letters)
    (rest : List Char) : taken (skipEscape (letters ++ rest)) = some ((), rest) := by
  cases piece with
  | plain c hc =>
    cases h
    exact absurd rfl hc.2.1
  | short letter c hc =>
    cases h
    simp only [List.singleton_append, skipEscape, hc, Option.isSome_some, if_true]
    rfl
  | numbered a b c d n hn =>
    cases h
    simp only [List.cons_append, List.nil_append, skipEscape]
    rw [if_neg (by decide), if_pos trivial, taken_behindChar, taken_readerMap, taken_readHex hn]
    rfl

section

variable {start s : List Char}

theorem taken_skipTextFrom_plain {c : Char} (hc : c ≠ '"' ∧ c ≠ '\\' ∧ ¬c < ' ')
    (h : (c :: s).length ≤ start.length) :
    taken (skipTextFrom start (c :: s) h) = taken (skipTextFrom start s (Nat.le_of_lt h)) := by
  rw [skipTextFrom, if_neg hc.1, if_neg hc.2.1, if_neg hc.2.2]

theorem taken_skipTextFrom_escape (h : ('\\' :: s).length ≤ start.length) {rest : List Char}
    (hescape : taken (skipEscape s) = some ((), rest)) :
    ∃ h', taken (skipTextFrom start ('\\' :: s) h) = taken (skipTextFrom start rest h') := by
  obtain ⟨shorter, hread⟩ := gives_iff.mpr hescape
  refine ⟨Nat.le_of_lt (Nat.lt_trans shorter h), ?_⟩
  rw [skipTextFrom, if_neg (by decide), if_pos rfl, hread]

theorem taken_skipTextFrom_quote (h : ('"' :: s).length ≤ start.length) :
    taken (skipTextFrom start ('"' :: s) h) = some ((), s) := by
  rw [skipTextFrom, if_pos rfl, taken_ok]

end

/-- Each piece is skipped as a whole, up to the quote behind them. -/
theorem taken_skipTextFrom (start : List Char) (pieces : List Piece) (rest : List Char)
    (h : (piecesChars pieces ++ '"' :: rest).length ≤ start.length) :
    taken (skipTextFrom start (piecesChars pieces ++ '"' :: rest) h) = some ((), rest) := by
  induction pieces with
  | nil => exact taken_skipTextFrom_quote h
  | cons piece pieces ih =>
    cases piece with
    | plain c hc => exact (taken_skipTextFrom_plain hc h).trans (ih _)
    | short letter c hc =>
      obtain ⟨h', hskip⟩ := taken_skipTextFrom_escape h (taken_skipEscape (.short letter c hc) rfl _)
      exact hskip.trans (ih h')
    | numbered a b c d n hn =>
      obtain ⟨h', hskip⟩ :=
        taken_skipTextFrom_escape h (taken_skipEscape (.numbered a b c d n hn) rfl _)
      exact hskip.trans (ih h')

/-- A string is skipped whatever its pieces stand for. -/
theorem taken_skipText (pieces : List Piece) (rest : List Char) :
    taken (skipText (piecesChars pieces ++ '"' :: rest)) = some ((), rest) :=
  taken_skipTextFrom _ pieces rest _

theorem exists_of_skipEscape {s : List Char} {r : Read Unit s} (h : skipEscape s = .ok r) :
    ∃ piece : Piece, '\\' :: s = piece.chars ++ r.rest := by
  unfold skipEscape at h
  split at h
  · cases h
  next letter more =>
    split at h
    next hshort =>
      obtain ⟨plain, hplain⟩ := Option.isSome_iff_exists.mp hshort
      cases h
      exact ⟨.short letter plain hplain, rfl⟩
    next =>
      split at h
      next hu =>
        subst hu
        have htaken := taken_behindChar (Reader.map (fun _ => ()) readHex) 'u' more
        rw [h, taken_readerMap] at htaken
        cases hdigits : readHex more with
        | error e =>
          rw [hdigits] at htaken
          cases htaken
        | ok digits =>
          obtain ⟨a, b, c, d, hmore, hhex⟩ := exists_of_readHex hdigits
          rw [hdigits] at htaken
          obtain ⟨_, hrest⟩ := Prod.mk.inj (Option.some.inj htaken)
          rw [hrest]
          exact ⟨.numbered a b c d _ hhex, congrArg ('\\' :: 'u' :: ·) hmore⟩
      next => cases h

theorem exists_of_skipTextFrom {start s : List Char} {h : s.length ≤ start.length}
    {r : Read Unit start} (hskip : skipTextFrom start s h = .ok r) :
    ∃ pieces, s = piecesChars pieces ++ '"' :: r.rest := by
  fun_induction skipTextFrom start s h with
  | case1 => cases hskip
  | case2 =>
    cases hskip
    exact ⟨[], rfl⟩
  | case3 => cases hskip
  | case4 rest r' hescape _ _ _ _ ih =>
    obtain ⟨piece, hpiece⟩ := exists_of_skipEscape hescape
    obtain ⟨more, hmore⟩ := ih hskip
    refine ⟨piece :: more, ?_⟩
    rw [hpiece, hmore, piecesChars_cons, List.append_assoc]
  | case5 => cases hskip
  | case6 c rest _ _ hquote hbackslash hcontrol _ ih =>
    obtain ⟨more, hmore⟩ := ih hskip
    exact ⟨.plain c ⟨hquote, hbackslash, hcontrol⟩ :: more, congrArg (c :: ·) hmore⟩

/-- Whatever string is skipped, it is made of pieces. -/
theorem exists_of_skipText {s : List Char} {got : Unit × List Char}
    (h : taken (skipText s) = some got) : ∃ pieces, s = piecesChars pieces ++ '"' :: got.2 := by
  obtain ⟨r, hskip, rfl⟩ := exists_of_taken h
  exact exists_of_skipTextFrom hskip

end ScanClient.Json
