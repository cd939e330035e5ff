import Mathlib.Data.List.DropRight
import ScanClient.Http.Client
import ScanClient.Proofs.Percent

/-!
# Plain addresses

Addresses of a host, perhaps with a port, and segments behind it. Nothing in them has to be cleaned
or encoded, so reading them finds what they have been put together of. Only dots are resolved.
-/

namespace ScanClient.Http

open Text

/-- The characters of a host and a port. -/
def isAuthorityChar (c : Char) : Bool :=
  ' ' < c && !isBlank c && !"/\\?#@".toList.contains c

/-- Segments, each behind a slash. -/
def joinSegments (segments : List String) : String := String.join (segments.map ("/" ++ ·))

/-- The host and the port that an authority names. -/
def readHostAndPort (s : List Char) : Except UrlFault (Host × Option Nat) := do
  let (host, port) := splitPort false s
  if host.isEmpty then .error .emptyHost
  else
    let host ← parseHost host
    let port ← parsePort "http" (port.drop 1)
    pure (host, port)

/-- The address with a path behind a host. -/
def plainUrl (path : List Char) (host : Host × Option Nat) : Url where
  scheme := "http"
  credentials := none
  host := some host.1
  port := host.2
  path := .segments (parsePath "http" path)
  query := none
  fragment := none

/-! ## The authority -/

theorem isAuthorityChar_iff {c : Char} :
    isAuthorityChar c = true ↔
      ' ' < c ∧ isBlank c = false ∧ c ≠ '/' ∧ c ≠ '\\' ∧ c ≠ '?' ∧ c ≠ '#' ∧ c ≠ '@' := by
  simp [isAuthorityChar, and_assoc]

theorem splitCredentials_plain {s : List Char} (h : ∀ c ∈ s, c ≠ '@') :
    splitCredentials s = (none, s) := by
  have htake : s.reverse.takeWhile (· != '@') = s.reverse := by
    rw [List.takeWhile_eq_self_iff]
    intro c hc
    exact bne_iff_ne.mpr (h c (List.mem_reverse.mp hc))
  simp only [splitCredentials, htake, List.reverse_reverse, Nat.lt_irrefl, if_false]

theorem splitPort_append (bracketed : Bool) (s : List Char) :
    (splitPort bracketed s).1 ++ (splitPort bracketed s).2 = s := by
  induction s generalizing bracketed with
  | nil => rfl
  | cons c s ih =>
    rw [splitPort]
    split
    · rfl
    · exact congrArg (c :: ·) (ih _)

/-- What is not there is not split off. -/
theorem splitBefore_none {stop : Char → Bool} {s : List Char} (h : ∀ c ∈ s, stop c = false) :
    splitBefore stop s = (s, []) := by
  have hstop : ∀ c ∈ s, (!stop c) = true := fun c hc => by rw [h c hc]; rfl
  rw [splitBefore, List.takeWhile_eq_self_iff.mpr hstop, List.dropWhile_eq_nil_iff.mpr hstop]

theorem splitBefore_append {stop : Char → Bool} {s rest : List Char}
    (h : ∀ c ∈ s, stop c = false) (hrest : ∀ c ∈ rest.head?, stop c = true) :
    splitBefore stop (s ++ rest) = (s, rest) := by
  have hstop : ∀ c ∈ s, (!stop c) = true := fun c hc => by rw [h c hc]; rfl
  rw [splitBefore, List.takeWhile_append_of_pos hstop, List.dropWhile_append_of_pos hstop]
  cases rest with
  | nil => rw [List.takeWhile_nil, List.dropWhile_nil, List.append_nil]
  | cons c rest =>
    simp only [List.takeWhile_cons, List.dropWhile_cons, hrest c rfl, Bool.not_true,
      Bool.false_eq_true, if_false, List.append_nil]

/-- An authority of nothing but a host and a port is read the same, whatever follows it. -/
theorem parseAuthority_plain {s : List Char} (h : ∀ c ∈ s, isAuthorityChar c = true) (last : Bool) :
    parseAuthority "http" last s =
      (readHostAndPort s).map fun (host, port) => ⟨none, host, port, []⟩ := by
  have hcredentials : splitCredentials s = (none, s) :=
    splitCredentials_plain fun c hc => (isAuthorityChar_iff.mp (h c hc)).2.2.2.2.2.2
  have hport : splitBefore (· == '\\') (splitPort false s).2 = ((splitPort false s).2, []) := by
    apply splitBefore_none
    intro c hc
    have hmem : c ∈ s := by
      rw [← splitPort_append false s]
      exact List.mem_append_right _ hc
    exact beq_eq_false_iff_ne.mpr (isAuthorityChar_iff.mp (h c hmem)).2.2.2.1
  have hspecial : isSpecial "http" = true := rfl
  simp only [parseAuthority, readHostAndPort, hcredentials, hport, hspecial, Option.bind_none]
  rw [if_neg fun hempty => nomatch hempty.1]
  by_cases hempty : (splitPort false s).1.isEmpty = true
  · rw [if_pos ⟨hempty, .inl trivial⟩, if_pos hempty]
    rfl
  · rw [if_neg fun h => hempty h.1, if_pos trivial, if_neg hempty]
    cases parseHost (splitPort false s).1 with
    | error fault => rfl
    | ok host => cases parsePort "http" ((splitPort false s).2.drop 1) <;> rfl

/-! ## Reading an address -/

/-- Nothing is trimmed off where nothing that is trimmed stands. -/
theorem dropWhile_eq_self {p : Char → Bool} {s : List Char} (h : ∀ c ∈ s, p c = false) :
    s.dropWhile p = s := by
  rw [List.dropWhile_eq_self_iff]
  intro hpos
  exact Bool.eq_false_iff.mp (h _ (List.getElem_mem hpos))

theorem cleanUrl_plain {s : List Char} (h : ∀ c ∈ s, ' ' < c) : cleanUrl s = s := by
  have hnot : ∀ c ∈ s, decide (c ≤ ' ') = false := fun c hc =>
    decide_eq_false (Nat.not_le_of_lt (h c hc))
  have hkept : ∀ c ∈ s, (c != '\t' && c != '\n' && c != '\r') = true := by
    intro c hc
    have hlt := h c hc
    simp only [Bool.and_eq_true, bne_iff_ne]
    refine ⟨⟨?_, ?_⟩, ?_⟩ <;> rintro rfl <;> exact absurd hlt (by decide)
  rw [cleanUrl, dropWhile_eq_self hnot,
    dropWhile_eq_self fun c hc => hnot c (List.mem_reverse.mp hc), List.reverse_reverse,
    List.filter_eq_self.mpr hkept]

/-- What may stand behind an authority: nothing, or a path. -/
structure IsPath (s : List Char) : Prop where
  head : ∀ c ∈ s.head?, c = '/'
  plain : ∀ c ∈ s, ' ' < c ∧ c ≠ '\\' ∧ c ≠ '?' ∧ c ≠ '#'

theorem splitRest_plain {s : List Char} (h : IsPath s) : splitRest s = ⟨s, none, none⟩ := by
  have hfragment : splitBefore (· == '#') s = (s, []) :=
    splitBefore_none fun c hc => beq_eq_false_iff_ne.mpr (h.plain c hc).2.2.2
  have hquery : splitBefore (· == '?') s = (s, []) :=
    splitBefore_none fun c hc => beq_eq_false_iff_ne.mpr (h.plain c hc).2.2.1
  simp only [splitRest, hfragment, hquery, List.isEmpty_nil, if_true]

theorem parseHosted_plain {authority path : List Char}
    (hauthority : ∀ c ∈ authority, isAuthorityChar c = true) (hpath : IsPath path) :
    parseHosted "http" (authority ++ path) = (readHostAndPort authority).map (plainUrl path) := by
  have hsplit : splitBefore (fun c => isSlash (isSpecial "http") c || c == '?' || c == '#')
      (authority ++ path) = (authority, path) := by
    apply splitBefore_append
    · intro c hc
      obtain ⟨_, _, hslash, hbackslash, hquery, hfragment, _⟩ :=
        isAuthorityChar_iff.mp (hauthority c hc)
      simp [isSlash, hslash, hbackslash, hquery, hfragment]
    · intro c hc
      rw [hpath.head c hc]
      rfl
  simp only [parseHosted, hsplit, parseAuthority_plain hauthority]
  cases readHostAndPort authority with
  | error fault => rfl
  | ok host =>
    simp only [Except.map, bind, Except.bind, List.nil_append, finishUrl, splitRest_plain hpath]
    rfl

theorem parse_plain {authority path : List Char} (hne : authority ≠ [])
    (hauthority : ∀ c ∈ authority, isAuthorityChar c = true) (hpath : IsPath path) :
    Url.parse (String.ofList ("http://".toList ++ authority ++ path)) =
      (readHostAndPort authority).map (plainUrl path) := by
  have hclean : cleanUrl ("http://".toList ++ authority ++ path) =
      "http://".toList ++ authority ++ path := by
    have hfront : ("http://".toList.all fun c => ' ' < c) = true := by decide
    apply cleanUrl_plain
    intro c hc
    rcases List.mem_append.mp hc with hc | hc
    · rcases List.mem_append.mp hc with hc | hc
      · exact of_decide_eq_true (List.all_eq_true.mp hfront c hc)
      · exact (isAuthorityChar_iff.mp (hauthority c hc)).1
    · exact (hpath.plain c hc).1
  have hscheme : splitScheme ("http://".toList ++ authority ++ path) =
      some ("http", '/' :: '/' :: (authority ++ path)) := rfl
  -- the authority does not begin with a slash, so no more than two are dropped
  have hslashes : ('/' :: '/' :: (authority ++ path)).dropWhile (isSlash true) =
      authority ++ path := by
    obtain ⟨c, rest, rfl⟩ := List.exists_cons_of_ne_nil hne
    obtain ⟨_, _, hslash, hbackslash, _⟩ :=
      isAuthorityChar_iff.mp (hauthority c List.mem_cons_self)
    simp [isSlash, hslash, hbackslash]
  rw [Url.parse, String.toList_ofList, hclean, hscheme]
  simp only
  rw [if_neg (by decide), if_pos (show isSpecial "http" = true from rfl), hslashes,
    parseHosted_plain hauthority hpath]

/-! ## Paths of segments -/

theorem toList_joinSegments (segments : List String) :
    (joinSegments segments).toList = segments.flatMap fun s => '/' :: s.toList := by
  rw [joinSegments, String.toList_join, List.flatMap_map]
  congr
  funext s
  rw [String.toList_append]
  rfl

theorem joinSegments_append (segments more : List String) :
    joinSegments (segments ++ more) = joinSegments segments ++ joinSegments more := by
  apply String.toList_injective
  simp only [String.toList_append, toList_joinSegments, List.flatMap_append]

theorem joinSegments_cons (s : String) (segments : List String) :
    joinSegments (s :: segments) = "/" ++ s ++ joinSegments segments := by
  rw [joinSegments, List.map_cons, String.join_cons]
  rfl

/-- Behind the first slash the segments stand between slashes. -/
theorem toList_joinSegments_cons (s : String) (segments : List String) :
    (joinSegments (s :: segments)).toList =
      '/' :: ['/'].intercalate ((s :: segments).map String.toList) := by
  induction segments generalizing s with
  | nil => simp [toList_joinSegments]
  | cons t segments ih =>
    rw [joinSegments_cons, String.toList_append, ih]
    simp

variable {names : List String}

theorem mem_joinSegments {c : Char}
    (hc : c ∈ (joinSegments (names.map encodeSegment)).toList) :
    c = '/' ∨ isSegmentChar c = true := by
  rw [toList_joinSegments] at hc
  obtain ⟨s, hs, hc⟩ := List.mem_flatMap.mp hc
  obtain ⟨name, _, rfl⟩ := List.mem_map.mp hs
  rcases List.mem_cons.mp hc with rfl | hc
  · exact .inl rfl
  · exact .inr (isSegmentChar_of_mem_encodeSegment hc)

theorem isPath_joinSegments (names : List String) :
    IsPath (joinSegments (names.map encodeSegment)).toList where
  head := by
    intro c hc
    cases names with
    | nil => cases hc
    | cons name names =>
      rw [List.map_cons, toList_joinSegments_cons] at hc
      exact (Option.some.inj hc).symm
  plain := by
    intro c hc
    rcases mem_joinSegments hc with rfl | hc
    · decide
    · have hplain := of_isSegmentChar (p := fun c => ' ' < c && c != '\\' && c != '?' && c != '#')
        (by decide) hc
      simpa [and_assoc] using hplain

/-- Segments that have been joined are split again. -/
theorem parsePath_joinSegments (names : List String) (hne : names ≠ []) :
    parsePath "http" (joinSegments (names.map encodeSegment)).toList =
      addSegments false [] (names.map fun name => (encodeSegment name).toList) := by
  obtain ⟨name, rest, rfl⟩ := List.exists_cons_of_ne_nil hne
  have hjoined := toList_joinSegments_cons (encodeSegment name) (rest.map encodeSegment)
  rw [← List.map_cons, List.map_map] at hjoined
  have hslash : ∀ c ∈ ['/'].intercalate ((name :: rest).map (String.toList ∘ encodeSegment)),
      (if isSlash true c then '/' else c) = c := by
    intro c hc
    have hmem := List.mem_cons_of_mem '/' hc
    rw [← hjoined] at hmem
    -- there are no backslashes, so only slashes are slashes
    rcases mem_joinSegments hmem with rfl | hsegment
    · rfl
    · have hplain := of_isSegmentChar (p := fun c => !isSlash true c) (by decide) hsegment
      rw [if_neg (by simpa using hplain)]
  have hsplit : splitSegments true
      (['/'].intercalate ((name :: rest).map (String.toList ∘ encodeSegment))) =
      (name :: rest).map (String.toList ∘ encodeSegment) := by
    rw [splitSegments, List.map_congr_left hslash, List.map_id', List.splitOn_intercalate]
    · intro l hl hc
      obtain ⟨name', _, rfl⟩ := List.mem_map.mp hl
      have hplain := of_isSegmentChar (p := (· != '/')) (by decide)
        (isSegmentChar_of_mem_encodeSegment hc)
      cases hplain
    · exact List.cons_ne_nil _ _
  rw [hjoined]
  simp only [parsePath]
  rw [if_pos (show isSlash (isSpecial "http") '/' = true from rfl),
    show isSpecial "http" = true from rfl, hsplit]
  rfl

/-! ## Dots -/

/-- A segment that is no dots is added as it is. -/
theorem addSegments_cons {name : String} (h : name ≠ "." ∧ name ≠ "..") (path : List String)
    (rest : List (List Char)) :
    addSegments false path ((encodeSegment name).toList :: rest) =
      addSegments false (path ++ [encodeSegment name]) rest := by
  have hdot : decodeDots (encodeSegment name).toList ≠ ['.'] :=
    (decodeDots_encodeSegment_iff name "." (by decide)).not.mpr h.1
  have hdots : decodeDots (encodeSegment name).toList ≠ ['.', '.'] :=
    (decodeDots_encodeSegment_iff name ".." (by decide)).not.mpr h.2
  rw [addSegments, if_neg hdots, if_neg hdot, if_neg fun hfile => Bool.false_ne_true hfile.1,
    encodeText_encodeSegment]

theorem addSegments_append {names : List String} (h : ∀ name ∈ names, name ≠ "." ∧ name ≠ "..")
    (path : List String) (rest : List (List Char)) :
    addSegments false path ((names.map fun name => (encodeSegment name).toList) ++ rest) =
      addSegments false (path ++ names.map encodeSegment) rest := by
  induction names generalizing path with
  | nil => rw [List.map_nil, List.map_nil, List.nil_append, List.append_nil]
  | cons name names ih =>
    rw [List.map_cons, List.cons_append, addSegments_cons (h name List.mem_cons_self),
      ih fun name hname => h name (List.mem_cons_of_mem _ hname), List.append_assoc]
    rfl

end ScanClient.Http
