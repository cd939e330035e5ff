import ScanClient.Settings
import ScanClient.Proofs.Decimals
import ScanClient.Proofs.Encoding
import ScanClient.Proofs.Trimming

/-!
# Numbers from the environment

How long to wait and how often to ask can be set by variables of the environment, one for each
number. A variable that is a number in the range of its setting counts; whatever else it is, the
setting has its default, and if it is text that is no number, this is reported.
-/

namespace ScanClient

open Calendar Text

/-! ## Numerals -/

/-- A number as settings spell it: with zeros and a plus sign before its digits, or without. -/
def IsNumeral (n : Nat) (s : List Char) : Prop :=
  ∃ sign zeros, (sign = [] ∨ sign = ['+']) ∧
    s = sign ++ (List.replicate zeros '0' ++ Nat.toDigits 10 n)

/-- Blanks may stand around the numeral. -/
def SpellsNumber (n : Nat) (text : String) : Prop :=
  ∃ before numeral after, Blanks before ∧ IsNumeral n numeral ∧ Blanks after ∧
    text.toList = before ++ numeral ++ after

/-- The value of nothing but digits, up to a limit. -/
def valueWithin (limit : Nat) (ds : List Char) : Option Nat :=
  if ds.isEmpty ∨ !ds.all Char.isDigit then none
  else if Nat.ofDigitChars 10 ds 0 ≤ limit then some (Nat.ofDigitChars 10 ds 0)
  else none

theorem valueWithin_eq_some_iff {limit n : Nat} {ds : List Char} :
    valueWithin limit ds = some n ↔ ds ≠ [] ∧ Digits ds ∧ decimalValue ds = n ∧ n ≤ limit := by
  simp only [valueWithin, Option.ite_none_left_eq_some, Option.ite_none_right_eq_some,
    Option.some.injEq, decimalValue, Digits, ne_eq, List.isEmpty_iff, Bool.not_eq_true', not_or,
    Bool.not_eq_false, List.all_eq_true]
  constructor
  · rintro ⟨⟨hne, hds⟩, hle, rfl⟩
    exact ⟨hne, hds, rfl, hle⟩
  · rintro ⟨hne, hds, rfl, hle⟩
    exact ⟨⟨hne, hds⟩, hle, rfl⟩

theorem parseUnsigned_plus (limit : Nat) (rest : List Char) :
    parseUnsigned limit ('+' :: rest) = valueWithin limit rest := rfl

theorem parseUnsigned_of_ne {s : List Char} (h : ∀ rest, s ≠ '+' :: rest) (limit : Nat) :
    parseUnsigned limit s = valueWithin limit s := by
  -- the pattern of the sign is one that the text does not have
  unfold parseUnsigned valueWithin
  simp only

theorem parseUnsigned_eq_some_iff_digits {limit n : Nat} {s : List Char} :
    parseUnsigned limit s = some n ↔
      ∃ ds, (s = ds ∨ s = '+' :: ds) ∧ ds ≠ [] ∧ Digits ds ∧ decimalValue ds = n ∧ n ≤ limit := by
  -- a plus sign is no digit, so the one at the beginning is the sign
  by_cases hplus : ∃ rest, s = '+' :: rest
  · obtain ⟨rest, rfl⟩ := hplus
    rw [parseUnsigned_plus, valueWithin_eq_some_iff]
    constructor
    · exact fun h => ⟨rest, .inr rfl, h⟩
    · rintro ⟨ds, rfl | hs, hne, hds, h⟩
      · exact absurd (hds '+' List.mem_cons_self) (by decide)
      · cases hs
        exact ⟨hne, hds, h⟩
  · rw [not_exists] at hplus
    rw [parseUnsigned_of_ne hplus, valueWithin_eq_some_iff]
    constructor
    · exact fun h => ⟨s, .inl rfl, h⟩
    · rintro ⟨ds, rfl | hs, h⟩
      · exact h
      · exact absurd hs (hplus ds)

theorem parseUnsigned_eq_some_iff {limit n : Nat} {s : List Char} :
    parseUnsigned limit s = some n ↔ IsNumeral n s ∧ n ≤ limit := by
  rw [parseUnsigned_eq_some_iff_digits]
  constructor
  · rintro ⟨ds, hs, hne, hds, rfl, hle⟩
    obtain ⟨zeros, hzeros⟩ := exists_zeros_toDigits hds hne
    refine ⟨?_, hle⟩
    cases hs with
    | inl hs => exact ⟨[], zeros, .inl rfl, by rw [hs, ← hzeros]; rfl⟩
    | inr hs => exact ⟨['+'], zeros, .inr rfl, by rw [hs, ← hzeros]; rfl⟩
  · rintro ⟨⟨sign, zeros, hsign, rfl⟩, hle⟩
    refine ⟨List.replicate zeros '0' ++ Nat.toDigits 10 n, ?_, ?_, ?_, decimalValue_zeros zeros n,
      hle⟩
    · cases hsign with
      | inl hsign => exact .inl (by rw [hsign]; rfl)
      | inr hsign => exact .inr (by rw [hsign]; rfl)
    · exact fun h => Nat.toDigits_ne_nil (List.append_eq_nil_iff.mp h).2
    · exact (digits_replicate zeros).append (digits_toDigits n)

theorem IsNumeral.tight {n : Nat} {s : List Char} (h : IsNumeral n s) : Tight s ∧ s ≠ [] := by
  obtain ⟨sign, zeros, hsign, rfl⟩ := h
  have hplain : ∀ c ∈ sign ++ (List.replicate zeros '0' ++ Nat.toDigits 10 n),
      isBlank c = false := by
    intro c hc
    cases List.mem_append.mp hc with
    | inl hsigned =>
      cases hsign with
      | inl hnone =>
        rw [hnone] at hsigned
        cases hsigned
      | inr hplus =>
        rw [hplus] at hsigned
        rw [List.mem_singleton.mp hsigned]
        decide
    | inr hdigit =>
      exact isBlank_of_isDigit ((digits_replicate zeros).append (digits_toDigits n) c hdigit)
  refine ⟨.of_forall hplain, ?_⟩
  intro h
  exact Nat.toDigits_ne_nil (List.append_eq_nil_iff.mp (List.append_eq_nil_iff.mp h).2).2

theorem spellsNumber_iff {n : Nat} {text : String} :
    SpellsNumber n text ↔ IsNumeral n (trimChars text.toList) := by
  constructor
  · rintro ⟨before, numeral, after, hbefore, hnumeral, hafter, htext⟩
    rw [htext, trimChars_append hbefore hnumeral.tight.1 hafter]
    exact hnumeral
  · intro h
    obtain ⟨before, after, hbefore, hafter, htext⟩ := exists_trimChars text.toList
    exact ⟨before, _, after, hbefore, h, hafter, htext⟩

/-! ## Variables -/

/-- The variable is set to the bytes of this text. -/
def Environment.Holds (env : Environment) (key text : String) : Prop :=
  env.bytes? key = some (Utf8.encodeText text)

def Environment.Sets (env : Environment) (key : String) (n : Nat) : Prop :=
  ∃ text, env.Holds key text ∧ SpellsNumber n text

/-- The variable is set to a text that is neither blank nor a number up to the limit. -/
structure Environment.Ignored (env : Environment) (key : String) (limit : Nat) (raw : String) :
    Prop where
  holds : env.Holds key raw
  notBlank : ¬Blanks raw.toList
  noNumber : ∀ n, SpellsNumber n raw → limit < n

theorem Environment.text?_eq_some_iff {env : Environment} {key text : String} :
    env.text? key = some text ↔ env.Holds key text := by
  rw [text?, Holds, Option.bind_eq_some_iff]
  constructor
  · rintro ⟨bytes, hbytes, htext⟩
    rw [hbytes, Utf8.decode?_eq_some_iff.mp htext]
  · exact fun h => ⟨_, h, Utf8.decode?_eq_some_iff.mpr rfl⟩

namespace Settings

variable {env : Environment} {key raw : String} {limit n : Nat}

theorem readNumber_of_unset (h : env.text? key = none) : readNumber env key limit = (none, []) := by
  rw [readNumber, h]

theorem readNumber_of_blank (h : env.Holds key raw) (hblank : Blanks raw.toList) :
    readNumber env key limit = (none, []) := by
  rw [← Environment.text?_eq_some_iff] at h
  have htrim : trimChars raw.toList = [] := trimChars_of_isBlank (List.all_eq_true.mpr hblank)
  simp only [readNumber, h, htrim, List.isEmpty_nil, if_true]

theorem isEmpty_trimChars {s : List Char} (h : ¬Blanks s) : (trimChars s).isEmpty = false := by
  rw [List.isEmpty_eq_false_iff]
  intro hnil
  obtain ⟨-, before, after, hbefore, hafter, hs⟩ := trimChars_eq_iff.mp hnil
  rw [List.append_nil] at hs
  apply h
  rw [hs]
  exact fun c hc => (List.mem_append.mp hc).elim (hbefore c) (hafter c)

theorem readNumber_of_spells (h : env.Holds key raw) (hspells : SpellsNumber n raw)
    (hle : n ≤ limit) : readNumber env key limit = (some n, []) := by
  rw [← Environment.text?_eq_some_iff] at h
  rw [spellsNumber_iff] at hspells
  have hparse := parseUnsigned_eq_some_iff.mpr ⟨hspells, hle⟩
  have hne : (trimChars raw.toList).isEmpty = false :=
    List.isEmpty_eq_false_iff.mpr hspells.tight.2
  simp only [readNumber, h, hne, hparse, Bool.false_eq_true, if_false]

theorem readNumber_of_ignored (h : env.Ignored key limit raw) :
    readNumber env key limit = (none, [.settingIgnored key raw]) := by
  have htext := Environment.text?_eq_some_iff.mpr h.holds
  have hparse : parseUnsigned limit (trimChars raw.toList) = none := by
    rw [Option.eq_none_iff_forall_ne_some]
    intro n hn
    obtain ⟨hnumeral, hle⟩ := parseUnsigned_eq_some_iff.mp hn
    have := h.noNumber n (spellsNumber_iff.mpr hnumeral)
    omega
  simp only [readNumber, htext, isEmpty_trimChars h.notBlank, hparse, Bool.false_eq_true, if_false]

/-- The four things a variable can be: no text, a blank text, a number, and what is ignored. -/
theorem readNumber_cases (env : Environment) (key : String) (limit : Nat) :
    (∀ raw, ¬env.Holds key raw) ∧ readNumber env key limit = (none, []) ∨
    ∃ raw, env.Holds key raw ∧
      (Blanks raw.toList ∧ readNumber env key limit = (none, []) ∨
      (∃ n, SpellsNumber n raw ∧ n ≤ limit ∧ readNumber env key limit = (some n, [])) ∨
      env.Ignored key limit raw ∧
        readNumber env key limit = (none, [.settingIgnored key raw])) := by
  cases htext : env.text? key with
  | none =>
    refine .inl ⟨?_, readNumber_of_unset htext⟩
    intro raw hraw
    rw [Environment.text?_eq_some_iff.mpr hraw] at htext
    cases htext
  | some raw =>
    have hraw := Environment.text?_eq_some_iff.mp htext
    refine .inr ⟨raw, hraw, ?_⟩
    by_cases hblank : Blanks raw.toList
    · exact .inl ⟨hblank, readNumber_of_blank hraw hblank⟩
    by_cases hnumber : ∃ n, SpellsNumber n raw ∧ n ≤ limit
    · obtain ⟨n, hspells, hle⟩ := hnumber
      exact .inr (.inl ⟨n, hspells, hle, readNumber_of_spells hraw hspells hle⟩)
    · have hignored : env.Ignored key limit raw := by
        refine ⟨hraw, hblank, fun n hspells => ?_⟩
        by_contra hle
        exact hnumber ⟨n, hspells, by omega⟩
      exact .inr (.inr ⟨hignored, readNumber_of_ignored hignored⟩)

theorem readNumber_eq_some_iff :
    (readNumber env key limit).1 = some n ↔ env.Sets key n ∧ n ≤ limit := by
  constructor
  · intro h
    obtain ⟨-, hread⟩ | ⟨raw, hraw, ⟨-, hread⟩ | ⟨m, hspells, hle, hread⟩ | ⟨-, hread⟩⟩ :=
      readNumber_cases env key limit
    · rw [hread] at h
      cases h
    · rw [hread] at h
      cases h
    · rw [hread] at h
      cases h
      exact ⟨⟨raw, hraw, hspells⟩, hle⟩
    · rw [hread] at h
      cases h
  · rintro ⟨⟨raw, hraw, hspells⟩, hle⟩
    rw [readNumber_of_spells hraw hspells hle]

theorem positive_eq_some_iff {number : Option Nat} :
    positive number = some n ↔ number = some n ∧ 0 < n := by
  rw [positive, Option.filter_eq_some_iff, decide_eq_true_eq]

theorem readNumber_congr {other : Environment} (h : other.bytes? key = env.bytes? key) :
    readNumber other key limit = readNumber env key limit := by
  rw [readNumber, readNumber, Environment.text?, Environment.text?, h]

/-! ## The main result -/

/-- A setting is the number of its variable if this is one from the lowest to the highest that are
allowed, and otherwise its default. -/
structure Governs (env : Environment) (key : String) (lowest highest default value : Nat) :
    Prop where
  set : ∀ n, env.Sets key n → lowest ≤ n → n ≤ highest → value = n
  unset : (∀ n, env.Sets key n → n < lowest ∨ highest < n) → value = default

/-- What is reported about a variable. -/
structure Reports (env : Environment) (key : String) (limit : Nat) (events : List Log.Event) :
    Prop where
  ignored : ∀ raw, env.Ignored key limit raw → events = [.settingIgnored key raw]
  quiet : (∀ raw, ¬env.Ignored key limit raw) → events = []

theorem governs_getD {number : Option Nat} {lowest highest : Nat}
    (h : ∀ n, number = some n ↔ env.Sets key n ∧ lowest ≤ n ∧ n ≤ highest) (default : Nat) :
    Governs env key lowest highest default (number.getD default) where
  set n hn hlow hhigh := by rw [(h n).mpr ⟨hn, hlow, hhigh⟩, Option.getD_some]
  unset hnone := by
    cases hnumber : number with
    | none => rfl
    | some n =>
      obtain ⟨hn, hlow, hhigh⟩ := (h n).mp hnumber
      have := hnone n hn
      omega

theorem governs_readNumber (env : Environment) (key : String) (limit default : Nat) :
    Governs env key 0 limit default ((readNumber env key limit).1.getD default) := by
  apply governs_getD
  intro n
  rw [readNumber_eq_some_iff]
  simp

/-- Zero counts as no number here. -/
theorem governs_positive (env : Environment) (key : String) (limit default : Nat) :
    Governs env key 1 limit default ((positive (readNumber env key limit).1).getD default) := by
  apply governs_getD
  intro n
  rw [positive_eq_some_iff, readNumber_eq_some_iff]
  constructor
  · rintro ⟨⟨hn, hle⟩, hpos⟩
    exact ⟨hn, hpos, hle⟩
  · rintro ⟨hn, hpos, hle⟩
    exact ⟨⟨hn, hle⟩, hpos⟩

theorem one_le_positive (number : Option Nat) {default : Nat} (h : 1 ≤ default) :
    1 ≤ (positive number).getD default := by
  cases hnumber : positive number with
  | none => exact h
  | some n => exact (positive_eq_some_iff.mp hnumber).2

theorem reports_readNumber (env : Environment) (key : String) (limit : Nat) :
    Reports env key limit (readNumber env key limit).2 where
  ignored raw h := by rw [readNumber_of_ignored h]
  quiet h := by
    obtain ⟨-, hread⟩ | ⟨raw, -, ⟨-, hread⟩ | ⟨n, -, -, hread⟩ | ⟨hignored, -⟩⟩ :=
      readNumber_cases env key limit
    · rw [hread]
    · rw [hread]
    · rw [hread]
    · exact absurd hignored (h raw)

/-- Each number of the settings is that of its own variable, and no other variable counts for it.
The number may stand between blanks and behind a plus sign and zeros, and must be in range: neither
the time to wait nor the number of polls is zero. For every other variable the number has its
default, and for a text that is no number, blanks apart, there is a report, in the order of the
settings. -/
theorem numbers_from_environment (env : Environment) :
    1 ≤ (ofEnvironment env).1.timeout ∧ 1 ≤ (ofEnvironment env).1.poll.maxAttempts ∧
    Governs env "CYBERGUARD_TIMEOUT_SECS" 1 (2 ^ 64 - 1) 30 (ofEnvironment env).1.timeout ∧
    Governs env "CYBERGUARD_POLL_INTERVAL_MS" 0 (2 ^ 64 - 1) 1000
      (ofEnvironment env).1.poll.interval ∧
    Governs env "CYBERGUARD_MAX_POLLS" 1 (2 ^ 32 - 1) 30 (ofEnvironment env).1.poll.maxAttempts ∧
    (∀ other : Environment,
      (other.bytes? "CYBERGUARD_TIMEOUT_SECS" = env.bytes? "CYBERGUARD_TIMEOUT_SECS" →
        (ofEnvironment other).1.timeout = (ofEnvironment env).1.timeout) ∧
      (other.bytes? "CYBERGUARD_POLL_INTERVAL_MS" = env.bytes? "CYBERGUARD_POLL_INTERVAL_MS" →
        (ofEnvironment other).1.poll.interval = (ofEnvironment env).1.poll.interval) ∧
      (other.bytes? "CYBERGUARD_MAX_POLLS" = env.bytes? "CYBERGUARD_MAX_POLLS" →
        (ofEnvironment other).1.poll.maxAttempts = (ofEnvironment env).1.poll.maxAttempts)) ∧
    ∃ aboutTimeout aboutInterval aboutPolls,
      (ofEnvironment env).2 = aboutTimeout ++ aboutInterval ++ aboutPolls ∧
      Reports env "CYBERGUARD_TIMEOUT_SECS" (2 ^ 64 - 1) aboutTimeout ∧
      Reports env "CYBERGUARD_POLL_INTERVAL_MS" (2 ^ 64 - 1) aboutInterval ∧
      Reports env "CYBERGUARD_MAX_POLLS" (2 ^ 32 - 1) aboutPolls := by
  refine ⟨one_le_positive _ (by decide), one_le_positive _ (by decide),
    governs_positive env _ maxUInt64 _, governs_readNumber env _ maxUInt64 _,
    governs_positive env _ maxUInt32 _, fun other => ⟨?_, ?_, ?_⟩,
    _, _, _, rfl, reports_readNumber env _ maxUInt64, reports_readNumber env _ maxUInt64,
    reports_readNumber env _ maxUInt32⟩
  · intro h
    simp only [ofEnvironment, readNumber_congr h]
  · intro h
    simp only [ofEnvironment, readNumber_congr h]
  · intro h
    simp only [ofEnvironment, readNumber_congr h]

end Settings

end ScanClient
