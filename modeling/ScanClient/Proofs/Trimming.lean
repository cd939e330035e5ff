import Mathlib.Data.List.DropRight
import ScanClient.Text.Blank

/-!
# Trimming

A text without the blanks at its ends is the part between two stretches of blanks that has no blank
at an end itself. There is one such part only, so to know how a text is put together is to know what
is left of it.
-/

namespace ScanClient.Text

def Blanks (s : List Char) : Prop := ∀ c ∈ s, isBlank c = true

/-- No blank at either end. -/
structure Tight (s : List Char) : Prop where
  first : ∀ c, s.head? = some c → isBlank c = false
  last : ∀ c, s.getLast? = some c → isBlank c = false

theorem blanks_nil : Blanks [] := fun _ h => nomatch h

theorem tight_nil : Tight [] where
  first _ h := nomatch h
  last _ h := nomatch h

theorem Tight.of_forall {s : List Char} (h : ∀ c ∈ s, isBlank c = false) : Tight s where
  first c hc := h c (List.mem_of_head? hc)
  last c hc := h c (List.mem_of_getLast? hc)

section

variable {p : Char → Bool} {front body tail : List Char}

theorem dropWhile_append_self (hfront : ∀ c ∈ front, p c = true)
    (hbody : ∀ c, body.head? = some c → p c = false) : (front ++ body).dropWhile p = body := by
  rw [List.dropWhile_append_of_pos hfront]
  cases body with
  | nil => rfl
  | cons c body => rw [List.dropWhile_cons, hbody c rfl]; rfl

theorem dropEndWhile_append (htail : ∀ c ∈ tail, p c = true)
    (hbody : ∀ c, body.getLast? = some c → p c = false) :
    dropEndWhile p (body ++ tail) = body := by
  -- read from behind, the tail comes first
  rw [dropEndWhile, List.reverse_append, dropWhile_append_self, List.reverse_reverse]
  · intro c hc
    exact htail c (List.mem_reverse.mp hc)
  · intro c hc
    rw [List.head?_reverse] at hc
    exact hbody c hc

/-- What is dropped at the end, and what the rest cannot end with. -/
theorem exists_dropEndWhile (p : Char → Bool) (s : List Char) :
    ∃ tail, s = dropEndWhile p s ++ tail ∧ (∀ c ∈ tail, p c = true) ∧
      ∀ c, (dropEndWhile p s).getLast? = some c → p c = false := by
  refine ⟨(s.reverse.takeWhile p).reverse, ?_, ?_, ?_⟩
  · rw [dropEndWhile, ← List.reverse_append, List.takeWhile_append_dropWhile, List.reverse_reverse]
  · intro c hc
    exact List.mem_takeWhile_imp (List.mem_reverse.mp hc)
  · intro c hc
    rw [dropEndWhile, List.getLast?_reverse] at hc
    have hnot := List.head?_dropWhile_not p s.reverse
    rw [hc] at hnot
    exact hnot

end

theorem trimChars_append {before body after : List Char} (hbefore : Blanks before)
    (hbody : Tight body) (hafter : Blanks after) : trimChars (before ++ body ++ after) = body := by
  by_cases hne : body = []
  · -- nothing but blanks: all of them are dropped at the beginning
    subst hne
    have hall : ∀ c ∈ before ++ [] ++ after, isBlank c = true := by
      intro c hc
      rw [List.append_nil] at hc
      exact (List.mem_append.mp hc).elim (hbefore c) (hafter c)
    rw [trimChars, List.dropWhile_eq_nil_iff.mpr hall]
    rfl
  · have hfirst : ∀ c, (body ++ after).head? = some c → isBlank c = false := by
      intro c hc
      rw [List.head?_append_of_ne_nil _ hne] at hc
      exact hbody.first c hc
    rw [trimChars, List.append_assoc, dropWhile_append_self hbefore hfirst,
      dropEndWhile_append hafter hbody.last]

theorem tight_trimChars (s : List Char) : Tight (trimChars s) := by
  obtain ⟨tail, hrest, -, hlast⟩ := exists_dropEndWhile isBlank (s.dropWhile isBlank)
  refine ⟨?_, hlast⟩
  intro c hc
  -- the first character that is left was the first after the blanks
  have hne : dropEndWhile isBlank (s.dropWhile isBlank) ≠ [] := by
    intro h
    rw [trimChars, h] at hc
    cases hc
  have hhead : (s.dropWhile isBlank).head? = some c := by
    rw [hrest, List.head?_append_of_ne_nil _ hne]
    exact hc
  have hnot := List.head?_dropWhile_not isBlank s
  rw [hhead] at hnot
  exact hnot

theorem exists_trimChars (s : List Char) :
    ∃ before after, Blanks before ∧ Blanks after ∧ s = before ++ trimChars s ++ after := by
  obtain ⟨tail, hrest, htail, -⟩ := exists_dropEndWhile isBlank (s.dropWhile isBlank)
  refine ⟨s.takeWhile isBlank, tail, fun c hc => List.mem_takeWhile_imp hc, htail, ?_⟩
  rw [List.append_assoc, trimChars, ← hrest, List.takeWhile_append_dropWhile]

theorem trimChars_eq_iff {s body : List Char} :
    trimChars s = body ↔ Tight body ∧
      ∃ before after, Blanks before ∧ Blanks after ∧ s = before ++ body ++ after := by
  constructor
  · rintro rfl
    exact ⟨tight_trimChars s, exists_trimChars s⟩
  · rintro ⟨hbody, before, after, hbefore, hafter, rfl⟩
    exact trimChars_append hbefore hbody hafter

theorem Tight.trimChars_eq {s : List Char} (h : Tight s) : trimChars s = s := by
  have htrim := trimChars_append blanks_nil h blanks_nil
  rwa [List.nil_append, List.append_nil] at htrim

theorem trimChars_of_isBlank {s : List Char} (h : s.all isBlank = true) : trimChars s = [] := by
  have hs : s = s ++ [] ++ [] := by simp
  rw [hs]
  exact trimChars_append (List.all_eq_true.mp h) tight_nil blanks_nil

end ScanClient.Text
