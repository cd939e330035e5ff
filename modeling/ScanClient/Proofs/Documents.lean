import ScanClient.Proofs.Numerals

/-!
# Documents

A value is written over several lines with the members of its objects sorted, and reading puts
members in the same order. So a document without lists is read as the value that was written, but for
the last bits of its doubles.
-/

namespace ScanClient.Json

/-! ## Sorted members -/

/-- Members in the order of their keys, each key once. -/
def Ascending (members : List (String × Value)) : Prop := members.Pairwise (·.1 < ·.1)

theorem mem_insertMember {key : String} {v : Value} {member : String × Value}
    {members : List (String × Value)} (h : member ∈ insertMember key v members) :
    member = (key, v) ∨ member ∈ members := by
  induction members with
  | nil => exact .inl (List.mem_singleton.mp h)
  | cons head members ih =>
    obtain ⟨k, w⟩ := head
    unfold insertMember at h
    split at h
    · exact List.mem_cons.mp h
    · split at h
      · exact (List.mem_cons.mp h).imp_right (List.mem_cons_of_mem _)
      · rcases List.mem_cons.mp h with rfl | h
        · exact .inr List.mem_cons_self
        · exact (ih h).imp_right (List.mem_cons_of_mem _)

theorem Ascending.insertMember {members : List (String × Value)} (h : Ascending members)
    (key : String) (v : Value) : Ascending (insertMember key v members) := by
  induction members with
  | nil => exact List.pairwise_singleton _ _
  | cons head members ih =>
    obtain ⟨k, w⟩ := head
    obtain ⟨hhead, hmembers⟩ := List.pairwise_cons.mp h
    unfold Json.insertMember
    split
    next hlt =>
      refine List.pairwise_cons.mpr ⟨fun member hmember => ?_, h⟩
      rcases List.mem_cons.mp hmember with rfl | hmember
      · exact hlt
      · exact String.lt_trans hlt (hhead member hmember)
    next hle =>
      split
      next hsame =>
        subst hsame
        exact List.pairwise_cons.mpr ⟨hhead, hmembers⟩
      next hne =>
        have hlt : k < key := lt_of_le_of_ne (String.not_lt.mp hle) (Ne.symm hne)
        refine List.pairwise_cons.mpr ⟨fun member hmember => ?_, ih hmembers⟩
        rcases mem_insertMember hmember with rfl | hmember
        · exact hlt
        · exact hhead member hmember

/-- A member whose key comes after all others is put at the end. -/
theorem insertMember_last {key : String} {members : List (String × Value)}
    (h : ∀ member ∈ members, member.1 < key) (v : Value) :
    insertMember key v members = members ++ [(key, v)] := by
  induction members with
  | nil => rfl
  | cons head members ih =>
    obtain ⟨k, w⟩ := head
    have hlt : k < key := h (k, w) List.mem_cons_self
    rw [insertMember, if_neg (String.lt_asymm hlt), if_neg (ne_of_gt hlt),
      ih fun member hmember => h member (List.mem_cons_of_mem _ hmember), List.cons_append]

theorem sortedMembers_eq (members : List (String × Value)) :
    sortedMembers members = members.map fun member => (member.1, member.2.sorted) := by
  induction members with
  | nil => rfl
  | cons head members ih =>
    obtain ⟨k, v⟩ := head
    rw [sortedMembers, ih, List.map_cons]

theorem ascending_sortMembers (members : List (String × Value)) :
    Ascending (sortMembers members) := by
  -- the induction is on the members, which are put among any that are sorted already
  suffices h : ∀ sorted, Ascending sorted → Ascending
      (members.foldl (fun sorted member => insertMember member.1 member.2 sorted) sorted) from
    h [] .nil
  induction members with
  | nil => exact fun _ h => h
  | cons head members ih => exact fun sorted h => ih _ (h.insertMember head.1 head.2)

theorem mem_sortMembers {member : String × Value} {members : List (String × Value)}
    (h : member ∈ sortMembers members) : member ∈ members := by
  suffices hall : ∀ sorted,
      member ∈ members.foldl (fun sorted given => insertMember given.1 given.2 sorted) sorted →
      member ∈ sorted ∨ member ∈ members from
    (hall [] h).resolve_left (List.not_mem_nil)
  clear h
  induction members with
  | nil => exact fun _ h => .inl h
  | cons head members ih =>
    intro sorted h
    rcases ih _ h with h | h
    · rcases mem_insertMember h with rfl | h
      · exact .inr List.mem_cons_self
      · exact .inl h
    · exact .inr (List.mem_cons_of_mem _ h)

/-! ## What is read of a value -/

mutual

/-- The value that is read where a value without lists was written. -/
def Value.reread : Value → Value
  | .number (.double x) => .number (.double (Json.reread x))
  | .object members => .object (rereadMembers members)
  | v => v

def rereadMembers : List (String × Value) → List (String × Value)
  | [] => []
  | (key, v) :: rest => (key, v.reread) :: rereadMembers rest

end

theorem rereadMembers_eq (members : List (String × Value)) :
    rereadMembers members = members.map fun member => (member.1, member.2.reread) := by
  induction members with
  | nil => rfl
  | cons head members ih =>
    obtain ⟨k, v⟩ := head
    rw [rereadMembers, ih, List.map_cons]

/-- Values without lists, whose brackets nest at most so deep and whose numbers are integers of 64
bits or doubles from 0 to 1. -/
inductive Legible : Nat → Value → Prop where
  | null (room : Nat) : Legible room .null
  | boolean (room : Nat) (b : Bool) : Legible room (.boolean b)
  | string (room : Nat) (s : String) : Legible room (.string s)
  | integer (room : Nat) {n : Nat} (h : n ≤ maxSignificand) : Legible room (.ofNat n)
  | double (room : Nat) {x : Double} (hzero : Double.zero.le x = true) (hone : x.le .one = true) :
      Legible room (.ofDouble x)
  | object {room : Nat} {members : List (String × Value)}
      (h : ∀ member ∈ members, Legible room member.2) : Legible (room + 1) (.object members)

/-! ## Scalars -/

section Scalars

variable (room : Nat) {rest : List Char}

theorem gives_readValue_scalar {c : Char} {s : List Char} {v : Value}
    (h : Gives (readScalar c s) v rest) (hblank : isBlank c = false)
    (hopen : ¬(c = '[' ∨ c = '\x7b')) : Gives (readValue room (c :: s)) v rest := by
  have hread (inside : Option (Reader Value)) : Gives (readValueWith inside (c :: s)) v rest := by
    refine Gives.atOnce ?_ hblank
    rw [if_neg hopen]
    exact h
  cases room with
  | zero => exact hread none
  | succ room => exact hread (some (readValue room))

theorem gives_readValue_boolean (b : Bool) (rest : List Char) :
    Gives (readValue room (scalarChars (.boolean b) ++ rest)) (.boolean b) rest := by
  cases b with
  | true =>
    have hword := gives_readWord "rue" (Value.boolean true) 't' rest
    show Gives (readValue room ('t' :: ("rue".toList ++ rest))) _ _
    exact gives_readValue_scalar room hword (by decide) (by decide)
  | false =>
    have hword := gives_readWord "alse" (Value.boolean false) 'f' rest
    show Gives (readValue room ('f' :: ("alse".toList ++ rest))) _ _
    exact gives_readValue_scalar room hword (by decide) (by decide)

theorem gives_readValue_null (rest : List Char) :
    Gives (readValue room (scalarChars .null ++ rest)) .null rest := by
  have hword := gives_readWord "ull" Value.null 'n' rest
  show Gives (readValue room ('n' :: ("ull".toList ++ rest))) _ _
  exact gives_readValue_scalar room hword (by decide) (by decide)

theorem gives_readValue_string (s : String) (rest : List Char) :
    Gives (readValue room (textChars s ++ rest)) (.string s) rest := by
  rw [textChars_append]
  exact gives_readValue_scalar room (((gives_readText s rest).reader Value.string).behind '"')
    (by decide) (by decide)

theorem gives_readValue_number {text : List Char} {n : Number}
    (h : Gives (readNumber (text ++ rest)) n rest)
    (hcons : ∃ c more, text = c :: more ∧ (c = '-' ∨ c.isDigit = true)) :
    Gives (readValue room (text ++ rest)) (.number n) rest := by
  obtain ⟨c, more, rfl, hc⟩ := hcons
  obtain ⟨hnull, htrue, hfalse, htext, hsquare, hcurly⟩ := ne_of_numeral hc
  refine gives_readValue_scalar room ?_ (isBlank_of_numeral hc) (not_or.mpr ⟨hsquare, hcurly⟩)
  rw [readScalar, if_neg hnull, if_neg htrue, if_neg hfalse, if_neg htext, if_pos hc]
  exact h.reader Value.number

end Scalars

/-! ## Objects -/

theorem blank_space : Blank [' '] := by
  intro c hc
  rw [List.mem_singleton.mp hc]
  rfl

theorem blank_lineBreak (depth : Nat) : Blank (lineBreak depth) := by
  intro c hc
  rcases List.mem_cons.mp hc with rfl | hc
  · rfl
  · rw [List.eq_of_mem_replicate hc]
    rfl

theorem prettyMembers_eq (depth : Nat) (first : Bool) (members : List (String × Value)) :
    prettyMembers depth first members =
      membersChars (lineBreak (depth + 1)) first
        (members.map fun member => (member.1, ' ' :: prettyChars (depth + 1) member.2)) := by
  induction members generalizing first with
  | nil => rfl
  | cons head members ih =>
    obtain ⟨key, v⟩ := head
    rw [prettyMembers, ih, List.map_cons, membersChars]

/-- Blanks before a value do not matter. -/
theorem gives_readValue_gap (room : Nat) {gap s : List Char} {v : Value} {rest : List Char}
    (h : Gives (readValue room s) v rest) (hgap : Blank gap) :
    Gives (readValue room (gap ++ s)) v rest := by
  cases room with
  | zero => exact h.skip hgap
  | succ room => exact h.skip hgap

/-- Members in ascending order are read in this order. -/
theorem collects_members {value : Reader Value} (text : Value → List Char) (read : Value → Value)
    (before members : List (String × Value)) (ascending : Ascending (before ++ members))
    (h : ∀ member ∈ members, ∀ rest, Closes rest →
      Gives (value (text member.2 ++ rest)) (read member.2) rest) :
    Collects (fun state key => (afterColon value).map fun v => insertMember key v state)
      (before.map fun member => (member.1, read member.2))
      (members.map fun member => (member.1, text member.2))
      ((before ++ members).map fun member => (member.1, read member.2)) := by
  induction members generalizing before with
  | nil =>
    rw [List.append_nil]
    exact .nil _
  | cons head members ih =>
    -- keys ascend, so each member is put behind those that were read before
    have hlast : ∀ member ∈ before.map fun member => (member.1, read member.2),
        member.1 < head.1 := by
      intro member hmember
      obtain ⟨given, hgiven, rfl⟩ := List.mem_map.mp hmember
      exact (List.pairwise_append.mp ascending).2.2 given hgiven head List.mem_cons_self
    refine .cons ((before ++ [head]).map fun member => (member.1, read member.2))
      (fun rest closes => ?_) ?_
    · have hvalue := (h head List.mem_cons_self rest closes).afterColon
      have hmember := hvalue.reader fun v =>
        insertMember head.1 v (before.map fun member => (member.1, read member.2))
      rw [insertMember_last hlast] at hmember
      rw [List.map_append]
      exact hmember
    · rw [List.append_cons before head members] at ascending ⊢
      exact ih _ ascending fun member hmember => h member (List.mem_cons_of_mem _ hmember)

theorem gives_readValue_object {room : Nat} {gap last : List Char} (hgap : Blank gap)
    (hlast : Blank last) {members : List (String × List Char)} {made : List (String × Value)}
    (collects : Collects
      (fun state key => (afterColon (readValue room)).map fun v => insertMember key v state)
      [] members made) (rest : List Char) :
    Gives (readValue (room + 1)
      ('\x7b' :: (membersChars gap true members ++ (last ++ '\x7d' :: rest))))
      (.object made) rest := by
  have hmembers := gives_readMembers hgap hlast collects rest
  show Gives (readValueWith (some (readValue room)) _) _ _
  refine Gives.atOnce ?_ (by decide)
  exact (hmembers.reader Value.object).behind '\x7b'

/-- An object over several lines is read if its members are in order and each can be read. -/
theorem gives_readValue_members {room depth : Nat} {members : List (String × Value)}
    (ascending : Ascending members)
    (h : ∀ member ∈ members, ∀ rest, Closes rest →
      Gives (readValue room (prettyChars (depth + 1) member.2 ++ rest)) member.2.reread rest)
    (rest : List Char) :
    Gives (readValue (room + 1) (prettyChars depth (.object members) ++ rest))
      (Value.object members).reread rest := by
  have hread : ∀ member ∈ members, ∀ rest, Closes rest →
      Gives (readValue room (' ' :: prettyChars (depth + 1) member.2 ++ rest)) member.2.reread
        rest := by
    intro member hmember rest closes
    have hgap := gives_readValue_gap room (h member hmember rest closes) blank_space
    exact hgap
  have collects := collects_members (fun v => ' ' :: prettyChars (depth + 1) v) Value.reread
    [] members ascending hread
  rw [Value.reread, rereadMembers_eq]
  -- an object without members is written without a line break
  cases members with
  | nil => exact gives_readValue_object blank_nil blank_nil (.nil _) rest
  | cons head tail =>
    have htext : prettyChars depth (.object (head :: tail)) ++ rest = '\x7b' ::
        (membersChars (lineBreak (depth + 1)) true
          ((head :: tail).map fun member => (member.1, ' ' :: prettyChars (depth + 1) member.2)) ++
          (lineBreak depth ++ '\x7d' :: rest)) := by
      simp only [prettyChars, prettyMembers_eq, List.cons_append, List.append_assoc,
        List.nil_append]
    rw [htext]
    exact gives_readValue_object (blank_lineBreak _) (blank_lineBreak _) collects rest

theorem toList_integerText (n : Nat) : (integerText n).toList = Double.digitChars n := by
  rw [integerText, String.toList_ofList, if_neg (Int.not_lt.mpr (Int.natCast_nonneg n)),
    List.nil_append, Int.natAbs_natCast]

/-- A value that can be read is read, wherever it stands in a document. -/
theorem Legible.gives_readValue {room : Nat} {v : Value} (h : Legible room v) (depth : Nat)
    {rest : List Char} (closes : Closes rest) :
    Gives (readValue room (prettyChars depth v.sorted ++ rest)) v.sorted.reread rest := by
  induction h generalizing depth rest with
  | null room => exact gives_readValue_null room rest
  | boolean room b => exact gives_readValue_boolean room b rest
  | string room s => exact gives_readValue_string room s rest
  | @integer room n h =>
    have hnumber := gives_readNumber_integer h closes.ends
    obtain ⟨c, more, hcons, hc⟩ := (isWhole_digitChars n).head_isDigit
    rw [← toList_integerText n] at hnumber hcons
    exact gives_readValue_number room hnumber ⟨c, more, hcons, .inr hc⟩
  | @double room x hzero hone =>
    have hnumber := gives_readNumber_double hzero hone closes.ends
    have hcons := doubleText_cons hzero hone
    obtain ⟨negative, m, e, rfl, _⟩ := Double.finite_of_le hzero hone
    exact gives_readValue_number room hnumber hcons
  | @object room members h ih =>
    rw [Value.sorted]
    refine gives_readValue_members (ascending_sortMembers _) ?_ rest
    intro member hmember rest closes
    -- each member is one of those that were sorted
    have hsorted := mem_sortMembers hmember
    rw [sortedMembers_eq] at hsorted
    obtain ⟨given, hgiven, rfl⟩ := List.mem_map.mp hsorted
    exact ih given hgiven (depth + 1) closes

/-! ## Whole documents -/

/-- A document is read as the one value that was written, perhaps with blanks behind it. -/
theorem Legible.parse_pretty {v : Value} (h : Legible maxDepth v) {text : String} {rest : List Char}
    (htext : text.toList = v.sorted.pretty.toList ++ rest) (hrest : Blank rest) :
    parse text = .ok v.sorted.reread := by
  have hread := h.gives_readValue 0 (closes_blank hrest)
  rw [Value.pretty, String.toList_ofList] at htext
  rw [← htext] at hread
  exact hread.readAll hrest

/-! ## Members of documents -/

theorem lookup_insertMember (sought key : String) (v : Value) (members : List (String × Value)) :
    (insertMember key v members).lookup sought = ((key, v) :: members).lookup sought := by
  induction members with
  | nil => rfl
  | cons head members ih =>
    obtain ⟨k, w⟩ := head
    unfold insertMember
    split
    next => rfl
    next =>
      split
      next hsame =>
        subst hsame
        simp only [List.lookup_cons]
        cases sought == key <;> rfl
      next hne =>
        rw [List.lookup_cons, ih]
        simp only [List.lookup_cons]
        -- no key sought is both of two
        cases hk : sought == k with
        | false => rfl
        | true =>
          have hother : (sought == key) = false := by
            rw [eq_of_beq hk]
            exact beq_false_of_ne (Ne.symm hne)
          rw [hother]

/-- Of members with the same key the last counts. -/
theorem lookup_sortMembers (sought : String) (members : List (String × Value)) :
    (sortMembers members).lookup sought = members.reverse.lookup sought := by
  suffices h : ∀ sorted,
      (members.foldl (fun sorted member => insertMember member.1 member.2 sorted) sorted).lookup
        sought = (members.reverse ++ sorted).lookup sought by
    have hall := h []
    rw [List.append_nil] at hall
    exact hall
  induction members with
  | nil => exact fun _ => rfl
  | cons head members ih =>
    intro sorted
    rw [List.foldl_cons, ih, List.reverse_cons, List.append_assoc, List.lookup_append,
      List.lookup_append, lookup_insertMember, List.singleton_append]

theorem lookup_map {sought : String} (f : Value → Value) (members : List (String × Value)) :
    (members.map fun member => (member.1, f member.2)).lookup sought =
      (members.lookup sought).map f := by
  induction members with
  | nil => rfl
  | cons head members ih =>
    obtain ⟨k, v⟩ := head
    rw [List.map_cons, List.lookup_cons, List.lookup_cons, ih]
    cases sought == k <;> rfl

/-- A member of a document is what is read of the member that was written. -/
theorem member?_document (key : String) (members : List (String × Value)) :
    (Value.object members).sorted.reread.member? key =
      (members.reverse.lookup key).map fun v => v.sorted.reread := by
  rw [Value.sorted, Value.reread, Value.member?, rereadMembers_eq, lookup_map, lookup_sortMembers,
    sortedMembers_eq, ← List.map_reverse, lookup_map, Option.map_map]
  rfl

end ScanClient.Json
