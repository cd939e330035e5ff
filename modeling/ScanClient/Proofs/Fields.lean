import ScanClient.Proofs.Records

/-!
# Given fields

An object gives names the values of its members, and a list gives them its elements in order. What a
record is read as can be told from what the names of its fields are given, one field at a time: each
field has a place of its own in the draft, and no other field touches it.
-/

namespace ScanClient.Json

/-! ## Names and what they are given -/

/-- The values of all members with a name. -/
def valuesOf (name : String) (members : List (List Piece × Form)) : List Form :=
  members.filterMap fun member => if Piece.text? member.1 = some name then some member.2 else none

theorem valuesOf_cons (name : String) (key : List Piece) (form : Form)
    (members : List (List Piece × Form)) :
    valuesOf name ((key, form) :: members) =
      if Piece.text? key = some name then form :: valuesOf name members
      else valuesOf name members := by
  unfold valuesOf
  rw [List.filterMap_cons]
  by_cases hkey : Piece.text? key = some name
  · simp only [if_pos hkey]
  · simp only [if_neg hkey]

/-- What a form gives to names: an object the values of its members, as long as all its keys stand
for texts, and a list its elements in order, if they are no more than there are names. -/
inductive Form.Gives (names : List String) : Form → (String → List Form) → Prop where
  | object {members : List (List Piece × Form)}
      (hkeys : ∀ member ∈ members, (Piece.text? member.1).isSome = true) :
      Gives names (.object members) fun name => valuesOf name members
  | list {forms : List Form} (hlength : forms.length ≤ names.length) :
      Gives names (.array forms) fun name => ((names.zip forms).lookup name).toList

/-- What a field that may be missing is told by the forms that its name is given: nothing if there
is none, or a null, and by one form what it means. More than one tells nothing at all. -/
inductive Optionally {α : Type} (meaning : Form → Option α) : List Form → Option α → Prop where
  | missing : Optionally meaning [] none
  | null : Optionally meaning [.null] none
  | value {form : Form} {a : α} (h : meaning form = some a) : Optionally meaning [form] (some a)

/-- What a draft keeps after the forms of a name, of which there may be only one. -/
def once {α : Type} (meaning : Form → Option α) (kept : Option α) :
    List Form → Option (Option α)
  | [] => some kept
  | [form] => if kept.isSome then none else (meaning form).map some
  | _ :: _ :: _ => none

section

variable {α : Type} {meaning : Form → Option α} {forms : List Form}

/-- A form behind which no other comes. -/
theorem once_cons_eq_some {kept next : Option α} {form : Form} :
    once meaning kept (form :: forms) = some next ↔
      kept = none ∧ forms = [] ∧ ∃ a, meaning form = some a ∧ next = some a := by
  cases forms with
  | nil =>
    cases kept with
    | none => simp [once, eq_comm]
    | some a => simp [once]
  | cons _ _ => simp [once]

/-- Nothing comes behind what is kept. -/
theorem once_some {a : α} {next : Option α} (h : once meaning (some a) forms = some next) :
    forms = [] ∧ next = some a := by
  cases forms with
  | nil => exact ⟨rfl, (Option.some.inj h).symm⟩
  | cons form forms =>
    obtain ⟨hnone, _⟩ := once_cons_eq_some.mp h
    cases hnone

theorem optionally_iff (hnull : meaning .null = none) {told : Option α} :
    Optionally meaning forms told ↔
      ∃ kept, once (Form.optional meaning) none forms = some kept ∧ kept.getD none = told := by
  constructor
  · intro h
    cases h with
    | missing => exact ⟨none, rfl, rfl⟩
    | null => exact ⟨some none, rfl, rfl⟩
    | @value form a h =>
      refine ⟨some (some a), ?_, rfl⟩
      cases form with
      | null => cases hnull.symm.trans h
      | _ => simp [once, Form.optional, h]
  · rintro ⟨kept, honce, rfl⟩
    cases forms with
    | nil =>
      cases honce
      exact .missing
    | cons form forms =>
      obtain ⟨_, rfl, given, hgiven, rfl⟩ := once_cons_eq_some.mp honce
      cases form with
      | null =>
        cases hgiven
        exact .null
      | _ =>
        obtain ⟨a, ha, rfl⟩ := Option.map_eq_some_iff.mp hgiven
        exact .value ha

end

/-! ## Fields and their places in a draft -/

section

variable {draft α : Type}

/-- A field that puts what it makes of a form where `get` finds it, and looks there whether it has
been given before. -/
structure Asked.Puts (a : Asked draft) (meaning : Form → Option α) (get : draft → Option α) :
    Prop where
  given : ∀ d, a.field.given d = (get d).isSome
  make : ∀ form d, (a.make form).map (fun set => get (set d)) = (meaning form).map some

/-- A field that changes nothing where `get` looks. -/
def Asked.Leaves (a : Asked draft) (get : draft → Option α) : Prop :=
  ∀ form d set, a.make form = some set → get (set d) = get d

/-- How a field goes with the place for a name: if the name is its own, it puts something there, and
otherwise it leaves the place alone. -/
inductive Asked.Minds (a : Asked draft) (name : String) (meaning : Form → Option α)
    (get : draft → Option α) : Prop where
  | own (hname : a.field.name = name) (puts : a.Puts meaning get)
  | other (hname : a.field.name ≠ name) (leaves : a.Leaves get)

section Of

variable {name : String} {read : Reader α} {meaning : Form → Option α}
  {interprets : Interprets read meaning} {accepts : Accepts read} {get : draft → Option α}
  {set : draft → α → draft}

theorem Asked.puts_of (hget : ∀ d a, get (set d a) = some a) :
    (Asked.of name interprets accepts get set).Puts meaning get where
  given := fun _ => rfl
  make := by
    intro form d
    show ((meaning form).map _).map _ = _
    rw [Option.map_map]
    exact Option.map_congr fun a _ => hget d a

theorem Asked.leaves_of {β : Type} {look : draft → Option β}
    (hlook : ∀ d a, look (set d a) = look d) :
    (Asked.of name interprets accepts get set).Leaves look := by
  intro form d made h
  obtain ⟨a, _, rfl⟩ := Option.map_eq_some_iff.mp h
  exact hlook d a

end Of

/-- The draft keeps the field of a name where `get` looks, and nothing else. -/
structure Kept (asked : List (Asked draft)) (name : String) (meaning : Form → Option α)
    (get : draft → Option α) : Prop where
  mem : name ∈ asked.map (·.field.name)
  minds : ∀ a ∈ asked, a.Minds name meaning get

variable {asked : List (Asked draft)} {name : String} {meaning : Form → Option α}
  {get : draft → Option α} {d d' : draft}

theorem Asked.Minds.puts {a : Asked draft} (minds : a.Minds name meaning get)
    (hname : a.field.name = name) : a.Puts meaning get := by
  cases minds with
  | own _ puts => exact puts
  | other hother => exact absurd hname hother

theorem Asked.Minds.leaves {a : Asked draft} (minds : a.Minds name meaning get)
    (hname : a.field.name ≠ name) : a.Leaves get := by
  cases minds with
  | own hsame => exact absurd hsame hname
  | other _ leaves => exact leaves

/-- What is kept once a field has been given a form. -/
theorem Asked.Puts.get_set {a : Asked draft} (puts : a.Puts meaning get) {form : Form}
    {set : draft → draft} (hset : a.make form = some set) (d : draft) :
    ∃ b, meaning form = some b ∧ get (set d) = some b := by
  have hmake := puts.make form d
  rw [hset] at hmake
  obtain ⟨b, hb, hsame⟩ := Option.map_eq_some_iff.mp hmake.symm
  exact ⟨b, hb, hsame.symm⟩

theorem Asked.Puts.exists_make {a : Asked draft} (puts : a.Puts meaning get) {form : Form} {b : α}
    (h : meaning form = some b) (d : draft) :
    ∃ set, a.make form = some set ∧ get (set d) = some b := by
  have hmake := puts.make form d
  rw [h] at hmake
  obtain ⟨set, hset, hget⟩ := Option.map_eq_some_iff.mp hmake
  exact ⟨set, hset, hget⟩

/-! ## Members -/

theorem find?_eq_some {key : String} {a : Asked draft}
    (h : asked.find? (·.field.name == key) = some a) : a ∈ asked ∧ a.field.name = key := by
  have hfound := List.find?_some h
  exact ⟨List.mem_of_find?_eq_some h, eq_of_beq hfound⟩

/-- A member that is taken in, taken apart. -/
theorem memberStep_eq_some {key : String} {form : Form}
    (h : memberStep asked d key form = some d') :
    (key ∉ asked.map (·.field.name) ∧ d' = d) ∨
      ∃ a ∈ asked, a.field.name = key ∧ a.field.given d = false ∧
        ∃ set, a.make form = some set ∧ d' = set d := by
  unfold memberStep at h
  split at h
  next hfind =>
    cases h
    refine .inl ⟨fun hmem => ?_, rfl⟩
    obtain ⟨a, ha, hname⟩ := List.mem_map.mp hmem
    exact List.find?_eq_none.mp hfind a ha (beq_iff_eq.mpr hname)
  next a hfind =>
    obtain ⟨ha, hname⟩ := find?_eq_some hfind
    split at h
    · cases h
    next hgiven =>
      obtain ⟨set, hset, rfl⟩ := Option.map_eq_some_iff.mp h
      exact .inr ⟨a, ha, hname, Bool.eq_false_iff.mpr hgiven, set, hset, rfl⟩

/-- A member with another name changes nothing of what is kept. -/
theorem Kept.get_memberStep (kept : Kept asked name meaning get) {key : String} {form : Form}
    (h : memberStep asked d key form = some d') (hkey : key ≠ name) : get d' = get d := by
  rcases memberStep_eq_some h with ⟨_, rfl⟩ | ⟨a, ha, rfl, _, set, hset, rfl⟩
  · rfl
  · exact (kept.minds a ha).leaves hkey form d set hset

/-- One with the name itself is kept, and none was before. -/
theorem Kept.get_memberStep_own (kept : Kept asked name meaning get) {form : Form}
    (h : memberStep asked d name form = some d') :
    get d = none ∧ ∃ a, meaning form = some a ∧ get d' = some a := by
  rcases memberStep_eq_some h with ⟨hnot, _⟩ | ⟨a, ha, hname, hgiven, set, hset, rfl⟩
  · exact absurd kept.mem hnot
  · have puts := (kept.minds a ha).puts hname
    rw [puts.given] at hgiven
    exact ⟨Option.not_isSome_iff_eq_none.mp (Bool.eq_false_iff.mp hgiven),
      puts.get_set hset d⟩

/-- Members are collected only if all their keys stand for texts. -/
theorem isSome_text?_of_collect {σ : Type} {step : σ → String → Form → Option σ} {s s' : σ}
    {members : List (List Piece × Form)} (h : collect step s members = some s') :
    ∀ member ∈ members, (Piece.text? member.1).isSome = true := by
  induction members generalizing s with
  | nil => exact fun _ h => nomatch h
  | cons head members ih =>
    obtain ⟨key, form⟩ := head
    rw [collect_cons] at h
    obtain ⟨next, hnext, hmore⟩ := Option.bind_eq_some_iff.mp h
    obtain ⟨name, hname, _⟩ := Option.bind_eq_some_iff.mp hnext
    exact List.forall_mem_cons.mpr ⟨Option.isSome_of_eq_some hname, ih hmore⟩

/-- What is kept of an object is what the members with the name give. -/
theorem Kept.get_collect (kept : Kept asked name meaning get)
    {members : List (List Piece × Form)} (h : collect (memberStep asked) d members = some d') :
    once meaning (get d) (valuesOf name members) = some (get d') := by
  induction members generalizing d with
  | nil =>
    cases h
    rfl
  | cons head members ih =>
    obtain ⟨key, form⟩ := head
    rw [collect_cons] at h
    obtain ⟨next, hnext, hmore⟩ := Option.bind_eq_some_iff.mp h
    obtain ⟨given, hgiven, hstep⟩ := Option.bind_eq_some_iff.mp hnext
    rw [valuesOf_cons, hgiven]
    by_cases hname : given = name
    · subst hname
      obtain ⟨hnone, a, ha, hnext⟩ := kept.get_memberStep_own hstep
      have hrest := ih hmore
      rw [hnext] at hrest
      obtain ⟨hnil, hsame⟩ := once_some hrest
      rw [if_pos rfl]
      exact once_cons_eq_some.mpr ⟨hnone, hnil, a, ha, hsame⟩
    · rw [if_neg fun h => hname (Option.some.inj h), ← kept.get_memberStep hstep hname]
      exact ih hmore

/-- A field can be read of the forms its name is given, into the place that is kept for it. -/
def Readable (asked : List (Asked draft)) (d : draft) (name : String) (forms : List Form) : Prop :=
  ∃ (α : Type) (meaning : Form → Option α) (get : draft → Option α),
    Kept asked name meaning get ∧ (once meaning (get d) forms).isSome = true

/-- An object is read if each of its fields can be. -/
theorem exists_collect {members : List (List Piece × Form)}
    (hkeys : ∀ member ∈ members, (Piece.text? member.1).isSome = true)
    (h : ∀ a ∈ asked, Readable asked d a.field.name (valuesOf a.field.name members)) :
    ∃ d', collect (memberStep asked) d members = some d' := by
  induction members generalizing d with
  | nil => exact ⟨d, rfl⟩
  | cons head members ih =>
    obtain ⟨key, form⟩ := head
    obtain ⟨hhead, hkeys⟩ := List.forall_mem_cons.mp hkeys
    obtain ⟨given, hgiven⟩ := Option.isSome_iff_exists.mp hhead
    have hvalues (name : String) : valuesOf name ((key, form) :: members) =
        if given = name then form :: valuesOf name members else valuesOf name members := by
      rw [valuesOf_cons, hgiven]
      simp only [Option.some.injEq]
    suffices hnext : ∃ next, memberStep asked d given form = some next ∧
        ∀ a ∈ asked, Readable asked next a.field.name (valuesOf a.field.name members) by
      obtain ⟨next, hstep, hrest⟩ := hnext
      obtain ⟨d', hd'⟩ := ih hkeys hrest
      refine ⟨d', ?_⟩
      rw [collect_cons, hgiven, Option.bind_some, hstep]
      exact hd'
    cases hfind : asked.find? (·.field.name == given) with
    | none =>
      refine ⟨d, by rw [memberStep, hfind], fun a ha => ?_⟩
      have hname : given ≠ a.field.name := fun hsame =>
        List.find?_eq_none.mp hfind a ha (beq_iff_eq.mpr hsame.symm)
      have readable := h a ha
      rw [hvalues, if_neg hname] at readable
      exact readable
    | some a =>
      obtain ⟨ha, rfl⟩ := find?_eq_some hfind
      obtain ⟨α, meaning, get, kept, honce⟩ := h a ha
      rw [hvalues, if_pos rfl] at honce
      obtain ⟨kept', honce⟩ := Option.isSome_iff_exists.mp honce
      obtain ⟨hnone, hnil, b, hb, _⟩ := once_cons_eq_some.mp honce
      have puts := (kept.minds a ha).puts rfl
      obtain ⟨set, hset, _⟩ := puts.exists_make hb d
      have hfree : a.field.given d = false := by
        rw [puts.given, hnone]
        rfl
      refine ⟨set d, ?_, fun other hother => ?_⟩
      · rw [memberStep, hfind]
        simp only [hfree, hset, Bool.false_eq_true, if_false, Option.map_some]
      · by_cases hname : a.field.name = other.field.name
        · -- nothing more is given for the field that has just been read
          rw [← hname, hnil]
          exact ⟨α, meaning, get, kept, rfl⟩
        · obtain ⟨β, meaning', get', kept', honce'⟩ := h other hother
          refine ⟨β, meaning', get', kept', ?_⟩
          rw [hvalues, if_neg hname] at honce'
          rwa [(kept'.minds a ha).leaves hname form d set hset]

/-! ## Elements -/

/-- Fields of other names change nothing of what is kept. -/
theorem get_rowOf_of_not_mem (hminds : ∀ a ∈ asked, a.Minds name meaning get)
    (hname : name ∉ asked.map (·.field.name)) {count n : Nat} {forms : List Form}
    (h : rowOf count d asked forms = some (n, d')) : get d' = get d := by
  induction asked generalizing count d forms with
  | nil =>
    cases forms with
    | nil =>
      cases h
      rfl
    | cons form forms => cases h
  | cons a asked ih =>
    cases forms with
    | nil =>
      cases h
      rfl
    | cons form forms =>
      obtain ⟨set, hset, hrest⟩ := Option.bind_eq_some_iff.mp h
      obtain ⟨hminds, hmore⟩ := List.forall_mem_cons.mp hminds
      obtain ⟨hne, hnot⟩ := not_or.mp (mt List.mem_cons.mpr hname)
      rw [ih hmore hnot hrest]
      exact hminds.leaves (Ne.symm hne) form d set hset

/-- What is kept of a list is the element where the name has its place. -/
theorem get_rowOf (hminds : ∀ a ∈ asked, a.Minds name meaning get)
    (hnodup : (asked.map (·.field.name)).Nodup) (hnone : get d = none) {count n : Nat}
    {forms : List Form} (h : rowOf count d asked forms = some (n, d')) :
    once meaning none (((asked.map (·.field.name)).zip forms).lookup name).toList =
      some (get d') := by
  induction asked generalizing count d forms with
  | nil =>
    cases forms with
    | nil =>
      cases h
      exact congrArg some hnone.symm
    | cons form forms => cases h
  | cons a asked ih =>
    cases forms with
    | nil =>
      cases h
      rw [List.zip_nil_right]
      exact congrArg some hnone.symm
    | cons form forms =>
      obtain ⟨set, hset, hrest⟩ := Option.bind_eq_some_iff.mp h
      obtain ⟨hhead, hmore⟩ := List.forall_mem_cons.mp hminds
      obtain ⟨hnot, hnodup⟩ := List.nodup_cons.mp hnodup
      rw [List.map_cons, List.zip_cons_cons, List.lookup_cons]
      by_cases hname : a.field.name = name
      · subst hname
        obtain ⟨b, hb, hkept⟩ := (hhead.puts rfl).get_set hset d
        rw [beq_self_eq_true, get_rowOf_of_not_mem hmore hnot hrest, hkept]
        exact once_cons_eq_some.mpr ⟨rfl, rfl, b, hb, rfl⟩
      · rw [beq_eq_false_iff_ne.mpr (Ne.symm hname)]
        refine ih hmore hnodup ?_ hrest
        rw [hhead.leaves hname form d set hset, hnone]

/-- No more elements are read than there are fields. -/
theorem length_le_of_rowOf {count : Nat} {row : Nat × draft} {forms : List Form}
    (h : rowOf count d asked forms = some row) : forms.length ≤ asked.length := by
  induction asked generalizing count d forms with
  | nil =>
    cases forms with
    | nil => exact Nat.le_refl _
    | cons form forms => cases h
  | cons a asked ih =>
    cases forms with
    | nil => exact Nat.zero_le _
    | cons form forms =>
      obtain ⟨set, _, hrest⟩ := Option.bind_eq_some_iff.mp h
      exact Nat.succ_le_succ (ih hrest)

/-- A list is read if each of its elements is one that its field can be read of. -/
theorem exists_rowOf (hnodup : (asked.map (·.field.name)).Nodup) {forms : List Form}
    (hlength : forms.length ≤ asked.length)
    (h : ∀ a ∈ asked, ∀ form,
      ((asked.map (·.field.name)).zip forms).lookup a.field.name = some form →
        (a.make form).isSome = true) (count : Nat) (d : draft) :
    ∃ row, rowOf count d asked forms = some row := by
  induction asked generalizing count d forms with
  | nil =>
    obtain rfl : forms = [] := List.eq_nil_of_length_eq_zero (Nat.le_zero.mp hlength)
    exact ⟨_, rfl⟩
  | cons a asked ih =>
    cases forms with
    | nil => exact ⟨_, rfl⟩
    | cons form forms =>
      obtain ⟨hnot, hnodup⟩ := List.nodup_cons.mp hnodup
      obtain ⟨hhead, hmore⟩ := List.forall_mem_cons.mp h
      simp only [List.map_cons, List.zip_cons_cons, List.lookup_cons] at hhead hmore
      obtain ⟨set, hset⟩ := Option.isSome_iff_exists.mp (hhead form (by rw [beq_self_eq_true]))
      -- the other names have their places among the other elements
      have hothers : ∀ b ∈ asked, ∀ form,
          ((asked.map (·.field.name)).zip forms).lookup b.field.name = some form →
            (b.make form).isSome = true := by
        intro b hb form hform
        have hname : b.field.name ≠ a.field.name := fun hsame =>
          hnot (List.mem_map.mpr ⟨b, hb, hsame⟩)
        rw [← beq_eq_false_iff_ne] at hname
        exact hmore b hb form (by rw [hname]; exact hform)
      obtain ⟨row, hrow⟩ := ih hnodup (Nat.le_of_succ_le_succ hlength) hothers (count + 1) (set d)
      refine ⟨row, ?_⟩
      rw [rowOf, hset]
      exact hrow

/-! ## Drafts -/

/-- The draft that is made of a form, from one to begin with. -/
inductive Drafts (asked : List (Asked draft)) (d : draft) : Form → draft → Prop where
  | object {members : List (List Piece × Form)} {d' : draft}
      (h : collect (memberStep asked) d members = some d') : Drafts asked d (.object members) d'
  | list {forms : List Form} {n : Nat} {d' : draft} (h : rowOf 0 d asked forms = some (n, d')) :
      Drafts asked d (.array forms) d'

/-- A record that takes any draft is what is made of the draft of a form. -/
theorem Shape.meaning_eq_some {β : Type} (shape : Shape draft β) (complete : draft → β)
    (hmembers : ∀ d, shape.ofMembers d = .ok (complete d))
    (helements : ∀ n d, shape.ofElements n d = .ok (complete d)) {form : Form} {b : β} :
    shape.meaning asked form = some b ↔ ∃ d, Drafts asked shape.empty form d ∧ complete d = b := by
  constructor
  · intro h
    cases form with
    | object members =>
      obtain ⟨d, hd, hmade⟩ := Option.bind_eq_some_iff.mp h
      rw [hmembers] at hmade
      exact ⟨d, .object hd, Option.some.inj hmade⟩
    | array forms =>
      obtain ⟨⟨n, d⟩, hd, hmade⟩ := Option.bind_eq_some_iff.mp h
      rw [helements] at hmade
      exact ⟨d, .list hd, Option.some.inj hmade⟩
    | _ => cases h
  · rintro ⟨d, drafts, rfl⟩
    cases drafts with
    | object hd =>
      rw [meaning, hd, Option.bind_some, hmembers]
      rfl
    | list hd =>
      rw [meaning, hd, Option.bind_some, helements]
      rfl

variable {form : Form} {given : String → List Form}

/-- What is made a draft of gives something to the names of the fields. -/
theorem Drafts.exists_gives (drafts : Drafts asked d form d') :
    ∃ given, form.Gives (asked.map (·.field.name)) given := by
  cases drafts with
  | object h => exact ⟨_, .object (isSome_text?_of_collect h)⟩
  | list h =>
    refine ⟨_, .list ?_⟩
    rw [List.length_map]
    exact length_le_of_rowOf h

/-- A draft keeps of each field what its name was given. -/
theorem Kept.get_drafts (kept : Kept asked name meaning get)
    (hnodup : (asked.map (·.field.name)).Nodup) (hnone : get d = none)
    (drafts : Drafts asked d form d') (gives : form.Gives (asked.map (·.field.name)) given) :
    once meaning none (given name) = some (get d') := by
  cases drafts with
  | object h =>
    cases gives with
    | object hkeys =>
      rw [← hnone]
      exact kept.get_collect h
  | list h =>
    cases gives with
    | list hlength => exact get_rowOf kept.minds hnodup hnone h

/-- A draft is made if each field can be read of what its name is given. -/
theorem exists_drafts (hnodup : (asked.map (·.field.name)).Nodup)
    (gives : form.Gives (asked.map (·.field.name)) given)
    (h : ∀ name ∈ asked.map (·.field.name), Readable asked d name (given name)) :
    ∃ d', Drafts asked d form d' := by
  cases gives with
  | object hkeys =>
    obtain ⟨d', hd'⟩ := exists_collect hkeys fun a ha => h _ (List.mem_map_of_mem ha)
    exact ⟨d', .object hd'⟩
  | @list forms hlength =>
    rw [List.length_map] at hlength
    have hmakes : ∀ a ∈ asked, ∀ element,
        ((asked.map (·.field.name)).zip forms).lookup a.field.name = some element →
          (a.make element).isSome = true := by
      intro a ha element helement
      obtain ⟨α, meaning, get, kept, honce⟩ := h _ (List.mem_map_of_mem ha)
      simp only [helement, Option.toList_some] at honce
      obtain ⟨next, honce⟩ := Option.isSome_iff_exists.mp honce
      obtain ⟨_, _, b, hb, _⟩ := once_cons_eq_some.mp honce
      obtain ⟨set, hset, _⟩ := ((kept.minds a ha).puts rfl).exists_make hb d
      exact Option.isSome_of_eq_some hset
    obtain ⟨⟨n, d'⟩, hrow⟩ := exists_rowOf hnodup hlength hmakes 0 d
    exact ⟨d', .list hrow⟩

/-- What a field that may be missing is told by what its name is given is what the draft keeps. -/
theorem Kept.optionally_iff {value : Form → Option α} {look : draft → Option (Option α)}
    (kept : Kept asked name (Form.optional value) look)
    (hnodup : (asked.map (·.field.name)).Nodup) (hnone : look d = none)
    (drafts : Drafts asked d form d') (gives : form.Gives (asked.map (·.field.name)) given)
    (hnull : value .null = none) (told : Option α) :
    Optionally value (given name) told ↔ (look d').getD none = told := by
  rw [Json.optionally_iff hnull, kept.get_drafts hnodup hnone drafts gives]
  simp only [Option.some.injEq, exists_eq_left']

/-- It can be read if it is told anything. -/
theorem Kept.readable {value : Form → Option α} {look : draft → Option (Option α)}
    (kept : Kept asked name (Form.optional value) look) (hnone : look d = none)
    (hnull : value .null = none) {forms : List Form} {told : Option α}
    (h : Optionally value forms told) : Readable asked d name forms := by
  obtain ⟨_, honce, _⟩ := (Json.optionally_iff hnull).mp h
  exact ⟨_, _, look, kept, hnone ▸ Option.isSome_of_eq_some honce⟩

end

end ScanClient.Json
