import ScanClient.Proofs.Except
import ScanClient.Proofs.Records
import ScanClient.Response

/-!
# The status field

Nothing in the status field of an answer touches the other fields, and what is no known string is an
unknown status. But the field is read as a value before it is looked at, so the answer is lost if it
holds what has no value: a number out of range, half of a surrogate pair, or brackets that nest too
deep. A member that no field asks for may hold any of these.
-/

namespace ScanClient

open Json

/-- The status a form stands for. -/
def Json.Form.status (form : Form) : ScanStatus :=
  if form.text? = some "pending" then .pending
  else if form.text? = some "completed" then .completed
  else if form.text? = some "failed" then .failed
  else .unknown

/-- The status of a value is that of its form. -/
theorem ofValue_of_value? {room : Nat} {form : Form} {v : Value} (h : form.value? room = some v) :
    ScanStatus.ofValue v = form.status := by
  have hscalar : ∀ {form : Form}, form.scalar? = some v → ScanStatus.ofValue v = form.status := by
    intro form h
    cases form with
    | string pieces =>
      obtain ⟨s, htext, rfl⟩ := Option.map_eq_some_iff.mp h
      simp only [ScanStatus.ofValue, ScanStatus.ofName, Form.status, Form.text?, htext,
        Option.some.injEq]
    | number n =>
      obtain ⟨number, _, rfl⟩ := Option.map_eq_some_iff.mp h
      rfl
    | null => cases h; rfl
    | boolean b => cases h; rfl
    | array forms => cases h
    | object members => cases h
  cases room with
  | zero => exact hscalar (by cases form <;> exact h)
  | succ room =>
    cases form with
    | array forms =>
      obtain ⟨vs, _, rfl⟩ := Option.map_eq_some_iff.mp h
      rfl
    | object members =>
      obtain ⟨vs, _, rfl⟩ := Option.map_eq_some_iff.mp h
      rfl
    | _ => exact hscalar h

namespace Response

/-! ## The fields of a response -/

theorem interprets_readName : Interprets readName (Form.optional Form.text?) :=
  (interprets_readString "a string").optional

theorem accepts_readName : Accepts readName := (accepts_readString "a string").optional

/-- The fields of a response with what they make of a form. -/
def asked : List (Asked Draft) :=
  [.of "status" ((interprets_readValue (maxDepth - 1)).map ScanStatus.ofValue)
    ((accepts_readValue (maxDepth - 1)).map ScanStatus.ofValue) Draft.status
    fun d a => { d with status := some a },
   .of "id" interprets_readName accepts_readName Draft.id fun d a => { d with id := some a },
   .of "filename" interprets_readName accepts_readName Draft.filename fun d a =>
    { d with filename := some a },
   .of "is_malicious" interprets_readBoolean.optional accepts_readBoolean.optional
    Draft.isMalicious fun d a => { d with isMalicious := some a },
   .of "malicious_probability" interprets_readDouble.optional accepts_readDouble.optional
    Draft.probability fun d a => { d with probability := some a },
   .of "scan_date" interprets_readName accepts_readName Draft.scanDate fun d a =>
    { d with scanDate := some a },
   .of "error" interprets_readName accepts_readName Draft.error fun d a =>
    { d with error := some a }]

theorem fields_eq : shape.fields = asked.map (·.field) := rfl

/-- What a response makes of a form. -/
theorem toOption_parse {text : String} {form : Form} (h : IsText text form) :
    (parse text).toOption = shape.meaning asked form :=
  (interprets_readRecord shape fields_eq).readAll h

/-- A draft with another status, or with none. -/
def Draft.withStatus (d : Draft) (status : Option ScanStatus) : Draft := { d with status }

/-- A field that neither looks at the status nor changes it. -/
structure LeavesStatus (a : Asked Draft) : Prop where
  given : ∀ d status, a.field.given (Draft.withStatus d status) = a.field.given d
  make : ∀ form set d status, a.make form = some set →
    set (Draft.withStatus d status) = (set d).withStatus status

theorem leavesStatus_of {α : Type} (name : String) {read : Reader α} {meaning : Form → Option α}
    (interprets : Interprets read meaning) (accepts : Accepts read) {get : Draft → Option α}
    {set : Draft → α → Draft} (hget : ∀ d status, get (Draft.withStatus d status) = get d)
    (hset : ∀ d status a, set (Draft.withStatus d status) a = (set d a).withStatus status) :
    LeavesStatus (.of name interprets accepts get set) where
  given := fun d status => congrArg Option.isSome (hget d status)
  make := by
    intro form made d status hmade
    obtain ⟨a, _, rfl⟩ := Option.map_eq_some_iff.mp hmade
    exact hset d status a

/-- All fields but the status itself leave the status as it is. -/
theorem leavesStatus_asked : ∀ a ∈ asked.tail, LeavesStatus a := by
  simp only [asked, List.tail_cons, List.forall_mem_cons]
  refine ⟨?_, ?_, ?_, ?_, ?_, ?_, fun _ h => nomatch h⟩
  all_goals exact leavesStatus_of _ _ _ (fun _ _ => rfl) fun _ _ _ => rfl

theorem memberStep_status (d : Draft) (form : Form) :
    memberStep asked d "status" form =
      if d.status.isSome then none
      else (form.value? (maxDepth - 1)).map fun v => d.withStatus (some (ScanStatus.ofValue v)) := by
  rw [memberStep]
  show (if d.status.isSome then none else Option.map _ (Option.map _ (Option.map _ _))) = _
  simp only [Option.map_map]
  rfl

theorem memberStep_withStatus {key : String} (hkey : key ≠ "status") (d : Draft)
    (status : Option ScanStatus) (form : Form) :
    memberStep asked (d.withStatus status) key form =
      (memberStep asked d key form).map (·.withStatus status) := by
  unfold memberStep
  cases hfind : asked.find? (·.field.name == key) with
  | none => rfl
  | some a =>
    have hname : a.field.name = key := by
      have hfound := List.find?_some hfind
      exact eq_of_beq hfound
    -- the field that was found is not the first
    have ha : a ∈ asked.tail := by
      rcases List.mem_cons.mp (List.mem_of_find?_eq_some hfind) with rfl | ha
      · exact absurd hname.symm hkey
      · exact ha
    have leaves := leavesStatus_asked a ha
    simp only [leaves.given]
    split
    · rfl
    · cases hmake : a.make form with
      | none => rfl
      | some set => exact congrArg some (leaves.make form set d status hmake)

/-! ## The status among the members -/

/-- The name of a member is that of the status. -/
def NamesStatus (member : List Piece × Form) : Prop := Piece.text? member.1 = some "status"

/-- Other members do the same whatever the status is, and leave it as it is. -/
theorem collect_withStatus {members : List (List Piece × Form)}
    (hothers : ∀ member ∈ members, ¬NamesStatus member) (d : Draft)
    (status : Option ScanStatus) :
    collect (memberStep asked) (d.withStatus status) members =
      (collect (memberStep asked) d members).map (·.withStatus status) := by
  induction members generalizing d with
  | nil => rfl
  | cons head members ih =>
    obtain ⟨key, form⟩ := head
    obtain ⟨hhead, hothers⟩ := List.forall_mem_cons.mp hothers
    rw [collect_cons, collect_cons]
    cases hkey : Piece.text? key with
    | none => rfl
    | some name =>
      have hname : name ≠ "status" := fun h => hhead (hkey.trans (congrArg some h))
      simp only [Option.bind_some]
      rw [memberStep_withStatus hname]
      cases memberStep asked d name form with
      | none => rfl
      | some next => exact ih hothers next

theorem status_of_collect {members : List (List Piece × Form)}
    (hothers : ∀ member ∈ members, ¬NamesStatus member) {d d' : Draft}
    (h : collect (memberStep asked) d members = some d') : d'.status = d.status := by
  have hsame := collect_withStatus hothers d d.status
  rw [show d.withStatus d.status = d from rfl, h] at hsame
  rw [Option.some.inj hsame]
  rfl

/-- The draft of an object whose status is that of one of its members, or is not given. -/
theorem collect_status {before after : List (List Piece × Form)}
    (hbefore : ∀ member ∈ before, ¬NamesStatus member)
    (hafter : ∀ member ∈ after, ¬NamesStatus member) {key : List Piece} (form : Form)
    (hkey : Piece.text? key = some "status") :
    collect (memberStep asked) {} (before ++ (key, form) :: after) =
      (form.value? (maxDepth - 1)).bind fun v =>
        (collect (memberStep asked) {} (before ++ after)).map
          (·.withStatus (some (ScanStatus.ofValue v))) := by
  rw [collect_append, collect_append]
  cases hdraft : collect (memberStep asked) {} before with
  | none => cases form.value? (maxDepth - 1) <;> rfl
  | some d =>
    have hnone : d.status = none := status_of_collect hbefore hdraft
    simp only [Option.bind_some]
    rw [collect_cons, hkey, Option.bind_some, memberStep_status, hnone]
    cases form.value? (maxDepth - 1) with
    | none => rfl
    | some v => exact collect_withStatus hafter d _

/-- Behind a status no other is given. -/
theorem not_namesStatus_of_collect {members : List (List Piece × Form)} {d d' : Draft}
    (hgiven : d.status.isSome = true) (h : collect (memberStep asked) d members = some d') :
    ∀ member ∈ members, ¬NamesStatus member := by
  induction members generalizing d with
  | nil => exact fun _ h => nomatch h
  | cons head members ih =>
    obtain ⟨key, form⟩ := head
    rw [collect_cons] at h
    obtain ⟨next, hnext, hmore⟩ := Option.bind_eq_some_iff.mp h
    obtain ⟨name, hkey, hstep⟩ := Option.bind_eq_some_iff.mp hnext
    have hname : name ≠ "status" := by
      rintro rfl
      rw [memberStep_status, if_pos hgiven] at hstep
      cases hstep
    have hhead : ¬NamesStatus (key, form) := fun h =>
      hname (Option.some.inj (hkey.symm.trans h))
    have hsame : next.status = d.status := by
      have hstatus := memberStep_withStatus hname d d.status form
      rw [show d.withStatus d.status = d from rfl, hstep] at hstatus
      rw [Option.some.inj hstatus]
      rfl
    exact List.forall_mem_cons.mpr ⟨hhead, ih (hsame ▸ hgiven) hmore⟩

/-- Where the status is among members: between some that are before it and some that are behind it.
It may also be missing there. -/
structure StatusAt (members before : List (List Piece × Form)) (old : Option (List Piece × Form))
    (after : List (List Piece × Form)) : Prop where
  members_eq : members = before ++ (old.toList ++ after)
  old : ∀ member ∈ old, NamesStatus member
  others : ∀ member ∈ before ++ after, ¬NamesStatus member

/-- An object that is read has one status at most. -/
theorem exists_statusAt {members : List (List Piece × Form)} {d : Draft}
    (h : collect (memberStep asked) {} members = some d) :
    ∃ before old after, StatusAt members before old after := by
  suffices hall : ∀ d₀ : Draft, collect (memberStep asked) d₀ members = some d →
      ∃ before old after, StatusAt members before old after from hall {} h
  clear h
  induction members with
  | nil => exact fun _ _ => ⟨[], none, [], rfl, nofun, nofun⟩
  | cons head members ih =>
    obtain ⟨key, form⟩ := head
    intro d₀ h
    rw [collect_cons] at h
    obtain ⟨next, hnext, hmore⟩ := Option.bind_eq_some_iff.mp h
    obtain ⟨name, hkey, hstep⟩ := Option.bind_eq_some_iff.mp hnext
    by_cases hname : name = "status"
    · subst hname
      rw [memberStep_status] at hstep
      split at hstep
      · cases hstep
      · obtain ⟨v, _, rfl⟩ := Option.map_eq_some_iff.mp hstep
        have hothers := not_namesStatus_of_collect (by rfl) hmore
        refine ⟨[], some (key, form), members, rfl, ?_, hothers⟩
        rintro member ⟨⟩
        exact hkey
    · obtain ⟨before, old, after, hat⟩ := ih next hmore
      refine ⟨(key, form) :: before, old, after, congrArg (_ :: ·) hat.members_eq, hat.old, ?_⟩
      refine List.forall_mem_cons.mpr ⟨fun h => hname ?_, hat.others⟩
      exact Option.some.inj (hkey.symm.trans h)

/-- What the other members of an object make of a draft, whether a status is among them or not. -/
theorem collect_of_statusAt {members before after : List (List Piece × Form)}
    {old : Option (List Piece × Form)} (hat : StatusAt members before old after) {d : Draft}
    (h : collect (memberStep asked) {} members = some d) :
    ∃ d', collect (memberStep asked) {} (before ++ after) = some d' ∧
      d = d'.withStatus d.status := by
  obtain ⟨hbefore, hafter⟩ := List.forall_mem_append.mp hat.others
  rw [hat.members_eq] at h
  cases old with
  | none => exact ⟨d, h, rfl⟩
  | some member =>
    obtain ⟨key, form⟩ := member
    have hcollect := collect_status hbefore hafter form (hat.old _ rfl)
    rw [show before ++ ((some (key, form)).toList ++ after) = before ++ (key, form) :: after from rfl,
      hcollect] at h
    obtain ⟨v, _, hothers⟩ := Option.bind_eq_some_iff.mp h
    obtain ⟨d', hd', rfl⟩ := Option.map_eq_some_iff.mp hothers
    exact ⟨d', hd', rfl⟩

/-! ## The main result -/

/-- An object that is read as a response is read with any other status as well, as the same response
but for its status, if the status can be read as a value. If it cannot, the response is lost. -/
theorem parse_with_status {text : String} {members : List (List Piece × Form)} {r : Response}
    (htext : IsText text (.object members)) (hread : parse text = .ok r) :
    (∃ before old after, StatusAt members before old after) ∧
    ∀ before old after, StatusAt members before old after →
    ∀ (key : List Piece) (form : Form) (text' : String), Piece.text? key = some "status" →
      IsText text' (.object (before ++ (key, form) :: after)) →
      (parse text').toOption =
        if form.isReadable (maxDepth - 1) then some { r with status := form.status } else none := by
  have hmeaning := toOption_parse htext
  rw [hread] at hmeaning
  obtain ⟨d, hd, hmade⟩ := Option.bind_eq_some_iff.mp hmeaning.symm
  obtain rfl : d.complete = r := Option.some.inj hmade
  refine ⟨exists_statusAt hd, fun before old after hat key form text' hkey htext' => ?_⟩
  obtain ⟨d', hd', hsame⟩ := collect_of_statusAt hat hd
  obtain ⟨hbefore, hafter⟩ := List.forall_mem_append.mp hat.others
  rw [toOption_parse htext', Shape.meaning]
  rw [show shape.empty = {} from rfl, collect_status hbefore hafter form hkey, hd',
    ← isSome_value? (maxDepth - 1) form]
  cases hvalue : form.value? (maxDepth - 1) with
  | none => rfl
  | some v =>
    rw [hsame, ← ofValue_of_value? hvalue, if_pos (show (some v).isSome = true from rfl)]
    rfl

/-- An identifier as a member. -/
def sampleMember : List Piece × Form :=
  (Piece.plainly ['i', 'd'] (by simp), .string (Piece.plainly ['a'] (by simp)))

def statusKey : List Piece := Piece.plainly ['s', 't', 'a', 't', 'u', 's'] (by simp)

/-- An object with this identifier and a status, however the status is spelt. -/
def sampleText (chars : List Char) : String :=
  String.ofList (['\x7b', '"', 'i', 'd', '"', ':', '"', 'a', '"', ',', '"', 's', 't', 'a', 't', 'u',
    's', '"', ':'] ++ (chars ++ ['\x7d']))

theorem isText_sample : IsText "\x7b\"id\":\"a\"\x7d" (.object [sampleMember]) := by
  have hmembers : Spells (.members true [sampleMember]) _ :=
    .member (.first blank_nil) blank_nil blank_nil (.string _) (.noMember false blank_nil)
  exact ⟨[], _, [], blank_nil, blank_nil, .object hmembers, by decide +kernel⟩

theorem isText_sampleText {form : Form} {chars : List Char} (h : Spells (.value form) chars) :
    IsText (sampleText chars) (.object [sampleMember, (statusKey, form)]) := by
  have hmembers : Spells (.members true [sampleMember, (statusKey, form)]) _ :=
    .member (.first blank_nil) blank_nil blank_nil (.string _)
      (.member (.later blank_nil blank_nil) blank_nil blank_nil h (.noMember false blank_nil))
  refine ⟨[], _, [], blank_nil, blank_nil, .object hmembers, ?_⟩
  simp only [sampleText, String.toList_ofList, statusKey, piecesChars_plainly, List.nil_append,
    List.append_nil, List.cons_append]

theorem parse_sample : parse "\x7b\"id\":\"a\"\x7d" = .ok { id := some "a" } := by
  have hmeaning := toOption_parse isText_sample
  exact toOption_eq_some (hmeaning.trans (by decide +kernel))

theorem statusAt_sample : StatusAt [sampleMember] [sampleMember] none [] where
  members_eq := rfl
  old := nofun
  others := by
    refine List.forall_mem_singleton.mpr ?_
    show ¬Piece.text? sampleMember.1 = some "status"
    decide +kernel

theorem parse_sample_failed :
    (parse (sampleText ['"', 'f', 'a', 'i', 'l', 'e', 'd', '"'])).toOption =
      some { id := some "a", status := .failed } := by
  obtain ⟨_, h⟩ := parse_with_status isText_sample parse_sample
  have hspells : Spells (.value (.string (Piece.plainly ['f', 'a', 'i', 'l', 'e', 'd'] (by simp))))
      ['"', 'f', 'a', 'i', 'l', 'e', 'd', '"'] := .string _
  have hread := h _ _ _ statusAt_sample statusKey _ _ (by decide +kernel) (isText_sampleText hspells)
  rw [hread]
  decide +kernel

/-- The number 1e999, which is beyond all doubles. -/
def hugeNumeral : Numeral := ⟨false, ['1'], [], some (false, ['9', '9', '9'])⟩

theorem spelt_huge : hugeNumeral.Spelt ['1', 'e', '9', '9', '9'] where
  whole := .digits rfl (by decide) digits_nil
  fraction := digits_nil
  text_eq := ⟨_, .unsigned (.inl rfl) (by simp [Digits]) (by decide), rfl⟩

/-- A number that is out of range makes a response unreadable. -/
theorem parse_sample_huge :
    parse "\x7b\"id\":\"a\"\x7d" = .ok { id := some "a" } ∧
      Spells (.value (.number hugeNumeral)) ['1', 'e', '9', '9', '9'] ∧
      IsText (sampleText ['1', 'e', '9', '9', '9'])
        (.object [sampleMember, (statusKey, .number hugeNumeral)]) ∧
      ∀ r, parse (sampleText ['1', 'e', '9', '9', '9']) ≠ .ok r := by
  have hspells : Spells (.value (.number hugeNumeral)) ['1', 'e', '9', '9', '9'] :=
    .number spelt_huge
  refine ⟨parse_sample, hspells, isText_sampleText hspells, fun r hread => ?_⟩
  have hmeaning := toOption_parse (isText_sampleText hspells)
  rw [hread] at hmeaning
  have hnone :
      shape.meaning asked (.object [sampleMember, (statusKey, .number hugeNumeral)]) = none := by
    decide +kernel
  cases hmeaning.trans hnone

end Response
end ScanClient
