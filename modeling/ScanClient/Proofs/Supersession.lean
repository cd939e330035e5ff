import ScanClient.Proofs.Advance

/-!
# Superseded submissions

A submission is superseded by the first renewal after its beginning. What it does from then on does
not show: as long as fewer than `2 ^ 64` renewals have followed, the generation of the attempt is
not its own, so its next step changes nothing. Hence what has been published since the last renewal
is what its submission publishes alone.
-/

namespace ScanClient

/-- Generations of renewals that are less than `2 ^ 64` apart differ. -/
theorem generation_ne {m n : Nat} (hlt : m < n) (hnear : n < m + UInt64.size) :
    UInt64.ofNat n ≠ UInt64.ofNat m := by
  intro h
  -- equal generations are equal remainders, and the numbers are less than one round apart
  have hmod := congrArg UInt64.toNat h
  simp only [UInt64.toNat_ofNat'] at hmod
  have hsize : UInt64.size = 18446744073709551616 := rfl
  omega

namespace Submission

def InFlight (sub : Submission) : Prop := ∃ task, sub.outcome = .waits task

/-- A submission that takes a turn is in flight. -/
theorem inFlight_of_turn? {rules : Rules} {sub : Submission} {renewals : Nat} {a : Attempt}
    {answer : Answer} {turn : Turn} (h : sub.turn? rules renewals a answer = some turn) :
    sub.InFlight := by
  obtain ⟨task, _, houtcome, _⟩ := turn?_eq_some h
  exact ⟨task, houtcome⟩

end Submission

namespace Session

/-! ## What renewals and steps do to a session -/

theorem validate_ok {rules : Rules} {file : ScanFile} (s : Session)
    (checked : rules.limits.check file.name file.size = .ok ()) :
    let begun := rules.begun file (s.attempt.generation + 1)
    s.validate rules file =
      s.renew { begun with phase := .idle }
        (rules.announcement file (s.attempt.generation + 1) ++
          [.publish { begun with phase := .idle }]) := by
  simp only [validate, rules.validate_ok s.attempt checked]

theorem validate_error {rules : Rules} {file : ScanFile} (s : Session) {rejection : Rejection}
    (checked : rules.limits.check file.name file.size = .error rejection) :
    let move : Move :=
      .fails (s.attempt.generation + 1) (.rejected rejection)
        (rules.begun file (s.attempt.generation + 1))
    s.validate rules file =
      s.renew move.attempt
        (rules.announcement file (s.attempt.generation + 1) ++ move.effects) := by
  simp only [validate, rules.validate_error s.attempt checked]

/-- A renewal makes the next generation, and no submission begins with it but its own. -/
structure Renewal (rules : Rules) (s s' : Session) : Prop where
  renewals : s'.renewals = s.renewals + 1
  generation : s'.attempt.generation = s.attempt.generation + 1
  submissions : s'.submissions = s.submissions ∨
    ∃ file, s'.attempt = (rules.submit file s.attempt).attempt ∧
      s'.submissions =
        s.submissions ++ [.begin file (s.renewals + 1) (rules.submit file s.attempt)]

theorem renewal_of_step? {rules : Rules} {s s' : Session} {act : Act} (hact : act.renews = true)
    (h : s.step? rules act = some s') : Renewal rules s s' := by
  cases act with
  | submit file =>
    cases h
    exact ⟨rfl, (rules.opening_submit file s.attempt).generation, .inr ⟨file, rfl, rfl⟩⟩
  | validate file =>
    cases h
    refine ⟨rfl, ?_, .inl rfl⟩
    cases checked : rules.limits.check file.name file.size with
    | ok _ =>
      rw [validate_ok s checked]
      rfl
    | error rejection =>
      rw [validate_error s checked]
      rfl
  | reset =>
    cases h
    exact ⟨rfl, rfl, .inl rfl⟩
  | resume index answer => cases hact

/-- Whatever happens is a renewal or a step of a submission. -/
theorem step?_cases {rules : Rules} {s s' : Session} {act : Act}
    (h : s.step? rules act = some s') :
    (act.renews = true ∧ Renewal rules s s') ∨
      ∃ index answer sub turn, act = .resume index answer ∧
        s.submissions[index]? = some sub ∧
        sub.turn? rules s.renewals s.attempt answer = some turn ∧ s' = s.take index sub turn := by
  cases act with
  | resume index answer =>
    obtain ⟨sub, turn, hsub, hturn, hs'⟩ := step?_resume h
    exact .inr ⟨index, answer, sub, turn, rfl, hsub, hturn, hs'⟩
  | submit file => exact .inl ⟨rfl, renewal_of_step? rfl h⟩
  | validate file => exact .inl ⟨rfl, renewal_of_step? rfl h⟩
  | reset => exact .inl ⟨rfl, renewal_of_step? rfl h⟩

/-- A step of one submission leaves the others as they are. -/
theorem getElem?_take (s : Session) (index i : Nat) (sub : Submission) (turn : Turn)
    (hsub : s.submissions[index]? = some sub) :
    (s.take index sub turn).submissions[i]? =
      if index = i then some (sub.after turn) else s.submissions[i]? := by
  obtain ⟨hlt, _⟩ := List.getElem?_eq_some_iff.mp hsub
  simp only [take]
  rw [List.getElem?_set]
  by_cases hi : index = i
  · rw [if_pos hi, if_pos hi, if_pos (hi ▸ hlt)]
  · rw [if_neg hi, if_neg hi]

/-- A submission keeps its place, its file and its beginning. -/
theorem getElem?_of_step? {rules : Rules} {s s' : Session} {act : Act}
    (h : s.step? rules act = some s') {i : Nat} {sub : Submission}
    (hsub : s.submissions[i]? = some sub) :
    ∃ sub', s'.submissions[i]? = some sub' ∧ sub'.file = sub.file ∧ sub'.begun = sub.begun := by
  rcases step?_cases h with ⟨_, renewal⟩ | ⟨index, answer, resumed, turn, _, hresumed, _, rfl⟩
  · refine ⟨sub, ?_, rfl, rfl⟩
    rcases renewal.submissions with hsubs | ⟨file, _, hsubs⟩
    · rw [hsubs]
      exact hsub
    · rw [hsubs, List.getElem?_append_left (List.getElem?_eq_some_iff.mp hsub).choose]
      exact hsub
  · rw [getElem?_take s index i resumed turn hresumed]
    split
    next hi =>
      rw [hi, hsub] at hresumed
      cases hresumed
      exact ⟨_, rfl, rfl, rfl⟩
    next => exact ⟨sub, hsub, rfl, rfl⟩

theorem getElem?_of_run? {rules : Rules} {s s' : Session} {acts : List Act}
    (h : s.run? rules acts = some s') {i : Nat} {sub : Submission}
    (hsub : s.submissions[i]? = some sub) :
    ∃ sub', s'.submissions[i]? = some sub' ∧ sub'.file = sub.file ∧ sub'.begun = sub.begun := by
  refine run?_keeps (P := fun s => ∃ sub', s.submissions[i]? = some sub' ∧ sub'.file = sub.file ∧
    sub'.begun = sub.begun) ?_ ⟨sub, hsub, rfl, rfl⟩ h
  rintro s act s' ⟨sub', hsub', hfile, hbegun⟩ hstep
  obtain ⟨next, hnext, hfile', hbegun'⟩ := getElem?_of_step? hstep hsub'
  exact ⟨next, hnext, hfile'.trans hfile, hbegun'.trans hbegun⟩

theorem renewals_step? {rules : Rules} {s s' : Session} {act : Act}
    (h : s.step? rules act = some s') :
    s'.renewals = s.renewals + if act.renews then 1 else 0 := by
  rcases step?_cases h with ⟨hact, renewal⟩ | ⟨_, _, _, _, rfl, _, _, rfl⟩
  · rw [renewal.renewals, if_pos hact]
  · rfl

/-- A session counts the acts that renew the attempt. -/
theorem renewals_run? {rules : Rules} {s s' : Session} {acts : List Act}
    (h : s.run? rules acts = some s') : s'.renewals = s.renewals + acts.countP Act.renews := by
  induction acts generalizing s with
  | nil =>
    cases h
    rfl
  | cons act acts ih =>
    obtain ⟨next, hnext, h⟩ := run?_cons.mp h
    rw [ih h, renewals_step? hnext, List.countP_cons]
    omega

/-! ## Generations count renewals -/

/-- What holds of every session, even if generations have come round. -/
structure Sound (s : Session) : Prop where
  generation : s.attempt.generation = UInt64.ofNat s.renewals
  begun_le : ∀ sub ∈ s.submissions, sub.begun ≤ s.renewals
  /-- All submissions but the last are superseded. -/
  begun_lt : ∀ i sub, s.submissions[i]? = some sub → i + 1 < s.submissions.length →
    sub.begun < s.renewals
  task : ∀ sub ∈ s.submissions, ∀ task, sub.outcome = .waits task →
    task.generation = UInt64.ofNat sub.begun

/-- The next renewal makes the next generation. -/
theorem Sound.generation_succ {s : Session} (sound : s.Sound) :
    s.attempt.generation + 1 = UInt64.ofNat (s.renewals + 1) := by
  rw [sound.generation, UInt64.ofNat_add]
  rfl

/-- The submission that is not superseded is the last. -/
theorem Sound.last {s : Session} (sound : s.Sound) {i : Nat} {sub : Submission}
    (hsub : s.submissions[i]? = some sub) (hbegun : sub.begun = s.renewals) :
    i + 1 = s.submissions.length := by
  have hlt := (List.getElem?_eq_some_iff.mp hsub).choose
  rcases Nat.lt_or_eq_of_le hlt with hlt | heq
  · exact absurd hbegun (Nat.ne_of_lt (sound.begun_lt i sub hsub hlt))
  · exact heq

theorem sound_start (rules : Rules) : (start rules).Sound where
  generation := rfl
  begun_le _ h := nomatch h
  begun_lt _ _ h := nomatch h
  task _ h := nomatch h

theorem Sound.renewal {rules : Rules} {s s' : Session} (sound : s.Sound)
    (h : Renewal rules s s') : s'.Sound := by
  have hgeneration : s'.attempt.generation = UInt64.ofNat s'.renewals := by
    rw [h.generation, h.renewals, sound.generation_succ]
  have hle : ∀ sub ∈ s.submissions, sub.begun < s'.renewals := by
    intro sub hsub
    rw [h.renewals]
    exact Nat.lt_succ_of_le (sound.begun_le sub hsub)
  rcases h.submissions with hsubs | ⟨file, hattempt, hsubs⟩
  -- no submission has begun: all of them are superseded
  · refine ⟨hgeneration, ?_, ?_, ?_⟩
    · rw [hsubs]
      exact fun sub hsub => Nat.le_of_lt (hle sub hsub)
    · rw [hsubs]
      exact fun i sub hsub _ => hle sub (List.mem_of_getElem? hsub)
    · rw [hsubs]
      exact sound.task
  -- one has begun, and all but that one are
  · refine ⟨hgeneration, ?_, ?_, ?_⟩
    · rw [hsubs]
      intro sub hsub
      rcases List.mem_append.mp hsub with hsub | hsub
      · exact Nat.le_of_lt (hle sub hsub)
      · rw [List.mem_singleton.mp hsub, h.renewals]
        exact Nat.le_refl _
    · rw [hsubs]
      intro i sub hsub hi
      rw [List.length_append, List.length_singleton] at hi
      rw [List.getElem?_append_left (Nat.lt_of_succ_lt_succ hi)] at hsub
      exact hle sub (List.mem_of_getElem? hsub)
    · rw [hsubs]
      intro sub hsub task houtcome
      rcases List.mem_append.mp hsub with hsub | hsub
      · exact sound.task sub hsub task houtcome
      · rw [List.mem_singleton.mp hsub] at houtcome ⊢
        rw [((rules.opening_submit file s.attempt).task houtcome).1, ← h.generation, hgeneration,
          h.renewals]
        rfl

theorem Sound.take {rules : Rules} {s : Session} (sound : s.Sound) {index : Nat}
    {sub : Submission} {turn : Turn} {answer : Answer} (hsub : s.submissions[index]? = some sub)
    (hturn : sub.turn? rules s.renewals s.attempt answer = some turn) :
    (s.take index sub turn).Sound := by
  obtain ⟨task, given, houtcome, _, rfl⟩ := Submission.turn?_eq_some hturn
  have hmem := List.mem_of_getElem? hsub
  refine ⟨?_, ?_, ?_, ?_⟩
  · exact (task.resume_generation rules given s.attempt).trans sound.generation
  · intro other hother
    rcases List.mem_or_eq_of_mem_set hother with hother | rfl
    · exact sound.begun_le other hother
    · exact sound.begun_le sub hmem
  · intro i other hother hi
    rw [getElem?_take s index i sub _ hsub] at hother
    simp only [Session.take, List.length_set] at hi
    split at hother
    next heq =>
      cases hother
      exact sound.begun_lt i sub (heq ▸ hsub) hi
    next => exact sound.begun_lt i other hother hi
  · intro other hother next hnext
    rcases List.mem_or_eq_of_mem_set hother with hother | rfl
    · exact sound.task other hother next hnext
    · exact (Task.resume_task rules given hnext).trans (sound.task sub hmem task houtcome)

theorem Sound.step {rules : Rules} {s s' : Session} {act : Act} (sound : s.Sound)
    (h : s.step? rules act = some s') : s'.Sound := by
  rcases step?_cases h with ⟨_, renewal⟩ | ⟨_, _, _, _, _, hsub, hturn, rfl⟩
  · exact sound.renewal renewal
  · exact sound.take hsub hturn

theorem sound_of_run? {rules : Rules} {s : Session} {acts : List Act}
    (h : (start rules).run? rules acts = some s) : s.Sound :=
  run?_keeps (fun _ _ _ sound hstep => sound.step hstep) (sound_start rules) h

/-! ## Superseded steps -/

/-- No submission in flight is so old that generations may have come round since. -/
def Timely (s : Session) : Prop :=
  ∀ sub ∈ s.submissions, sub.InFlight → s.renewals < sub.begun + UInt64.size

theorem timely_of_lt {s : Session} (few : s.renewals < UInt64.size) : s.Timely :=
  fun sub _ _ => Nat.lt_of_lt_of_le few (Nat.le_add_left _ sub.begun)

/-- A submission that has been superseded, and not too long ago, changes nothing and returns. -/
theorem Sound.superseded {rules : Rules} {s : Session} (sound : s.Sound) {sub : Submission}
    {turn : Turn} {answer : Answer} (hsub : sub ∈ s.submissions) (hlt : sub.begun < s.renewals)
    (hnear : s.renewals < sub.begun + UInt64.size)
    (hturn : sub.turn? rules s.renewals s.attempt answer = some turn) :
    ∃ events : List Log.Event, turn.move = .final s.attempt (events.map .log) := by
  obtain ⟨task, given, houtcome, _, rfl⟩ := Submission.turn?_eq_some hturn
  apply task.resume_superseded rules given s.attempt
  rw [sound.generation, sound.task sub hsub task houtcome]
  exact generation_ne hlt hnear

/-- So nothing shows of such a step but that the submission has returned. -/
theorem Sound.take_superseded {rules : Rules} {s : Session} (sound : s.Sound) {index : Nat}
    {sub : Submission} {turn : Turn} {answer : Answer} (hsub : s.submissions[index]? = some sub)
    (hlt : sub.begun < s.renewals) (hnear : s.renewals < sub.begun + UInt64.size)
    (hturn : sub.turn? rules s.renewals s.attempt answer = some turn) :
    s.take index sub turn =
      { s with submissions := s.submissions.set index (sub.after turn) } := by
  obtain ⟨events, hmove⟩ :=
    sound.superseded (List.mem_of_getElem? hsub) hlt hnear hturn
  simp only [Session.take, hmove, Move.final, publications_logs, List.append_nil]

theorem Timely.take {rules : Rules} {s : Session} (timely : s.Timely) {index : Nat}
    {sub : Submission} {turn : Turn} {answer : Answer} (hsub : s.submissions[index]? = some sub)
    (hturn : sub.turn? rules s.renewals s.attempt answer = some turn) :
    (s.take index sub turn).Timely := by
  intro other hother hflight
  rcases List.mem_or_eq_of_mem_set hother with hother | rfl
  · exact timely other hother hflight
  · exact timely sub (List.mem_of_getElem? hsub) (Submission.inFlight_of_turn? hturn)

/-! ## Alone -/

/-- The same attempt, with nobody else on it. -/
def alone (s : Session) : Session := { s with submissions := [], published := [] }

/-- A session goes on as another in which a submission is alone: what has been published `before`
apart, the same has been published. All other submissions are superseded. -/
structure Mirrors (index : Nat) (before : List Attempt) (s t : Session) : Prop where
  attempt : t.attempt = s.attempt
  renewals : t.renewals = s.renewals
  submission : t.submissions[0]? = s.submissions[index]?
  published : s.published = before ++ t.published
  others : ∀ i sub, i ≠ index → s.submissions[i]? = some sub → sub.begun < s.renewals

theorem Sound.mirrors_renewal {rules : Rules} {s s' : Session} (sound : s.Sound) {act : Act}
    (hact : act.renews = true) (h : s.step? rules act = some s') :
    ∃ t, s.alone.step? rules act = some t ∧
      Mirrors s.submissions.length s.published s' t := by
  -- whatever is not at the new place was there before, and so began before
  have hothers : ∀ i sub, i ≠ s.submissions.length → s'.submissions[i]? = some sub →
      sub.begun < s'.renewals := by
    have renewal := renewal_of_step? hact h
    intro i sub hi hsub
    rw [renewal.renewals]
    apply Nat.lt_succ_of_le
    rcases renewal.submissions with hsubs | ⟨file, _, hsubs⟩
    · rw [hsubs] at hsub
      exact sound.begun_le sub (List.mem_of_getElem? hsub)
    · have hlt := (List.getElem?_eq_some_iff.mp hsub).choose
      rw [hsubs, List.length_append, List.length_singleton] at hlt
      rw [hsubs, List.getElem?_append_left (by omega)] at hsub
      exact sound.begun_le sub (List.mem_of_getElem? hsub)
  cases act with
  | submit file =>
    cases h
    refine ⟨_, rfl, rfl, rfl, ?_, rfl, hothers⟩
    simp only [submit, List.getElem?_concat_length]
    rfl
  | validate file =>
    cases h
    refine ⟨_, rfl, rfl, rfl, ?_, rfl, hothers⟩
    exact (List.getElem?_eq_none (Nat.le_refl s.submissions.length)).symm
  | reset =>
    cases h
    refine ⟨_, rfl, rfl, rfl, ?_, rfl, hothers⟩
    exact (List.getElem?_eq_none (Nat.le_refl s.submissions.length)).symm
  | resume index answer => cases hact

/-- The submission that is alone takes the same steps. -/
theorem Mirrors.own {rules : Rules} {s s' t : Session} {index : Nat} {before : List Attempt}
    (mirrors : Mirrors index before s t) {answer : Answer}
    (h : s.step? rules (.resume index answer) = some s') :
    ∃ t', t.step? rules (.resume 0 answer) = some t' ∧ Mirrors index before s' t' := by
  obtain ⟨sub, turn, hsub, hturn, rfl⟩ := step?_resume h
  have hsub' : t.submissions[0]? = some sub := mirrors.submission.trans hsub
  refine ⟨t.take 0 sub turn, ?_, rfl, mirrors.renewals, ?_, ?_, ?_⟩
  · simp only [step?, hsub', mirrors.attempt, mirrors.renewals, hturn, Option.map_some]
  · rw [getElem?_take t 0 0 sub turn hsub', getElem?_take s index index sub turn hsub, if_pos rfl,
      if_pos rfl]
  · simp only [take, mirrors.published, List.append_assoc]
  · intro i other hi hother
    rw [getElem?_take s index i sub turn hsub, if_neg (Ne.symm hi)] at hother
    exact mirrors.others i other hi hother

/-- Nobody sees the steps of the others. -/
theorem Mirrors.other {rules : Rules} {s s' t : Session} {index i : Nat} {before : List Attempt}
    (mirrors : Mirrors index before s t) (sound : s.Sound) (timely : s.Timely) (hi : i ≠ index)
    {answer : Answer} (h : s.step? rules (.resume i answer) = some s') :
    Mirrors index before s' t := by
  obtain ⟨sub, turn, hsub, hturn, rfl⟩ := step?_resume h
  have hlt := mirrors.others i sub hi hsub
  have hnear := timely sub (List.mem_of_getElem? hsub) (Submission.inFlight_of_turn? hturn)
  have hget := fun j => getElem?_take s i j sub turn hsub
  rw [sound.take_superseded hsub hlt hnear hturn] at hget ⊢
  refine ⟨mirrors.attempt, mirrors.renewals, ?_, mirrors.published, ?_⟩
  · rw [hget, if_neg hi]
    exact mirrors.submission
  · intro j other hj hother
    rw [hget] at hother
    split at hother
    next =>
      cases hother
      exact hlt
    next => exact mirrors.others j other hj hother

end Session

/-- The answer that an act brings for a submission. -/
def Act.answerFor? (index : Nat) : Act → Option Answer
  | .resume i answer => if i = index then some answer else none
  | _ => none

theorem Session.Mirrors.run {rules : Rules} {s s' t : Session} {index : Nat}
    {before : List Attempt} {acts : List Act} (mirrors : Mirrors index before s t)
    (sound : s.Sound) (timely : s.Timely) (hacts : ∀ act ∈ acts, act.renews = false)
    (h : s.run? rules acts = some s') :
    ∃ t', t.run? rules ((acts.filterMap (Act.answerFor? index)).map (.resume 0)) = some t' ∧
      Mirrors index before s' t' := by
  induction acts generalizing s t with
  | nil =>
    cases h
    exact ⟨t, rfl, mirrors⟩
  | cons act acts ih =>
    obtain ⟨next, hnext, hrun⟩ := run?_cons.mp h
    have hrest := fun act hact => hacts act (List.mem_cons_of_mem _ hact)
    rcases step?_cases hnext with ⟨hact, _⟩ | ⟨i, answer, sub, turn, rfl, hsub, hturn, hs'⟩
    · rw [hacts act List.mem_cons_self] at hact
      cases hact
    · have soundNext := sound.step hnext
      have timelyNext : next.Timely := hs' ▸ timely.take hsub hturn
      -- the other session follows a step of the submission itself, and stays at all others
      by_cases hi : i = index
      · subst hi
        obtain ⟨t₁, ht₁, mirrors₁⟩ := mirrors.own hnext
        obtain ⟨t', ht', mirrors'⟩ := ih mirrors₁ soundNext timelyNext hrest hrun
        refine ⟨t', ?_, mirrors'⟩
        simp only [List.filterMap_cons, Act.answerFor?, if_true, List.map_cons]
        exact run?_cons.mpr ⟨t₁, ht₁, ht'⟩
      · have mirrors₁ := mirrors.other sound timely hi hnext
        obtain ⟨t', ht', mirrors'⟩ := ih mirrors₁ soundNext timelyNext hrest hrun
        refine ⟨t', ?_, mirrors'⟩
        simp only [List.filterMap_cons, Act.answerFor?, if_neg hi]
        exact ht'

/-! ## The main result -/

theorem Session.submissions_submit {rules : Rules} {s s' : Session} {file : ScanFile}
    (h : s.step? rules (.submit file) = some s') :
    s'.submissions[s.submissions.length]? =
      some (.begin file s'.renewals (rules.submit file s.attempt)) := by
  cases h
  exact List.getElem?_concat_length

/-- Superseded work never shows. In a session that has come to `s` a file is submitted, and other
things happen, among them at least one renewal and fewer than `2 ^ 64`. Then the submission changes
nothing and publishes nothing by its next step, whatever has come for it. Also, let the attempt be
renewed in `s`, and then let submissions go on until the session has come to `s'`. Then the same
renewal and the same answers for its own submission, in a session where nobody else is at work,
publish exactly what has been published since, and leave the same attempt. -/
theorem superseded_work_never_shows (rules : Rules) {acts : List Act} {s : Session}
    (hrun : (Session.start rules).run? rules acts = some s) :
    (∀ (file : ScanFile) (since : List Act) (answer : Answer) (begun now next : Session),
      s.step? rules (.submit file) = some begun → begun.run? rules since = some now →
      0 < since.countP Act.renews → since.countP Act.renews < UInt64.size →
      now.step? rules (.resume s.submissions.length answer) = some next →
      next.attempt = now.attempt ∧ next.published = now.published) ∧
    ∀ (renewal : Act) (since : List Act) (renewed s' : Session),
      renewal.renews = true → s.step? rules renewal = some renewed → renewed.Timely →
      (∀ act ∈ since, act.renews = false) → renewed.run? rules since = some s' →
      ∃ t, s.alone.run? rules (renewal ::
          (since.filterMap (Act.answerFor? s.submissions.length)).map (.resume 0)) = some t ∧
        s'.published = s.published ++ t.published ∧ s'.attempt = t.attempt := by
  have sound := Session.sound_of_run? hrun
  constructor
  · intro file since answer begun now next hbegun hnow hpos hfew hnext
    have soundNow : now.Sound :=
      Session.run?_keeps (fun _ _ _ h hstep => h.step hstep) (sound.step hbegun) hnow
    obtain ⟨sub, turn, hsub, hturn, rfl⟩ := Session.step?_resume hnext
    -- the submission that steps is the one that was begun, so the renewals since can be counted
    obtain ⟨sub', hsub', _, hsubBegun⟩ :=
      Session.getElem?_of_run? hnow (Session.submissions_submit hbegun)
    rw [hsub] at hsub'
    cases hsub'
    have hrenewals := Session.renewals_run? hnow
    have hlt : sub.begun < now.renewals := by
      rw [hsubBegun]
      simp only [Submission.begin]
      omega
    have hnear : now.renewals < sub.begun + UInt64.size := by
      rw [hsubBegun]
      simp only [Submission.begin]
      omega
    rw [soundNow.take_superseded hsub hlt hnear hturn]
    exact ⟨rfl, rfl⟩
  · intro renewal since renewed s' hrenewal hrenewed timely hsince hs'
    obtain ⟨t, ht, mirrors⟩ := sound.mirrors_renewal hrenewal hrenewed
    obtain ⟨t', ht', mirrors'⟩ := mirrors.run (sound.step hrenewed) timely hsince hs'
    exact ⟨t', Session.run?_cons.mpr ⟨t, ht, ht'⟩, mirrors'.published, mirrors'.attempt.symm⟩

/-- A receipt that comes after a reset does not show, nor one for a submission that another one has
followed. -/
theorem late_receipts_never_show :
    ∃ s begun now next renewed s' t,
      (Session.start .standard).run? .standard [.submit sampleFile] = some s ∧
      s.step? .standard (.submit sampleFile) = some begun ∧
      begun.run? .standard [.reset] = some now ∧
      now.step? .standard (.resume 1 (.upload (.ok ⟨some "late"⟩))) = some next ∧
      next.attempt = now.attempt ∧ next.published = now.published ∧
      s.step? .standard (.submit sampleFile) = some renewed ∧
      renewed.run? .standard [.resume 0 (.upload (.ok ⟨some "old"⟩)),
        .resume 1 (.upload (.ok ⟨some "new"⟩))] = some s' ∧
      s.alone.run? .standard [.submit sampleFile, .resume 0 (.upload (.ok ⟨some "new"⟩))] =
        some t ∧
      s'.published = s.published ++ t.published ∧ s'.attempt = t.attempt := by
  have hrun : (Session.start .standard).run? .standard [.submit sampleFile] = some _ := rfl
  obtain ⟨quiet, mirrored⟩ := superseded_work_never_shows .standard hrun
  obtain ⟨hattempt, hpublished⟩ := quiet sampleFile [.reset] (.upload (.ok ⟨some "late"⟩)) _ _ _
    rfl rfl (by decide) (by decide) rfl
  obtain ⟨t, ht, hshown, hleft⟩ := mirrored (.submit sampleFile)
    [.resume 0 (.upload (.ok ⟨some "old"⟩)), .resume 1 (.upload (.ok ⟨some "new"⟩))] _ _ rfl rfl
    (Session.timely_of_lt (by decide)) (by decide) rfl
  exact ⟨_, _, _, _, _, _, t, hrun, rfl, rfl, rfl, hattempt, hpublished, rfl, rfl, ht, hshown,
    hleft⟩

end ScanClient
