import ScanClient.Proofs.Calls

/-!
# Endings

How a submission ends that is not superseded, told from the answers alone: the first thing that is
wrong with the file, with its contents, or with the upload; else the first answer to a poll that
decides; else the end of the polls.
-/

namespace ScanClient

/-- All that a submission may be told. Polls are counted from one. -/
structure Told where
  files : Except ScanError Files.Tree
  receipt : Except ScanError Receipt
  response : Nat → Except ScanError Response

def Told.answer (told : Told) : Stage → Answer
  | .reading _ => .read told.files
  | .uploading _ => .upload told.receipt
  | .polling _ number => .poll (told.response number)
  | .waiting _ _ => .elapsed

def Request.isPoll : Request → Bool
  | .upload _ _ _ => false
  | .poll _ _ => true

def Stage.isWaiting : Stage → Bool
  | .waiting _ _ => true
  | _ => false

def Turn.endsWait (turn : Turn) : Bool := turn.cause.any fun (stage, _) => stage.isWaiting

namespace Submission

/-- Whatever has come for a submission is what it is told. -/
def Heard (told : Told) (sub : Submission) : Prop :=
  ∀ turn ∈ sub.turns, ∀ stage answer, turn.cause = some (stage, answer) →
    answer = told.answer stage

/-- The number of polls it has made. -/
def pollCount (sub : Submission) : Nat := sub.requests.countP Request.isPoll

/-- The number of waits between polls that it has made. -/
def waitCount (sub : Submission) : Nat := sub.turns.countP Turn.endsWait

end Submission

/-! ## The reference -/

/-- What the answer to a poll decides, unless the scan is not over. -/
def verdict? (scanId : String) : Except ScanError Response → Option (Except ScanError ScanResult)
  | .error e => some (.error e)
  | .ok response =>
    match response.status, response.error with
    | .pending, _ | .unknown, _ => none
    | .failed, none => some (.error (.serviceReported "scan failed"))
    | .failed, some text =>
      if text.toList.all Text.isBlank then some (.error (.serviceReported "scan failed"))
      else some (.error (.serviceReported text))
    | .completed, _ => some (response.toResult scanId)

/-- How a submission ends: the scan it has polled for, how often, and what came of it. -/
structure Ending where
  scanId : Option String
  polls : Nat
  verdict : Except ScanError ScanResult

/-- It ends before the first poll. -/
def Ending.early (e : ScanError) : Ending := ⟨none, 0, .error e⟩

/-- The attempt that is left. -/
def Ending.attempt (ending : Ending) (rules : Rules) (file : ScanFile) (generation : UInt64) :
    Attempt where
  generation := generation
  file := some ⟨file.name, file.size⟩
  phase :=
    match ending.verdict with
    | .error _ => .failed
    | .ok _ => .completed
  scanId := ending.scanId
  attemptCount := ending.polls
  maxAttempts := rules.policy.maxAttempts
  error :=
    match ending.verdict with
    | .error e => some ⟨e.kind, e.message⟩
    | .ok _ => none
  result :=
    match ending.verdict with
    | .error _ => none
    | .ok result => some result

namespace Told

/-- The contents of a file, which are read if they are not in memory. -/
def contents (told : Told) (rules : Rules) (file : ScanFile) : Except ScanError Blob :=
  match file.contents with
  | .inMemory contents => ScanFile.checkSize rules.limits.maxFileSize contents
  | .onDisk _ => told.files.bind fun tree => file.read tree rules.limits.maxFileSize

/-- The first poll for a scan that decides, of as many as are made. -/
def decided? (told : Told) (rules : Rules) (scanId : String) : Option Ending :=
  (List.range' 1 (max 1 rules.policy.maxAttempts)).findSome? fun number =>
    (verdict? scanId (told.response number)).map (Ending.mk (some scanId) number)

def scanEnding (told : Told) (rules : Rules) (scanId : String) : Ending :=
  match told.decided? rules scanId with
  | some ending => ending
  | none =>
    let polls := max 1 rules.policy.maxAttempts
    ⟨some scanId, polls, .error (.timeout polls)⟩

def uploadEnding (told : Told) (rules : Rules) : Ending :=
  match told.receipt with
  | .error e => .early e
  | .ok receipt =>
    match receipt.scanId with
    | none => .early .missingScanId
    | some scanId =>
      if scanId.toList.all Text.isBlank then .early .missingScanId
      else told.scanEnding rules scanId

def readEnding (told : Told) (rules : Rules) : Except ScanError Blob → Ending
  | .error e => .early e
  | .ok _ => told.uploadEnding rules

def ending (told : Told) (rules : Rules) (file : ScanFile) : Ending :=
  match rules.limits.check file.name file.size with
  | .error rejection => .early (.rejected rejection)
  | .ok () => told.readEnding rules (told.contents rules file)

end Told

/-! ## The reference in parts -/

/-- The first of some numbers for which there is something. -/
theorem findSome?_range' {α : Type} {f : Nat → Option α} {count number : Nat} {a : α}
    (hpos : 1 ≤ number) (hle : number ≤ count)
    (before : ∀ k, 1 ≤ k → k < number → f k = none) (h : f number = some a) :
    (List.range' 1 count).findSome? f = some a := by
  -- the numbers before it, the number itself, and the rest, which is not looked at
  have hsplit : List.range' 1 count =
      List.range' 1 (number - 1) ++ number :: List.range' (number + 1) (count - number) := by
    have happend := @List.range'_append_1 1 (number - 1) (count - number + 1)
    rw [show 1 + (number - 1) = number by omega,
      show number - 1 + (count - number + 1) = count by omega, List.range'_succ] at happend
    exact happend.symm
  have hnone : (List.range' 1 (number - 1)).findSome? f = none := by
    rw [List.findSome?_eq_none_iff]
    intro k hk
    have hk := List.mem_range'_1.mp hk
    exact before k hk.1 (by omega)
  rw [hsplit, List.findSome?_append, hnone, Option.none_or, List.findSome?_cons, h]

namespace Told

variable {told : Told} {rules : Rules}

theorem scanEnding_decided {scanId : String} {number : Nat} {verdict : Except ScanError ScanResult}
    (hpos : 1 ≤ number) (hle : number ≤ rules.policy.budget)
    (before : ∀ k, 1 ≤ k → k < number → verdict? scanId (told.response k) = none)
    (h : verdict? scanId (told.response number) = some verdict) :
    told.scanEnding rules scanId = ⟨some scanId, number, verdict⟩ := by
  have hdecided : told.decided? rules scanId = some ⟨some scanId, number, verdict⟩ := by
    apply findSome?_range' hpos hle
    · intro k hk hlt
      rw [before k hk hlt]
      rfl
    · rw [h]
      rfl
  simp only [scanEnding, hdecided]

theorem scanEnding_timeout {scanId : String}
    (h : ∀ k, 1 ≤ k → k ≤ rules.policy.budget → verdict? scanId (told.response k) = none) :
    told.scanEnding rules scanId =
      ⟨some scanId, rules.policy.budget, .error (.timeout rules.policy.budget)⟩ := by
  have hdecided : told.decided? rules scanId = none := by
    rw [decided?, List.findSome?_eq_none_iff]
    intro k hk
    obtain ⟨hpos, hlt⟩ : 1 ≤ k ∧ k < 1 + rules.policy.budget := List.mem_range'_1.mp hk
    rw [h k hpos (by omega)]
    rfl
  simp only [scanEnding, hdecided]
  rfl

theorem uploadEnding_accepted {receipt : Receipt} {scanId : String}
    (hreceipt : told.receipt = .ok receipt) (h : receipt.usableId = some scanId) :
    told.uploadEnding rules = told.scanEnding rules scanId := by
  obtain ⟨hid, hblank⟩ := Receipt.usableId_eq_some h
  simp only [uploadEnding, hreceipt, hid]
  rw [if_neg]
  exact Bool.eq_false_iff.mp hblank

theorem uploadEnding_missing {receipt : Receipt} (hreceipt : told.receipt = .ok receipt)
    (h : receipt.usableId = none) : told.uploadEnding rules = .early .missingScanId := by
  simp only [uploadEnding, hreceipt]
  cases hid : receipt.scanId with
  | none => rfl
  | some scanId =>
    have hblank := Option.filter_eq_none_iff.mp h scanId hid
    simp only
    rw [if_pos]
    cases hall : scanId.toList.all Text.isBlank with
    | true => rfl
    | false =>
      rw [Text.isBlankText, hall] at hblank
      exact absurd rfl hblank

theorem uploadEnding_failure {contents : Blob} {e : ScanError}
    (h : (Stage.uploading contents).failure? rules told.receipt = some e) :
    told.uploadEnding rules = .early e := by
  cases hreceipt : told.receipt with
  | error given =>
    rw [hreceipt] at h
    cases h
    simp only [uploadEnding, hreceipt]
  | ok receipt =>
    rw [hreceipt] at h
    cases hid : receipt.usableId with
    | none =>
      simp only [Stage.failure?, hid, Option.isNone_none, if_true] at h
      cases h
      exact uploadEnding_missing hreceipt hid
    | some scanId =>
      simp only [Stage.failure?, hid, Option.isNone_some, Bool.false_eq_true, if_false] at h
      cases h

end Told

/-- A poll that ends a submission in failure decides so, or is the last. -/
theorem Stage.failure?_polling {rules : Rules} {scanId : String} {number : Nat}
    {given : Except ScanError Response} {e : ScanError}
    (h : (Stage.polling scanId number).failure? rules given = some e) :
    verdict? scanId given = some (.error e) ∨
      verdict? scanId given = none ∧ rules.policy.budget ≤ number ∧
        e = .timeout rules.policy.budget := by
  cases given with
  | error given =>
    cases h
    exact .inl rfl
  | ok response =>
    -- pending and unknown go on to the next poll, and fail where there is none
    have hundecided : verdict? scanId (.ok response) = none →
        (if number < rules.policy.budget then none
          else some (ScanError.timeout rules.policy.budget)) = some e →
        verdict? scanId (.ok response) = none ∧ rules.policy.budget ≤ number ∧
          e = .timeout rules.policy.budget := by
      intro hnone h
      by_cases room : number < rules.policy.budget
      · rw [if_pos room] at h
        cases h
      · rw [if_neg room] at h
        cases h
        exact ⟨hnone, Nat.le_of_not_lt room, rfl⟩
    cases hstatus : response.status with
    | completed =>
      simp only [failure?, hstatus] at h
      left
      simp only [verdict?, hstatus]
      cases hresult : response.toResult scanId with
      | error given =>
        rw [hresult] at h
        cases h
        rfl
      | ok result =>
        rw [hresult] at h
        cases h
    | failed =>
      simp only [failure?, hstatus] at h
      cases h
      left
      simp only [verdict?, hstatus, Response.failureText]
      cases response.error with
      | none => rfl
      | some text =>
        simp only [Text.isBlankText, Option.filter_some]
        cases text.toList.all Text.isBlank <;> rfl
    | pending =>
      simp only [failure?, hstatus] at h
      exact .inr (hundecided (by simp only [verdict?, hstatus]) h)
    | unknown =>
      simp only [failure?, hstatus] at h
      exact .inr (hundecided (by simp only [verdict?, hstatus]) h)

/-- A submission waits only if there are polls left. -/
theorem Stage.Fits.failure?_waiting {rules : Rules} {file : ScanFile} {scanId : String}
    {number : Nat} (h : (Stage.waiting scanId number).Fits rules file) :
    (Stage.waiting scanId number).failure? rules () = none := by
  obtain ⟨_, _, room⟩ := h
  exact if_pos room

/-! ## Lives told in advance -/

/-- What the reference has come to when a submission waits for something. -/
def Stage.Reached (rules : Rules) (told : Told) (file : ScanFile) : Stage → Prop
  | .reading _ =>
    (∃ path, file.contents = .onDisk path) ∧
      told.ending rules file = told.readEnding rules (told.contents rules file)
  | .uploading _ => told.ending rules file = told.uploadEnding rules
  | .polling scanId number =>
    told.ending rules file = told.scanEnding rules scanId ∧
      ∀ k, 1 ≤ k → k < number → verdict? scanId (told.response k) = none
  | .waiting scanId number =>
    told.ending rules file = told.scanEnding rules scanId ∧
      ∀ k, 1 ≤ k → k ≤ number → verdict? scanId (told.response k) = none

/-- A step goes on with the reference, or ends as it says. -/
def Move.Foretold (rules : Rules) (told : Told) (file : ScanFile) (generation : UInt64)
    (move : Move) : Prop :=
  match move.outcome with
  | .waits task => task.stage.Reached rules told file
  | .returns a =>
    a = move.attempt ∧ a = (told.ending rules file).attempt rules file generation

section Steps

variable {rules : Rules} {told : Told} {file : ScanFile} {generation : UInt64}

/-- A failure that leaves what the reference says of a failure. -/
theorem Move.foretold_fails {e : ScanError} {left : Attempt}
    (h : left.fail e.recorded = (told.ending rules file).attempt rules file generation) :
    (Move.fails generation e left).Foretold rules told file generation :=
  ⟨rfl, h⟩

theorem Advance.foretold_reading {task : Task} {selected : ScanFile}
    {given : Except ScanError Blob} {move : Move}
    (hgeneration : task.generation = generation)
    (hending : told.ending rules file = told.readEnding rules given)
    (h : Advance rules task (rules.begun file generation) (.reading selected) given move) :
    move.Foretold rules told file generation := by
  cases h with
  | fails h =>
    rw [hgeneration]
    cases given with
    | error e =>
      cases h
      refine Move.foretold_fails ?_
      rw [hending]
      rfl
    | ok contents => cases h
  | uploads selected contents => exact hending

theorem Standing.foretold_uploading {task : Task} {contents : Blob} {left : Attempt}
    (hgeneration : task.generation = generation)
    (hleft : left = (Stage.uploading contents).leaves (rules.begun file generation))
    (reached : (Stage.uploading contents).Reached rules told file)
    {given : Except ScanError Receipt} (hreceipt : told.receipt = given) {move : Move}
    (h : Advance rules task left (.uploading contents) given move) :
    move.Foretold rules told file generation := by
  cases h with
  | fails h =>
    subst hreceipt
    rw [hgeneration]
    refine Move.foretold_fails ?_
    rw [show told.ending rules file = _ from reached, Told.uploadEnding_failure h, hleft]
    rfl
  | accepted contents h =>
    -- no poll has been answered yet
    refine ⟨Eq.trans reached (Told.uploadEnding_accepted hreceipt h), ?_⟩
    intro k hpos hlt
    omega

theorem Standing.foretold_polling {task : Task} {scanId : String} {number : Nat} {left : Attempt}
    (hgeneration : task.generation = generation)
    (hleft : left = (Stage.polling scanId number).leaves (rules.begun file generation))
    (hfits : (Stage.polling scanId number).Fits rules file)
    (reached : (Stage.polling scanId number).Reached rules told file)
    {given : Except ScanError Response} (hresponse : told.response number = given) {move : Move}
    (h : Advance rules task left (.polling scanId number) given move) :
    move.Foretold rules told file generation := by
  obtain ⟨hending, before⟩ := reached
  obtain ⟨_, hpos, hle⟩ := hfits
  have hundecided : verdict? scanId (told.response number) = none →
      ∀ k, 1 ≤ k → k ≤ number → verdict? scanId (told.response k) = none := by
    intro hnone k hk hkle
    rcases Nat.lt_or_eq_of_le hkle with hlt | rfl
    · exact before k hk hlt
    · exact hnone
  cases h with
  | fails h =>
    subst hresponse
    rw [hgeneration]
    refine Move.foretold_fails ?_
    rw [hleft, hending]
    -- the answer decides, or it was the last poll and none has decided
    rcases Stage.failure?_polling h with h | ⟨hnone, hfull, rfl⟩
    · rw [Told.scanEnding_decided hpos hle before h]
      rfl
    · obtain rfl := Nat.le_antisymm hle hfull
      rw [Told.scanEnding_timeout (hundecided hnone)]
      rfl
  | pauses scanId h room =>
    refine ⟨hending, hundecided ?_⟩
    rw [hresponse]
    rcases h with h | h <;> simp only [verdict?, h]
  | @completes _ _ response result status h =>
    have hverdict : verdict? scanId (told.response number) = some (.ok result) := by
      rw [hresponse]
      simp only [verdict?, status, h]
    refine ⟨rfl, ?_⟩
    rw [hleft, hending, Told.scanEnding_decided hpos hle before hverdict]
    rfl

/-- A step from where the reference has come to goes on with it. -/
theorem Standing.foretold {task : Task} {left : Attempt}
    (standing : Standing rules file generation task left)
    (reached : task.stage.Reached rules told file) {given : task.stage.Answer}
    (hgiven : (told.answer task.stage).at? rules task.stage = some given) {move : Move}
    (h : Advance rules task left task.stage given move) :
    move.Foretold rules told file generation := by
  obtain ⟨taskGeneration, filename, stage⟩ := task
  obtain ⟨hgeneration, _, _, hleft, hfits⟩ := standing
  cases stage with
  | reading selected =>
    cases hgiven
    -- only a file on disk is waited for, so what was read is what the reference reads
    rw [show left = _ from hleft] at h
    obtain ⟨⟨path, hpath⟩, hending⟩ := reached
    refine h.foretold_reading hgeneration (hending.trans ?_)
    rw [show selected = file from hfits]
    simp only [Told.contents, hpath]
  | uploading contents =>
    exact foretold_uploading hgeneration hleft reached (Option.some.inj hgiven) h
  | polling scanId number =>
    exact foretold_polling hgeneration hleft hfits reached (Option.some.inj hgiven) h
  | waiting scanId number =>
    cases h with
    | fails h => cases hfits.failure?_waiting.symm.trans h
    | polls scanId room => exact ⟨reached.1, fun k hk hlt => reached.2 k hk (Nat.le_of_lt_succ hlt)⟩

theorem Opening.foretold {move : Move} (h : Opening rules file generation move) :
    move.Foretold rules told file generation := by
  cases h with
  | rejected h =>
    refine Move.foretold_fails ?_
    simp only [Told.ending, h]
    rfl
  | @inMemory contents move checked h advance =>
    change move.Foretold rules told file generation
    refine advance.foretold_reading rfl ?_
    simp only [Told.ending, checked, Told.contents, h]
  | onDisk checked h =>
    refine ⟨⟨_, h⟩, ?_⟩
    simp only [Told.ending, checked]

end Steps

/-- Where a submission has come to that has not been disturbed is where the reference has. -/
theorem Undisturbed.foretold {rules : Rules} {told : Told} {sub : Submission}
    (h : Undisturbed rules sub) (heard : sub.Heard told) :
    sub.last.Foretold rules told sub.file (UInt64.ofNat sub.begun) := by
  induction h with
  | begins file h =>
    rw [Submission.begin] at heard ⊢
    rw [← h]
    exact (rules.opening_submit file _).foretold
  | @goesOn sub answer turn h hturn ih =>
    obtain ⟨task, given, move, houtcome, standing, hgiven, advance, rfl⟩ := h.advance hturn
    have hbefore := ih fun turn hmem => heard turn (List.mem_append_left _ hmem)
    have hanswer := heard _ (List.mem_append_right _ List.mem_cons_self) task.stage answer rfl
    rw [Move.Foretold, show sub.last.outcome = _ from houtcome] at hbefore
    rw [hanswer] at hgiven
    exact standing.foretold hbefore hgiven advance

/-! ## Polls, waits and steps -/

theorem Turn.requests_dealings (turn : Turn) :
    turn.dealings.filterMap Dealing.request? = turn.move.request?.toList := by
  have hmove : turn.move.dealings.filterMap Dealing.request? = turn.move.request?.toList := by
    unfold Move.dealings
    cases turn.move.request? <;> rfl
  unfold Turn.dealings
  split
  · exact hmove
  · next stage answer _ =>
    have hanswer : (answer.dealings stage).filterMap Dealing.request? = [] := by
      cases stage <;> rfl
    rw [List.filterMap_append, hanswer, List.nil_append, hmove]

theorem Submission.pollCount_begin (file : ScanFile) (begun : Nat) (move : Move) :
    (begin file begun move).pollCount = move.request?.toList.countP Request.isPoll := by
  simp only [pollCount, requests, dealings, begin, List.flatMap_singleton]
  rw [Turn.requests_dealings]

theorem Submission.pollCount_after (sub : Submission) (turn : Turn) :
    (sub.after turn).pollCount =
      sub.pollCount + turn.move.request?.toList.countP Request.isPoll := by
  simp only [pollCount, requests]
  rw [dealings_after, List.filterMap_append, Turn.requests_dealings, List.countP_append]

theorem Submission.waitCount_after (sub : Submission) (turn : Turn) :
    (sub.after turn).waitCount = sub.waitCount + if turn.endsWait then 1 else 0 := by
  simp only [waitCount, after]
  rw [List.countP_append, List.countP_singleton]

/-- An attempt counts the polls. All but the first come after a wait. -/
theorem Standing.attemptCount {rules : Rules} {file : ScanFile} {generation : UInt64} {task : Task}
    {left : Attempt} (standing : Standing rules file generation task left)
    {given : task.stage.Answer} {move : Move}
    (h : Advance rules task left task.stage given move) :
    move.attempt.attemptCount =
        left.attemptCount + move.request?.toList.countP Request.isPoll ∧
      move.attempt.attemptCount - 1 =
        left.attemptCount - 1 + if task.stage.isWaiting then 1 else 0 := by
  obtain ⟨taskGeneration, filename, stage⟩ := task
  obtain ⟨_, _, _, rfl, hfits⟩ := standing
  cases h with
  | @fails _ given e h =>
    -- a failure ends no wait, so it counts none
    refine ⟨rfl, ?_⟩
    cases stage with
    | waiting scanId number => cases hfits.failure?_waiting.symm.trans h
    | reading selected => rfl
    | uploading contents => rfl
    | polling scanId number => rfl
  | uploads selected contents => exact ⟨rfl, rfl⟩
  | accepted contents h => exact ⟨rfl, rfl⟩
  | pauses scanId h room => exact ⟨rfl, rfl⟩
  | polls scanId room => exact ⟨rfl, (Nat.sub_add_cancel hfits.2.1).symm⟩
  | completes number status h => exact ⟨rfl, rfl⟩

theorem Opening.attemptCount {rules : Rules} {file : ScanFile} {generation : UInt64} {move : Move}
    (h : Opening rules file generation move) :
    move.attempt.attemptCount = move.request?.toList.countP Request.isPoll ∧
      move.attempt.attemptCount - 1 = 0 := by
  cases h with
  | rejected h => exact ⟨rfl, rfl⟩
  | onDisk checked h => exact ⟨rfl, rfl⟩
  | @inMemory contents move checked h advance =>
    obtain ⟨hpolls, hwaits⟩ := (rules.standing_begun generation checked).attemptCount advance
    exact ⟨hpolls.trans (Nat.zero_add _), hwaits⟩

theorem Undisturbed.attemptCount {rules : Rules} {sub : Submission} (h : Undisturbed rules sub) :
    sub.pollCount = sub.left.attemptCount ∧ sub.waitCount = sub.left.attemptCount - 1 := by
  induction h with
  | begins file h =>
    obtain ⟨hpolls, hwaits⟩ := (rules.opening_submit file _).attemptCount
    rw [Submission.pollCount_begin]
    exact ⟨hpolls.symm, hwaits.symm⟩
  | goesOn h hturn ih =>
    obtain ⟨task, given, move, _, standing, _, advance, rfl⟩ := h.advance hturn
    obtain ⟨hpolls, hwaits⟩ := standing.attemptCount advance
    rw [Submission.pollCount_after, Submission.waitCount_after, ih.1, ih.2]
    exact ⟨hpolls.symm, hwaits.symm⟩

/-- The number of steps with which a submission comes to wait for something. -/
def Stage.depth : Stage → Nat
  | .reading _ => 1
  | .uploading _ => 2
  | .polling _ number => 2 * number + 1
  | .waiting _ number => 2 * number + 2

theorem Advance.depth {rules : Rules} {task next : Task} {a : Attempt} {stage : Stage}
    {given : stage.Answer} {move : Move} (h : Advance rules task a stage given move)
    (hnext : move.outcome = .waits next) : next.stage.depth = stage.depth + 1 := by
  cases h <;> cases hnext <;> rfl

theorem Stage.Fits.depth_le {rules : Rules} {file : ScanFile} {stage : Stage}
    (h : stage.Fits rules file) : stage.depth ≤ 2 * rules.policy.budget + 1 := by
  have hbudget : 1 ≤ rules.policy.budget := Nat.le_max_left _ _
  cases stage with
  | reading selected => exact Nat.le_add_left _ _
  | uploading contents =>
    simp only [depth]
    omega
  | polling scanId number =>
    obtain ⟨_, _, hle⟩ := h
    simp only [depth]
    omega
  | waiting scanId number =>
    obtain ⟨_, _, hlt⟩ := h
    simp only [depth]
    omega

theorem Undisturbed.length_le_depth {rules : Rules} {sub : Submission} (h : Undisturbed rules sub)
    {task : Task} (houtcome : sub.outcome = .waits task) : sub.turns.length ≤ task.stage.depth := by
  induction h generalizing task with
  | begins file h =>
    cases task.stage with
    | reading selected => exact Nat.le_refl 1
    | uploading contents => exact Nat.le_succ 1
    | polling scanId number => exact Nat.le_add_left _ _
    | waiting scanId number => exact Nat.le_add_left 1 (2 * number + 1)
  | goesOn h hturn ih =>
    obtain ⟨before, given, move, hbefore, _, _, advance, rfl⟩ := h.advance hturn
    simp only [Submission.after, List.length_append, List.length_singleton]
    rw [advance.depth houtcome]
    exact Nat.succ_le_succ (ih hbefore)

/-- A read, an upload, and no more polls and waits than the policy allows. -/
theorem Undisturbed.length_le {rules : Rules} {sub : Submission} (h : Undisturbed rules sub) :
    sub.turns.length ≤ 2 * rules.policy.budget + 2 := by
  cases h with
  | begins file h => exact Nat.le_add_left 1 (2 * rules.policy.budget + 1)
  | goesOn h hturn =>
    obtain ⟨task, given, move, houtcome, standing, _, advance, rfl⟩ := h.advance hturn
    simp only [Submission.after, List.length_append, List.length_singleton]
    exact Nat.succ_le_succ (Nat.le_trans (h.length_le_depth houtcome) standing.fits.depth_le)

end ScanClient
