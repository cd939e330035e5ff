import ScanClient.Proofs.Consistency
import ScanClient.Scan

/-!
# Scans are sessions

A scan is a session of one submission, which nothing disturbs and which is told at once whatever it
waits for. What the service logs while it answers is between the effects of the submission, where it
publishes nothing.
-/

namespace ScanClient

open Log

namespace Scan

variable (service : Service σ) (tree : Files.Tree) (rules : Rules)

/-- A scan is told what a session can be told. -/
theorem at?_answer (st : σ) :
    (task : Task) →
      ∃ given : Answer, given.at? rules task.stage = some (answer service tree rules st task).1
  | ⟨_, _, .reading _⟩ => ⟨.read (.ok tree), rfl⟩
  | ⟨_, filename, .uploading contents⟩ => ⟨.upload (service.upload filename contents st).1, rfl⟩
  | ⟨_, _, .polling scanId _⟩ => ⟨.poll (service.poll scanId st).1, rfl⟩
  | ⟨_, _, .waiting _ _⟩ => ⟨.elapsed, rfl⟩

theorem runFrom_returns (effects : List Effect) {move : Move} (st : σ) {a : Attempt}
    (h : move.outcome = .returns a) :
    runFrom service tree rules effects move st = ⟨effects ++ move.effects, a, st⟩ := by
  rw [runFrom]
  split
  · next hmove => rw [Outcome.returns.inj (h.symm.trans hmove)]
  · next hmove => cases h.symm.trans hmove

theorem runFrom_waits (effects : List Effect) {move : Move} {st next : σ} {task : Task}
    {given : task.stage.Answer} {events : List Event} (h : move.outcome = .waits task)
    (hanswer : answer service tree rules st task = (given, events, next)) :
    runFrom service tree rules effects move st =
      runFrom service tree rules (effects ++ move.effects ++ events.map .log)
        (task.resume rules given move.attempt) next := by
  rw [runFrom]
  split
  · next hmove => cases h.symm.trans hmove
  · next hmove =>
    cases Outcome.waits.inj (h.symm.trans hmove)
    rw [hanswer]

/-- Wherever a scan goes from a step, a session goes where only that submission goes on. -/
theorem session_of_runFrom (effects : List Effect) (move : Move) (st : σ) (before : List Attempt)
    {s : Session} {sub : Submission} (hsub : s.submissions[0]? = some sub) (hlast : sub.last = move)
    (hattempt : s.attempt = move.attempt)
    (hpublished : s.published = before ++ publications (effects ++ move.effects)) :
    let scan := runFrom service tree rules effects move st
    ∃ acts s' sub', s.run? rules acts = some s' ∧ acts.countP Act.renews = 0 ∧
      s'.submissions[0]? = some sub' ∧ sub'.outcome = .returns scan.attempt ∧
      s'.published = before ++ publications scan.effects := by
  induction effects, move, st using runFrom.induct service tree rules generalizing s sub with
  | case1 effects move st a hmove =>
    rw [runFrom_returns service tree rules effects st hmove]
    refine ⟨[], s, sub, rfl, rfl, hsub, ?_, hpublished⟩
    rw [Submission.outcome, hlast, hmove]
  | case2 effects move st task hmove given events next hanswer ih =>
    rw [runFrom_waits service tree rules effects hmove hanswer]
    -- the session is told what the scan was told, and takes the same step
    obtain ⟨come, hcome⟩ := at?_answer service tree rules st task
    rw [hanswer] at hcome
    let turn : Turn :=
      ⟨some (task.stage, come), s.renewals, task.resume rules given move.attempt⟩
    have hturn : sub.turn? rules s.renewals s.attempt come = some turn := by
      simp only [Submission.turn?, Submission.outcome, hlast, hmove, hcome, hattempt,
        Option.map_some, turn]
    have hstep : s.step? rules (.resume 0 come) = some (s.take 0 sub turn) := by
      simp only [Session.step?, hsub, hturn, Option.map_some]
    have hsub' : (s.take 0 sub turn).submissions[0]? = some (sub.after turn) := by
      rw [Session.getElem?_take s 0 0 sub turn hsub, if_pos rfl]
    -- the events of the service are published to nobody
    have hpublished' : (s.take 0 sub turn).published = before ++
        publications (effects ++ move.effects ++ events.map .log ++ turn.move.effects) := by
      simp only [Session.take, hpublished, publications_append, publications_logs,
        List.nil_append, List.append_assoc]
    obtain ⟨acts, s', sub', hrun, hcount, hend⟩ := ih hsub' rfl rfl hpublished'
    exact ⟨.resume 0 come :: acts, s', sub', Session.run?_cons.mpr ⟨_, hstep, hrun⟩, hcount, hend⟩

/-- A scan is a session where one file is submitted and nothing else happens. -/
theorem session_of_run (file : ScanFile) (st : σ) :
    let scan := run service tree rules file (.fresh 0 rules.policy.maxAttempts) st
    ∃ acts s sub, (Session.start rules).run? rules (.submit file :: acts) = some s ∧
      acts.countP Act.renews = 0 ∧ s.submissions[0]? = some sub ∧
      sub.outcome = .returns scan.attempt ∧
      s.published = .fresh 0 rules.policy.maxAttempts :: publications scan.effects := by
  obtain ⟨acts, s, sub, hrun, hend⟩ := session_of_runFrom service tree rules []
    (rules.submit file (Session.start rules).attempt) st
    [.fresh 0 rules.policy.maxAttempts] (s := (Session.start rules).submit rules file)
    rfl rfl rfl rfl
  exact ⟨acts, s, sub, Session.run?_cons.mpr ⟨_, rfl, hrun⟩, hend⟩

/-- So whatever the service answers, a scan publishes only consistent attempts. -/
theorem published_run (file : ScanFile) (st : σ) :
    ∀ a ∈ publications
        (run service tree rules file (.fresh 0 rules.policy.maxAttempts) st).effects,
      a.Consistent rules.policy := by
  intro a ha
  obtain ⟨acts, s, sub, hrun, hcount, _, _, hpublished⟩ :=
    session_of_run service tree rules file st
  -- nothing renews the attempt but the one submission
  have few : (Act.submit file :: acts).countP Act.renews < UInt64.size := by
    rw [List.countP_cons_of_pos rfl, hcount]
    decide
  refine ((Session.kept_of_run? hrun few).published a ?_).consistent
  rw [hpublished]
  exact List.mem_cons_of_mem _ ha

/-- A scan of a file on disk that the first poll finds done ends with its result. -/
theorem completed_run {file : ScanFile} {path : List UInt8} (hdisk : file.contents = .onDisk path)
    (hcheck : rules.limits.check file.name file.size = .ok ()) {contents : Blob}
    (hread : file.read tree rules.limits.maxFileSize = .ok contents) {st st' st'' : σ}
    {receipt : Receipt} {uploaded : List Log.Event}
    (hupload : service.upload file.name contents st = (.ok receipt, uploaded, st'))
    {scanId : String} (hid : receipt.usableId = some scanId) {response : Response}
    {polled : List Log.Event} (hpoll : service.poll scanId st' = (.ok response, polled, st''))
    (hstatus : response.status = .completed) {result : ScanResult}
    (hresult : response.toResult scanId = .ok result) (a : Attempt) :
    (run service tree rules file a st).attempt.phase = .completed ∧
      (run service tree rules file a st).attempt.result = some result := by
  let begun := (rules.begin file a).1
  let reading : Task := ⟨begun.generation, file.name, .reading file⟩
  let uploading : Task := ⟨begun.generation, file.name, .uploading contents⟩
  let polling : Task := ⟨begun.generation, file.name, .polling scanId 1⟩
  let sent := (Move.uploads reading contents begun).attempt
  let accepted := Move.accepted rules uploading scanId sent
  have hsubmit : rules.submit file a = ⟨begun, (rules.begin file a).2, .waits reading⟩ := by
    simp only [Rules.submit, hcheck, hdisk]
    rfl
  have hsent : reading.resume rules (.ok contents) begun = .uploads reading contents begun :=
    if_pos rfl
  have haccepted : uploading.resume rules (.ok receipt) sent = accepted := by
    have hcurrent : sent.generation = uploading.generation := rfl
    show uploading.afterUpload rules (.ok receipt) sent = _
    simp only [Task.afterUpload, hid]
    have hpoll := Task.poll_current rules (a := { sent with scanId := some scanId, phase := .polling })
      hcurrent
    rw [if_neg (not_not_intro hcurrent), hpoll]
    rfl
  have hcompleted : polling.resume rules (.ok response) accepted.attempt =
      .completes scanId result accepted.attempt := by
    show polling.afterPoll rules scanId 1 (.ok response) _ = _
    simp only [Task.afterPoll, hstatus, hresult]
    exact if_neg (not_not_intro rfl)
  have hended : (run service tree rules file a st).attempt = accepted.attempt.complete result := by
    show (runFrom service tree rules [] (rules.submit file a) st).attempt = _
    have hanswer : answer service tree rules st reading = (.ok contents, [], st) := by
      rw [← hread]
      rfl
    have huploads : (Move.uploads reading contents begun).outcome = .waits uploading := rfl
    have hpolls : accepted.outcome = .waits polling := rfl
    rw [hsubmit, runFrom_waits service tree rules [] rfl hanswer, hsent,
      runFrom_waits service tree rules _ huploads hupload, haccepted,
      runFrom_waits service tree rules _ hpolls hpoll, hcompleted,
      runFrom_returns service tree rules _ _ rfl]
  rw [hended]
  exact ⟨rfl, rfl⟩

end Scan

end ScanClient
