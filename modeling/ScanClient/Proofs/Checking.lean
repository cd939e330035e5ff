import ScanClient.Proofs.JsonOutput
import ScanClient.Proofs.Outcome
import ScanClient.Proofs.StatusRequest

/-!
# Checking first

Whoever checks a file before it is submitted learns what the submission will find. There is one rule
for both, so they agree on the file as it was selected. A file in memory stays as it was and is
uploaded for certain; one on disk is looked at once more when it is read, and only what is there then
decides. On the command line there is no time between the two, so a file that passes the check is
one that a scan asks the service about.
-/

namespace ScanClient

/-- A path leads to contents that a read comes to the end of. -/
def Files.Tree.Holds (tree : Files.Tree) (path : List UInt8) (contents : Blob) : Prop :=
  ∃ node, tree.find path = .ok node ∧ node ≠ .folder ∧ node ≠ .device true ∧
    contents = node.contents

/-- The attempt shows what the rules have to say of its file. -/
def Attempt.Shows (a : Attempt) (file : ScanFile) : Except Rejection Unit → Prop
  | .ok () => a.phase = .idle ∧ a.file = some file.info ∧ a.error = none
  | .error rejection =>
    a.phase = .failed ∧ a.file = some file.info ∧ a.error = some ⟨.validation, rejection.message⟩

namespace Submission

/-- The files are so when the submission reads its own. -/
def Reads (sub : Submission) (files : Except ScanError Files.Tree) : Prop :=
  ∃ turn ∈ sub.turns, turn.cause = some (.reading sub.file, .read files)

def Uploads (sub : Submission) (contents : Blob) : Prop :=
  ∃ seen, Request.upload sub.file.name contents seen ∈ sub.requests

/-- How a submission goes on when the rules say this of its file. -/
structure Obeys (rules : Rules) (verdict : Except Rejection Unit) (sub : Submission) : Prop where
  /-- It is over before anything is read or asked for. -/
  rejected : ∀ rejection, verdict = .error rejection →
    sub.left.Shows sub.file (.error rejection) ∧ sub.outcome = .returns sub.left ∧
      sub.requests = [] ∧ ∀ files, ¬sub.Reads files
  /-- What is in memory is uploaded first of all, since it has no other size than the one checked. -/
  inMemory : verdict = .ok () → ∀ name contents, sub.file = .ofBlob name contents →
    (∃ seen, sub.requests.head? = some (.upload name contents seen)) ∧
      ∀ tree, sub.file.read tree rules.limits.maxFileSize = .ok contents
  /-- What is on disk is uploaded as it is read, if it can be and is not too large then. -/
  onDisk : verdict = .ok () → ∀ path, sub.file.contents = .onDisk path →
    ((∃ files, sub.Reads files) ∨
      ∃ task, sub.outcome = .waits task ∧ task.stage = .reading sub.file) ∧
    ∀ contents, sub.Uploads contents ↔ ∃ tree, sub.Reads (.ok tree) ∧
      tree.Holds path contents ∧ contents.size ≤ rules.limits.maxFileSize

end Submission

/-! ## The size of a file -/

theorem ScanFile.checkSize_eq_ok {max : Nat} {given contents : Blob} :
    checkSize max given = .ok contents ↔ contents = given ∧ contents.size ≤ max := by
  refine ⟨size_of_checkSize, ?_⟩
  rintro ⟨rfl, hle⟩
  exact if_neg (Nat.not_lt.mpr hle)

theorem Limits.size_of_check {limits : Limits} {name : String} {size : Nat}
    (h : limits.check name size = .ok ()) : size ≤ limits.maxFileSize := by
  unfold check at h
  split at h
  · cases h
  · split at h
    · cases h
    · split at h
      · cases h
      next hle => exact Nat.le_of_not_lt hle

/-- A file in memory that has been checked passes the check of its size on reading. -/
theorem ScanFile.read_ofBlob {limits : Limits} {name : String} {contents : Blob}
    (checked : limits.check name contents.size = .ok ()) (tree : Files.Tree) :
    (ofBlob name contents).read tree limits.maxFileSize = .ok contents :=
  checkSize_eq_ok.mpr ⟨rfl, Limits.size_of_check checked⟩

theorem ScanFile.read_eq_ok {file : ScanFile} {tree : Files.Tree} {max : Nat} {contents : Blob}
    {path : List UInt8} (hpath : file.contents = .onDisk path) :
    file.read tree max = .ok contents ↔ tree.Holds path contents ∧ contents.size ≤ max := by
  constructor
  · intro h
    obtain ⟨node, hnode, hcontents⟩ := node_of_read hpath h
    refine ⟨⟨node, hnode, ?_, ?_, hcontents⟩, size_of_read h⟩
    · rintro rfl
      rw [read_onDisk hpath hnode] at h
      cases h
    · rintro rfl
      rw [read_onDisk hpath hnode] at h
      simp only at h
      split at h <;> cases h
  · rintro ⟨⟨node, hnode, hfolder, hendless, rfl⟩, hle⟩
    rw [read_onDisk hpath hnode]
    cases node with
    | folder => exact absurd rfl hfolder
    | file bytes => exact checkSize_eq_ok.mpr ⟨rfl, hle⟩
    | link target => rfl
    | device endless =>
      cases endless with
      | true => exact absurd rfl hendless
      | false => rfl

/-! ## Submissions -/

theorem Submission.requests_begin (file : ScanFile) (begun : Nat) (move : Move) :
    (begin file begun move).requests = move.request?.toList := by
  rw [requests, dealings_begin, Move.dealings]
  cases move.request? <;> rfl

/-- Only calls are requests, and a step makes at most one. -/
theorem Submission.requests_after (sub : Submission) (turn : Turn) :
    (sub.after turn).requests = sub.requests ++ turn.move.request?.toList := by
  have hcall : ∀ move : Move, move.dealings.filterMap Dealing.request? = move.request?.toList := by
    intro move
    rw [Move.dealings]
    cases move.request? <;> rfl
  have hanswer : ∀ (stage : Stage) (answer : Answer),
      (answer.dealings stage).filterMap Dealing.request? = [] := by
    intro stage answer
    cases stage <;> rfl
  rw [requests, dealings_after, List.filterMap_append]
  unfold Turn.dealings
  split
  · rw [hcall]
    rfl
  · rw [List.filterMap_append, hanswer, hcall]
    rfl

theorem Submission.reads_after_iff {sub : Submission} {turn : Turn}
    {files : Except ScanError Files.Tree} :
    (sub.after turn).Reads files ↔
      sub.Reads files ∨ turn.cause = some (.reading sub.file, .read files) := by
  simp only [Reads, after, List.mem_append, List.mem_singleton, or_and_right, exists_or,
    exists_eq_left]

theorem Submission.uploads_after_iff {sub : Submission} {turn : Turn} {contents : Blob} :
    (sub.after turn).Uploads contents ↔ sub.Uploads contents ∨
      ∃ seen, turn.move.request? = some (.upload sub.file.name contents seen) := by
  simp only [Uploads, requests_after, List.mem_append, Option.mem_toList, exists_or]
  rfl

/-- Only a read is followed by an upload. -/
theorem Advance.reading_of_upload {rules : Rules} {task : Task} {a : Attempt} {stage : Stage}
    {given : stage.Answer} {move : Move} (h : Advance rules task a stage given move)
    {name : String} {contents : Blob} {seen : Attempt}
    (hupload : move.request? = some (.upload name contents seen)) :
    ∃ file, stage = .reading file := by
  cases h with
  | uploads file contents => exact ⟨file, rfl⟩
  | fails h => cases hupload
  | accepted contents h => cases hupload
  | pauses scanId h room => cases hupload
  | polls scanId room => cases hupload
  | completes number status h => cases hupload

/-- The step after a read uploads what the read has given, and nothing if it has given nothing. -/
theorem Advance.uploads_iff {rules : Rules} {task : Task} {a : Attempt} {file : ScanFile}
    {given : Except ScanError Blob} {move : Move}
    (h : Advance rules task a (.reading file) given move) (contents : Blob) :
    (∃ seen, move.request? = some (.upload task.filename contents seen)) ↔
      given = .ok contents := by
  cases h with
  | uploads file bytes =>
    constructor
    · rintro ⟨seen, h⟩
      cases h
      rfl
    · intro h
      cases h
      exact ⟨_, rfl⟩
  | fails h =>
    constructor
    · rintro ⟨seen, h⟩
      cases h
    · rintro rfl
      cases h

section Submissions

variable {rules : Rules} {sub : Submission}

theorem Undisturbed.obeys_rejected (h : Undisturbed rules sub) {rejection : Rejection}
    (hverdict : rules.limits.check sub.file.name sub.file.size = .error rejection) :
    sub.left.Shows sub.file (.error rejection) ∧ sub.outcome = .returns sub.left ∧
      sub.requests = [] ∧ ∀ files, ¬sub.Reads files := by
  cases h with
  | @begins file begun a h =>
    have hopening := rules.opening_submit file a
    generalize rules.submit file a = move at hopening
    cases hopening with
    | inMemory checked h advance => cases checked.symm.trans hverdict
    | onDisk checked h => cases checked.symm.trans hverdict
    | rejected hrejected =>
      cases hrejected.symm.trans hverdict
      refine ⟨⟨rfl, rfl, rfl⟩, rfl, Submission.requests_begin _ _ _, ?_⟩
      rintro files ⟨turn, hturn, hcause⟩
      cases List.mem_singleton.mp hturn
      cases hcause
  -- what waits for something has been checked
  | goesOn h hturn =>
    obtain ⟨task, given, move, _, standing, _⟩ := h.advance hturn
    cases standing.checked.symm.trans hverdict

theorem Undisturbed.uploads_first (h : Undisturbed rules sub) {name : String} {contents : Blob}
    (hfile : sub.file = .ofBlob name contents)
    (checked : rules.limits.check sub.file.name sub.file.size = .ok ()) :
    ∃ seen, sub.requests.head? = some (.upload name contents seen) := by
  induction h with
  | @begins file begun a h =>
    obtain rfl : file = .ofBlob name contents := hfile
    have hopening := rules.opening_submit (.ofBlob name contents) a
    generalize rules.submit (.ofBlob name contents) a = move at hopening ⊢
    cases hopening with
    | rejected hrejected => cases hrejected.symm.trans checked
    | onDisk _ hdisk => cases hdisk
    | @inMemory bytes move _ hbytes advance =>
      cases hbytes
      have hread := ScanFile.checkSize_eq_ok.mpr ⟨rfl, Limits.size_of_check checked⟩
      obtain ⟨seen, hrequest⟩ := (advance.uploads_iff contents).mpr hread
      rw [Submission.requests_begin,
        show (move.after _).request? = move.request? from rfl, hrequest]
      exact ⟨seen, rfl⟩
  | goesOn h hturn ih =>
    obtain ⟨seen, hhead⟩ := ih hfile checked
    rw [Submission.requests_after, List.head?_append, hhead]
    exact ⟨seen, rfl⟩

/-- The submission has not read its file yet. -/
structure Submission.Unread (sub : Submission) : Prop where
  waits : ∃ task, sub.outcome = .waits task ∧ task.stage = .reading sub.file
  reads : ∀ files, ¬sub.Reads files
  uploads : ∀ contents, ¬sub.Uploads contents

/-- The submission has read its file, once and among these files. -/
structure Submission.Fetched (rules : Rules) (sub : Submission)
    (files : Except ScanError Files.Tree) : Prop where
  waits : ∀ task, sub.outcome = .waits task → ∀ file, task.stage ≠ .reading file
  reads : ∀ other, sub.Reads other ↔ files = other
  uploads : ∀ contents, sub.Uploads contents ↔
    (files.bind fun tree => sub.file.read tree rules.limits.maxFileSize) = .ok contents

/-- The step that reads the file uploads what it has read. -/
theorem Submission.Unread.after (unread : sub.Unread) {task : Task} {given : task.stage.Answer}
    {answer : Answer} {move : Move} (houtcome : sub.outcome = .waits task)
    (hgiven : answer.at? rules task.stage = some given) (hname : task.filename = sub.file.name)
    (h : Advance rules task sub.left task.stage given move) (renewals : Nat) :
    ∃ files, (sub.after ⟨some (task.stage, answer), renewals, move⟩).Fetched rules files := by
  obtain ⟨same, hsame, hstage⟩ := unread.waits
  cases houtcome.symm.trans hsame
  obtain ⟨generation, filename, stage⟩ := task
  cases hstage
  obtain rfl : filename = sub.file.name := hname
  obtain ⟨files, rfl, rfl⟩ := Answer.at?_reading hgiven
  refine ⟨files, fun next hnext file => h.not_reading hnext file, fun other => ?_, fun contents => ?_⟩
  · rw [reads_after_iff, or_iff_right (unread.reads other)]
    simp only [Option.some.injEq, Prod.mk.injEq, true_and, Answer.read.injEq]
  · rw [uploads_after_iff, or_iff_right (unread.uploads contents)]
    exact h.uploads_iff contents

/-- A later step neither reads the file nor uploads anything. -/
theorem Submission.Fetched.after {files : Except ScanError Files.Tree}
    (fetched : sub.Fetched rules files) {task : Task} {given : task.stage.Answer} {answer : Answer}
    {move : Move} (houtcome : sub.outcome = .waits task)
    (h : Advance rules task sub.left task.stage given move) (renewals : Nat) :
    (sub.after ⟨some (task.stage, answer), renewals, move⟩).Fetched rules files where
  waits next hnext file := h.not_reading hnext file
  reads other := by
    rw [reads_after_iff, or_iff_left, fetched.reads]
    intro hcause
    exact fetched.waits task houtcome _ (Prod.mk.inj (Option.some.inj hcause)).1
  uploads contents := by
    rw [uploads_after_iff, or_iff_left, fetched.uploads]
    · rfl
    · rintro ⟨seen, hrequest⟩
      obtain ⟨file, hstage⟩ := h.reading_of_upload hrequest
      exact fetched.waits task houtcome file hstage

theorem Undisturbed.unread_or_fetched (h : Undisturbed rules sub) {path : List UInt8}
    (hpath : sub.file.contents = .onDisk path)
    (checked : rules.limits.check sub.file.name sub.file.size = .ok ()) :
    sub.Unread ∨ ∃ files, sub.Fetched rules files := by
  induction h with
  | @begins file begun a h =>
    have hopening := rules.opening_submit file a
    generalize rules.submit file a = move at hopening ⊢
    cases hopening with
    | rejected hrejected => cases hrejected.symm.trans checked
    | inMemory _ hmemory _ => cases hmemory.symm.trans hpath
    | onDisk =>
      refine .inl ⟨⟨_, rfl, rfl⟩, ?_, ?_⟩
      · rintro files ⟨turn, hturn, hcause⟩
        cases List.mem_singleton.mp hturn
        cases hcause
      · rintro contents ⟨seen, hseen⟩
        rw [Submission.requests_begin] at hseen
        cases hseen
  | @goesOn sub answer turn h hturn ih =>
    obtain ⟨task, given, move, houtcome, standing, hgiven, advance, rfl⟩ := h.advance hturn
    rcases ih hpath checked with unread | ⟨files, fetched⟩
    · exact .inr (unread.after houtcome hgiven standing.filename_eq advance sub.begun)
    · exact .inr ⟨files, fetched.after houtcome advance sub.begun⟩

theorem Undisturbed.obeys_onDisk (h : Undisturbed rules sub) {path : List UInt8}
    (hpath : sub.file.contents = .onDisk path)
    (checked : rules.limits.check sub.file.name sub.file.size = .ok ()) :
    ((∃ files, sub.Reads files) ∨
      ∃ task, sub.outcome = .waits task ∧ task.stage = .reading sub.file) ∧
    ∀ contents, sub.Uploads contents ↔ ∃ tree, sub.Reads (.ok tree) ∧
      tree.Holds path contents ∧ contents.size ≤ rules.limits.maxFileSize := by
  rcases h.unread_or_fetched hpath checked with unread | ⟨files, fetched⟩
  · refine ⟨.inr unread.waits, fun contents => ?_⟩
    refine iff_of_false (unread.uploads contents) ?_
    rintro ⟨tree, hreads, _⟩
    exact unread.reads _ hreads
  · refine ⟨.inl ⟨files, (fetched.reads files).mpr rfl⟩, fun contents => ?_⟩
    simp only [fetched.uploads, fetched.reads]
    cases files with
    | error e => simp [Except.bind]
    | ok tree =>
      simp only [Except.bind, ScanFile.read_eq_ok hpath, Except.ok.injEq, exists_eq_left']

theorem Undisturbed.obeys (h : Undisturbed rules sub) :
    sub.Obeys rules (rules.limits.check sub.file.name sub.file.size) where
  rejected rejection hverdict := h.obeys_rejected hverdict
  inMemory hverdict name contents hfile := by
    refine ⟨h.uploads_first hfile hverdict, fun tree => ?_⟩
    rw [hfile] at hverdict ⊢
    exact ScanFile.read_ofBlob hverdict tree
  onDisk hverdict path hpath := h.obeys_onDisk hpath hverdict

end Submissions

/-! ## Sessions -/

theorem Session.validate_shows (rules : Rules) (file : ScanFile) (s : Session) :
    (rules.validate file s.attempt).1 = rules.limits.check file.name file.size ∧
      (s.validate rules file).attempt.Shows file (rules.limits.check file.name file.size) := by
  cases checked : rules.limits.check file.name file.size with
  | ok _ =>
    rw [Session.validate, rules.validate_ok s.attempt checked]
    exact ⟨rfl, rfl, rfl, rfl⟩
  | error rejection =>
    rw [Session.validate, rules.validate_error s.attempt checked]
    exact ⟨rfl, rfl, rfl, rfl⟩

/-! ## Scans -/

/-- What the calls of a service keep, a scan keeps. -/
theorem Scan.service_runFrom (service : Service σ) (tree : Files.Tree) (rules : Rules)
    {P : σ → Prop} (hupload : ∀ name contents st, P st → P (service.upload name contents st).2.2)
    (hpoll : ∀ scanId st, P st → P (service.poll scanId st).2.2) (effects : List Effect)
    (move : Move) (st : σ) (h : P st) :
    P (runFrom service tree rules effects move st).service := by
  induction effects, move, st using runFrom.induct service tree rules with
  | case1 effects move st a hmove =>
    rw [runFrom_returns service tree rules effects st hmove]
    exact h
  | case2 effects move st task hmove given events next hanswer ih =>
    rw [runFrom_waits service tree rules effects hmove hanswer]
    apply ih
    obtain ⟨generation, filename, stage⟩ := task
    cases stage with
    | reading file =>
      cases hanswer
      exact h
    | uploading contents =>
      rw [show next = (service.upload filename contents st).2.2 by rw [← answer, hanswer]]
      exact hupload _ _ _ h
    | polling scanId number =>
      rw [show next = (service.poll scanId st).2.2 by rw [← answer, hanswer]]
      exact hpoll _ _ h
    | waiting scanId number =>
      cases hanswer
      exact h

/-- A file that the rules reject costs the service nothing. -/
theorem Scan.service_run_rejected (service : Service σ) (tree : Files.Tree) (rules : Rules)
    {file : ScanFile} {rejection : Rejection}
    (hrejected : rules.limits.check file.name file.size = .error rejection) (a : Attempt) (st : σ) :
    (run service tree rules file a st).service = st := by
  have hopening := rules.opening_submit file a
  rw [run]
  generalize rules.submit file a = move at hopening ⊢
  cases hopening with
  | rejected h => rw [runFrom_returns service tree rules [] st rfl]
  | inMemory checked h advance => cases checked.symm.trans hrejected
  | onDisk checked h => cases checked.symm.trans hrejected

/-- A file on disk that the rules accept and that can be read is uploaded, before any poll. -/
theorem Scan.service_run_accepted (service : Service σ) {tree : Files.Tree} (rules : Rules)
    {P : σ → Prop} (hupload : ∀ name contents st, P st → P (service.upload name contents st).2.2)
    (hpoll : ∀ scanId st, P st → P (service.poll scanId st).2.2) {file : ScanFile}
    {path : List UInt8} {contents : Blob} (hpath : file.contents = .onDisk path)
    (checked : rules.limits.check file.name file.size = .ok ())
    (hread : file.read tree rules.limits.maxFileSize = .ok contents) (a : Attempt) (st : σ)
    (h : P (service.upload file.name contents st).2.2) :
    P (run service tree rules file a st).service := by
  have hopening := rules.opening_submit file a
  rw [run]
  generalize rules.submit file a = move at hopening ⊢
  cases hopening with
  | rejected hrejected => cases hrejected.symm.trans checked
  | inMemory _ hmemory _ => cases hmemory.symm.trans hpath
  | onDisk =>
    rw [runFrom_waits service tree rules [] rfl (show answer service tree rules st
      ⟨_, _, .reading file⟩ = (.ok contents, [], st) by rw [answer, hread])]
    have hresume : (Task.resume rules ⟨a.generation + 1, file.name, .reading file⟩ (.ok contents)
        (rules.begun file (a.generation + 1))).outcome =
        .waits ⟨a.generation + 1, file.name, .uploading contents⟩ := by
      show (Task.afterRead _ (.ok contents) _).outcome = _
      simp only [Task.afterRead]
      rw [if_pos (show (rules.begun file (a.generation + 1)).generation = a.generation + 1 from rfl)]
    rw [runFrom_waits service tree rules _ hresume rfl]
    exact service_runFrom service tree rules hupload hpoll _ _ _ h

/-- What is selected is a file, which a read finds as it is if the tree has not changed. -/
theorem ScanFile.select_eq_ok {tree : Files.Tree} {path : List UInt8} {file : ScanFile}
    (h : select tree path = .ok file) :
    ∃ contents, tree.find path = .ok (.file contents) ∧ file.size = contents.size ∧
      file.contents = .onDisk path := by
  unfold select at h
  split at h
  · cases h
  next contents hfind =>
    split at h
    · cases h
      exact ⟨contents, hfind, rfl, rfl⟩
    · cases h
  · cases h

namespace Http

/-- Requests are only ever added to those before. -/
theorem Network.sent_request (network : Network) (address method userAgent : String)
    (part : Option Part) (timeout : Nat) :
    network.sent <+: (network.request address method userAgent part timeout).2.sent := by
  unfold request
  split
  · exact List.prefix_refl _
  · simp only
    split
    · exact List.prefix_refl _
    · split
      · exact List.prefix_refl _
      · unfold send
        split
        · exact List.prefix_append _ _
        · exact List.prefix_refl _

/-- An upload to an address that a service listens at is sent there. -/
theorem Client.sent_upload {client : Client} {url : Url} {network : Network}
    (hparse : Url.parse client.uploadUrl = .ok url) (hweb : url.withoutCredentials.isWeb = true)
    (hnameable : url.withoutCredentials.isNameable = true) (hsome : network.server.isSome = true)
    (hserver : network.server = url.withoutCredentials.destination) (name : String)
    (contents : Blob) :
    (client.upload name contents network).2.2.sent = network.sent ++
      [⟨"POST", url.withoutCredentials.target, userAgent, some (filePart name contents)⟩] := by
  show (network.request client.uploadUrl "POST" userAgent (some (filePart name contents))
    client.timeout).2.sent = _
  simp only [Network.request, hparse, hweb, hnameable, Bool.not_true, Bool.false_eq_true, if_false,
    Network.send]
  rw [if_pos ⟨hsome, hserver⟩]

end Http

namespace Cli

open Http

/-- A service listens at the address that the settings have uploads sent to. -/
def Listens (world : World) (settings : Settings) : Prop :=
  ∃ client url, connect settings = .ok client ∧ Url.parse client.uploadUrl = .ok url ∧
    url.withoutCredentials.isWeb = true ∧ url.withoutCredentials.isNameable = true ∧
    world.network.server.isSome = true ∧
    world.network.server = url.withoutCredentials.destination

/-- A file has been uploaded in the time between. -/
def Uploaded (before after : Network) : Prop :=
  ∃ message ∈ after.sent.drop before.sent.length, message.method = "POST" ∧ message.part.isSome

theorem select_of_openFile {tree : Files.Tree} {path : String} {file : ScanFile}
    (h : openFile tree path = .ok file) :
    ScanFile.select tree (Text.Utf8.encodeText path) = .ok file := by
  unfold openFile at h
  cases hselect : ScanFile.select tree (Text.Utf8.encodeText path) with
  | error fault =>
    rw [hselect] at h
    cases h
  | ok selected =>
    rw [hselect] at h
    cases h
    rfl

/-- A command that fails to validate a file has found nothing that a scan would ask about. -/
theorem network_runScan {world : World} {settings : Settings} {path : String}
    (h : (runValidate world settings path).exit ≠ .success) (url : String) (json : Bool) :
    (runScan world { settings with baseUrl := url } path json).network = world.network := by
  unfold runScan
  unfold runValidate at h
  cases hfile : openFile world.tree path with
  | error message => rfl
  | ok file =>
    simp only [hfile] at h ⊢
    cases connect { settings with baseUrl := url } with
    | error message => rfl
    | ok client =>
      cases checked : settings.limits.check file.name file.size with
      | ok _ =>
        rw [checked] at h
        exact absurd rfl h
      | error rejection =>
        exact Scan.service_run_rejected client.service world.tree ⟨settings.poll, settings.limits⟩
          checked _ world.network

/-- One that validates it has found a file that a scan uploads, if there is a service. -/
theorem uploaded_runScan {world : World} {settings : Settings} {path : String}
    (h : (runValidate world settings path).exit = .success) {url : String}
    (listens : Listens world { settings with baseUrl := url }) (json : Bool) :
    Uploaded world.network
      (runScan world { settings with baseUrl := url } path json).network := by
  obtain ⟨client, address, hconnect, hparse, hweb, hnameable, hsome, hserver⟩ := listens
  unfold runScan
  unfold runValidate at h
  cases hfile : openFile world.tree path with
  | error message =>
    rw [hfile] at h
    cases h
  | ok file =>
    cases checked : settings.limits.check file.name file.size with
    | error rejection =>
      simp only [hfile, checked] at h
      cases h
    | ok _ =>
      obtain ⟨contents, hfind, hsize, hpath⟩ := ScanFile.select_eq_ok (select_of_openFile hfile)
      have hread : file.read world.tree settings.limits.maxFileSize = .ok contents :=
        (ScanFile.read_eq_ok hpath).mpr ⟨⟨_, hfind, nofun, nofun, rfl⟩,
          hsize ▸ Limits.size_of_check checked⟩
      have hupload := Client.sent_upload hparse hweb hnameable hsome hserver file.name contents
      -- whatever comes after the upload, it is there
      obtain ⟨more, hmore⟩ := Scan.service_run_accepted client.service
        ⟨settings.poll, settings.limits⟩ (P := fun network => (client.upload file.name contents
          world.network).2.2.sent <+: network.sent)
        (fun _ _ _ h => h.trans (Network.sent_request _ _ _ _ _ _))
        (fun _ _ h => h.trans (Network.sent_request _ _ _ _ _ _)) hpath checked hread
        (.fresh 0 settings.poll.maxAttempts) world.network (List.prefix_refl _)
      rw [hupload, List.append_assoc] at hmore
      simp only [hconnect, Uploaded, ← hmore, List.drop_left]
      exact ⟨_, List.mem_cons_self, rfl, rfl⟩

/-! ## The main result -/

/-- Whatever the rules and the file are, and whatever a session has come to, a validation gives the
verdict of the rules on the name and the size of the file, which the attempt then shows, and begins
nothing that reads or asks. A submission that no renewal supersedes goes on as that verdict says,
however much of it and of other submissions has happened since. And of two command lines for the
same path in the same world, one that validates and one that scans, the first exits with zero if the
second uploads a file to a service that listens, and only then does the second ask a service for
anything. -/
theorem checking_agrees :
    (∀ (rules : Rules) (acts : List Act) (s₀ : Session) (file : ScanFile),
      (Session.start rules).run? rules acts = some s₀ →
      let verdict := rules.limits.check file.name file.size
      (∃ s, s₀.step? rules (.validate file) = some s ∧
        (rules.validate file s₀.attempt).1 = verdict ∧ s.attempt.Shows file verdict ∧
        s.submissions = s₀.submissions) ∧
      ∀ s₁, s₀.step? rules (.submit file) = some s₁ → s₁.Timely → ∀ since s,
        (∀ act ∈ since, act.renews = false) → s₁.run? rules since = some s →
        ∃ sub, s.submissions[s₀.submissions.length]? = some sub ∧ sub.file = file ∧
          s.attempt = sub.left ∧ sub.Obeys rules verdict) ∧
    ∀ (world : World) (arguments more : List Argument) (path url url' : String) (json : Bool),
      Invocation.parse world.environment arguments = .ok ⟨url, .validate path⟩ →
      Invocation.parse world.environment more = .ok ⟨url', .scan path json⟩ →
      ((run world arguments).exit.code ≠ 0 → (run world more).network = world.network) ∧
      (Listens world { (Settings.ofEnvironment world.environment).1 with baseUrl := url' } →
        ((run world arguments).exit.code = 0 ↔
          Uploaded world.network (run world more).network)) := by
  refine ⟨?_, ?_⟩
  · intro rules acts s₀ file hrun verdict
    obtain ⟨hverdict, hshows⟩ := Session.validate_shows rules file s₀
    refine ⟨⟨_, rfl, hverdict, hshows, rfl⟩, ?_⟩
    intro s₁ hsubmit timely since s hsince hs
    have carries := Session.carries_submit (Session.sound_of_run? hrun)
      (Session.latest_of_run? hrun) hsubmit timely
    obtain ⟨sub, carries', hfile, _⟩ := carries.run hsince hs
    obtain ⟨undisturbed, hleft⟩ := carries'.undisturbed
    obtain rfl : sub.file = file := hfile
    exact ⟨sub, carries'.submission, rfl, hleft, undisturbed.obeys⟩
  · intro world arguments more path url url' json hvalidate hscan
    let settings := (Settings.ofEnvironment world.environment).1
    have hexit : (run world arguments).exit = (runValidate world settings path).exit := by
      rw [run, hvalidate]
      rfl
    have hnetwork : (run world more).network =
        (runScan world { settings with baseUrl := url' } path json).network := by
      rw [run, hscan]
      rfl
    have hcode : (run world arguments).exit.code = 0 ↔
        (runValidate world settings path).exit = .success := by
      rw [hexit]
      cases (runValidate world settings path).exit <;> decide
    have hquiet : (run world arguments).exit.code ≠ 0 →
        (run world more).network = world.network := by
      intro h
      rw [hnetwork]
      exact network_runScan (fun hsuccess => h (hcode.mpr hsuccess)) url' json
    refine ⟨hquiet, fun listens => ⟨fun h => ?_, fun h => ?_⟩⟩
    · rw [hnetwork]
      exact uploaded_runScan (hcode.mp h) listens json
    · by_contra hfailed
      rw [hquiet hfailed] at h
      obtain ⟨message, hmessage, _⟩ := h
      rw [List.drop_length] at hmessage
      cases hmessage

/-- A world with the small file, and a service where nothing else is asked for. -/
def servedWorld : World := { fileWorld with network := sampleNetwork }

/-- The file is as good as uploaded once it has been checked. -/
theorem sampleFile_checked :
    (∃ s s₁ sub, (Session.start .standard).step? .standard (.validate sampleFile) = some s ∧
      s.attempt.phase = .idle ∧
      (Session.start .standard).step? .standard (.submit sampleFile) = some s₁ ∧ s₁.Timely ∧
      s₁.submissions[0]? = some sub ∧ ∃ seen, sub.requests.head? =
        some (.upload "a.jar" (.bytes [0x50, 0x4B]) seen)) ∧
    (run servedWorld (argumentsOf ["validate", "a.jar"])).exit.code = 0 ∧
    Uploaded servedWorld.network (run servedWorld (argumentsOf ["scan", "a.jar"])).network := by
  obtain ⟨hsession, hcli⟩ := checking_agrees
  refine ⟨?_, ?_⟩
  · have timely : (Session.submit .standard sampleFile (Session.start .standard)).Timely :=
      Session.timely_of_lt (by decide)
    have hverdict : Rules.standard.limits.check sampleFile.name sampleFile.size = .ok () := by
      rfl
    obtain ⟨⟨s, hvalidate, _, hshows, _⟩, hsubmit⟩ := hsession .standard [] _ sampleFile rfl
    obtain ⟨sub, hsub, hfile, _, obeys⟩ := hsubmit _ rfl timely [] _ (fun _ h => nomatch h) rfl
    rw [hverdict] at hshows obeys
    have huploads := (obeys.inMemory rfl "a.jar" (.bytes [0x50, 0x4B]) hfile).1
    exact ⟨s, _, sub, hvalidate, hshows.1, rfl, timely, hsub, huploads⟩
  · have hvalidate : Invocation.parse servedWorld.environment (argumentsOf ["validate", "a.jar"]) =
        .ok ⟨Settings.defaultBaseUrl, .validate "a.jar"⟩ := by
      decide +kernel
    have hscan : Invocation.parse servedWorld.environment (argumentsOf ["scan", "a.jar"]) =
        .ok ⟨Settings.defaultBaseUrl, .scan "a.jar" false⟩ := by
      rfl
    have listens : Listens servedWorld (Settings.ofEnvironment servedWorld.environment).1 := by
      obtain ⟨url, hurl, hweb, hnameable, hserver⟩ :=
        exists_uploadUrl (show Client.baseUrl ⟨Settings.defaultBaseUrl, 30000⟩ = _ from rfl)
      exact ⟨_, url, rfl, hurl, hweb, hnameable, rfl, hserver⟩
    have hexit : (run servedWorld (argumentsOf ["validate", "a.jar"])).exit.code = 0 := by
      have hopen : openFile servedWorld.tree "a.jar" =
          .ok ⟨"a.jar", 2, .onDisk (Text.Utf8.encodeText "a.jar")⟩ := by
        rw [openFile, ScanFile.select, show servedWorld.tree = fileWorld.tree from rfl,
          fileWorld_find]
        rfl
      rw [run, hvalidate]
      show (runValidate servedWorld _ "a.jar").exit.code = 0
      rw [runValidate, hopen]
      rfl
    obtain ⟨_, hiff⟩ := hcli servedWorld _ _ "a.jar" _ _ false hvalidate hscan
    exact ⟨hexit, (hiff listens).mp hexit⟩

end Cli

end ScanClient
