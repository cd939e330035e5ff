import ScanClient.Proofs.Contents
import ScanClient.Proofs.Life

/-!
# Calls of the service

What submissions ask of the service, and when: one upload and then polls, each only when the call
before has been answered, and none by a submission that has been superseded.
-/

namespace ScanClient

/-- What goes on between a submission and the service. -/
inductive Dealing where
  | call (request : Request)
  | answer (answer : Answer)

/-- The request of a call. -/
def Dealing.request? : Dealing → Option Request
  | .call request => some request
  | .answer _ => none

/-- The attempt as it was at a request. -/
def Request.seen : Request → Attempt
  | .upload _ _ seen => seen
  | .poll _ seen => seen

/-- Files and the clock answer too, but only the service is called. -/
def Answer.dealings (answer : Answer) : Stage → List Dealing
  | .uploading _ | .polling _ _ => [.answer answer]
  | .reading _ | .waiting _ _ => []

def Move.dealings (move : Move) : List Dealing := (move.request?.map .call).toList

def Turn.dealings (turn : Turn) : List Dealing :=
  match turn.cause with
  | none => turn.move.dealings
  | some (stage, answer) => answer.dealings stage ++ turn.move.dealings

/-- The bytes at a node. What is no file has none. -/
def Files.Node.contents : Node → Blob
  | .file contents => contents
  | _ => .bytes []

namespace Submission

/-- All that has gone on between a submission and the service. -/
def dealings (sub : Submission) : List Dealing := sub.turns.flatMap Turn.dealings

/-- All requests of a submission. The first, number zero, is the upload. -/
def requests (sub : Submission) : List Request := sub.dealings.filterMap Dealing.request?

end Submission

/-- An upload with its answer, and then polls for a scan with theirs. -/
def dialogue (name : String) (contents : Blob) (seen : Attempt) (receipt : Except ScanError Receipt)
    (scanId : String) (polls : List (Attempt × Except ScanError Response)) : List Dealing :=
  .call (.upload name contents seen) :: .answer (.upload receipt) ::
    polls.flatMap fun (seen, response) => [.call (.poll scanId seen), .answer (.poll response)]

/-- The attempt as it is when a poll begins. -/
structure Attempt.Polls (scanId : String) (number : Nat) (a : Attempt) : Prop where
  phase : a.phase = .polling
  scanId : a.scanId = some scanId
  attemptCount : a.attemptCount = number

/-- What an upload of a file needs that a step ends with. Contents that are not in memory have been
read just before. -/
structure Turn.Uploads (rules : Rules) (file : ScanFile) (turn : Turn) (name : String)
    (contents : Blob) : Prop where
  checked : rules.limits.check file.name file.size = .ok ()
  name_eq : name = file.name
  inMemory : ∀ bytes, file.contents = .inMemory bytes → contents = bytes
  onDisk : ∀ path, file.contents = .onDisk path → ∃ tree node,
    turn.cause = some (.reading file, .read (.ok tree)) ∧ tree.find path = .ok node ∧
      contents = node.contents
  size_le : contents.size ≤ rules.limits.maxFileSize

/-- How submissions deal with the service. -/
structure Submission.Disciplined (rules : Rules) (sub : Submission) : Prop where
  /-- One upload and then polls, each call after the answer to the one before. -/
  order : ∃ contents seen receipt scanId polls,
    sub.dealings <+: dialogue sub.file.name contents seen receipt scanId polls
  upload : ∀ turn ∈ sub.turns, ∀ name contents seen,
    turn.move.request? = some (.upload name contents seen) →
      turn.Uploads rules sub.file name contents
  poll : ∀ scanId seen, .call (.poll scanId seen) ∈ sub.dealings →
    ∃ receipt, .answer (.upload (.ok receipt)) ∈ sub.dealings ∧ receipt.scanId = some scanId ∧
      ∃ c ∈ scanId.toList, Text.isBlank c = false
  /-- The attempt has not been renewed since the submission began. -/
  current : ∀ turn ∈ sub.turns, ∀ request, turn.move.request? = some request →
    turn.renewals = sub.begun ∧ request.seen.generation = UInt64.ofNat sub.begun
  counted : ∀ number scanId seen, sub.requests[number]? = some (Request.poll scanId seen) →
    seen.Polls scanId number

/-! ## What has been said, by what a submission waits for -/

/-- Polls are counted from one. -/
def Counted (scanId : String) (polls : List (Attempt × Except ScanError Response)) : Prop :=
  ∀ (n : Nat) (seen : Attempt) (response : Except ScanError Response),
    polls[n]? = some (seen, response) → seen.Polls scanId (n + 1)

theorem Counted.concat {scanId : String} {polls : List (Attempt × Except ScanError Response)}
    (h : Counted scanId polls) {last : Attempt} (hlast : last.Polls scanId (polls.length + 1))
    (response : Except ScanError Response) : Counted scanId (polls ++ [(last, response)]) := by
  intro n seen given hpoll
  rcases Nat.lt_trichotomy n polls.length with hn | rfl | hn
  · rw [List.getElem?_append_left hn] at hpoll
    exact h n seen given hpoll
  · rw [List.getElem?_concat_length] at hpoll
    cases hpoll
    exact hlast
  · rw [List.getElem?_eq_none (by rw [List.length_append, List.length_singleton]; exact hn)]
      at hpoll
    cases hpoll

/-- A number of polls have been made and answered. -/
def Answered (name scanId : String) (number : Nat) (dealings : List Dealing) : Prop :=
  ∃ contents seen receipt polls,
    dealings = dialogue name contents seen (.ok receipt) scanId polls ∧
      receipt.usableId = some scanId ∧ polls.length = number ∧ Counted scanId polls

/-- What has been said when a submission waits for something. -/
def Stage.Said (name : String) (dealings : List Dealing) : Stage → Prop
  | .reading _ => dealings = []
  | .uploading contents => ∃ seen, dealings = [.call (.upload name contents seen)]
  | .polling scanId number =>
    ∃ before before' seen, Answered name scanId before before' ∧ number = before + 1 ∧
      seen.Polls scanId number ∧ dealings = before' ++ [.call (.poll scanId seen)]
  | .waiting scanId number => Answered name scanId number dealings

/-- What has been said at any time. -/
def Conversed (name : String) (dealings : List Dealing) : Prop :=
  ∃ contents seen receipt scanId polls,
    dealings <+: dialogue name contents seen receipt scanId polls ∧
      (polls ≠ [] → ∃ given, receipt = .ok given ∧ given.usableId = some scanId) ∧
      Counted scanId polls

theorem dialogue_append (name : String) (contents : Blob) (seen : Attempt)
    (receipt : Except ScanError Receipt) (scanId : String)
    (polls : List (Attempt × Except ScanError Response)) (last : Attempt)
    (response : Except ScanError Response) :
    dialogue name contents seen receipt scanId (polls ++ [(last, response)]) =
      dialogue name contents seen receipt scanId polls ++
        [.call (.poll scanId last), .answer (.poll response)] := by
  simp only [dialogue, List.flatMap_append, List.flatMap_singleton, List.cons_append]

/-- One more poll has been made and answered. -/
theorem Answered.succ {name scanId : String} {number : Nat} {before : List Dealing}
    (h : Answered name scanId number before) {last : Attempt}
    (hlast : last.Polls scanId (number + 1)) (response : Except ScanError Response) :
    Answered name scanId (number + 1)
      (before ++ [.call (.poll scanId last), .answer (.poll response)]) := by
  obtain ⟨contents, seen, receipt, polls, rfl, hid, rfl, hpolls⟩ := h
  refine ⟨contents, seen, receipt, polls ++ [(last, response)], ?_, hid, ?_,
    hpolls.concat hlast response⟩
  · exact (dialogue_append name contents seen (.ok receipt) scanId polls last response).symm
  · rw [List.length_append, List.length_singleton]

theorem Answered.conversed {name scanId : String} {number : Nat} {dealings : List Dealing}
    (h : Answered name scanId number dealings) : Conversed name dealings := by
  obtain ⟨contents, seen, receipt, polls, rfl, hid, _, hpolls⟩ := h
  exact ⟨contents, seen, .ok receipt, scanId, polls, List.prefix_refl _,
    fun _ => ⟨receipt, rfl, hid⟩, hpolls⟩

/-- What is said up to some time is part of what is said later. -/
theorem Conversed.earlier {name : String} {before dealings : List Dealing}
    (h : Conversed name dealings) (hbefore : before <+: dealings) : Conversed name before := by
  obtain ⟨contents, seen, receipt, scanId, polls, hprefix, h⟩ := h
  exact ⟨contents, seen, receipt, scanId, polls, hbefore.trans hprefix, h⟩

theorem conversed_upload (name : String) (contents : Blob) (seen : Attempt)
    (receipt : Except ScanError Receipt) :
    Conversed name [.call (.upload name contents seen), .answer (.upload receipt)] :=
  ⟨contents, seen, receipt, "", [], List.prefix_refl _, fun h => absurd rfl h,
    fun _ _ _ h => nomatch h⟩

theorem conversed_nil (name : String) : Conversed name [] :=
  (conversed_upload name default (.fresh 0 0) (.error .missingScanId)).earlier (List.nil_prefix)

theorem Stage.Said.conversed {name : String} {dealings : List Dealing} {stage : Stage}
    (said : stage.Said name dealings) : Conversed name dealings := by
  cases stage with
  | reading file =>
    rw [show dealings = [] from said]
    exact conversed_nil name
  | uploading contents =>
    obtain ⟨seen, rfl⟩ := said
    exact (conversed_upload name contents seen (.error .missingScanId)).earlier
      (List.prefix_append [_] [_])
  | polling scanId number =>
    obtain ⟨before, before', seen, answered, rfl, hseen, rfl⟩ := said
    refine (answered.succ hseen (.ok {})).conversed.earlier ?_
    exact (List.prefix_append_right_inj before').mpr (List.prefix_append [_] [_])
  | waiting scanId number => exact Answered.conversed said

/-- What has been said when an answer has come. -/
theorem Stage.Said.answered {rules : Rules} {name : String} {dealings : List Dealing}
    {stage : Stage} (said : stage.Said name dealings) {answer : ScanClient.Answer}
    {given : stage.Answer} (h : answer.at? rules stage = some given) :
    Conversed name (dealings ++ answer.dealings stage) := by
  cases stage with
  | reading file =>
    rw [show dealings = [] from said]
    exact conversed_nil name
  | uploading contents =>
    obtain ⟨seen, rfl⟩ := said
    obtain rfl := Answer.at?_uploading h
    exact conversed_upload name contents seen given
  | polling scanId number =>
    obtain ⟨before, before', seen, answered, rfl, hseen, rfl⟩ := said
    obtain rfl := Answer.at?_polling h
    rw [List.append_assoc]
    exact (answered.succ hseen given).conversed
  | waiting scanId number =>
    rw [show answer.dealings (.waiting scanId number) = [] from rfl, List.append_nil]
    exact Answered.conversed said

/-! ## Steps -/

/-- A request shows the attempt as the step has left it. -/
theorem Move.seen_request? {move : Move} {request : Request} (h : move.request? = some request) :
    request.seen = move.attempt := by
  unfold Move.request? at h
  split at h
  next =>
    cases h
    rfl
  next =>
    cases h
    rfl
  next => cases h

theorem Move.dealings_returns {move : Move} {a : Attempt} (h : move.outcome = .returns a) :
    move.dealings = [] := by
  simp only [Move.dealings, Move.request?, h, Option.map_none, Option.toList_none]

/-- The first call is the upload. -/
theorem Advance.said_reading {rules : Rules} {task next : Task} {a : Attempt} {file : ScanFile}
    {given : Except ScanError Blob} {move : Move}
    (h : Advance rules task a (.reading file) given move) (hnext : move.outcome = .waits next) :
    next.stage.Said task.filename move.dealings := by
  cases h with
  | fails h => cases hnext
  | uploads file contents =>
    cases hnext
    exact ⟨_, rfl⟩

/-- What has been said after a step, from what had been said before it. -/
theorem Standing.said {rules : Rules} {file : ScanFile} {generation : UInt64} {task next : Task}
    {left : Attempt} (standing : Standing rules file generation task left)
    {dealings : List Dealing} (said : task.stage.Said file.name dealings) {answer : Answer}
    {given : task.stage.Answer} (hgiven : answer.at? rules task.stage = some given) {move : Move}
    (h : Advance rules task left task.stage given move) (hnext : move.outcome = .waits next) :
    next.stage.Said file.name (dealings ++ (answer.dealings task.stage ++ move.dealings)) := by
  obtain ⟨taskGeneration, filename, stage⟩ := task
  obtain ⟨_, hfilename, _, hleft, _⟩ := standing
  cases h with
  | fails h => cases hnext
  | uploads selected contents =>
    rw [show dealings = [] from said]
    rw [← hfilename]
    cases hnext
    exact ⟨_, rfl⟩
  | accepted contents h =>
    obtain ⟨seen, rfl⟩ := said
    obtain rfl := Answer.at?_uploading hgiven
    cases hnext
    exact ⟨0, _, _, ⟨contents, seen, _, [], rfl, h, rfl, fun _ _ _ h => nomatch h⟩, rfl,
      ⟨rfl, rfl, rfl⟩, rfl⟩
  | pauses scanId h room =>
    obtain ⟨before, before', seen, answered, rfl, hseen, rfl⟩ := said
    obtain rfl := Answer.at?_polling hgiven
    cases hnext
    rw [List.append_assoc]
    exact answered.succ hseen _
  | polls scanId room =>
    cases hnext
    refine ⟨_, dealings, _, said, rfl, ⟨?_, ?_, rfl⟩, rfl⟩
    · rw [hleft]
      rfl
    · rw [hleft]
      rfl
  | completes number status h => cases hnext

theorem Opening.said {rules : Rules} {file : ScanFile} {generation : UInt64} {move : Move}
    {next : Task} (h : Opening rules file generation move) (hnext : move.outcome = .waits next) :
    next.stage.Said file.name move.dealings := by
  cases h with
  | rejected h => cases hnext
  | inMemory checked h advance => exact advance.said_reading hnext
  | onDisk checked h =>
    cases hnext
    rfl

theorem Submission.dealings_after (sub : Submission) (turn : Turn) :
    (sub.after turn).dealings = sub.dealings ++ turn.dealings := by
  simp only [dealings, after, List.flatMap_append, List.flatMap_singleton]

theorem Submission.dealings_begin (file : ScanFile) (begun : Nat) (move : Move) :
    (begin file begun move).dealings = move.dealings :=
  List.flatMap_singleton _ _

theorem Undisturbed.said {rules : Rules} {sub : Submission} (h : Undisturbed rules sub)
    {task : Task} (houtcome : sub.outcome = .waits task) :
    task.stage.Said sub.file.name sub.dealings := by
  induction h generalizing task with
  | begins file h =>
    rw [Submission.dealings_begin]
    exact (rules.opening_submit file _).said houtcome
  | goesOn h hturn ih =>
    obtain ⟨before, given, move, hbefore, standing, hgiven, advance, rfl⟩ := h.advance hturn
    rw [Submission.dealings_after]
    exact standing.said (ih hbefore) hgiven advance houtcome

theorem Undisturbed.conversed {rules : Rules} {sub : Submission} (h : Undisturbed rules sub) :
    Conversed sub.file.name sub.dealings := by
  cases houtcome : sub.outcome with
  | waits task => exact (h.said houtcome).conversed
  -- the last step has made no call, so there is only the answer to add to what was said before it
  | returns a =>
    cases h with
    | begins file h =>
      rw [Submission.dealings_begin,
        show (rules.submit file _).dealings = [] from Move.dealings_returns houtcome]
      exact conversed_nil _
    | goesOn h hturn =>
      obtain ⟨before, given, move, hbefore, _, hgiven, _, rfl⟩ := h.advance hturn
      rw [Submission.dealings_after]
      simp only [Turn.dealings]
      rw [show move.dealings = [] from Move.dealings_returns houtcome, List.append_nil]
      exact (h.said hbefore).answered hgiven

theorem Life.conversed {rules : Rules} {sub : Submission} (life : Life rules sub) :
    Conversed sub.file.name sub.dealings := by
  cases life with
  | undisturbed h => exact h.conversed
  | superseded h hlt hgeneration hturn =>
    obtain ⟨task, given, events, houtcome, hgiven, rfl⟩ := h.abandon hgeneration hturn
    rw [Submission.dealings_after]
    simp only [Turn.dealings]
    rw [show (Move.final _ (events.map .log)).dealings = [] from rfl, List.append_nil]
    exact (h.said houtcome).answered hgiven

/-! ## What follows from what has been said -/

/-- A poll is for the scan that the receipt has named. -/
theorem Conversed.poll {name : String} {dealings : List Dealing} (h : Conversed name dealings)
    {scanId : String} {seen : Attempt} (hpoll : .call (.poll scanId seen) ∈ dealings) :
    ∃ receipt, .answer (.upload (.ok receipt)) ∈ dealings ∧ receipt.usableId = some scanId := by
  obtain ⟨contents, uploaded, receipt, id, polls, hprefix, hid, _⟩ := h
  match dealings, hprefix, hpoll with
  -- nothing comes before the upload, nor a poll before its answer
  | [upload], hprefix, hpoll =>
    rw [(List.cons_prefix_cons.mp hprefix).1] at hpoll
    cases List.mem_singleton.mp hpoll
  | upload :: answer :: rest, hprefix, hpoll =>
    obtain ⟨rfl, htail⟩ := List.cons_prefix_cons.mp hprefix
    obtain ⟨rfl, hrest⟩ := List.cons_prefix_cons.mp htail
    have hmem : .call (.poll scanId seen) ∈ rest := by
      rcases List.mem_cons.mp hpoll with hpoll | hpoll
      · cases hpoll
      · rcases List.mem_cons.mp hpoll with hpoll | hpoll
        · cases hpoll
        · exact hpoll
    obtain ⟨⟨last, response⟩, hlast, hmem⟩ := List.mem_flatMap.mp (hrest.subset hmem)
    obtain ⟨given, rfl, hgiven⟩ := hid (List.ne_nil_of_mem hlast)
    refine ⟨given, List.mem_cons_of_mem _ List.mem_cons_self, ?_⟩
    rcases List.mem_cons.mp hmem with hmem | hmem
    · cases hmem
      exact hgiven
    · cases List.mem_singleton.mp hmem

theorem requests_dialogue (name : String) (contents : Blob) (seen : Attempt)
    (receipt : Except ScanError Receipt) (scanId : String)
    (polls : List (Attempt × Except ScanError Response)) :
    (dialogue name contents seen receipt scanId polls).filterMap Dealing.request? =
      .upload name contents seen :: polls.map fun (seen, _) => .poll scanId seen := by
  simp only [dialogue, Dealing.request?, List.filterMap_cons, List.filterMap_flatMap,
    List.filterMap_nil, List.map_eq_flatMap]

/-- Each poll is made at an attempt that counts it. -/
theorem Conversed.counted {name : String} {dealings : List Dealing} (h : Conversed name dealings)
    {number : Nat} {scanId : String} {seen : Attempt}
    (hpoll : (dealings.filterMap Dealing.request?)[number]? = some (Request.poll scanId seen)) :
    seen.Polls scanId number := by
  obtain ⟨contents, uploaded, receipt, id, polls, ⟨rest, hrest⟩, _, hpolls⟩ := h
  have hrequests := requests_dialogue name contents uploaded receipt id polls
  rw [← hrest, List.filterMap_append] at hrequests
  have hlt := (List.getElem?_eq_some_iff.mp hpoll).choose
  rw [← List.getElem?_append_left hlt, hrequests] at hpoll
  cases number with
  -- the first request is the upload
  | zero => cases hpoll
  | succ n =>
    rw [List.getElem?_cons_succ, List.getElem?_map] at hpoll
    obtain ⟨⟨last, response⟩, hlast, heq⟩ := Option.map_eq_some_iff.mp hpoll
    cases heq
    exact hpolls n _ _ hlast

/-! ## What is uploaded -/

/-- What a read gives of a file that is in memory is there already. -/
theorem ScanFile.contents_of_read {file : ScanFile} {tree : Files.Tree} {max : Nat}
    {contents bytes : Blob} (hcontents : file.contents = .inMemory bytes)
    (h : file.read tree max = .ok contents) : contents = bytes := by
  simp only [read, hcontents] at h
  exact (size_of_checkSize h).1

/-- What a read gives of another is at the end of its path. -/
theorem ScanFile.node_of_read {file : ScanFile} {tree : Files.Tree} {max : Nat} {contents : Blob}
    {path : List UInt8} (hcontents : file.contents = .onDisk path)
    (h : file.read tree max = .ok contents) :
    ∃ node, tree.find path = .ok node ∧ contents = node.contents := by
  cases hfind : tree.find path with
  | error fault =>
    rw [read_onDisk_error hcontents hfind] at h
    cases h
  | ok node =>
    rw [read_onDisk hcontents hfind] at h
    refine ⟨node, rfl, ?_⟩
    cases node with
    | file bytes => exact (size_of_checkSize h).1
    | folder => cases h
    | link target => exact (Except.ok.inj h).symm
    | device endless =>
      cases endless with
      | false => exact (Except.ok.inj h).symm
      | true =>
        simp only at h
        split at h <;> cases h

/-- A submission that stands somewhere uploads only what it has just read. -/
theorem Standing.uploads {rules : Rules} {file : ScanFile} {generation : UInt64} {task : Task}
    {left : Attempt} (standing : Standing rules file generation task left) {answer : Answer}
    {given : task.stage.Answer} (hgiven : answer.at? rules task.stage = some given) {move : Move}
    (h : Advance rules task left task.stage given move) {name : String} {contents : Blob}
    {seen : Attempt} (hrequest : move.request? = some (.upload name contents seen))
    (renewals : Nat) :
    Turn.Uploads rules file ⟨some (task.stage, answer), renewals, move⟩ name contents := by
  obtain ⟨taskGeneration, filename, stage⟩ := task
  obtain ⟨_, hfilename, checked, _, hfits⟩ := standing
  cases h with
  | uploads selected contents =>
    cases hrequest
    rw [show selected = file from hfits] at hgiven ⊢
    obtain ⟨files, rfl, hread⟩ := Answer.at?_reading hgiven
    cases files with
    | error e => cases hread
    | ok tree =>
      have hread : file.read tree rules.limits.maxFileSize = .ok contents := hread.symm
      refine ⟨checked, hfilename, fun bytes h => ScanFile.contents_of_read h hread,
        fun path h => ?_, ScanFile.size_of_read hread⟩
      obtain ⟨node, hfind, hnode⟩ := ScanFile.node_of_read h hread
      exact ⟨tree, node, rfl, hfind, hnode⟩
  | fails h => cases hrequest
  | accepted contents h => cases hrequest
  | pauses scanId h room => cases hrequest
  | polls scanId room => cases hrequest
  | completes number status h => cases hrequest

/-- The first step uploads only what is in memory. -/
theorem Opening.uploads {rules : Rules} {file : ScanFile} {generation : UInt64} {move : Move}
    (h : Opening rules file generation move) {name : String} {contents : Blob} {seen : Attempt}
    (hrequest : move.request? = some (.upload name contents seen)) (renewals : Nat) :
    Turn.Uploads rules file ⟨none, renewals, move⟩ name contents := by
  cases h with
  | rejected h => cases hrequest
  | onDisk checked h => cases hrequest
  | @inMemory bytes move checked hcontents advance =>
    cases hread : ScanFile.checkSize rules.limits.maxFileSize bytes with
    | error e =>
      rw [hread] at advance
      cases advance
      cases hrequest
    | ok given =>
      obtain ⟨rfl, hsize⟩ := ScanFile.size_of_checkSize hread
      rw [hread] at advance
      cases advance with
      | uploads =>
        cases hrequest
        refine ⟨checked, rfl, fun bytes h => ?_, fun path h => ?_, hsize⟩
        · exact Contents.inMemory.inj (hcontents.symm.trans h)
        · cases hcontents.symm.trans h
      | fails h => cases hrequest

/-! ## The main result -/

theorem Life.disciplined {rules : Rules} {sub : Submission} (life : Life rules sub) :
    sub.Disciplined rules where
  order := by
    obtain ⟨contents, seen, receipt, scanId, polls, hprefix, _⟩ := life.conversed
    exact ⟨contents, seen, receipt, scanId, polls, hprefix⟩
  upload := by
    refine life.turns (P := fun turn => ∀ name contents seen,
      turn.move.request? = some (.upload name contents seen) →
        turn.Uploads rules sub.file name contents) ?_ ?_ ?_
    · intro move opening name contents seen hrequest
      exact opening.uploads hrequest sub.begun
    · intro task left given answer move standing hgiven advance name contents seen hrequest
      exact standing.uploads hgiven advance hrequest sub.begun
    · intro cause renewals a events name contents seen hrequest
      cases hrequest
  poll scanId seen hcall := by
    obtain ⟨receipt, hanswer, hid⟩ := life.conversed.poll hcall
    obtain ⟨hscanId, hblank⟩ := Receipt.usableId_eq_some hid
    exact ⟨receipt, hanswer, hscanId, Text.exists_of_isBlankText hblank⟩
  current := by
    refine life.turns (P := fun turn => ∀ request, turn.move.request? = some request →
      turn.renewals = sub.begun ∧ request.seen.generation = UInt64.ofNat sub.begun) ?_ ?_ ?_
    · intro move opening request hrequest
      rw [Move.seen_request? hrequest]
      exact ⟨rfl, opening.generation⟩
    · intro task left given answer move standing _ advance request hrequest
      rw [Move.seen_request? hrequest]
      exact ⟨rfl, advance.generation.trans standing.generation_left⟩
    · intro cause renewals a events request hrequest
      cases hrequest
  counted number scanId seen hrequest := life.conversed.counted hrequest

/-- Whatever happens in whatever order, as long as the attempt has been renewed fewer than `2 ^ 64`
times, every submission deals with the service as it should. -/
theorem calls_disciplined (rules : Rules) {acts : List Act} {s : Session}
    (hrun : (Session.start rules).run? rules acts = some s)
    (few : acts.countP Act.renews < UInt64.size) :
    ∀ sub ∈ s.submissions, sub.Disciplined rules := by
  intro sub hsub
  exact ((Session.kept_of_run? hrun few).lives sub hsub).disciplined

/-- It is so of a scan that is polled twice. -/
theorem sampleScan_disciplined :
    ∃ s, (Session.start .standard).run? .standard Session.sampleScan = some s ∧
      Session.sampleScan.countP Act.renews < UInt64.size ∧
      s.submissions.map (·.requests.length) = [3] ∧
      ∀ sub ∈ s.submissions, sub.Disciplined .standard := by
  have hrequests : ((Session.start .standard).run? .standard Session.sampleScan).map
      (·.submissions.map (·.requests.length)) = some [3] := by
    decide +kernel
  obtain ⟨s, hrun, hrequests⟩ := Option.map_eq_some_iff.mp hrequests
  exact ⟨s, hrun, by decide, hrequests, calls_disciplined .standard hrun (by decide)⟩

end ScanClient
