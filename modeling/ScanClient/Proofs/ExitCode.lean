import ScanClient.Cli.Program
import ScanClient.Proofs.Answers
import ScanClient.Proofs.Paths
import ScanClient.Proofs.Progress

/-!
# Exit codes

What the exit code of the program says of a scan. A scan that is over is completed, with a result, or
has failed. The code tells these apart, and a malicious file from one that is not; but the code of a
malicious file is also that of a command line that nothing can be done about.
-/

namespace ScanClient

/-- Whatever the service answers, a scan is a submission that nothing disturbs, and it ends with the
consistent attempt that the submission leaves. -/
theorem Scan.submission_of_run (service : Service σ) (tree : Files.Tree) (rules : Rules)
    (file : ScanFile) (st : σ) :
    let a := (run service tree rules file (.fresh 0 rules.policy.maxAttempts) st).attempt
    a.Consistent rules.policy ∧
      ∃ sub, Undisturbed rules sub ∧ sub.file = file ∧ sub.outcome = .returns a ∧ a = sub.left := by
  intro a
  obtain ⟨sub, undisturbed, hfile, hreturns, hshown⟩ := shown_of_run service tree rules file st
  have ha : a = sub.left := (undisturbed.concludes a hreturns).1
  refine ⟨?_, sub, undisturbed, hfile, hreturns, ha⟩
  -- what it ends with is the last value that it publishes
  have hlast : sub.left ∈ sub.shown := List.mem_of_getLast? undisturbed.shows.2
  rw [hshown, ← ha] at hlast
  exact published_run service tree rules file st a hlast

/-- So it ends with an attempt that is over. -/
theorem Scan.attempt_run (service : Service σ) (tree : Files.Tree) (rules : Rules) (file : ScanFile)
    (st : σ) :
    let a := (run service tree rules file (.fresh 0 rules.policy.maxAttempts) st).attempt
    a.Consistent rules.policy ∧ (a.phase = .completed ∨ a.phase = .failed) := by
  intro a
  obtain ⟨consistent, sub, undisturbed, _, hreturns, _⟩ :=
    submission_of_run service tree rules file st
  exact ⟨consistent, (undisturbed.concludes a hreturns).2⟩

/-- What an attempt says of its file: whether it is malicious, if the scan was completed. -/
def Attempt.verdict? (a : Attempt) : Option Bool :=
  if a.phase = .completed then a.result.map (·.isMalicious) else none

namespace Cli

/-- Whether nothing can be done about a command line. One that asks for help is answered. -/
def Refusal.isMisuse : Refusal → Bool
  | .nothingAsked | .misused _ => true
  | .help _ | .version => false

/-- The attempt that the scan of a file ends with, if there is a file and a service. -/
def scanAttempt? (world : World) (settings : Settings) (path : String) : Option Attempt :=
  match openFile world.tree path, connect settings with
  | .ok file, .ok client =>
    some (Scan.run client.service world.tree ⟨settings.poll, settings.limits⟩ file
      (.fresh 0 settings.poll.maxAttempts) world.network).attempt
  | _, _ => none

/-- The attempt that a run of the program ends with, if it comes to a scan. -/
def scanned? (world : World) (arguments : List Argument) : Option Attempt :=
  match Invocation.parse world.environment arguments with
  | .ok ⟨url, .scan path _⟩ =>
    scanAttempt? world { (Settings.ofEnvironment world.environment).1 with baseUrl := url } path
  | _ => none

/-- What a run of the program finds out about a file, if it does. -/
def verdict? (world : World) (arguments : List Argument) : Option Bool :=
  (scanned? world arguments).bind Attempt.verdict?

/-- How a scan ends that finds this out. -/
def Exit.ofVerdict : Option Bool → Exit
  | some true => .malicious
  | some false => .success
  | none => .failure

/-! ## Endings of commands -/

section Commands

variable (world : World) (settings : Settings)

theorem scanAttempt?_over {path : String} {a : Attempt}
    (h : scanAttempt? world settings path = some a) :
    a.Consistent settings.poll ∧ (a.phase = .completed ∨ a.phase = .failed) := by
  unfold scanAttempt? at h
  split at h
  next file client _ _ =>
    cases h
    exact Scan.attempt_run client.service world.tree ⟨settings.poll, settings.limits⟩ file
      world.network
  next => cases h

/-- The two other ends of a scan that are looked out for do not occur. -/
theorem exit_concludeScan {policy : PollPolicy} {a : Attempt} (consistent : a.Consistent policy)
    (hphase : a.phase = .completed ∨ a.phase = .failed) :
    (match concludeScan a with
      | .ok result => verdictExit result
      | .error _ => .failure) = Exit.ofVerdict a.verdict? := by
  rcases hphase with hphase | hphase
  · obtain ⟨result, hresult⟩ := Option.isSome_iff_exists.mp (consistent.result_iff.mpr hphase)
    simp only [concludeScan, Attempt.verdict?, hphase, hresult, if_true, Option.map_some,
      verdictExit]
    cases result.isMalicious <;> rfl
  · simp only [concludeScan, Attempt.verdict?, hphase, reduceCtorEq, if_false]
    rfl

theorem exit_runScan (path : String) (json : Bool) :
    (runScan world settings path json).exit =
      Exit.ofVerdict ((scanAttempt? world settings path).bind Attempt.verdict?) := by
  unfold runScan scanAttempt?
  cases openFile world.tree path with
  | error message => rfl
  | ok file =>
    cases connect settings with
    | error message => rfl
    | ok client =>
      obtain ⟨consistent, hphase⟩ := Scan.attempt_run client.service world.tree
        ⟨settings.poll, settings.limits⟩ file world.network
      exact exit_concludeScan consistent hphase

/-- A command that is no scan succeeds or fails. -/
theorem exit_runCommand {command : Command} (h : ∀ path json, command ≠ .scan path json) :
    (runCommand world settings command).exit = .success ∨
      (runCommand world settings command).exit = .failure := by
  cases command with
  | scan path json => exact absurd rfl (h path json)
  | validate path =>
    simp only [runCommand, runValidate]
    split
    · exact .inr rfl
    · split
      · exact .inr rfl
      · exact .inl rfl
  | health =>
    simp only [runCommand, runHealth]
    split
    · exact .inr rfl
    · split
      · exact .inr rfl
      · simp only
        split
        · exact .inl rfl
        · exact .inr rfl
  | modelInfo =>
    simp only [runCommand, runModelInfo]
    split
    · exact .inr rfl
    · split
      · exact .inr rfl
      · exact .inl rfl

end Commands

/-! ## Endings of runs -/

section Runs

variable {world : World} {arguments : List Argument}

theorem exit_run_scan {url path : String} {json : Bool}
    (h : Invocation.parse world.environment arguments = .ok ⟨url, .scan path json⟩) :
    (run world arguments).exit = Exit.ofVerdict (verdict? world arguments) := by
  rw [run, h, verdict?, scanned?, h]
  exact exit_runScan world _ path json

theorem exit_run_other {invocation : Invocation}
    (h : Invocation.parse world.environment arguments = .ok invocation)
    (hother : ∀ path json, invocation.command ≠ .scan path json) :
    ((run world arguments).exit = .success ∨ (run world arguments).exit = .failure) ∧
      verdict? world arguments = none := by
  constructor
  · rw [run, h]
    exact exit_runCommand world _ hother
  · rw [verdict?, scanned?, h]
    obtain ⟨url, command⟩ := invocation
    cases command with
    | scan path json => exact absurd rfl (hother path json)
    | validate path => rfl
    | health => rfl
    | modelInfo => rfl

theorem exit_run_refused {refusal : Refusal}
    (h : Invocation.parse world.environment arguments = .error refusal) :
    (run world arguments).exit = (if refusal.isMisuse then .misuse else .success) ∧
      verdict? world arguments = none := by
  constructor
  · rw [run, h]
    cases refusal <;> rfl
  · rw [verdict?, scanned?, h]
    rfl

theorem scanned?_over {a : Attempt} (h : scanned? world arguments = some a) :
    a.phase = .completed ∧ a.result.isSome ∨ a.phase = .failed ∧ a.error.isSome := by
  unfold scanned? at h
  split at h
  · obtain ⟨consistent, hphase⟩ := scanAttempt?_over world _ h
    rcases hphase with hphase | hphase
    · exact .inl ⟨hphase, consistent.result_iff.mpr hphase⟩
    · exact .inr ⟨hphase, consistent.error_iff.mpr hphase⟩
  · cases h

/-- The code of a malicious file has two meanings, and no others. -/
theorem code_eq_two_iff :
    (run world arguments).exit.code = 2 ↔
      verdict? world arguments = some true ∨
        ∃ refusal, Invocation.parse world.environment arguments = .error refusal ∧
          refusal.isMisuse = true := by
  cases hparse : Invocation.parse world.environment arguments with
  | error refusal =>
    obtain ⟨hexit, hnone⟩ := exit_run_refused hparse
    rw [hexit, hnone]
    cases hmisuse : refusal.isMisuse with
    | true => exact ⟨fun _ => .inr ⟨refusal, rfl, hmisuse⟩, fun _ => rfl⟩
    | false =>
      -- help is a success
      constructor
      · intro hcode
        cases hcode
      · rintro (h | ⟨_, h, hother⟩)
        · cases h
        · cases h
          cases hmisuse.symm.trans hother
  | ok invocation =>
    have hread : ¬∃ refusal, Except.ok invocation = .error refusal ∧
        Refusal.isMisuse refusal = true := fun ⟨_, h, _⟩ => nomatch h
    rw [or_iff_left hread]
    by_cases hscan : ∃ path json, invocation.command = .scan path json
    · obtain ⟨path, json, hcommand⟩ := hscan
      obtain ⟨url, command⟩ := invocation
      subst hcommand
      rw [exit_run_scan hparse]
      cases verdict? world arguments with
      | none => decide
      | some malicious => cases malicious <;> decide
    · obtain ⟨hexit, hnone⟩ := exit_run_other hparse fun path json h => hscan ⟨path, json, h⟩
      rw [hnone]
      rcases hexit with hexit | hexit <;> rw [hexit] <;> decide

end Runs

/-! ## The main result -/

/-- Whatever the command line, the files and the service are, the program exits with two if a scan
was completed and found the file malicious, and also if nothing can be done about the command line,
but in no other case. A command line that asks for a scan and can be read exits with zero if the scan
was completed and found the file not malicious, and with one if there is no verdict. One that asks
for help exits with zero. And there is a verdict unless the scan has failed, with an error, or has
not begun. -/
theorem exit_codes (world : World) (arguments : List Argument) :
    let code := (run world arguments).exit.code
    (code = 2 ↔
      verdict? world arguments = some true ∨
        ∃ refusal, Invocation.parse world.environment arguments = .error refusal ∧
          refusal.isMisuse = true) ∧
    (∀ url path json,
      Invocation.parse world.environment arguments = .ok ⟨url, .scan path json⟩ →
      (code = 0 ↔ verdict? world arguments = some false) ∧
        (code = 1 ↔ verdict? world arguments = none)) ∧
    (∀ refusal, Invocation.parse world.environment arguments = .error refusal →
      refusal.isMisuse = false → code = 0) ∧
    ∀ a, scanned? world arguments = some a →
      a.phase = .completed ∧ a.result.isSome ∨ a.phase = .failed ∧ a.error.isSome := by
  refine ⟨code_eq_two_iff, ?_, ?_, fun a h => scanned?_over h⟩
  · intro url path json hparse
    rw [exit_run_scan hparse]
    cases verdict? world arguments with
    | none => decide
    | some malicious => cases malicious <;> decide
  · intro refusal hparse hmisuse
    rw [(exit_run_refused hparse).1, hmisuse]
    rfl

/-- A world without files and services. -/
def emptyWorld : World where
  environment := ⟨[]⟩
  tree := ⟨[], []⟩
  network := .silent
  time := ""
  latency := 0

/-- The arguments that are some words. -/
def argumentsOf (words : List String) : List Argument := words.map Text.Utf8.encodeText

/-- A world with one file and no service. -/
def fileWorld : World :=
  { emptyWorld with
    tree := ⟨[([Text.Utf8.encodeText "a.jar"], .file (.bytes [0x50, 0x4B]))], []⟩ }

theorem fileWorld_find :
    fileWorld.tree.find (Text.Utf8.encodeText "a.jar") = .ok (.file (.bytes [0x50, 0x4B])) := by
  have isName : Files.IsName (Text.Utf8.encodeText "a.jar") := by decide
  exact isName.find_alone (by decide)

theorem openFile_fileWorld :
    openFile fileWorld.tree "a.jar" =
      .ok ⟨"a.jar", 2, .onDisk (Text.Utf8.encodeText "a.jar")⟩ := by
  rw [openFile, ScanFile.select, fileWorld_find]
  rfl

end Cli

namespace Response

open Json

variable (malicious : Bool)

/-- The members of what a service says of a file that it has scanned. -/
def verdictMembers : List (List Piece × Form) :=
  [(Piece.plainly "status".toList (plain_of_all rfl),
      .string (Piece.plainly "completed".toList (plain_of_all rfl))),
    (Piece.plainly "filename".toList (plain_of_all rfl),
      .string (Piece.plainly "a.jar".toList (plain_of_all rfl))),
    (Piece.plainly "is_malicious".toList (plain_of_all rfl), .boolean malicious),
    (Piece.plainly "malicious_probability".toList (plain_of_all rfl),
      .number ⟨false, ['0'], ['5'], none⟩),
    (Piece.plainly "scan_date".toList (plain_of_all rfl),
      .string (Piece.plainly "2024-05-01T10:00:00Z".toList (plain_of_all rfl)))]

def verdictStart : String :=
  "\x7b\"status\":\"completed\",\"filename\":\"a.jar\",\"is_malicious\":"

def verdictEnd : String :=
  ",\"malicious_probability\":0.5,\"scan_date\":\"2024-05-01T10:00:00Z\"\x7d"

/-- The text with these members, without blanks. -/
def verdictText : String := verdictStart ++ (if malicious then "true" else "false") ++ verdictEnd

/-- A text in quotes is compared as a list of characters, and not as bytes. -/
theorem toList_of_eq {text : String} {chars : List Char} (h : text = String.ofList chars) :
    text.toList = chars := by
  rw [h, String.toList_ofList]

theorem isText_verdict : IsText (verdictText malicious) (.object (verdictMembers malicious)) := by
  have hmalicious : Spells (.value (.boolean malicious))
      (if malicious then "true" else "false").toList := by
    cases malicious
    · exact .isFalse
    · exact .isTrue
  have hhalf : Numeral.Spelt ⟨false, ['0'], ['5'], none⟩ ['0', '.', '5'] :=
    ⟨.zero, digits_cons.mpr ⟨rfl, digits_nil⟩, [], .none, rfl⟩
  -- every member but the first comes behind a comma
  have hlead : Lead false ([] ++ ',' :: []) := .later blank_nil blank_nil
  have hmembers : Spells (.members true (verdictMembers malicious)) _ :=
    .member (.first blank_nil) blank_nil blank_nil (.string _)
      (.member hlead blank_nil blank_nil (.string _)
        (.member hlead blank_nil blank_nil hmalicious
          (.member hlead blank_nil blank_nil (.number hhalf)
            (.member hlead blank_nil blank_nil (.string _) (.noMember false blank_nil)))))
  refine ⟨[], _, [], blank_nil, blank_nil, .object hmembers, ?_⟩
  have hstart := toList_of_eq (show verdictStart = String.ofList _ from rfl)
  have hend := toList_of_eq (show verdictEnd = String.ofList _ from rfl)
  rw [verdictText, String.toList_append, String.toList_append, hstart, hend]
  cases malicious <;> rfl

theorem parse_verdict :
    ∃ r, parse (verdictText malicious) = .ok r ∧ r.status = .completed ∧
      ∃ result, r.toResult "abc" = .ok result ∧ result.isMalicious = malicious := by
  have htold : (parse (verdictText malicious)).toOption.map (fun r =>
      (r.status, (r.toResult "abc").toOption.map (·.isMalicious))) =
        some (.completed, some malicious) := by
    rw [toOption_parse (isText_verdict malicious)]
    cases malicious <;> decide +kernel
  obtain ⟨r, hr, htold⟩ := Option.map_eq_some_iff.mp htold
  obtain ⟨hstatus, hresult⟩ := Prod.mk.inj htold
  obtain ⟨result, hresult, hmalicious⟩ := Option.map_eq_some_iff.mp hresult
  exact ⟨r, toOption_eq_some hr, hstatus, result, toOption_eq_some hresult, hmalicious⟩

end Response

namespace Cli

open Http

section Verdict

variable (malicious : Bool)

/-- That world with a service that has scanned the file when it is first asked. -/
def verdictWorld : World :=
  { fileWorld with
    network := {
      sampleNetwork with
      replies := [Client.plainReply 200 "\x7b\"scan_id\":\"abc\"\x7d",
        Client.plainReply 200 (Response.verdictText malicious)] } }

/-- The client that a run without settings gets. -/
def standardClient : Client := ⟨Settings.defaultBaseUrl, 30000⟩

theorem parse_verdictWorld :
    Invocation.parse (verdictWorld malicious).environment (argumentsOf ["scan", "a.jar"]) =
      .ok ⟨Settings.defaultBaseUrl, .scan "a.jar" false⟩ := by
  show Invocation.parse emptyWorld.environment _ = _
  rfl

theorem scanned_verdictWorld :
    scanned? (verdictWorld malicious) (argumentsOf ["scan", "a.jar"]) =
      some (Scan.run standardClient.service fileWorld.tree
        ⟨.standard, .standard⟩ ⟨"a.jar", 2, .onDisk (Text.Utf8.encodeText "a.jar")⟩
        (.fresh 0 30) ⟨sampleNetwork.server, [Client.plainReply 200 "\x7b\"scan_id\":\"abc\"\x7d",
          Client.plainReply 200 (Response.verdictText malicious)], []⟩).attempt := by
  have hsettings : (Settings.ofEnvironment (verdictWorld malicious).environment).1 = .standard :=
    rfl
  have hopen : openFile (verdictWorld malicious).tree "a.jar" = _ := openFile_fileWorld
  have hconnect : connect .standard = .ok standardClient := by
    rfl
  rw [scanned?, parse_verdictWorld]
  simp only [hsettings]
  show scanAttempt? (verdictWorld malicious) .standard "a.jar" = _
  rw [scanAttempt?, hopen, hconnect]
  rfl

theorem verdict_verdictWorld :
    verdict? (verdictWorld malicious) (argumentsOf ["scan", "a.jar"]) = some malicious := by
  have hread : ScanFile.read ⟨"a.jar", 2, .onDisk (Text.Utf8.encodeText "a.jar")⟩ fileWorld.tree
      Limits.standard.maxFileSize = .ok (.bytes [0x50, 0x4B]) := by
    simp only [ScanFile.read, fileWorld_find]
    rfl
  have hcheck : Limits.standard.check "a.jar" 2 = .ok () := rfl
  have hid : Receipt.usableId ⟨some "abc"⟩ = some "abc" := rfl
  have htimeout : 0 < standardClient.timeout := by decide
  -- the upload is told the identifier, and the first poll that the scan is completed
  obtain ⟨_, sent, hupload⟩ := Client.upload_plain htimeout "\x7b\"scan_id\":\"abc\"\x7d"
    [Client.plainReply 200 (Response.verdictText malicious)] [] rfl "a.jar" (.bytes [0x50, 0x4B])
  rw [Client.readReceipt_object] at hupload
  obtain ⟨r, hparse, hstatus, result, hresult, hmalicious⟩ := Response.parse_verdict malicious
  have hurl := @exists_url (standardClient.statusUrl "abc") (by decide +kernel)
  obtain ⟨_, _, hpoll⟩ := Client.poll_plain htimeout (Response.verdictText malicious) [] [sent] hurl
  rw [hparse] at hpoll
  have hdisk : (ScanFile.mk "a.jar" 2 (.onDisk (Text.Utf8.encodeText "a.jar"))).contents =
      .onDisk (Text.Utf8.encodeText "a.jar") := rfl
  obtain ⟨hphase, hended⟩ := Scan.completed_run standardClient.service fileWorld.tree
    ⟨.standard, .standard⟩ hdisk hcheck hread hupload hid hpoll hstatus hresult (.fresh 0 30)
  rw [verdict?, scanned_verdictWorld, Option.bind_some, Attempt.verdict?, if_pos hphase, hended]
  exact congrArg some hmalicious

end Verdict

/-- A file that is found malicious, one that is not, and a path that leads nowhere. -/
theorem scans_exit_by_verdict :
    (run (verdictWorld true) (argumentsOf ["scan", "a.jar"])).exit.code = 2 ∧
      (run (verdictWorld false) (argumentsOf ["scan", "a.jar"])).exit.code = 0 ∧
      (run emptyWorld (argumentsOf ["scan", ""])).exit.code = 1 := by
  have hparse : Invocation.parse emptyWorld.environment (argumentsOf ["scan", ""]) =
      .ok ⟨Settings.defaultBaseUrl, .scan "" false⟩ := by
    rfl
  have hnone : verdict? emptyWorld (argumentsOf ["scan", ""]) = none := rfl
  obtain ⟨hmalicious, _⟩ := exit_codes (verdictWorld true) (argumentsOf ["scan", "a.jar"])
  obtain ⟨_, hclean, _⟩ := exit_codes (verdictWorld false) (argumentsOf ["scan", "a.jar"])
  obtain ⟨_, hmissing, _⟩ := exit_codes emptyWorld (argumentsOf ["scan", ""])
  exact ⟨hmalicious.mpr (.inl (verdict_verdictWorld true)),
    (hclean _ _ _ (parse_verdictWorld false)).1.mpr (verdict_verdictWorld false),
    (hmissing _ _ _ hparse).2.mpr hnone⟩

/-- A scan without a file exits like one that has found a malicious file. -/
theorem scan_without_file_exits_two :
    (run emptyWorld (argumentsOf ["scan"])).exit.code = 2 ∧
      scanned? emptyWorld (argumentsOf ["scan"]) = none := by
  decide

end Cli

end ScanClient
