import ScanClient.Proofs.Contents
import ScanClient.Proofs.Documents
import ScanClient.Proofs.NumericSettings
import ScanClient.Proofs.PollBudget
import ScanClient.Proofs.ServiceAddress

/-!
# Output as JSON

A scan is shown as a report or as JSON. Either way the same is asked of the service and the exit code
and the errors are the same. The JSON is one document, which tells the end of the scan: whether it
was completed, and then the result, or failed, and then the error. A run that comes to no scan shows
nothing.
-/

namespace ScanClient

namespace Settings

/-- The polls of an environment are counted in 32 bits. -/
theorem maxAttempts_le (env : Environment) :
    (ofEnvironment env).1.poll.maxAttempts ≤ maxUInt32 := by
  show (positive (readNumber env "CYBERGUARD_MAX_POLLS" maxUInt32).1).getD
    standard.poll.maxAttempts ≤ maxUInt32
  cases h : positive (readNumber env "CYBERGUARD_MAX_POLLS" maxUInt32).1 with
  | none => decide
  | some n => exact (readNumber_eq_some_iff.mp (positive_eq_some_iff.mp h).1).2

end Settings

/-! ## The document of an attempt -/

open Json

theorem ScanResult.legible_toValue (room : Nat) {r : ScanResult}
    (hzero : Double.zero.le r.probability = true) (hone : r.probability.le .one = true) :
    Legible (room + 1) r.toValue := by
  refine .object ?_
  simp only [List.forall_mem_cons]
  exact ⟨.string _ _, .string _ _, .boolean _ _, .double _ hzero hone, .string _ _, .string _ _,
    fun _ h => nomatch h⟩

namespace Attempt

theorem legible_fileValue (room : Nat) {file : FileInfo} (h : file.size ≤ maxUInt64) :
    Legible (room + 1) (fileValue file) := by
  refine .object ?_
  simp only [List.forall_mem_cons]
  exact ⟨.string _ _, .integer _ h, fun _ h => nomatch h⟩

theorem legible_failureValue (room : Nat) (failure : Failure) :
    Legible (room + 1) (failureValue failure) := by
  refine .object ?_
  simp only [List.forall_mem_cons]
  exact ⟨.string _ _, .string _ _, fun _ h => nomatch h⟩

theorem legible_ofOption {α : Type} (room : Nat) {f : α → Value} {given : Option α}
    (h : ∀ a, given = some a → Legible room (f a)) : Legible room (.ofOption f given) := by
  cases given with
  | none => exact .null room
  | some a => exact h a rfl

variable {policy : PollPolicy} {a : Attempt}

/-- An attempt is written so that it can be read, as far as its numbers are numbers of 64 bits. -/
theorem Consistent.legible_toValue (consistent : a.Consistent policy)
    (hsize : ∀ file, a.file = some file → file.size ≤ maxUInt64)
    (hcount : a.attemptCount ≤ maxUInt64) (hmax : a.maxAttempts ≤ maxUInt64) (room : Nat) :
    Legible (room + 2) a.toValue := by
  have hfile : Legible (room + 1) (.ofOption fileValue a.file) :=
    legible_ofOption _ fun file h => legible_fileValue _ (hsize file h)
  have hscanId : Legible (room + 1) (.ofOption .string a.scanId) :=
    legible_ofOption _ fun scanId _ => .string _ scanId
  have herror : Legible (room + 1) (.ofOption failureValue a.error) :=
    legible_ofOption _ fun failure _ => legible_failureValue _ failure
  have hresult : Legible (room + 1) (.ofOption ScanResult.toValue a.result) := by
    refine legible_ofOption _ fun result h => ?_
    obtain ⟨_, hzero, hone⟩ := consistent.result_valid result h
    exact ScanResult.legible_toValue _ hzero hone
  refine .object ?_
  simp only [List.forall_mem_cons]
  exact ⟨hfile, .string _ _, hscanId, .integer _ hcount, .integer _ hmax, herror, hresult,
    fun _ h => nomatch h⟩

/-- An attempt that is over has a result or an error, and not the other. -/
theorem Consistent.ended (consistent : a.Consistent policy)
    (hphase : a.phase = .completed ∨ a.phase = .failed) :
    (∃ result, a.phase = .completed ∧ a.result = some result ∧ a.error = none) ∨
      ∃ failure, a.phase = .failed ∧ a.result = none ∧ a.error = some failure := by
  rcases hphase with hphase | hphase
  · obtain ⟨result, hresult⟩ := Option.isSome_iff_exists.mp (consistent.result_iff.mpr hphase)
    refine .inl ⟨result, hphase, hresult, ?_⟩
    rw [← Option.not_isSome_iff_eq_none, consistent.error_iff, hphase]
    decide
  · obtain ⟨failure, herror⟩ := Option.isSome_iff_exists.mp (consistent.error_iff.mpr hphase)
    refine .inr ⟨failure, hphase, ?_, herror⟩
    rw [← Option.not_isSome_iff_eq_none, consistent.result_iff, hphase]
    decide

/-- What is read where an attempt was written. -/
def document (a : Attempt) : Value := a.toValue.sorted.reread

theorem member?_phase (a : Attempt) : a.document.member? "phase" = some (.string a.phase.name) := by
  rw [document, toValue, member?_document]
  rfl

theorem member?_error (a : Attempt) :
    a.document.member? "error" =
      some (Value.ofOption failureValue a.error).sorted.reread := by
  rw [document, toValue, member?_document]
  rfl

theorem member?_result (a : Attempt) :
    a.document.member? "result" =
      some (Value.ofOption ScanResult.toValue a.result).sorted.reread := by
  rw [document, toValue, member?_document]
  rfl

theorem member?_isMalicious (r : ScanResult) :
    r.toValue.sorted.reread.member? "is_malicious" = some (.boolean r.isMalicious) := by
  rw [ScanResult.toValue, member?_document]
  rfl

theorem member?_message (failure : Failure) :
    (failureValue failure).sorted.reread.member? "message" = some (.string failure.message) := by
  rw [failureValue, member?_document]
  rfl

end Attempt

/-! ## Command lines that ask for a scan -/

namespace Cli

/-- The arguments that ask for the scan of a file, shown as a report or as JSON. -/
def scanArguments (file : Argument) (json : Bool) : List Argument :=
  Text.Utf8.encodeText "scan" :: file :: if json then [Text.Utf8.encodeText "--json"] else []

theorem ofArgument_plain {argument : Argument} (h : argument.head? ≠ some hyphen) :
    Word.ofArgument argument = .plain := by
  unfold Word.ofArgument
  split
  next a b rest =>
    have ha : a ≠ hyphen := fun hsame => h (congrArg some hsame)
    rw [if_pos ha]
  next => rfl

section Reading

variable {file : Argument} {path : String} (hfile : Text.Utf8.decode? file = some path)

include hfile

theorem settle_file (json : Bool) : Given.settle ⟨some file, json⟩ = .ok () := by
  show (requireText file).map (fun _ => ()) = .ok ()
  rw [requireText, hfile]
  rfl

theorem takeLong_json : (Form.mk .scan true true).takeLong ⟨some file, false⟩
    (Text.Utf8.encodeText "json") none = .ok ⟨some file, true⟩ := by
  have hhelp : isNamed (Text.Utf8.encodeText "json") "help" = false := rfl
  have hjson : isNamed (Text.Utf8.encodeText "json") "json" = true := rfl
  rw [Form.takeLong, hhelp, hjson]
  simp only [settle_file hfile]
  rfl

/-- The arguments behind the file. -/
theorem read_json (json : Bool) :
    (Form.mk .scan true true).read ⟨some file, false⟩
      (if json then [Text.Utf8.encodeText "--json"] else []) = .ok ⟨some file, json⟩ := by
  have hend (json : Bool) : (Form.mk .scan true true).read ⟨some file, json⟩ [] =
      .ok ⟨some file, json⟩ := by
    rw [Form.read, settle_file hfile]
    rfl
  cases json with
  | false => exact hend false
  | true =>
    have hword : Word.ofArgument (Text.Utf8.encodeText "--json") =
        .long (Text.Utf8.encodeText "json") none := by
      rfl
    rw [if_pos rfl, Form.read, hword]
    refine bind_eq_ok.mpr ⟨_, takeLong_json hfile, hend true⟩

theorem parse_scanArguments (hplain : file.head? ≠ some hyphen) (env : Environment)
    (json : Bool) :
    Invocation.parse env (scanArguments file json) =
      (Head.empty.address env).map fun url => ⟨url, .scan path json⟩ := by
  have hgiven : (Form.mk .scan true true).read ⟨none, false⟩
      (file :: if json then [Text.Utf8.encodeText "--json"] else []) = .ok ⟨some file, json⟩ := by
    rw [Form.read, ofArgument_plain hplain]
    exact bind_eq_ok.mpr ⟨_, rfl, read_json hfile json⟩
  have hcommand : readCommand .scan
      (file :: if json then [Text.Utf8.encodeText "--json"] else []) = .ok (.scan path json) := by
    refine bind_eq_ok.mpr ⟨_, hgiven, bind_eq_ok.mpr ⟨path, ?_, rfl⟩⟩
    show requireText file = .ok path
    rw [requireText, hfile]
  have hword : Word.ofArgument (Text.Utf8.encodeText "scan") = .plain := rfl
  have htopic : topicOf (Text.Utf8.encodeText "scan") = some .scan := rfl
  rw [Invocation.parse, scanArguments, Head.read, hword]
  simp only [htopic, Head.invoke_empty, hcommand]
  rfl

end Reading

/-! ## Scans shown either way -/

/-- The settings of a run for the service at an address. -/
def World.settings (world : World) (url : String) : Settings :=
  { (Settings.ofEnvironment world.environment).1 with baseUrl := url }

theorem scanned?_of_parse {world : World} {arguments : List Argument} {url path : String}
    {json : Bool}
    (h : Invocation.parse world.environment arguments = .ok ⟨url, .scan path json⟩) :
    scanned? world arguments = scanAttempt? world (world.settings url) path := by
  rw [scanned?, h]
  rfl

/-- The size of a file that was opened is a number of 64 bits. -/
theorem size_openFile {tree : Files.Tree} {path : String} {opened : ScanFile}
    (h : openFile tree path = .ok opened) : opened.size ≤ maxUInt64 := by
  have hsize := Files.size_of_select (mapError_eq_ok.mp h)
  exact Nat.le_of_lt (Nat.lt_of_le_of_lt hsize ScanFile.maxLength_lt)

section Shown

variable (world : World) (settings : Settings) (path : String)

/-- How a scan is shown does not matter for what it asks, how it ends and what it logs. -/
theorem runScan_json (json : Bool) :
    (runScan world settings path true).exit = (runScan world settings path json).exit ∧
      (runScan world settings path true).failure = (runScan world settings path json).failure ∧
      (runScan world settings path true).events = (runScan world settings path json).events ∧
      (runScan world settings path true).network = (runScan world settings path json).network := by
  unfold runScan
  cases openFile world.tree path with
  | error message => exact ⟨rfl, rfl, rfl, rfl⟩
  | ok file =>
    cases connect settings with
    | error message => exact ⟨rfl, rfl, rfl, rfl⟩
    | ok client => exact ⟨rfl, rfl, rfl, rfl⟩

theorem runInvocation_json (url : String) (json : Bool) :
    let written := runInvocation world ⟨url, .scan path true⟩
    let told := runInvocation world ⟨url, .scan path json⟩
    written.network = told.network ∧ written.exit = told.exit ∧ written.errors = told.errors := by
  obtain ⟨hexit, hfailure, hevents, hnetwork⟩ :=
    runScan_json world (world.settings url) path json
  unfold World.settings at hfailure hevents
  refine ⟨hnetwork, hexit, ?_⟩
  simp only [runInvocation, runCommand]
  rw [hevents, hfailure]

/-- The JSON is the attempt in the end, if there is one. -/
theorem output_runScan :
    (runScan world settings path true).output =
      (scanAttempt? world settings path).toList.map fun a => a.toValue.sorted.pretty := by
  unfold runScan scanAttempt?
  cases openFile world.tree path with
  | error message => rfl
  | ok file =>
    cases connect settings with
    | error message => rfl
    | ok client => rfl

/-- A scan fails with the error of its attempt. -/
theorem failure_runScan (json : Bool) {a : Attempt}
    (h : scanAttempt? world settings path = some a) :
    (runScan world settings path json).failure =
      match concludeScan a with
      | .ok _ => none
      | .error message => some message := by
  unfold scanAttempt? at h
  unfold runScan
  cases hfile : openFile world.tree path with
  | error message =>
    rw [hfile] at h
    cases h
  | ok file =>
    cases hclient : connect settings with
    | error message =>
      rw [hfile, hclient] at h
      cases h
    | ok client =>
      rw [hfile, hclient] at h
      cases h
      rfl

theorem scanAttempt?_bounds {a : Attempt} (h : scanAttempt? world settings path = some a) :
    ∃ opened, openFile world.tree path = .ok opened ∧
      Rules.Bounds ⟨settings.poll, settings.limits⟩ opened a := by
  unfold scanAttempt? at h
  split at h
  next opened client hopened _ =>
    cases h
    obtain ⟨_, sub, undisturbed, rfl, _, hleft⟩ := Scan.submission_of_run client.service world.tree
      ⟨settings.poll, settings.limits⟩ opened world.network
    refine ⟨sub.file, hopened, ?_⟩
    rw [hleft]
    exact undisturbed.bounds
  next => cases h

end Shown

/-! ## The main result -/

/-- A document tells how a run of the program has ended: with a result and its verdict as the exit
code, or with an error, whose message is the last thing the run shows besides its output. -/
inductive Outcome.ToldBy (outcome : Outcome) (document : Value) : Prop where
  | completed {result : Value} {malicious : Bool}
      (phase : document.member? "phase" = some (.string "completed"))
      (result_eq : document.member? "result" = some result)
      (verdict : result.member? "is_malicious" = some (.boolean malicious))
      (error : document.member? "error" = some .null)
      (exit : outcome.exit.code = if malicious then 2 else 0)
  | failed {error : Value} {message : String}
      (phase : document.member? "phase" = some (.string "failed"))
      (result : document.member? "result" = some .null)
      (error_eq : document.member? "error" = some error)
      (message_eq : error.member? "message" = some (.string message))
      (exit : outcome.exit.code = 1)
      (shown : ["", "  \x1b[31m\x1b[1m✗ Error:\x1b[0m " ++ message, ""] <:+ outcome.errors)

theorem toList_textOfLines (line : String) :
    (textOfLines [line]).toList = line.toList ++ lineBreak 0 := by
  have hjoin : textOfLines [line] = line ++ "\n" := by
    simp [textOfLines, String.join]
  rw [hjoin, String.toList_append]
  rfl

section Runs

variable {world : World} {file : Argument} {path : String}

theorem exists_address {env : Environment}
    (h : ∀ bytes, env.bytes? "CYBERGUARD_API_URL" = some bytes → Text.Utf8.decode? bytes ≠ none) :
    ∃ url, Head.empty.address env = .ok url := by
  cases hbytes : env.bytes? "CYBERGUARD_API_URL" with
  | none =>
    refine ⟨Settings.defaultBaseUrl, ?_⟩
    rw [Head.address, hbytes]
    rfl
  | some bytes =>
    obtain ⟨url, hurl⟩ := Option.ne_none_iff_exists'.mp (h bytes hbytes)
    refine ⟨url, ?_⟩
    rw [Head.address, hbytes]
    show requireText bytes = .ok url
    rw [requireText, hurl]

/-- A failure is told in red. -/
theorem failureLines_eq (message : String) :
    failureLines message = ["", "  \x1b[31m\x1b[1m✗ Error:\x1b[0m " ++ message, ""] := by
  have hlabel : "  " ++ Text.styled [.red, .bold] "✗ Error:" ++ " " =
      "  \x1b[31m\x1b[1m✗ Error:\x1b[0m " := by
    rfl
  rw [failureLines, hlabel]

/-- The errors of a run end with the reason why its scan has failed. -/
theorem suffix_errors {arguments : List Argument} {url : String} {json : Bool}
    (hparse : Invocation.parse world.environment arguments = .ok ⟨url, .scan path json⟩)
    {message : String}
    (h : (runScan world (world.settings url) path json).failure = some message) :
    failureLines message <:+ (run world arguments).errors := by
  unfold World.settings at h
  rw [run, hparse]
  simp only [runInvocation, runCommand, h]
  exact List.suffix_append _ _

theorem toldBy_run {arguments : List Argument} {url : String} {json : Bool}
    (hparse : Invocation.parse world.environment arguments = .ok ⟨url, .scan path json⟩)
    {a : Attempt} (h : scanned? world arguments = some a) :
    (run world arguments).ToldBy a.document := by
  have hexit : (run world arguments).exit = Exit.ofVerdict a.verdict? := by
    rw [exit_run_scan hparse, verdict?, h]
    rfl
  rw [scanned?_of_parse hparse] at h
  obtain ⟨consistent, hphase⟩ := scanAttempt?_over world _ h
  rcases consistent.ended hphase with
    ⟨result, hphase, hresult, herror⟩ | ⟨failure, hphase, hresult, herror⟩
  · have hverdict : a.verdict? = some result.isMalicious := by
      rw [Attempt.verdict?, hphase, hresult]
      rfl
    refine .completed ?_ ?_ (Attempt.member?_isMalicious result) ?_ ?_
    · rw [a.member?_phase, hphase]
      rfl
    · rw [a.member?_result, hresult]
      rfl
    · rw [a.member?_error, herror]
      rfl
    · rw [hexit, hverdict]
      cases result.isMalicious <;> rfl
  · have hverdict : a.verdict? = none := by
      rw [Attempt.verdict?, hphase]
      rfl
    have hfailure : (runScan world (world.settings url) path json).failure =
        some failure.message := by
      rw [failure_runScan world _ path json h, concludeScan, hphase, herror]
      rfl
    have hshown := suffix_errors hparse hfailure
    rw [failureLines_eq] at hshown
    refine .failed ?_ ?_ ?_ (Attempt.member?_message failure) ?_ hshown
    · rw [a.member?_phase, hphase]
      rfl
    · rw [a.member?_result, hresult]
      rfl
    · rw [a.member?_error, herror]
      rfl
    · rw [hexit, hverdict]
      rfl

/-- What a run shows that comes to a scan is one document, the attempt in the end. -/
theorem parse_output {url : String}
    (hparse : Invocation.parse world.environment (scanArguments file true) =
      .ok ⟨url, .scan path true⟩)
    {a : Attempt} (h : scanned? world (scanArguments file true) = some a) :
    parse (textOfLines [a.toValue.sorted.pretty]) = .ok a.document := by
  rw [scanned?_of_parse hparse] at h
  obtain ⟨consistent, _⟩ := scanAttempt?_over world _ h
  obtain ⟨opened, hopened, hfile, hcount⟩ := scanAttempt?_bounds world _ path h
  have hmax : (world.settings url).poll.maxAttempts ≤ maxUInt32 :=
    Settings.maxAttempts_le world.environment
  have hbudget : (world.settings url).poll.budget ≤ maxUInt64 :=
    Nat.max_le.mpr ⟨by decide, Nat.le_trans hmax (by decide)⟩
  -- an attempt takes two levels of brackets of those that may be nested
  have legible : Legible maxDepth a.toValue := by
    refine consistent.legible_toValue ?_ (Nat.le_trans hcount hbudget) ?_ 125
    · intro info hinfo
      cases hfile.symm.trans hinfo
      exact size_openFile hopened
    · rw [consistent.maxAttempts_eq]
      exact Nat.le_trans hmax (by decide)
  exact legible.parse_pretty (toList_textOfLines _) (blank_lineBreak 0)

end Runs

/-- A scan that is shown as JSON sends the same requests as one that is shown as a report, exits with
the same code and writes the same errors. A run that comes to no scan, since there is no such file or
no client for the service, shows nothing and exits with one. A run that comes to a scan shows one JSON
document and nothing else, the attempt it ends with, which tells how the run has ended. -/
theorem json_output {file : Argument} {path : String}
    (hfile : Text.Utf8.decode? file = some path) (hplain : file.head? ≠ some hyphen)
    (world : World)
    (haddress : ∀ bytes, world.environment.bytes? "CYBERGUARD_API_URL" = some bytes →
      Text.Utf8.decode? bytes ≠ none) :
    let told := run world (scanArguments file false)
    let written := run world (scanArguments file true)
    (∃ url, ∀ json, Invocation.parse world.environment (scanArguments file json) =
      .ok ⟨url, .scan path json⟩) ∧
    written.network = told.network ∧ written.exit = told.exit ∧ written.errors = told.errors ∧
    (scanned? world (scanArguments file true) = none →
      written.output = [] ∧ written.exit.code = 1) ∧
    ∀ a, scanned? world (scanArguments file true) = some a →
      written.output = [a.toValue.sorted.pretty] ∧
        parse (textOfLines written.output) = .ok a.document ∧ written.ToldBy a.document := by
  intro told written
  obtain ⟨url, hurl⟩ := exists_address haddress
  have hparse (json : Bool) : Invocation.parse world.environment (scanArguments file json) =
      .ok ⟨url, .scan path json⟩ := by
    rw [parse_scanArguments hfile hplain, hurl]
    rfl
  obtain ⟨hnetwork, hexit, herrors⟩ := runInvocation_json world path url false
  have hwritten : written = runInvocation world ⟨url, .scan path true⟩ := by
    simp only [written, run, hparse true]
  have htold : told = runInvocation world ⟨url, .scan path false⟩ := by
    simp only [told, run, hparse false]
  have houtput : written.output =
      (scanned? world (scanArguments file true)).toList.map fun a => a.toValue.sorted.pretty := by
    rw [hwritten, scanned?_of_parse (hparse true)]
    exact output_runScan world (world.settings url) path
  refine ⟨⟨url, hparse⟩, ?_, ?_, ?_, ?_, ?_⟩
  · rw [hwritten, htold, hnetwork]
  · rw [hwritten, htold, hexit]
  · rw [hwritten, htold, herrors]
  · intro hnone
    rw [houtput, hnone]
    refine ⟨rfl, ?_⟩
    rw [exit_run_scan (hparse true), verdict?, hnone]
    rfl
  · intro a ha
    rw [ha] at houtput
    refine ⟨houtput, ?_, toldBy_run (hparse true) ha⟩
    rw [houtput]
    exact parse_output (hparse true) ha

/-- The end of a scan that cannot be uploaded is shown, too. -/
theorem fileWorld_output :
    let arguments := scanArguments (Text.Utf8.encodeText "a.jar") true
    ∃ a : Attempt, (run fileWorld arguments).output = [a.toValue.sorted.pretty] ∧
      parse (textOfLines (run fileWorld arguments).output) = .ok a.document ∧
      (run fileWorld arguments).ToldBy a.document := by
  intro arguments
  have hfile : Text.Utf8.decode? (Text.Utf8.encodeText "a.jar") = some "a.jar" := by
    rfl
  have hplain : (Text.Utf8.encodeText "a.jar").head? ≠ some hyphen := by decide
  have hconnect : connect (Settings.ofEnvironment fileWorld.environment).1 =
      .ok ⟨Settings.defaultBaseUrl, 30000⟩ := by
    rfl
  have hparse : Invocation.parse fileWorld.environment arguments =
      .ok ⟨Settings.defaultBaseUrl, .scan "a.jar" true⟩ := by
    rfl
  have hscanned : (scanned? fileWorld arguments).isSome = true := by
    rw [scanned?, hparse]
    show (scanAttempt? fileWorld (Settings.ofEnvironment fileWorld.environment).1 "a.jar").isSome =
      true
    rw [scanAttempt?, openFile_fileWorld, hconnect]
    rfl
  obtain ⟨a, ha⟩ := Option.isSome_iff_exists.mp hscanned
  have haddress : ∀ bytes, fileWorld.environment.bytes? "CYBERGUARD_API_URL" = some bytes →
      Text.Utf8.decode? bytes ≠ none := by
    intro bytes h
    cases h
  obtain ⟨_, _, _, _, _, hall⟩ := json_output hfile hplain fileWorld haddress
  exact ⟨a, hall a ha⟩

end Cli

end ScanClient
