import ScanClient.Cli.Program
import ScanClient.Proofs.Progress

/-!
# Looks at the progress of a scan

The program looks at the attempt while the scan goes on, at whichever of its values it comes to see,
and once more when the scan is over. When it looks is nobody's choice. What depends on it is at most
one line: that on an upload of which the attempt keeps no trace.
-/

namespace ScanClient

open Cli

/-! ## Scans -/

namespace Scan

/-- Whether an upload can be told from the value that a scan ends with. -/
def Traced {σ : Type} (scan : Scan σ) : Prop :=
  (∃ a ∈ publications scan.effects, a.phase = .uploading) → scan.attempt.scanId.isSome

variable (service : Service σ) (tree : Files.Tree) (rules : Rules) (file : ScanFile) (st : σ)

/-- If an upload has left a trace, the lines are the same whichever values are looked at. Otherwise
there is a line more if all are looked at than if only the last is. -/
theorem lines_of_run :
    let scan := run service tree rules file (.fresh 0 rules.policy.maxAttempts) st
    (scan.Traced → ∀ seen ⊆ publications scan.effects,
      Progress.start.lines (seen ++ [scan.attempt]) = Progress.start.lines [scan.attempt]) ∧
    (¬scan.Traced →
      Progress.start.lines [scan.attempt] = ["Validating file..."] ∧
      (Progress.start.lines (publications scan.effects ++ [scan.attempt])).length = 2) := by
  intro scan
  obtain ⟨sub, undisturbed, _, hreturns, hshown⟩ := shown_of_run service tree rules file st
  have hleft : scan.attempt = sub.left := (undisturbed.concludes _ hreturns).1
  have hover : sub.left.phase = .completed ∨ sub.left.phase = .failed :=
    hleft ▸ (undisturbed.concludes _ hreturns).2
  have hends : sub.left ∈ sub.shown := List.mem_of_getLast? undisturbed.shows.2
  have hall : ∀ seen ⊆ sub.shown, seen ++ [sub.left] ⊆ sub.shown := fun seen hseen =>
    List.append_subset.mpr ⟨hseen, List.cons_subset.mpr ⟨hends, List.nil_subset _⟩⟩
  have hlast : ∀ seen : List Attempt, sub.left ∈ seen ++ [sub.left] := fun seen =>
    List.mem_append_right seen (List.mem_singleton_self _)
  rw [hleft, Traced, hleft, ← hshown, ← undisturbed.uploads_iff]
  constructor
  · -- whatever is missed, the last value tells of the upload
    intro traced
    have hstory : ∀ seen ⊆ sub.shown,
        Progress.start.lines (seen ++ [sub.left]) = sub.story rules := by
      intro seen hseen
      refine undisturbed.lines_eq_story (hall seen hseen) (hlast seen) ?_
      cases huploads : sub.uploads with
      | true => exact .inr (.inl (traced huploads))
      | false => exact .inl rfl
    intro seen hseen
    exact (hstory seen hseen).trans (hstory [] (List.nil_subset _)).symm
  · -- only the value that shows the upload going on tells of it, and the last value is not that one
    intro untraced
    obtain ⟨huploads, hnone⟩ := Classical.not_imp.mp untraced
    obtain ⟨a, ha, hphase⟩ := undisturbed.uploads_iff.mp huploads
    have hscanId : sub.left.scanId = none := Option.not_isSome_iff_eq_none.mp hnone
    have hmissed : ∀ a ∈ [sub.left], a.phase ≠ .uploading := by
      refine List.forall_mem_singleton.mpr fun hphase => ?_
      rw [hphase] at hover
      rcases hover with h | h <;> cases h
    obtain ⟨hlines, hpolls⟩ := undisturbed.lines_of_lost (hall [] (List.nil_subset _)) (hlast [])
      hscanId hmissed
    refine ⟨hlines, ?_⟩
    rw [undisturbed.lines_eq_story (hall _ (List.Subset.refl _)) (hlast _)
      (.inr (.inr ⟨a, List.mem_append_left _ ha, hphase⟩)), Submission.story, huploads, hpolls]
    rfl

end Scan

namespace Cli

/-! ## Looks of the program -/

section Looks

variable (looks : Nat → Bool) (values : List Attempt)

theorem glimpsed_subset : glimpsed looks values ⊆ values := by
  intro a ha
  obtain ⟨value, hvalue, rfl⟩ := List.mem_map.mp ha
  exact List.fst_mem_of_mem_zipIdx (List.mem_of_mem_filter hvalue)

theorem glimpsed_all : glimpsed (fun _ => true) values = values := by
  rw [glimpsed, List.filter_true, List.zipIdx_map_fst]

theorem glimpsed_none : glimpsed (fun _ => false) values = [] := by
  rw [glimpsed, List.filter_false, List.map_nil]

end Looks

section Commands

variable (world : World) (settings : Settings) (path : String) (looks : Nat → Bool)

/-- The file and the scan that a command comes to, if there is a file and a service. -/
def scanOf? : Option (ScanFile × Scan Http.Network) :=
  match openFile world.tree path, connect settings with
  | .ok file, .ok client =>
    some (file, Scan.run client.service world.tree ⟨settings.poll, settings.limits⟩ file
      (.fresh 0 settings.poll.maxAttempts) world.network)
  | _, _ => none

/-- Only what is shown depends on when progress is looked at. -/
theorem runScan_looks (json : Bool) :
    runScan { world with looks } settings path json =
      { runScan world settings path json with
        output := (runScan { world with looks } settings path json).output } := by
  unfold runScan
  simp only
  cases openFile world.tree path with
  | error message => rfl
  | ok file =>
    cases connect settings with
    | error message => rfl
    | ok client => rfl

/-- A command that is no scan does not look. -/
theorem runCommand_of_other {command : Command} (h : ∀ path json, command ≠ .scan path json) :
    runCommand { world with looks } settings command = runCommand world settings command := by
  cases command with
  | scan path json => exact absurd rfl (h path json)
  | validate path => simp only [runCommand, runValidate]
  | health => simp only [runCommand, runHealth]
  | modelInfo => simp only [runCommand, runModelInfo]

theorem runCommand_looks (command : Command) :
    runCommand { world with looks } settings command =
      { runCommand world settings command with
        output := (runCommand { world with looks } settings command).output } := by
  by_cases h : ∀ path json, command ≠ .scan path json
  · rw [runCommand_of_other world settings looks h]
  · simp only [not_forall, not_not] at h
    obtain ⟨path, json, rfl⟩ := h
    exact runScan_looks world settings path looks json

theorem output_of_scanOf {file : ScanFile} {scan : Scan Http.Network}
    (h : scanOf? world settings path = some (file, scan)) (json : Bool) :
    (runScan { world with looks } settings path json).output =
      scanLines json file (glimpsed looks (publications scan.effects)) scan.attempt := by
  unfold scanOf? at h
  split at h
  next hopen hconnect =>
    cases h
    simp only [runScan, hopen, hconnect]
  next => cases h

theorem output_of_no_scan (h : scanOf? world settings path = none) (json : Bool) :
    (runScan { world with looks } settings path json).output = [] := by
  unfold scanOf? at h
  split at h
  next => cases h
  next hnone =>
    simp only [runScan]
    cases hopen : openFile world.tree path with
    | error message => rfl
    | ok file =>
      cases hconnect : connect settings with
      | error message => rfl
      | ok client => exact absurd hconnect (hnone file client hopen)

end Commands

/-- The scan whose progress a run shows. If the attempt is shown as JSON, its progress is not. -/
def shownScan? (world : World) (arguments : List Argument) :
    Option (ScanFile × Scan Http.Network) :=
  match Invocation.parse world.environment arguments with
  | .ok ⟨url, .scan path false⟩ =>
    scanOf? world { (Settings.ofEnvironment world.environment).1 with baseUrl := url } path
  | _ => none

section Runs

variable {world : World} {arguments : List Argument}

theorem run_of_parse {invocation : Invocation} (looks : Nat → Bool)
    (h : Invocation.parse world.environment arguments = .ok invocation) :
    run { world with looks } arguments = runInvocation { world with looks } invocation := by
  rw [run, h]

theorem run_of_refusal {refusal : Refusal} (looks : Nat → Bool)
    (h : Invocation.parse world.environment arguments = .error refusal) :
    run { world with looks } arguments = refuse world refusal := by
  rw [run, h]
  cases refusal <;> rfl

/-- A run shows what the command shows. -/
theorem output_run_scan {url path : String} {json : Bool} (looks : Nat → Bool)
    (h : Invocation.parse world.environment arguments = .ok ⟨url, .scan path json⟩) :
    (run { world with looks } arguments).output =
      (runScan { world with looks }
        { (Settings.ofEnvironment world.environment).1 with baseUrl := url } path json).output := by
  rw [run_of_parse looks h]
  rfl

theorem output_run_other {invocation : Invocation} (looks : Nat → Bool)
    (h : Invocation.parse world.environment arguments = .ok invocation)
    (hother : ∀ path json, invocation.command ≠ .scan path json) :
    (run { world with looks } arguments).output = (run world arguments).output := by
  rw [run_of_parse looks h, run_of_parse world.looks h]
  simp only [runInvocation, runCommand_of_other world _ _ hother]

theorem runInvocation_looks (looks : Nat → Bool) (invocation : Invocation) :
    runInvocation { world with looks } invocation =
      { runInvocation world invocation with
        output := (runInvocation { world with looks } invocation).output } := by
  simp only [runInvocation]
  rw [runCommand_looks]
  rfl

theorem run_looks_same (looks : Nat → Bool) :
    run { world with looks } arguments =
      { run world arguments with output := (run { world with looks } arguments).output } := by
  cases h : Invocation.parse world.environment arguments with
  | error refusal => rw [run_of_refusal looks h, run_of_refusal world.looks h]
  | ok invocation =>
    rw [run_of_parse looks h, run_of_parse world.looks h]
    exact runInvocation_looks looks invocation

/-- A scan that is shown is one of those whose lines have been compared. -/
theorem exists_run_of_shownScan {file : ScanFile} {scan : Scan Http.Network}
    (h : shownScan? world arguments = some (file, scan)) :
    (∃ (client : Http.Client) (rules : Rules),
      scan = Scan.run client.service world.tree rules file (.fresh 0 rules.policy.maxAttempts)
        world.network) ∧
    ∀ looks, (run { world with looks } arguments).output =
      scanLines false file (glimpsed looks (publications scan.effects)) scan.attempt := by
  unfold shownScan? at h
  split at h
  next url path hparse =>
    refine ⟨?_, fun looks => ?_⟩
    · unfold scanOf? at h
      split at h
      next client _ _ =>
        cases h
        exact ⟨client, _, rfl⟩
      next => cases h
    · rw [output_run_scan looks hparse]
      exact output_of_scanOf world _ path looks h false
  next => cases h

/-- What is shown without a look at the progress of a scan does not depend on looks. -/
theorem output_of_no_shownScan (h : shownScan? world arguments = none) (looks : Nat → Bool) :
    (run { world with looks } arguments).output = (run world arguments).output := by
  cases hparse : Invocation.parse world.environment arguments with
  | error refusal => rw [run_of_refusal looks hparse, run_of_refusal world.looks hparse]
  | ok invocation =>
    obtain ⟨url, command⟩ := invocation
    let settings := { (Settings.ofEnvironment world.environment).1 with baseUrl := url }
    cases command with
    | scan path json =>
      rw [output_run_scan looks hparse, output_run_scan world.looks hparse]
      cases hscan : scanOf? world settings path with
      | none =>
        rw [output_of_no_scan world settings path looks hscan,
          output_of_no_scan world settings path world.looks hscan]
      | some shown =>
        obtain ⟨file, scan⟩ := shown
        rw [output_of_scanOf world settings path looks hscan,
          output_of_scanOf world settings path world.looks hscan]
        cases json with
        | true => rfl
        | false =>
          rw [shownScan?, hparse] at h
          cases hscan.symm.trans h
    | validate path => exact output_run_other looks hparse fun _ _ h => nomatch h
    | health => exact output_run_other looks hparse fun _ _ h => nomatch h
    | modelInfo => exact output_run_other looks hparse fun _ _ h => nomatch h

end Runs

/-! ## The main result -/

/-- When the progress of a scan is looked at changes neither how a run ends nor what it says of
errors and asks of the service. It changes nothing of what is shown either, with one exception: a
scan shown in text of which an upload has left no trace. -/
theorem run_looks (world : World) (arguments : List Argument) :
    (∀ looks, let other := run { world with looks } arguments
      other.exit = (run world arguments).exit ∧ other.errors = (run world arguments).errors ∧
        other.network = (run world arguments).network) ∧
    ((∀ looks, (run { world with looks } arguments).output = (run world arguments).output) ↔
      ∀ file scan, shownScan? world arguments = some (file, scan) → scan.Traced) := by
  refine ⟨fun looks => ?_, fun hsame file scan hscan => ?_, fun htraced looks => ?_⟩
  · intro other
    have hother : other = { run world arguments with output := other.output } :=
      run_looks_same looks
    rw [hother]
    exact ⟨rfl, rfl, rfl⟩
  · obtain ⟨⟨client, rules, hrun⟩, houtput⟩ := exists_run_of_shownScan hscan
    obtain ⟨_, hlost⟩ := Scan.lines_of_run client.service world.tree rules file world.network
    rw [← hrun] at hlost
    -- of an upload without a trace there is a line more if every value is looked at
    refine Classical.byContradiction fun untraced => ?_
    obtain ⟨hlast, hall⟩ := hlost untraced
    have hlengths := congrArg List.length
      ((hsame fun _ => true).trans (hsame fun _ => false).symm)
    rw [houtput, houtput, glimpsed_all, glimpsed_none] at hlengths
    simp only [scanLines, Bool.false_eq_true, if_false, List.length_append, List.length_map, hall,
      List.nil_append, hlast, List.length_cons, List.length_nil] at hlengths
    omega
  · cases hshown : shownScan? world arguments with
    | none => exact output_of_no_shownScan hshown looks
    | some shown =>
      obtain ⟨file, scan⟩ := shown
      obtain ⟨⟨client, rules, hrun⟩, houtput⟩ := exists_run_of_shownScan hshown
      obtain ⟨hkept, _⟩ := Scan.lines_of_run client.service world.tree rules file world.network
      rw [← hrun] at hkept
      have hlines := hkept (htraced file scan hshown)
      rw [houtput looks, show (run world arguments).output = _ from houtput world.looks]
      simp only [scanLines, Bool.false_eq_true, if_false, hlines _ (glimpsed_subset _ _)]

end Cli

end ScanClient
