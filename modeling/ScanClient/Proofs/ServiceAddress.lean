import Mathlib
import ScanClient.Proofs.BaseAddresses
import ScanClient.Proofs.ExitCode

/-!
# The address of the service

A command line need not tell where the service is, and then the environment does. The program and
the settings look for it in the same variable. They agree on it wherever the variable is set to text
that says something. They differ where it does not: the settings count a blank text as no address and
take the usual one, and the program takes the blank text.
-/

namespace ScanClient

theorem Environment.text?_of_bytes? {env : Environment} {name : String} {bytes : List UInt8}
    (h : env.bytes? name = some bytes) : env.text? name = Text.Utf8.decode? bytes := by
  rw [Environment.text?, h]
  rfl

/-- A blank address is none. -/
theorem Http.Client.new_of_isBlankText {url : String} (h : Text.isBlankText url = true)
    (timeout : Nat) : Client.new url timeout = .error (.config missingBase) := by
  apply Client.new_of_empty
  rw [normalizeBase, Text.trimChars_of_isBlank h]
  rfl

namespace Settings

theorem baseUrl_ofEnvironment (env : Environment) :
    (ofEnvironment env).1.baseUrl =
      ((env.text? "CYBERGUARD_API_URL").filter fun url => !Text.isBlankText url).getD
        defaultBaseUrl := rfl

theorem baseUrl_of_none {env : Environment} (h : env.text? "CYBERGUARD_API_URL" = none) :
    (ofEnvironment env).1.baseUrl = defaultBaseUrl := by
  rw [baseUrl_ofEnvironment, h]
  rfl

theorem baseUrl_of_some {env : Environment} {text : String}
    (h : env.text? "CYBERGUARD_API_URL" = some text) :
    (ofEnvironment env).1.baseUrl = if Text.isBlankText text then defaultBaseUrl else text := by
  rw [baseUrl_ofEnvironment, h, Option.filter_some]
  cases Text.isBlankText text <;> rfl

end Settings

namespace Cli

/-! ## Command lines that do not tell the address -/

/-- Whether a command line begins with the option for the address. Anywhere else that is no such
option. -/
def beginsWithUrl : List Argument → Bool
  | [] => false
  | argument :: _ =>
    match Word.ofArgument argument with
    | .long name _ => isNamed name "url"
    | _ => false

namespace Head

section

variable {α : Type} (head : Head) (env : Environment) (result : α)

theorem withoutCommand_ne_ok : head.withoutCommand env ≠ .ok result := by
  intro h
  obtain ⟨settled, _, h⟩ := bind_eq_ok.mp h
  obtain ⟨address, _, h⟩ := bind_eq_ok.mp h
  split at h
  · cases h
  · cases h

theorem takeOther_ne_ok (name : Argument) (value : Option Argument) :
    head.takeOther name value ≠ .ok result := by
  intro h
  unfold takeOther at h
  cases value with
  | some v =>
    -- neither option takes a value
    simp only at h
    split at h
    · cases h
    · split at h
      · cases h
      · cases h
  | none =>
    -- help and the version are answered, but lead to no command
    simp only at h
    split at h
    · obtain ⟨_, _, h⟩ := bind_eq_ok.mp h
      cases h
    · split at h
      · obtain ⟨_, _, h⟩ := bind_eq_ok.mp h
        cases h
      · cases h

theorem takeShort_ne_ok (letters : Argument) : head.takeShort letters ≠ .ok result := by
  intro h
  unfold takeShort at h
  split at h
  · obtain ⟨_, _, h⟩ := bind_eq_ok.mp h
    cases h
  · obtain ⟨_, _, h⟩ := bind_eq_ok.mp h
    cases h
  · cases h

theorem afterSeparator_ne_ok (arguments : List Argument) :
    head.afterSeparator env arguments ≠ .ok result := by
  cases arguments with
  | nil => exact head.withoutCommand_ne_ok env result
  | cons argument rest =>
    intro h
    simp only [afterSeparator] at h
    split at h
    · cases h
    · cases h

end

/-- What an environment says of the address comes in only when all arguments have been read. -/
theorem invoke_empty (env : Environment) (topic : Topic) (arguments : List Argument) :
    empty.invoke env topic arguments =
      (readCommand topic arguments).bind fun command =>
        (empty.address env).map fun url => ⟨url, command⟩ := by
  unfold invoke
  cases readCommand topic arguments with
  | error refusal => rfl
  | ok command =>
    show (do pure (⟨← empty.address env, command⟩ : Invocation)) =
      (empty.address env).map fun url => ⟨url, command⟩
    cases empty.address env <;> rfl

theorem readCommand_of_invoke {env : Environment} {topic : Topic} {arguments : List Argument}
    {url : String} {command : Command}
    (h : empty.invoke env topic arguments = .ok ⟨url, command⟩) :
    readCommand topic arguments = .ok command := by
  rw [invoke_empty] at h
  obtain ⟨read, hread, h⟩ := bind_eq_ok.mp h
  cases haddress : empty.address env with
  | error refusal =>
    rw [haddress] at h
    cases h
  | ok address =>
    rw [haddress] at h
    cases h
    exact hread

end Head

/-- A command line without an address that is read in one environment is read in every other, if only
the address from there can be read. -/
theorem parse_of_parse {arguments : List Argument} (hurl : beginsWithUrl arguments = false)
    {env : Environment} {url : String} {command : Command}
    (h : Invocation.parse env arguments = .ok ⟨url, command⟩) (other : Environment) :
    Invocation.parse other arguments =
      (Head.empty.address other).map fun url => ⟨url, command⟩ := by
  unfold Invocation.parse at h ⊢
  cases arguments with
  | nil => exact absurd h (Head.withoutCommand_ne_ok _ _ _)
  | cons argument rest =>
    simp only [Head.read, beginsWithUrl] at h hurl ⊢
    cases hword : Word.ofArgument argument with
    | separator =>
      simp only [hword] at h
      exact absurd h (Head.afterSeparator_ne_ok _ _ _ _)
    | long name value =>
      simp only [hword] at h hurl
      rw [if_neg (Bool.eq_false_iff.mp hurl)] at h
      exact absurd h (Head.takeOther_ne_ok _ _ _ _)
    | short letters =>
      simp only [hword] at h
      exact absurd h (Head.takeShort_ne_ok _ _ _)
    | plain =>
      simp only [hword] at h ⊢
      rw [if_neg (by decide)] at h ⊢
      cases htopic : topicOf argument with
      | none =>
        rw [htopic] at h
        cases h
      | some topic =>
        simp only [htopic] at h ⊢
        rw [Head.invoke_empty, Head.readCommand_of_invoke h]
        rfl

/-! ## The main result -/

/-- A command line does not tell the address of the service, and some environment reads it. Where the
variable for the address is not set, both the program and the settings have the usual address; where
it is set to a text that is not blank, both have this text. Where it is blank, the program has the
blank text, with which there is no client, and the settings have the usual address. Where it is no
text, the settings have the usual address, and the program refuses the command line. -/
theorem service_address {arguments : List Argument} (hurl : beginsWithUrl arguments = false)
    {readable : Environment} {someUrl : String} {command : Command}
    (hread : Invocation.parse readable arguments = .ok ⟨someUrl, command⟩) (env : Environment) :
    let settings := (Settings.ofEnvironment env).1
    (env.bytes? "CYBERGUARD_API_URL" = none →
      settings.baseUrl = "http://127.0.0.1:8000/api" ∧
        Invocation.parse env arguments = .ok ⟨settings.baseUrl, command⟩) ∧
    ∀ bytes, env.bytes? "CYBERGUARD_API_URL" = some bytes →
      (∀ text, Text.Utf8.decode? bytes = some text → Text.isBlankText text = false →
        settings.baseUrl = text ∧
          Invocation.parse env arguments = .ok ⟨settings.baseUrl, command⟩) ∧
      (∀ text, Text.Utf8.decode? bytes = some text → Text.isBlankText text = true →
        settings.baseUrl = "http://127.0.0.1:8000/api" ∧
          Invocation.parse env arguments = .ok ⟨text, command⟩ ∧
          connect { settings with baseUrl := text } =
            .error ("invalid scan service configuration: " ++
              fullMessage (.config Http.missingBase))) ∧
      (Text.Utf8.decode? bytes = none →
        settings.baseUrl = "http://127.0.0.1:8000/api" ∧
          Invocation.parse env arguments = .error (.misused .malformedText)) := by
  intro settings
  have hparse := parse_of_parse hurl hread env
  refine ⟨fun hnone => ?_, fun bytes hbytes => ?_⟩
  · have htext : env.text? "CYBERGUARD_API_URL" = none := by
      rw [Environment.text?, hnone]
      rfl
    have hbase : settings.baseUrl = Settings.defaultBaseUrl := Settings.baseUrl_of_none htext
    have haddress : Head.empty.address env = .ok settings.baseUrl := by
      rw [Head.address, hnone, hbase]
      rfl
    exact ⟨hbase, by rw [hparse, haddress]; rfl⟩
  · have hdecode := Environment.text?_of_bytes? hbytes
    have haddress : Head.empty.address env = requireText bytes := by
      rw [Head.address, hbytes]
      rfl
    rw [haddress] at hparse
    refine ⟨fun text htext hblank => ?_, fun text htext hblank => ?_, fun hbad => ?_⟩
    · have hbase : settings.baseUrl = text := by
        rw [Settings.baseUrl_of_some (hdecode.trans htext), hblank]
        rfl
      rw [requireText, htext] at hparse
      exact ⟨hbase, by rw [hparse, hbase]; rfl⟩
    · have hbase : settings.baseUrl = Settings.defaultBaseUrl := by
        rw [Settings.baseUrl_of_some (hdecode.trans htext), hblank]
        rfl
      rw [requireText, htext] at hparse
      refine ⟨hbase, hparse, ?_⟩
      rw [connect, Http.Client.new_of_isBlankText hblank]
      rfl
    · rw [requireText, hbad] at hparse
      exact ⟨Settings.baseUrl_of_none (hdecode.trans hbad), hparse⟩

/-- An environment in which only the address is set. -/
def addressed (url : String) : Environment :=
  ⟨[("CYBERGUARD_API_URL", Text.Utf8.encodeText url)]⟩

theorem parse_health :
    Invocation.parse ⟨[]⟩ (argumentsOf ["health"]) = .ok ⟨Settings.defaultBaseUrl, .health⟩ := by
  rfl

/-- It is so of a command line that asks for the health of the service. -/
theorem health_address :
    Invocation.parse (addressed "http://a") (argumentsOf ["health"]) = .ok ⟨"http://a", .health⟩ ∧
      (Settings.ofEnvironment (addressed "http://a")).1.baseUrl = "http://a" := by
  have hurl : beginsWithUrl (argumentsOf ["health"]) = false := rfl
  obtain ⟨_, hset⟩ := service_address hurl parse_health (addressed "http://a")
  obtain ⟨hbase, hparse⟩ := (hset _ rfl).1 "http://a" (by decide +kernel) rfl
  rw [hbase] at hparse
  exact ⟨hparse, hbase⟩

/-- A blank address: the program takes it, and the settings do not. -/
theorem blank_address :
    Invocation.parse (addressed " ") (argumentsOf ["health"]) = .ok ⟨" ", .health⟩ ∧
      (Settings.ofEnvironment (addressed " ")).1.baseUrl = "http://127.0.0.1:8000/api" := by
  constructor
  · rfl
  · rfl

end Cli

end ScanClient
