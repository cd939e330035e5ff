import ScanClient.Proofs.ScanIdentifier
import ScanClient.Proofs.StatusField

/-!
# Answers of the service

The status of an answer is looked at before its body. If it is no success, the status is all that
is reported, and the body may say what it likes. Otherwise the answer is what its text means, however
that is spelt, or an error if it means nothing. Only an upload may be answered with a blank. Only a
check of health takes one error for an answer, and no body for an error.
-/

namespace ScanClient

open Json

/-! ## What is read of a text -/

namespace Json

/-- The value of a form, as deep as brackets may nest. -/
def Form.document? (form : Form) : Option Value := form.value? maxDepth

theorem parse_iff_holds {text : String} {v : Value} :
    parse text = .ok v ↔ Holds Form.document? text v :=
  readAll_iff_holds (interprets_readValue maxDepth) (accepts_readValue maxDepth)

end Json

namespace Response

/-! ## What tells a response -/

/-- The names of the fields, in order. -/
def names : List String :=
  ["status", "id", "filename", "is_malicious", "malicious_probability", "scan_date", "error"]

/-- What the forms that its name is given tell of the status: it is unknown if there is none, and
otherwise what the one form stands for, which has to be a value. -/
inductive StatusOf : List Form → ScanStatus → Prop where
  | missing : StatusOf [] .unknown
  | value {form : Form} (h : form.isReadable (maxDepth - 1) = true) : StatusOf [form] form.status

/-- Each field is what its own name is given. -/
structure FieldsOf (given : String → List Form) (r : Response) : Prop where
  status : StatusOf (given "status") r.status
  id : Optionally Form.text? (given "id") r.id
  filename : Optionally Form.text? (given "filename") r.filename
  isMalicious : Optionally Form.boolean? (given "is_malicious") r.isMalicious
  probability : Optionally Form.double? (given "malicious_probability") r.probability
  scanDate : Optionally Form.text? (given "scan_date") r.scanDate
  error : Optionally Form.text? (given "error") r.error

/-- A form tells a response, field by field. -/
def ToldBy (r : Response) (form : Form) : Prop := ∃ given, form.Gives names given ∧ r.FieldsOf given

/-- What a form stands for as a status. -/
def statusMeaning (form : Form) : Option ScanStatus :=
  (form.value? (maxDepth - 1)).map ScanStatus.ofValue

theorem statusMeaning_eq_some {form : Form} {status : ScanStatus} :
    statusMeaning form = some status ↔
      form.isReadable (maxDepth - 1) = true ∧ form.status = status := by
  rw [statusMeaning, Option.map_eq_some_iff, ← isSome_value?, Option.isSome_iff_exists]
  constructor
  · rintro ⟨v, hv, rfl⟩
    exact ⟨⟨v, hv⟩, (ofValue_of_value? hv).symm⟩
  · rintro ⟨⟨v, hv⟩, rfl⟩
    exact ⟨v, hv, ofValue_of_value? hv⟩

theorem statusOf_iff {forms : List Form} {status : ScanStatus} :
    StatusOf forms status ↔
      ∃ kept, once statusMeaning none forms = some kept ∧ kept.getD .unknown = status := by
  constructor
  · intro h
    cases h with
    | missing => exact ⟨none, rfl, rfl⟩
    | @value form h =>
      refine ⟨some form.status, ?_, rfl⟩
      exact once_cons_eq_some.mpr ⟨rfl, rfl, _, statusMeaning_eq_some.mpr ⟨h, rfl⟩, rfl⟩
  · rintro ⟨kept, honce, rfl⟩
    cases forms with
    | nil =>
      cases honce
      exact .missing
    | cons form forms =>
      obtain ⟨_, rfl, status, hstatus, rfl⟩ := once_cons_eq_some.mp honce
      obtain ⟨h, rfl⟩ := statusMeaning_eq_some.mp hstatus
      exact .value h

/-- Each field has a place of its own in a draft. -/
theorem kept_asked :
    Kept asked "status" statusMeaning Draft.status ∧
    Kept asked "id" (Form.optional Form.text?) Draft.id ∧
    Kept asked "filename" (Form.optional Form.text?) Draft.filename ∧
    Kept asked "is_malicious" (Form.optional Form.boolean?) Draft.isMalicious ∧
    Kept asked "malicious_probability" (Form.optional Form.double?) Draft.probability ∧
    Kept asked "scan_date" (Form.optional Form.text?) Draft.scanDate ∧
    Kept asked "error" (Form.optional Form.text?) Draft.error := by
  refine ⟨?_, ?_, ?_, ?_, ?_, ?_, ?_⟩
  all_goals
    refine ⟨by decide, ?_⟩
    simp only [asked, List.forall_mem_cons]
    refine ⟨?_, ?_, ?_, ?_, ?_, ?_, ?_, List.forall_mem_nil _⟩
  -- a field puts its value where a draft keeps it, and changes nothing elsewhere
  all_goals first
    | exact .own rfl (Asked.puts_of fun _ _ => rfl)
    | exact .other (by decide) (Asked.leaves_of fun _ _ => rfl)

theorem nodup_names : (asked.map (·.field.name)).Nodup := by decide

/-- A draft is complete as the response that the names of its fields tell. -/
theorem fieldsOf_iff {form : Form} {given : String → List Form} {d : Draft}
    (drafts : Drafts asked {} form d) (gives : form.Gives names given) {r : Response} :
    r.FieldsOf given ↔ d.complete = r := by
  obtain ⟨kstatus, kid, kfilename, kmalicious, kprobability, kdate, kerror⟩ := kept_asked
  have hstatus (status : ScanStatus) :
      StatusOf (given "status") status ↔ d.status.getD .unknown = status := by
    rw [statusOf_iff, kstatus.get_drafts nodup_names rfl drafts gives]
    simp only [Option.some.injEq, exists_eq_left']
  have hid := kid.optionally_iff nodup_names rfl drafts gives rfl
  have hfilename := kfilename.optionally_iff nodup_names rfl drafts gives rfl
  have hmalicious := kmalicious.optionally_iff nodup_names rfl drafts gives rfl
  have hprobability := kprobability.optionally_iff nodup_names rfl drafts gives rfl
  have hdate := kdate.optionally_iff nodup_names rfl drafts gives rfl
  have herror := kerror.optionally_iff nodup_names rfl drafts gives rfl
  constructor
  · intro h
    obtain ⟨status, id, filename, isMalicious, probability, scanDate, error⟩ := r
    simp only [Draft.complete, Response.mk.injEq]
    exact ⟨(hstatus _).mp h.status, (hid _).mp h.id, (hfilename _).mp h.filename,
      (hmalicious _).mp h.isMalicious, (hprobability _).mp h.probability,
      (hdate _).mp h.scanDate, (herror _).mp h.error⟩
  · rintro rfl
    exact ⟨(hstatus _).mpr rfl, (hid _).mpr rfl, (hfilename _).mpr rfl, (hmalicious _).mpr rfl,
      (hprobability _).mpr rfl, (hdate _).mpr rfl, (herror _).mpr rfl⟩

/-- A form is read as the response that it tells. -/
theorem meaning_iff_toldBy {form : Form} {r : Response} :
    shape.meaning asked form = some r ↔ r.ToldBy form := by
  rw [shape.meaning_eq_some Draft.complete (fun _ => rfl) fun _ _ => rfl]
  constructor
  · rintro ⟨d, drafts, rfl⟩
    obtain ⟨given, gives⟩ := drafts.exists_gives
    exact ⟨given, gives, (fieldsOf_iff drafts gives).mpr rfl⟩
  · rintro ⟨given, gives, fields⟩
    obtain ⟨kstatus, kid, kfilename, kmalicious, kprobability, kdate, kerror⟩ := kept_asked
    have hstatus : Readable asked {} "status" (given "status") := by
      obtain ⟨_, honce, _⟩ := statusOf_iff.mp fields.status
      exact ⟨_, _, _, kstatus, Option.isSome_of_eq_some honce⟩
    have hreadable : ∀ name ∈ asked.map (·.field.name), Readable asked {} name (given name) := by
      show ∀ name ∈ names, _
      simp only [names, List.forall_mem_cons]
      exact ⟨hstatus, kid.readable rfl rfl fields.id, kfilename.readable rfl rfl fields.filename,
        kmalicious.readable rfl rfl fields.isMalicious,
        kprobability.readable rfl rfl fields.probability, kdate.readable rfl rfl fields.scanDate,
        kerror.readable rfl rfl fields.error, List.forall_mem_nil _⟩
    obtain ⟨d, drafts⟩ := exists_drafts nodup_names gives hreadable
    exact ⟨d, drafts, (fieldsOf_iff drafts gives).mp fields⟩

/-- A text tells the response that its form tells. -/
def Tells (text : String) (r : Response) : Prop := ∃ form, IsText text form ∧ r.ToldBy form

theorem parse_iff_tells {text : String} {r : Response} : parse text = .ok r ↔ Tells text r :=
  (readAll_iff_holds (interprets_readRecord shape fields_eq)
    (accepts_readRecord shape fields_eq)).trans
    (exists_congr fun _ => and_congr_right fun _ => meaning_iff_toldBy)

end Response

namespace Http

/-! ## Status codes -/

def Succeeds (status : Nat) : Prop := 200 ≤ status ∧ status < 300

theorem succeeds_ok : Succeeds 200 := ⟨Nat.le_refl 200, by decide⟩

theorem isSuccess_iff {status : Nat} : isSuccess status = true ↔ Succeeds status := by
  simp [isSuccess, Succeeds]

theorem isSuccess_eq_false {status : Nat} (h : ¬Succeeds status) : isSuccess status = false :=
  Bool.eq_false_iff.mpr fun hsuccess => h (isSuccess_iff.mp hsuccess)

/-- The phrase a status is told by is registered for it, or its number if there is none. -/
structure IsPhrase (status : Nat) (phrase : String) : Prop where
  registered : ∀ known, (status, known) ∈ reasonPhrases → phrase = known
  unregistered : (∀ known, (status, known) ∉ reasonPhrases) → phrase = "HTTP " ++ toString status

/-- No status has two phrases. -/
theorem isPhrase_statusText (status : Nat) : IsPhrase status (statusText status) where
  registered := by
    have hall : ∀ entry ∈ reasonPhrases, statusText entry.1 = entry.2 := by decide
    exact fun known hknown => hall _ hknown
  unregistered := by
    intro hnone
    have hlookup : reasonPhrases.lookup status = none := by
      refine List.lookup_eq_none_iff.mpr fun entry hentry => bne_iff_ne.mpr ?_
      rintro rfl
      exact hnone entry.2 hentry
    rw [statusText, hlookup]
    rfl

/-! ## What is made of an answer -/

/-- A call has failed because an answer is no success. -/
def IsRefusal {α : Type} (outcome : Except ScanError α) : Prop :=
  ∃ operation status phrase, outcome = .error (.transport operation status phrase)

/-- The status of an answer is reported, and nothing else of it. -/
def Refuses {α : Type} (operation : String) (answer : Answer)
    (outcome : Except ScanError α) : Prop :=
  ∃ phrase, IsPhrase answer.status phrase ∧
    outcome = .error (.transport operation answer.status phrase)

theorem refuses_transportError {α : Type} (operation : String) (answer : Answer) :
    Refuses operation answer
      (.error (transportError operation answer.status) : Except ScanError α) :=
  ⟨_, isPhrase_statusText _, rfl⟩

/-- The outcome of a call, by what the text of an answer may tell. It depends on the status alone if
that is no success, and otherwise, once the answer has arrived whole, on its text alone. -/
structure Judged {α : Type} (operation : String) (Tells : String → α → Prop) (answer : Answer)
    (outcome : Except ScanError α) : Prop where
  isRefusal_iff : IsRefusal outcome ↔ ¬Succeeds answer.status
  refuses : ¬Succeeds answer.status → Refuses operation answer outcome
  told : Succeeds answer.status → answer.cut = false →
    ∀ a, outcome = .ok a ↔ Tells (Text.Utf8.decodeLossy answer.body) a
  untold : Succeeds answer.status → answer.cut = false →
    (∀ a, ¬Tells (Text.Utf8.decodeLossy answer.body) a) → ∃ fault, outcome = .error (.body fault)

section

variable {answer : Answer} (operation : String)

theorem successText_of_not_succeeds (h : ¬Succeeds answer.status) :
    successText operation (.ok answer) = .error (transportError operation answer.status) := by
  simp only [successText, Except.mapError, bind, Except.bind, isSuccess_eq_false h,
    Bool.false_eq_true, if_false]

theorem successText_of_succeeds (h : Succeeds answer.status) :
    successText operation (.ok answer) = answer.text.mapError .network := by
  simp only [successText, Except.mapError, bind, Except.bind, isSuccess_iff.mpr h, if_true]

theorem successText_of_whole (h : Succeeds answer.status) (hcut : answer.cut = false) :
    successText operation (.ok answer) = .ok (Text.Utf8.decodeLossy answer.body) := by
  rw [successText_of_succeeds operation h, Answer.text, hcut]
  rfl

theorem successText_of_cut (h : Succeeds answer.status) (hcut : answer.cut = true) :
    successText operation (.ok answer) = .error (.network .cutBody) := by
  rw [successText_of_succeeds operation h, Answer.text, hcut]
  rfl

variable {α : Type} {Tells : String → α → Prop} {read : String → Except ScanError α}
  (hfault : ∀ text e, read text = .error e → ∃ fault, e = .body fault)

include hfault

/-- What a text does not tell is not held against the status. -/
theorem isRefusal_iff_of_read (answer : Answer) :
    IsRefusal (successText operation (.ok answer) >>= read) ↔ ¬Succeeds answer.status := by
  constructor
  · rintro ⟨_, _, _, houtcome⟩ h
    cases hcut : answer.cut with
    | true =>
      rw [successText_of_cut operation h hcut] at houtcome
      cases houtcome
    | false =>
      rw [successText_of_whole operation h hcut] at houtcome
      obtain ⟨fault, hbody⟩ := hfault _ _ houtcome
      cases hbody
  · intro h
    rw [successText_of_not_succeeds operation h]
    exact ⟨_, _, _, rfl⟩

/-- A call judges its answers if what it makes of a text is what the text tells. -/
theorem judged_of_read (hread : ∀ text a, read text = .ok a ↔ Tells text a) (answer : Answer) :
    Judged operation Tells answer (successText operation (.ok answer) >>= read) where
  isRefusal_iff := isRefusal_iff_of_read operation hfault answer
  refuses := by
    intro h
    rw [successText_of_not_succeeds operation h]
    exact refuses_transportError operation answer
  told := by
    intro h hcut a
    rw [successText_of_whole operation h hcut]
    exact hread _ a
  untold := by
    intro h hcut hnone
    rw [successText_of_whole operation h hcut]
    show ∃ fault, read (Text.Utf8.decodeLossy answer.body) = .error (.body fault)
    cases houtcome : read (Text.Utf8.decodeLossy answer.body) with
    | ok a => exact absurd ((hread _ a).mp houtcome) (hnone a)
    | error e =>
      obtain ⟨fault, rfl⟩ := hfault _ e houtcome
      exact ⟨fault, rfl⟩

omit hfault

/-- Most calls only read a text. -/
theorem judged_of_parse {parse : String → Except ReadError α}
    (hparse : ∀ text a, parse text = .ok a ↔ Tells text a) (answer : Answer) :
    Judged operation Tells answer
      (successText operation (.ok answer) >>= fun text => (parse text).mapError .body) :=
  judged_of_read operation (fun _ _ => mapError_eq_error)
    (fun text a => mapError_eq_ok.trans (hparse text a)) answer

end

/-! ## Health -/

/-- The document that a text holds, or null if it holds none. -/
def IsDocument (text : String) (v : Value) : Prop :=
  Holds Form.document? text v ∨ (∀ other, ¬Holds Form.document? text other) ∧ v = .null

theorem isDocument_iff {text : String} {v : Value} :
    IsDocument text v ↔ v = (Json.parse text).toOption.getD .null := by
  simp only [IsDocument, ← Json.parse_iff_holds]
  cases hparse : Json.parse text with
  | ok found =>
    simp only [Except.ok.injEq, forall_eq', false_and, or_false]
    exact eq_comm
  | error fault => simp [Except.toOption]

/-- The outcome of a check of health. That the service is not available is an answer too. -/
structure HealthJudged (answer : Answer) (outcome : Except ScanError Health) : Prop where
  isRefusal_iff : IsRefusal outcome ↔
    ¬Succeeds answer.status ∧ answer.status ≠ serviceUnavailable
  refuses : ¬Succeeds answer.status → answer.status ≠ serviceUnavailable →
    Refuses "Health check" answer outcome
  told : Succeeds answer.status ∨ answer.status = serviceUnavailable → answer.cut = false →
    ∃ health, outcome = .ok health ∧ (health.ok = true ↔ Succeeds answer.status) ∧
      health.code = answer.status ∧
      IsDocument (Text.Utf8.decodeLossy answer.body) health.body

theorem judged_readHealth (answer : Answer) :
    HealthJudged answer (Client.readHealth (.ok answer)) := by
  by_cases h : ¬Succeeds answer.status ∧ answer.status ≠ serviceUnavailable
  · have houtcome : Client.readHealth (.ok answer) =
        .error (transportError "Health check" answer.status) := by
      simp only [Client.readHealth, Except.mapError, bind, Except.bind, isSuccess_eq_false h.1,
        Bool.not_false, true_and]
      exact if_pos h.2
    rw [houtcome]
    exact ⟨⟨fun _ => h, fun _ => ⟨_, _, _, rfl⟩⟩,
      fun _ _ => refuses_transportError "Health check" answer,
      fun hanswer => absurd hanswer (not_or.mpr h)⟩
  · have houtcome : Client.readHealth (.ok answer) =
        answer.text.mapError .network >>= fun text =>
          .ok ⟨isSuccess answer.status, answer.status, (Json.parse text).toOption.getD .null⟩ := by
      have hanswer : ¬((!isSuccess answer.status) = true ∧ answer.status ≠ serviceUnavailable) := by
        rw [Bool.not_eq_true', Bool.eq_false_iff]
        simp only [ne_eq, isSuccess_iff]
        exact h
      simp only [Client.readHealth, Except.mapError, bind, Except.bind]
      exact if_neg hanswer
    rw [houtcome]
    refine ⟨⟨?_, fun hnot => absurd hnot h⟩, fun hnot hother => absurd ⟨hnot, hother⟩ h, ?_⟩
    · rintro ⟨_, _, _, hrefusal⟩
      cases hcut : answer.cut <;> rw [Answer.text, hcut] at hrefusal <;> cases hrefusal
    · intro _ hcut
      rw [Answer.text, hcut]
      exact ⟨_, rfl, isSuccess_iff, rfl, isDocument_iff.mpr rfl⟩

/-! ## The calls -/

namespace Client

variable {client : Client} {network : Network} {answer : Answer}

theorem judged_upload {filename : String} {contents : Blob}
    (hanswer : (network.request client.uploadUrl "POST" userAgent
      (some (filePart filename contents)) client.timeout).1 = .ok answer) :
    Judged "Upload" Receipt.Tells answer (client.upload filename contents network).1 := by
  have houtcome : (client.upload filename contents network).1 =
      successText "Upload" (network.request client.uploadUrl "POST" userAgent
        (some (filePart filename contents)) client.timeout).1 >>= readReceipt := rfl
  rw [houtcome, hanswer]
  exact judged_of_read "Upload" (fun _ _ => exists_fault) (fun _ _ => readReceipt_iff_tells) answer

theorem judged_poll {scanId : String}
    (hanswer : (client.get (client.statusUrl scanId) network).1 = .ok answer) :
    Judged "Status check" Response.Tells answer (client.poll scanId network).1 := by
  have houtcome : (client.poll scanId network).1 =
      successText "Status check" (client.get (client.statusUrl scanId) network).1 >>=
        fun text => (Response.parse text).mapError .body := rfl
  rw [houtcome, hanswer]
  exact judged_of_parse "Status check" (fun _ _ => Response.parse_iff_tells) answer

theorem judged_modelInfo
    (hanswer : (client.get (client.baseUrl ++ "/model-info/") network).1 = .ok answer) :
    Judged "Model info request" (Holds Form.document?) answer (client.modelInfo network).1 := by
  have houtcome : (client.modelInfo network).1 =
      successText "Model info request" (client.get (client.baseUrl ++ "/model-info/") network).1 >>=
        fun text => (Json.parse text).mapError .body := rfl
  rw [houtcome, hanswer]
  exact judged_of_parse "Model info request" (fun _ _ => Json.parse_iff_holds) answer

theorem judged_health
    (hanswer : (client.get (client.baseUrl ++ "/health/") network).1 = .ok answer) :
    HealthJudged answer (client.health network).1 := by
  have houtcome : (client.health network).1 =
      readHealth (client.get (client.baseUrl ++ "/health/") network).1 := rfl
  rw [houtcome, hanswer]
  exact judged_readHealth answer

/-! ### Successes that are whole -/

theorem final_ok : 200 ≤ 200 ∧ 200 ≤ greatestStatus := by decide

theorem hasBody_ok : hasBody 200 = true := by decide

section Whole

variable (htimeout : 0 < client.timeout) (body : String) (rest : List Reply) (sent : List Message)

include htimeout

/-- An upload takes one answer, and what comes of it is the receipt that the body reads as. -/
theorem upload_plain (hbase : client.baseUrl = "http://127.0.0.1:8000/api") (filename : String)
    (contents : Blob) :
    ∃ events message,
      client.service.upload filename contents
          ⟨sampleNetwork.server, plainReply 200 body :: rest, sent⟩ =
        (readReceipt body, events, ⟨sampleNetwork.server, rest, sent ++ [message]⟩) := by
  obtain ⟨message, hrequest⟩ := request_plain (exists_uploadUrl hbase) final_ok hasBody_ok body
    "POST" (some (filePart filename contents)) htimeout rest sent
  refine ⟨[.uploadRequested client.uploadUrl filename contents.size], message, ?_⟩
  simp only [service, upload, hrequest]
  rw [successText_of_whole "Upload" succeeds_ok rfl, Text.Utf8.decodeLossy_encodeText]
  simp only [bind, Except.bind]

/-- Likewise for a poll. -/
theorem poll_plain {scanId : String} (hurl : ∃ url, Url.parse (client.statusUrl scanId) = .ok url ∧
    url.withoutCredentials.isWeb = true ∧ url.withoutCredentials.isNameable = true ∧
    sampleNetwork.server = url.withoutCredentials.destination) :
    ∃ events message,
      client.service.poll scanId ⟨sampleNetwork.server, plainReply 200 body :: rest, sent⟩ =
        ((Response.parse body).mapError .body, events,
          ⟨sampleNetwork.server, rest, sent ++ [message]⟩) := by
  obtain ⟨message, hrequest⟩ := request_plain hurl final_ok hasBody_ok body "GET" none htimeout
    rest sent
  refine ⟨[.statusRequested (client.statusUrl scanId)], message, ?_⟩
  simp only [service, poll, get, hrequest]
  rw [successText_of_whole "Status check" succeeds_ok rfl, Text.Utf8.decodeLossy_encodeText]
  simp only [bind, Except.bind]

end Whole

end Client

/-- A submission that is current fails with the error of an upload. -/
theorem afterUpload_of_refuses {operation : String} {answer : Answer}
    {outcome : Except ScanError Receipt} (refuses : Refuses operation answer outcome)
    (rules : Rules) {task : Task} {a : Attempt} (hcurrent : a.generation = task.generation) :
    ∃ phrase, IsPhrase answer.status phrase ∧
      task.afterUpload rules outcome a =
        task.fail (.transport operation answer.status phrase) a := by
  obtain ⟨phrase, hphrase, rfl⟩ := refuses
  exact ⟨phrase, hphrase, if_neg (not_not_intro hcurrent)⟩

/-- And with that of a poll. -/
theorem afterPoll_of_refuses {operation : String} {answer : Answer}
    {outcome : Except ScanError Response} (refuses : Refuses operation answer outcome)
    (rules : Rules) {task : Task} {a : Attempt} (hcurrent : a.generation = task.generation)
    (scanId : String) (number : Nat) :
    ∃ phrase, IsPhrase answer.status phrase ∧
      task.afterPoll rules scanId number outcome a =
        task.fail (.transport operation answer.status phrase) a := by
  obtain ⟨phrase, hphrase, rfl⟩ := refuses
  exact ⟨phrase, hphrase, if_neg (not_not_intro hcurrent)⟩

/-! ## The main result -/

namespace Client

/-- An upload, a poll and a request for the document on the classifier are judged by the status of
their answer, whatever its body, and by its text only if the status is a success. So is a check of
health, but the status of a service that is not available is an answer there, and no body is an
error. A submission whose upload or poll is answered with any other status than a success fails: the
answer is never taken for a scan that has begun, for a result, or for a scan that is not done. -/
theorem answers_judged (client : Client) (network : Network) (answer : Answer) :
    (∀ filename contents,
      (network.request client.uploadUrl "POST" userAgent (some (filePart filename contents))
        client.timeout).1 = .ok answer →
      Judged "Upload" Receipt.Tells answer (client.upload filename contents network).1 ∧
      (¬Succeeds answer.status → ∀ (rules : Rules) (task : Task) (a : Attempt),
        a.generation = task.generation → ∃ phrase, IsPhrase answer.status phrase ∧
          task.afterUpload rules (client.upload filename contents network).1 a =
            task.fail (.transport "Upload" answer.status phrase) a)) ∧
    (∀ scanId, (client.get (client.statusUrl scanId) network).1 = .ok answer →
      Judged "Status check" Response.Tells answer (client.poll scanId network).1 ∧
      (¬Succeeds answer.status → ∀ (rules : Rules) (task : Task) (number : Nat) (a : Attempt),
        a.generation = task.generation → ∃ phrase, IsPhrase answer.status phrase ∧
          task.afterPoll rules scanId number (client.poll scanId network).1 a =
            task.fail (.transport "Status check" answer.status phrase) a)) ∧
    ((client.get (client.baseUrl ++ "/model-info/") network).1 = .ok answer →
      Judged "Model info request" (Holds Form.document?) answer (client.modelInfo network).1) ∧
    ((client.get (client.baseUrl ++ "/health/") network).1 = .ok answer →
      HealthJudged answer (client.health network).1) := by
  refine ⟨fun filename contents hanswer => ?_, fun scanId hanswer => ?_, judged_modelInfo,
    judged_health⟩
  · have judged := judged_upload hanswer
    exact ⟨judged, fun h rules task a hcurrent =>
      afterUpload_of_refuses (judged.refuses h) rules hcurrent⟩
  · have judged := judged_poll hanswer
    exact ⟨judged, fun h rules task number a hcurrent =>
      afterPoll_of_refuses (judged.refuses h) rules hcurrent scanId number⟩

/-- A page that could be read as a response is not, if it comes with an error. -/
theorem sampleClient_errorPage :
    (∃ r, Response.parse "\x7b\"id\":\"a\"\x7d" = .ok r) ∧
    (sampleClient.poll "a" (replying 404 "\x7b\"id\":\"a\"\x7d")).1 =
      .error (.transport "Status check" 404 "Not Found") ∧
    ∃ health, (sampleClient.health (replying 503 "\x7b\"id\":\"a\"\x7d")).1 = .ok health ∧
      health.ok = false ∧ health.code = 503 := by
  have hpoll : (sampleClient.get (sampleClient.statusUrl "a")
      (replying 404 "\x7b\"id\":\"a\"\x7d")).1 = .ok ⟨404, _, false⟩ :=
    request_replying (exists_url (by decide +kernel)) (by decide) (by decide) _ "GET" none
  have hhealth : (sampleClient.get (sampleClient.baseUrl ++ "/health/")
      (replying 503 "\x7b\"id\":\"a\"\x7d")).1 = .ok ⟨503, _, false⟩ :=
    request_replying (exists_url (by decide +kernel)) (by decide) (by decide) _ "GET" none
  have hnot : ∀ status ≥ 300, ¬Succeeds status := by
    intro status hstatus hsuccess
    exact absurd hsuccess.2 (Nat.not_lt.mpr hstatus)
  refine ⟨⟨_, Response.parse_sample⟩, ?_, ?_⟩
  · obtain ⟨_, hjudged, _⟩ := answers_judged sampleClient _ _
    obtain ⟨phrase, hphrase, houtcome⟩ := (hjudged "a" hpoll).1.refuses (hnot 404 (by decide))
    rw [houtcome, hphrase.registered "Not Found" (by decide)]
  · obtain ⟨_, _, _, hjudged⟩ := answers_judged sampleClient _ _
    obtain ⟨health, houtcome, hok, hcode, _⟩ := (hjudged hhealth).told (.inr rfl) rfl
    refine ⟨health, houtcome, ?_, hcode⟩
    exact Bool.eq_false_iff.mpr fun h => hnot 503 (by decide) (hok.mp h)

end Client

end Http
end ScanClient
