import ScanClient.Proofs.Advance
import ScanClient.Proofs.Encoding
import ScanClient.Proofs.Except
import ScanClient.Proofs.Fields
import ScanClient.Proofs.StatusRequest

/-!
# Scan identifiers

Of the answer to an upload only two kinds of text name a scan: objects in which one member is the
identifier, as a string, and lists of one string. Whatever else an answer holds, the upload has
failed, and not because of the network.
-/

namespace ScanClient

open Json

namespace Receipt

/-! ## What a receipt is read from -/

/-- The fields of a receipt with what they make of a form. -/
def asked : List (Asked (Option (Option String))) :=
  [.of "scan_id" (interprets_readString "a string").optional
    (accepts_readString "a string").optional id fun _ a => some a]

theorem fields_eq : shape.fields = asked.map (·.field) := rfl

/-- A form tells a receipt: its identifier is what the name `scan_id` is given, as a string. -/
def ToldBy (receipt : Receipt) (form : Form) : Prop :=
  ∃ given, form.Gives ["scan_id"] given ∧ Optionally Form.text? (given "scan_id") receipt.scanId

/-- A draft of a receipt is what it keeps for its one field. -/
theorem kept_scanId : Kept asked "scan_id" (Form.optional Form.text?) id where
  mem := List.mem_singleton_self _
  minds := List.forall_mem_singleton.mpr (.own rfl (Asked.puts_of fun _ _ => rfl))

/-- A form is read as the receipt that it tells. -/
theorem meaning_iff_toldBy {form : Form} {receipt : Receipt} :
    shape.meaning asked form = some receipt ↔ receipt.ToldBy form := by
  have hnodup : (asked.map (·.field.name)).Nodup := List.nodup_singleton _
  rw [shape.meaning_eq_some (fun d => ⟨d.getD none⟩) (fun _ => rfl) fun _ _ => rfl]
  constructor
  · rintro ⟨d, drafts, rfl⟩
    obtain ⟨given, gives⟩ := drafts.exists_gives
    exact ⟨given, gives, (kept_scanId.optionally_iff hnodup rfl drafts gives rfl _).mpr rfl⟩
  · rintro ⟨given, gives, told⟩
    have hreadable : ∀ name ∈ asked.map (·.field.name), Readable asked none name (given name) :=
      List.forall_mem_singleton.mpr (kept_scanId.readable rfl rfl told)
    obtain ⟨d, drafts⟩ := exists_drafts hnodup gives hreadable
    refine ⟨d, drafts, ?_⟩
    exact congrArg mk ((kept_scanId.optionally_iff hnodup rfl drafts gives rfl _).mp told)

theorem parse_iff_toldBy {text : String} {receipt : Receipt} :
    parse text = .ok receipt ↔ ∃ form, IsText text form ∧ receipt.ToldBy form :=
  (readAll_iff_holds (interprets_readRecord shape fields_eq)
    (accepts_readRecord shape fields_eq)).trans
    (exists_congr fun _ => and_congr_right fun _ => meaning_iff_toldBy)

/-- A form that names a scan: an object in which one member is its identifier and all keys stand for
texts, whatever the other members are, or a list of the identifier alone. -/
inductive NamesScan (scanId : String) : Form → Prop where
  | object {members : List (List Piece × Form)} {pieces : List Piece}
      (hkeys : ∀ member ∈ members, (Piece.text? member.1).isSome = true)
      (hvalues : valuesOf "scan_id" members = [.string pieces])
      (hid : Piece.text? pieces = some scanId) : NamesScan scanId (.object members)
  | list {pieces : List Piece} (hid : Piece.text? pieces = some scanId) :
      NamesScan scanId (.array [.string pieces])

theorem optionally_text_iff {forms : List Form} {scanId : String} :
    Optionally Form.text? forms (some scanId) ↔
      ∃ pieces, forms = [.string pieces] ∧ Piece.text? pieces = some scanId := by
  constructor
  · intro h
    cases h with
    | @value form _ h =>
      cases form with
      | string pieces => exact ⟨pieces, rfl, h⟩
      | _ => cases h
  · rintro ⟨pieces, rfl, hid⟩
    exact .value hid

theorem toldBy_iff_namesScan {form : Form} {scanId : String} :
    ToldBy ⟨some scanId⟩ form ↔ NamesScan scanId form := by
  unfold ToldBy
  simp only [optionally_text_iff]
  constructor
  · rintro ⟨given, gives, pieces, hgiven, hid⟩
    cases gives with
    | object hkeys => exact .object hkeys hgiven hid
    | @list forms hlength =>
      -- there is no more than one element, and that is the identifier
      cases forms with
      | nil => cases hgiven
      | cons form forms =>
        obtain rfl : forms = [] :=
          List.eq_nil_of_length_eq_zero (Nat.le_zero.mp (Nat.le_of_succ_le_succ hlength))
        obtain rfl : form = .string pieces := (List.cons.inj hgiven).1
        exact .list hid
  · intro names
    cases names with
    | object hkeys hvalues hid => exact ⟨_, .object hkeys, _, hvalues, hid⟩
    | list hid => exact ⟨_, .list (Nat.le_refl 1), _, rfl, hid⟩

/-- A text is read as a receipt with an identifier if it names a scan by it. -/
theorem parse_eq_ok_iff {text scanId : String} :
    parse text = .ok ⟨some scanId⟩ ↔ ∃ form, IsText text form ∧ NamesScan scanId form :=
  parse_iff_toldBy.trans (exists_congr fun _ => and_congr_right fun _ => toldBy_iff_namesScan)

/-- No value begins with a blank of any kind. -/
theorem isBlank_of_beginsWith {form : Form} {c : Char} (h : form.BeginsWith c) :
    Text.isBlank c = false := by
  cases form with
  | boolean b => cases b <;> cases h <;> decide
  | number n =>
    rcases h with rfl | hdigit
    · decide
    · simp only [Char.isDigit, Bool.and_eq_true, decide_eq_true_eq,
        UInt32.le_iff_toNat_le] at hdigit
      have hleast : 48 ≤ c.toNat := hdigit.1
      have hgreatest : c.toNat ≤ 57 := hdigit.2
      -- the digits are between two runs of blanks
      simp only [Text.isBlank, Text.blankRanges, List.any_cons, List.any_nil, Bool.or_false]
      grind
  | _ => cases h; decide

/-- A text that holds anything is not blank. -/
theorem not_isBlankText {text : String} {form : Form} (htext : IsText text form) :
    Text.isBlankText text = false := by
  obtain ⟨before, chars, after, _, _, hspells, htext⟩ := htext
  obtain ⟨c, more, rfl, hc⟩ := hspells.begins
  refine List.all_eq_false.mpr ⟨c, ?_, Bool.eq_false_iff.mp (isBlank_of_beginsWith hc)⟩
  rw [htext]
  exact List.mem_append_right _ (List.mem_append_left _ List.mem_cons_self)

/-- What a text tells as a receipt. A blank one tells that there is no identifier. -/
def Tells (text : String) (receipt : Receipt) : Prop :=
  Text.isBlankText text = true ∧ receipt = ⟨none⟩ ∨ ∃ form, IsText text form ∧ receipt.ToldBy form

theorem usableId_eq_some_iff {receipt : Receipt} {scanId : String} :
    receipt.usableId = some scanId ↔
      receipt = ⟨some scanId⟩ ∧ Text.isBlankText scanId = false := by
  obtain ⟨given⟩ := receipt
  simp only [usableId, Option.filter_eq_some_iff, Receipt.mk.injEq, Bool.not_eq_true']

end Receipt

/-! ## The main result -/

namespace Http.Client

theorem readReceipt_iff_tells {text : String} {receipt : Receipt} :
    readReceipt text = .ok receipt ↔ Receipt.Tells text receipt := by
  unfold readReceipt Receipt.Tells
  split
  next hblank =>
    -- a blank text has no form
    have hnot : ¬∃ form, IsText text form ∧ receipt.ToldBy form := by
      rintro ⟨form, htext, _⟩
      rw [Receipt.not_isBlankText htext] at hblank
      cases hblank
    simp only [hblank, hnot, true_and, or_false, Except.ok.injEq]
    exact eq_comm
  next hblank =>
    simp only [hblank, Bool.false_eq_true, false_and, false_or]
    rw [mapError_eq_ok, Receipt.parse_iff_toldBy]

/-- The receipt of a body has a usable identifier if the body names a scan by it. -/
theorem readReceipt_iff {text scanId : String} :
    (∃ receipt, readReceipt text = .ok receipt ∧ receipt.usableId = some scanId) ↔
      Text.isBlankText scanId = false ∧
        ∃ form, IsText text form ∧ Receipt.NamesScan scanId form := by
  simp only [readReceipt_iff_tells, Receipt.usableId_eq_some_iff]
  rw [← Receipt.parse_eq_ok_iff, Receipt.parse_iff_toldBy]
  constructor
  · rintro ⟨receipt, tells, rfl, hblank⟩
    rcases tells with ⟨_, hnone⟩ | holds
    · cases hnone
    · exact ⟨hblank, holds⟩
  · rintro ⟨hblank, holds⟩
    exact ⟨_, .inr holds, rfl, hblank⟩

/-- What is no receipt is so for its text. -/
theorem exists_fault {text : String} {e : ScanError} (h : readReceipt text = .error e) :
    ∃ fault, e = .body fault := by
  unfold readReceipt at h
  split at h
  · cases h
  · exact mapError_eq_error h

section

variable {client : Client} {filename : String} {contents : Blob} {network : Network}
  {answer : Answer} {text : String}
  (hanswer : (network.request client.uploadUrl "POST" userAgent
    (some (filePart filename contents)) client.timeout).1 = .ok answer)
  (hsuccess : isSuccess answer.status = true) (htext : answer.text = .ok text)

include hanswer hsuccess htext

/-- Of a successful answer that has arrived whole the body is read. -/
theorem upload_eq : (client.upload filename contents network).1 = readReceipt text := by
  show successText "Upload" (network.request _ _ _ _ _).1 >>= readReceipt = _
  rw [hanswer, successText]
  simp only [Except.mapError, bind, Except.bind, hsuccess, if_true, htext]

/-- A successful upload gives an identifier that can be polled if the body names a scan by it, and
the identifier is not blank. Otherwise it is no receipt, or one without such an identifier, and the
attempt fails because the service does not keep to the protocol. -/
theorem upload_names_scan :
    (∀ scanId, (∃ receipt, (client.upload filename contents network).1 = .ok receipt ∧
        receipt.usableId = some scanId) ↔
      (∃ c ∈ scanId.toList, Text.isBlank c = false) ∧
        ∃ form, IsText text form ∧ Receipt.NamesScan scanId form) ∧
    ((∀ receipt, (client.upload filename contents network).1 = .ok receipt →
        receipt.usableId = none) →
      ∃ e : ScanError, e.kind = .protocol ∧
        ((∃ fault, e = .body fault ∧ (client.upload filename contents network).1 = .error e) ∨
          e = .missingScanId ∧ ∃ receipt, (client.upload filename contents network).1 = .ok receipt) ∧
        ∀ (rules : Rules) (task : Task) (a : Attempt), a.generation = task.generation →
          (task.afterUpload rules (client.upload filename contents network).1 a).attempt =
            a.fail e.recorded) := by
  rw [upload_eq hanswer hsuccess htext]
  refine ⟨fun scanId => ?_, fun hunusable => ?_⟩
  · rw [readReceipt_iff]
    refine and_congr_left fun _ => ⟨Text.exists_of_isBlankText, ?_⟩
    rintro ⟨c, hc, hblank⟩
    exact List.all_eq_false.mpr ⟨c, hc, Bool.eq_false_iff.mp hblank⟩
  · cases hread : readReceipt text with
    | ok receipt =>
      refine ⟨.missingScanId, rfl, .inr ⟨rfl, receipt, rfl⟩, fun rules task a h => ?_⟩
      simp only [Task.afterUpload, hunusable receipt hread]
      rw [if_neg (not_not_intro h), Task.fail_current h]
      rfl
    | error e =>
      obtain ⟨fault, rfl⟩ := exists_fault hread
      refine ⟨.body fault, rfl, .inl ⟨fault, rfl, rfl⟩, fun rules task a h => ?_⟩
      simp only [Task.afterUpload]
      rw [if_neg (not_not_intro h), Task.fail_current h]
      rfl

end

def sampleClient : Client := ⟨"http://127.0.0.1:8000/api", 1000⟩

/-- A reply at once, with a body that is whole. -/
def plainReply (status : Nat) (body : String) : Reply :=
  ⟨status, Text.Utf8.encodeText body, false, false, 0⟩

/-- A network on which a server answers once, with any status. -/
def replying (status : Nat) (body : String) : Network :=
  { sampleNetwork with replies := [plainReply status body] }

/-- And one on which the answer is a success. -/
def answering (body : String) : Network := replying 200 body

section Replies

variable {address : String}
  (haddress : ∃ url, Url.parse address = .ok url ∧ url.withoutCredentials.isWeb = true ∧
    url.withoutCredentials.isNameable = true ∧
    sampleNetwork.server = url.withoutCredentials.destination)
  {status : Nat} (hfinal : 200 ≤ status ∧ status ≤ greatestStatus) (hbody : hasBody status = true)

include haddress hfinal hbody

/-- Every status that ends an exchange can be answered, with any body if there is one. -/
theorem request_plain (body method : String) (part : Option Part) {timeout : Nat}
    (htimeout : 0 < timeout) (rest : List Reply) (sent : List Message) :
    ∃ message, Network.request ⟨sampleNetwork.server, plainReply status body :: rest, sent⟩ address
        method userAgent part timeout =
      (.ok ⟨status, Text.Utf8.encodeText body, false⟩,
        ⟨sampleNetwork.server, rest, sent ++ [message]⟩) := by
  obtain ⟨url, hurl, hweb, hnameable, hserver⟩ := haddress
  have hrange : ¬(status < leastStatus ∨ greatestStatus < status) := by
    have : leastStatus = 100 := rfl
    omega
  have hpassing : isPassing status = false := by
    simp only [isPassing, Bool.and_eq_false_iff, decide_eq_false_iff_not]
    omega
  have hanswer : Network.answerOf (plainReply status body) timeout url.withoutCredentials =
      .ok ⟨status, Text.Utf8.encodeText body, false⟩ := by
    have hlate : ¬timeout ≤ 0 := Nat.not_le.mpr htimeout
    simp only [Network.answerOf, plainReply, Bool.false_eq_true, if_false, hlate, hrange, hpassing,
      hbody, if_true]
  refine ⟨⟨method, url.withoutCredentials.target, userAgent, part⟩, ?_⟩
  simp only [Network.request, hurl, hweb, hnameable, Bool.not_true, Bool.false_eq_true, if_false,
    Network.send]
  rw [if_pos ⟨rfl, hserver⟩]
  exact Prod.ext hanswer rfl

theorem request_replying (body method : String) (part : Option Part) :
    ((replying status body).request address method userAgent part sampleClient.timeout).1 =
      .ok ⟨status, Text.Utf8.encodeText body, false⟩ := by
  have htimeout : 0 < sampleClient.timeout := by decide
  obtain ⟨_, h⟩ := request_plain haddress hfinal hbody body method part htimeout [] []
  exact congrArg Prod.fst h

end Replies

theorem answer_answering (filename : String) (contents : Blob) (body : String) :
    ((answering body).request sampleClient.uploadUrl "POST" userAgent
      (some (filePart filename contents)) sampleClient.timeout).1 =
      .ok ⟨200, Text.Utf8.encodeText body, false⟩ :=
  request_replying (exists_uploadUrl (show sampleClient.baseUrl = _ from rfl)) (by decide)
    (by decide) body "POST" _

/-- An identifier as a member. -/
def sampleMember : List Piece × Form :=
  (Piece.plainly ['s', 'c', 'a', 'n', '_', 'i', 'd'] (by simp),
    .string (Piece.plainly ['a', 'b', 'c'] (by simp)))

theorem isText_object : IsText "\x7b\"scan_id\":\"abc\"\x7d" (.object [sampleMember]) := by
  have hmembers : Spells (.members true [sampleMember]) _ :=
    .member (.first blank_nil) blank_nil blank_nil (.string _) (.noMember false blank_nil)
  exact ⟨[], _, [], blank_nil, blank_nil, .object hmembers, rfl⟩

theorem namesScan_object : Receipt.NamesScan "abc" (.object [sampleMember]) :=
  .object (List.forall_mem_singleton.mpr rfl) rfl (Piece.text?_plainly _ _)

theorem readReceipt_object :
    readReceipt "\x7b\"scan_id\":\"abc\"\x7d" = .ok ⟨some "abc"⟩ := by
  rw [readReceipt, Receipt.parse_eq_ok_iff.mpr ⟨_, isText_object, namesScan_object⟩]
  rfl

theorem isText_list : IsText "[\"abc\"]" (.array [sampleMember.2]) := by
  have helements : Spells (.elements true [sampleMember.2]) _ :=
    .element (.first blank_nil) (.string _) (.noElement false blank_nil)
  exact ⟨[], _, [], blank_nil, blank_nil, .array helements, rfl⟩

theorem sampleClient_object :
    ∃ receipt, (sampleClient.upload "a.jar" (.bytes [0x50, 0x4B])
      (answering "\x7b\"scan_id\":\"abc\"\x7d")).1 = .ok receipt ∧
        receipt.usableId = some "abc" := by
  have htext : Answer.text ⟨200, Text.Utf8.encodeText "\x7b\"scan_id\":\"abc\"\x7d", false⟩ =
      .ok "\x7b\"scan_id\":\"abc\"\x7d" :=
    congrArg Except.ok (Text.Utf8.decodeLossy_encodeText _)
  obtain ⟨hiff, _⟩ := upload_names_scan (answer_answering "a.jar" (.bytes [0x50, 0x4B]) _) rfl htext
  exact (hiff "abc").mpr ⟨⟨'a', by decide, by decide⟩, _, isText_object, namesScan_object⟩

/-- A list of one string is read as a receipt although it is no object. -/
theorem sampleClient_list :
    (sampleClient.upload "a.jar" (.bytes [0x50, 0x4B]) (answering "[\"abc\"]")).1 =
        .ok ⟨some "abc"⟩ ∧
      ∀ members, ¬IsText "[\"abc\"]" (.object members) := by
  have htext : Answer.text ⟨200, Text.Utf8.encodeText "[\"abc\"]", false⟩ = .ok "[\"abc\"]" :=
    congrArg Except.ok (Text.Utf8.decodeLossy_encodeText _)
  have hparse : Receipt.parse "[\"abc\"]" = .ok ⟨some "abc"⟩ :=
    Receipt.parse_eq_ok_iff.mpr ⟨_, isText_list, .list rfl⟩
  refine ⟨?_, fun members h => ?_⟩
  · rw [upload_eq (answer_answering _ _ _) rfl htext, readReceipt, hparse]
    rfl
  · -- as a value the text is an array
    have hobject := (interprets_readValue 1).readAll h
    rw [(interprets_readValue 1).readAll isText_list] at hobject
    obtain ⟨members, _, hsame⟩ := Option.map_eq_some_iff.mp (hobject.symm.trans rfl)
    cases hsame

end Http.Client
end ScanClient
