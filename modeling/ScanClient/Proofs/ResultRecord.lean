import ScanClient.Proofs.Consistency
import ScanClient.Proofs.Instants
import ScanClient.Proofs.Numerals

/-!
# Records of results

A result is written as an object of six members and read as a record of six fields. Each field reads
what the member of its name holds, so the result that is read is the one that was written, but for
the probability, whose last bit is not kept.
-/

namespace ScanClient

namespace Json

/-- A record is read from the members of an object, if they make a record. -/
theorem gives_readRecord {draft α : Type} {shape : Shape draft α} {gap last : List Char}
    (hgap : Blank gap) (hlast : Blank last) {members : List (String × List Char)} {d : draft}
    (collects : Collects (readMember shape.fields) shape.empty members d) {made : α}
    (hmade : shape.ofMembers d = .ok made) (rest : List Char) :
    Gives (readRecord shape
      ('\x7b' :: (membersChars gap true members ++ (last ++ '\x7d' :: rest)))) made rest := by
  have hmembers := gives_readMembers hgap hlast collects rest
  exact ((hmembers.finish hmade).behind '\x7b').atOnce (by decide)

/-- A member that a field asks for is read by it. -/
theorem gives_readMember {draft : Type} {fields : List (RecordField draft)} {d next : draft}
    {key : String} {field : RecordField draft}
    (hfind : fields.find? (·.name == key) = some field) (hgiven : field.given d = false)
    {text rest : List Char} (h : Gives (field.read d (text ++ rest)) next rest) :
    Gives (readMember fields d key (':' :: (text ++ rest))) next rest := by
  have hread := h.afterColon
  simp only [readMember, hfind, hgiven, Bool.false_eq_true, if_false]
  exact hread

theorem gives_readString (expected s : String) (rest : List Char) :
    Gives (readString expected (textChars s ++ rest)) s rest := by
  rw [textChars_append]
  exact ((gives_readText s rest).behind '"').atOnce (by decide)

theorem gives_readBoolean (b : Bool) (rest : List Char) :
    Gives (readBoolean (scalarChars (.boolean b) ++ rest)) b rest := by
  cases b with
  | true =>
    exact Gives.atOnce (gives_readWord "rue" true 't' rest) (by decide)
  | false =>
    exact Gives.atOnce (gives_readWord "alse" false 'f' rest) (by decide)

/-- Members on one line. -/
theorem compactMembers_eq (first : Bool) (members : List (String × Value)) :
    compactMembers first members =
      membersChars [] first (members.map fun (key, v) => (key, compactChars v)) := by
  induction members generalizing first with
  | nil => rfl
  | cons member members ih =>
    obtain ⟨key, v⟩ := member
    rw [compactMembers, List.map_cons, membersChars, ih, List.append_nil]

end Json

open Json

namespace ScanResult

/-- The texts of the members of a result. -/
def memberTexts (r : ScanResult) : List (String × List Char) :=
  [("id", textChars r.id), ("filename", textChars r.filename),
    ("is_malicious", scalarChars (.boolean r.isMalicious)),
    ("malicious_probability", (doubleText r.probability).toList),
    ("scan_date", textChars r.scanDate.written), ("status", textChars r.status.name)]

theorem compact_toValue (r : ScanResult) :
    r.toValue.compact.toList =
      '\x7b' :: (membersChars [] true r.memberTexts ++ ['\x7d']) := by
  -- what is not finite is written as null, either way
  have hdouble : compactChars (.ofDouble r.probability) = (doubleText r.probability).toList := by
    cases r.probability <;> rfl
  rw [Value.compact, String.toList_ofList, toValue, compactChars, compactMembers_eq]
  simp only [List.map_cons, List.map_nil, hdouble]
  rfl

/-- The date of a result is read as it was written. -/
theorem gives_readDate {i : Calendar.Instant} (writable : i.Writable) (rest : List Char) :
    Gives (readDate (textChars i.written ++ rest)) i rest := by
  refine (gives_readString _ i.written rest).finish ?_
  rw [writable.readFree_written]
  rfl

theorem gives_readStatus (status : ScanStatus) (rest : List Char) :
    Gives (ScanStatus.read (textChars status.name ++ rest)) status rest := by
  rw [textChars_append]
  have hname : ScanStatus.ofName status.name = status := by
    cases status <;> decide
  have hread := (gives_readText status.name rest).map ScanStatus.ofName
  rw [hname] at hread
  exact (hread.behind '"').atOnce (by decide)

variable {r : ScanResult} (hdate : r.scanDate.Writable)
  (hzero : Double.zero.le r.probability = true) (hone : r.probability.le .one = true)

include hdate hzero hone

/-- The members of a result are collected into a draft that has all its fields. -/
theorem collects_memberTexts :
    Collects (readMember fields) {} r.memberTexts
      ⟨some r.id, some r.filename, some r.isMalicious, some (reread r.probability),
        some r.scanDate, some r.status⟩ := by
  -- each member fills one more field of the draft
  refine .cons ⟨some r.id, none, none, none, none, none⟩ (fun rest _ => ?_) ?_
  · exact gives_readMember rfl rfl ((gives_readString _ r.id rest).reader _)
  refine .cons ⟨some r.id, some r.filename, none, none, none, none⟩ (fun rest _ => ?_) ?_
  · exact gives_readMember rfl rfl ((gives_readString _ r.filename rest).reader _)
  refine .cons ⟨some r.id, some r.filename, some r.isMalicious, none, none, none⟩
    (fun rest _ => ?_) ?_
  · exact gives_readMember rfl rfl ((gives_readBoolean r.isMalicious rest).reader _)
  refine .cons ⟨some r.id, some r.filename, some r.isMalicious, some (reread r.probability),
    none, none⟩ (fun rest closes => ?_) ?_
  · exact gives_readMember rfl rfl ((gives_readDouble hzero hone closes.ends).reader _)
  refine .cons ⟨some r.id, some r.filename, some r.isMalicious, some (reread r.probability),
    some r.scanDate, none⟩ (fun rest _ => ?_) ?_
  · exact gives_readMember rfl rfl ((gives_readDate hdate rest).reader _)
  refine .cons _ (fun rest _ => ?_) (.nil _)
  exact gives_readMember rfl rfl ((gives_readStatus r.status rest).reader _)

/-- A result whose date can be written and whose probability is one is read as it was written, but
for the probability. -/
theorem parse_compact :
    parse r.toValue.compact = .ok { r with probability := reread r.probability } := by
  have hread : Gives (readRecord shape ('\x7b' :: (membersChars [] true r.memberTexts ++ ['\x7d'])))
      { r with probability := reread r.probability } [] :=
    gives_readRecord blank_nil blank_nil (collects_memberTexts hdate hzero hone) rfl []
  rw [← compact_toValue] at hread
  exact hread.readAll blank_nil

end ScanResult

/-! ## The main result -/

/-- The date of a result that a response holds is one of those that are read. -/
theorem Response.scanDate_of_toResult {response : Response} {scanId : String} {r : ScanResult}
    (h : response.toResult scanId = .ok r) :
    ∃ text, Calendar.readScanDate text = some r.scanDate := by
  unfold toResult at h
  obtain ⟨filename, _, h⟩ := bind_eq_ok.mp h
  obtain ⟨isMalicious, _, h⟩ := bind_eq_ok.mp h
  obtain ⟨probability, _, h⟩ := bind_eq_ok.mp h
  obtain ⟨scanDate, hdate, h⟩ := bind_eq_ok.mp h
  obtain ⟨text, _, hdate⟩ := bind_eq_ok.mp hdate
  cases h
  refine ⟨text, ?_⟩
  unfold checkDate at hdate
  split at hdate
  next date hread =>
    cases hdate
    exact hread
  next => cases hdate

/-- A result that a response holds is read from the text it is written as, with its identifier, its
filename, its verdict, its status and the very instant of its date. -/
theorem result_reads_back {response : Response} {scanId : String} {r : ScanResult}
    (h : response.toResult scanId = .ok r) :
    ∃ back, ScanResult.parse r.toValue.compact = .ok back ∧ back.id = r.id ∧
      back.filename = r.filename ∧ back.isMalicious = r.isMalicious ∧ back.status = r.status ∧
      back.scanDate = r.scanDate := by
  obtain ⟨text, hdate⟩ := Response.scanDate_of_toResult h
  obtain ⟨_, hzero, hone⟩ := Response.toResult_ok h
  have writable := Calendar.writable_of_readScanDate hdate
  exact ⟨_, ScanResult.parse_compact writable hzero hone, rfl, rfl, rfl, rfl, rfl⟩

/-- A result with a leap second of a distant year, and a name that has to be escaped. -/
def Response.distant : Response where
  status := .completed
  filename := some "a \"b\"\\\n\x01.exe"
  isMalicious := some true
  probability := some .one
  scanDate := some "+12345-06-30T23:59:60.000000001"

theorem Response.distant_reads_back :
    ∃ r, distant.toResult "7" = .ok r ∧ r.scanDate.nanos = 1000000001 ∧
      ∃ back, ScanResult.parse r.toValue.compact = .ok back ∧ back.id = r.id ∧
        back.filename = r.filename ∧ back.isMalicious = r.isMalicious ∧ back.status = r.status ∧
        back.scanDate = r.scanDate := by
  have hgiven : ((distant.toResult "7").toOption.map (·.scanDate.nanos)) = some 1000000001 := by
    decide +kernel
  obtain ⟨r, hr, hnanos⟩ := Option.map_eq_some_iff.mp hgiven
  have hresult := toOption_eq_some hr
  exact ⟨r, hresult, hnanos, result_reads_back hresult⟩

end ScanClient
