import Mathlib.Data.List.Induction
import ScanClient.Proofs.Address
import ScanClient.Proofs.Except
import ScanClient.Proofs.Trimming

/-!
# Status requests

What a client asks for that wants to know how a scan is doing. The identifier of a scan comes from
the service and may be any text. It is one segment of the path, which says nothing else, whatever
the identifier is, but for two: an identifier of one or two dots is resolved with the path, and the
request asks for something else.
-/

namespace ScanClient.Http

open Text

/-- A base address: a host, perhaps with a port, and segments that need no encoding, none of them
dots. -/
structure BaseAddress where
  authority : String
  segments : List String
  authority_ne : authority ≠ ""
  authority_plain : ∀ c ∈ authority.toList, isAuthorityChar c = true
  segments_plain : ∀ s ∈ segments, ∀ c ∈ s.toList, isUnreserved c = true
  segments_undotted : ∀ s ∈ segments, s ≠ "." ∧ s ≠ ".."

/-- The path below the base address that a status request asks for. -/
def statusSegments (scanId : String) : List String :=
  if scanId = "." then ["scan", ""]
  else if scanId = ".." then [""]
  else ["scan", encodeSegment scanId, ""]

namespace BaseAddress

variable (base : BaseAddress)

def text : String := "http://" ++ base.authority ++ joinSegments base.segments

/-- The segments without the empty ones at the end. -/
def kept : List String := base.segments.rdropWhile (·.isEmpty)

/-- The path of the base address, without slashes at its end. -/
def path : String := joinSegments base.kept

def target (scanId : String) : String := base.path ++ joinSegments (statusSegments scanId)

/-- A target asks for a scan and nothing else: one segment below the base path is read as the
identifier, and there is no query. -/
def AsksFor (scanId target : String) : Prop :=
  ∃ segment : String, target = base.path ++ "/scan/" ++ segment ++ "/" ∧
    (∀ c ∈ segment.toList, c ≠ '/' ∧ c ≠ '\\' ∧ c ≠ '?' ∧ c ≠ '#') ∧
    percentDecode segment.toList = Utf8.encodeText scanId

/-! ## The client of a base address -/

theorem mem_kept {s : String} (h : s ∈ base.kept) : s ∈ base.segments :=
  (List.rdropWhile_prefix _ _).subset h

/-- The segments of a base address are encoded as they are. -/
theorem encode_segments {segments : List String} (h : ∀ s ∈ segments, s ∈ base.segments) :
    segments.map encodeSegment = segments := by
  rw [List.map_congr_left (g := id), List.map_id]
  intro s hs
  exact encodeSegment_of_unreserved (base.segments_plain s (h s hs))

theorem encode_kept : base.kept.map encodeSegment = base.kept :=
  base.encode_segments fun _ hs => base.mem_kept hs

end BaseAddress

/-- Slashes at the end are those of empty segments at the end. -/
theorem rdropWhile_joinSegments {c : Char} (hc : c ≠ '/') (front : List Char)
    (segments : List String) (h : ∀ s ∈ segments, ∀ c ∈ s.toList, c ≠ '/') :
    (front ++ [c] ++ (joinSegments segments).toList).rdropWhile (· == '/') =
      front ++ [c] ++ (joinSegments (segments.rdropWhile (·.isEmpty))).toList := by
  induction segments using List.reverseRecOn with
  | nil =>
    rw [List.rdropWhile_nil, show (joinSegments []).toList = [] from rfl, List.append_nil]
    exact List.rdropWhile_concat_neg _ _ _ (by simpa using hc)
  | append_singleton segments s ih =>
    have hjoined : (joinSegments (segments ++ [s])).toList =
        (joinSegments segments).toList ++ ['/'] ++ s.toList := by
      simp [joinSegments_append, toList_joinSegments]
    by_cases hs : s.isEmpty = true
    · have hempty : s.toList = [] := by
        rw [String.isEmpty_iff.mp hs]
        rfl
      rw [List.rdropWhile_concat_pos _ _ _ hs, hjoined, hempty, List.append_nil,
        ← List.append_assoc, List.rdropWhile_concat_pos _ _ _ rfl]
      exact ih fun s' hs' => h s' (List.mem_append_left _ hs')
    · -- the last segment is not empty, and its last character is no slash
      have hne : s.toList ≠ [] := by
        intro hempty
        exact hs (String.isEmpty_iff.mpr (String.toList_injective hempty))
      obtain ⟨init, d, hd⟩ := (List.eq_nil_or_concat s.toList).resolve_left hne
      rw [List.concat_eq_append] at hd
      have hslash : d ≠ '/' :=
        h s (List.mem_append_right _ List.mem_cons_self) d (by rw [hd]; simp)
      rw [List.rdropWhile_concat_neg _ _ _ hs, hjoined, hd, ← List.append_assoc,
        ← List.append_assoc, List.rdropWhile_concat_neg _ _ _ (by simpa using hslash)]

namespace BaseAddress

variable (base : BaseAddress)

theorem toList_authority_ne : base.authority.toList ≠ [] := by
  intro hempty
  exact base.authority_ne (String.toList_injective hempty)

theorem exists_authority_concat :
    ∃ front c, base.authority.toList = front ++ [c] ∧ c ≠ '/' := by
  obtain ⟨front, c, hc⟩ := (List.eq_nil_or_concat _).resolve_left base.toList_authority_ne
  rw [List.concat_eq_append] at hc
  have hmem : c ∈ base.authority.toList := by
    rw [hc]
    exact List.mem_append_right _ List.mem_cons_self
  exact ⟨front, c, hc, (isAuthorityChar_iff.mp (base.authority_plain c hmem)).2.2.1⟩

theorem slash_not_mem {s : String} (hs : s ∈ base.segments) : ∀ c ∈ s.toList, c ≠ '/' := by
  intro c hc hslash
  have hplain := base.segments_plain s hs c hc
  rw [hslash] at hplain
  cases hplain

theorem toList_text :
    base.text.toList =
      "http://".toList ++ base.authority.toList ++ (joinSegments base.segments).toList := by
  rw [text, String.toList_append, String.toList_append]

theorem trimChars_text : trimChars base.text.toList = base.text.toList := by
  -- no character of the text is blank
  have hplain : ∀ c ∈ base.text.toList, isBlank c = false := by
    have hfront : ("http://".toList.all fun c => !isBlank c) = true := by decide
    rw [toList_text, toList_joinSegments]
    intro c hc
    rcases List.mem_append.mp hc with hc | hc
    · rcases List.mem_append.mp hc with hc | hc
      · simpa using List.all_eq_true.mp hfront c hc
      · exact (isAuthorityChar_iff.mp (base.authority_plain c hc)).2.1
    · obtain ⟨s, hs, hc⟩ := List.mem_flatMap.mp hc
      rcases List.mem_cons.mp hc with rfl | hc
      · decide
      · have hsegment : isSegmentChar c = true := by
          rw [isSegmentChar, base.segments_plain s hs c hc, Bool.true_or]
        have hblank := of_isSegmentChar (p := fun c => !isBlank c) (by decide) hsegment
        simpa using hblank
  exact (Tight.of_forall hplain).trimChars_eq

theorem normalizeBase_text :
    normalizeBase base.text = "http://" ++ base.authority ++ base.path := by
  obtain ⟨front, c, hauthority, hc⟩ := base.exists_authority_concat
  have hdrop := rdropWhile_joinSegments hc ("http://".toList ++ front) base.segments
    fun s hs => base.slash_not_mem hs
  rw [List.append_assoc _ front, ← hauthority, ← base.toList_text] at hdrop
  apply String.toList_injective
  rw [normalizeBase, String.toList_ofList, trimChars_text, String.toList_append,
    String.toList_append]
  exact hdrop

/-- There is a client for a base address. -/
theorem client_new (timeout : Nat) :
    Client.new base.text timeout = .ok ⟨"http://" ++ base.authority ++ base.path, timeout⟩ := by
  have hne : ("http://" ++ base.authority ++ base.path).isEmpty = false := by
    rw [Bool.eq_false_iff, ne_eq, String.isEmpty_iff]
    intro hempty
    have hlength := congrArg String.length hempty
    simp only [String.length_append] at hlength
    exact absurd hlength (by simp)
  simp only [Client.new, normalizeBase_text, hne]
  rfl

/-! ## The address of a status request -/

theorem statusUrl_eq (timeout : Nat) (scanId : String) :
    Client.statusUrl ⟨"http://" ++ base.authority ++ base.path, timeout⟩ scanId =
      String.ofList ("http://".toList ++ base.authority.toList ++
        (joinSegments ((base.kept ++ ["scan", scanId, ""]).map encodeSegment)).toList) := by
  apply String.toList_injective
  have hscan : encodeSegment "scan" = "scan" := by decide
  have hempty : encodeSegment "" = "" := by decide
  rw [String.toList_ofList, List.map_append, base.encode_kept, joinSegments_append]
  simp [Client.statusUrl, path, toList_joinSegments, hscan, hempty]

/-- An empty segment at the end of a path is added as it is. -/
theorem addSegments_end (path : List String) : addSegments false path [[]] = path ++ [""] := by
  rw [addSegments, if_neg (by decide), if_neg (by decide),
    if_neg fun hfile => Bool.false_ne_true hfile.1, addSegments]
  rfl

theorem addSegments_dot (path : List String) (s : List Char) (rest : List (List Char)) :
    addSegments false path (['.'] :: s :: rest) = addSegments false path (s :: rest) := by
  rw [addSegments, if_neg (by decide), if_pos (by decide)]
  simp only [List.isEmpty_cons, Bool.false_eq_true, if_false, List.append_nil]

theorem addSegments_dots (path : List String) (s : List Char) (rest : List (List Char)) :
    addSegments false path (['.', '.'] :: s :: rest) =
      addSegments false (parentPath path) (s :: rest) := by
  rw [addSegments, if_pos (by decide)]
  simp only [List.isEmpty_cons, Bool.false_eq_true, if_false, List.append_nil]

theorem parentPath_scan (path : List String) : parentPath (path ++ ["scan"]) = path := by
  rw [parentPath, List.getLast?_concat, if_neg (by decide), List.dropLast_concat]

/-- Dots in the identifier are resolved, and no others are there. -/
theorem parsePath_status (scanId : String) :
    parsePath "http" (joinSegments ((base.kept ++ ["scan", scanId, ""]).map encodeSegment)).toList =
      base.kept ++ statusSegments scanId := by
  have hundotted : ∀ s ∈ base.kept, s ≠ "." ∧ s ≠ ".." := fun s hs =>
    base.segments_undotted s (base.mem_kept hs)
  have hsplit : (base.kept ++ ["scan", scanId, ""]).map (fun s => (encodeSegment s).toList) =
      base.kept.map (fun s => (encodeSegment s).toList) ++
        [(encodeSegment "scan").toList, (encodeSegment scanId).toList, []] := by
    rw [List.map_append]
    rfl
  rw [parsePath_joinSegments _ (List.append_ne_nil_of_right_ne_nil _ (List.cons_ne_nil _ _)),
    hsplit, addSegments_append hundotted, base.encode_kept, List.nil_append,
    addSegments_cons (by decide), show encodeSegment "scan" = "scan" by decide]
  unfold statusSegments
  split
  next hdot =>
    rw [hdot, show (encodeSegment ".").toList = ['.'] by decide, addSegments_dot,
      addSegments_end, List.append_assoc]
    rfl
  next hdot =>
    split
    next hdots =>
      rw [hdots, show (encodeSegment "..").toList = ['.', '.'] by decide, addSegments_dots,
        parentPath_scan, addSegments_end]
    next hdots =>
      rw [addSegments_cons ⟨hdot, hdots⟩, addSegments_end, List.append_assoc, List.append_assoc]
      rfl

/-- The address that a status request is sent to. -/
def statusAddress (scanId : String) (host : Host × Option Nat) : Url :=
  { plainUrl [] host with path := .segments (base.kept ++ statusSegments scanId) }

theorem target_statusAddress (scanId : String) (host : Host × Option Nat) :
    (base.statusAddress scanId host).target = base.target scanId := by
  rw [target, path, ← joinSegments_append]
  exact String.append_empty

theorem parse_statusUrl (timeout : Nat) (scanId : String) :
    Url.parse (Client.statusUrl ⟨"http://" ++ base.authority ++ base.path, timeout⟩ scanId) =
      (readHostAndPort base.authority.toList).map (base.statusAddress scanId) := by
  rw [statusUrl_eq, parse_plain base.toList_authority_ne base.authority_plain
    (isPath_joinSegments _)]
  congr
  funext host
  rw [plainUrl, parsePath_status]
  rfl

theorem parse_text :
    Url.parse base.text = (readHostAndPort base.authority.toList).map
      (plainUrl (joinSegments base.segments).toList) := by
  have hpath := isPath_joinSegments base.segments
  rw [base.encode_segments fun _ hs => hs] at hpath
  rw [← parse_plain base.toList_authority_ne base.authority_plain hpath, ← toList_text,
    String.ofList_toList]

/-- It can be named if the base address can, and if it is not too long. -/
theorem isNameable_statusAddress {scanId : String} {host : Host × Option Nat} {s : List Char}
    (hnameable : (plainUrl s host).isNameable = true)
    (hlength : (plainUrl s host).text.utf8ByteSize + (base.target scanId).utf8ByteSize ≤ maxLength) :
    (base.statusAddress scanId host).isNameable = true := by
  have hsize : (base.statusAddress scanId host).text.utf8ByteSize ≤ maxLength := by
    have hauthority : (base.statusAddress scanId host).authorityText =
        (plainUrl s host).authorityText := rfl
    have hscheme : (base.statusAddress scanId host).scheme = (plainUrl s host).scheme := rfl
    have hfragment : (base.statusAddress scanId host).fragment = (plainUrl s host).fragment := rfl
    simp only [Url.text, String.utf8ByteSize_append, target_statusAddress, hauthority, hscheme,
      hfragment] at hlength ⊢
    omega
  rw [Url.isNameable, Bool.and_eq_true] at hnameable ⊢
  exact ⟨decide_eq_true hsize, hnameable.2⟩

/-- A status request that is sent asks for the target. It is sent if the host can be read, the
address named, and the server is there. -/
theorem sent_poll (timeout : Nat) (scanId : String) (network : Network) :
    (Client.poll ⟨"http://" ++ base.authority ++ base.path, timeout⟩ scanId network).2.2.sent =
      match readHostAndPort base.authority.toList with
      | .error _ => network.sent
      | .ok host =>
        if (base.statusAddress scanId host).isNameable ∧
            network.server = (base.statusAddress scanId host).destination then
          network.sent ++ [⟨"GET", base.target scanId, userAgent, none⟩]
        else network.sent := by
  have hrequest : (Client.poll ⟨"http://" ++ base.authority ++ base.path, timeout⟩ scanId
      network).2.2 = (network.request (Client.statusUrl
        ⟨"http://" ++ base.authority ++ base.path, timeout⟩ scanId) "GET" userAgent none
          timeout).2 := by
    rw [Client.poll, Client.get]
  rw [hrequest, Network.request, base.parse_statusUrl]
  cases readHostAndPort base.authority.toList with
  | error fault => rfl
  | ok host =>
    have hurl : (base.statusAddress scanId host).withoutCredentials =
        base.statusAddress scanId host := rfl
    have hweb : (base.statusAddress scanId host).isWeb = true := rfl
    simp only [Except.map, hurl, hweb, target_statusAddress, Bool.not_true, Bool.false_eq_true,
      if_false, Network.send]
    cases (base.statusAddress scanId host).isNameable with
    | false => simp only [Bool.not_false, if_true, Bool.false_eq_true, false_and, if_false]
    | true =>
      simp only [Bool.not_true, Bool.false_eq_true, if_false, true_and]
      by_cases hserver : network.server = (base.statusAddress scanId host).destination
      · -- an address with a host goes somewhere, so there is a server
        have hsome : network.server.isSome = true := by
          rw [hserver]
          rfl
        rw [if_pos ⟨hsome, hserver⟩, if_pos hserver]
      · rw [if_neg fun h => hserver h.2, if_neg hserver]

/-! ## The target of a status request -/

theorem target_of_undotted {scanId : String} (h : scanId ≠ "." ∧ scanId ≠ "..") :
    base.target scanId = base.path ++ "/scan/" ++ encodeSegment scanId ++ "/" := by
  apply String.toList_injective
  simp [target, statusSegments, h.1, h.2, toList_joinSegments]

theorem target_dot : base.target "." = base.path ++ "/scan/" := rfl

theorem target_dots : base.target ".." = base.path ++ "/" := rfl

theorem length_target_dot : (base.target ".").length = base.path.length + 6 := by
  rw [target_dot, String.length_append]
  rfl

theorem length_target_dots : (base.target "..").length = base.path.length + 1 := by
  rw [target_dots, String.length_append]
  rfl

/-- The targets of dots are too short to ask for a scan. -/
theorem length_le_of_asksFor {scanId target : String} (h : base.AsksFor scanId target) :
    base.path.length + 7 ≤ target.length := by
  obtain ⟨segment, rfl, _⟩ := h
  have hscan : "/scan/".length = 6 := rfl
  have hslash : "/".length = 1 := rfl
  simp only [String.length_append]
  omega

theorem asksFor_target_iff (scanId : String) :
    base.AsksFor scanId (base.target scanId) ↔ scanId ≠ "." ∧ scanId ≠ ".." := by
  constructor
  · intro h
    have hlength := base.length_le_of_asksFor h
    constructor
    · rintro rfl
      rw [length_target_dot] at hlength
      omega
    · rintro rfl
      rw [length_target_dots] at hlength
      omega
  · intro h
    refine ⟨encodeSegment scanId, base.target_of_undotted h, ?_, ?_⟩
    · intro c hc
      have hplain := of_isSegmentChar
        (p := fun c => c != '/' && c != '\\' && c != '?' && c != '#') (by decide)
        (isSegmentChar_of_mem_encodeSegment hc)
      simpa [and_assoc] using hplain
    · rw [encodeSegment, String.toList_ofList, percentDecode_percentEncode rfl]
      rfl

theorem length_target_of_undotted {scanId : String} (h : scanId ≠ "." ∧ scanId ≠ "..") :
    base.path.length + 7 ≤ (base.target scanId).length :=
  base.length_le_of_asksFor ((base.asksFor_target_iff scanId).mpr h)

/-- Different identifiers have different targets, even if they are dots. -/
theorem target_inj {a b : String} (h : base.target a = base.target b) : a = b := by
  have hlength := congrArg String.length h
  have hcases : ∀ s : String, s = "." ∨ s = ".." ∨ s ≠ "." ∧ s ≠ ".." := by
    intro s
    by_cases hdot : s = "."
    · exact .inl hdot
    · by_cases hdots : s = ".."
      · exact .inr (.inl hdots)
      · exact .inr (.inr ⟨hdot, hdots⟩)
  -- only targets of the same kind are of the same length
  rcases hcases a with rfl | rfl | ha
  · rw [length_target_dot] at hlength
    rcases hcases b with rfl | rfl | hb
    · rfl
    · rw [length_target_dots] at hlength
      omega
    · have hle := base.length_target_of_undotted hb
      omega
  · rw [length_target_dots] at hlength
    rcases hcases b with rfl | rfl | hb
    · rw [length_target_dot] at hlength
      omega
    · rfl
    · have hle := base.length_target_of_undotted hb
      omega
  · have hle := base.length_target_of_undotted ha
    rcases hcases b with rfl | rfl | hb
    · rw [length_target_dot] at hlength
      omega
    · rw [length_target_dots] at hlength
      omega
    · rw [base.target_of_undotted ha, base.target_of_undotted hb, String.append_left_inj,
        String.append_right_inj] at h
      exact encodeSegment_inj h

end BaseAddress

/-! ## The main result -/

/-- For every base address there is a client, and for every identifier a target: whenever the client
asks how the scan is doing, it asks for the target or sends nothing, and it does ask if the server of
the base address is there and the address is not too long. The target asks for the scan of the
identifier and nothing else, if and only if the identifier is not one or two dots. With one dot the
request asks for a scan without an identifier, with two for the base address itself. At least
different identifiers always have different targets. -/
theorem status_requests (base : BaseAddress) (timeout : Nat) :
    ∃ (client : Client) (target : String → String),
      Client.new base.text timeout = .ok client ∧
      (∀ (scanId : String) (network : Network),
        let sent := (client.poll scanId network).2.2.sent
        (sent = network.sent ∨ sent = network.sent ++ [⟨"GET", target scanId, userAgent, none⟩]) ∧
        ∀ url, Url.parse base.text = .ok url → network.server = url.destination →
          url.isNameable = true →
          url.text.utf8ByteSize + (target scanId).utf8ByteSize ≤ maxLength →
          sent = network.sent ++ [⟨"GET", target scanId, userAgent, none⟩]) ∧
      (∀ scanId, base.AsksFor scanId (target scanId) ↔ scanId ≠ "." ∧ scanId ≠ "..") ∧
      target "." = base.path ++ "/scan/" ∧ target ".." = base.path ++ "/" ∧
      ∀ a b, a ≠ b → target a ≠ target b := by
  refine ⟨_, base.target, base.client_new timeout, ?_, base.asksFor_target_iff, base.target_dot,
    base.target_dots, fun a b hne h => hne (base.target_inj h)⟩
  intro scanId network
  have hsent := base.sent_poll timeout scanId network
  rw [base.parse_text]
  cases hhost : readHostAndPort base.authority.toList with
  | error fault =>
    rw [hhost] at hsent
    exact ⟨.inl hsent, fun url hurl => nomatch hurl⟩
  | ok host =>
    simp only [hhost] at hsent
    refine ⟨?_, ?_⟩
    · split at hsent
      · exact .inr hsent
      · exact .inl hsent
    · rintro url hurl hserver hnameable hlength
      cases hurl
      rw [if_pos ⟨base.isNameable_statusAddress hnameable hlength, hserver⟩] at hsent
      exact hsent

/-- A base address with a port and a path. -/
def sampleBase : BaseAddress where
  authority := "127.0.0.1:8000"
  segments := ["api", ""]
  authority_ne := by decide
  authority_plain := List.all_eq_true.mp (by decide)
  segments_plain := by
    have hplain : (["api", ""].all fun s => s.toList.all isUnreserved) = true := by decide
    intro s hs
    exact List.all_eq_true.mp (List.all_eq_true.mp hplain s hs)
  segments_undotted := by decide

/-- The network on which its server is. -/
def sampleNetwork : Network := ⟨some (.ipv4 0x7F000001, 8000), [], []⟩

/-- An address that leads to the server of the network can be asked for. -/
theorem exists_url {address : String}
    (hparts : (Url.parse address).toOption.map (fun url => (url.withoutCredentials.isWeb,
      url.withoutCredentials.isNameable, url.withoutCredentials.destination)) =
        some (true, true, sampleNetwork.server)) :
    ∃ url, Url.parse address = .ok url ∧ url.withoutCredentials.isWeb = true ∧
      url.withoutCredentials.isNameable = true ∧
      sampleNetwork.server = url.withoutCredentials.destination := by
  obtain ⟨url, hurl, hparts⟩ := Option.map_eq_some_iff.mp hparts
  obtain ⟨hweb, hparts⟩ := Prod.mk.inj hparts
  obtain ⟨hnameable, hserver⟩ := Prod.mk.inj hparts
  exact ⟨url, toOption_eq_some hurl, hweb, hnameable, hserver.symm⟩

/-- What is uploaded to the address goes there. -/
theorem exists_uploadUrl {client : Client} (h : client.baseUrl = "http://127.0.0.1:8000/api") :
    ∃ url, Url.parse client.uploadUrl = .ok url ∧ url.withoutCredentials.isWeb = true ∧
      url.withoutCredentials.isNameable = true ∧
      sampleNetwork.server = url.withoutCredentials.destination := by
  rw [Client.uploadUrl, h]
  exact exists_url (by decide +kernel)

theorem sampleBase_client :
    Client.new sampleBase.text 1000 = .ok ⟨"http://127.0.0.1:8000/api", 1000⟩ := by
  have hbase : "http://" ++ sampleBase.authority ++ sampleBase.path =
      "http://127.0.0.1:8000/api" := by
    decide +kernel
  rw [sampleBase.client_new, hbase]

/-- A slash in an identifier does not end the segment. -/
theorem sampleBase_slash :
    ∃ client, Client.new sampleBase.text 1000 = .ok client ∧
      (client.poll "a/b" sampleNetwork).2.2.sent = [⟨"GET", "/api/scan/a%2Fb/", userAgent, none⟩] ∧
      sampleBase.AsksFor "a/b" "/api/scan/a%2Fb/" := by
  obtain ⟨client, target, hclient, hpoll, hasks, _⟩ := status_requests sampleBase 1000
  have hsent : (Client.poll ⟨"http://127.0.0.1:8000/api", 1000⟩ "a/b" sampleNetwork).2.2.sent =
      [⟨"GET", "/api/scan/a%2Fb/", userAgent, none⟩] := by
    decide +kernel
  obtain rfl : (⟨"http://127.0.0.1:8000/api", 1000⟩ : Client) = client :=
    Except.ok.inj (sampleBase_client.symm.trans hclient)
  have htarget : target "a/b" = "/api/scan/a%2Fb/" := by
    have hcases := (hpoll "a/b" sampleNetwork).1
    rw [hsent] at hcases
    rcases hcases with h | h
    · cases h
    · exact (congrArg Message.target (List.cons.inj h).1).symm
  refine ⟨_, sampleBase_client, hsent, ?_⟩
  rw [← htarget, hasks]
  decide

/-- Two dots are an identifier that a receipt may hold, and they lead to the base address. -/
theorem sampleBase_dots :
    Receipt.usableId ⟨some ".."⟩ = some ".." ∧
    ∃ client, Client.new sampleBase.text 1000 = .ok client ∧
      (client.poll ".." sampleNetwork).2.2.sent = [⟨"GET", "/api/", userAgent, none⟩] ∧
      ¬sampleBase.AsksFor ".." "/api/" := by
  refine ⟨by decide, _, sampleBase_client, by decide +kernel, fun h => ?_⟩
  rw [show "/api/" = sampleBase.target ".." by decide, sampleBase.asksFor_target_iff] at h
  exact h.2 rfl

end ScanClient.Http
