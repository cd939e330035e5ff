import ScanClient.Http.Client
import ScanClient.Proofs.Trimming

/-!
# Base addresses

A client keeps its base address without the blanks around it and the slashes at its end, so that the
path of a request can follow at once. The blanks are dropped first and the slashes then, and neither
again. Where a blank stands before slashes at the end, it comes to the end when they are gone, and
there it stays: such an address is not in its final form, and a client made of it has another one.
-/

namespace ScanClient.Http

open Text

def Slashes (s : List Char) : Prop := ∀ c ∈ s, c = '/'

/-- Blanks, slashes and blanks make up the whole text. -/
def SaysNothing (text : String) : Prop :=
  ∃ before slashes after, Blanks before ∧ Slashes slashes ∧ Blanks after ∧
    text.toList = before ++ slashes ++ after

/-- Behind whatever the text says there is a blank before slashes. -/
def HidesBlank (text : String) : Prop :=
  ∃ front blank slashes after, isBlank blank = true ∧ Slashes slashes ∧ Blanks after ∧
    text.toList = front ++ blank :: '/' :: slashes ++ after ∧ ∃ c ∈ front, isBlank c = false

/-! ## What is kept of an address -/

theorem normalizeBase_eq_iff {text base : String} :
    normalizeBase text = base ↔ base.toList.getLast? ≠ some '/' ∧
      ∃ before slashes after, Blanks before ∧ Slashes slashes ∧ Blanks after ∧
        Tight (base.toList ++ slashes) ∧
        text.toList = before ++ (base.toList ++ slashes) ++ after := by
  constructor
  · rintro rfl
    obtain ⟨slashes, htrim, hslashes, hlast⟩ :=
      exists_dropEndWhile (· == '/') (trimChars text.toList)
    obtain ⟨before, after, hbefore, hafter, htext⟩ := exists_trimChars text.toList
    have htight := tight_trimChars text.toList
    rw [htrim] at htext htight
    rw [normalizeBase, String.toList_ofList]
    refine ⟨?_, before, slashes, after, hbefore, ?_, hafter, htight, htext⟩
    · intro h
      cases hlast '/' h
    · intro c hc
      exact eq_of_beq (hslashes c hc)
  · rintro ⟨hlast, before, slashes, after, hbefore, hslashes, hafter, htight, htext⟩
    have hkept : ∀ c, base.toList.getLast? = some c → (c == '/') = false := by
      intro c hc
      rw [beq_eq_false_iff_ne]
      rintro rfl
      exact hlast hc
    rw [normalizeBase, htext, trimChars_append hbefore htight hafter,
      dropEndWhile_append (fun c hc => beq_iff_eq.mpr (hslashes c hc)) hkept, String.ofList_toList]

theorem normalizeBase_eq_empty_iff {text : String} :
    normalizeBase text = "" ↔ SaysNothing text := by
  rw [normalizeBase_eq_iff]
  constructor
  · rintro ⟨-, before, slashes, after, hbefore, hslashes, hafter, -, htext⟩
    exact ⟨before, slashes, after, hbefore, hslashes, hafter, htext⟩
  · rintro ⟨before, slashes, after, hbefore, hslashes, hafter, htext⟩
    have htight : Tight slashes := by
      apply Tight.of_forall
      intro c hc
      rw [hslashes c hc]
      decide
    exact ⟨by simp, before, slashes, after, hbefore, hslashes, hafter, htight, htext⟩

/-- What is kept of an address can be kept as it is if nothing more is to be dropped. -/
theorem normalizeBase_eq_self_iff {base : String} :
    normalizeBase base = base ↔ base.toList.getLast? ≠ some '/' ∧ Tight base.toList := by
  rw [normalizeBase_eq_iff]
  constructor
  · rintro ⟨hlast, before, slashes, after, -, -, -, htight, hbase⟩
    -- the text is no longer than itself, so nothing stands around it
    have hlength := congrArg List.length hbase
    simp only [List.length_append] at hlength
    have hnil : slashes = [] := List.length_eq_zero_iff.mp (by omega)
    rw [hnil, List.append_nil] at htight
    exact ⟨hlast, htight⟩
  · rintro ⟨hlast, htight⟩
    have hslashes : Slashes [] := fun _ hc => nomatch hc
    exact ⟨hlast, [], [], [], blanks_nil, hslashes, blanks_nil, by rwa [List.append_nil], by simp⟩

/-! ## Clients -/

namespace Client

variable {text : String} {timeout : Nat} {client : Client}

theorem new_of_empty (h : normalizeBase text = "") (timeout : Nat) :
    new text timeout = .error (.config missingBase) := by
  rw [new, h]
  rfl

theorem new_of_ne_empty (h : normalizeBase text ≠ "") (timeout : Nat) :
    new text timeout = .ok ⟨normalizeBase text, timeout⟩ := by
  have hne : (normalizeBase text).isEmpty = false :=
    Bool.eq_false_iff.mpr (mt String.isEmpty_iff.mp h)
  simp only [new, hne, Bool.false_eq_true, if_false]

theorem new_eq_ok_iff :
    new text timeout = .ok client ↔
      normalizeBase text ≠ "" ∧ client = ⟨normalizeBase text, timeout⟩ := by
  by_cases h : normalizeBase text = ""
  · rw [new_of_empty h]
    exact ⟨fun hnew => (nomatch hnew), fun hnew => absurd h hnew.1⟩
  · rw [new_of_ne_empty h]
    exact ⟨fun hnew => ⟨h, (Except.ok.inj hnew).symm⟩, fun hnew => congrArg Except.ok hnew.2.symm⟩

theorem new_eq_error_iff {e : ScanError} :
    new text timeout = .error e ↔ SaysNothing text ∧ e = .config missingBase := by
  rw [← normalizeBase_eq_empty_iff]
  by_cases h : normalizeBase text = ""
  · rw [new_of_empty h]
    exact ⟨fun hnew => ⟨h, (Except.error.inj hnew).symm⟩,
      fun hnew => congrArg Except.error hnew.2.symm⟩
  · rw [new_of_ne_empty h]
    exact ⟨fun hnew => (nomatch hnew), fun hnew => absurd hnew.1 h⟩

/-- What is kept of a text that says something begins with the first character it says. -/
theorem first_of_new (h : new text timeout = .ok client) {c : Char}
    (hc : client.baseUrl.toList.head? = some c) : isBlank c = false := by
  obtain ⟨hne, rfl⟩ := new_eq_ok_iff.mp h
  obtain ⟨-, before, slashes, after, -, -, -, htight, -⟩ := normalizeBase_eq_iff.mp (Eq.refl _)
  apply htight.first
  rw [List.head?_append_of_ne_nil _ (mt String.toList_eq_nil_iff.mp hne)]
  exact hc

theorem last_of_new (h : new text timeout = .ok client) :
    client.baseUrl.toList.getLast? ≠ some '/' := by
  obtain ⟨-, rfl⟩ := new_eq_ok_iff.mp h
  exact (normalizeBase_eq_iff.mp (Eq.refl _)).1

theorem baseUrl_ne_empty (h : new text timeout = .ok client) : client.baseUrl ≠ "" := by
  obtain ⟨hne, rfl⟩ := new_eq_ok_iff.mp h
  exact hne

/-- The address ends in a blank if the text hides one. -/
theorem last_isBlank_iff (h : new text timeout = .ok client) :
    (∃ c, client.baseUrl.toList.getLast? = some c ∧ isBlank c = true) ↔ HidesBlank text := by
  obtain ⟨hne, rfl⟩ := new_eq_ok_iff.mp h
  constructor
  · rintro ⟨blank, hlast, hblank⟩
    obtain ⟨-, before, slashes, after, -, hslashes, hafter, htight, htext⟩ :=
      normalizeBase_eq_iff.mp (Eq.refl (normalizeBase text))
    obtain ⟨front, hfront⟩ := List.getLast?_eq_some_iff.mp hlast
    simp only at hfront
    rw [hfront] at htight htext
    -- a blank cannot be the last of what is left without the blanks, nor the first
    have hmore : slashes ≠ [] := by
      rintro rfl
      have hedge := htight.last blank (by simp)
      rw [hblank] at hedge
      cases hedge
    have hbefore : front ≠ [] := by
      rintro rfl
      have hedge := htight.first blank (by simp)
      rw [hblank] at hedge
      cases hedge
    obtain ⟨slash, slashes, rfl⟩ := List.exists_cons_of_ne_nil hmore
    obtain ⟨c, front, rfl⟩ := List.exists_cons_of_ne_nil hbefore
    obtain rfl : slash = '/' := hslashes slash List.mem_cons_self
    refine ⟨before ++ c :: front, blank, slashes, after, hblank,
      fun d hd => hslashes d (List.mem_cons_of_mem _ hd), hafter, ?_, c, by simp, ?_⟩
    · rw [htext]
      simp
    · exact htight.first c (by simp)
  · rintro ⟨front, blank, slashes, after, hblank, hslashes, hafter, htext, c, hc, hsays⟩
    refine ⟨blank, ?_, hblank⟩
    -- what the text says begins somewhere in front of the blank
    have hbefore : Blanks (front.takeWhile isBlank) := fun d hd => List.mem_takeWhile_imp hd
    have hsaid : front.dropWhile isBlank ≠ [] := by
      intro hnil
      rw [List.dropWhile_eq_nil_iff.mp hnil c hc] at hsays
      cases hsays
    have hbase : normalizeBase text = String.ofList (front.dropWhile isBlank ++ [blank]) := by
      rw [normalizeBase_eq_iff, String.toList_ofList]
      refine ⟨?_, front.takeWhile isBlank, '/' :: slashes, after, hbefore, ?_, hafter, ⟨?_, ?_⟩, ?_⟩
      · rw [List.getLast?_concat]
        intro hslash
        rw [Option.some.inj hslash] at hblank
        cases hblank
      · intro d hd
        exact (List.mem_cons.mp hd).elim id (hslashes d)
      · intro d hd
        have hnot := List.head?_dropWhile_not isBlank front
        rw [List.append_assoc, List.head?_append_of_ne_nil _ hsaid] at hd
        rw [hd] at hnot
        exact hnot
      · intro d hd
        rw [List.getLast?_append_of_ne_nil _ (List.cons_ne_nil _ _)] at hd
        have hmem := List.mem_of_getLast? hd
        rw [(List.mem_cons.mp hmem).elim id (hslashes d)]
        decide
      · rw [htext]
        simp only [List.append_assoc, List.cons_append, List.nil_append]
        rw [← List.append_assoc, List.takeWhile_append_dropWhile]
    simp only [hbase, String.toList_ofList, List.getLast?_concat]

/-- A client made of the address of a client has this address too, if it does not end in a blank. -/
theorem new_baseUrl_iff (h : new text timeout = .ok client) :
    new client.baseUrl timeout = .ok client ↔
      ∀ c, client.baseUrl.toList.getLast? = some c → isBlank c = false := by
  have hne := baseUrl_ne_empty h
  have hself : new client.baseUrl timeout = .ok client ↔
      normalizeBase client.baseUrl = client.baseUrl := by
    have htimeout : client.timeout = timeout := by rw [(new_eq_ok_iff.mp h).2]
    rw [new_eq_ok_iff]
    constructor
    · rintro ⟨-, hclient⟩
      exact (congrArg baseUrl hclient).symm
    · intro hbase
      rw [hbase, ← htimeout]
      exact ⟨hne, rfl⟩
  rw [hself, normalizeBase_eq_self_iff]
  constructor
  · rintro ⟨-, htight⟩
    exact htight.last
  · intro hlast
    exact ⟨last_of_new h, fun c hc => first_of_new h hc, hlast⟩

/-! ## The main result -/

/-- Of blanks and slashes alone a text says nothing, unless one of the blanks is hidden. -/
theorem saysNothing_iff (h : ¬HidesBlank text) :
    SaysNothing text ↔ ∀ c ∈ text.toList, isBlank c = true ∨ c = '/' := by
  constructor
  · rintro ⟨before, slashes, after, hbefore, hslashes, hafter, htext⟩ c hc
    rw [htext, List.mem_append, List.mem_append] at hc
    obtain (hc | hc) | hc := hc
    · exact .inl (hbefore c hc)
    · exact .inr (hslashes c hc)
    · exact .inl (hafter c hc)
  · intro hall
    rw [← normalizeBase_eq_empty_iff]
    by_contra hne
    have hnew := new_of_ne_empty hne 0
    obtain ⟨c, hc⟩ : ∃ c, (normalizeBase text).toList.getLast? = some c :=
      Option.isSome_iff_exists.mp
        (List.getLast?_isSome.mpr (mt String.toList_eq_nil_iff.mp hne))
    -- the address ends in a character of the text that is no slash, so in a blank
    have hmem : c ∈ text.toList := by
      obtain ⟨-, before, slashes, after, -, -, -, -, htext⟩ :=
        normalizeBase_eq_iff.mp (Eq.refl (normalizeBase text))
      rw [htext]
      simp [List.mem_of_getLast? hc]
    cases hall c hmem with
    | inl hblank => exact h ((last_isBlank_iff hnew).mp ⟨c, hc, hblank⟩)
    | inr hslash =>
      rw [hslash] at hc
      exact last_of_new hnew hc

/-- A call sends one request, whose address is the base address and then a path of the call with one
slash at its beginning. -/
structure AsksBelow (client : Client) (path : String) (call : Network → Network) : Prop where
  slash : ∃ c rest, path.toList = '/' :: c :: rest ∧ c ≠ '/'
  request : ∃ method part, ∀ network,
    call network =
      (network.request (client.baseUrl ++ path) method userAgent part client.timeout).2

/-- The requests of a client all go to addresses below its base address. -/
structure StaysBelow (client : Client) : Prop where
  upload : ∀ filename contents,
    client.AsksBelow "/upload/" fun network => (client.upload filename contents network).2.2
  poll : ∀ scanId,
    client.AsksBelow ("/scan/" ++ encodeSegment scanId ++ "/") fun network =>
      (client.poll scanId network).2.2
  health : client.AsksBelow "/health/" fun network => (client.health network).2
  modelInfo : client.AsksBelow "/model-info/" fun network => (client.modelInfo network).2

theorem stays_below (client : Client) : client.StaysBelow where
  upload filename contents := by
    refine ⟨⟨'u', "pload/".toList, by decide +kernel, by decide⟩, "POST",
      some (filePart filename contents), fun network => ?_⟩
    rw [Client.upload, uploadUrl]
  poll scanId := by
    refine ⟨⟨'s', "can/".toList ++ (encodeSegment scanId).toList ++ ['/'], ?_, by decide⟩,
      "GET", none, fun network => ?_⟩
    · simp
    · rw [Client.poll, get, statusUrl]
      simp only [String.append_assoc]
  health := by
    refine ⟨⟨'h', "ealth/".toList, by decide +kernel, by decide⟩, "GET", none, fun network => ?_⟩
    rw [Client.health, get]
  modelInfo := by
    refine ⟨⟨'m', "odel-info/".toList, by decide +kernel, by decide⟩, "GET", none,
      fun network => ?_⟩
    rw [Client.modelInfo, get]

/-- There is no client for a text of nothing but blanks, slashes and blanks, for lack of an address,
and one for every other text. Its address is not empty, does not begin with a blank and does not end
with a slash, and a request goes to it with the path of the call behind it. It ends with a blank if
the text hides one before slashes; if not, a client made of it has the same address. -/
theorem base_address_kept (text : String) (timeout : Nat) :
    (∀ e, new text timeout = .error e ↔ SaysNothing text ∧ e = .config missingBase) ∧
    ((∃ client, new text timeout = .ok client) ↔ ¬SaysNothing text) ∧
    (¬HidesBlank text →
      (SaysNothing text ↔ ∀ c ∈ text.toList, isBlank c = true ∨ c = '/')) ∧
    ∀ client, new text timeout = .ok client →
      client.baseUrl ≠ "" ∧
      (∀ c, client.baseUrl.toList.head? = some c → isBlank c = false) ∧
      client.baseUrl.toList.getLast? ≠ some '/' ∧
      ((∃ c, client.baseUrl.toList.getLast? = some c ∧ isBlank c = true) ↔ HidesBlank text) ∧
      (new client.baseUrl timeout = .ok client ↔ ¬HidesBlank text) ∧
      client.StaysBelow := by
  refine ⟨fun e => new_eq_error_iff, ?_, saysNothing_iff, fun client h => ?_⟩
  · rw [← normalizeBase_eq_empty_iff]
    constructor
    · rintro ⟨client, h⟩
      exact (new_eq_ok_iff.mp h).1
    · intro hne
      exact ⟨_, new_eq_ok_iff.mpr ⟨hne, rfl⟩⟩
  · have hlast := last_isBlank_iff h
    refine ⟨baseUrl_ne_empty h, fun c hc => first_of_new h hc, last_of_new h, hlast, ?_,
      client.stays_below⟩
    rw [new_baseUrl_iff h, ← hlast]
    simp

/-- Slashes with a blank between them say nothing, but they are kept, and not for good. -/
theorem blank_between_slashes :
    new "/ /" 30000 = .ok ⟨"/ ", 30000⟩ ∧ new "/ " 30000 = .error (.config missingBase) ∧
      new "http://a/ /" 30000 = .ok ⟨"http://a/ ", 30000⟩ ∧
      new "http://a/ " 30000 = .ok ⟨"http://a", 30000⟩ := by
  have hslashes : normalizeBase "/ /" = "/ " := by decide +kernel
  have hslash : normalizeBase "/ " = "" := by decide +kernel
  have hhost : normalizeBase "http://a/ /" = "http://a/ " := by decide +kernel
  have hagain : normalizeBase "http://a/ " = "http://a" := by decide +kernel
  refine ⟨?_, ?_, ?_, ?_⟩
  · rw [new, hslashes]
    rfl
  · rw [new, hslash]
    rfl
  · rw [new, hhost]
    rfl
  · rw [new, hagain]
    rfl

end Client

end ScanClient.Http
