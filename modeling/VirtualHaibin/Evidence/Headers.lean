import Mathlib.Data.String.Basic
import VirtualHaibin.Evidence.Exact
import VirtualHaibin.Foundation.Base64Url

/-!
# The service headers

A message travels as the base64url text of its canonical JSON.  The reader bounds the characters of a
header, the schema bounds the characters of each field, and canonical JSON escapes some characters and
writes others in several bytes, so a message within the schema reads back exactly when its header is
within the bound.
-/

namespace VirtualHaibin

open Foundation Foundation.Checked Foundation.Schema

/-! ## Canonical JSON on the wire -/

namespace Foundation.Json

mutual

/-- The numbers in a value. -/
def numbers : Json → List Number
  | .num value => [value]
  | .arr items => numbersItems items
  | .obj members => numbersMembers members
  | _ => []

def numbersItems : List Json → List Number
  | [] => []
  | item :: rest => item.numbers ++ numbersItems rest

def numbersMembers : List (String × Json) → List Number
  | [] => []
  | (_, value) :: rest => value.numbers ++ numbersMembers rest

end

/-- A value whose numbers are all exact integers. -/
def Exact (value : Json) : Prop := ∀ number ∈ value.numbers, number.safeInteger?.isSome = true

/-- The text of a member is part of the text of the object. -/
theorem render_infix_of_mem {members : List (String × Json)} {entry : String × Json} (h : entry ∈ members) :
    entry.2.render <:+: (obj members).render := by
  have htail (rest : List (String × Json)) (hrest : entry ∈ rest) :
      entry.2.render <:+: renderMembersTail rest := by
    induction rest with
    | nil => simp at hrest
    | cons first rest ih =>
      rcases List.mem_cons.1 hrest with rfl | hrest
      · exact ⟨',' :: (Text.quoteChars entry.1 ++ [':']), renderMembersTail rest, by simp [renderMembersTail]⟩
      · refine (ih hrest).trans (List.IsSuffix.isInfix ?_)
        exact ⟨',' :: (Text.quoteChars first.1 ++ ':' :: first.2.render), by simp [renderMembersTail]⟩
  cases members with
  | nil => simp at h
  | cons first rest =>
    rcases List.mem_cons.1 h with rfl | hrest
    · exact ⟨'\x7b' :: (Text.quoteChars entry.1 ++ [':']), renderMembersTail rest, by simp [render, renderMembers]⟩
    · refine (htail rest hrest).trans (List.IsSuffix.isInfix ?_)
      exact ⟨'\x7b' :: (Text.quoteChars first.1 ++ ':' :: first.2.render), by simp [render, renderMembers]⟩

theorem render_normal_infix {members : List (String × Json)} {entry : String × Json} (h : entry ∈ members) :
    entry.2.normal.render <:+: (obj members).normal.render := by
  rw [normal_obj]
  apply @render_infix_of_mem _ (entry.1, entry.2.normal)
  exact (sortMembers_perm _).symm.subset (List.mem_map.2 ⟨entry, h, rfl⟩)

end Foundation.Json

/-- Base64url, UTF-8 and `JSON.parse` undo the encoding of a header. -/
structure Platform.ReadsBack (platform : Platform) : Prop where
  header : ∀ header text, (∀ c ∈ header.toList, Base64Url.isDigit c = true) →
    Base64Url.decode header.toList = Base64Url.utf8 text → platform.parseBase64Url header = platform.parseJson text
  empty : platform.parseJson "" = none
  canonical : ∀ value : Json, value.Distinct → value.Exact → ∃ parsed,
    platform.parseJson (platform.canonicalize value) = some parsed ∧ parsed.Same value

namespace Evidence

/-- Header encoding: base64url of the canonical JSON. -/
def encodeServiceHeader (platform : Platform) (message : Json) : String :=
  Base64Url.encodeText (platform.canonicalize message)

/-- The refusal of a header that is too long or not base64url. -/
def headerRefused : FormatError := ⟨"header", "must be bounded base64url"⟩

variable {platform : Platform}

theorem isDigit_basic {c : Char} (h : Base64Url.isDigit c = true) : c.toNat < 0x10000 := by
  simp only [Base64Url.isDigit, Bool.or_eq_true, decide_eq_true_eq] at h
  rcases h with (h | rfl) | rfl
  · exact Text.isAlphanum_basic h
  · decide
  · decide

theorem utf16Length_encodeText (text : String) :
    Text.utf16Length (Base64Url.encodeText text) = (4 * text.utf8ByteSize + 2) / 3 := by
  have hclass : Text.inClass Base64Url.isDigit ((4 * text.utf8ByteSize + 2) / 3)
      ((4 * text.utf8ByteSize + 2) / 3) (Base64Url.encodeText text) = true := by
    simp only [Text.inClass, Base64Url.length_encodeText, le_refl, decide_true, Bool.and_true, List.all_eq_true]
    exact Base64Url.isDigit_encodeText text
  obtain ⟨hlow, hhigh⟩ := Text.utf16Length_of_inClass (fun _ ↦ isDigit_basic) hclass
  omega

/-- A header of the alphabet within the bound is read as its JSON. -/
theorem decodeHeader_of_inClass {header : String} {parsed : Json}
    (h : Text.inClass Base64Url.isDigit 1 MAX_HEADER_CHARS header = true)
    (hread : platform.parseBase64Url header = some parsed) : decodeHeader platform header = .ok parsed := by
  obtain ⟨hne, hhigh⟩ := bounded_of_inClass (fun _ ↦ isDigit_basic) (by decide) h
  simp only [Text.inClass, Bool.and_eq_true] at h
  have halphabet : BASE64_URL header = true := by
    rw [BASE64_URL, Bool.and_eq_true, decide_eq_true_eq]
    exact ⟨hne, h.1.1⟩
  simp [decodeHeader, hne, hhigh, halphabet, hread]

/-- The reader hands on what base64url and JSON make of a header within the bound. -/
theorem decodeHeader_encodeText {text : String} {parsed : Json} (hne : text ≠ "")
    (hread : platform.parseBase64Url (Base64Url.encodeText text) = some parsed) :
    decodeHeader platform (Base64Url.encodeText text) =
      if Text.utf16Length (Base64Url.encodeText text) ≤ MAX_HEADER_CHARS then .ok parsed else .error headerRefused := by
  have hnonempty : Base64Url.encodeText text ≠ "" := by
    intro hempty
    have hsize := utf16Length_encodeText text
    rw [hempty, show Text.utf16Length "" = 0 from rfl] at hsize
    have hpositive : text.utf8ByteSize ≠ 0 := fun hzero ↦ hne (String.utf8ByteSize_eq_zero_iff.1 hzero)
    omega
  have halphabet : BASE64_URL (Base64Url.encodeText text) = true := by
    simp only [BASE64_URL, Bool.and_eq_true, decide_eq_true_eq, List.all_eq_true]
    exact ⟨hnonempty, Base64Url.isDigit_encodeText text⟩
  unfold decodeHeader
  by_cases hsize : Text.utf16Length (Base64Url.encodeText text) ≤ MAX_HEADER_CHARS
  · simp [hnonempty, halphabet, hsize, hread]
  · simp [hsize, guardThat, headerRefused]
    rfl

/-- Within the bound the reader has the message again; beyond it the header is refused. -/
theorem decodeHeader_encodeServiceHeader (hback : platform.ReadsBack) {message : Json} (hdistinct : message.Distinct)
    (hexact : message.Exact) : ∃ parsed, parsed.Same message ∧
      decodeHeader platform (encodeServiceHeader platform message) =
        if Text.utf16Length (encodeServiceHeader platform message) ≤ MAX_HEADER_CHARS then .ok parsed
        else .error headerRefused := by
  obtain ⟨parsed, hparsed, hsame⟩ := hback.canonical message hdistinct hexact
  refine ⟨parsed, hsame, ?_⟩
  have hread : platform.parseBase64Url (encodeServiceHeader platform message) = some parsed := by
    rw [← hparsed]
    exact hback.header _ _ (Base64Url.isDigit_encodeText _) (Base64Url.decode_encodeText _)
  refine decodeHeader_encodeText (fun hempty ↦ ?_) hread
  rw [hempty, hback.empty] at hparsed
  cases hparsed

theorem exact_int {number : ℤ} {min : ℤ} (h : SafeFrom min number) :
    (Number.finite number).safeInteger?.isSome = true := by
  rw [safeInteger?_finite h.2.1 h.2.2]
  rfl

theorem serviceAuthorization_exact {authorization : SignedServiceAuthorizationV1}
    (h : SignedServiceAuthorizationV1.Fits authorization) : authorization.toJson.Exact := by
  have hnumbers : authorization.toJson.numbers =
      [.finite (1 : ℤ), .finite authorization.issuedAt, .finite authorization.expiresAt] := rfl
  have hversion : (Number.finite (1 : ℤ)).safeInteger?.isSome = true := by decide
  rw [Json.Exact, hnumbers]
  simp only [List.forall_mem_cons, List.not_mem_nil, false_imp_iff, implies_true, and_true]
  exact ⟨hversion, exact_int h.issuedAt, exact_int h.expiresAt⟩

theorem serviceAcknowledgement_exact {acknowledgement : SignedServiceAcknowledgementV1}
    (h : SignedServiceAcknowledgementV1.Fits acknowledgement) : acknowledgement.toJson.Exact := by
  have hnumbers : acknowledgement.toJson.numbers = [.finite (1 : ℤ), .finite acknowledgement.httpStatus,
      .finite acknowledgement.bytes, .finite acknowledgement.fulfilledAt] := by
    obtain ⟨⟨service, invocationId, authorizationDigest, requestSha256, received, transaction⟩⟩ := acknowledgement
    cases transaction <;> rfl
  have hversion : (Number.finite (1 : ℤ)).safeInteger?.isSome = true := by decide
  rw [Json.Exact, hnumbers]
  simp only [List.forall_mem_cons, List.not_mem_nil, false_imp_iff, implies_true, and_true]
  exact ⟨hversion, exact_int h.httpStatus, exact_int h.bytes, exact_int h.fulfilledAt⟩

theorem decodeServiceAuthorizationHeader_fits {authorization : SignedServiceAuthorizationV1}
    (hback : platform.ReadsBack) (hfits : SignedServiceAuthorizationV1.Fits authorization) :
    decodeServiceAuthorizationHeader platform (encodeServiceHeader platform authorization.toJson) =
      if Text.utf16Length (encodeServiceHeader platform authorization.toJson) ≤ MAX_HEADER_CHARS then
        .ok authorization
      else .error headerRefused := by
  obtain ⟨parsed, hsame, hdecoded⟩ := decodeHeader_encodeServiceHeader hback
    (serviceAuthorization_distinct authorization) (serviceAuthorization_exact hfits)
  rw [decodeServiceAuthorizationHeader, hdecoded]
  split
  · exact parseServiceAuthorization_reads hfits ⟨parsed, rfl, hsame⟩
  · rfl

theorem decodeServiceAcknowledgementHeader_fits {acknowledgement : SignedServiceAcknowledgementV1}
    (hback : platform.ReadsBack) (hfits : SignedServiceAcknowledgementV1.Fits acknowledgement) :
    decodeServiceAcknowledgementHeader platform (encodeServiceHeader platform acknowledgement.toJson) =
      if Text.utf16Length (encodeServiceHeader platform acknowledgement.toJson) ≤ MAX_HEADER_CHARS then
        .ok acknowledgement
      else .error headerRefused := by
  obtain ⟨parsed, hsame, hdecoded⟩ := decodeHeader_encodeServiceHeader hback
    (serviceAcknowledgement_distinct acknowledgement) (serviceAcknowledgement_exact hfits)
  rw [decodeServiceAcknowledgementHeader, hdecoded]
  split
  · exact parseServiceAcknowledgement_reads hfits ⟨parsed, rfl, hsame⟩
  · rfl

/-- A message is read back from its header exactly when the header is within the bound, and the length of
a header is that of the canonical JSON in bytes, four characters for three. -/
theorem service_header_round_trip (hback : platform.ReadsBack) :
    (∀ path value authorization, parseServiceAuthorization path value = .ok authorization →
      decodeServiceAuthorizationHeader platform (encodeServiceHeader platform authorization.toJson) =
        if Text.utf16Length (encodeServiceHeader platform authorization.toJson) ≤ MAX_HEADER_CHARS then
          .ok authorization
        else .error headerRefused) ∧
    (∀ path value acknowledgement, parseServiceAcknowledgement path value = .ok acknowledgement →
      decodeServiceAcknowledgementHeader platform (encodeServiceHeader platform acknowledgement.toJson) =
        if Text.utf16Length (encodeServiceHeader platform acknowledgement.toJson) ≤ MAX_HEADER_CHARS then
          .ok acknowledgement
        else .error headerRefused) ∧
    ∀ message, Text.utf16Length (encodeServiceHeader platform message) =
      (4 * (platform.canonicalize message).utf8ByteSize + 2) / 3 := by
  refine ⟨fun path value authorization haccepted ↦ ?_, fun path value acknowledgement haccepted ↦ ?_,
    fun message ↦ utf16Length_encodeText _⟩
  · exact decodeServiceAuthorizationHeader_fits hback (parseServiceAuthorization_accepted haccepted).1
  · exact decodeServiceAcknowledgementHeader_fits hback (parseServiceAcknowledgement_accepted haccepted).1

/-! ## A message too long for its header -/

namespace Sample

open Classical in
/-- The value a text is the canonical JSON of. -/
noncomputable def readCanonical (text : String) : Option Json :=
  if h : ∃ value : Json, value.Distinct ∧ value.canonical = text then some h.choose else none

/-- Canonical JSON and base64url, read back. -/
noncomputable def transport : Platform := {
  Platform.plain with
  parseJson := readCanonical
  parseBase64Url := fun header ↦
    (String.fromUTF8? ⟨(Base64Url.decode header.toList).toArray⟩).bind readCanonical }

theorem canonical_ne_empty (value : Json) : value.canonical ≠ "" := by
  intro hempty
  have hnil : value.normal.render = [] := by simpa [Json.canonical] using congrArg String.toList hempty
  have hclose := @Json.render_ne_close value.normal [']'] [] ']' (by decide)
  rw [hnil] at hclose
  exact hclose rfl

theorem transport_readsBack : transport.ReadsBack where
  header header text _ hdecode := by
    have hbytes : String.fromUTF8? ⟨(Base64Url.utf8 text).toArray⟩ = some text := by
      simp only [Base64Url.utf8, Array.toArray_toList, String.fromUTF8?]
      exact dif_pos text.isValidUTF8
    show (String.fromUTF8? ⟨(Base64Url.decode header.toList).toArray⟩).bind readCanonical = readCanonical text
    rw [hdecode, hbytes]
    rfl
  empty := by
    apply dif_neg
    rintro ⟨value, -, hempty⟩
    exact canonical_ne_empty value hempty
  canonical value hdistinct _ := by
    have hfound : ∃ found : Json, found.Distinct ∧ found.canonical = value.canonical := ⟨value, hdistinct, rfl⟩
    refine ⟨hfound.choose, dif_pos hfound, ?_⟩
    obtain ⟨hchosen, htext⟩ := hfound.choose_spec
    exact Json.same_of_normal _ _ (Json.canonical_injective htext) hchosen hdistinct

/-- Letters that UTF-8 writes in two bytes each. -/
def note (letters : ℕ) : String := String.ofList (List.replicate letters 'é')

theorem utf16Length_note (letters : ℕ) : Text.utf16Length (note letters) = letters := by
  have hletter : (if 0x10000 ≤ 'é'.toNat then 2 else 1) = 1 := if_neg (by decide)
  rw [Text.utf16Length, note, String.toList_ofList, List.map_replicate, hletter, List.sum_replicate_nat, Nat.mul_one]

theorem utf16Length_append (s t : String) : Text.utf16Length (s ++ t) = Text.utf16Length s + Text.utf16Length t := by
  rw [Text.utf16Length, String.toList_append, List.map_append, List.sum_append]
  rfl

theorem escaped_note (letters : ℕ) :
    (List.replicate letters 'é').flatMap Text.escapeChar = List.replicate letters 'é' := by
  have hletter : Text.escapeChar 'é' = ['é'] := by decide
  induction letters with
  | zero => simp
  | succ letters ih => rw [List.replicate_succ, List.flatMap_cons, ih, hletter, List.singleton_append]

theorem utf8Len_note (letters : ℕ) : String.utf8Len (List.replicate letters 'é') = letters * 2 := by
  have hletter : 'é'.utf8Size = 2 := by decide
  induction letters with
  | zero => simp
  | succ letters ih => rw [List.replicate_succ, String.utf8Len_cons, ih, hletter, Nat.succ_mul]

/-- Every letter of the note takes its two bytes in a literal. -/
theorem utf8Len_quote_note (front : String) (letters : ℕ) :
    letters * 2 ≤ String.utf8Len (Text.quoteChars (front ++ note letters)) := by
  have hinfix : List.replicate letters 'é' <:+: Text.quoteChars (front ++ note letters) := by
    refine ⟨'"' :: front.toList.flatMap Text.escapeChar, ['"'], ?_⟩
    rw [Text.quoteChars, note, String.toList_append, String.toList_ofList, List.flatMap_append, escaped_note]
    simp only [List.cons_append, List.append_assoc]
  rw [← utf8Len_note]
  exact String.utf8Len_le_of_infix hinfix

/-- An authorization within the schema whose URL has two thousand such letters. -/
def lengthy : SignedServiceAuthorizationV1 where
  authority := "11111111111111111111111111111111"
  invocationId := "invocation-1"
  grantId := "grant-1"
  url := "https://provider.example/data?note=" ++ note 2000
  requestSha256 := String.ofList (List.replicate 64 'a')
  operationDigest := String.ofList (List.replicate 64 'b')
  payment := { network := "solana:mainnet", asset := "usdc", payTo := "provider", amountAtomic := "10000" }
  issuedAt := 1000
  expiresAt := 121000
  signature := "1111"

theorem lengthy_fits : lengthy.Fits where
  authority := ⟨by decide, by decide⟩
  invocationId := by decide
  grantId := by decide
  url := by
    have hfront : Text.utf16Length "https://provider.example/data?note=" = 35 := by decide
    have hlength : Text.utf16Length lengthy.url = 2035 := by
      rw [lengthy, utf16Length_append, hfront, utf16Length_note]
    refine ⟨fun hempty ↦ ?_, hlength.trans_le (by decide)⟩
    rw [hempty] at hlength
    cases hlength
  requestSha256 := ⟨by decide, by decide⟩
  operationDigest := ⟨by decide, by decide⟩
  network := by decide
  asset := by decide
  payTo := by decide
  amountAtomic := ⟨by decide, by decide⟩
  issuedAt := by decide
  expiresAt := by decide
  signature := ⟨by decide, by decide⟩

/-- The header of the message is longer than the bound. -/
theorem lengthy_header : MAX_HEADER_CHARS < Text.utf16Length (encodeServiceHeader transport lengthy.toJson) := by
  have hurl := @Json.render_normal_infix [("method", .str "POST"), ("url", .str lengthy.url),
    ("contentType", .str "application/json"), ("requestSha256", .str lengthy.requestSha256)]
    ("url", .str lengthy.url) (by simp)
  have hrequest := @Json.render_normal_infix
    (lengthy.members ++ [("signature", Mandate.signatureJson lengthy.signature)])
    ("request", .obj [("method", .str "POST"), ("url", .str lengthy.url), ("contentType", .str "application/json"),
      ("requestSha256", .str lengthy.requestSha256)]) (by simp [UnsignedServiceAuthorizationV1.members])
  have hquote := String.utf8Len_le_of_infix (hurl.trans hrequest)
  have hletters := utf8Len_quote_note "https://provider.example/data?note=" 2000
  have hbytes : 4000 ≤ (transport.canonicalize lengthy.toJson).utf8ByteSize := by
    show 4000 ≤ (String.ofList lengthy.toJson.normal.render).utf8ByteSize
    rw [String.utf8ByteSize_ofList]
    exact hletters.trans hquote
  rw [encodeServiceHeader, utf16Length_encodeText, MAX_HEADER_CHARS]
  omega

/-- The message without the note. -/
def short : SignedServiceAuthorizationV1 :=
  { lengthy with url := "https://provider.example/data" }

theorem short_fits : short.Fits :=
  { lengthy_fits with url := by decide }

theorem short_header : Text.utf16Length (encodeServiceHeader transport short.toJson) ≤ MAX_HEADER_CHARS := by
  have hbytes : short.toJson.canonical.utf8ByteSize ≤ 3072 := by
    rw [Json.canonical, String.utf8ByteSize_ofList]
    decide +kernel
  have htext : transport.canonicalize short.toJson = short.toJson.canonical := rfl
  rw [encodeServiceHeader, utf16Length_encodeText, MAX_HEADER_CHARS, htext]
  omega

end Sample

/-- A short message travels. -/
theorem service_header_round_trip_short :
    decodeServiceAuthorizationHeader Sample.transport
      (encodeServiceHeader Sample.transport Sample.short.toJson) = .ok Sample.short := by
  have hread := (service_header_round_trip Sample.transport_readsBack).1 "$" _ Sample.short
    (parseServiceAuthorization_toJson Sample.short_fits)
  rwa [if_pos Sample.short_header] at hread

/-- A message of the schema that its own reader refuses. -/
theorem service_header_lengthy :
    parseServiceAuthorization "$" (some Sample.lengthy.toJson) = .ok Sample.lengthy ∧
      decodeServiceAuthorizationHeader Sample.transport
        (encodeServiceHeader Sample.transport Sample.lengthy.toJson) = .error headerRefused := by
  obtain ⟨parsed, -, hdecoded⟩ := decodeHeader_encodeServiceHeader Sample.transport_readsBack
    (serviceAuthorization_distinct Sample.lengthy) (serviceAuthorization_exact Sample.lengthy_fits)
  rw [if_neg (not_le.2 Sample.lengthy_header)] at hdecoded
  refine ⟨parseServiceAuthorization_toJson Sample.lengthy_fits, ?_⟩
  rw [decodeServiceAuthorizationHeader, hdecoded]
  rfl

end Evidence

end VirtualHaibin
