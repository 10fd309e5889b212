import Mathlib.Data.List.Basic
import Passkey.Proofs.Attestation.Checks
import Passkey.Proofs.Wire.Members
import Passkey.Proofs.X509.CommonName
import Passkey.X509.Writing

/-!
# Which SafetyNet statements are verified

The response of the service is one text that is cut twice: at its two points for reading, and at the
last point for what is signed. Both ways of cutting agree: what is signed is the header and the
payload that are read (`Token.IsReceivedAs.signed_eq`), and no other header and payload spell it
(`Token.IsReceivedAs.signed_inj`). So the conditions under which a statement is verified speak of
one header and one payload only (`safetyNet_decided`), and a token that the service lays out in the
plain way and signs meets them (`attests_layOut`).
-/

namespace Passkey

open X509 (Certificate)

/-! ### Cutting at a separator -/

section Cutting

variable {α : Type} [DecidableEq α] {x : α} {xs piece : List α} {pieces : List (List α)}

theorem not_mem_of_mem_splitOn (h : piece ∈ xs.splitOn x) : x ∉ piece := by
  induction xs generalizing piece with
  | nil =>
    obtain rfl := List.mem_singleton.1 h
    exact List.not_mem_nil
  | cons a xs ih =>
    rw [List.splitOn_cons_eq_if_modifyHead] at h
    split at h
    · rcases List.mem_cons.1 h with rfl | h
      · exact List.not_mem_nil
      · exact ih h
    · next hne =>
      -- The new item joins the first of the pieces, and none of these contains the separator.
      obtain ⟨first, rest, hsplit⟩ := List.exists_cons_of_ne_nil (List.splitOn_ne_nil x xs)
      rw [hsplit, List.modifyHead_cons] at h
      rcases List.mem_cons.1 h with rfl | h
      · have hfirst : x ∉ first := ih (hsplit ▸ List.mem_cons_self)
        simp only [beq_iff_eq] at hne
        exact List.not_mem_cons_of_ne_of_not_mem (Ne.symm hne) hfirst
      · exact ih (hsplit ▸ List.mem_cons_of_mem first h)

/-- A list is cut into these pieces exactly if it consists of them with separators between, and none
contains a separator itself. -/
theorem splitOn_eq_iff (hpieces : pieces ≠ []) :
    xs.splitOn x = pieces ↔ xs = [x].intercalate pieces ∧ ∀ piece ∈ pieces, x ∉ piece := by
  constructor
  · rintro rfl
    exact ⟨(List.intercalate_splitOn x).symm, fun _ => not_mem_of_mem_splitOn⟩
  · rintro ⟨rfl, hpiece⟩
    exact List.splitOn_intercalate x hpiece hpieces

end Cutting

/-! ### Tokens -/

namespace Attestation

/-- The last point is where the search from the end stops. -/
theorem signedLength_append {front rest : List Char} (hrest : '.' ∉ rest) :
    signedLength (front ++ '.' :: rest) = front.length := by
  have hnone : rest.reverse.findIdx? (· == '.') = none := by
    simpa using fun c hc (h : c = '.') => hrest (h ▸ hc)
  have hfind : (front ++ '.' :: rest).reverse.findIdx? (· == '.') = some rest.length := by
    simp [List.findIdx?_append, hnone, List.findIdx?_cons]
  simp only [signedLength, hfind, List.length_append, List.length_cons]
  omega

variable {s : AttestationStatement} {context : AttestationContext} {v : StatementVerdict}
  {token other : Token} {response : Bytes} {text : String}

/-- The octets spell the text of the token, which is the three parts with points between them, and
there are no points within the parts. -/
structure Token.IsReceivedAs (token : Token) (response : Bytes) : Prop where
  octets : response = Utf8.encode token.text
  text : token.text = token.header ++ "." ++ token.payload ++ "." ++ token.signature
  header : '.' ∉ token.header.toList
  payload : '.' ∉ token.payload.toList
  signature : '.' ∉ token.signature.toList

theorem Token.ofText?_eq_some :
    Token.ofText? text = some token ↔ token.IsReceivedAs (Utf8.encode text) := by
  obtain ⟨whole, header, payload, signature⟩ := token
  have hcut : Token.ofText? text = some ⟨whole, header, payload, signature⟩ ↔
      whole = text ∧
        text.toList.splitOn '.' = [header.toList, payload.toList, signature.toList] := by
    unfold Token.ofText?
    split
    · next hsplit => simp [hsplit, ← String.toList_inj, eq_comm]
    · next hnot => exact ⟨nofun, fun h => absurd h.2 (hnot _ _ _)⟩
  have htext : ['.'].intercalate [header.toList, payload.toList, signature.toList] =
      (header ++ "." ++ payload ++ "." ++ signature).toList := by
    simp
  rw [hcut, splitOn_eq_iff (List.cons_ne_nil _ _), htext, String.toList_inj]
  simp only [List.forall_mem_cons]
  constructor
  · rintro ⟨rfl, hparts, hheader, hpayload, hsignature, -⟩
    exact ⟨rfl, hparts, hheader, hpayload, hsignature⟩
  · intro h
    obtain rfl : text = whole := Utf8.encode_inj.1 h.octets
    exact ⟨rfl, h.text, h.header, h.payload, h.signature, List.forall_mem_nil _⟩

theorem Token.IsReceivedAs.unique (h : token.IsReceivedAs response)
    (hother : other.IsReceivedAs response) : other = token := by
  obtain ⟨text, rfl⟩ : ∃ text, response = Utf8.encode text := ⟨_, h.octets⟩
  have hcut := Token.ofText?_eq_some.2 h
  rw [Token.ofText?_eq_some.2 hother] at hcut
  exact Option.some.inj hcut

/-- The front of the text up to the last point is the header and the payload that are read. -/
theorem Token.IsReceivedAs.signed_eq (h : token.IsReceivedAs response) :
    token.signed = Utf8.encode (token.header ++ "." ++ token.payload) := by
  have htext : token.text.toList
      = (token.header ++ "." ++ token.payload).toList ++ '.' :: token.signature.toList := by
    simp [h.text]
  rw [Token.signed, htext, signedLength_append h.signature, List.take_left, String.ofList_toList]

/-- What is signed are the octets up to the last point, as they were received. -/
theorem Token.IsReceivedAs.signed_front (h : token.IsReceivedAs response) :
    response = token.signed ++ 0x2e :: Utf8.encode token.signature := by
  rw [h.octets, h.text, Utf8.encode_append, Utf8.encode_append, h.signed_eq, List.append_assoc]
  rfl

theorem Token.IsReceivedAs.signed_inj (h : token.IsReceivedAs response) {header payload : String}
    (hsigned : Utf8.encode (header ++ "." ++ payload) = token.signed) :
    header = token.header ∧ payload = token.payload := by
  rw [h.signed_eq] at hsigned
  have hlist := congrArg String.toList (Utf8.encode_inj.1 hsigned)
  simp only [String.toList_append, List.append_assoc] at hlist
  -- The point of the signed text is the only one in it, so it is where both texts are cut.
  obtain ⟨hheader, -, hpayload⟩ :=
    (List.append_cons_inj_of_notMem h.header h.payload).1 hlist.symm
  exact ⟨(String.toList_inj.1 hheader).symm, (String.toList_inj.1 hpayload).symm⟩

theorem tokenOf_eq_ok :
    tokenOf s = .ok token ↔ (∃ version, s.get? "ver" = some (.text version) ∧ version ≠ "") ∧
      ∃ response, s.get? "response" = some (.bytes response) ∧ token.IsReceivedAs response := by
  have hversion : ¬ ((s.text? "ver").getD "").isEmpty = true ↔
      ∃ version, s.get? "ver" = some (.text version) ∧ version ≠ "" := by
    simp only [← AttestationStatement.text?_eq_some]
    cases s.text? "ver" <;> simp
  simp only [tokenOf, throw_eq_error, error_bind, refuse_eq_ok, hversion, bind_eq_ok,
    AttestationStatement.require_member_eq_ok, AttestationStatement.bytes?_eq_some]
  refine and_congr_right fun _ => exists_congr fun response => and_congr_right fun _ => ?_
  constructor
  · intro h
    split at h
    · cases h
    · next text htext =>
      obtain rfl := Utf8.decode?_eq_some.1 htext
      split at h
      · cases h
      · next hcut =>
        obtain rfl := pure_eq_ok.1 h
        exact Token.ofText?_eq_some.1 hcut
  · intro h
    obtain ⟨text, rfl⟩ : ∃ text, response = Utf8.encode text := ⟨_, h.octets⟩
    simp only [Utf8.decode_encode, Token.ofText?_eq_some.2 h]
    rfl

/-- A part of a token holds this value as JSON. -/
def Holds {α : Type} (segment : String) (read : Json → Option α) (a : α) : Prop :=
  ∃ octets j, Base64.decodeUrl? segment = some octets ∧ Json.read? octets = some j ∧
    read j = some a

theorem readSegment_eq_ok {α : Type} {segment : String} {read : Json → Option α} {a : α} :
    readSegment read segment = .ok a ↔ Holds segment read a := by
  unfold readSegment Holds
  cases Base64.decodeUrl? segment with
  | none => simp
  | some octets =>
    simp only [Option.some.injEq, exists_and_left, exists_eq_left', ← Option.bind_eq_some_iff,
      Option.bind_eq_bind]
    cases (Json.read? octets).bind read <;> simp

theorem requirePayload_eq_ok {payload : TokenPayload} {message : Bytes} :
    requirePayload payload message = .ok () ↔
      payload = ⟨Base64.encodeStandard (sha256 message), true⟩ := by
  obtain ⟨nonce, profileMatches⟩ := payload
  simp only [requirePayload, throw_eq_error, error_bind, refuse_eq_ok, pure_eq_ok, ne_eq, not_not,
    Bool.not_eq_true', Bool.not_eq_false, TokenPayload.mk.injEq, and_true]

/-! ### The whole statement -/

/-- What is required of a SafetyNet statement whose token brings these certificates, with the octets
of the token, its parts, the signature in it and the first certificate. -/
structure SafetyNetAttests (s : AttestationStatement) (context : AttestationContext)
    (path : List Certificate) (response : Bytes) (token : Token) (signature : Bytes)
    (leaf : Certificate) : Prop where
  version : ∃ version, s.get? "ver" = some (.text version) ∧ version ≠ ""
  response_member : s.get? "response" = some (.bytes response)
  received : token.IsReceivedAs response
  header : ∃ texts, Holds token.header TokenHeader.ofJson? ⟨"RS256", texts⟩ ∧
    texts.map Base64.decodeStandard? = path.map fun c => some c.der
  read : ∀ c ∈ path, c.IsRead
  first : path.head? = some leaf
  signature_part : Base64.decodeUrl? token.signature = some signature
  signed : leaf.Verifies .rs256 token.signed signature
  host : ∃ a ∈ leaf.content.subject.levels.flatten, a.text = "CN=attest.android.com"
  leaf_for : leaf.IsLeafFor context.data
  payload : Holds token.payload TokenPayload.ofJson?
    ⟨Base64.encodeStandard (sha256 context.message), true⟩

theorem hasCommonName_host_iff {leaf : Certificate} :
    leaf.hasCommonName attestationHost = true ↔
      ∃ a ∈ leaf.content.subject.levels.flatten, a.text = "CN=attest.android.com" := by
  simp only [Certificate.hasCommonName, List.any_eq_true, beq_iff_eq]
  rfl

theorem verifySafetyNet_eq_ok :
    verifySafetyNet s context = .ok v ↔
      ∃ path response token signature leaf,
        SafetyNetAttests s context path response token signature leaf ∧ v = .basic path := by
  have hhost (leaf : Certificate) : ¬ (!leaf.hasCommonName attestationHost) = true ↔
      ∃ a ∈ leaf.content.subject.levels.flatten, a.text = "CN=attest.android.com" := by
    rw [Bool.not_eq_true', Bool.not_eq_false, hasCommonName_host_iff]
  simp only [verifySafetyNet, throw_eq_error, error_bind, refuse_eq_ok, bind_eq_ok, tokenOf_eq_ok,
    readSegment_eq_ok, leafOf_eq_ok, mapM_eq_ok tokenCertificate_eq_ok, ne_eq, not_not]
  constructor
  · rintro ⟨token, ⟨hversion, response, hresponse, hreceived⟩, ⟨_, texts⟩, hheader, rfl, path,
      ⟨htexts, hread⟩, leaf, hfirst, h⟩
    split at h
    · cases h
    · next signature hsignature =>
      simp only [bind_eq_ok, exists_unit, refuse_eq_ok, pure_eq_ok, hhost, readSegment_eq_ok,
        Certificate.requireSigned_eq_ok, Certificate.requireLeaf_eq_ok, requirePayload_eq_ok] at h
      obtain ⟨hsigned, hhost, hleaf, payload, hpayload, rfl, rfl⟩ := h
      exact ⟨path, response, token, signature, leaf, ⟨hversion, hresponse, hreceived,
        ⟨texts, hheader, htexts⟩, hread, hfirst, hsignature, hsigned, hhost, hleaf, hpayload⟩, rfl⟩
  · rintro ⟨path, response, token, signature, leaf, h, rfl⟩
    obtain ⟨texts, hheader, htexts⟩ := h.header
    refine ⟨token, ⟨h.version, response, h.response_member, h.received⟩, _, hheader, rfl, path,
      ⟨htexts, h.read⟩, leaf, h.first, ?_⟩
    simp only [h.signature_part, bind_eq_ok, exists_unit, refuse_eq_ok, pure_eq_ok, hhost,
      readSegment_eq_ok, Certificate.requireSigned_eq_ok, Certificate.requireLeaf_eq_ok,
      requirePayload_eq_ok]
    exact ⟨h.signed, h.host, h.leaf_for, _, h.payload, rfl, trivial⟩

/-! ### Tokens as they are laid out -/

/-- A part of a token that holds JSON. -/
def segment (j : Json) : String := Base64.encodeUrl j.write

theorem holds_segment {α : Type} {j : Json} {read : Json → Option α} {a : α}
    (h : Wire.Carries j read a) : Holds (segment j) read a :=
  ⟨j.write, j, Base64.decodeUrl?_encodeUrl _, Json.read?_write h.spelled, h.reads⟩

/-- The header that lists these certificates. -/
def headerJson (path : List Certificate) : Json :=
  .ofMembers [("alg", some (.ofText "RS256")),
    ("x5c", some (.ofList .ofText (path.map fun c => Base64.encodeStandard c.der)))]

theorem carries_headerJson (path : List Certificate) :
    Wire.Carries (headerJson path) TokenHeader.ofJson?
      ⟨"RS256", path.map fun c => Base64.encodeStandard c.der⟩ := by
  refine Wire.Assembles.carries ?_ .rfl (by decide)
  refine (Wire.carries_text _).required.next ?_
  refine (Wire.carries_list fun text _ => Wire.carries_text text).required.next ?_
  exact Wire.assembles_done rfl

/-- The payload that vouches for a device and is about this message. -/
def payloadJson (message : Bytes) : Json :=
  .ofMembers [("nonce", some (.ofText (Base64.encodeStandard (sha256 message)))),
    ("ctsProfileMatch", some (.bool true))]

theorem carries_payloadJson (message : Bytes) :
    Wire.Carries (payloadJson message) TokenPayload.ofJson?
      ⟨Base64.encodeStandard (sha256 message), true⟩ := by
  refine Wire.Assembles.carries ?_ .rfl (by decide)
  refine (Wire.carries_text _).required.next ?_
  refine (Wire.carries_bool true).required.next ?_
  exact Wire.assembles_done rfl

/-- The token of this header, this payload and a signature. -/
def Token.layOut (path : List Certificate) (message signature : Bytes) : Token :=
  let header := segment (headerJson path)
  let payload := segment (payloadJson message)
  let signature := Base64.encodeUrl signature
  ⟨header ++ "." ++ payload ++ "." ++ signature, header, payload, signature⟩

theorem point_not_mem_encodeUrl (bs : Bytes) : '.' ∉ (Base64.encodeUrl bs).toList := by
  have hdigit : ∀ n < 64, Base64.digit Base64.urlSafe n ≠ '.' := by decide
  rw [Base64.encodeUrl, String.toList_ofList]
  intro hmem
  obtain ⟨n, hn, hpoint⟩ := List.mem_map.1 hmem
  exact hdigit n (Base64.lt_of_mem_sextets bs n hn) hpoint

theorem Token.isReceivedAs_layOut (path : List Certificate) (message signature : Bytes) :
    let token := Token.layOut path message signature
    token.IsReceivedAs (Utf8.encode token.text) where
  octets := rfl
  text := rfl
  header := point_not_mem_encodeUrl _
  payload := point_not_mem_encodeUrl _
  signature := point_not_mem_encodeUrl _

/-- The statement with this token. -/
def Token.statement (token : Token) : AttestationStatement :=
  ⟨[(.text "ver", .text "1"), (.text "response", .bytes (Utf8.encode token.text))]⟩

/-- What a certificate of the service signs as it is laid out here attests. -/
theorem attests_layOut {path : List Certificate} {leaf : Certificate} {signature : Bytes}
    (hread : ∀ c ∈ path, c.IsRead) (hfirst : path.head? = some leaf)
    (hhost : leaf.hasCommonName attestationHost = true) (hleaf : leaf.IsLeafFor context.data)
    (hsigned : leaf.Verifies .rs256 (Utf8.encode (segment (headerJson path) ++ "." ++
      segment (payloadJson context.message))) signature) :
    let token := Token.layOut path context.message signature
    SafetyNetAttests token.statement context path (Utf8.encode token.text) token signature leaf := by
  intro token
  have hreceived : token.IsReceivedAs (Utf8.encode token.text) :=
    Token.isReceivedAs_layOut path context.message signature
  exact {
    version := ⟨"1", rfl, by decide⟩
    response_member := rfl
    received := hreceived
    header := ⟨_, holds_segment (carries_headerJson path), by
      simp [Base64.decodeStandard?_encodeStandard]⟩
    read := hread
    first := hfirst
    signature_part := Base64.decodeUrl?_encodeUrl signature
    signed := by
      rw [hreceived.signed_eq]
      exact hsigned
    host := hasCommonName_host_iff.1 hhost
    leaf_for := hleaf
    payload := holds_segment (carries_payloadJson context.message) }

/-! ### Reading and signing -/

/-- A SafetyNet statement is verified exactly if its token is signed by a certificate of the service
over what was received and vouches for this message, and then rests on all of the token's
certificates. The parts of a token are those of no other; what is signed is the token up to its last
point, which is the header and the payload that are read; and no others spell what is signed. -/
theorem safetyNet_decided (s : AttestationStatement) (context : AttestationContext) :
    (∀ v, verifyStatement .androidSafetyNet s context = .ok v ↔
      ∃ path response token signature leaf,
        SafetyNetAttests s context path response token signature leaf ∧ v = .basic path) ∧
    ∀ path response token signature leaf,
      SafetyNetAttests s context path response token signature leaf →
      response = token.signed ++ 0x2e :: Utf8.encode token.signature ∧
      token.signed = Utf8.encode (token.header ++ "." ++ token.payload) ∧
      (∀ other : Token, other.IsReceivedAs response → other = token) ∧
      ∀ header payload, Utf8.encode (header ++ "." ++ payload) = token.signed →
        header = token.header ∧ payload = token.payload :=
  ⟨fun _ => verifySafetyNet_eq_ok, fun _ _ _ _ _ h =>
    ⟨h.received.signed_front, h.received.signed_eq, fun _ => h.received.unique,
      fun _ _ => h.received.signed_inj⟩⟩

/-- A modulus of 512 bits. -/
def hostModulus : ℕ :=
  0xc513f785b753f4854cafa9529ad103360614350fd232e0419a66d9602a1739fb9de50e54c077c768e2e9f9bda58c17d6a754a3712fefe6ecb8b1229cfafd9c4f

/-- A certificate of the host with that key. -/
def hostLeaf : Certificate :=
  let algorithm : X509.AlgorithmId := ⟨Certificate.ed25519Id, none⟩
  let content : X509.SignedPart :=
    { Certificate.ofHost.content with
      keyInfo := ⟨⟨Certificate.rsaEncryptionId, none⟩,
        ⟨0, Der.sequence [Der.unsigned (Bytes.ofNat 64 hostModulus), Der.unsigned [3]]⟩⟩ }
  let signed := (content.write? algorithm).getD []
  { der := X509.writeCertificate signed algorithm []
    signedOctets := signed
    content
    signatureAlgorithm := algorithm
    signature := ⟨0, []⟩ }

/-- A record with neither a credential nor extension outputs. -/
def bareContext : AttestationContext :=
  let hash : Bytes := List.replicate 32 0
  ⟨⟨hash ++ [0x01, 0, 0, 0, 0], hash, ⟨0x01⟩, 0, none, none⟩, List.replicate 32 1⟩

/-- The signature of the host over its token for that record. -/
def hostSignature : Bytes :=
  Bytes.ofNat 64 0x69c997d96d011147ff9cc38b2352c318b2b848582bda1643b219598dcbf9925bcafc01e24ef53f263a76452ea60c002f5e073898b3f1b8203c09359a419f8c9e

theorem hostLeaf_verifies :
    hostLeaf.Verifies .rs256 (Utf8.encode (segment (headerJson [hostLeaf]) ++ "." ++
      segment (payloadJson bareContext.message))) hostSignature :=
  ⟨.rsa (Bytes.ofNat 64 hostModulus) [3], by decide +kernel, by decide +kernel⟩

/-- The token of the host attests, so its statement is verified, what it signs is what is read, and
it is the only token of its octets. -/
theorem host_token_attests :
    let token := Token.layOut [hostLeaf] bareContext.message hostSignature
    let response := Utf8.encode token.text
    SafetyNetAttests token.statement bareContext [hostLeaf] response token hostSignature
        hostLeaf ∧
      verifyStatement .androidSafetyNet token.statement bareContext = .ok (.basic [hostLeaf]) ∧
      response = token.signed ++ 0x2e :: Utf8.encode token.signature ∧
      token.signed = Utf8.encode (token.header ++ "." ++ token.payload) ∧
      ∀ other : Token, other.IsReceivedAs response → other = token := by
  intro token response
  have hread : ∀ c ∈ [hostLeaf], c.IsRead := by
    rw [List.forall_mem_singleton]
    show Certificate.decode hostLeaf.der = .ok hostLeaf
    decide +kernel
  have hleaf : hostLeaf.IsLeafFor bareContext.data := ⟨rfl, nofun, nofun⟩
  have hattests : SafetyNetAttests token.statement bareContext [hostLeaf] response token
      hostSignature hostLeaf :=
    attests_layOut hread rfl (by decide +kernel) hleaf hostLeaf_verifies
  obtain ⟨hverified, hcut⟩ := safetyNet_decided token.statement bareContext
  obtain ⟨hfront, hsigned, hother, -⟩ := hcut _ _ _ _ _ hattests
  exact ⟨hattests, (hverified _).2 ⟨_, _, _, _, _, hattests, rfl⟩, hfront, hsigned, hother⟩

end Attestation

end Passkey
