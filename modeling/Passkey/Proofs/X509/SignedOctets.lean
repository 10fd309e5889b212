import Passkey.Proofs.Asn1.Elements
import Passkey.Proofs.Attestation.VerdictShape
import Passkey.X509.Writing

/-!
# The octets that are signed

The octets of the signed part are found in a certificate by the headers of two elements alone, with
no look at what is in them (`signedBytes?`). In every certificate that is read, this finds what the
reader took the signed part from (`ConsistsOf.signedBytes?_eq`), so that a signature is never checked
over anything else, such as another encoding of the same content.
-/

namespace Passkey

open Reading

namespace Der

variable {rest : Bytes} {e : Element}

/-- The octets at the front of an input that the header there measures. -/
def front? : (input : Bytes) → Option Bytes
  | [] => none
  | tag :: octets =>
    if Tag.isKnown tag then
      match readLength? octets with
      | none => none
      | some ⟨n, _, _⟩ =>
        let width := 1 + (lengthOctets n).length + n
        if width ≤ octets.length + 1 then some ((tag :: octets).take width) else none
    else none

theorem front?_write_append (h : e.WellFormed) : front? (e.write ++ rest) = some e.write := by
  obtain ⟨tag, content⟩ := e
  have hlength : (of readLength?).run (lengthOctets content.length ++ (content ++ rest)) =
      some (content.length, content ++ rest) := run_readLength?.2 ⟨h.length_le, rfl⟩
  obtain ⟨hshorter, hread⟩ := run_of_eq_some.1 hlength
  have hwidth : (Element.write ⟨tag, content⟩).length =
      1 + (lengthOctets content.length).length + content.length := by
    simp only [Element.write, tlv, List.length_append, List.length_cons]
    omega
  have hwrite : Element.write ⟨tag, content⟩ ++ rest =
      tag :: (lengthOctets content.length ++ (content ++ rest)) := by
    simp [Element.write, tlv]
  have hle : 1 + (lengthOctets content.length).length + content.length ≤
      (lengthOctets content.length ++ (content ++ rest)).length + 1 := by
    simp only [List.length_append]
    omega
  rw [hwrite, front?, if_pos h.known, hread]
  dsimp only
  rw [if_pos hle, ← hwrite, ← hwidth, List.take_left]

end Der

namespace X509.Certificate

variable {der : Bytes} {c : Certificate}

/-- The octets of the first element inside the one that the certificate is. -/
def signedBytes? (der : Bytes) : Option Bytes := do
  let outer ← Der.element? der
  Der.front? outer.content

/-- These are the octets of the first element inside the sequence that a certificate is. -/
def IsSignedIn (signed der : Bytes) : Prop :=
  ∃ e rest, Der.element? signed = some e ∧ der = Der.sequence [signed, rest]

/-- The elements from which the parts of a certificate are read. -/
structure ConsistsOf (c : Certificate) (signed algorithm signature : Der.Element) : Prop where
  der : Der.IsSequenceOf c.der [signed, algorithm, signature]
  octets : c.signedOctets = signed.write
  content : SignedPart.ofElement? signed = some c.content
  signatureAlgorithm : AlgorithmId.ofElement? algorithm = some c.signatureAlgorithm
  signature : signature.bitString? = some c.signature

theorem exists_consistsOf (h : decode der = .ok c) :
    ∃ signed algorithm signature, ConsistsOf c signed algorithm signature := by
  have hread : ofDer? der = some c := by
    rw [decode] at h
    split at h <;> cases h
    assumption
  simp only [ofDer?, Option.bind_eq_bind, Option.bind_eq_some_iff] at hread
  obtain ⟨⟨tag, content⟩, houter, _, hcontent, ⟨signed, rest, hshorter⟩, hsigned, members, hmembers,
    hparts⟩ := hread
  split at hparts
  · next algorithm signature =>
    simp only [Option.bind_eq_some_iff, Option.pure_def, Option.some.injEq] at hparts
    obtain ⟨part, hpart, algorithmId, halgorithm, bits, hbits, rfl⟩ := hparts
    obtain ⟨rfl, hcontent⟩ := Option.ite_none_right_eq_some.1 hcontent
    cases hcontent
    obtain ⟨hwhole, rfl⟩ := Der.element?_eq_some.1 houter
    obtain ⟨hwellSigned, hfront⟩ := Der.run_readElement?.1 (run_of_eq_some.2 ⟨hshorter, hsigned⟩)
    obtain ⟨hwellMembers, hrest⟩ := Der.elements?_eq_some.1 hmembers
    dsimp only at hfront
    subst hrest hfront
    refine ⟨signed, algorithm, signature, ⟨⟨?_, hwhole.length_le, rfl⟩, ?_, hpart, halgorithm, hbits⟩⟩
    · exact List.forall_mem_cons.2 ⟨hwellSigned, hwellMembers⟩
    · simp
  · cases hparts

/-- An input has one signed part at most, whatever stands after it. -/
theorem IsSignedIn.unique {signed signed' : Bytes} (h : IsSignedIn signed der)
    (h' : IsSignedIn signed' der) : signed = signed' := by
  obtain ⟨e, rest, he, rfl⟩ := h
  obtain ⟨e', rest', he', hder⟩ := h'
  obtain ⟨hwhole, rfl⟩ := Der.element?_eq_some.1 he
  obtain ⟨hwhole', rfl⟩ := Der.element?_eq_some.1 he'
  have hcontent : e.write ++ rest = e'.write ++ rest' := by
    simpa using (Der.tlv_inj.1 hder).2
  rw [← Option.some_inj, ← Der.front?_write_append hwhole.wellFormed, hcontent,
    Der.front?_write_append hwhole'.wellFormed]

namespace ConsistsOf

variable {signed algorithm signature : Der.Element}

/-- The octets after the signed part. -/
theorem octets_eq (h : c.ConsistsOf signed algorithm signature) :
    c.der = Der.tlv Der.Tag.sequence (c.signedOctets ++ (algorithm.write ++ signature.write)) := by
  rw [h.octets, h.der.octets_eq]
  simp [Der.sequence]

theorem element?_signedOctets (h : c.ConsistsOf signed algorithm signature) :
    Der.element? c.signedOctets = some signed :=
  Der.element?_eq_some.2 ⟨h.der.whole (by simp), h.octets⟩

theorem isSignedIn (h : c.ConsistsOf signed algorithm signature) :
    IsSignedIn c.signedOctets c.der :=
  ⟨signed, algorithm.write ++ signature.write, h.element?_signedOctets, by
    rw [h.octets_eq, Der.sequence, List.flatten_cons, List.flatten_cons, List.flatten_nil,
      List.append_nil]⟩

theorem elements?_rest (h : c.ConsistsOf signed algorithm signature) :
    Der.elements? (algorithm.write ++ signature.write) = some [algorithm, signature] := by
  refine Der.elements?_eq_some.2 ⟨fun e he => h.der.wellFormed e (List.mem_cons_of_mem _ he), ?_⟩
  simp

/-- The walk by headers and the reader agree where the signed part ends. -/
theorem signedBytes?_eq (h : c.ConsistsOf signed algorithm signature) :
    signedBytes? c.der = some c.signedOctets := by
  have hknown : Der.Tag.isKnown Der.Tag.sequence = true := by decide
  have hder : c.der = Der.Element.write
      ⟨Der.Tag.sequence, signed.write ++ (algorithm.write ++ signature.write)⟩ := by
    rw [h.octets_eq, h.octets]
    rfl
  have houter := Der.element?_eq_some.2 ⟨⟨hknown, hder ▸ h.der.length_le⟩, hder⟩
  rw [signedBytes?, houter, h.octets]
  exact Der.front?_write_append (h.der.wellFormed _ List.mem_cons_self)

end ConsistsOf

/-- In every certificate that is read, the signed octets are those that the walk by headers finds.
They stand right after the header of the certificate and spell its content, and what stands after
them its signature; a signature is checked over them, so that two certificates are checked over the
same octets only if they have the same signed part. -/
theorem signed_octets_received (h : decode der = .ok c) :
    signedBytes? c.der = some c.signedOctets ∧
    (∃ rest algorithm signature,
      der = (Der.Tag.sequence :: Der.lengthOctets (c.signedOctets ++ rest).length)
        ++ (c.signedOctets ++ rest) ∧
      (Der.element? c.signedOctets >>= SignedPart.ofElement?) = some c.content ∧
      Der.elements? rest = some [algorithm, signature] ∧
      AlgorithmId.ofElement? algorithm = some c.signatureAlgorithm ∧
      signature.bitString? = some c.signature) ∧
    (∀ issuer : Certificate, c.isIssuedBy issuer = true ↔
      c.content.issuer = issuer.content.subject ∧
        ∃ algorithm key signed,
          signatureAlgorithm? c.signatureAlgorithm.algorithm = some algorithm ∧
          issuer.publicKey = .ok key ∧ c.signature.unused = 0 ∧ signedBytes? c.der = some signed ∧
          verifySigned key algorithm signed c.signature.octets = .ok true) ∧
    ∀ der' c', decode der' = .ok c' →
      (c.signedOctets = c'.signedOctets ↔
        ∃ signed, IsSignedIn signed der ∧ IsSignedIn signed der') := by
  obtain rfl := der_of_decode h
  obtain ⟨signed, algorithm, signature, hparts⟩ := exists_consistsOf h
  refine ⟨hparts.signedBytes?_eq, ?_, fun issuer => ?_, fun der' c' h' => ?_⟩
  · refine ⟨_, algorithm, signature, hparts.octets_eq, ?_, hparts.elements?_rest,
      hparts.signatureAlgorithm, hparts.signature⟩
    rw [hparts.element?_signedOctets]
    exact hparts.content
  · rw [isIssuedBy_iff]
    constructor
    · rintro ⟨hnamed, algorithm, key, halgorithm, hkey, hunused, hverified⟩
      exact ⟨hnamed, algorithm, key, _, halgorithm, hkey, hunused, hparts.signedBytes?_eq,
        hverified⟩
    · rintro ⟨hnamed, algorithm, key, found, halgorithm, hkey, hunused, hfound, hverified⟩
      obtain rfl := Option.some.inj (hparts.signedBytes?_eq.symm.trans hfound)
      exact ⟨hnamed, algorithm, key, halgorithm, hkey, hunused, hverified⟩
  · obtain rfl := der_of_decode h'
    obtain ⟨_, _, _, hparts'⟩ := exists_consistsOf h'
    constructor
    · intro heq
      exact ⟨_, hparts.isSignedIn, heq ▸ hparts'.isSignedIn⟩
    · rintro ⟨found, hfound, hfound'⟩
      rw [hparts.isSignedIn.unique hfound, hparts'.isSignedIn.unique hfound']

/-- The signed part of a small certificate. Its extension begins with these octets after its
identifier. -/
def smallSigned (critical : Bytes) : Bytes :=
  let algorithm : AlgorithmId := ⟨ed25519Id, none⟩
  let time := Der.tlv Der.Tag.utcTime (Utf8.encode "700101000000Z")
  Der.sequence
    [Der.tlv (Der.Tag.context 0) (Der.unsigned [2]), Der.unsigned [1], algorithm.write,
      Der.sequence [], Der.sequence [time, time], Der.sequence [],
      Der.sequence [algorithm.write, Der.bitString []],
      Der.tlv (Der.Tag.context 3) (Der.sequence
        [Der.sequence [basicConstraintsId.write, critical, Der.octetString (Der.sequence [])]])]

/-- The certificate with this signed part and an empty signature. -/
def small (critical : Bytes) : Certificate where
  der := Der.sequence
    [smallSigned critical, AlgorithmId.write ⟨ed25519Id, none⟩, Der.bitString []]
  signedOctets := smallSigned critical
  content :=
    { version := .v3
      serial := [1]
      issuer := ⟨[]⟩
      notBefore := 0
      notAfter := 0
      subject := ⟨[]⟩
      keyInfo := ⟨⟨ed25519Id, none⟩, ⟨0, []⟩⟩
      extensions := [⟨basicConstraintsId, false, Der.sequence []⟩] }
  signatureAlgorithm := ⟨ed25519Id, none⟩
  signature := ⟨0, []⟩

/-- Where the extension says that it is not critical, as goes without saying, writing the content
again gives other octets than those that are signed. -/
theorem small_signed_octets :
    decode (small (Der.boolean false)).der = .ok (small (Der.boolean false)) ∧
      decode (small []).der = .ok (small []) ∧
      signedBytes? (small (Der.boolean false)).der = some (smallSigned (Der.boolean false)) ∧
      (small (Der.boolean false)).content.write? ⟨ed25519Id, none⟩ = some (smallSigned []) ∧
      ¬ ∃ signed, IsSignedIn signed (small (Der.boolean false)).der ∧
        IsSignedIn signed (small []).der := by
  have hflagged : decode (small (Der.boolean false)).der = .ok (small (Der.boolean false)) := by
    decide +kernel
  have hsilent : decode (small []).der = .ok (small []) := by decide +kernel
  have hwritten : (small (Der.boolean false)).content.write? ⟨ed25519Id, none⟩ =
      some (smallSigned []) := by decide +kernel
  have hother : (small (Der.boolean false)).signedOctets ≠ (small []).signedOctets := by
    decide +kernel
  obtain ⟨hfound, -, -, hsame⟩ := signed_octets_received hflagged
  exact ⟨hflagged, hsilent, hfound, hwritten, mt (hsame _ _ hsilent).2 hother⟩

end X509.Certificate

end Passkey
