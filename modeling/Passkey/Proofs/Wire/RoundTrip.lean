import Passkey.Proofs.Wire.Members
import Passkey.Proofs.Software.ClientData
import Passkey.Wire.Config
import Passkey.Wire.Response

/-!
# Everything on the wire is read as it was written

Options, responses, configurations and client data arrive as the values that they were sent as. Each
proof goes through the members of its type in the order in which they are read. What is left out when
it is written is what is put in its place when it is read.
-/

namespace Passkey

open Json Wire

/-! ### Enumerations -/

instance : LawfulNamed Transport := ⟨by rintro (_ | _ | _ | _ | _ | _) <;> decide⟩

instance : LawfulNamed UserVerification := ⟨by rintro (_ | _ | _) <;> decide⟩

instance : LawfulNamed ResidentKey := ⟨by rintro (_ | _ | _) <;> decide⟩

instance : LawfulNamed Attachment := ⟨by rintro (_ | _) <;> decide⟩

instance : LawfulNamed AttestationPreference := ⟨by rintro (_ | _ | _ | _) <;> decide⟩

instance : LawfulNamed TokenBindingPolicy := ⟨by rintro (_ | _) <;> decide⟩

instance : LawfulNamed CounterPolicy := ⟨by rintro (_ | _) <;> decide⟩

instance : LawfulNamed UnknownAttestationPolicy := ⟨by rintro (_ | _) <;> decide⟩

/-! ### Options -/

/-- An algorithm that is the one its identifier, of 64 bits, stands for. -/
def CoseAlgorithm.Canonical (a : CoseAlgorithm) : Prop := ofId? a.id = some a

instance (a : CoseAlgorithm) : Decidable a.Canonical :=
  inferInstanceAs (Decidable (CoseAlgorithm.ofId? a.id = some a))

theorem RelyingPartyIdentity.carries (i : RelyingPartyIdentity) : Carries i.toJson ofJson? i := by
  refine Assembles.carries ?_ .rfl (by decide)
  refine (carries_text i.id).required.next ?_
  refine (carries_text i.name).required.next ?_
  exact assembles_done rfl

theorem UserIdentity.ofHandle_self (u : UserIdentity) :
    ofHandle u.id u.name u.displayName = .ok u := by
  rw [ofHandle, dif_neg u.id_ne_nil, dif_pos u.length_id_le]

theorem UserIdentity.carries (u : UserIdentity) : Carries u.toJson ofJson? u := by
  have huser : (ofHandle u.id u.name u.displayName).toOption = some u := by
    rw [u.ofHandle_self]
    rfl
  refine Assembles.carries ?_ .rfl (by decide)
  refine (carries_bytes u.id).required.next ?_
  refine (carries_text u.name).required.next ?_
  refine (carries_text u.displayName).required.next ?_
  exact assembles_done huser

theorem CredentialDescriptor.carries (d : CredentialDescriptor) : Carries d.toJson ofJson? d := by
  refine Assembles.carries ?_ .rfl (by decide)
  refine carries_credentialType.required.next ?_
  refine (carries_bytes d.id).required.next ?_
  refine (sent_optional fun transports _ => carries_list fun t _ => carries_named t).next ?_
  exact assembles_done rfl

theorem Wire.carries_parameters {a : CoseAlgorithm} (h : a.Canonical) :
    Carries (ofParameters a) parameters? a := by
  refine Assembles.carries ?_ .rfl (by decide)
  refine carries_credentialType.required.next ?_
  exact (carries_algorithm h).required.last

theorem AuthenticatorSelection.carries (s : AuthenticatorSelection) :
    Carries s.toJson ofJson? s := by
  refine Assembles.carries ?_ .rfl (by decide)
  refine (sent_optional fun a _ => carries_named a).next ?_
  refine (sent_optional fun k _ => carries_named k).next ?_
  refine ((carries_bool s.requireResidentKey).withDefault _).next ?_
  refine ((carries_named s.userVerification).withDefault _).next ?_
  exact assembles_done rfl

theorem RegistrationExtensions.carries (e : RegistrationExtensions) :
    Carries e.toJson ofJson? e := by
  refine Assembles.carries ?_ .rfl (by decide)
  refine (sent_optional fun id _ => carries_text id).next ?_
  refine (sent_optional fun b _ => carries_bool b).next ?_
  exact assembles_done rfl

theorem AssertionExtensions.carries (e : AssertionExtensions) : Carries e.toJson ofJson? e := by
  refine Assembles.carries ?_ .rfl (by decide)
  refine (sent_optional fun id _ => carries_text id).next ?_
  exact assembles_done rfl

theorem CreationOptions.carries (o : CreationOptions) (h : ∀ a ∈ o.algorithms, a.Canonical) :
    Carries o.toJson ofJson? o := by
  refine Assembles.carries ?_ .rfl (by decide)
  refine o.rp.carries.required.next ?_
  refine o.user.carries.required.next ?_
  refine (carries_bytes o.challenge).required.next ?_
  refine (carries_list fun a ha => carries_parameters (h a ha)).required.next ?_
  refine (sent_optional fun n _ => carries_word n).next ?_
  refine (sent_unlessEmpty fun d _ => d.carries).next ?_
  refine (sent_optional fun s _ => s.carries).next ?_
  refine ((carries_named o.attestation).withDefault _).next ?_
  refine (sent_optional fun e _ => e.carries).next ?_
  exact assembles_done rfl

theorem RequestOptions.carries (o : RequestOptions) : Carries o.toJson ofJson? o := by
  refine Assembles.carries ?_ .rfl (by decide)
  refine (carries_bytes o.challenge).required.next ?_
  refine (sent_optional fun n _ => carries_word n).next ?_
  refine (carries_text o.rpId).required.next ?_
  refine (sent_unlessEmpty fun d _ => d.carries).next ?_
  refine ((carries_named o.userVerification).withDefault _).next ?_
  refine (sent_optional fun e _ => e.carries).next ?_
  exact assembles_done rfl

/-! ### Responses -/

theorem AttestationResponse.carries (r : AttestationResponse) : Carries r.toJson ofJson? r := by
  refine Assembles.carries ?_ .rfl (by decide)
  refine (carries_bytes r.clientData).required.next ?_
  refine (carries_bytes r.attestationObject).required.next ?_
  refine (sent_unlessEmpty fun t _ => carries_text t).next ?_
  exact assembles_done rfl

theorem AssertionResponse.carries (r : AssertionResponse) : Carries r.toJson ofJson? r := by
  refine Assembles.carries ?_ .rfl (by decide)
  refine (carries_bytes r.clientData).required.next ?_
  refine (carries_bytes r.authenticatorData).required.next ?_
  refine (carries_bytes r.signature).required.next ?_
  refine (sent_optional fun handle _ => carries_bytes handle).next ?_
  exact assembles_done rfl

theorem CredentialProperties.carries (p : CredentialProperties) : Carries p.toJson ofJson? p := by
  refine Assembles.carries ?_ .rfl (by decide)
  refine (sent_optional fun b _ => carries_bool b).next ?_
  exact assembles_done rfl

theorem ExtensionOutputs.carries (e : ExtensionOutputs) : Carries e.toJson ofJson? e := by
  refine Assembles.carries ?_ .rfl (by decide)
  refine (sent_optional fun b _ => carries_bool b).next ?_
  refine (sent_optional fun p _ => p.carries).next ?_
  exact assembles_done rfl

theorem CreatedCredential.carries (c : CreatedCredential) : Carries c.toJson ofJson? c := by
  -- The type is read first, and written in the fourth place.
  refine Assembles.carries (Assembles.fourth ?_) .rfl (by decide)
  refine carries_credentialType.required.next ?_
  refine (carries_text c.id).required.next ?_
  refine (carries_bytes c.rawId).required.next ?_
  refine c.response.carries.required.next ?_
  refine (c.extensions.carries.withDefault _).next ?_
  refine (sent_optional fun a _ => carries_named a).next ?_
  exact assembles_done rfl

theorem AssertedCredential.carries (c : AssertedCredential) : Carries c.toJson ofJson? c := by
  refine Assembles.carries (Assembles.fourth ?_) .rfl (by decide)
  refine carries_credentialType.required.next ?_
  refine (carries_text c.id).required.next ?_
  refine (carries_bytes c.rawId).required.next ?_
  refine c.response.carries.required.next ?_
  refine (c.extensions.carries.withDefault _).next ?_
  refine (sent_optional fun a _ => carries_named a).next ?_
  exact assembles_done rfl

/-! ### Configurations -/

namespace OriginSet

theorem place_of_lt {s : String} {l : List String} (h : ∀ t ∈ l, t < s) : place s l = l ++ [s] := by
  induction l with
  | nil => rfl
  | cons t rest ih =>
    obtain ⟨ht, hrest⟩ := List.forall_mem_cons.1 h
    have hne : s ≠ t := by
      rintro rfl
      exact String.lt_irrefl s ht
    rw [place, if_neg fun hs => String.lt_irrefl s (String.lt_trans hs ht), if_neg hne, ih hrest]
    rfl

/-- Members that come in rising order are put behind those that are there. -/
theorem toList_foldl_insert {l : List String} {o : OriginSet}
    (h : (o.toList ++ l).Pairwise (· < ·)) : (l.foldl insert o).toList = o.toList ++ l := by
  induction l generalizing o with
  | nil => simp
  | cons s rest ih =>
    have hlast : ∀ t ∈ o.toList, t < s := fun t ht =>
      (List.pairwise_append.1 h).2.2 t ht s List.mem_cons_self
    have hinsert : (o.insert s).toList = o.toList ++ [s] := place_of_lt hlast
    rw [List.foldl_cons, ih, hinsert, List.append_assoc, List.singleton_append]
    rwa [hinsert, List.append_assoc, List.singleton_append]

theorem ofList_toList (o : OriginSet) : ofList o.toList = o := by
  have htoList : (ofList o.toList).toList = o.toList := toList_foldl_insert (o := empty) o.increasing
  cases h : ofList o.toList with
  | mk l increasing =>
    rw [h] at htoList
    subst htoList
    rfl

end OriginSet

theorem RelyingPartyConfig.carries (c : RelyingPartyConfig)
    (h : ∀ a ∈ c.preferredAlgorithms, a.Canonical) : Carries c.toJson ofJson? c := by
  have hdone : some { c with origins := .ofList c.origins.toList } = some c := by
    rw [c.origins.ofList_toList]
  refine Assembles.carries ?_ .rfl (by decide)
  refine c.identity.carries.required.next ?_
  refine (carries_list fun o _ => carries_text o).required.next ?_
  refine ((carries_word c.challengeLength).withDefault _).next ?_
  refine ((carries_list fun a ha => carries_algorithm (h a ha)).withDefault _).next ?_
  refine (sent_nullable fun n _ => carries_word n).next ?_
  refine ((carries_named c.attestation).withDefault _).next ?_
  refine ((carries_named c.tokenBindingPolicy).withDefault _).next ?_
  refine ((carries_named c.counterPolicy).withDefault _).next ?_
  refine ((carries_named c.unknownAttestation).withDefault _).next ?_
  refine ((carries_bool c.allowUntrustedAttestation).withDefault _).next ?_
  exact assembles_done hdone

/-! ### All of it -/

/-- What is read of the text of any options, response, configuration or client data is just that, if
the algorithms in it are those that their identifiers stand for. Of the text that a client in software
makes, what it was made from is read. -/
theorem wire_round_trip :
    (∀ o : CreationOptions, (∀ a ∈ o.algorithms, a.Canonical) →
      Json.read? o.toJson.write >>= CreationOptions.ofJson? = some o) ∧
    (∀ o : RequestOptions, Json.read? o.toJson.write >>= RequestOptions.ofJson? = some o) ∧
    (∀ c : CreatedCredential, Json.read? c.toJson.write >>= CreatedCredential.ofJson? = some c) ∧
    (∀ c : AssertedCredential, Json.read? c.toJson.write >>= AssertedCredential.ofJson? = some c) ∧
    (∀ c : RelyingPartyConfig, (∀ a ∈ c.preferredAlgorithms, a.Canonical) →
      Json.read? c.toJson.write >>= RelyingPartyConfig.ofJson? = some c) ∧
    (∀ d : ClientData, ClientData.decode d.toJson.write = .ok d) ∧
    ∀ (type : String) (challenge : Bytes) (origin : String),
      ClientData.decode (clientDataJson type challenge origin) =
        .ok ⟨type, challenge, origin, some false, none, none⟩ := by
  refine ⟨fun o h => (o.carries h).read_write, fun o => o.carries.read_write,
    fun c => c.carries.read_write, fun c => c.carries.read_write,
    fun c h => (c.carries h).read_write, fun d => ?_, ClientData.decode_clientDataJson⟩
  rw [ClientData.decode, d.carries.read_write]

/-- Two algorithms, of which one has no name. -/
def mixedAlgorithms : List CoseAlgorithm := [.es256, .unsupported (-65535)]

/-- Options that offer an algorithm without a name, to a user whose name needs escapes. -/
def mixedOptions : CreationOptions :=
  (RegistrationRequest.offering ⟨"example.org", "Example"⟩
    ⟨[0xad, 0xa0], "\"ada\"\n", "Ada", by decide, by decide⟩ mixedAlgorithms).options [0x00, 0xff]

/-- A configuration that has all else at its default, and no timeout. -/
def mixedConfig : RelyingPartyConfig :=
  { RelyingPartyConfig.ofOrigins ⟨"example.org", "Example"⟩ ["https://example.org"] with
    preferredAlgorithms := mixedAlgorithms }

/-- An algorithm without a name is one that its identifier stands for. -/
theorem mixed_round_trip :
    (∀ a ∈ mixedAlgorithms, a.Canonical) ∧
    Json.read? mixedOptions.toJson.write >>= CreationOptions.ofJson? = some mixedOptions ∧
    Json.read? mixedConfig.toJson.write >>= RelyingPartyConfig.ofJson? = some mixedConfig := by
  have hcanonical : ∀ a ∈ mixedAlgorithms, a.Canonical := by decide
  exact ⟨hcanonical, wire_round_trip.1 mixedOptions hcanonical,
    wire_round_trip.2.2.2.2.1 mixedConfig hcanonical⟩

end Passkey
