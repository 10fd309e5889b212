import Passkey.Asn1.Der
import Passkey.Asn1.Oid
import Passkey.Asn1.Time
import Passkey.Attestation.AndroidKey
import Passkey.Attestation.Error
import Passkey.Attestation.Format
import Passkey.Attestation.Packed
import Passkey.Attestation.Roots
import Passkey.Attestation.SafetyNet
import Passkey.Attestation.Statement
import Passkey.Attestation.Tpm
import Passkey.Attestation.Trust
import Passkey.Attestation.U2f
import Passkey.Attestation.Verify
import Passkey.Authenticator.AttestationObject
import Passkey.Authenticator.Data
import Passkey.Bytes
import Passkey.Cbor.Float
import Passkey.Cbor.Reader
import Passkey.Cbor.Value
import Passkey.Cose.Algorithm
import Passkey.Cose.Key
import Passkey.Cose.Verify
import Passkey.Curve.Edwards
import Passkey.Curve.Nist
import Passkey.Digest.Hash
import Passkey.Digest.Hmac
import Passkey.Digest.Sha1
import Passkey.Digest.Sha2
import Passkey.Idna.Ascii
import Passkey.Idna.MappingTables
import Passkey.Idna.Punycode
import Passkey.Json.Reader
import Passkey.Json.Record
import Passkey.Json.Value
import Passkey.Modular
import Passkey.Parsed
import Passkey.Random.ChaCha
import Passkey.Random.Seeded
import Passkey.Random.Source
import Passkey.RelyingParty.Assertion
import Passkey.RelyingParty.Ceremony
import Passkey.RelyingParty.ClientData
import Passkey.RelyingParty.Config
import Passkey.RelyingParty.Credential
import Passkey.RelyingParty.Error
import Passkey.RelyingParty.Identity
import Passkey.RelyingParty.Options
import Passkey.RelyingParty.OriginSet
import Passkey.RelyingParty.Registration
import Passkey.RelyingParty.Response
import Passkey.RelyingParty.Store
import Passkey.RelyingParty.Validation
import Passkey.Report.Basic
import Passkey.Report.Ceremony
import Passkey.Report.Certificate
import Passkey.Report.Error
import Passkey.Report.Record
import Passkey.Signature.Ecdsa
import Passkey.Signature.Ed25519
import Passkey.Signature.Rsa
import Passkey.Software.Authenticator
import Passkey.Software.Authority
import Passkey.Software.Client
import Passkey.Software.SigningKey
import Passkey.Text.Base64
import Passkey.Text.Quoted
import Passkey.Text.Utf8
import Passkey.Text.Withheld
import Passkey.Theory.Radix
import Passkey.Unicode.Direction
import Passkey.Unicode.NormalizationTables
import Passkey.Unicode.Normalize
import Passkey.Unicode.Printable
import Passkey.Unicode.PropertyTables
import Passkey.Unicode.Ranges
import Passkey.Url.Host
import Passkey.Url.Ipv4
import Passkey.Url.Ipv6
import Passkey.Url.Location
import Passkey.Wire.ClientData
import Passkey.Wire.Config
import Passkey.Wire.Options
import Passkey.Wire.Response
import Passkey.Wire.Scalar
import Passkey.X509.Certificate
import Passkey.X509.Issuance
import Passkey.X509.Name
import Passkey.X509.NameText
import Passkey.X509.Writing
import Passkey.Proofs.Fallible
import Passkey.Proofs.RelyingParty.Checks
import Passkey.Proofs.RelyingParty.AssertionAcceptance
import Passkey.Proofs.RelyingParty.RegistrationAcceptance
import Passkey.Proofs.RelyingParty.RepositoryDiscipline
import Passkey.Proofs.RelyingParty.CounterRaces
import Passkey.Proofs.Reading
import Passkey.Proofs.Cbor.Locality
import Passkey.Proofs.Authenticator.KeyBytes
import Passkey.Proofs.RelyingParty.Persistence
import Passkey.Proofs.Cose.UsableKeys
import Passkey.Proofs.RelyingParty.RegisteredKey
import Passkey.Proofs.RelyingParty.StoreHistory
import Passkey.Proofs.Attestation.TrustPath
import Passkey.Proofs.RelyingParty.OriginScope
import Passkey.Proofs.Authenticator.Grammar
import Passkey.Proofs.Cbor.RoundTrip
import Passkey.Proofs.Cose.RoundTrip
import Passkey.Proofs.Json.Strings
import Passkey.Proofs.Text.Base64
import Passkey.Proofs.Json.Numerals
import Passkey.Proofs.Json.Grammar
import Passkey.Proofs.Json.Lists
import Passkey.Proofs.Json.Recognition
import Passkey.Proofs.Json.RoundTrip
import Passkey.Proofs.Json.Records
import Passkey.Proofs.Software.ClientData
import Passkey.Proofs.Authenticator.ObjectRoundTrip
import Passkey.Proofs.RelyingParty.Completeness
import Passkey.Proofs.Attestation.ReceivedKeys
import Passkey.Proofs.FirstFailure
import Passkey.Proofs.RelyingParty.CheckPrecedence
import Passkey.Proofs.RelyingParty.AssertionPrecedence
import Passkey.Proofs.RelyingParty.RegistrationPrecedence
import Passkey.Proofs.Attestation.Refusals
import Passkey.Proofs.RelyingParty.Outages
import Passkey.Proofs.Json.Numbers
import Passkey.Proofs.Wire.Members
import Passkey.Proofs.Wire.RoundTrip
import Passkey.Proofs.Attestation.VerdictShape
import Passkey.Theory.Primality
import Passkey.Theory.Residues
import Passkey.Proofs.Curve.Primes
import Passkey.Proofs.Curve.GroupLaw
import Passkey.Proofs.Curve.EdwardsPoints
import Passkey.Proofs.Asn1.Elements
import Passkey.Proofs.Signature.Ecdsa
import Passkey.Proofs.Cose.GenuineKeys
import Passkey.Proofs.Cose.AnyCurve
import Passkey.Proofs.Attestation.TpmFields
import Passkey.Proofs.Attestation.EccAreas
import Passkey.Proofs.Attestation.Checks
import Passkey.Proofs.Attestation.Packed
import Passkey.Proofs.Attestation.Tpm
import Passkey.Proofs.Attestation.SafetyNet
import Passkey.Proofs.Asn1.Identifiers
import Passkey.Proofs.Attestation.U2f
import Passkey.Proofs.Attestation.AndroidKey
import Passkey.Proofs.Curve.Cubic
import Passkey.Proofs.Curve.PointForms
import Passkey.Proofs.Cose.OneForm
import Passkey.Proofs.X509.KeyInfo
import Passkey.Proofs.Attestation.KeyComparison
import Passkey.Proofs.Json.NamedValues
import Passkey.Proofs.Wire.ClientDataText
import Passkey.Proofs.Cose.KeyExtent
import Passkey.Proofs.Authenticator.RecordExtent
import Passkey.Proofs.Authenticator.ObjectExtent
import Passkey.Proofs.Attestation.RootSet
import Passkey.Proofs.Attestation.TpmLayout
import Passkey.Proofs.Text.Spellings
import Passkey.Proofs.RelyingParty.FreshOptions
import Passkey.Proofs.RelyingParty.RootScope
import Passkey.Proofs.Attestation.KeyDescription
import Passkey.Proofs.Cbor.Spellings
import Passkey.Proofs.Cose.Unordered
import Passkey.Proofs.X509.CommonName
import Passkey.Proofs.X509.SignedOctets
