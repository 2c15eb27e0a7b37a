import VCIssuer.Service.Travellers

/-!
# Subjects of travel documents

The subject of an eMRTD credential is a digest of the issuing country and the
document number, joined by a colon.  Neither field is kept from having colons,
and so the join does not tell all documents apart.
-/

namespace VCIssuer.Service

open VCIssuer.Library
open VCIssuer.Kernel (SubjectId)

/-- The issuing country and the number, which identify a document. -/
structure TravelDocument where
  issuingCountry : String
  documentNumber : String
  deriving DecidableEq

def EmrtdMrzClaim.document (mrz : EmrtdMrzClaim) : TravelDocument :=
  ⟨mrz.issuingCountry, mrz.documentNumber⟩

namespace TravelDocument

/-- What the subject is a digest of. -/
def preimage (document : TravelDocument) : String :=
  "emrtd:" ++ document.issuingCountry ++ ":" ++ document.documentNumber

/-- The country is the other's with a colon and a text behind it, which the other's number has in
front, with a colon. -/
def Straddles (document other : TravelDocument) : Prop :=
  ∃ middle, document.issuingCountry = other.issuingCountry ++ ":" ++ middle ∧
    other.documentNumber = middle ++ ":" ++ document.documentNumber

/-- Two documents are taken for one. -/
def Confused (document other : TravelDocument) : Prop :=
  document.Straddles other ∨ other.Straddles document

variable {document other : TravelDocument}

theorem Straddles.ne (straddles : document.Straddles other) : document ≠ other := by
  rintro rfl
  obtain ⟨middle, country, _⟩ := straddles
  have length := congrArg Text.len country
  have colon : Text.len ":" = 1 := rfl
  rw [Text.len_append, Text.len_append, colon] at length
  omega

theorem Confused.ne (confused : document.Confused other) : document ≠ other := by
  rcases confused with straddles | straddles
  · exact straddles.ne
  · exact straddles.ne.symm

theorem preimage_eq_iff :
    document.preimage = other.preimage ↔ document = other ∨ document.Confused other := by
  obtain ⟨country, number⟩ := document
  obtain ⟨country', number'⟩ := other
  have colon : (":" : String) = String.singleton ':' := rfl
  simp only [preimage, Confused, Straddles, mk.injEq, colon, String.append_assoc,
    String.append_right_inj]
  simp only [← String.append_assoc]
  rw [Text.joined_eq_iff]
  constructor
  · rintro (same | straddles | straddles)
    · exact .inl same
    · exact .inr (.inr straddles)
    · exact .inr (.inl straddles)
  · rintro (same | straddles | straddles)
    · exact .inl same
    · exact .inr (.inr straddles)
    · exact .inr (.inl straddles)

/-- Countries without a colon are always told from the number behind them. -/
theorem not_confused_of_plain (plain : ':' ∉ document.issuingCountry.toList)
    (otherPlain : ':' ∉ other.issuingCountry.toList) : ¬ document.Confused other := by
  rintro (⟨middle, country, _⟩ | ⟨middle, country, _⟩)
  · rw [country] at plain
    simp at plain
  · rw [country] at otherPlain
    simp at otherPlain

end TravelDocument

/-! ## Two accepted attestations -/

section Pairs

variable {crates : Crates}

/-- Two accepted attestations have one subject exactly for one document, if and only if their
documents are not confused. -/
theorem subjects_tell_documents_apart_iff {evidence otherEvidence : EmrtdEvidenceObject}
    {readerKey otherReaderKey : Bytes} {issuer otherIssuer : Url}
    {nonce otherNonce holderJkt otherHolderJkt : String} {now otherNow : UInt64}
    (accepted : EmrtdAttestation crates evidence readerKey issuer nonce holderJkt now)
    (other : EmrtdAttestation crates otherEvidence otherReaderKey otherIssuer otherNonce
      otherHolderJkt otherNow)
    (apart : CollisionFreeAt (hashU128 crates) accepted.claims.mrz.document.preimage
      other.claims.mrz.document.preimage) :
    ((accepted.claims.verified crates now).subject = (other.claims.verified crates otherNow).subject
        ↔ accepted.claims.mrz.document = other.claims.mrz.document) ↔
      ¬ accepted.claims.mrz.document.Confused other.claims.mrz.document := by
  have subjects : (accepted.claims.verified crates now).subject =
      (other.claims.verified crates otherNow).subject ↔
        accepted.claims.mrz.document = other.claims.mrz.document ∨
          accepted.claims.mrz.document.Confused other.claims.mrz.document := by
    rw [← TravelDocument.preimage_eq_iff, ← apart.eq_iff]
    exact SubjectId.mk.injEq .. ▸ Iff.rfl
  rw [subjects]
  constructor
  · intro agree confused
    exact confused.ne (agree.mp (.inr confused))
  · intro clear
    exact or_iff_left clear

end Pairs

/-! ## Documents that the reader attests -/

def documentClaims (country number : String) : EmrtdEvidenceClaims :=
  { travelClaims "nonce" "jkt" "jti" none with
    mrz := ⟨"Mustermann", "Erika", "1990-01-01", "D", country, number, "2099-01-01"⟩ }

/-- The reader's attestation of a document is accepted. -/
def documentAttestation {country number : String}
    (size : Json.size (documentClaims country number).toValue ≤ 40000)
    (identity : ∀ value ∈ (documentClaims country number).mrz.required,
      Text.trim value ≠ "" ∧ Text.len value ≤ 512) :
    EmrtdAttestation reference ⟨reader.attestation (documentClaims country number)⟩
      (Reference.signerAt Reference.x₃ Reference.y₃).publicKeyBytes referenceState.issuer "nonce"
      "jkt" 1000 where
  readerKey := reader.key
  payload := (documentClaims country number).toValue.canonical
  claims := documentClaims country number
  bounded := reader_bounded size
  readerKeyRead := Reference.keyFromSec1_signerAt Reference.onCurve₃
  signed := reader.attestation_signed reference_encodings _
  claimsRead := EmrtdEvidenceClaims.toValue_read _
  aud := rfl
  issuedBefore := reader_issuedBefore
  expiresAfter := reader_expiresAfter
  nonceNamed := rfl
  newHolderNamed := rfl
  assurance := reader_assured
  unexpired := reader_unexpired
  identity := identity
  portraitBounded text given := by cases given

def firstDocument := @documentAttestation "D" "L01X00T47" (by decide +kernel) (by decide +kernel)

def secondDocument := @documentAttestation "D" "L01X00T48" (by decide +kernel) (by decide +kernel)

/-- Two documents of one country have two subjects. -/
theorem subjects_tell_documents_apart_plain :
    (firstDocument.claims.verified reference 1000).subject ≠
      (secondDocument.claims.verified reference 1000).subject := by
  have apart : CollisionFreeAt (hashU128 reference) firstDocument.claims.mrz.document.preimage
      secondDocument.claims.mrz.document.preimage := by
    intro same
    exact absurd same (by decide +kernel)
  have clear : ¬ firstDocument.claims.mrz.document.Confused secondDocument.claims.mrz.document :=
    TravelDocument.not_confused_of_plain (by decide +kernel) (by decide +kernel)
  intro same
  have one := ((subjects_tell_documents_apart_iff firstDocument secondDocument apart).mpr clear).mp
    same
  exact absurd one (by decide +kernel)

/-- A number that begins with a colon, and a country that ends in one: the two documents are
different, both attestations are accepted, and the subject is the same. -/
theorem documents_share_a_subject :
    ∃ verified other,
      verifyEmrtdEvidence reference ⟨reader.attestation (documentClaims "D" ":L01X00T47")⟩
          (Reference.signerAt Reference.x₃ Reference.y₃).publicKeyBytes referenceState.issuer
          "nonce" "jkt" 1000 = .ok verified ∧
        verifyEmrtdEvidence reference ⟨reader.attestation (documentClaims "D:" "L01X00T47")⟩
          (Reference.signerAt Reference.x₃ Reference.y₃).publicKeyBytes referenceState.issuer
          "nonce" "jkt" 1000 = .ok other ∧
        (documentClaims "D" ":L01X00T47").mrz.document ≠
          (documentClaims "D:" "L01X00T47").mrz.document ∧
        verified.subject = other.subject := by
  refine ⟨_, _,
    (verifyEmrtdEvidence_eq_ok ..).mpr
      ⟨@documentAttestation "D" ":L01X00T47" (by decide +kernel) (by decide +kernel), rfl⟩,
    (verifyEmrtdEvidence_eq_ok ..).mpr
      ⟨@documentAttestation "D:" "L01X00T47" (by decide +kernel) (by decide +kernel), rfl⟩,
    by decide +kernel, ?_⟩
  have preimages : TravelDocument.preimage ⟨"D", ":L01X00T47"⟩ =
      TravelDocument.preimage ⟨"D:", "L01X00T47"⟩ := by decide +kernel
  exact congrArg (fun text => SubjectId.mk (hashU128 reference text)) preimages

end VCIssuer.Service
