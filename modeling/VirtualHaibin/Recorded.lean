import VirtualHaibin.Evidence.Accepted
import VirtualHaibin.Foundation.Table
import VirtualHaibin.Messages

/-!
# Recorded platforms

Hashes and signatures read from a finite recording of messages.  What was not recorded has a fixed
digest and a fixed signature, so that every text has one of each and a key pair verifies what it signs,
beside what verifies on the platform below.
-/

namespace VirtualHaibin

open Foundation Evidence

/-- The digest of everything that was not recorded. -/
def otherDigest : String := "0000000000000000000000000000000000000000000000000000000000000000"

/-- The signature under everything that was not recorded: sixty-four zero bytes. -/
def otherSignature : String := "1111111111111111111111111111111111111111111111111111111111111111"

def digestKey (entry : Message × String) : String := entry.1.text Platform.plain

def signatureKey (entry : (String × Message) × String) : String × String :=
  (entry.1.1, entry.1.2.text Platform.plain)

/-- Distinct messages have distinct texts. -/
def recordDigests (entries : List (Message × String)) (h : (entries.map Prod.fst).Nodup) : Table digestKey where
  rows := entries
  nodup := by
    have hmap : entries.map digestKey = (entries.map Prod.fst).map (Message.text Platform.plain) := by
      simp [digestKey]
    rw [hmap]
    exact h.map (Message.text_injective Platform.plain_canonicalizeInjective)

def recordSignatures (entries : List ((String × Message) × String)) (h : (entries.map Prod.fst).Nodup) :
    Table signatureKey where
  rows := entries
  nodup := by
    have hmap : entries.map signatureKey =
        (entries.map Prod.fst).map (Prod.map id (Message.text Platform.plain)) := by
      simp [signatureKey]
    rw [hmap]
    exact h.map (Function.injective_id.prodMap
      (Message.text_injective Platform.plain_canonicalizeInjective))

/-- Recorded digests and signatures over a platform for everything else. -/
structure Recording where
  base : Platform
  addresses : List String
  digests : Table digestKey
  signatures : Table signatureKey
  digests_hex : ∀ entry ∈ digests.rows, Text.isDigest entry.2 = true
  signatures_base58 : ∀ entry ∈ signatures.rows, Field 128 BASE58 entry.2

namespace Recording

variable (recording : Recording)

def sign (key message : String) : String :=
  ((recording.signatures.find? (key, message)).map Prod.snd).getD otherSignature

def platform : Platform :=
  { recording.base with
    canonicalize := Json.canonical
    sha256Hex := fun text ↦ ((recording.digests.find? text).map Prod.snd).getD otherDigest
    isAddress := fun key ↦ key ∈ recording.addresses
    importsKey := fun key ↦ key ∈ recording.addresses
    isSignature := fun signature ↦ signature ∈ otherSignature :: recording.signatures.rows.map Prod.snd
    signBytes := recording.sign
    verifySignature := fun key signature message ↦
      decide (key ∈ recording.addresses) && decide (signature = recording.sign key message) ||
        recording.base.verifySignature key signature message }

theorem canonicalizeInjective : recording.platform.CanonicalizeInjective :=
  fun _ _ h ↦ Json.canonical_injective h

theorem text_platform (message : Message) : message.text recording.platform = message.text Platform.plain := by
  cases message <;> rfl

variable {recording}

theorem sha256Hex_of_mem {message : Message} {digest : String} (h : (message, digest) ∈ recording.digests.rows) :
    recording.platform.sha256Hex (message.text recording.platform) = digest := by
  rw [text_platform]
  have hfound : recording.digests.find? (message.text Platform.plain) = some (message, digest) :=
    Table.find?_of_mem h
  simp only [platform, hfound, Option.map_some, Option.getD_some]

theorem sign_of_mem {key : String} {message : Message} {signature : String}
    (h : ((key, message), signature) ∈ recording.signatures.rows) :
    recording.platform.signBytes key (message.text recording.platform) = signature := by
  rw [text_platform]
  have hfound : recording.signatures.find? (key, message.text Platform.plain) =
      some ((key, message), signature) := Table.find?_of_mem h
  simp only [platform, sign, hfound, Option.map_some, Option.getD_some]

theorem verifySignature_of_mem {key : String} (message : Message) {signature : String}
    (hkey : key ∈ recording.addresses) (h : ((key, message), signature) ∈ recording.signatures.rows) :
    recording.platform.verifySignature key signature (message.text recording.platform) = true := by
  have hsign := sign_of_mem h
  simp only [platform, Bool.or_eq_true, Bool.and_eq_true, decide_eq_true_eq] at hsign ⊢
  exact .inl ⟨hkey, hsign.symm⟩

theorem isSignature_of_mem (entry : (String × Message) × String) (h : entry ∈ recording.signatures.rows) :
    recording.platform.isSignature entry.2 = true := by
  simp only [platform, decide_eq_true_eq]
  exact List.mem_cons_of_mem _ (List.mem_map_of_mem h)

theorem sha256Hex_isDigest (recording : Recording) (text : String) :
    Text.isDigest (recording.platform.sha256Hex text) = true := by
  simp only [platform]
  cases hfind : recording.digests.find? text with
  | none =>
    show Text.isDigest otherDigest = true
    decide
  | some entry => exact recording.digests_hex entry (Table.mem_of_find? hfind)

theorem keyPair {key : String} (hkey : key ∈ recording.addresses) : KeyPair recording.platform key where
  isAddress := by simpa [platform] using hkey
  importsKey := by simpa [platform] using hkey
  isSignature message := by
    simp only [platform, sign, decide_eq_true_eq]
    cases hfind : recording.signatures.find? (key, message) with
    | none => exact List.mem_cons_self
    | some entry => exact List.mem_cons_of_mem _ (List.mem_map_of_mem (Table.mem_of_find? hfind))
  encoded message := by
    simp only [platform, sign]
    cases hfind : recording.signatures.find? (key, message) with
    | none =>
      show Field 128 BASE58 otherSignature
      exact ⟨by decide, by decide⟩
    | some entry => exact recording.signatures_base58 entry (Table.mem_of_find? hfind)
  verifies message := by
    rw [platform, Bool.or_eq_true, Bool.and_eq_true, decide_eq_true_eq, decide_eq_true_eq]
    exact .inl ⟨hkey, rfl⟩

end Recording

end VirtualHaibin
