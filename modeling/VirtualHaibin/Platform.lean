import VirtualHaibin.Foundation.Canonical

/-!
# The platform

What the repository calls and does not contain: RFC 8785 canonical JSON, SHA-256, base58
addresses, Ed25519, the Solana wire format, and the host's URL parser.  Texts are hashed and signed
as their UTF-8 bytes, which a text determines.  A key pair is named by its public address.
-/

namespace VirtualHaibin

open Foundation

/-- A compiled instruction: positions in the account list and its data bytes. -/
structure WireInstruction where
  programAddressIndex : ℕ
  accountIndices : List ℕ
  data : List ℕ
  deriving DecidableEq

/-- A decoded wire transaction; `version` is `none` for a legacy message. -/
structure WireTransaction where
  version : Option ℕ
  numSignerAccounts : ℕ
  staticAccounts : List String
  lifetimeToken : String
  addressTableLookups : ℕ
  instructions : List WireInstruction
  /-- Signer addresses with their base58 signatures, absent where a signer has not signed. -/
  signatures : List (String × Option String)
  /-- The bytes the signatures cover. -/
  messageBytes : String
  deriving DecidableEq

structure Platform where
  /-- The `canonicalize` package. -/
  canonicalize : Json → String
  /-- Lowercase hexadecimal SHA-256. -/
  sha256Hex : String → String
  /-- `JSON.stringify` in error texts; `none` is an absent member. -/
  stringify : Option Json → String
  isAddress : String → Bool
  isSignature : String → Bool
  /-- Whether `getPublicKeyFromAddress` accepts the address as a key. -/
  importsKey : String → Bool
  /-- `verifySignature key signature message`. -/
  verifySignature : String → String → String → Bool
  /-- The base58 signature of a message under the key pair with this address. -/
  signBytes : String → String → String
  /-- `new URL(url).pathname`; `none` is the constructor's exception. -/
  pathname : String → Option String
  /-- The JSON value behind a base64url text, if there is one. -/
  parseBase64Url : String → Option Json
  /-- `JSON.parse`; `none` is its exception. -/
  parseJson : String → Option Json
  /-- `Buffer.from(text, "base64")`, which skips what it cannot read. -/
  decodeBase64 : String → List ℕ
  encodeBase64 : List ℕ → String
  /-- Lowercase hexadecimal SHA-256 of bytes. -/
  sha256HexOfBytes : List ℕ → String
  /-- Base64 and wire decoding of a transaction, or the text of its exception. -/
  decodeTransaction : String → Except String WireTransaction
  /-- The token account of an owner, a mint and a token program, or the text of its exception. -/
  associatedTokenAddress : String → String → String → Except String String

/-- Canonical JSON determines the value up to the order of object members. -/
def Platform.CanonicalizeInjective (platform : Platform) : Prop :=
  ∀ ⦃a b : Json⦄, platform.canonicalize a = platform.canonicalize b → a.normal = b.normal

/-- Canonical JSON and nothing else: texts are their own digests and their own signatures, no text
is an address, and nothing can be read back. -/
def Platform.plain : Platform where
  canonicalize := Json.canonical
  sha256Hex := id
  stringify value := (value.map Json.canonical).getD "undefined"
  isAddress _ := false
  isSignature _ := false
  importsKey _ := false
  verifySignature _ _ _ := false
  signBytes _ message := message
  pathname _ := none
  parseBase64Url _ := none
  parseJson _ := none
  decodeBase64 _ := []
  encodeBase64 _ := ""
  sha256HexOfBytes _ := ""
  decodeTransaction _ := .error "Unreadable transaction."
  associatedTokenAddress _ _ _ := .error "Unknown token account."

theorem Platform.plain_canonicalizeInjective : Platform.plain.CanonicalizeInjective :=
  fun _ _ h ↦ Json.canonical_injective h

/-- Largest token amount. -/
def maxU64 : ℕ := 18446744073709551615

/-- `/^(0|[1-9][0-9]{0,19})$/`: at most twenty digits, which may exceed the token range. -/
def isCanonicalAtomicAmount (text : String) : Bool := Decimal.isCanonical 20 text

theorem isCanonicalAtomicAmount_iff {text : String} :
    isCanonicalAtomicAmount text = true ↔ ∃ n < 10 ^ 20, text = n.repr :=
  Decimal.isCanonical_iff (by decide)

theorem isCanonicalAtomicAmount_repr {n : ℕ} (hn : n ≤ maxU64) :
    isCanonicalAtomicAmount n.repr = true :=
  Decimal.isCanonical_repr (by decide) (by unfold maxU64 at hn; omega)

/-- A canonical amount is the printed form of its value. -/
theorem repr_amount {text : String} (h : isCanonicalAtomicAmount text = true) :
    (Decimal.amount text).repr = text := by
  obtain ⟨n, -, rfl⟩ := isCanonicalAtomicAmount_iff.1 h
  rw [Decimal.amount_repr]

end VirtualHaibin
