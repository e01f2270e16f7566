/-
What the tool takes from its libraries, by what it relies on: the strkey text of keys and
hashes, SHA-256, ed25519 and the XDR bytes a transaction hash covers, Go's `int64`
arithmetic, hex and base64 text, and horizon's names of signer types.

Nothing the tool proves rests on how SHA-256, ed25519, strkey or base64 compute, so they are
parameters: `StrKey`, `Crypto` and `Base64` carry the laws the tool does rely on (decoding
an encoding gives it back; a signature verifies under its key), and every result below
holds for any functions that satisfy them.
-/
import StellarAtomicSwap.Xdr

namespace StellarAtomicSwap

/-- How a call that does not return normally ends: with an `error` whose text is `msg`, or
with a Go runtime panic. -/
inductive Failure
  | error (msg : String)
  | panic (msg : String)
  deriving DecidableEq, Repr

/-- `fmt.Errorf(pre + "%s", err)`: an error's text gets a prefix; a panic goes through. -/
def Failure.wrap (pre : String) : Failure → Failure
  | .error msg => .error (pre ++ msg)
  | .panic msg => .panic msg

theorem bind_eq_ok {ε α β : Type} {x : Except ε α} {f : α → Except ε β} {b : β} :
    x >>= f = .ok b ↔ ∃ a, x = .ok a ∧ f a = .ok b := by
  cases x <;> simp [bind, Except.bind]

@[simp] theorem map_eq_ok {ε α β : Type} {x : Except ε α} {f : α → β} {b : β} :
    f <$> x = .ok b ↔ ∃ a, x = .ok a ∧ f a = b := by
  cases x <;> simp [Functor.map, Except.map]

@[simp] theorem mapError_eq_ok {ε ε' α : Type} {f : ε → ε'} {x : Except ε α} {a : α} :
    x.mapError f = .ok a ↔ x = .ok a := by
  cases x <;> simp [Except.mapError]

@[simp] theorem mapError_ok {ε ε' α : Type} (f : ε → ε') (a : α) :
    (Except.ok a : Except ε α).mapError f = .ok a := rfl

@[simp] theorem mapError_error {ε ε' α : Type} (f : ε → ε') (e : ε) :
    (Except.error e : Except ε α).mapError f = .error (f e) := rfl

@[simp] theorem throw_ne_ok {ε α : Type} {e : ε} {a : α} : (throw e : Except ε α) ≠ .ok a := by
  simp [throw, throwThe, MonadExceptOf.throw]

@[simp] theorem ok_bind {ε α β : Type} (a : α) (f : α → Except ε β) :
    (Except.ok a >>= f : Except ε β) = f a := rfl

@[simp] theorem throw_bind {ε α β : Type} (e : ε) (f : α → Except ε β) :
    (throw e >>= f : Except ε β) = throw e := rfl

@[simp] theorem error_bind {ε α β : Type} (e : ε) (f : α → Except ε β) :
    (Except.error e >>= f : Except ε β) = .error e := rfl

@[simp] theorem throw_eq_error {ε α : Type} {e e' : ε} :
    (throw e : Except ε α) = .error e' ↔ e = e' := by
  simp [throw, throwThe, MonadExceptOf.throw]

@[simp] theorem pure_eq_ok {ε α : Type} {a b : α} : (pure a : Except ε α) = .ok b ↔ a = b := by
  simp [pure, Except.pure]

/-- Go's `int64` arithmetic wraps around modulo `2^64`. -/
def toInt64 (x : Int) : Int := (x + 2 ^ 63) % 2 ^ 64 - 2 ^ 63

theorem toInt64_of_lt {x : Int} (h0 : -2 ^ 63 ≤ x) (h1 : x < 2 ^ 63) : toInt64 x = x := by
  unfold toInt64; omega

/-- strkey's version bytes (`strkey.VersionByte`). -/
inductive VersionByte
  | accountID
  | seed
  | hashTx
  | hashX
  deriving DecidableEq, Repr

/-- horizon's names of signer key types (`protocols/horizon.KeyTypeNames`). -/
def keyTypeNames : VersionByte → String
  | .accountID => "ed25519_public_key"
  | .seed => "ed25519_secret_seed"
  | .hashTx => "preauth_tx"
  | .hashX => "sha256_hash"

theorem keyTypeNames_injective : Function.Injective keyTypeNames := by
  intro a b h; cases a <;> cases b <;> first | rfl | exact absurd h (by decide)

/-- The strkey text of keys and hashes (`github.com/stellar/go/strkey`), by its laws:
decoding an encoding under its version gives the payload back, the version of an encoding
is the one it was made with, and no encoding is empty. -/
structure StrKey where
  encode : VersionByte → List UInt8 → String
  decode : VersionByte → String → Except String (List UInt8)
  version : String → Except String VersionByte
  decode_encode (v : VersionByte) (b : List UInt8) : decode v (encode v b) = .ok b
  version_encode (v : VersionByte) (b : List UInt8) : version (encode v b) = .ok v
  encode_ne_empty (v : VersionByte) (b : List UInt8) : encode v b ≠ ""

/-- SHA-256, ed25519 and the XDR marshalling of a transaction, by their laws: digests and
public keys are 32 bytes, and a signature verifies under the public key of the seed that
made it. -/
structure Crypto where
  sha256 : List UInt8 → List UInt8
  publicKey : List UInt8 → List UInt8
  sign : List UInt8 → List UInt8 → List UInt8
  verify : List UInt8 → List UInt8 → List UInt8 → Bool
  marshalTransaction : XdrTransaction → List UInt8
  sha256_length (b : List UInt8) : (sha256 b).length = 32
  publicKey_length (seed : List UInt8) : (publicKey seed).length = 32
  verify_sign (seed msg : List UInt8) : verify (publicKey seed) msg (sign seed msg) = true

attribute [simp] StrKey.decode_encode StrKey.version_encode StrKey.encode_ne_empty Crypto.sha256_length
  Crypto.publicKey_length Crypto.verify_sign

/-- The hash the ledger signs and pre-authorizes: SHA-256 of the network ID (the SHA-256
of the passphrase), the envelope type `ENVELOPE_TYPE_TX` and the transaction's XDR. -/
def Crypto.transactionHash (c : Crypto) (tx : XdrTransaction) (passphrase : String) :
    List UInt8 :=
  c.sha256 (c.sha256 passphrase.toUTF8.toList ++ [0, 0, 0, 2] ++ c.marshalTransaction tx)

@[simp] theorem Crypto.transactionHash_length (c : Crypto) (tx : XdrTransaction) (passphrase : String) :
    (c.transactionHash tx passphrase).length = 32 := c.sha256_length _

/-- `strings.TrimSpace(s) == ""`: the text is blank. -/
def isBlank (s : String) : Bool := s.data.all Char.isWhitespace

/-- `network.HashTransaction`, which refuses a blank passphrase. -/
def Crypto.hashTransaction (c : Crypto) (tx : XdrTransaction) (passphrase : String) :
    Except String (List UInt8) :=
  if isBlank passphrase then .error "empty network passphrase"
  else .ok (c.transactionHash tx passphrase)

@[simp] theorem Crypto.hashTransaction_of_not_blank (c : Crypto) (tx : XdrTransaction)
    {passphrase : String} (h : isBlank passphrase = false) :
    c.hashTransaction tx passphrase = .ok (c.transactionHash tx passphrase) := by
  simp [Crypto.hashTransaction, h]

/-- `keypair.Full`, known by its seed. -/
structure KeyPairFull where
  seed : List UInt8
  deriving DecidableEq, Repr

/-- `keypair.Full.Address`: the strkey text of the public key. -/
def KeyPairFull.address (sk : StrKey) (c : Crypto) (kp : KeyPairFull) : String :=
  sk.encode .accountID (c.publicKey kp.seed)

/-- `keypair.Full.SignDecorated`: the signature of `msg`, hinted by the key's last four
bytes. -/
def KeyPairFull.signDecorated (c : Crypto) (kp : KeyPairFull) (msg : List UInt8) :
    DecoratedSignature :=
  ⟨(c.publicKey kp.seed).drop 28, c.sign kp.seed msg⟩

/-! ## Hex -/

/-- A digit of `fmt`'s `%x`. -/
def hexDigit (n : Nat) : Char := if n < 10 then Char.ofNat (48 + n) else Char.ofNat (87 + n)

/-- `fmt.Sprintf("%x", b)`: two lowercase digits a byte. -/
def hexString (b : List UInt8) : String :=
  String.mk (b.flatMap fun x => [hexDigit (x.toNat / 16), hexDigit (x.toNat % 16)])

/-- The value of a hex digit of either case (`hex.fromHexChar`). -/
def fromHexChar (c : Char) : Option Nat :=
  if '0' ≤ c ∧ c ≤ '9' then some (c.toNat - 48)
  else if 'a' ≤ c ∧ c ≤ 'f' then some (c.toNat - 87)
  else if 'A' ≤ c ∧ c ≤ 'F' then some (c.toNat - 55)
  else none

/-- `hex.Decode` over the characters of a string. -/
def hexDecodeChars : List Char → Except String (List UInt8)
  | [] => .ok []
  | [c] =>
    match fromHexChar c with
    | some _ => .error "encoding/hex: odd length hex string"
    | none => .error ("encoding/hex: invalid byte: " ++ toString c)
  | a :: b :: rest =>
    match fromHexChar a, fromHexChar b with
    | some x, some y => (UInt8.ofNat (16 * x + y) :: ·) <$> hexDecodeChars rest
    | none, _ => .error ("encoding/hex: invalid byte: " ++ toString a)
    | some _, none => .error ("encoding/hex: invalid byte: " ++ toString b)

/-- `hex.DecodeString`. -/
def hexDecodeString (s : String) : Except String (List UInt8) := hexDecodeChars s.data

theorem fromHexChar_hexDigit : ∀ n : Fin 16, fromHexChar (hexDigit n) = some n.val := by decide

/-- Hex text decodes back to its bytes. -/
theorem hexDecodeChars_hexString (b : List UInt8) : hexDecodeChars (hexString b).data = .ok b := by
  induction b with
  | nil => rfl
  | cons x b ih =>
    have hx : x.toNat < 256 := x.toNat_lt_size
    have h1 := fromHexChar_hexDigit ⟨x.toNat / 16, by omega⟩
    have h2 := fromHexChar_hexDigit ⟨x.toNat % 16, by omega⟩
    have hb : UInt8.ofNat (16 * (x.toNat / 16) + x.toNat % 16) = x :=
      UInt8.toNat.inj (by rw [Nat.div_add_mod]; exact UInt8.toNat_ofNat_of_lt hx)
    simp only [hexString, List.flatMap_cons, List.cons_append, List.nil_append] at ih ⊢
    simp only [hexDecodeChars, h1, h2, ih, hb]
    rfl

theorem hexString_injective : Function.Injective hexString := fun a b h => by
  have ha := hexDecodeChars_hexString a
  rw [h, hexDecodeChars_hexString] at ha
  exact (Except.ok.inj ha).symm

@[simp] theorem hexString_beq (a b : List UInt8) : (hexString a == hexString b) = (a == b) := by
  simp [hexString_injective.eq_iff]

/-! ## Base64 -/

/-- `base64.StdEncoding`, by its law: decoding an encoding gives the bytes back. -/
structure Base64 where
  encodeToString : List UInt8 → String
  decodeString : String → Except String (List UInt8)
  decode_encode (b : List UInt8) : decodeString (encodeToString b) = .ok b

attribute [simp] Base64.decode_encode

@[simp] theorem Base64.mapM_decode_encode (b64 : Base64) :
    ∀ ds : List (List UInt8), (ds.map b64.encodeToString).mapM b64.decodeString = .ok ds
  | [] => rfl
  | d :: ds => by
    rw [List.map_cons, List.mapM_cons, Base64.decode_encode, Base64.mapM_decode_encode b64 ds]
    rfl

/-! ## Instances to run the model on -/

/-- The letter that starts the strkey text of each version. -/
def VersionByte.letter : VersionByte → Char
  | .accountID => 'G'
  | .seed => 'S'
  | .hashTx => 'T'
  | .hashX => 'X'

/-- The version a letter starts. -/
def VersionByte.ofLetter? (c : Char) : Option VersionByte :=
  [VersionByte.accountID, .seed, .hashTx, .hashX].find? (·.letter = c)

/-- A strkey codec that writes the version's letter and then the payload in hex: strkey's
laws without its base32 and checksum, to run the model on concrete keys. -/
def StrKey.hexText : StrKey where
  encode v b := String.mk (v.letter :: (hexString b).data)
  decode v s :=
    match s.data with
    | c :: cs => if c = v.letter then hexDecodeChars cs else .error "invalid version byte"
    | [] => .error "encoded value is too short"
  version s :=
    match s.data.head?.bind VersionByte.ofLetter? with
    | some v => .ok v
    | none => .error "invalid version byte"
  decode_encode v b := by simp [hexDecodeChars_hexString]
  version_encode v b := by cases v <;> rfl
  encode_ne_empty v b h := List.cons_ne_nil _ _ (congrArg String.data h)

/-- The first 32 bytes, padded with zeros. -/
def bytes32 (b : List UInt8) : List UInt8 := (b ++ List.replicate 32 0).take 32

theorem bytes32_length (b : List UInt8) : (bytes32 b).length = 32 := by simp [bytes32]

/-- A digest with no secrecy: the input, padded with zeros to 32 bytes, run through a
32-byte window, each byte entering as `31 * (the byte 32 places before) + byte`. An input of
at most 32 bytes is its own digest, padded; a longer one's digest depends on every byte. -/
def plainDigest (b : List UInt8) : List UInt8 :=
  (b ++ List.replicate (32 - b.length) 0).foldl (fun w x => w.tail ++ [31 * w.headD 0 + x])
    (List.replicate 32 0)

theorem plainDigest_length (b : List UInt8) : (plainDigest b).length = 32 := by
  suffices ∀ w : List UInt8, w.length = 32 → ∀ xs : List UInt8,
      (xs.foldl (fun w x => w.tail ++ [31 * w.headD 0 + x]) w).length = 32 from
    this _ (List.length_replicate _ _) _
  intro w hw xs
  induction xs generalizing w with
  | nil => exact hw
  | cons x xs ih => exact ih _ (by simp [hw])

/-- Eight bytes of a number, most significant first. -/
def uint64Bytes (n : Nat) : List UInt8 :=
  (List.range 8).reverse.map fun k => UInt8.ofNat (n / 256 ^ k)

/-- The bytes of an operation in `plainMarshal`: a tag, then the fields. -/
def plainOperationBytes (op : XdrOperation) : List UInt8 :=
  op.sourceAccount.elim [0] (1 :: ·) ++
    match op.body with
    | .createAccount d b => 0 :: d ++ uint64Bytes (b % 2 ^ 64).toNat
    | .setOptions o =>
      5 :: ([o.masterWeight, o.lowThreshold, o.medThreshold, o.highThreshold].map
          fun w => UInt8.ofNat (w.elim 256 id)) ++
        o.signer.elim [] fun s => UInt8.ofNat s.weight :: match s.key with
          | .ed25519 k => 0 :: k
          | .preAuthTx h => 1 :: h
          | .hashX h => 2 :: h
    | .accountMerge d => 8 :: d
    | .other t => 255 :: t.toUTF8.toList

/-- A byte layout of a transaction standing in for its XDR: the source account, fee,
sequence number, time bounds and operations, each field in its own bytes. -/
def plainMarshal (tx : XdrTransaction) : List UInt8 :=
  tx.sourceAccount ++ uint64Bytes tx.fee ++ uint64Bytes (tx.seqNum % 2 ^ 64).toNat ++
    tx.timeBounds.elim [0] (fun tb => 1 :: uint64Bytes tb.minTime ++ uint64Bytes tb.maxTime) ++
    (tx.operations.map plainOperationBytes).flatten

/-- Functions with the laws of `Crypto` and no secrecy at all, to run the model on concrete
keys: a digest is `plainDigest` (a 32-byte value is its own digest), a public key the first
32 bytes of the seed, a signature the public key followed by the message, and a transaction's
bytes `plainMarshal`, so that two transactions' hashes differ with their fields. -/
def Crypto.plain : Crypto where
  sha256 := plainDigest
  publicKey := bytes32
  sign seed msg := bytes32 seed ++ msg
  verify pk msg sig := sig == pk ++ msg
  marshalTransaction := plainMarshal
  sha256_length := plainDigest_length
  publicKey_length := bytes32_length
  verify_sign _ _ := beq_self_eq_true _

/-- A codec with base64's law that writes the bytes in hex, to run the model on concrete
records. -/
def Base64.hexText : Base64 where
  encodeToString := hexString
  decodeString := hexDecodeString
  decode_encode := hexDecodeChars_hexString

end StellarAtomicSwap
