/-
The transaction builder (`github.com/stellar/go/txnbuild`) as the tool uses it: the
operations and transactions it fills in; `Build`, which increments the source account's
sequence number and turns addresses into the ledger's bytes; `Hash`; the two ways of
signing; and `TransactionFromXDR`, which reads an envelope back.
-/
import StellarAtomicSwap.Primitives

namespace StellarAtomicSwap

/-- txnbuild's `Account`: an account ID and the sequence number it was last seen at. The
tool passes `horizon.Account` values, whose sequence number the model keeps parsed. -/
structure Account where
  accountID : String
  sequence : Int
  deriving DecidableEq, Repr

/-- The error of `strconv.ParseUint` on the text of `n`, wrapped as `GetSequenceNumber` wraps
it. -/
def parseSequenceError (n : Int) (reason : String) : String :=
  "Failed to parse account sequence number: strconv.ParseUint: parsing \"" ++ toString n ++ "\": " ++ reason

/-- `horizon.Account.GetSequenceNumber`: the sequence text read by `strconv.ParseUint`, as an
`xdr.SequenceNumber` (an `int64`). -/
def Account.getSequenceNumber (a : Account) : Except String Int :=
  if a.sequence < 0 then .error (parseSequenceError a.sequence "invalid syntax")
  else if 2 ^ 64 ≤ a.sequence then .error (parseSequenceError a.sequence "value out of range")
  else .ok (toInt64 a.sequence)

/-- `horizon.Account.IncrementSequenceNumber`: one more in `int64`, written back as text and
read again, so that a number that wraps past the largest `int64` reads back negative, which
`ParseUint` refuses. -/
def Account.incrementSequenceNumber (a : Account) : Except String Account := do
  let seqNum ← a.getSequenceNumber
  let a := { a with sequence := toInt64 (seqNum + 1) }
  let _ ← a.getSequenceNumber
  return a

theorem Account.getSequenceNumber_eq_ok {a : Account} (h0 : 0 ≤ a.sequence) (h1 : a.sequence < 2 ^ 63) :
    a.getSequenceNumber = .ok a.sequence := by
  rw [Account.getSequenceNumber, if_neg (not_lt.mpr h0), if_neg (by omega), toInt64_of_lt (by omega) h1]

/-- A sequence number below the largest `int64` is incremented. -/
theorem Account.incrementSequenceNumber_eq_ok {a : Account} (h0 : 0 ≤ a.sequence)
    (h1 : a.sequence + 1 < 2 ^ 63) :
    a.incrementSequenceNumber = .ok { a with sequence := a.sequence + 1 } := by
  have h2 : toInt64 (a.sequence + 1) = a.sequence + 1 := toInt64_of_lt (by omega) h1
  simp only [Account.incrementSequenceNumber, Account.getSequenceNumber_eq_ok h0 (by omega), h2,
    ok_bind]
  rw [Account.getSequenceNumber_eq_ok (by dsimp only; omega) h1]
  rfl

example : (⟨"", 2 ^ 63 - 1⟩ : Account).incrementSequenceNumber =
    .error (parseSequenceError (-2 ^ 63) "invalid syntax") := by
  rfl

/-- `txnbuild.Signer`. -/
structure Signer where
  address : String
  weight : Nat
  deriving DecidableEq, Repr

/-- The fields of `txnbuild.SetOptions` the tool sets. -/
structure SetOptions where
  masterWeight : Option Nat := none
  lowThreshold : Option Nat := none
  mediumThreshold : Option Nat := none
  highThreshold : Option Nat := none
  signer : Option Signer := none
  sourceAccount : Option String := none
  deriving DecidableEq, Repr

/-- txnbuild's operations. `other` is any type the tool does not build, by the name of
its Go type. `sourceAccount` is the account ID of the operation's `SourceAccount`, `none`
when that is nil. -/
inductive Operation
  | createAccount (destination amount : String) (sourceAccount : Option String)
  | setOptions (o : SetOptions)
  | accountMerge (destination : String) (sourceAccount : Option String)
  | other (typeName : String) (sourceAccount : Option String)
  deriving DecidableEq, Repr

/-- `reflect.TypeOf(op)`, as `%v` prints it. -/
def Operation.typeName : Operation → String
  | .createAccount .. => "*txnbuild.CreateAccount"
  | .setOptions _ => "*txnbuild.SetOptions"
  | .accountMerge .. => "*txnbuild.AccountMerge"
  | .other t _ => t

/-- `GetSourceAccount`: the account an operation names as its source, if any. -/
def Operation.getSourceAccount : Operation → Option String
  | .createAccount _ _ s | .accountMerge _ s | .other _ s => s
  | .setOptions o => o.sourceAccount

/-- `txnbuild.Timebounds`; only the constructors below set `wasBuilt`. -/
structure Timebounds where
  minTime : Int
  maxTime : Int
  wasBuilt : Bool
  deriving DecidableEq, Repr

def newTimebounds (minTime maxTime : Int) : Timebounds := ⟨minTime, maxTime, true⟩

def newInfiniteTimeout : Timebounds := newTimebounds 0 0

/-- `Timebounds.Validate`. -/
def Timebounds.validate (tb : Timebounds) : Except String Unit :=
  if !tb.wasBuilt then
    .error "timebounds must be constructed using NewTimebounds(), NewTimeout(), or NewInfiniteTimeout()"
  else if tb.minTime < 0 then .error "invalid timebound: minTime cannot be negative"
  else if tb.maxTime < 0 then .error "invalid timebound: maxTime cannot be negative"
  else if tb.maxTime ≠ 0 ∧ tb.maxTime < tb.minTime then .error "invalid timebound: maxTime < minTime"
  else .ok ()

/-- `txnbuild.Transaction`. `xdrEnvelope` is what `Build` and `TransactionFromXDR` set,
and what the signatures are appended to. -/
structure Transaction where
  sourceAccount : Account
  operations : List Operation
  timebounds : Timebounds
  network : String
  xdrEnvelope : Option TransactionEnvelope := none
  deriving DecidableEq, Repr

/-! ## Amounts -/

/-- The value of a nonempty run of decimal digits. -/
def decimalValue? (cs : List Char) : Option Nat :=
  if !cs.isEmpty && cs.all Char.isDigit then
    some (cs.foldl (fun n c => 10 * n + (c.toNat - '0'.toNat)) 0)
  else none

/-- `amount.Parse`, for plain decimals: digits, then optionally a point and at most seven
digits, in units of `10^-7`. -/
def amountParse (v : String) : Except String Int :=
  let bad : Except String Int := .error ("cannot parse amount: " ++ v)
  match v.data.splitOn '.' with
  | [w] => match decimalValue? w with
    | some n => .ok (n * 10 ^ 7)
    | none => bad
  | [w, f] =>
    match decimalValue? w, decimalValue? (f ++ List.replicate 7 '0') with
    | some n, some m => if f.length ≤ 7 then .ok (n * 10 ^ 7 + m / 10 ^ f.length) else bad
    | _, _ => bad
  | _ => bad

/-- `amount.String`: seven decimals. -/
def amountString (v : Int) : String :=
  let frac := toString (v.natAbs % 10 ^ 7)
  (if v < 0 then "-" else "") ++ toString (v.natAbs / 10 ^ 7) ++ "." ++
    String.mk (List.replicate (7 - frac.length) '0') ++ frac

section Build

variable (sk : StrKey)

/-- `xdr.AccountId.SetAddress`: the public key an account address encodes. -/
def accountIdFromAddress (address : String) : Except String (List UInt8) := do
  let raw ← sk.decode .accountID address
  if raw.length ≠ 32 then throw "invalid address"
  return raw

/-- The strkey version of each kind of signer key. -/
def SignerKey.version : SignerKey → VersionByte
  | .ed25519 _ => .accountID
  | .preAuthTx _ => .hashTx
  | .hashX _ => .hashX

def SignerKey.payload : SignerKey → List UInt8
  | .ed25519 k | .preAuthTx k | .hashX k => k

/-- `xdr.SignerKey.Address`. -/
def SignerKey.address (k : SignerKey) : String := sk.encode k.version k.payload

/-- `xdr.SignerKey.SetAddress`: the version of the address picks the kind of key. -/
def signerKeyFromAddress (address : String) : Except String SignerKey := do
  let vb ← sk.version address
  let mk : List UInt8 → SignerKey ← match vb with
    | .accountID => pure SignerKey.ed25519
    | .hashTx => pure SignerKey.preAuthTx
    | .hashX => pure SignerKey.hashX
    | .seed => throw "invalid version byte"
  let raw ← sk.decode vb address
  if raw.length ≠ 32 then throw "invalid address"
  return mk raw

/-- `txnbuild.SetOpSourceAccount`. Go ignores the error of `SetAddress`, which leaves the
key zero. -/
def opSourceAccount (a : Option String) : Option (List UInt8) :=
  a.map fun s => match accountIdFromAddress sk s with
    | .ok k => k
    | .error _ => List.replicate 32 0

/-- `BuildXDR` of each operation. -/
def Operation.buildXDR : Operation → Except String XdrOperation
  | .createAccount d amt src => do
    let dest ← accountIdFromAddress sk d
    let b ← amountParse amt
    return ⟨opSourceAccount sk src, .createAccount dest b⟩
  | .setOptions o => do
    let signer ← match o.signer with
      | none => pure none
      | some s => do
        let k ← signerKeyFromAddress sk s.address
        pure (some ⟨k, s.weight⟩)
    return ⟨opSourceAccount sk o.sourceAccount, .setOptions
      ⟨o.masterWeight, o.lowThreshold, o.mediumThreshold, o.highThreshold, signer⟩⟩
  | .accountMerge d src => do
    let dest ← accountIdFromAddress sk d
    return ⟨opSourceAccount sk src, .accountMerge dest⟩
  | .other t src => return ⟨opSourceAccount sk src, .other t⟩

/-- txnbuild's default fee per operation. -/
def minBaseFee : Nat := 100

/-- `Transaction.Build`: check the source account, increment its sequence number (in place,
so the caller's account is incremented too), build the operations, check the time bounds,
and set the envelope, unsigned. -/
def Transaction.build (tx : Transaction) : Except String Transaction := do
  if tx.xdrEnvelope.any (·.signatures ≠ []) then
    throw "transaction has already been signed, so cannot be rebuilt."
  let source ← accountIdFromAddress sk tx.sourceAccount.accountID
  let account ← tx.sourceAccount.incrementSequenceNumber.mapError ("failed to parse sequence number: " ++ ·)
  let ops ← tx.operations.mapM fun op =>
    (op.buildXDR sk).mapError (("failed to build operation " ++ op.typeName ++ ": ") ++ ·)
  tx.timebounds.validate
  return { tx with
    sourceAccount := account
    xdrEnvelope := some ⟨⟨source, minBaseFee * ops.length, account.sequence,
      some ⟨tx.timebounds.minTime.toNat, tx.timebounds.maxTime.toNat⟩, ops⟩, []⟩ }

/-- `operationFromXDR`: addresses are the strkey text of the keys. -/
def operationFromXDR (op : XdrOperation) : Operation :=
  let src := op.sourceAccount.map (sk.encode .accountID)
  match op.body with
  | .createAccount d b => .createAccount (sk.encode .accountID d) (amountString b) src
  | .setOptions o => .setOptions
    { masterWeight := o.masterWeight, lowThreshold := o.lowThreshold,
      mediumThreshold := o.medThreshold, highThreshold := o.highThreshold,
      signer := o.signer.map fun s => ⟨s.key.address sk, s.weight⟩, sourceAccount := src }
  | .accountMerge d => .accountMerge (sk.encode .accountID d) src
  | .other t => .other t src

/-- `TransactionFromXDR`, of the envelope its base64 argument encodes. The network is left
empty; the caller sets it. -/
def transactionFromXDR (env : TransactionEnvelope) : Transaction where
  sourceAccount := ⟨sk.encode .accountID env.tx.sourceAccount, env.tx.seqNum⟩
  operations := env.tx.operations.map (operationFromXDR sk)
  timebounds := match env.tx.timeBounds with
    | some tb => newTimebounds (toInt64 tb.minTime) (toInt64 tb.maxTime)
    | none => ⟨0, 0, false⟩
  network := ""
  xdrEnvelope := some env

end Build

section Sign

variable (c : Crypto)

/-- `Transaction.Hash`: of the built transaction, under the transaction's network. -/
def Transaction.hash (tx : Transaction) : Except String (List UInt8) :=
  c.hashTransaction ((tx.xdrEnvelope.map (·.tx)).getD default) tx.network

/-- `Transaction.Sign` with one key pair: the decorated signature of the hash is appended.
Go dereferences the envelope, which the tool always builds first. -/
def Transaction.sign (tx : Transaction) (kp : KeyPairFull) : Except String Transaction := do
  let hash ← tx.hash c
  match tx.xdrEnvelope with
  | none => throw "transaction has not been built"
  | some env => return { tx with
      xdrEnvelope := some { env with signatures := env.signatures ++ [kp.signDecorated c hash] } }

/-- `Transaction.SignHashX`: the preimage itself is appended as a signature, hinted by the
last bytes of its SHA-256. -/
def Transaction.signHashX (tx : Transaction) (preimage : List UInt8) :
    Except String Transaction :=
  if preimage.length > signatureMaxSize then .error "preimage cannnot be more than 64 bytes"
  else
    let env := tx.xdrEnvelope.getD ⟨default, []⟩
    let sig : DecoratedSignature := ⟨(c.sha256 preimage).drop 28, preimage⟩
    .ok { tx with xdrEnvelope := some { env with signatures := env.signatures ++ [sig] } }

/-- `Transaction.Base64`: the envelope. -/
def Transaction.base64 (tx : Transaction) : Except String TransactionEnvelope :=
  match tx.xdrEnvelope with
  | some env => .ok env
  | none => .error "transaction has not been built"

/-- `Transaction.BuildSignEncode` with one key pair. -/
def Transaction.buildSignEncode (sk : StrKey) (tx : Transaction) (kp : KeyPairFull) :
    Except String TransactionEnvelope := do
  let tx ← (tx.build sk).mapError ("couldn't build transaction: " ++ ·)
  let tx ← (tx.sign c kp).mapError ("couldn't sign transaction: " ++ ·)
  tx.base64.mapError ("couldn't encode transaction: " ++ ·)

end Sign

/-! ## What `Build` and `BuildSignEncode` make -/

section BuildLemmas

variable {sk : StrKey} {c : Crypto}

@[simp] theorem accountIdFromAddress_encode {a : List UInt8} (h : a.length = 32) :
    accountIdFromAddress sk (sk.encode .accountID a) = .ok a := by
  simp [accountIdFromAddress, h]

@[simp] theorem opSourceAccount_encode {a : List UInt8} (h : a.length = 32) :
    opSourceAccount sk (some (sk.encode .accountID a)) = some a := by
  simp [opSourceAccount, h]

@[simp] theorem signerKeyFromAddress_address {k : SignerKey} (h : k.payload.length = 32) :
    signerKeyFromAddress sk (k.address sk) = .ok k := by
  cases k <;> simp only [SignerKey.payload] at h <;>
    simp only [signerKeyFromAddress, SignerKey.address, SignerKey.version, SignerKey.payload,
      StrKey.version_encode, StrKey.decode_encode, ok_bind, pure_bind, h, ne_eq, not_true_eq_false, if_false,
      pure_eq_ok]

theorem signerKeyFromAddress_accountID {b : List UInt8} (h : b.length = 32) :
    signerKeyFromAddress sk (sk.encode .accountID b) = .ok (.ed25519 b) :=
  @signerKeyFromAddress_address sk (.ed25519 b) h

theorem signerKeyFromAddress_hashX {b : List UInt8} (h : b.length = 32) :
    signerKeyFromAddress sk (sk.encode .hashX b) = .ok (.hashX b) :=
  @signerKeyFromAddress_address sk (.hashX b) h

theorem signerKeyFromAddress_hashTx {b : List UInt8} (h : b.length = 32) :
    signerKeyFromAddress sk (sk.encode .hashTx b) = .ok (.preAuthTx b) :=
  @signerKeyFromAddress_address sk (.preAuthTx b) h

theorem mapM_mapError {ε ε' α β : Type} {f : α → Except ε β} {g : α → ε → ε'} :
    ∀ {l : List α} {bs : List β}, l.mapM f = .ok bs → (l.mapM fun a => (f a).mapError (g a)) = .ok bs
  | [], bs, h => by simp only [List.mapM_nil, pure_eq_ok] at h ⊢; exact h
  | a :: l, bs, h => by
    simp only [List.mapM_cons, bind_eq_ok, pure_eq_ok] at h ⊢
    obtain ⟨b, hb, bs', hl, rfl⟩ := h
    exact ⟨b, by simp [hb], bs', mapM_mapError hl, rfl⟩

theorem mem_of_mapM_eq_ok {ε α β : Type} {f : α → Except ε β} :
    ∀ {l : List α} {bs : List β}, l.mapM f = .ok bs → ∀ b ∈ bs, ∃ a ∈ l, f a = .ok b
  | [], bs, h => by simp only [List.mapM_nil, pure_eq_ok] at h; subst h; nofun
  | a :: l, bs, h => by
    simp only [List.mapM_cons, bind_eq_ok, pure_eq_ok] at h
    obtain ⟨b, hb, bs', hl, rfl⟩ := h
    rintro b' (_ | ⟨_, hm⟩)
    · exact ⟨a, List.mem_cons_self _ _, hb⟩
    · obtain ⟨a', ha', hf⟩ := mem_of_mapM_eq_ok hl b' hm
      exact ⟨a', List.mem_cons_of_mem _ ha', hf⟩

theorem opSourceAccount_of {a : String} {k : List UInt8} (h : accountIdFromAddress sk a = .ok k) :
    opSourceAccount sk (some a) = some k := by
  simp [opSourceAccount, h]

/-- A built operation acts on the account its source address names. -/
theorem Operation.buildXDR_sourceAccount {op : Operation} {xop : XdrOperation} (h : op.buildXDR sk = .ok xop) :
    xop.sourceAccount = opSourceAccount sk op.getSourceAccount := by
  cases op with
  | createAccount d amt src =>
    obtain ⟨_, -, _, -, rfl⟩ := by simpa only [Operation.buildXDR, bind_eq_ok, pure_eq_ok] using h
    rfl
  | setOptions o =>
    simp only [Operation.buildXDR] at h
    split at h <;> simp only [bind_eq_ok, pure_eq_ok, pure_bind] at h
    · obtain rfl := h; rfl
    · obtain ⟨_, -, rfl⟩ := h; rfl
  | accountMerge d src =>
    obtain ⟨_, -, rfl⟩ := by simpa only [Operation.buildXDR, bind_eq_ok, pure_eq_ok] using h
    rfl
  | other t src =>
    obtain rfl := by simpa only [Operation.buildXDR, pure_eq_ok] using h
    rfl

/-- **What `Build` made.** An unsigned envelope whose source is the key of the source address,
and each of whose operations is built from one of the transaction's. -/
theorem Transaction.build_inv {tx tx' : Transaction} (h : tx.build sk = .ok tx') :
    ∃ xtx : XdrTransaction, tx'.xdrEnvelope = some ⟨xtx, []⟩ ∧
      accountIdFromAddress sk tx.sourceAccount.accountID = .ok xtx.sourceAccount ∧
      ∀ xop ∈ xtx.operations, ∃ op ∈ tx.operations, op.buildXDR sk = .ok xop := by
  unfold Transaction.build at h
  split at h
  · cases h
  simp only [pure_bind, bind_eq_ok, pure_eq_ok] at h
  obtain ⟨src, hsrc, -, -, ops, hops, u, -, rfl⟩ := h
  exact ⟨_, rfl, hsrc, fun xop hx => (mem_of_mapM_eq_ok hops xop hx).imp fun _ ⟨hop, hb⟩ =>
    ⟨hop, mapError_eq_ok.mp hb⟩⟩

/-- What `Build` makes of a transaction whose source address, operations and time bounds are
valid. -/
theorem Transaction.build_eq_ok {tx : Transaction} {src : List UInt8} {account : Account}
    {ops : List XdrOperation} (he : tx.xdrEnvelope = none)
    (hsrc : accountIdFromAddress sk tx.sourceAccount.accountID = .ok src)
    (hseq : tx.sourceAccount.incrementSequenceNumber = .ok account)
    (hops : tx.operations.mapM (Operation.buildXDR sk) = .ok ops)
    (htb : tx.timebounds.validate = .ok ()) :
    tx.build sk = .ok { tx with
      sourceAccount := account
      xdrEnvelope := some ⟨⟨src, minBaseFee * ops.length, account.sequence,
        some ⟨tx.timebounds.minTime.toNat, tx.timebounds.maxTime.toNat⟩, ops⟩, []⟩ } := by
  unfold Transaction.build
  rw [mapM_mapError hops]
  simp [he, hsrc, hseq, htb, Except.mapError]

/-- `Build` stops when the source account's sequence number has no successor. -/
theorem Transaction.build_of_increment_error {tx : Transaction} {src : List UInt8} {msg : String}
    (he : tx.xdrEnvelope = none) (hsrc : accountIdFromAddress sk tx.sourceAccount.accountID = .ok src)
    (hseq : tx.sourceAccount.incrementSequenceNumber = .error msg) :
    tx.build sk = .error ("failed to parse sequence number: " ++ msg) := by
  simp [Transaction.build, he, hsrc, hseq, Except.mapError]

theorem Transaction.hash_of_envelope {tx : Transaction} {env : TransactionEnvelope}
    (he : tx.xdrEnvelope = some env) (hn : isBlank tx.network = false) :
    tx.hash c = .ok (c.transactionHash env.tx tx.network) := by
  simp [Transaction.hash, he, hn]

/-- `BuildSignEncode` with one key pair: the built transaction, with that key pair's signature
of its hash. -/
theorem Transaction.buildSignEncode_eq_ok {tx : Transaction} {src : List UInt8} {account : Account}
    {ops : List XdrOperation} {kp : KeyPairFull} (he : tx.xdrEnvelope = none)
    (hsrc : accountIdFromAddress sk tx.sourceAccount.accountID = .ok src)
    (hseq : tx.sourceAccount.incrementSequenceNumber = .ok account)
    (hops : tx.operations.mapM (Operation.buildXDR sk) = .ok ops)
    (htb : tx.timebounds.validate = .ok ()) (hn : isBlank tx.network = false) :
    tx.buildSignEncode c sk kp =
      let xtx : XdrTransaction := ⟨src, minBaseFee * ops.length, account.sequence,
        some ⟨tx.timebounds.minTime.toNat, tx.timebounds.maxTime.toNat⟩, ops⟩
      .ok ⟨xtx, [kp.signDecorated c (c.transactionHash xtx tx.network)]⟩ := by
  simp [Transaction.buildSignEncode, Transaction.build_eq_ok he hsrc hseq hops htb, Transaction.sign,
    Transaction.hash, hn, Transaction.base64]

theorem Transaction.sign_tx {tx tx' : Transaction} {kp : KeyPairFull} {env : TransactionEnvelope}
    (he : tx.xdrEnvelope = some env) (h : tx.sign c kp = .ok tx') : ∃ sigs, tx'.xdrEnvelope = some ⟨env.tx, sigs⟩ := by
  simp only [Transaction.sign, he, bind_eq_ok, pure_eq_ok] at h
  obtain ⟨_, -, rfl⟩ := h
  exact ⟨_, rfl⟩

theorem Transaction.signHashX_tx {tx tx' : Transaction} {preimage : List UInt8} {env : TransactionEnvelope}
    (he : tx.xdrEnvelope = some env) (h : tx.signHashX c preimage = .ok tx') :
    ∃ sigs, tx'.xdrEnvelope = some ⟨env.tx, sigs⟩ := by
  unfold Transaction.signHashX at h
  split at h
  · cases h
  · cases h
    exact ⟨_, by rw [he]; rfl⟩

/-- **What `BuildSignEncode` made.** An envelope whose source is the key of the source address,
and each of whose operations is built from one of the transaction's. -/
theorem Transaction.buildSignEncode_inv {tx : Transaction} {kp : KeyPairFull} {env : TransactionEnvelope}
    (h : tx.buildSignEncode c sk kp = .ok env) :
    accountIdFromAddress sk tx.sourceAccount.accountID = .ok env.tx.sourceAccount ∧
      ∀ xop ∈ env.tx.operations, ∃ op ∈ tx.operations, op.buildXDR sk = .ok xop := by
  simp only [Transaction.buildSignEncode, bind_eq_ok, mapError_eq_ok] at h
  obtain ⟨tx₁, hb, tx₂, hs, he⟩ := h
  obtain ⟨xtx, he₁, hsrc, hops⟩ := Transaction.build_inv hb
  obtain ⟨sigs, he₂⟩ := Transaction.sign_tx he₁ hs
  simp only [Transaction.base64, he₂, Except.ok.injEq] at he
  subst he
  exact ⟨hsrc, hops⟩

end BuildLemmas

end StellarAtomicSwap
