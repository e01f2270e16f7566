/-
The ledger (stellar-core) as far as the tool's transactions touch it: account entries with
their signers, thresholds and sequence numbers; when a transaction is valid (operations,
time bounds, source account, sequence number, signature weight against thresholds); and
what its create-account, set-options and account-merge operations do. A valid transaction
consumes its sequence number even when an operation then fails; its operations apply all
or none.

At the end, horizon's view of an account and the client that the ledger backs. Horizon's
history endpoints (effects, operations, transactions) are not derived from the ledger here:
the client takes them as a parameter (`History`), and results that need what a transaction
left in the history are stated of the record horizon makes of its envelope.

Signatures are checked, for the transaction and for each operation, against the ledger as it
is before the transaction applies, as stellar-core checks them.

An account entry carries the `AUTH_IMMUTABLE` flag and the number of its sub-entries, and the
account merge fails on either (`op_immutable_set`, `op_has_sub_entries`), as it does when the
destination account is not there (`op_no_account`). The set-options operation is modelled
without its flag fields, which the tool never sets, and no operation modelled creates a
sub-entry, so both come only from the ledger a run starts from; horizon's account record
shows neither.

Not modelled: transaction fees and base reserves, so a balance here is what it would be with
no fee charged, and no account is refused for falling under its reserve: results about
balances say where an account's balance goes, not how much of an amount arrives. Nor the
signers' sorted order, the removal of a used pre-authorized-transaction signer, and signature
hints (which only speed up the search).
-/
import StellarAtomicSwap.Stellar

namespace StellarAtomicSwap

/-- An account entry (`xdr.AccountEntry`): what the tool's transactions read or change, the
`AUTH_IMMUTABLE` flag, and the number of the account's sub-entries other than its signers
(trustlines, offers and data entries), which an account merge reads. -/
structure AccountEntry where
  balance : Int
  seqNum : Int
  masterWeight : Nat
  lowThreshold : Nat
  medThreshold : Nat
  highThreshold : Nat
  signers : List XdrSigner
  authImmutable : Bool
  subEntries : Nat
  deriving DecidableEq, Repr

/-- An account an account merge can remove: `AUTH_IMMUTABLE` is not set, and it has no
sub-entries but its signers. -/
def AccountEntry.Mergeable (e : AccountEntry) : Prop := e.authImmutable = false ∧ e.subEntries = 0

instance : DecidablePred AccountEntry.Mergeable := fun _ => instDecidableAnd

/-- The ledger: its accounts by public key, its network's passphrase, and the number and
close time of the ledger being closed. -/
structure Ledger where
  accounts : List UInt8 → Option AccountEntry
  networkPassphrase : String
  ledgerSeq : Nat
  closeTime : Nat

/-- The ledger with account `a` set to `e` (`none` removes it). -/
def Ledger.set (L : Ledger) (a : List UInt8) (e : Option AccountEntry) : Ledger :=
  { L with accounts := fun b => if b = a then e else L.accounts b }

@[simp] theorem Ledger.set_accounts_self (L : Ledger) (a : List UInt8) (e : Option AccountEntry) :
    (L.set a e).accounts a = e := by simp [Ledger.set]

@[simp] theorem Ledger.set_accounts_of_ne (L : Ledger) {a b : List UInt8} (e : Option AccountEntry)
    (h : b ≠ a) : (L.set a e).accounts b = L.accounts b := by simp [Ledger.set, h]

@[simp] theorem Ledger.set_networkPassphrase (L : Ledger) (a : List UInt8) (e : Option AccountEntry) :
    (L.set a e).networkPassphrase = L.networkPassphrase := rfl

@[simp] theorem Ledger.set_ledgerSeq (L : Ledger) (a : List UInt8) (e : Option AccountEntry) :
    (L.set a e).ledgerSeq = L.ledgerSeq := rfl

@[simp] theorem Ledger.set_closeTime (L : Ledger) (a : List UInt8) (e : Option AccountEntry) :
    (L.set a e).closeTime = L.closeTime := rfl

/-- The sequence number of an account created in ledger `ledgerSeq`. -/
def startingSequenceNumber (ledgerSeq : Nat) : Int := ledgerSeq * 2 ^ 32

theorem startingSequenceNumber_nonneg (ledgerSeq : Nat) : 0 ≤ startingSequenceNumber ledgerSeq := by
  unfold startingSequenceNumber
  positivity

/-! ## Signatures -/

/-- Whether a signer key is satisfied: an ed25519 key by a signature of the transaction's
hash, a pre-authorized transaction by that hash itself, a hash-x by a signature whose
SHA-256 it is. -/
def SignerKey.satisfiedBy (c : Crypto) (txHash : List UInt8) (sigs : List DecoratedSignature) :
    SignerKey → Bool
  | .ed25519 k => sigs.any fun s => c.verify k txHash s.signature
  | .preAuthTx h => h == txHash
  | .hashX x => sigs.any fun s => c.sha256 s.signature == x

/-- An account's signers, its master key first. -/
def AccountEntry.allSigners (a : List UInt8) (e : AccountEntry) : List XdrSigner :=
  ⟨.ed25519 a, e.masterWeight⟩ :: e.signers

/-- The weight the signatures give account `a`: the sum of the weights of its satisfied
signers. -/
def AccountEntry.signatureWeight (c : Crypto) (txHash : List UInt8)
    (sigs : List DecoratedSignature) (a : List UInt8) (e : AccountEntry) : Nat :=
  (((e.allSigners a).filter (·.key.satisfiedBy c txHash sigs)).map (·.weight)).sum

/-- stellar-core adds the weights of satisfied signers until they reach the threshold: a
threshold is met by a positive weight at least as large. -/
def meetsThreshold (weight threshold : Nat) : Bool := 0 < weight && threshold ≤ weight

/-- The threshold an operation needs from its source account. -/
def OperationBody.threshold (e : AccountEntry) : OperationBody → Nat
  | .createAccount .. => e.medThreshold
  | .setOptions o =>
    if o.masterWeight.isSome || o.lowThreshold.isSome || o.medThreshold.isSome ||
      o.highThreshold.isSome || o.signer.isSome then e.highThreshold
    else e.medThreshold
  | .accountMerge _ => e.highThreshold
  | .other _ => e.medThreshold

/-! ## Operations -/

/-- Why the ledger refuses a transaction, or why an operation failed after the transaction
consumed its sequence number (`txFailed`), with stellar-core's result code. -/
inductive TxError
  | txMissingOperation
  | txTooEarly
  | txTooLate
  | txNoAccount
  | txBadSeq
  | txBadAuth
  | opBadAuth
  | txFailed (opCode : String)
  deriving DecidableEq, Repr

/-- The result codes horizon reports. -/
def TxError.resultCodes : TxError → String
  | .txMissingOperation => "tx_missing_operation"
  | .txTooEarly => "tx_too_early"
  | .txTooLate => "tx_too_late"
  | .txNoAccount => "tx_no_source_account"
  | .txBadSeq => "tx_bad_seq"
  | .txBadAuth => "tx_bad_auth"
  | .opBadAuth => "tx_failed [op_bad_auth]"
  | .txFailed op => "tx_failed [" ++ op ++ "]"

/-- `SetOptionsOp` on account `a`: master weight and thresholds first, then the signer, which
a weight of 0 removes, and which otherwise replaces the one of the same key or is added. -/
def AccountEntry.setOptions (a : List UInt8) (e : AccountEntry) (o : SetOptionsOp) :
    Except String AccountEntry :=
  if [o.masterWeight, o.lowThreshold, o.medThreshold, o.highThreshold].any (·.any (255 < ·)) then
    .error "op_threshold_out_of_range"
  else
    let e := { e with
      masterWeight := o.masterWeight.getD e.masterWeight
      lowThreshold := o.lowThreshold.getD e.lowThreshold
      medThreshold := o.medThreshold.getD e.medThreshold
      highThreshold := o.highThreshold.getD e.highThreshold }
    match o.signer with
    | none => .ok e
    | some s =>
      if s.key = .ed25519 a ∨ 255 < s.weight then .error "op_bad_signer"
      else if s.weight = 0 then .ok { e with signers := e.signers.filter (·.key ≠ s.key) }
      else if e.signers.any (·.key = s.key) then
        .ok { e with signers := e.signers.map fun x => if x.key = s.key then s else x }
      else if 20 ≤ e.signers.length then .error "op_too_many_signers"
      else .ok { e with signers := e.signers ++ [s] }

/-- An operation, acting on its source account (the transaction's when it names none). -/
def Ledger.applyOperation (L : Ledger) (txSource : List UInt8) (op : XdrOperation) :
    Except String Ledger :=
  let a := op.sourceAccount.getD txSource
  match L.accounts a with
  | none => .error "op_no_source_account"
  | some e =>
    match op.body with
    | .createAccount d b =>
      if (L.accounts d).isSome then .error "op_already_exists"
      else if b ≤ 0 then .error "op_malformed"
      else if e.balance < b then .error "op_underfunded"
      else .ok ((L.set a (some { e with balance := e.balance - b })).set d
        (some ⟨b, startingSequenceNumber L.ledgerSeq, 1, 0, 0, 0, [], false, 0⟩))
    | .setOptions o => (e.setOptions a o).map fun e' => L.set a (some e')
    | .accountMerge d =>
      if d = a then .error "op_malformed"
      else match L.accounts d with
        | none => .error "op_no_account"
        | some de =>
          if e.authImmutable then .error "op_immutable_set"
          else if e.subEntries ≠ 0 then .error "op_has_sub_entries"
          else .ok ((L.set d (some { de with balance := de.balance + e.balance })).set a none)
    | .other t => .error ("op_not_supported " ++ t)

/-! ## Transactions -/

/-- Whether the signatures meet an operation's threshold on its source account (the
transaction's when it names none). -/
def Ledger.operationAuthorized (c : Crypto) (L : Ledger) (txHash : List UInt8)
    (sigs : List DecoratedSignature) (txSource : List UInt8) (op : XdrOperation) : Bool :=
  let a := op.sourceAccount.getD txSource
  match L.accounts a with
  | none => false
  | some e => meetsThreshold (e.signatureWeight c txHash sigs a) (op.body.threshold e)

/-- Whether the ledger accepts a transaction to apply: it has operations, the close time is
within its time bounds, its source account exists and is at the sequence number before
its own, and the signatures meet the source's low threshold and each operation's
threshold on its source account. -/
def Ledger.checkValid (c : Crypto) (L : Ledger) (env : TransactionEnvelope) :
    Except TxError Unit := do
  let tx := env.tx
  if tx.operations = [] then throw .txMissingOperation
  if let some tb := tx.timeBounds then
    if L.closeTime < tb.minTime then throw .txTooEarly
    if tb.maxTime ≠ 0 ∧ tb.maxTime < L.closeTime then throw .txTooLate
  let some src := L.accounts tx.sourceAccount | throw .txNoAccount
  if tx.seqNum ≠ src.seqNum + 1 then throw .txBadSeq
  let h := c.transactionHash tx L.networkPassphrase
  if !meetsThreshold (src.signatureWeight c h env.signatures tx.sourceAccount) src.lowThreshold then
    throw .txBadAuth
  if !tx.operations.all (L.operationAuthorized c h env.signatures tx.sourceAccount) then
    throw .opBadAuth

/-- The transaction's source account with its sequence number consumed. -/
def Ledger.consumeSequence (L : Ledger) (tx : XdrTransaction) : Ledger :=
  match L.accounts tx.sourceAccount with
  | some e => L.set tx.sourceAccount (some { e with seqNum := tx.seqNum })
  | none => L

/-- Submitting an envelope: a valid transaction consumes its sequence number, then its
operations apply in order, all or none. The ledger after the submission comes with the
outcome. -/
def Ledger.submit (c : Crypto) (L : Ledger) (env : TransactionEnvelope) :
    Except TxError Unit × Ledger :=
  match L.checkValid c env with
  | .error e => (.error e, L)
  | .ok () =>
    let L₁ := L.consumeSequence env.tx
    match env.tx.operations.foldlM (fun L op => L.applyOperation env.tx.sourceAccount op) L₁ with
    | .ok L₂ => (.ok (), L₂)
    | .error op => (.error (.txFailed op), L₁)

/-! ## What a submission does -/

/-- When the ledger accepts a transaction to apply. -/
theorem Ledger.checkValid_eq_ok {c : Crypto} {L : Ledger} {env : TransactionEnvelope} :
    L.checkValid c env = .ok () ↔ env.tx.operations ≠ [] ∧
      (∀ tb, env.tx.timeBounds = some tb →
        tb.minTime ≤ L.closeTime ∧ (tb.maxTime = 0 ∨ L.closeTime ≤ tb.maxTime)) ∧
      ∃ src, L.accounts env.tx.sourceAccount = some src ∧ env.tx.seqNum = src.seqNum + 1 ∧
        meetsThreshold (src.signatureWeight c (c.transactionHash env.tx L.networkPassphrase)
          env.signatures env.tx.sourceAccount) src.lowThreshold ∧
        env.tx.operations.all (L.operationAuthorized c (c.transactionHash env.tx L.networkPassphrase)
          env.signatures env.tx.sourceAccount) := by
  unfold Ledger.checkValid
  by_cases hops : env.tx.operations = []
  · rw [if_pos hops]
    exact iff_of_false nofun fun h => h.1 hops
  rw [if_neg hops]
  -- The time bounds refuse the transaction, or pass on to the checks of its source account.
  cases htb : env.tx.timeBounds
  on_goal 2 =>
    rename_i tb
    dsimp only
    by_cases h1 : L.closeTime < tb.minTime
    · rw [if_pos h1]
      exact iff_of_false nofun fun h => absurd (h.2.1 tb rfl).1 (by omega)
    rw [if_neg h1]
    by_cases h2 : tb.maxTime ≠ 0 ∧ tb.maxTime < L.closeTime
    · rw [if_pos h2]
      exact iff_of_false nofun fun h => by have := (h.2.1 tb rfl).2; omega
    rw [if_neg h2]
    have ht : tb.minTime ≤ L.closeTime ∧ (tb.maxTime = 0 ∨ L.closeTime ≤ tb.maxTime) := by omega
    simp only [Option.some.injEq, forall_eq', ht, true_and]
  all_goals
    cases hs : L.accounts env.tx.sourceAccount with
    | none => simp [hops, hs]
    | some src =>
      simp [hops, hs]
      split_ifs <;> simp_all

@[simp] theorem Ledger.set_set (L : Ledger) (a : List UInt8) (e e' : Option AccountEntry) :
    (L.set a e).set a e' = L.set a e' := by
  simp only [Ledger.set, Ledger.mk.injEq, and_true]
  funext b
  by_cases h : b = a <;> simp [h]

@[simp] theorem Ledger.set_set_set (L : Ledger) (a b : List UInt8) (x y z : Option AccountEntry) :
    ((L.set a x).set b y).set a z = (L.set b y).set a z := by
  simp only [Ledger.set, Ledger.mk.injEq, and_true]
  funext k
  by_cases hk : k = a <;> simp [hk]

theorem Ledger.consumeSequence_of {L : Ledger} {tx : XdrTransaction} {e : AccountEntry}
    (h : L.accounts tx.sourceAccount = some e) :
    L.consumeSequence tx = L.set tx.sourceAccount (some { e with seqNum := tx.seqNum }) := by
  simp [Ledger.consumeSequence, h]

theorem Ledger.submit_eq_ok {c : Crypto} {L L' : Ledger} {env : TransactionEnvelope}
    (hv : L.checkValid c env = .ok ())
    (ha : env.tx.operations.foldlM (fun L op => L.applyOperation env.tx.sourceAccount op)
      (L.consumeSequence env.tx) = .ok L') :
    L.submit c env = (.ok (), L') := by
  simp [Ledger.submit, hv, ha]

/-- A transaction the ledger accepts but whose operations fail consumes its sequence number
all the same. -/
theorem Ledger.submit_of_apply_error {c : Crypto} {L : Ledger} {env : TransactionEnvelope} {op : String}
    (hv : L.checkValid c env = .ok ())
    (ha : env.tx.operations.foldlM (fun L op => L.applyOperation env.tx.sourceAccount op)
      (L.consumeSequence env.tx) = .error op) :
    L.submit c env = (.error (.txFailed op), L.consumeSequence env.tx) := by
  simp [Ledger.submit, hv, ha]

/-- A transaction the ledger does not accept to apply is refused, and the ledger is left as
it was: its sequence number is not consumed. -/
theorem Ledger.submit_of_checkValid_ne_ok {c : Crypto} {L : Ledger} {env : TransactionEnvelope}
    (h : L.checkValid c env ≠ .ok ()) : ∃ err, L.submit c env = (.error err, L) := by
  cases hv : L.checkValid c env with
  | error err => exact ⟨err, by simp [Ledger.submit, hv]⟩
  | ok u => exact absurd hv h

/-- A transaction at a sequence number other than the one after its source account's is
refused, and the ledger left as it was. -/
theorem Ledger.submit_bad_seq {c : Crypto} {L : Ledger} {tx : XdrTransaction} {sigs : List DecoratedSignature}
    {x : AccountEntry} (hx : L.accounts tx.sourceAccount = some x) (hseq : tx.seqNum ≠ x.seqNum + 1) :
    ∃ err, L.submit c ⟨tx, sigs⟩ = (.error err, L) :=
  Ledger.submit_of_checkValid_ne_ok fun hv => by
    obtain ⟨-, -, src, hsrc, hs, -⟩ := Ledger.checkValid_eq_ok.mp hv
    rw [hx, Option.some.injEq] at hsrc
    exact hseq (hsrc ▸ hs)

/-- A transaction submitted before its time bounds open is refused, and the ledger left as it
was. -/
theorem Ledger.submit_too_early {c : Crypto} {L : Ledger} {env : TransactionEnvelope} {tb : TimeBounds}
    (htb : env.tx.timeBounds = some tb) (h : L.closeTime < tb.minTime) : ∃ err, L.submit c env = (.error err, L) :=
  Ledger.submit_of_checkValid_ne_ok fun hv => absurd ((Ledger.checkValid_eq_ok.mp hv).2.1 tb htb).1 (not_le.mpr h)

theorem OperationBody.threshold_of_eq {e : AccountEntry} {t : Nat} (hmed : e.medThreshold = t)
    (hhigh : e.highThreshold = t) (body : OperationBody) : body.threshold e = t := by
  cases body <;> simp [OperationBody.threshold, hmed, hhigh]

/-- **Refusal.** A transaction acting on account `e`, as its source account or as an operation's,
whose signatures give `e` a weight that meets `e`'s low threshold, or an operation's threshold,
only if `U` holds, is refused when `U` does not hold, and the ledger left as it was. -/
theorem Ledger.submit_refused {c : Crypto} {L : Ledger} {e : List UInt8} {ee : AccountEntry}
    {env : TransactionEnvelope} {U : Prop} (he : L.accounts e = some ee)
    (hlow : meetsThreshold (ee.signatureWeight c (c.transactionHash env.tx L.networkPassphrase) env.signatures e)
      ee.lowThreshold → U)
    (hop : ∀ body : OperationBody, meetsThreshold (ee.signatureWeight c (c.transactionHash env.tx L.networkPassphrase)
      env.signatures e) (body.threshold ee) → U)
    (hsrc : env.tx.sourceAccount = e ∨ ∃ op ∈ env.tx.operations, op.sourceAccount.getD env.tx.sourceAccount = e)
    (hu : ¬U) : ∃ err, L.submit c env = (.error err, L) := by
  refine Ledger.submit_of_checkValid_ne_ok fun hv => hu ?_
  obtain ⟨-, -, src, hs, -, hl, hops⟩ := Ledger.checkValid_eq_ok.mp hv
  rcases hsrc with hsrc | ⟨op, hop', hsrc⟩
  · rw [hsrc, he, Option.some.injEq] at hs
    subst hs
    rw [hsrc] at hl
    exact hlow hl
  · have hauth := List.all_eq_true.mp hops op hop'
    simp only [Ledger.operationAuthorized, hsrc, he] at hauth
    exact hop _ hauth

/-- **Refusal by thresholds.** Where account `e`'s thresholds are all 2 and signatures that give
it weight 2 meet `U`, a transaction acting on `e`, as its source account or as an operation's,
that does not meet `U` is refused, and the ledger left as it was. -/
theorem Ledger.submit_refused_of_thresholds {c : Crypto} {L : Ledger} {e : List UInt8} {ee : AccountEntry}
    {env : TransactionEnvelope} {U : Prop} (he : L.accounts e = some ee) (hlow : ee.lowThreshold = 2)
    (hmed : ee.medThreshold = 2) (hhigh : ee.highThreshold = 2)
    (hU : meetsThreshold (ee.signatureWeight c (c.transactionHash env.tx L.networkPassphrase) env.signatures e) 2 →
      U)
    (hsrc : env.tx.sourceAccount = e ∨ ∃ op ∈ env.tx.operations, op.sourceAccount.getD env.tx.sourceAccount = e)
    (hu : ¬U) : ∃ err, L.submit c env = (.error err, L) :=
  Ledger.submit_refused he (hlow ▸ hU) (fun body => (OperationBody.threshold_of_eq hmed hhigh body).symm ▸ hU) hsrc hu

theorem AccountEntry.masterWeight_le_signatureWeight {c : Crypto} {txHash : List UInt8}
    {sigs : List DecoratedSignature} {a : List UInt8} {e : AccountEntry}
    (h : (SignerKey.ed25519 a).satisfiedBy c txHash sigs) :
    e.masterWeight ≤ e.signatureWeight c txHash sigs a := by
  simp [AccountEntry.signatureWeight, AccountEntry.allSigners, List.filter_cons, h]

/-- A transaction signed by an account's master key meets every threshold up to the master
weight. -/
theorem meetsThreshold_of_master {c : Crypto} {kp : KeyPairFull} {e : AccountEntry} {h : List UInt8}
    {t : Nat} (hw : 0 < e.masterWeight) (ht : t ≤ e.masterWeight) :
    meetsThreshold (e.signatureWeight c h [kp.signDecorated c h] (c.publicKey kp.seed)) t := by
  have := AccountEntry.masterWeight_le_signatureWeight (e := e)
    (show (SignerKey.ed25519 (c.publicKey kp.seed)).satisfiedBy c h [kp.signDecorated c h] by
      simp [SignerKey.satisfiedBy, KeyPairFull.signDecorated])
  simp [meetsThreshold]; omega

theorem Ledger.applyOperation_createAccount {L : Ledger} {txSource a d : List UInt8}
    {e : AccountEntry} {b : Int} (hs : L.accounts a = some e) (hd : L.accounts d = none)
    (hb : 0 < b) (hbal : b ≤ e.balance) :
    L.applyOperation txSource ⟨some a, .createAccount d b⟩ =
      .ok ((L.set a (some { e with balance := e.balance - b })).set d
        (some ⟨b, startingSequenceNumber L.ledgerSeq, 1, 0, 0, 0, [], false, 0⟩)) := by
  simp [Ledger.applyOperation, hs, hd, not_le.mpr hb, not_lt.mpr hbal]

theorem Ledger.applyOperation_setOptions {L : Ledger} {txSource a : List UInt8} {e : AccountEntry}
    {o : SetOptionsOp} (hs : L.accounts a = some e) :
    L.applyOperation txSource ⟨some a, .setOptions o⟩ = (e.setOptions a o).map fun e' => L.set a (some e') := by
  simp [Ledger.applyOperation, hs]

theorem Ledger.applyOperation_accountMerge {L : Ledger} {txSource a d : List UInt8}
    {e de : AccountEntry} {src : Option (List UInt8)} (ha : src.getD txSource = a)
    (hs : L.accounts a = some e) (hne : d ≠ a) (hd : L.accounts d = some de) (hm : e.Mergeable) :
    L.applyOperation txSource ⟨src, .accountMerge d⟩ =
      .ok ((L.set d (some { de with balance := de.balance + e.balance })).set a none) := by
  subst ha
  simp [Ledger.applyOperation, hs, hne, hd, hm.1, hm.2]

theorem Ledger.applyOperation_accountMerge_no_account {L : Ledger} {txSource a d : List UInt8}
    {e : AccountEntry} {src : Option (List UInt8)} (ha : src.getD txSource = a)
    (hs : L.accounts a = some e) (hne : d ≠ a) (hd : L.accounts d = none) :
    L.applyOperation txSource ⟨src, .accountMerge d⟩ = .error "op_no_account" := by
  subst ha
  simp [Ledger.applyOperation, hs, hne, hd]

@[simp] theorem Ledger.consumeSequence_isSome (L : Ledger) (tx : XdrTransaction) (a : List UInt8) :
    ((L.consumeSequence tx).accounts a).isSome = (L.accounts a).isSome := by
  unfold Ledger.consumeSequence
  split
  · by_cases h : a = tx.sourceAccount <;> simp_all
  · rfl

theorem Ledger.submit_error_isSome {c : Crypto} {L L' : Ledger} {env : TransactionEnvelope}
    {err : TxError} (h : L.submit c env = (.error err, L')) (a : List UInt8) :
    (L'.accounts a).isSome = (L.accounts a).isSome := by
  unfold Ledger.submit at h
  split at h
  · cases h; rfl
  · dsimp only at h
    split at h
    · cases h
    · cases h; exact Ledger.consumeSequence_isSome _ _ _

theorem Ledger.applyOperation_merge_eq_ok {L L' : Ledger} {txSource a d : List UInt8}
    (h : L.applyOperation txSource ⟨some a, .accountMerge d⟩ = .ok L') :
    (L.accounts a).isSome ∧ L'.accounts a = none := by
  cases hs : L.accounts a with
  | none => simp [Ledger.applyOperation, hs] at h
  | some e =>
    simp only [Ledger.applyOperation, Option.getD_some, hs] at h
    split_ifs at h <;> split at h <;> cases h
    simp

/-- A submitted transaction whose only operation merges account `a` removes `a`, which was
there. -/
theorem Ledger.submit_merge_eq_ok {c : Crypto} {L L' : Ledger} {env : TransactionEnvelope}
    {a d : List UInt8} (hops : env.tx.operations = [⟨some a, .accountMerge d⟩])
    (h : L.submit c env = (.ok (), L')) : (L.accounts a).isSome ∧ L'.accounts a = none := by
  unfold Ledger.submit at h
  split at h
  · cases h
  · dsimp only at h
    rw [hops] at h
    split at h
    · rename_i L₂ h₂
      cases h
      simp only [List.foldlM_cons, List.foldlM_nil, bind_pure] at h₂
      have := Ledger.applyOperation_merge_eq_ok h₂
      rwa [Ledger.consumeSequence_isSome] at this
    · cases h

/-- A transaction whose one operation merges its source account `e`, at the sequence number
after `e`'s, within its time bounds, and signed so as to meet `e`'s low and high thresholds:
the ledger accepts it to apply. -/
theorem Ledger.checkValid_merge {c : Crypto} {L : Ledger} {e d : List UInt8} {ee : AccountEntry}
    {tx : XdrTransaction} {sigs : List DecoratedSignature}
    (he : L.accounts e = some ee) (hsrc : tx.sourceAccount = e) (hseq : tx.seqNum = ee.seqNum + 1)
    (hops : tx.operations = [⟨some e, .accountMerge d⟩])
    (htb : ∀ tb, tx.timeBounds = some tb → tb.minTime ≤ L.closeTime ∧ (tb.maxTime = 0 ∨ L.closeTime ≤ tb.maxTime))
    (hlow : meetsThreshold (ee.signatureWeight c (c.transactionHash tx L.networkPassphrase) sigs e) ee.lowThreshold)
    (hhigh : meetsThreshold (ee.signatureWeight c (c.transactionHash tx L.networkPassphrase) sigs e) ee.highThreshold) :
    L.checkValid c ⟨tx, sigs⟩ = .ok () := by
  subst hsrc
  rw [Ledger.checkValid_eq_ok]
  refine ⟨by simp [hops], htb, _, he, hseq, hlow, ?_⟩
  simpa only [hops, List.all_cons, List.all_nil, Bool.and_true, Ledger.operationAuthorized, Option.getD_some, he]
    using hhigh

/-- Such a transaction, merging `e` into `d`, when `e` can be merged: `e` is merged into `d`. -/
theorem Ledger.submit_merge {c : Crypto} {L : Ledger} {e d : List UInt8} {ee de : AccountEntry}
    {tx : XdrTransaction} {sigs : List DecoratedSignature}
    (he : L.accounts e = some ee) (hd : L.accounts d = some de) (hde : d ≠ e) (hm : ee.Mergeable)
    (hsrc : tx.sourceAccount = e) (hseq : tx.seqNum = ee.seqNum + 1)
    (hops : tx.operations = [⟨some e, .accountMerge d⟩])
    (htb : ∀ tb, tx.timeBounds = some tb → tb.minTime ≤ L.closeTime ∧ (tb.maxTime = 0 ∨ L.closeTime ≤ tb.maxTime))
    (hlow : meetsThreshold (ee.signatureWeight c (c.transactionHash tx L.networkPassphrase) sigs e) ee.lowThreshold)
    (hhigh : meetsThreshold (ee.signatureWeight c (c.transactionHash tx L.networkPassphrase) sigs e) ee.highThreshold) :
    L.submit c ⟨tx, sigs⟩ = (.ok (), (L.set d (some { de with balance := de.balance + ee.balance })).set e none) := by
  apply Ledger.submit_eq_ok (Ledger.checkValid_merge he hsrc hseq hops htb hlow hhigh)
  subst hsrc
  rw [hops, Ledger.consumeSequence_of he]
  simp only [List.foldlM_cons, List.foldlM_nil, bind_pure]
  rw [@Ledger.applyOperation_accountMerge _ tx.sourceAccount tx.sourceAccount d _ de (some tx.sourceAccount) rfl
    (Ledger.set_accounts_self _ _ _) hde (by rw [Ledger.set_accounts_of_ne _ _ hde, hd])
    (show AccountEntry.Mergeable { ee with seqNum := tx.seqNum } from hm)]
  simp

/-- Such a transaction, merging `e` into an account `d` that is not there: the merge fails, and
the transaction has only consumed `e`'s sequence number. -/
theorem Ledger.submit_merge_no_account {c : Crypto} {L : Ledger} {e d : List UInt8} {ee : AccountEntry}
    {tx : XdrTransaction} {sigs : List DecoratedSignature}
    (he : L.accounts e = some ee) (hd : L.accounts d = none) (hde : d ≠ e)
    (hsrc : tx.sourceAccount = e) (hseq : tx.seqNum = ee.seqNum + 1)
    (hops : tx.operations = [⟨some e, .accountMerge d⟩])
    (htb : ∀ tb, tx.timeBounds = some tb → tb.minTime ≤ L.closeTime ∧ (tb.maxTime = 0 ∨ L.closeTime ≤ tb.maxTime))
    (hlow : meetsThreshold (ee.signatureWeight c (c.transactionHash tx L.networkPassphrase) sigs e) ee.lowThreshold)
    (hhigh : meetsThreshold (ee.signatureWeight c (c.transactionHash tx L.networkPassphrase) sigs e) ee.highThreshold) :
    L.submit c ⟨tx, sigs⟩ = (.error (.txFailed "op_no_account"), L.set e (some { ee with seqNum := ee.seqNum + 1 })) := by
  rw [Ledger.submit_of_apply_error (Ledger.checkValid_merge he hsrc hseq hops htb hlow hhigh)]
  · subst hsrc; rw [Ledger.consumeSequence_of he, hseq]
  subst hsrc
  rw [hops, Ledger.consumeSequence_of he]
  simp only [List.foldlM_cons, List.foldlM_nil]
  rw [@Ledger.applyOperation_accountMerge_no_account _ tx.sourceAccount tx.sourceAccount d _ (some tx.sourceAccount) rfl
    (Ledger.set_accounts_self _ _ _) hde (by rw [Ledger.set_accounts_of_ne _ _ hde, hd])]
  rfl

/-- What an operation that applies does: its source account `a` creates an account, changes
its own options, or is merged into another account. -/
theorem Ledger.applyOperation_eq_ok {L L' : Ledger} {txSource : List UInt8} {op : XdrOperation}
    (h : L.applyOperation txSource op = .ok L') :
    let a := op.sourceAccount.getD txSource
    ∃ e, L.accounts a = some e ∧
      ((∃ d b, op.body = .createAccount d b ∧ L.accounts d = none ∧ 0 < b ∧ b ≤ e.balance ∧
          L' = (L.set a (some { e with balance := e.balance - b })).set d
            (some ⟨b, startingSequenceNumber L.ledgerSeq, 1, 0, 0, 0, [], false, 0⟩)) ∨
        (∃ o e', op.body = .setOptions o ∧ e.setOptions a o = .ok e' ∧ L' = L.set a (some e')) ∨
        (∃ d de, op.body = .accountMerge d ∧ d ≠ a ∧ L.accounts d = some de ∧ e.Mergeable ∧
          L' = (L.set d (some { de with balance := de.balance + e.balance })).set a none)) := by
  intro a
  unfold Ledger.applyOperation at h
  dsimp only at h
  cases hs : L.accounts a with
  | none => rw [hs] at h; cases h
  | some e =>
    rw [hs] at h
    refine ⟨e, rfl, ?_⟩
    cases hb : op.body with
    | createAccount d b =>
      rw [hb] at h
      dsimp only at h
      split_ifs at h with h1 h2 h3
      cases h
      exact .inl ⟨d, b, rfl, Option.not_isSome_iff_eq_none.mp h1, not_le.mp h2, not_lt.mp h3, rfl⟩
    | setOptions o =>
      rw [hb] at h
      obtain ⟨e', he', rfl⟩ := map_eq_ok.mp h
      exact .inr (.inl ⟨o, e', rfl, he', rfl⟩)
    | accountMerge d =>
      rw [hb] at h
      dsimp only at h
      cases hd : L.accounts d with
      | none => rw [hd] at h; split_ifs at h
      | some de =>
        rw [hd] at h
        split_ifs at h with h1 h2 h3
        cases h
        exact .inr (.inr ⟨d, de, rfl, h1, hd, ⟨by simpa using h2, not_not.mp h3⟩, rfl⟩)
    | other t => rw [hb] at h; cases h


theorem Ledger.foldlM_applyOperation {P : Ledger → Prop} {txSource : List UInt8} :
    ∀ {ops : List XdrOperation} {L L' : Ledger},
      (∀ op ∈ ops, ∀ L L', P L → L.applyOperation txSource op = .ok L' → P L') →
      P L → ops.foldlM (fun L op => L.applyOperation txSource op) L = .ok L' → P L'
  | [], _, _, _, hL, h => by
    simp only [List.foldlM_nil, pure_eq_ok] at h
    exact h ▸ hL
  | op :: _, _, _, hP, hL, h => by
    rw [List.foldlM_cons, bind_eq_ok] at h
    obtain ⟨L₁, h₁, h⟩ := h
    exact Ledger.foldlM_applyOperation (fun op' hop => hP op' (List.mem_cons_of_mem _ hop))
      (hP op (List.mem_cons_self _ _) _ _ hL h₁) h

/-- A property that consuming the sequence number and every operation keep holds after a
submission. -/
theorem Ledger.submit_invariant {P : Ledger → Prop} {c : Crypto} {L : Ledger} {env : TransactionEnvelope}
    (hc : P (L.consumeSequence env.tx))
    (hop : ∀ op ∈ env.tx.operations, ∀ L L', P L → L.applyOperation env.tx.sourceAccount op = .ok L' → P L')
    (hL : P L) : P (L.submit c env).2 := by
  unfold Ledger.submit
  split
  · exact hL
  dsimp only
  split
  · exact Ledger.foldlM_applyOperation hop hc ‹_›
  · exact hc

@[simp] theorem Ledger.consumeSequence_networkPassphrase (L : Ledger) (tx : XdrTransaction) :
    (L.consumeSequence tx).networkPassphrase = L.networkPassphrase := by
  unfold Ledger.consumeSequence; split <;> rfl

theorem Ledger.consumeSequence_accounts_of_ne {L : Ledger} {tx : XdrTransaction} {a : List UInt8}
    (h : a ≠ tx.sourceAccount) : (L.consumeSequence tx).accounts a = L.accounts a := by
  unfold Ledger.consumeSequence; split <;> simp [h]

theorem Ledger.applyOperation_networkPassphrase {L L' : Ledger} {txSource : List UInt8} {op : XdrOperation}
    (h : L.applyOperation txSource op = .ok L') : L'.networkPassphrase = L.networkPassphrase := by
  obtain ⟨_, -, ⟨_, _, -, -, -, -, rfl⟩ | ⟨_, _, -, -, rfl⟩ | ⟨_, _, -, -, -, -, rfl⟩⟩ := Ledger.applyOperation_eq_ok h <;>
    rfl

@[simp] theorem Ledger.submit_networkPassphrase (c : Crypto) (L : Ledger) (env : TransactionEnvelope) :
    (L.submit c env).2.networkPassphrase = L.networkPassphrase :=
  @Ledger.submit_invariant (fun L' => L'.networkPassphrase = L.networkPassphrase) c L env
    (Ledger.consumeSequence_networkPassphrase _ _)
    (fun _ _ _ _ hL h => (Ledger.applyOperation_networkPassphrase h).trans hL) rfl

/-- **Frame.** An operation whose source is another account than `e` changes `e` at most in
its balance. -/
theorem Ledger.applyOperation_keeps {L L' : Ledger} {txSource e : List UInt8} {op : XdrOperation}
    {x : AccountEntry} (hsrc : op.sourceAccount.getD txSource ≠ e)
    (he : ∃ bal, L.accounts e = some { x with balance := bal }) (h : L.applyOperation txSource op = .ok L') :
    ∃ bal, L'.accounts e = some { x with balance := bal } := by
  obtain ⟨bal, he⟩ := he
  obtain ⟨ea, -, ⟨d, b, -, hd, -, -, -, rfl⟩ | ⟨o, e', -, -, rfl⟩ | ⟨d, de, -, -, hd, -, rfl⟩⟩ :=
    Ledger.applyOperation_eq_ok h
  · have hde : e ≠ d := by rintro rfl; simp [he] at hd
    exact ⟨bal, by simp [hde, hsrc.symm, he]⟩
  · exact ⟨bal, by simp [hsrc.symm, he]⟩
  · by_cases hde : e = d
    · subst hde
      rw [he, Option.some.injEq] at hd
      subst hd
      exact ⟨bal + ea.balance, by simp [hsrc.symm]⟩
    · exact ⟨bal, by simp [hde, hsrc.symm, he]⟩

/-- **Frame.** A transaction that does not act on `e`, neither as its source account nor as an
operation's, changes `e` at most in its balance. -/
theorem Ledger.submit_keeps {c : Crypto} {L : Ledger} {env : TransactionEnvelope} {e : List UInt8}
    {x : AccountEntry} (hsrc : env.tx.sourceAccount ≠ e)
    (hops : ∀ op ∈ env.tx.operations, op.sourceAccount.getD env.tx.sourceAccount ≠ e)
    (he : ∃ bal, L.accounts e = some { x with balance := bal }) :
    ∃ bal, (L.submit c env).2.accounts e = some { x with balance := bal } :=
  @Ledger.submit_invariant (fun L => ∃ bal, L.accounts e = some { x with balance := bal }) c L env
    (by simpa only [Ledger.consumeSequence_accounts_of_ne (Ne.symm hsrc)] using he)
    (fun op hop _ _ hL h => Ledger.applyOperation_keeps (hops op hop) hL h) he

/-! ## Balances -/

/-- No account's balance is negative. -/
def Ledger.Solvent (L : Ledger) : Prop :=
  ∀ a e, L.accounts a = some e → 0 ≤ e.balance

theorem Ledger.Solvent.set {L : Ledger} (hL : L.Solvent) {a : List UInt8} {e : Option AccountEntry}
    (he : ∀ x, e = some x → 0 ≤ x.balance) : (L.set a e).Solvent := by
  intro b x hb
  by_cases hab : b = a
  · subst hab
    exact he x (by simpa using hb)
  · rw [Ledger.set_accounts_of_ne _ _ hab] at hb
    exact hL b x hb

theorem AccountEntry.setOptions_balance {a : List UInt8} {e e' : AccountEntry} {o : SetOptionsOp}
    (h : e.setOptions a o = .ok e') : e'.balance = e.balance ∧ e'.authImmutable = e.authImmutable := by
  unfold AccountEntry.setOptions at h
  split_ifs at h
  dsimp only at h
  split at h
  · cases h; exact ⟨rfl, rfl⟩
  · split_ifs at h <;> cases h <;> exact ⟨rfl, rfl⟩

/-- **Step lemma for solvency.** Operations keep the ledger solvent. -/
theorem Ledger.applyOperation_solvent {L L' : Ledger} {txSource : List UInt8} {op : XdrOperation}
    (hL : L.Solvent) (h : L.applyOperation txSource op = .ok L') : L'.Solvent := by
  obtain ⟨ea, hea, ⟨d, b, -, -, hb, hbe, rfl⟩ | ⟨o, e', -, ho, rfl⟩ | ⟨d, de, -, -, hd, -, rfl⟩⟩ :=
    Ledger.applyOperation_eq_ok h
  · exact (hL.set fun x hx => by cases hx; exact sub_nonneg.mpr hbe).set fun x hx => by cases hx; exact hb.le
  · exact hL.set fun x hx => by cases hx; rw [(AccountEntry.setOptions_balance ho).1]; exact hL _ _ hea
  · exact (hL.set fun x hx => by cases hx; exact add_nonneg (hL _ _ hd) (hL _ _ hea)).set nofun

theorem Ledger.consumeSequence_solvent {L : Ledger} (hL : L.Solvent) (tx : XdrTransaction) :
    (L.consumeSequence tx).Solvent := by
  unfold Ledger.consumeSequence
  split
  · rename_i e he
    exact hL.set fun x hx => by cases hx; exact hL _ e he
  · exact hL

theorem Ledger.submit_solvent {c : Crypto} {L : Ledger} (env : TransactionEnvelope) (hL : L.Solvent) :
    (L.submit c env).2.Solvent :=
  Ledger.submit_invariant (Ledger.consumeSequence_solvent hL _)
    (fun _ _ _ _ hL' h => Ledger.applyOperation_solvent hL' h) hL

/-- An operation that does not act on account `e` leaves it with at least its balance, in a
solvent ledger: it can only be merged into. -/
theorem Ledger.applyOperation_balance_le {L L' : Ledger} {txSource e : List UInt8} {op : XdrOperation} {b : Int}
    (hsrc : op.sourceAccount.getD txSource ≠ e) (hL : L.Solvent)
    (he : ∃ ee, L.accounts e = some ee ∧ b ≤ ee.balance) (h : L.applyOperation txSource op = .ok L') :
    ∃ ee, L'.accounts e = some ee ∧ b ≤ ee.balance := by
  obtain ⟨ee, he, hb⟩ := he
  obtain ⟨ea, hea, ⟨d, _, -, hd, -, -, rfl⟩ | ⟨o, e', -, -, rfl⟩ | ⟨d, de, -, -, hd, -, rfl⟩⟩ :=
    Ledger.applyOperation_eq_ok h
  · have hde : e ≠ d := by rintro rfl; simp [he] at hd
    exact ⟨ee, by simp [hde, hsrc.symm, he], hb⟩
  · exact ⟨ee, by simp [hsrc.symm, he], hb⟩
  · by_cases hde : e = d
    · subst hde
      rw [he, Option.some.injEq] at hd
      subst hd
      exact ⟨{ ee with balance := ee.balance + ea.balance }, by simp [hsrc.symm],
        le_add_of_le_of_nonneg hb (hL _ _ hea)⟩
    · exact ⟨ee, by simp [hde, hsrc.symm, he], hb⟩

/-- **Balances only grow from outside.** A transaction that does not act on account `e`,
neither as its source account nor as an operation's, leaves it with at least its balance, in a
solvent ledger. -/
theorem Ledger.submit_balance_le {c : Crypto} {L : Ledger} {env : TransactionEnvelope} {e : List UInt8} {b : Int}
    (hsrc : env.tx.sourceAccount ≠ e) (hops : ∀ op ∈ env.tx.operations, op.sourceAccount.getD env.tx.sourceAccount ≠ e)
    (hL : L.Solvent) (he : ∃ ee, L.accounts e = some ee ∧ b ≤ ee.balance) :
    ∃ ee, (L.submit c env).2.accounts e = some ee ∧ b ≤ ee.balance :=
  (@Ledger.submit_invariant (fun L => L.Solvent ∧ ∃ ee, L.accounts e = some ee ∧ b ≤ ee.balance) c L env
    ⟨Ledger.consumeSequence_solvent hL _, by simpa only [Ledger.consumeSequence_accounts_of_ne (Ne.symm hsrc)] using he⟩
    (fun op hop _ _ ⟨hs, hb⟩ h => ⟨Ledger.applyOperation_solvent hs h, Ledger.applyOperation_balance_le (hops op hop) hs hb h⟩)
    ⟨hL, he⟩).2

/-! ## `AUTH_IMMUTABLE` -/

/-- Account `e` is there with `AUTH_IMMUTABLE` set. -/
def Ledger.Immutable (L : Ledger) (e : List UInt8) : Prop :=
  (L.accounts e).any (·.authImmutable) = true

theorem Ledger.Immutable.isSome {L : Ledger} {e : List UInt8} (h : L.Immutable e) : (L.accounts e).isSome := by
  unfold Ledger.Immutable at h
  cases hx : L.accounts e <;> simp_all

theorem Ledger.consumeSequence_immutable {L : Ledger} {e : List UInt8} (hL : L.Immutable e)
    (tx : XdrTransaction) : (L.consumeSequence tx).Immutable e := by
  unfold Ledger.Immutable Ledger.consumeSequence at *
  split
  · rename_i y hy
    by_cases h : e = tx.sourceAccount
    · subst h; simpa [hy] using hL
    · simpa [h] using hL
  · exact hL

/-- **Step lemma.** No operation merges an account with `AUTH_IMMUTABLE` set, or clears the
flag. -/
theorem Ledger.applyOperation_immutable {L L' : Ledger} {txSource e : List UInt8} {op : XdrOperation}
    (hL : L.Immutable e) (h : L.applyOperation txSource op = .ok L') : L'.Immutable e := by
  unfold Ledger.Immutable at *
  obtain ⟨ea, hea, ⟨d, b, -, hd, -, -, rfl⟩ | ⟨o, e', -, ho, rfl⟩ | ⟨d, de, -, -, hd, hm, rfl⟩⟩ :=
    Ledger.applyOperation_eq_ok h
  · have hde : e ≠ d := by rintro rfl; simp [hd] at hL
    by_cases hea' : e = op.sourceAccount.getD txSource
    · subst hea'; simpa [hde, hea] using hL
    · simpa [hde, hea'] using hL
  · by_cases hea' : e = op.sourceAccount.getD txSource
    · subst hea'; simpa [hea, (AccountEntry.setOptions_balance ho).2] using hL
    · simpa [hea'] using hL
  · have hea' : e ≠ op.sourceAccount.getD txSource := by
      rintro rfl; simp [hea] at hL; simp [AccountEntry.Mergeable, hL] at hm
    by_cases hde : e = d
    · subst hde; simpa [hea', hd] using hL
    · simpa [hde, hea'] using hL

/-- **`AUTH_IMMUTABLE` is for good.** Whatever is submitted, an account with the flag set is
not merged, and keeps the flag. -/
theorem Ledger.submit_immutable {c : Crypto} {L : Ledger} {e : List UInt8} (env : TransactionEnvelope)
    (hL : L.Immutable e) : (L.submit c env).2.Immutable e :=
  Ledger.submit_invariant (Ledger.consumeSequence_immutable hL _)
    (fun _ _ _ _ h h' => Ledger.applyOperation_immutable h h') hL

/-! ## Horizon -/

section Horizon

variable (sk : StrKey)

/-- How horizon lists an account's signers: the master key, then the others. -/
def AccountEntry.horizonSigners (a : List UInt8) (e : AccountEntry) : List HorizonSigner :=
  (e.allSigners a).map fun s => ⟨s.weight, s.key.address sk, keyTypeNames s.key.version⟩

/-- Horizon's record of account `a`. -/
def AccountEntry.toHorizon (a : List UInt8) (e : AccountEntry) : HorizonAccount where
  accountID := sk.encode .accountID a
  sequence := e.seqNum
  balances := [⟨amountString e.balance, "native"⟩]
  thresholds := ⟨e.lowThreshold, e.medThreshold, e.highThreshold⟩
  signers := e.horizonSigners sk a

/-- Horizon's answer for an account that does not exist. -/
def resourceMissing : HorizonError :=
  .problem "Resource Missing" "The resource at the url requested was not found." none []

/-- Horizon's account endpoint on the ledger. -/
def Ledger.accountDetail (L : Ledger) (address : String) : Except HorizonError HorizonAccount :=
  match sk.decode .accountID address with
  | .error e => .error (.problem "Bad Request" e none [])
  | .ok a =>
    match L.accounts a with
    | some e => .ok (e.toHorizon sk a)
    | none => .error resourceMissing

/-- Horizon's history endpoints (effects, operations, transactions), which this model of the
ledger does not derive. -/
structure History where
  effects : Ledger → String → Nat → Except HorizonError (List EffectRecord)
  operationDetail : Ledger → String → Except HorizonError OperationRecord
  transactionDetail : Ledger → String → Except HorizonError TransactionRecord

/-- A history with no records. -/
def History.empty : History :=
  ⟨fun _ _ _ => .ok [], fun _ _ => .error resourceMissing, fun _ _ => .error resourceMissing⟩

/-- The client the ledger backs, with `history` for the history endpoints. Submission
answers with the transaction's hash, or with horizon's problem. -/
def Ledger.client (c : Crypto) (history : History) : ClientInterface Ledger where
  accountDetail L address := L.accountDetail sk address
  effects := history.effects
  operationDetail := history.operationDetail
  transactionDetail := history.transactionDetail
  submitTransactionXDR L env :=
    match L.submit c env with
    | (.ok (), L') => (.ok ⟨hexString (c.transactionHash env.tx L.networkPassphrase)⟩, L')
    | (.error e, L') =>
      (.error (.problem "Transaction Failed" "The transaction failed when submitted to the stellar network."
        (some e.resultCodes) []), L')

@[simp] theorem Ledger.accountDetail_encode {L : Ledger} {a : List UInt8} {e : AccountEntry}
    (h : L.accounts a = some e) :
    L.accountDetail sk (sk.encode .accountID a) = .ok (e.toHorizon sk a) := by
  simp [Ledger.accountDetail, h]

@[simp] theorem AccountEntry.getNativeBalance_toHorizon (a : List UInt8) (e : AccountEntry) :
    (e.toHorizon sk a).getNativeBalance = .ok (amountString e.balance) := rfl

@[simp] theorem AccountEntry.toHorizon_thresholds (a : List UInt8) (e : AccountEntry) :
    (e.toHorizon sk a).thresholds = ⟨e.lowThreshold, e.medThreshold, e.highThreshold⟩ := rfl

@[simp] theorem AccountEntry.toHorizon_signers (a : List UInt8) (e : AccountEntry) :
    (e.toHorizon sk a).signers = e.horizonSigners sk a := rfl

/-- With the master key disabled, horizon's signers of non-zero weight are the other
signers of non-zero weight. -/
theorem AccountEntry.horizonSigners_filter {a : List UInt8} {e : AccountEntry}
    (h : e.masterWeight = 0) :
    (e.horizonSigners sk a).filter (·.weight ≠ 0) =
      (e.signers.filter (·.weight ≠ 0)).map fun s => ⟨s.weight, s.key.address sk, keyTypeNames s.key.version⟩ := by
  simp [AccountEntry.horizonSigners, AccountEntry.allSigners, h, List.filter_map, Function.comp_def,
    Int.ofNat_eq_zero]

theorem getAccount_ledger {c : Crypto} {hist : History} {L : Ledger} {a : List UInt8} {e : AccountEntry}
    (h : L.accounts a = some e) :
    Stellar.getAccount (Ledger.client sk c hist) (sk.encode .accountID a) L = .ok (e.toHorizon sk a) L := by
  simp [Stellar.getAccount, Ledger.client, h]

theorem getAccount_ledger_of_none {c : Crypto} {hist : History} {L : Ledger} {a : List UInt8}
    (h : L.accounts a = none) :
    Stellar.getAccount (Ledger.client sk c hist) (sk.encode .accountID a) L =
      .error (.error resourceMissing.message) L := by
  simp [Stellar.getAccount, Ledger.client, Ledger.accountDetail, h]

theorem submitTransaction_ledger {c : Crypto} {hist : History} {L L' : Ledger} {env : TransactionEnvelope}
    (h : L.submit c env = (.ok (), L')) :
    Stellar.submitTransaction (Ledger.client sk c hist) env L =
      .ok ⟨hexString (c.transactionHash env.tx L.networkPassphrase)⟩ L' := by
  simp [Stellar.submitTransaction, Ledger.client, h]

theorem submitTransaction_ledger_error {c : Crypto} {hist : History} {L L' : Ledger} {env : TransactionEnvelope}
    {err : TxError} (h : L.submit c env = (.error err, L')) :
    ∃ f, Stellar.submitTransaction (Ledger.client sk c hist) env L = .error f L' :=
  ⟨_, by simp [Stellar.submitTransaction, Ledger.client, h]; rfl⟩

/-- Horizon's account record shows neither the flags nor the sub-entries. -/
theorem Ledger.accountDetail_set_flags {L : Ledger} {a : List UInt8} {e : AccountEntry}
    (he : L.accounts a = some e) (imm : Bool) (n : Nat) (address : String) :
    (L.set a (some { e with authImmutable := imm, subEntries := n })).accountDetail sk address =
      L.accountDetail sk address := by
  unfold Ledger.accountDetail
  split
  · rfl
  · rename_i b _
    by_cases hb : b = a
    · subst hb; simp only [Ledger.set_accounts_self, he]; rfl
    · simp only [Ledger.set_accounts_of_ne _ _ hb]

end Horizon

end StellarAtomicSwap
