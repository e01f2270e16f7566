/-
The holding account builder, `createAtomicSwapHoldingAccount`, and the functions it calls:
fund a fresh holding account from the funding account, build the refund transaction that
merges it back after the lock time, and hand the holding account to three signers (the
counterparty, the secret's hash and the refund transaction's hash) with its master key
disabled. `initiate` and `participate` run it with their lock times.

Each step submits through the client, so each is a computation in `EStateM Failure σ`. The
run lemmas below say what each step does on the ledger: `createHoldingAccount_run`,
`createRefundTransaction_run` and `setHoldingAccountSigningOptions_run`.
-/
import StellarAtomicSwap.Ledger

namespace StellarAtomicSwap

open Stellar

section Builder

variable {σ : Type} (sk : StrKey) (c : Crypto) (targetNetwork : String) (client : ClientInterface σ)

/-- `createRefundTransaction`: the merge of the holding account into the refund account, not
valid before `locktime`. The holding account's sequence number is incremented here and once
more by `Build`, so the refund transaction takes the second sequence number after the one
the account is fetched at; either increment fails past the largest `int64`. -/
def createRefundTransaction (holdingAccountAddress refundAccountAdress : String) (locktime : Int) :
    EStateM Failure σ Transaction := do
  let holdingAccount ← getAccount client holdingAccountAddress
  let holdingAccount ← liftExcept (holdingAccount.toAccount.incrementSequenceNumber.mapError .error)
  let refundTransaction : Transaction :=
    { timebounds := newTimebounds locktime 0
      operations := [.accountMerge refundAccountAdress (some holdingAccount.accountID)]
      network := targetNetwork
      sourceAccount := holdingAccount }
  liftExcept ((refundTransaction.build sk).mapError fun e =>
    .error ("Failed to build the refund transaction: " ++ e))

/-- `createHoldingAccountTransaction`: the funding account creates the holding account with
`xlmAmount`. It never fails. -/
def createHoldingAccountTransaction (holdingAccountAddress xlmAmount : String)
    (fundingAccount : HorizonAccount) (network : String) : Transaction where
  sourceAccount := fundingAccount.toAccount
  operations := [.createAccount holdingAccountAddress xlmAmount (some fundingAccount.accountID)]
  network := network
  timebounds := newInfiniteTimeout

/-- `createHoldingAccount`. The error of `createHoldingAccountTransaction` is never set. -/
def createHoldingAccount (holdingAccountAddress xlmAmount : String) (fundingKeyPair : KeyPairFull)
    (network : String) : EStateM Failure σ Unit := do
  let fundingAccount ← (getAccount client (fundingKeyPair.address sk c)).adaptExcept
    (Failure.wrap "Failed to get the funding account:")
  let createAccountTransaction :=
    createHoldingAccountTransaction holdingAccountAddress xlmAmount fundingAccount network
  let txe ← liftExcept ((createAccountTransaction.buildSignEncode c sk fundingKeyPair).mapError
    fun e => .error ("Failed to sign the holding account transaction: " ++ e))
  let _ ← (submitTransaction client txe).adaptExcept
    (Failure.wrap "Failed to publish the holding account creation transaction : ")

/-- `createHoldingAccountSigningTransaction`: the counterparty and the secret's hash as signers
of weight 1, the refund transaction's hash as a signer of weight 2, then the master key to
weight 0 and every threshold to 2. Its errors are those of `strkey.Encode`, which fails on no
version byte the tool uses. -/
def createHoldingAccountSigningTransaction (holdingAccount : HorizonAccount)
    (counterPartyAddress : String) (secretHash refundTxHash : List UInt8) (network : String) :
    Transaction :=
  let source := some holdingAccount.accountID
  let depositorSigningOperation : SetOptions :=
    { signer := some ⟨counterPartyAddress, 1⟩, sourceAccount := source }
  let secretHashAddress := createHashxAddress sk secretHash
  let secretSigningOperation : SetOptions :=
    { signer := some ⟨secretHashAddress, 1⟩, sourceAccount := source }
  let refundTxHashAdddress := createHashTxAddress sk refundTxHash
  let refundSigningOperation : SetOptions :=
    { signer := some ⟨refundTxHashAdddress, 2⟩, sourceAccount := source }
  let setSigingWeightsOperation : SetOptions :=
    { masterWeight := some 0, lowThreshold := some 2, mediumThreshold := some 2,
      highThreshold := some 2, sourceAccount := source }
  { sourceAccount := holdingAccount.toAccount
    operations := [.setOptions depositorSigningOperation, .setOptions secretSigningOperation,
      .setOptions refundSigningOperation, .setOptions setSigingWeightsOperation]
    network := network
    timebounds := newInfiniteTimeout }

/-- `setHoldingAccountSigningOptions`. Its `network` argument is not used: the transaction is
built for `targetNetwork`. -/
def setHoldingAccountSigningOptions (holdingAccountKeyPair : KeyPairFull)
    (counterPartyAddress : String) (secretHash refundTxHash : List UInt8) (network : String) :
    EStateM Failure σ Unit := do
  let holdingAccountAddress := holdingAccountKeyPair.address sk c
  let holdingAccount ← (getAccount client holdingAccountAddress).adaptExcept
    (Failure.wrap "Failed to get the holding account: ")
  let setSigningOptionsTransaction := createHoldingAccountSigningTransaction sk holdingAccount
    counterPartyAddress secretHash refundTxHash targetNetwork
  let txe ← liftExcept ((setSigningOptionsTransaction.buildSignEncode c sk holdingAccountKeyPair).mapError
    fun e => .error ("Failed to sign the signing options transaction: " ++ e))
  let _ ← (submitTransaction client txe).adaptExcept
    (Failure.wrap "Failed to publish the signing options transaction : ")

/-- `createAtomicSwapHoldingAccount`: create and fund the holding account, build the refund
transaction, and configure the holding account's signers with the refund transaction's hash. -/
def createAtomicSwapHoldingAccount (fundingKeyPair holdingAccountKeyPair : KeyPairFull)
    (counterPartyAddress xlmAmount : String) (secretHash : List UInt8) (locktime : Int) :
    EStateM Failure σ Transaction := do
  let holdingAccountAddress := holdingAccountKeyPair.address sk c
  createHoldingAccount sk c client holdingAccountAddress xlmAmount fundingKeyPair targetNetwork
  let refundTransaction ← createRefundTransaction sk targetNetwork client holdingAccountAddress
    (fundingKeyPair.address sk c) locktime
  let refundTransactionHash ← liftExcept ((refundTransaction.hash c).mapError fun e =>
    .error ("Failed to Hash the refund transaction: " ++ e))
  setHoldingAccountSigningOptions sk c targetNetwork client holdingAccountKeyPair counterPartyAddress
    secretHash refundTransactionHash targetNetwork
  return refundTransaction

/-- Modelled from the spec: `timings.LockTime`, the initiator's lock time of 48 hours, in
seconds. -/
def lockTime : Int := 48 * 60 * 60

/-- `initiateCmd`. -/
structure InitiateCmd where
  initiatorKeyPair : KeyPairFull
  cp2Addr : String
  amount : String

/-- What `initiate` prints, as text or as JSON. -/
structure InitiateOutput where
  secret : List UInt8
  secretHash : List UInt8
  initiatorAddress : String
  holdingAccountAddress : String
  refundTransaction : TransactionEnvelope

/-- `initiateCmd.runCommand`, with the random secret, the random holding account key pair and
the current time (in Unix seconds) as arguments. -/
def InitiateCmd.runCommand (cmd : InitiateCmd) (secret : List UInt8) (holdingAccountKeyPair : KeyPairFull)
    (now : Int) : EStateM Failure σ InitiateOutput := do
  let secretHash := c.sha256 secret
  let fundingAccountAddress := cmd.initiatorKeyPair.address sk c
  let holdingAccountAddress := holdingAccountKeyPair.address sk c
  let locktime := now + lockTime
  let refundTransaction ← createAtomicSwapHoldingAccount sk c targetNetwork client
    cmd.initiatorKeyPair holdingAccountKeyPair cmd.cp2Addr cmd.amount secretHash locktime
  let serializedRefundTx ← liftExcept (refundTransaction.base64.mapError .error)
  return ⟨secret, secretHash, fundingAccountAddress, holdingAccountAddress, serializedRefundTx⟩

/-- `participateCmd`. -/
structure ParticipateCmd where
  cp1Addr : String
  participatorKeyPair : KeyPairFull
  amount : String
  secretHash : List UInt8

/-- What `participate` prints, as text or as JSON. -/
structure ParticipateOutput where
  participantAddress : String
  holdingAccountAddress : String
  refundTransaction : TransactionEnvelope

/-- `participateCmd.runCommand`, with the random holding account key pair and the current time
as arguments: half the initiator's lock time. -/
def ParticipateCmd.runCommand (cmd : ParticipateCmd) (holdingAccountKeyPair : KeyPairFull)
    (now : Int) : EStateM Failure σ ParticipateOutput := do
  let fundingAccountAddress := cmd.participatorKeyPair.address sk c
  let holdingAccountAddress := holdingAccountKeyPair.address sk c
  let locktime := now + lockTime / 2
  let refundTransaction ← createAtomicSwapHoldingAccount sk c targetNetwork client
    cmd.participatorKeyPair holdingAccountKeyPair cmd.cp1Addr cmd.amount cmd.secretHash locktime
  let serializedRefundTx ← liftExcept (refundTransaction.base64.mapError .error)
  return ⟨fundingAccountAddress, holdingAccountAddress, serializedRefundTx⟩

end Builder

/-! ## What each step does on the ledger -/

section Run

variable {sk : StrKey} {c : Crypto} {hist : History} {net : String}

theorem createHoldingAccount_run {L : Ledger} {kp : KeyPairFull} {fe : AccountEntry}
    {e : List UInt8} {xlmAmount : String} {b : Int}
    (hf : L.accounts (c.publicKey kp.seed) = some fe) (he : L.accounts e = none)
    (he32 : e.length = 32) (hnet : L.networkPassphrase = net) (hn : isBlank net = false)
    (hseq : 0 ≤ fe.seqNum ∧ fe.seqNum + 1 < 2 ^ 63) (hw : 0 < fe.masterWeight)
    (hlow : fe.lowThreshold ≤ fe.masterWeight) (hmed : fe.medThreshold ≤ fe.masterWeight)
    (hamt : amountParse xlmAmount = .ok b) (hb : 0 < b) (hbal : b ≤ fe.balance) :
    createHoldingAccount sk c (Ledger.client sk c hist) (sk.encode .accountID e) xlmAmount kp net L =
      .ok () ((L.set (c.publicKey kp.seed)
        (some { fe with seqNum := fe.seqNum + 1, balance := fe.balance - b })).set e
          (some ⟨b, startingSequenceNumber L.ledgerSeq, 1, 0, 0, 0, [], false, 0⟩)) := by
  have hf32 : (c.publicKey kp.seed).length = 32 := c.publicKey_length _
  have hne : e ≠ c.publicKey kp.seed := by rintro rfl; simp [hf] at he
  let xtx : XdrTransaction := ⟨c.publicKey kp.seed, minBaseFee * 1, fe.seqNum + 1, some ⟨0, 0⟩,
    [⟨some (c.publicKey kp.seed), .createAccount e b⟩]⟩
  have hbuild : (createHoldingAccountTransaction (sk.encode .accountID e) xlmAmount
      (fe.toHorizon sk (c.publicKey kp.seed)) net).buildSignEncode c sk kp =
      .ok ⟨xtx, [kp.signDecorated c (c.transactionHash xtx net)]⟩ := by
    have := @Transaction.buildSignEncode_eq_ok sk c
      (createHoldingAccountTransaction (sk.encode .accountID e) xlmAmount
        (fe.toHorizon sk (c.publicKey kp.seed)) net) (c.publicKey kp.seed) _
      [⟨some (c.publicKey kp.seed), .createAccount e b⟩] kp rfl
      (by simp [createHoldingAccountTransaction, HorizonAccount.toAccount, AccountEntry.toHorizon, hf32])
      (Account.incrementSequenceNumber_eq_ok hseq.1 hseq.2)
      (by simp only [createHoldingAccountTransaction, List.mapM_cons, List.mapM_nil]
          simp [Operation.buildXDR, AccountEntry.toHorizon, hf32, he32, hamt])
      rfl hn
    simpa [createHoldingAccountTransaction, HorizonAccount.toAccount, AccountEntry.toHorizon,
      newInfiniteTimeout, newTimebounds] using this
  have hsub : L.submit c ⟨xtx, [kp.signDecorated c (c.transactionHash xtx net)]⟩ =
      (.ok (), (L.set (c.publicKey kp.seed)
        (some { fe with seqNum := fe.seqNum + 1, balance := fe.balance - b })).set e
          (some ⟨b, startingSequenceNumber L.ledgerSeq, 1, 0, 0, 0, [], false, 0⟩)) := by
    apply Ledger.submit_eq_ok
    · rw [Ledger.checkValid_eq_ok]
      refine ⟨by simp [xtx], by simp [xtx], fe, hf, rfl, hnet ▸ meetsThreshold_of_master hw hlow, ?_⟩
      simp [xtx, Ledger.operationAuthorized, hf, hnet, OperationBody.threshold]
      exact meetsThreshold_of_master hw hmed
    · simp [xtx, Ledger.consumeSequence, hf, Ledger.applyOperation_createAccount, hne, he, hb, hbal]
  simp only [createHoldingAccount, KeyPairFull.address]
  rw [EStateM.bind_of_ok (EStateM.adaptExcept_of_ok (getAccount_ledger sk hf))]
  simp only [hbuild, mapError_ok]
  rw [EStateM.bind_of_ok (liftExcept_ok _ _),
    EStateM.bind_of_ok (EStateM.adaptExcept_of_ok (submitTransaction_ledger sk hsub))]
  rfl

/-- The refund transaction's XDR: the merge of holding account `e` into `f`, at sequence
number `seqNum`, not before `locktime`. -/
def refundTransactionXdr (e f : List UInt8) (seqNum locktime : Int) : XdrTransaction :=
  ⟨e, minBaseFee * 1, seqNum, some ⟨locktime.toNat, 0⟩, [⟨some e, .accountMerge f⟩]⟩

theorem createRefundTransaction_run {L : Ledger} {e f : List UInt8} {ee : AccountEntry}
    {locktime : Int} (he : L.accounts e = some ee) (he32 : e.length = 32) (hf32 : f.length = 32)
    (hseq : 0 ≤ ee.seqNum ∧ ee.seqNum + 2 < 2 ^ 63) (hT : 0 ≤ locktime) :
    createRefundTransaction sk net (Ledger.client sk c hist) (sk.encode .accountID e)
      (sk.encode .accountID f) locktime L =
      .ok { sourceAccount := ⟨sk.encode .accountID e, ee.seqNum + 2⟩
            operations := [.accountMerge (sk.encode .accountID f) (some (sk.encode .accountID e))]
            timebounds := newTimebounds locktime 0
            network := net
            xdrEnvelope := some ⟨refundTransactionXdr e f (ee.seqNum + 2) locktime, []⟩ } L := by
  simp only [createRefundTransaction]
  rw [EStateM.bind_of_ok (getAccount_ledger sk he)]
  simp only [HorizonAccount.toAccount, AccountEntry.toHorizon,
    @Account.incrementSequenceNumber_eq_ok ⟨_, ee.seqNum⟩ hseq.1 (by dsimp only; omega), mapError_ok]
  rw [EStateM.bind_of_ok (liftExcept_ok _ _),
    @Transaction.build_eq_ok sk _ e _ [⟨some e, .accountMerge f⟩] rfl (by simp [he32])
    (@Account.incrementSequenceNumber_eq_ok ⟨_, ee.seqNum + 1⟩ (by dsimp only; omega) (by dsimp only; omega))
    (by simp only [List.mapM_cons, List.mapM_nil]; simp [Operation.buildXDR, he32, hf32])
    (by simp [Timebounds.validate, newTimebounds, hT])]
  simp [refundTransactionXdr, newTimebounds, add_assoc]

/-- The holding account's entry once configured for recipient `r`, secret hash `H` and refund
transaction hash `h`. -/
def AccountEntry.configured (ee : AccountEntry) (r H h : List UInt8) : AccountEntry :=
  { ee with
    masterWeight := 0
    lowThreshold := 2
    medThreshold := 2
    highThreshold := 2
    signers := [⟨.ed25519 r, 1⟩, ⟨.hashX H, 1⟩, ⟨.preAuthTx h, 2⟩] }

theorem setHoldingAccountSigningOptions_run {L : Ledger} {kp : KeyPairFull} {ee : AccountEntry}
    {r H h : List UInt8} {network : String} (he : L.accounts (c.publicKey kp.seed) = some ee)
    (hw : 0 < ee.masterWeight) (hlow : ee.lowThreshold ≤ ee.masterWeight)
    (hhigh : ee.highThreshold ≤ ee.masterWeight) (hsig : ee.signers = [])
    (hr32 : r.length = 32) (hH32 : H.length = 32) (hh32 : h.length = 32)
    (hre : r ≠ c.publicKey kp.seed) (hnet : L.networkPassphrase = net) (hn : isBlank net = false)
    (hseq : 0 ≤ ee.seqNum ∧ ee.seqNum + 1 < 2 ^ 63) :
    setHoldingAccountSigningOptions sk c net (Ledger.client sk c hist) kp (sk.encode .accountID r) H h
      network L =
      .ok () (L.set (c.publicKey kp.seed)
        (some (AccountEntry.configured { ee with seqNum := ee.seqNum + 1 } r H h))) := by
  have he32 : (c.publicKey kp.seed).length = 32 := c.publicKey_length _
  let src := some (c.publicKey kp.seed)
  let xtx : XdrTransaction := ⟨c.publicKey kp.seed, minBaseFee * 4, ee.seqNum + 1, some ⟨0, 0⟩,
    [⟨src, .setOptions ⟨none, none, none, none, some ⟨.ed25519 r, 1⟩⟩⟩,
     ⟨src, .setOptions ⟨none, none, none, none, some ⟨.hashX H, 1⟩⟩⟩,
     ⟨src, .setOptions ⟨none, none, none, none, some ⟨.preAuthTx h, 2⟩⟩⟩,
     ⟨src, .setOptions ⟨some 0, some 2, some 2, some 2, none⟩⟩]⟩
  have hbuild : (createHoldingAccountSigningTransaction sk (ee.toHorizon sk (c.publicKey kp.seed))
      (sk.encode .accountID r) H h net).buildSignEncode c sk kp =
      .ok ⟨xtx, [kp.signDecorated c (c.transactionHash xtx net)]⟩ := by
    have := @Transaction.buildSignEncode_eq_ok sk c
      (createHoldingAccountSigningTransaction sk (ee.toHorizon sk (c.publicKey kp.seed))
        (sk.encode .accountID r) H h net) (c.publicKey kp.seed) _ xtx.operations kp rfl
      (by simp [createHoldingAccountSigningTransaction, HorizonAccount.toAccount, AccountEntry.toHorizon, he32])
      (Account.incrementSequenceNumber_eq_ok hseq.1 hseq.2)
      (by simp only [createHoldingAccountSigningTransaction, List.mapM_cons, List.mapM_nil]
          simp [Operation.buildXDR, AccountEntry.toHorizon, he32, createHashxAddress,
            createHashTxAddress, signerKeyFromAddress_accountID hr32, signerKeyFromAddress_hashX hH32,
            signerKeyFromAddress_hashTx hh32, xtx, src])
      rfl hn
    simpa [createHoldingAccountSigningTransaction, HorizonAccount.toAccount, AccountEntry.toHorizon,
      newInfiniteTimeout, newTimebounds, xtx] using this
  have hsub : L.submit c ⟨xtx, [kp.signDecorated c (c.transactionHash xtx net)]⟩ =
      (.ok (), L.set (c.publicKey kp.seed)
        (some (AccountEntry.configured { ee with seqNum := ee.seqNum + 1 } r H h))) := by
    apply Ledger.submit_eq_ok
    · rw [Ledger.checkValid_eq_ok]
      refine ⟨by simp [xtx], by simp [xtx], ee, he, rfl, hnet ▸ meetsThreshold_of_master hw hlow, ?_⟩
      simp [xtx, src, Ledger.operationAuthorized, he, hnet, OperationBody.threshold,
        meetsThreshold_of_master hw hhigh]
    · simp [xtx, src, Ledger.consumeSequence, he, Ledger.applyOperation_setOptions, AccountEntry.setOptions,
        hsig, hre, AccountEntry.configured, Except.map]
  simp only [setHoldingAccountSigningOptions, KeyPairFull.address]
  rw [EStateM.bind_of_ok (EStateM.adaptExcept_of_ok (getAccount_ledger sk he))]
  simp only [hbuild, mapError_ok]
  rw [EStateM.bind_of_ok (liftExcept_ok _ _),
    EStateM.bind_of_ok (EStateM.adaptExcept_of_ok (submitTransaction_ledger sk hsub))]
  rfl

/-- The whole builder on the ledger: the funding account creates the holding account, which
is then configured for the counterparty, the secret's hash and the hash of the refund
transaction returned. -/
theorem createAtomicSwapHoldingAccount_run {L : Ledger} {fkp hkp : KeyPairFull} {fe : AccountEntry}
    {xlmAmount : String} {b locktime : Int} {r H : List UInt8}
    (hf : L.accounts (c.publicKey fkp.seed) = some fe) (he : L.accounts (c.publicKey hkp.seed) = none)
    (hnet : L.networkPassphrase = net) (hn : isBlank net = false)
    (hseq : 0 ≤ fe.seqNum ∧ fe.seqNum + 1 < 2 ^ 63) (hw : 0 < fe.masterWeight)
    (hlow : fe.lowThreshold ≤ fe.masterWeight) (hmed : fe.medThreshold ≤ fe.masterWeight)
    (hamt : amountParse xlmAmount = .ok b) (hb : 0 < b) (hbal : b ≤ fe.balance)
    (hledger : startingSequenceNumber L.ledgerSeq + 2 < 2 ^ 63)
    (hr32 : r.length = 32) (hH32 : H.length = 32) (hre : r ≠ c.publicKey hkp.seed) (hT : 0 ≤ locktime) :
    let e := c.publicKey hkp.seed
    let f := c.publicKey fkp.seed
    let s := startingSequenceNumber L.ledgerSeq
    let refund := refundTransactionXdr e f (s + 2) locktime
    createAtomicSwapHoldingAccount sk c net (Ledger.client sk c hist) fkp hkp (sk.encode .accountID r)
      xlmAmount H locktime L =
      .ok { sourceAccount := ⟨sk.encode .accountID e, s + 2⟩
            operations := [.accountMerge (sk.encode .accountID f) (some (sk.encode .accountID e))]
            timebounds := newTimebounds locktime 0
            network := net
            xdrEnvelope := some ⟨refund, []⟩ }
        ((L.set f (some { fe with seqNum := fe.seqNum + 1, balance := fe.balance - b })).set e
          (some (AccountEntry.configured ⟨b, s + 1, 1, 0, 0, 0, [], false, 0⟩ r H (c.transactionHash refund net)))) := by
  dsimp only
  have hs0 := startingSequenceNumber_nonneg L.ledgerSeq
  simp only [createAtomicSwapHoldingAccount, KeyPairFull.address]
  rw [EStateM.bind_of_ok (createHoldingAccount_run hf he (c.publicKey_length _) hnet hn hseq hw hlow hmed
    hamt hb hbal)]
  have hacc : ((L.set (c.publicKey fkp.seed)
      (some { fe with seqNum := fe.seqNum + 1, balance := fe.balance - b })).set (c.publicKey hkp.seed)
        (some ⟨b, startingSequenceNumber L.ledgerSeq, 1, 0, 0, 0, [], false, 0⟩)).accounts (c.publicKey hkp.seed) =
      some ⟨b, startingSequenceNumber L.ledgerSeq, 1, 0, 0, 0, [], false, 0⟩ := Ledger.set_accounts_self _ _ _
  have hseq' : (0 : Int) ≤ startingSequenceNumber L.ledgerSeq ∧ startingSequenceNumber L.ledgerSeq + 2 < 2 ^ 63 :=
    ⟨hs0, hledger⟩
  rw [EStateM.bind_of_ok (createRefundTransaction_run hacc (c.publicKey_length _) (c.publicKey_length _)
    hseq' hT)]
  rw [Transaction.hash_of_envelope rfl hn, mapError_ok, EStateM.bind_of_ok (liftExcept_ok _ _)]
  have hseq1 : (0 : Int) ≤ startingSequenceNumber L.ledgerSeq ∧
      startingSequenceNumber L.ledgerSeq + 1 < 2 ^ 63 := ⟨hs0, by omega⟩
  rw [EStateM.bind_of_ok (setHoldingAccountSigningOptions_run hacc Nat.one_pos (Nat.zero_le _)
    (Nat.zero_le _) rfl hr32 hH32 (c.transactionHash_length _ _) hre (by simpa using hnet) hn hseq1)]
  simp only [Ledger.set_set]
  rfl

end Run

end StellarAtomicSwap
