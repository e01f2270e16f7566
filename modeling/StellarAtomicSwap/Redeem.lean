/-
The two ways the holding account ends: `refund`, which submits the refund transaction the
builder returned, and `redeem`, which merges the holding account into the receiver's account,
signed with the secret (a hash-x signature) and the receiver's key.

`RedeemCmd.runCommand_ledger` says what `redeem` submits on the ledger: a merge at the
sequence number after the holding account's, which `Build` refuses to compute past the largest
`int64` (`RedeemCmd.runCommand_of_increment_error`).
-/
import StellarAtomicSwap.Builder

namespace StellarAtomicSwap

open Stellar

section Commands

variable {σ : Type} (sk : StrKey) (c : Crypto) (targetNetwork : String) (client : ClientInterface σ)

/-- `refundCmd`: the refund transaction, as `TransactionFromXDR` reads it. -/
structure RefundCmd where
  refundTx : Transaction

/-- `refundCmd.runCommand`: the refund transaction is submitted as it is. -/
def RefundCmd.runCommand (cmd : RefundCmd) : EStateM Failure σ TransactionSuccess := do
  let txe ← liftExcept (cmd.refundTx.base64.mapError .error)
  submitTransaction client txe

/-- `redeemCmd`. -/
structure RedeemCmd where
  receiverKeyPair : KeyPairFull
  holdingAccountAddress : String
  secret : List UInt8

/-- `redeemCmd.runCommand`: merge the holding account into the receiver's account, at the
holding account's next sequence number, signed with the secret and the receiver's key. -/
def RedeemCmd.runCommand (cmd : RedeemCmd) : EStateM Failure σ TransactionSuccess := do
  let holdingAccount ← getAccount client cmd.holdingAccountAddress
  let receiverAddress := cmd.receiverKeyPair.address sk c
  let redeemTransaction : Transaction :=
    { timebounds := newTimebounds 0 0
      operations := [.accountMerge receiverAddress (some holdingAccount.accountID)]
      network := targetNetwork
      sourceAccount := holdingAccount.toAccount }
  let redeemTransaction ← liftExcept ((redeemTransaction.build sk).mapError fun e =>
    .error ("Unable to build the transaction: " ++ e))
  let redeemTransaction ← liftExcept ((redeemTransaction.signHashX c cmd.secret).mapError fun e =>
    .error ("Unable to sign with the secret:" ++ e))
  let redeemTransaction ← liftExcept ((redeemTransaction.sign c cmd.receiverKeyPair).mapError fun e =>
    .error ("Unable to sign with the receiver keypair:" ++ e))
  let txe ← liftExcept (redeemTransaction.base64.mapError fun e =>
    .error ("Unable to uncode the transaction: " ++ e))
  submitTransaction client txe

end Commands

/-! ## What the commands submit on the ledger -/

section Run

variable {sk : StrKey} {c : Crypto} {hist : History} {net : String}

/-- The redeem transaction's XDR: the merge of holding account `e` into `d`, at sequence number
`seqNum`, with no time bounds. -/
def redeemTransactionXdr (e d : List UInt8) (seqNum : Int) : XdrTransaction :=
  ⟨e, minBaseFee * 1, seqNum, some ⟨0, 0⟩, [⟨some e, .accountMerge d⟩]⟩

theorem RefundCmd.runCommand_of_envelope {σ : Type} {client : ClientInterface σ} {tx : Transaction}
    {env : TransactionEnvelope} (h : tx.xdrEnvelope = some env) :
    RefundCmd.runCommand client ⟨tx⟩ = submitTransaction client env := by
  funext s
  simp [RefundCmd.runCommand, Transaction.base64, h, EStateM.bind_of_ok (liftExcept_ok _ _)]

@[simp] theorem RefundCmd.runCommand_transactionFromXDR {σ : Type} {client : ClientInterface σ}
    (env : TransactionEnvelope) :
    RefundCmd.runCommand client ⟨transactionFromXDR sk env⟩ = submitTransaction client env :=
  RefundCmd.runCommand_of_envelope rfl

/-- On the ledger, `redeem` on a holding account that is there stops on a secret longer than a
signature or a blank network passphrase, and otherwise submits the merge of the holding
account at the sequence number `Build` increments the holding account's to, with the secret
as a hash-x signature and the receiver's signature. -/
theorem RedeemCmd.runCommand_ledger {L : Ledger} {e : List UInt8} {ee : AccountEntry}
    {kp : KeyPairFull} {secret : List UInt8} {account : Account} (he : L.accounts e = some ee)
    (he32 : e.length = 32)
    (hseq : (⟨sk.encode .accountID e, ee.seqNum⟩ : Account).incrementSequenceNumber = .ok account) :
    let xtx := redeemTransactionXdr e (c.publicKey kp.seed) account.sequence
    RedeemCmd.runCommand sk c net (Ledger.client sk c hist) ⟨kp, sk.encode .accountID e, secret⟩ L =
      if signatureMaxSize < secret.length then
        .error (.error ("Unable to sign with the secret:" ++ "preimage cannnot be more than 64 bytes")) L
      else if isBlank net then
        .error (.error ("Unable to sign with the receiver keypair:" ++ "empty network passphrase")) L
      else submitTransaction (Ledger.client sk c hist)
        ⟨xtx, [⟨(c.sha256 secret).drop 28, secret⟩, kp.signDecorated c (c.transactionHash xtx net)]⟩ L := by
  have hd32 : (c.publicKey kp.seed).length = 32 := c.publicKey_length _
  simp only [RedeemCmd.runCommand]
  rw [EStateM.bind_of_ok (getAccount_ledger sk he)]
  simp only [HorizonAccount.toAccount, AccountEntry.toHorizon, KeyPairFull.address]
  rw [@Transaction.build_eq_ok sk _ e _ [⟨some e, .accountMerge (c.publicKey kp.seed)⟩] rfl (by simp [he32])
    hseq (by simp only [List.mapM_cons, List.mapM_nil]; simp [Operation.buildXDR, he32, hd32])
    (by simp [Timebounds.validate, newTimebounds])]
  split_ifs with hs hn
  · simp [Transaction.signHashX, hs, bind, EStateM.bind, liftExcept]
  · simp [Transaction.signHashX, hs, Transaction.sign, Transaction.hash, hn, Crypto.hashTransaction, bind,
      EStateM.bind, liftExcept, Except.bind, Except.mapError]
  · simp [Transaction.signHashX, hs, Transaction.sign, Transaction.hash, hn, Transaction.base64,
      EStateM.bind_of_ok (liftExcept_ok _ _), redeemTransactionXdr, newTimebounds]

/-- A holding account whose sequence number has no successor cannot be redeemed: `Build`
stops, and nothing is submitted. -/
theorem RedeemCmd.runCommand_of_increment_error {L : Ledger} {e : List UInt8} {ee : AccountEntry}
    {kp : KeyPairFull} {secret : List UInt8} {msg : String} (he : L.accounts e = some ee)
    (he32 : e.length = 32)
    (hseq : (⟨sk.encode .accountID e, ee.seqNum⟩ : Account).incrementSequenceNumber = .error msg) :
    RedeemCmd.runCommand sk c net (Ledger.client sk c hist) ⟨kp, sk.encode .accountID e, secret⟩ L =
      .error (.error ("Unable to build the transaction: " ++ ("failed to parse sequence number: " ++ msg))) L := by
  simp only [RedeemCmd.runCommand]
  rw [EStateM.bind_of_ok (getAccount_ledger sk he)]
  simp only [HorizonAccount.toAccount, AccountEntry.toHorizon, KeyPairFull.address]
  rw [@Transaction.build_of_increment_error sk _ e _ rfl (by simp [he32]) hseq]
  rfl

/-- With a secret no longer than a signature, a network passphrase that is not blank and a
sequence number below the largest `int64`, `redeem` on the ledger submits the merge. -/
theorem RedeemCmd.runCommand_eq_submitTransaction {L : Ledger} {e : List UInt8} {ee : AccountEntry}
    {kp : KeyPairFull} {secret : List UInt8} (he : L.accounts e = some ee)
    (he32 : e.length = 32) (hseq : 0 ≤ ee.seqNum ∧ ee.seqNum + 1 < 2 ^ 63)
    (hs : secret.length ≤ signatureMaxSize) (hn : isBlank net = false) :
    let xtx := redeemTransactionXdr e (c.publicKey kp.seed) (ee.seqNum + 1)
    RedeemCmd.runCommand sk c net (Ledger.client sk c hist) ⟨kp, sk.encode .accountID e, secret⟩ L =
      submitTransaction (Ledger.client sk c hist)
        ⟨xtx, [⟨(c.sha256 secret).drop 28, secret⟩, kp.signDecorated c (c.transactionHash xtx net)]⟩ L := by
  rw [RedeemCmd.runCommand_ledger he he32 (Account.incrementSequenceNumber_eq_ok hseq.1 hseq.2),
    if_neg (not_lt.mpr hs), if_neg (by simp [hn])]

/-- On the ledger, `redeem` either stops before it submits anything, or submits the merge of
the holding account into the receiver's account. -/
theorem RedeemCmd.runCommand_ledger_cases {L : Ledger} {e : List UInt8} {kp : KeyPairFull}
    {secret : List UInt8} (he32 : e.length = 32) :
    (∃ err, RedeemCmd.runCommand sk c net (Ledger.client sk c hist) ⟨kp, sk.encode .accountID e, secret⟩ L =
      .error err L) ∨
    ∃ seqNum sigs,
      RedeemCmd.runCommand sk c net (Ledger.client sk c hist) ⟨kp, sk.encode .accountID e, secret⟩ L =
        submitTransaction (Ledger.client sk c hist)
          ⟨redeemTransactionXdr e (c.publicKey kp.seed) seqNum, sigs⟩ L := by
  cases he : L.accounts e with
  | none => exact .inl ⟨_, EStateM.bind_of_error (getAccount_ledger_of_none sk he)⟩
  | some ee =>
    cases hseq : (⟨sk.encode .accountID e, ee.seqNum⟩ : Account).incrementSequenceNumber with
    | error msg => exact .inl ⟨_, RedeemCmd.runCommand_of_increment_error he he32 hseq⟩
    | ok account =>
      rw [RedeemCmd.runCommand_ledger he he32 hseq]
      split_ifs
      · exact .inl ⟨_, rfl⟩
      · exact .inl ⟨_, rfl⟩
      · exact .inr ⟨_, _, rfl⟩

end Run

end StellarAtomicSwap
