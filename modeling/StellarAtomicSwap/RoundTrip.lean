/-
The builder and the auditor agree. The holding account that
`createAtomicSwapHoldingAccount` configures on the ledger passes `auditcontract` with the
refund transaction it returns, serialised as `initiate` and `participate` print it, and the
audit reports the counterparty, the secret hash, the funding account and the lock time the
builder was given (`createAtomicSwapHoldingAccount_audit`).
-/
import StellarAtomicSwap.Audit
import StellarAtomicSwap.Builder

namespace StellarAtomicSwap

section RoundTrip

variable {sk : StrKey} {c : Crypto} {hist : History} {net : String}

/-- The audit of a configured holding account with its refund transaction. -/
theorem audit_configured {L : Ledger} {e f r H : List UInt8} {ee : AccountEntry}
    {seqNum locktime : Int}
    (he : L.accounts e = some
      (ee.configured r H (c.transactionHash (refundTransactionXdr e f seqNum locktime) net)))
    (hn : isBlank net = false) (hT : 0 ≤ locktime ∧ locktime < 2 ^ 63) :
    AuditContractCmd.runCommand sk c net (Ledger.client sk c hist) L
      ⟨transactionFromXDR sk ⟨refundTransactionXdr e f seqNum locktime, []⟩, sk.encode .accountID e⟩ =
      .ok ⟨sk.encode .accountID e, amountString ee.balance, sk.encode .accountID r,
        sk.encode .accountID f, H, locktime⟩ := by
  have hT' : toInt64 locktime = locktime := toInt64_of_lt (by omega) hT.2
  set h := c.transactionHash (refundTransactionXdr e f seqNum locktime) net
  have hacc : (Ledger.client sk c hist).accountDetail L (sk.encode .accountID e) =
      .ok ((ee.configured r H h).toHorizon sk e) := Ledger.accountDetail_encode sk he
  have hb : ((ee.configured r H h).toHorizon sk e).getNativeBalance = .ok (amountString ee.balance) :=
    rfl
  have hthr : ((ee.configured r H h).toHorizon sk e).thresholds = ⟨2, 2, 2⟩ := rfl
  have hp : (((ee.configured r H h).toHorizon sk e).signers.filter (·.weight ≠ 0)).Perm
      [⟨1, sk.encode .accountID r, keyTypeNames .accountID⟩, ⟨1, sk.encode .hashX H, keyTypeNames .hashX⟩,
        ⟨2, sk.encode .hashTx h, keyTypeNames .hashTx⟩] := .of_eq <| by
    rw [AccountEntry.toHorizon_signers, AccountEntry.horizonSigners_filter sk rfl]
    rfl
  refine (auditContract_complete hacc hb hthr hp rfl (sk.encode_ne_empty _ _)
    ⟨rfl, rfl, sk.decode_encode _ _⟩ ⟨rfl, rfl, sk.decode_encode _ _⟩ ?_ rfl).trans ?_
  · exact Crypto.hashTransaction_of_not_blank _ _ hn
  · simp [transactionFromXDR, refundTransactionXdr, newTimebounds, max_eq_left hT.1, hT']

/-- **Builder/auditor round trip.** From a ledger where the funding account can pay for a new
account and the holding account does not exist yet, `createAtomicSwapHoldingAccount` ends
normally; the holding account's master key then has weight 0, and the audit of the holding
account with the refund transaction, serialised and read back by `TransactionFromXDR`, under
the same network, reports the counterparty, the secret hash, the funding account and the
lock time. -/
theorem createAtomicSwapHoldingAccount_audit {L : Ledger} {fkp hkp : KeyPairFull}
    {fe : AccountEntry} {R xlmAmount : String} {r H : List UInt8} {b locktime : Int}
    (hf : L.accounts (c.publicKey fkp.seed) = some fe)
    (he : L.accounts (c.publicKey hkp.seed) = none) (hnet : L.networkPassphrase = net)
    (hn : isBlank net = false) (hseq : 0 ≤ fe.seqNum ∧ fe.seqNum + 1 < 2 ^ 63)
    (hw : 0 < fe.masterWeight) (hlow : fe.lowThreshold ≤ fe.masterWeight)
    (hmed : fe.medThreshold ≤ fe.masterWeight) (hamt : amountParse xlmAmount = .ok b) (hb : 0 < b)
    (hbal : b ≤ fe.balance) (hledger : startingSequenceNumber L.ledgerSeq + 2 < 2 ^ 63)
    (hR : R = sk.encode .accountID r) (hr32 : r.length = 32) (hRE : R ≠ hkp.address sk c)
    (hH32 : H.length = 32) (hT : 0 ≤ locktime ∧ locktime < 2 ^ 63) :
    ∃ refundTx L' env,
      createAtomicSwapHoldingAccount sk c net (Ledger.client sk c hist) fkp hkp R xlmAmount H locktime L =
        .ok refundTx L' ∧
      refundTx.base64 = .ok env ∧
      (∃ ee, L'.accounts (c.publicKey hkp.seed) = some ee ∧ ee.masterWeight = 0) ∧
      AuditContractCmd.runCommand sk c net (Ledger.client sk c hist) L'
        ⟨transactionFromXDR sk env, hkp.address sk c⟩ =
        .ok ⟨hkp.address sk c, amountString b, R, fkp.address sk c, H, locktime⟩ := by
  subst hR
  have hre : r ≠ c.publicKey hkp.seed := by
    rintro rfl
    exact hRE rfl
  have hrun := @createAtomicSwapHoldingAccount_run sk c hist net L fkp hkp fe xlmAmount b locktime r H
    hf he hnet hn hseq hw hlow hmed hamt hb hbal hledger hr32 hH32 hre hT.1
  dsimp only at hrun
  refine ⟨_, _, _, hrun, rfl, ⟨_, Ledger.set_accounts_self _ _ _, rfl⟩, ?_⟩
  exact @audit_configured sk c hist net _ (c.publicKey hkp.seed) (c.publicKey fkp.seed) r H
    ⟨b, startingSequenceNumber L.ledgerSeq + 1, 1, 0, 0, 0, [], false, 0⟩ (startingSequenceNumber L.ledgerSeq + 2)
    locktime (Ledger.set_accounts_self _ _ _) hn hT

theorem InitiateCmd.runCommand_of {σ : Type} {client : ClientInterface σ} {L L' : σ} {cmd : InitiateCmd}
    {secret : List UInt8} {hkp : KeyPairFull} {now : Int} {tx : Transaction} {env : TransactionEnvelope}
    (h : createAtomicSwapHoldingAccount sk c net client cmd.initiatorKeyPair hkp cmd.cp2Addr cmd.amount
      (c.sha256 secret) (now + lockTime) L = .ok tx L') (henv : tx.base64 = .ok env) :
    InitiateCmd.runCommand sk c net client cmd secret hkp now L =
      .ok ⟨secret, c.sha256 secret, cmd.initiatorKeyPair.address sk c, hkp.address sk c, env⟩ L' := by
  simp only [InitiateCmd.runCommand]
  rw [EStateM.bind_of_ok h]
  simp [henv, EStateM.bind_of_ok (liftExcept_ok _ _)]
  rfl

theorem ParticipateCmd.runCommand_of {σ : Type} {client : ClientInterface σ} {L L' : σ} {cmd : ParticipateCmd}
    {hkp : KeyPairFull} {now : Int} {tx : Transaction} {env : TransactionEnvelope}
    (h : createAtomicSwapHoldingAccount sk c net client cmd.participatorKeyPair hkp cmd.cp1Addr cmd.amount
      cmd.secretHash (now + lockTime / 2) L = .ok tx L') (henv : tx.base64 = .ok env) :
    ParticipateCmd.runCommand sk c net client cmd hkp now L =
      .ok ⟨cmd.participatorKeyPair.address sk c, hkp.address sk c, env⟩ L' := by
  simp only [ParticipateCmd.runCommand]
  rw [EStateM.bind_of_ok h]
  simp [henv, EStateM.bind_of_ok (liftExcept_ok _ _)]
  rfl

end RoundTrip

/-- A ledger whose only account is the funding account `sampleBytes 2`, at ledger 3. -/
def sampleFundingLedger : Ledger :=
  ⟨fun a => if a = sampleBytes 2 then some ⟨10 ^ 9, 2 ^ 32, 1, 0, 0, 0, [], false, 0⟩ else none, sampleNetwork, 3, 0⟩

theorem createAtomicSwapHoldingAccount_audit_sample :
    ∃ refundTx L' env,
      createAtomicSwapHoldingAccount .hexText .plain sampleNetwork
        (Ledger.client .hexText .plain History.empty) ⟨sampleBytes 2⟩ ⟨sampleBytes 1⟩
        (StrKey.hexText.encode .accountID (sampleBytes 3)) "10" (sampleBytes 4) 100 sampleFundingLedger =
        .ok refundTx L' ∧
      refundTx.base64 = .ok env ∧
      (∃ ee, L'.accounts (Crypto.plain.publicKey (sampleBytes 1)) = some ee ∧ ee.masterWeight = 0) ∧
      AuditContractCmd.runCommand .hexText .plain sampleNetwork (Ledger.client .hexText .plain History.empty) L'
        ⟨transactionFromXDR .hexText env, KeyPairFull.address .hexText .plain ⟨sampleBytes 1⟩⟩ =
        .ok ⟨KeyPairFull.address .hexText .plain ⟨sampleBytes 1⟩, amountString (10 ^ 8),
          StrKey.hexText.encode .accountID (sampleBytes 3), KeyPairFull.address .hexText .plain ⟨sampleBytes 2⟩,
          sampleBytes 4, 100⟩ :=
  createAtomicSwapHoldingAccount_audit
    (show sampleFundingLedger.accounts (Crypto.plain.publicKey (sampleBytes 2)) =
      some ⟨10 ^ 9, 2 ^ 32, 1, 0, 0, 0, [], false, 0⟩ by decide) (by decide) rfl (by decide) (by decide) (by decide)
    (by decide) (by decide) rfl (by decide) (by decide) (by decide) rfl (by decide) (by decide)
    (by decide) (by decide)

end StellarAtomicSwap
