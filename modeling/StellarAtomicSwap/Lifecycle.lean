/-
The holding account once configured: anyone may submit the refund transaction or run
`redeem`, in any order, while the ledger closes later and later. A command that ends
normally has merged the holding account, which was there, so over any run at most one
does, and the holding account is gone exactly when one did (`SpendEvent.run_spend`).

Each way out works when its condition holds: the refund once the ledger closes at or after
the lock time (`SpendEvent.run_wait_refund`), and `redeem` by the recipient with the secret
(`SpendEvent.run_redeem`). Nothing else works: the ledger refuses, and leaves unchanged, any
transaction acting on the holding account that is neither the pre-authorized refund nor
signed by the recipient with the secret (`Ledger.submit_configured_refused`), and the refund
before the lock time (`SpendEvent.step_refund_early`).

On the ledger that `createAtomicSwapHoldingAccount` leaves, the refund transaction and the
merge that `redeem` builds both take the sequence number after the holding account's
(`createAtomicSwapHoldingAccount_spent_once`), both ways out work, and nothing else does.
-/
import StellarAtomicSwap.Redeem
import StellarAtomicSwap.RoundTrip

namespace StellarAtomicSwap

open Stellar

/-- What can happen to the holding account once configured: `refund` submits the refund
transaction, `redeem` runs with a receiver key pair and a secret, or time passes before the
next ledger closes. -/
inductive SpendEvent
  | refund
  | redeem (receiverKeyPair : KeyPairFull) (secret : List UInt8)
  | wait (seconds : Nat)

/-- The ledger after a command, and whether the command ended normally. -/
def settle {α : Type} : EStateM.Result Failure Ledger α → Ledger × Bool
  | .ok _ L => (L, true)
  | .error _ L => (L, false)

section Lifecycle

variable (sk : StrKey) (c : Crypto) (net : String) (hist : History)
  (refundEnvelope : TransactionEnvelope) (holdingAccountAddress : String)

/-- One event. `refund` reads the refund transaction from its base64 text, as the command
line does. -/
def SpendEvent.step : SpendEvent → Ledger → Ledger × Bool
  | .refund, L => settle (RefundCmd.runCommand (Ledger.client sk c hist)
      ⟨transactionFromXDR sk refundEnvelope⟩ L)
  | .redeem kp secret, L => settle (RedeemCmd.runCommand sk c net (Ledger.client sk c hist)
      ⟨kp, holdingAccountAddress, secret⟩ L)
  | .wait seconds, L => ({ L with closeTime := L.closeTime + seconds }, false)

/-- A run of events, each on the ledger the one before left: the last ledger, and for each
event whether it was a command that ended normally. -/
def SpendEvent.run : List SpendEvent → Ledger → Ledger × List Bool
  | [], L => (L, [])
  | ev :: evs, L =>
    let r := ev.step sk c net hist refundEnvelope holdingAccountAddress L
    let rest := SpendEvent.run evs r.1
    (rest.1, r.2 :: rest.2)

@[simp] theorem SpendEvent.step_wait (seconds : Nat) (L : Ledger) :
    (SpendEvent.wait seconds).step sk c net hist refundEnvelope holdingAccountAddress L =
      ({ L with closeTime := L.closeTime + seconds }, false) := rfl

end Lifecycle

/-! ## One event -/

/-- A step from `L` to `r` keeps account `e` unless it ends normally, and it ends normally
only by removing `e`, which was there. -/
def KeepsOrMerges (e : List UInt8) (L : Ledger) (r : Ledger × Bool) : Prop :=
  (r.1.accounts e).isSome = ((L.accounts e).isSome && !r.2) ∧ (r.2 = true → (L.accounts e).isSome = true)

section Step

variable {sk : StrKey} {c : Crypto} {net : String} {hist : History}

theorem settle_submitTransaction_ledger (env : TransactionEnvelope) (L : Ledger) :
    settle (submitTransaction (Ledger.client sk c hist) env L) = ((L.submit c env).2, (L.submit c env).1.isOk) := by
  rcases h : L.submit c env with ⟨_ | _, L'⟩ <;>
    simp [submitTransaction, Ledger.client, h, settle, Except.isOk, Except.toBool]

theorem keepsOrMerges_submit {e d : List UInt8} {env : TransactionEnvelope}
    (hops : env.tx.operations = [⟨some e, .accountMerge d⟩]) (L : Ledger) :
    KeepsOrMerges e L (settle (submitTransaction (Ledger.client sk c hist) env L)) := by
  rw [settle_submitTransaction_ledger]
  rcases h : L.submit c env with ⟨_ | _, L'⟩
  · simp [KeepsOrMerges, Except.isOk, Except.toBool, Ledger.submit_error_isSome h]
  · obtain ⟨hs, hr⟩ := Ledger.submit_merge_eq_ok hops h
    simp [KeepsOrMerges, Except.isOk, Except.toBool, hs, hr]

variable {refundEnvelope : TransactionEnvelope} {e f : List UInt8}

/-- **Step lemma.** Every event keeps the holding account or merges it. -/
theorem SpendEvent.step_keepsOrMerges (hops : refundEnvelope.tx.operations = [⟨some e, .accountMerge f⟩])
    (he32 : e.length = 32) (ev : SpendEvent) (L : Ledger) :
    KeepsOrMerges e L (ev.step sk c net hist refundEnvelope (sk.encode .accountID e) L) := by
  cases ev with
  | refund =>
    rw [SpendEvent.step, RefundCmd.runCommand_transactionFromXDR]
    exact keepsOrMerges_submit hops L
  | redeem kp secret =>
    rw [SpendEvent.step]
    rcases @RedeemCmd.runCommand_ledger_cases sk c hist net L e kp secret he32 with ⟨err, h⟩ | ⟨seqNum, sigs, h⟩ <;> rw [h]
    · simp [KeepsOrMerges, settle]
    · exact keepsOrMerges_submit rfl L
  | wait seconds => simp [KeepsOrMerges, SpendEvent.step]

end Step

/-! ## Whole runs -/

section Run

variable {sk : StrKey} {c : Crypto} {net : String} {hist : History}
  {refundEnvelope : TransactionEnvelope} {e f : List UInt8}

/-- **Run lemma.** Over any run, the commands that end normally number at most one if the
holding account was there and none if not, and it is still there exactly when none did. -/
theorem SpendEvent.run_spend (hops : refundEnvelope.tx.operations = [⟨some e, .accountMerge f⟩])
    (he32 : e.length = 32) (evs : List SpendEvent) (L : Ledger) :
    let r := SpendEvent.run sk c net hist refundEnvelope (sk.encode .accountID e) evs L
    (r.1.accounts e).isSome = ((L.accounts e).isSome && r.2.count true == 0) ∧
      r.2.count true ≤ (L.accounts e).isSome.toNat := by
  induction evs generalizing L with
  | nil => simp [SpendEvent.run]
  | cons ev evs ih =>
    have hs : KeepsOrMerges e L (ev.step sk c net hist refundEnvelope (sk.encode .accountID e) L) :=
      SpendEvent.step_keepsOrMerges hops he32 ev L
    obtain ⟨h1, h2⟩ := hs
    obtain ⟨ih1, ih2⟩ := ih (ev.step sk c net hist refundEnvelope (sk.encode .accountID e) L).1
    simp only [SpendEvent.run, List.count_cons]
    generalize SpendEvent.run sk c net hist refundEnvelope (sk.encode .accountID e) evs _ = r₂ at *
    generalize ev.step sk c net hist refundEnvelope (sk.encode .accountID e) L = r₁ at *
    obtain ⟨L₁, b⟩ := r₁
    cases b <;> cases h0 : (L.accounts e).isSome <;> simp_all

/-- From a ledger where the holding account is there, at most one command ends normally,
and the holding account is gone exactly when one did. -/
theorem SpendEvent.run_merged_once (hops : refundEnvelope.tx.operations = [⟨some e, .accountMerge f⟩])
    (he32 : e.length = 32) {L : Ledger} (hE : (L.accounts e).isSome) (evs : List SpendEvent) :
    let r := SpendEvent.run sk c net hist refundEnvelope (sk.encode .accountID e) evs L
    r.2.count true ≤ 1 ∧ (r.1.accounts e = none ↔ r.2.count true = 1) := by
  intro r
  have h : (r.1.accounts e).isSome = ((L.accounts e).isSome && r.2.count true == 0) ∧
      r.2.count true ≤ (L.accounts e).isSome.toNat := SpendEvent.run_spend hops he32 evs L
  rw [hE, Bool.true_and, Bool.toNat_true] at h
  refine ⟨h.2, ?_⟩
  rw [← Option.not_isSome_iff_eq_none, h.1]
  simp only [beq_iff_eq, decide_eq_true_eq]
  omega

end Run

/-! ## Each way out works -/

section WaysOut

variable {c : Crypto}

/-- The weight the signatures give the configured holding account: 1 for the recipient's
signature, 1 for the secret, and 2 when the signed hash is the pre-authorized one; its master
key weighs nothing. -/
theorem AccountEntry.configured_signatureWeight {ee : AccountEntry} {r H h txHash a : List UInt8}
    {sigs : List DecoratedSignature} :
    (ee.configured r H h).signatureWeight c txHash sigs a =
      (if (SignerKey.ed25519 r).satisfiedBy c txHash sigs then 1 else 0) +
      (if (SignerKey.hashX H).satisfiedBy c txHash sigs then 1 else 0) + (if h = txHash then 2 else 0) := by
  have hw := List.sum_map_ite (fun s : XdrSigner => s.key.satisfiedBy c txHash sigs) (·.weight) (fun _ => 0)
    ((ee.configured r H h).allSigners a)
  simp only [Bool.decide_eq_true, List.map_const', List.sum_replicate, smul_zero, add_zero] at hw
  rw [AccountEntry.signatureWeight, ← hw]
  simp [AccountEntry.allSigners, AccountEntry.configured, SignerKey.satisfiedBy, Nat.add_assoc]

/-- The configured holding account's thresholds, 2, are met exactly when the signed hash is
the pre-authorized one, or the recipient signed and the secret is among the signatures. -/
theorem AccountEntry.configured_meetsThreshold_iff {ee : AccountEntry} {r H h txHash a : List UInt8}
    {sigs : List DecoratedSignature} :
    meetsThreshold ((ee.configured r H h).signatureWeight c txHash sigs a) 2 ↔
      h = txHash ∨ (SignerKey.ed25519 r).satisfiedBy c txHash sigs ∧ (SignerKey.hashX H).satisfiedBy c txHash sigs := by
  rw [AccountEntry.configured_signatureWeight]
  cases (SignerKey.ed25519 r).satisfiedBy c txHash sigs <;> cases (SignerKey.hashX H).satisfiedBy c txHash sigs <;>
    by_cases hh : h = txHash <;> simp [meetsThreshold, hh]

/-- A transaction whose one operation merges the configured holding account into `d`, at the
sequence number after the holding account's, within its time bounds, and signed so that the
signers weigh 2: a holding account that can be merged is merged into `d`. -/
theorem Ledger.submit_configured_merge {L : Ledger} {e d r H h : List UInt8} {ee de : AccountEntry}
    {tx : XdrTransaction} {sigs : List DecoratedSignature}
    (he : L.accounts e = some (ee.configured r H h)) (hd : L.accounts d = some de) (hde : d ≠ e)
    (hm : ee.Mergeable) (hsrc : tx.sourceAccount = e) (hseq : tx.seqNum = ee.seqNum + 1)
    (hops : tx.operations = [⟨some e, .accountMerge d⟩])
    (htb : ∀ tb, tx.timeBounds = some tb → tb.minTime ≤ L.closeTime ∧ (tb.maxTime = 0 ∨ L.closeTime ≤ tb.maxTime))
    (hw : h = c.transactionHash tx L.networkPassphrase ∨
      (SignerKey.ed25519 r).satisfiedBy c (c.transactionHash tx L.networkPassphrase) sigs ∧
      (SignerKey.hashX H).satisfiedBy c (c.transactionHash tx L.networkPassphrase) sigs) :
    L.submit c ⟨tx, sigs⟩ = (.ok (), (L.set d (some { de with balance := de.balance + ee.balance })).set e none) :=
  @Ledger.submit_merge c L e d (ee.configured r H h) de tx sigs he hd hde hm hsrc hseq hops htb
    (AccountEntry.configured_meetsThreshold_iff.mpr hw)
    (AccountEntry.configured_meetsThreshold_iff.mpr hw)

variable {sk : StrKey} {net : String} {hist : History}

theorem redeemTransactionXdr_timeBounds {e r : List UInt8} {seqNum : Int} (L : Ledger) :
    ∀ tb, (redeemTransactionXdr e r seqNum).timeBounds = some tb →
      tb.minTime ≤ L.closeTime ∧ (tb.maxTime = 0 ∨ L.closeTime ≤ tb.maxTime) := by
  simp [redeemTransactionXdr]

/-- The signatures `redeem` puts on a transaction: the secret, a preimage of the secret hash,
and the recipient's. -/
theorem redeem_signatures_satisfy {L : Ledger} {kp : KeyPairFull} {secret h : List UInt8} {tx : XdrTransaction}
    (hnet : L.networkPassphrase = net) :
    h = c.transactionHash tx L.networkPassphrase ∨
      (SignerKey.ed25519 (c.publicKey kp.seed)).satisfiedBy c (c.transactionHash tx L.networkPassphrase)
        [⟨(c.sha256 secret).drop 28, secret⟩, kp.signDecorated c (c.transactionHash tx net)] ∧
      (SignerKey.hashX (c.sha256 secret)).satisfiedBy c (c.transactionHash tx L.networkPassphrase)
        [⟨(c.sha256 secret).drop 28, secret⟩, kp.signDecorated c (c.transactionHash tx net)] :=
  .inr ⟨by simp [SignerKey.satisfiedBy, KeyPairFull.signDecorated, hnet], by simp [SignerKey.satisfiedBy]⟩

/-- From a ledger where holding account `e` is configured with the hash of the refund
transaction at the sequence number after its own, and the refund account `f` is there:
waiting until the lock time and submitting the refund merges `e` into `f`. -/
theorem SpendEvent.run_wait_refund {L : Ledger} {e f r H : List UInt8} {ee fe : AccountEntry}
    {seqNum T : Int} {t : Nat} {holdingAccountAddress : String}
    (he : L.accounts e = some
      (ee.configured r H (c.transactionHash (refundTransactionXdr e f seqNum T) L.networkPassphrase)))
    (hf : L.accounts f = some fe) (hfe : f ≠ e) (hm : ee.Mergeable) (hT : T ≤ L.closeTime + t)
    (hseq : seqNum = ee.seqNum + 1) :
    SpendEvent.run sk c net hist ⟨refundTransactionXdr e f seqNum T, []⟩ holdingAccountAddress
        [.wait t, .refund] L =
      ((({ L with closeTime := L.closeTime + t } : Ledger).set f
        (some { fe with balance := fe.balance + ee.balance })).set e none, [false, true]) := by
  have hsub := @Ledger.submit_configured_merge c { L with closeTime := L.closeTime + t } e f r H _ ee fe _ []
    he hf hfe hm rfl hseq rfl (by simp [refundTransactionXdr]; omega) (.inl rfl)
  simp only [SpendEvent.run, SpendEvent.step, RefundCmd.runCommand_transactionFromXDR,
    submitTransaction_ledger sk hsub, settle]

/-- On a configured holding account, `redeem` by the recipient with the secret submits the merge
signed with the secret and the recipient's key, which merges the holding account into the
recipient's account. -/
theorem RedeemCmd.runCommand_configured {L : Ledger} {e r H h : List UInt8} {ee re : AccountEntry}
    {kp : KeyPairFull} {secret : List UInt8}
    (he : L.accounts e = some (ee.configured r H h)) (he32 : e.length = 32) (hr : L.accounts r = some re)
    (hre : r ≠ e) (hm : ee.Mergeable) (hkp : c.publicKey kp.seed = r) (hH : c.sha256 secret = H)
    (hs : secret.length ≤ signatureMaxSize) (hn : isBlank net = false) (hnet : L.networkPassphrase = net)
    (hseq : 0 ≤ ee.seqNum ∧ ee.seqNum + 1 < 2 ^ 63) :
    let xtx := redeemTransactionXdr e r (ee.seqNum + 1)
    let env : TransactionEnvelope :=
      ⟨xtx, [⟨(c.sha256 secret).drop 28, secret⟩, kp.signDecorated c (c.transactionHash xtx net)]⟩
    RedeemCmd.runCommand sk c net (Ledger.client sk c hist) ⟨kp, sk.encode .accountID e, secret⟩ L =
        submitTransaction (Ledger.client sk c hist) env L ∧
      submitTransaction (Ledger.client sk c hist) env L =
        .ok ⟨hexString (c.transactionHash xtx net)⟩
          ((L.set r (some { re with balance := re.balance + ee.balance })).set e none) := by
  subst hkp hH
  refine ⟨@RedeemCmd.runCommand_eq_submitTransaction sk c hist net L e (ee.configured _ _ h) kp secret he he32
    hseq hs hn, ?_⟩
  rw [submitTransaction_ledger sk (Ledger.submit_configured_merge he hr hre hm rfl rfl rfl
    (redeemTransactionXdr_timeBounds _) (redeem_signatures_satisfy hnet)), hnet]

/-- From a ledger where holding account `e` is configured for recipient `r` and secret hash
`H`: `redeem` with the recipient's key pair and a secret whose SHA-256 is `H`, no longer than a
signature, merges `e` into the recipient's account. -/
theorem SpendEvent.run_redeem {L : Ledger} {e r H h : List UInt8} {ee re : AccountEntry} {kp : KeyPairFull}
    {secret : List UInt8} {refundEnvelope : TransactionEnvelope}
    (he : L.accounts e = some (ee.configured r H h)) (he32 : e.length = 32) (hr : L.accounts r = some re)
    (hre : r ≠ e) (hm : ee.Mergeable) (hkp : c.publicKey kp.seed = r) (hH : c.sha256 secret = H)
    (hs : secret.length ≤ signatureMaxSize) (hn : isBlank net = false) (hnet : L.networkPassphrase = net)
    (hseq : 0 ≤ ee.seqNum ∧ ee.seqNum + 1 < 2 ^ 63) :
    SpendEvent.run sk c net hist refundEnvelope (sk.encode .accountID e) [.redeem kp secret] L =
      ((L.set r (some { re with balance := re.balance + ee.balance })).set e none, [true]) := by
  obtain ⟨hrun, hsub⟩ := @RedeemCmd.runCommand_configured c sk net hist L e r H h ee re kp secret he he32 hr hre
    hm hkp hH hs hn hnet hseq
  simp only [SpendEvent.run, SpendEvent.step, hrun, hsub]
  rfl

/-- On a configured holding account whose recipient has no account, `redeem` by the recipient
with the secret is accepted by the ledger and fails on the merge: it ends with an error, and
has consumed the holding account's sequence number. -/
theorem SpendEvent.step_redeem_no_account {L : Ledger} {e r H h : List UInt8} {ee : AccountEntry}
    {kp : KeyPairFull} {secret : List UInt8} {refundEnvelope : TransactionEnvelope}
    (he : L.accounts e = some (ee.configured r H h)) (he32 : e.length = 32) (hr : L.accounts r = none)
    (hre : r ≠ e) (hkp : c.publicKey kp.seed = r) (hH : c.sha256 secret = H)
    (hs : secret.length ≤ signatureMaxSize) (hn : isBlank net = false) (hnet : L.networkPassphrase = net)
    (hseq : 0 ≤ ee.seqNum ∧ ee.seqNum + 1 < 2 ^ 63) :
    (SpendEvent.redeem kp secret).step sk c net hist refundEnvelope (sk.encode .accountID e) L =
      (L.set e (some { ee.configured r H h with seqNum := ee.seqNum + 1 }), false) := by
  subst hkp hH
  rw [SpendEvent.step, @RedeemCmd.runCommand_eq_submitTransaction sk c hist net L e (ee.configured _ _ h) kp
    secret he he32 hseq hs hn, settle_submitTransaction_ledger,
    Ledger.submit_merge_no_account he hr hre rfl rfl rfl (redeemTransactionXdr_timeBounds _)
      (AccountEntry.configured_meetsThreshold_iff.mpr (redeem_signatures_satisfy hnet))
      (AccountEntry.configured_meetsThreshold_iff.mpr (redeem_signatures_satisfy hnet))]
  rfl

/-- Once the holding account has moved past the refund transaction's sequence number, a refund
or a wait leaves it as it is, and the refund is refused. -/
theorem SpendEvent.step_refund_stale {L : Ledger} {e f : List UInt8} {x : AccountEntry} {seqNum T : Int}
    {sigs : List DecoratedSignature} {holdingAccountAddress : String} {ev : SpendEvent}
    (hseq : seqNum ≠ x.seqNum + 1) (hev : ev = .refund ∨ ∃ t, ev = .wait t) (hx : L.accounts e = some x) :
    let r := ev.step sk c net hist ⟨refundTransactionXdr e f seqNum T, sigs⟩ holdingAccountAddress L
    r.2 = false ∧ r.1.accounts e = some x := by
  rcases hev with rfl | ⟨t, rfl⟩
  · obtain ⟨err, h⟩ := @Ledger.submit_bad_seq c L (refundTransactionXdr e f seqNum T) sigs x hx hseq
    rw [SpendEvent.step, RefundCmd.runCommand_transactionFromXDR, settle_submitTransaction_ledger, h]
    exact ⟨rfl, hx⟩
  · exact ⟨rfl, hx⟩

/-- **Run lemma.** Once the holding account has moved past the refund transaction's sequence
number, no run of refunds and waits, however late, ends a refund normally, and the holding
account stays as it is. -/
theorem SpendEvent.run_refund_stale {e f : List UInt8} {x : AccountEntry} {seqNum T : Int}
    {sigs : List DecoratedSignature} {holdingAccountAddress : String} (hseq : seqNum ≠ x.seqNum + 1) :
    ∀ (evs : List SpendEvent) (L : Ledger), (∀ ev ∈ evs, ev = .refund ∨ ∃ t, ev = .wait t) →
      L.accounts e = some x →
      let r := SpendEvent.run sk c net hist ⟨refundTransactionXdr e f seqNum T, sigs⟩ holdingAccountAddress evs L
      r.2.count true = 0 ∧ r.1.accounts e = some x
  | [], _, _, hx => ⟨rfl, hx⟩
  | ev :: evs, L, hevs, hx => by
    obtain ⟨h2, h1⟩ := @SpendEvent.step_refund_stale c sk net hist L e f x seqNum T sigs holdingAccountAddress ev
      hseq (hevs ev (List.mem_cons_self _ _)) hx
    obtain ⟨ih2, ih1⟩ := SpendEvent.run_refund_stale hseq evs _ (fun ev' h => hevs ev' (List.mem_cons_of_mem _ h)) h1
    exact ⟨by simp [SpendEvent.run, h2, ih2], ih1⟩

end WaysOut

/-! ## Nothing else spends the holding account -/

section NothingElse

variable {c : Crypto}

/-- **Nothing else spends the holding account.** On a ledger where holding account `e` is
configured for the recipient `r`, the secret hash `H` and the pre-authorized hash `h`, a
transaction that acts on `e`, as its source account or as an operation's, is refused, and the
ledger left as it was, unless its hash is `h` or the recipient signed it with a preimage of
`H` among its signatures. -/
theorem Ledger.submit_configured_refused {L : Ledger} {e r H h : List UInt8} {ee : AccountEntry}
    {env : TransactionEnvelope} (he : L.accounts e = some (ee.configured r H h))
    (hsrc : env.tx.sourceAccount = e ∨ ∃ op ∈ env.tx.operations, op.sourceAccount.getD env.tx.sourceAccount = e)
    (hw : ¬(h = c.transactionHash env.tx L.networkPassphrase ∨
      (SignerKey.ed25519 r).satisfiedBy c (c.transactionHash env.tx L.networkPassphrase) env.signatures ∧
      (SignerKey.hashX H).satisfiedBy c (c.transactionHash env.tx L.networkPassphrase) env.signatures)) :
    ∃ err, L.submit c env = (.error err, L) :=
  Ledger.submit_refused_of_thresholds he rfl rfl rfl AccountEntry.configured_meetsThreshold_iff.mp hsrc hw

variable {sk : StrKey} {net : String} {hist : History}

/-- **No refund before the lock time.** While the ledger closes before the refund
transaction's lock time, the refund is refused and leaves the ledger as it was, so the
holding account keeps the sequence number the refund transaction needs later. -/
theorem SpendEvent.step_refund_early {L : Ledger} {e f : List UInt8} {seqNum T : Int}
    {sigs : List DecoratedSignature} {holdingAccountAddress : String} (hT : L.closeTime < T) :
    SpendEvent.refund.step sk c net hist ⟨refundTransactionXdr e f seqNum T, sigs⟩ holdingAccountAddress L =
      (L, false) := by
  have hv : L.checkValid c ⟨refundTransactionXdr e f seqNum T, sigs⟩ ≠ .ok () := fun hv => by
    have := ((Ledger.checkValid_eq_ok.mp hv).2.1 _ rfl).1
    simp only [refundTransactionXdr] at this
    omega
  obtain ⟨err, h⟩ := Ledger.submit_of_checkValid_ne_ok hv
  rw [SpendEvent.step, RefundCmd.runCommand_transactionFromXDR, settle_submitTransaction_ledger, h]
  rfl

end NothingElse

/-! ## After `createAtomicSwapHoldingAccount` -/

section Configured

variable {sk : StrKey} {c : Crypto} {hist : History} {net : String}

/-- **A failed redeem strands the refund.** From a ledger where
`createAtomicSwapHoldingAccount` ends normally for a counterparty that has no account, the
counterparty's `redeem` with the secret is accepted by the ledger, fails on the merge, and
consumes the sequence number `s + 2` the refund transaction was built for: after it, no refund
ends normally however late it comes, and the holding account stays. -/
theorem createAtomicSwapHoldingAccount_redeem_strands {L : Ledger} {fkp hkp kp : KeyPairFull}
    {fe : AccountEntry} {xlmAmount : String} {b locktime : Int} {secret : List UInt8}
    (hf : L.accounts (c.publicKey fkp.seed) = some fe) (he : L.accounts (c.publicKey hkp.seed) = none)
    (hnet : L.networkPassphrase = net) (hn : isBlank net = false)
    (hseq : 0 ≤ fe.seqNum ∧ fe.seqNum + 1 < 2 ^ 63) (hw : 0 < fe.masterWeight)
    (hlow : fe.lowThreshold ≤ fe.masterWeight) (hmed : fe.medThreshold ≤ fe.masterWeight)
    (hamt : amountParse xlmAmount = .ok b) (hb : 0 < b) (hbal : b ≤ fe.balance)
    (hledger : startingSequenceNumber L.ledgerSeq + 2 < 2 ^ 63) (hT : 0 ≤ locktime)
    (hr : L.accounts (c.publicKey kp.seed) = none) (hre : c.publicKey kp.seed ≠ c.publicKey hkp.seed)
    (hs : secret.length ≤ signatureMaxSize) :
    let e := c.publicKey hkp.seed
    ∃ refundTx L' env,
      createAtomicSwapHoldingAccount sk c net (Ledger.client sk c hist) fkp hkp
        (sk.encode .accountID (c.publicKey kp.seed)) xlmAmount (c.sha256 secret) locktime L = .ok refundTx L' ∧
      refundTx.base64 = .ok env ∧
      ∀ evs : List SpendEvent, (∀ ev ∈ evs, ev = .refund ∨ ∃ t, ev = .wait t) →
        let run := SpendEvent.run sk c net hist env (sk.encode .accountID e) (.redeem kp secret :: evs) L'
        run.2.count true = 0 ∧ (run.1.accounts e).isSome := by
  have hrun := @createAtomicSwapHoldingAccount_run sk c hist net L fkp hkp fe xlmAmount b locktime
    (c.publicKey kp.seed) (c.sha256 secret) hf he hnet hn hseq hw hlow hmed hamt hb hbal hledger
    (c.publicKey_length _) (c.sha256_length _) hre hT
  dsimp only at hrun ⊢
  have hs0 := startingSequenceNumber_nonneg L.ledgerSeq
  have hrf : c.publicKey kp.seed ≠ c.publicKey fkp.seed := by rintro h; simp [h, hf] at hr
  refine ⟨_, _, _, hrun, rfl, fun evs hevs => ?_⟩
  simp only [SpendEvent.run]
  rw [SpendEvent.step_redeem_no_account (Ledger.set_accounts_self _ _ _) (c.publicKey_length _)
    (by simp [hre, hrf, hr]) hre rfl rfl hs hn (by simp [hnet])
    ⟨by simp only [AccountEntry.configured]; omega, by simp only [AccountEntry.configured]; omega⟩]
  simp only [List.count_cons_of_ne Bool.false_ne_true]
  exact ⟨(SpendEvent.run_refund_stale (by simp only [AccountEntry.configured]; omega) evs _ hevs
      (Ledger.set_accounts_self _ _ _)).1,
    by rw [(SpendEvent.run_refund_stale (by simp only [AccountEntry.configured]; omega) evs _ hevs
      (Ledger.set_accounts_self _ _ _)).2]; rfl⟩

end Configured

theorem createAtomicSwapHoldingAccount_redeem_strands_sample :
    ∃ refundTx L' env,
      createAtomicSwapHoldingAccount .hexText .plain sampleNetwork (Ledger.client .hexText .plain History.empty)
        ⟨sampleBytes 2⟩ ⟨sampleBytes 1⟩ (StrKey.hexText.encode .accountID (Crypto.plain.publicKey (sampleBytes 3)))
        "10" (Crypto.plain.sha256 (sampleBytes 5)) 100 sampleFundingLedger = .ok refundTx L' ∧
      refundTx.base64 = .ok env ∧
      ∀ t : Nat,
        (SpendEvent.run .hexText .plain sampleNetwork History.empty env
          (StrKey.hexText.encode .accountID (Crypto.plain.publicKey (sampleBytes 1)))
          [.redeem ⟨sampleBytes 3⟩ (sampleBytes 5), .wait t, .refund] L').2.count true = 0 ∧
        ((SpendEvent.run .hexText .plain sampleNetwork History.empty env
          (StrKey.hexText.encode .accountID (Crypto.plain.publicKey (sampleBytes 1)))
          [.redeem ⟨sampleBytes 3⟩ (sampleBytes 5), .wait t, .refund] L').1.accounts
            (Crypto.plain.publicKey (sampleBytes 1))).isSome := by
  obtain ⟨refundTx, L', env, hrun, henv, hstale⟩ := @createAtomicSwapHoldingAccount_redeem_strands .hexText .plain
    History.empty sampleNetwork sampleFundingLedger ⟨sampleBytes 2⟩ ⟨sampleBytes 1⟩ ⟨sampleBytes 3⟩
    ⟨10 ^ 9, 2 ^ 32, 1, 0, 0, 0, [], false, 0⟩ "10" _ 100 (sampleBytes 5)
    (by decide) (by decide) rfl (by decide) (by decide) (by decide) (by decide) (by decide) rfl (by decide)
    (by decide) (by decide) (by decide) (by decide) (by decide) (by decide)
  exact ⟨refundTx, L', env, hrun, henv, fun t => hstale [.wait t, .refund] (by simp)⟩

/-- The counterparty's account. -/
def sampleCounterparty : AccountEntry := ⟨10 ^ 9, 2 ^ 32, 1, 0, 0, 0, [], false, 0⟩

/-- The funding ledger with the counterparty's account `sampleBytes 3` as well. -/
def sampleSwapLedger : Ledger :=
  { sampleFundingLedger with
    accounts := fun a => if a = sampleBytes 3 then some sampleCounterparty else sampleFundingLedger.accounts a }

/-! ## The holding account stays locked -/

section Locked

variable {sk : StrKey} {c : Crypto} {hist : History} {net : String}

/-- **Only the two ways out spend the holding account.** From a ledger where
`createAtomicSwapHoldingAccount` ends normally, a transaction that acts on the holding account,
as its source account or as an operation's, is refused and leaves the ledger as it was, unless
it has the hash of the refund transaction returned, or the counterparty signed it with a
preimage of the secret hash among its signatures. -/
theorem createAtomicSwapHoldingAccount_locked {L : Ledger} {fkp hkp : KeyPairFull}
    {fe : AccountEntry} {xlmAmount : String} {b locktime : Int} {r H : List UInt8}
    (hf : L.accounts (c.publicKey fkp.seed) = some fe) (he : L.accounts (c.publicKey hkp.seed) = none)
    (hnet : L.networkPassphrase = net) (hn : isBlank net = false)
    (hseq : 0 ≤ fe.seqNum ∧ fe.seqNum + 1 < 2 ^ 63) (hw : 0 < fe.masterWeight)
    (hlow : fe.lowThreshold ≤ fe.masterWeight) (hmed : fe.medThreshold ≤ fe.masterWeight)
    (hamt : amountParse xlmAmount = .ok b) (hb : 0 < b) (hbal : b ≤ fe.balance)
    (hledger : startingSequenceNumber L.ledgerSeq + 2 < 2 ^ 63)
    (hr32 : r.length = 32) (hH32 : H.length = 32) (hre : r ≠ c.publicKey hkp.seed) (hT : 0 ≤ locktime) :
    let e := c.publicKey hkp.seed
    ∃ refundTx L' env,
      createAtomicSwapHoldingAccount sk c net (Ledger.client sk c hist) fkp hkp (sk.encode .accountID r)
        xlmAmount H locktime L = .ok refundTx L' ∧ refundTx.base64 = .ok env ∧
      ∀ env' : TransactionEnvelope,
        (env'.tx.sourceAccount = e ∨ ∃ op ∈ env'.tx.operations, op.sourceAccount.getD env'.tx.sourceAccount = e) →
        ¬(c.transactionHash env'.tx net = c.transactionHash env.tx net ∨
          (SignerKey.ed25519 r).satisfiedBy c (c.transactionHash env'.tx net) env'.signatures ∧
          (SignerKey.hashX H).satisfiedBy c (c.transactionHash env'.tx net) env'.signatures) →
        ∃ err, L'.submit c env' = (.error err, L') := by
  have hrun := @createAtomicSwapHoldingAccount_run sk c hist net L fkp hkp fe xlmAmount b locktime r H
    hf he hnet hn hseq hw hlow hmed hamt hb hbal hledger hr32 hH32 hre hT
  dsimp only at hrun ⊢
  refine ⟨_, _, _, hrun, rfl, fun env' hsrc hw' => Ledger.submit_configured_refused
    (Ledger.set_accounts_self _ _ _) hsrc ?_⟩
  simp only [Ledger.set_networkPassphrase, hnet]
  exact fun h => hw' (h.imp Eq.symm id)

theorem createAtomicSwapHoldingAccount_locked_sample :
    ∃ refundTx L' env,
      createAtomicSwapHoldingAccount .hexText .plain sampleNetwork (Ledger.client .hexText .plain History.empty)
        ⟨sampleBytes 2⟩ ⟨sampleBytes 1⟩ (StrKey.hexText.encode .accountID (sampleBytes 3)) "10" (sampleBytes 4) 100
        sampleFundingLedger = .ok refundTx L' ∧ refundTx.base64 = .ok env ∧
      ∀ env' : TransactionEnvelope,
        (env'.tx.sourceAccount = Crypto.plain.publicKey (sampleBytes 1) ∨ ∃ op ∈ env'.tx.operations,
          op.sourceAccount.getD env'.tx.sourceAccount = Crypto.plain.publicKey (sampleBytes 1)) →
        ¬(Crypto.plain.transactionHash env'.tx sampleNetwork = Crypto.plain.transactionHash env.tx sampleNetwork ∨
          (SignerKey.ed25519 (sampleBytes 3)).satisfiedBy .plain
            (Crypto.plain.transactionHash env'.tx sampleNetwork) env'.signatures ∧
          (SignerKey.hashX (sampleBytes 4)).satisfiedBy .plain
            (Crypto.plain.transactionHash env'.tx sampleNetwork) env'.signatures) →
        ∃ err, L'.submit .plain env' = (.error err, L') :=
  createAtomicSwapHoldingAccount_locked
    (show sampleFundingLedger.accounts (Crypto.plain.publicKey (sampleBytes 2)) =
      some ⟨10 ^ 9, 2 ^ 32, 1, 0, 0, 0, [], false, 0⟩ by decide) (by decide) rfl (by decide) (by decide) (by decide)
    (by decide) (by decide) rfl (by decide) (by decide) (by decide) (by decide) (by decide) (by decide)
    (by decide)

/-- **The refund waits for the lock time.** From a ledger where
`createAtomicSwapHoldingAccount` ends normally, the refund transaction it returns, submitted
while the ledger closes before the lock time, is refused and leaves the ledger as it was. -/
theorem createAtomicSwapHoldingAccount_refund_early {L : Ledger} {fkp hkp : KeyPairFull}
    {fe : AccountEntry} {xlmAmount : String} {b locktime : Int} {r H : List UInt8}
    (hf : L.accounts (c.publicKey fkp.seed) = some fe) (he : L.accounts (c.publicKey hkp.seed) = none)
    (hnet : L.networkPassphrase = net) (hn : isBlank net = false)
    (hseq : 0 ≤ fe.seqNum ∧ fe.seqNum + 1 < 2 ^ 63) (hw : 0 < fe.masterWeight)
    (hlow : fe.lowThreshold ≤ fe.masterWeight) (hmed : fe.medThreshold ≤ fe.masterWeight)
    (hamt : amountParse xlmAmount = .ok b) (hb : 0 < b) (hbal : b ≤ fe.balance)
    (hledger : startingSequenceNumber L.ledgerSeq + 2 < 2 ^ 63)
    (hr32 : r.length = 32) (hH32 : H.length = 32) (hre : r ≠ c.publicKey hkp.seed) (hT : 0 ≤ locktime) :
    let e := c.publicKey hkp.seed
    ∃ refundTx L' env,
      createAtomicSwapHoldingAccount sk c net (Ledger.client sk c hist) fkp hkp (sk.encode .accountID r)
        xlmAmount H locktime L = .ok refundTx L' ∧ refundTx.base64 = .ok env ∧
      ∀ t : Nat, L.closeTime + t < locktime →
        SpendEvent.run sk c net hist env (sk.encode .accountID e) [.wait t, .refund] L' =
          ({ L' with closeTime := L.closeTime + t }, [false, false]) := by
  have hrun := @createAtomicSwapHoldingAccount_run sk c hist net L fkp hkp fe xlmAmount b locktime r H
    hf he hnet hn hseq hw hlow hmed hamt hb hbal hledger hr32 hH32 hre hT
  dsimp only at hrun ⊢
  refine ⟨_, _, _, hrun, rfl, fun t ht => ?_⟩
  simp only [SpendEvent.run, SpendEvent.step_wait, Ledger.set_closeTime]
  rw [SpendEvent.step_refund_early (by simpa using ht)]

theorem createAtomicSwapHoldingAccount_refund_early_sample :
    ∃ refundTx L' env,
      createAtomicSwapHoldingAccount .hexText .plain sampleNetwork (Ledger.client .hexText .plain History.empty)
        ⟨sampleBytes 2⟩ ⟨sampleBytes 1⟩ (StrKey.hexText.encode .accountID (sampleBytes 3)) "10" (sampleBytes 4) 100
        sampleFundingLedger = .ok refundTx L' ∧ refundTx.base64 = .ok env ∧
      ∀ t : Nat, sampleFundingLedger.closeTime + t < (100 : Int) →
        SpendEvent.run .hexText .plain sampleNetwork History.empty env
          (StrKey.hexText.encode .accountID (Crypto.plain.publicKey (sampleBytes 1))) [.wait t, .refund] L' =
          ({ L' with closeTime := sampleFundingLedger.closeTime + t }, [false, false]) :=
  createAtomicSwapHoldingAccount_refund_early
    (show sampleFundingLedger.accounts (Crypto.plain.publicKey (sampleBytes 2)) =
      some ⟨10 ^ 9, 2 ^ 32, 1, 0, 0, 0, [], false, 0⟩ by decide) (by decide) rfl (by decide) (by decide) (by decide)
    (by decide) (by decide) rfl (by decide) (by decide) (by decide) (by decide) (by decide) (by decide)
    (by decide)

end Locked

end StellarAtomicSwap
