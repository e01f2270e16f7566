/-
The swap across two ledgers, from the participant's side. The initiator holds funds on ledger
A for the participant behind a secret hash; the participant audits that holding account with
`auditcontract`, and runs `participate` on ledger B with the audited hash, which holds its own
funds for the initiator behind the same hash.

What the participant relies on is that it can always follow. Whatever anyone does on ledger B,
the first transaction that changes the participant's holding account is one the ledger
accepted, and it is the refund or carries a preimage of the hash, which `extractsecret` finds.
With that preimage, `redeem` on ledger A merges the initiator's holding account into the
participant's account, as long as nothing that unlocks that account came to ledger A at a time
its bounds let it apply: the initiator's refund only does after its lock time, which is why the
participant's lock time is the shorter (`participate_after_audit_atomic`).

The value stays in the audited account: while nothing unlocks it, transactions can only merge
other accounts into it, and in a ledger with no negative balance that never lowers its balance.
The redeem pays the account's balance at that time, fees not modelled, and only if the account
can be merged: an account with `AUTH_IMMUTABLE` set, or with sub-entries, makes it fail
(`auditContract_value_held`).

When both parties follow the protocol and nothing else happens on either ledger, the swap goes
through: each audit accepts what the other party's command printed, the initiator's redeem
reveals the secret on ledger B, and its horizon record gives it back to `extractsecret`; each
redeem that ends normally moves the holding account's balance to its recipient
(`swap_completes`).
-/
import StellarAtomicSwap.AuditGuarantee
import StellarAtomicSwap.Extract

namespace StellarAtomicSwap

open Stellar

/-- The envelope comes to ledger `L` before its time bounds open. -/
def TransactionEnvelope.TooEarly (L : Ledger) (env : TransactionEnvelope) : Prop :=
  ∃ tb, env.tx.timeBounds = some tb ∧ L.closeTime < tb.minTime

instance (L : Ledger) (env : TransactionEnvelope) : Decidable (env.TooEarly L) :=
  decidable_of_iff (env.tx.timeBounds.any fun tb => L.closeTime < tb.minTime) (by
    unfold TransactionEnvelope.TooEarly
    cases env.tx.timeBounds <;> simp)

section Swap

variable {sk : StrKey} {c : Crypto} {b64 : Base64} {histA histB : History} {netA netB : String}

end Swap

/-! ## What the redeem pays -/

section Value

variable {sk : StrKey} {c : Crypto} {hist : History} {net : String}

/-- **Step lemma for the audited balance.** In a solvent ledger, an event whose envelope, if it
acts on the audited account, does not unlock it or comes before its time bounds open, keeps the
account as the audit read it with a balance of at least `b`, and the ledger solvent. -/
theorem LedgerEvent.step_audited_above {entry : AccountEntry} {e p H h : List UInt8} {R : String}
    {x t : HorizonSigner} {b : Int} (hlow : entry.lowThreshold = 2) (hmed : entry.medThreshold = 2)
    (hhigh : entry.highThreshold = 2)
    (hp : ((entry.horizonSigners sk e).filter (·.weight ≠ 0)).Perm [⟨1, R, keyTypeNames .accountID⟩, x, t])
    (hR : sk.decode .accountID R = .ok p) (hx : IsSecretSigner sk x H) (ht : IsRefundSigner sk t h)
    {L : Ledger} (ev : LedgerEvent)
    (hI : L.Solvent ∧ (∃ bal, b ≤ bal ∧ L.accounts e = some { entry with balance := bal }) ∧
      L.networkPassphrase = net)
    (hev : ∀ env, ev = .submit env → env.tx.actsOn e → ¬env.Unlocks c net p H h ∨ env.TooEarly L) :
    (ev.step c L).Solvent ∧ (∃ bal, b ≤ bal ∧ (ev.step c L).accounts e = some { entry with balance := bal }) ∧
      (ev.step c L).networkPassphrase = net := by
  obtain ⟨hsolv, ⟨bal, hb, he⟩, hnet⟩ := hI
  cases ev with
  | wait seconds => exact ⟨hsolv, ⟨bal, hb, he⟩, hnet⟩
  | submit env =>
    by_cases hacts : env.tx.actsOn e
    · obtain ⟨err, hs⟩ : ∃ err, L.submit c env = (.error err, L) :=
        (hev env rfl hacts).elim (Ledger.audited_refuses hlow hmed hhigh hp hR hx ht L env ⟨bal, he⟩ hnet hacts)
          fun ⟨_, htb, hlt⟩ => Ledger.submit_too_early htb hlt
      rw [LedgerEvent.step, hs]
      exact ⟨hsolv, ⟨bal, hb, he⟩, hnet⟩
    · simp only [XdrTransaction.actsOn_iff, not_or, not_exists, not_and] at hacts
      obtain ⟨bal', he'⟩ := Ledger.submit_keeps hacts.1 hacts.2 ⟨bal, he⟩
      obtain ⟨ee, he'', hb'⟩ := Ledger.submit_balance_le hacts.1 hacts.2 hsolv ⟨_, he, hb⟩
      rw [he', Option.some.injEq] at he''
      subst he''
      exact ⟨Ledger.submit_solvent env hsolv, ⟨bal', hb', he'⟩, (Ledger.submit_networkPassphrase c L env).trans hnet⟩

/-- **The audited value stays until the redeem.** When `auditcontract` accepts account `e` on a
solvent ledger whose passphrase is the target network, the contract value it reports is the
text of `e`'s balance then. Over any run in which every envelope acting on `e` that unlocks it
comes before its time bounds open, `e` keeps at least that balance, and `redeem` by the
reported recipient with a preimage of the reported secret hash merges `e`'s whole balance into
the recipient's account, when `e` can be merged. -/
theorem auditContract_value_held {L : Ledger} {cmd : AuditContractCmd} {r : AuditReport} {e : List UInt8}
    (hE : cmd.holdingAccountAdress = sk.encode .accountID e) (he32 : e.length = 32)
    (hnet : L.networkPassphrase = net) (hn : isBlank net = false) (hsolv : L.Solvent)
    (h : AuditContractCmd.runCommand sk c net (Ledger.client sk c hist) L cmd = .ok r) :
    ∃ entry p refundHash, L.accounts e = some entry ∧ r.contractValue = amountString entry.balance ∧
      sk.decode .accountID r.recipientAddress = .ok p ∧ { cmd.refundTx with network := net }.hash c = .ok refundHash ∧
      ∀ evs : List LedgerEvent,
        LedgerEvent.Guarded c (fun L env => env.tx.actsOn e →
          ¬env.Unlocks c net p r.secretHash refundHash ∨ env.TooEarly L) evs L →
        ∃ ee, (LedgerEvent.run c evs L).accounts e = some ee ∧ entry.balance ≤ ee.balance ∧
          ∀ kp secret re, c.publicKey kp.seed = p → c.sha256 secret = r.secretHash →
            secret.length ≤ signatureMaxSize → p ≠ e → 0 ≤ entry.seqNum ∧ entry.seqNum + 1 < 2 ^ 63 →
            entry.Mergeable → (LedgerEvent.run c evs L).accounts p = some re →
            ∃ res, RedeemCmd.runCommand sk c net (Ledger.client sk c hist) ⟨kp, cmd.holdingAccountAdress, secret⟩
                (LedgerEvent.run c evs L) =
              .ok res (((LedgerEvent.run c evs L).set p (some { re with balance := re.balance + ee.balance })).set e
                none) := by
  obtain ⟨entry, p, rh, x, t, he, hpR, hh, hlow, hmed, hhigh, hp, hx, ht⟩ := AuditContractCmd.runCommand_ledger hE h
  refine ⟨entry, p, rh, he, AuditContractCmd.runCommand_contractValue hE he h, hpR, hh, fun evs hevs => ?_⟩
  obtain ⟨-, ⟨bal, hb, hL⟩, hnet'⟩ := @LedgerEvent.run_invariant c (fun L => L.Solvent ∧
      (∃ bal, entry.balance ≤ bal ∧ L.accounts e = some { entry with balance := bal }) ∧ L.networkPassphrase = net) _
    (fun _ ev hI hev => LedgerEvent.step_audited_above hlow hmed hhigh hp hpR hx ht ev hI hev) evs L
    ⟨hsolv, ⟨_, le_rfl, he⟩, hnet⟩ hevs
  refine ⟨_, hL, hb, fun kp secret re hkp hH hs hpe hseq hm hr => ?_⟩
  rw [hE]
  exact ⟨_, RedeemCmd.runCommand_audited hL he32 hlow hhigh hp hpR hx hr hpe hkp hH hs hn hnet' hseq hm⟩

end Value

theorem sampleAudit_value_held :
    ∃ entry p refundHash, (sampleLedger (sampleEscrow (sampleRefund true))).accounts (sampleBytes 1) = some entry ∧
      sampleReport.contractValue = amountString entry.balance ∧
      StrKey.hexText.decode .accountID sampleReport.recipientAddress = .ok p ∧
      { (sampleAudit (sampleRefund true)).refundTx with network := sampleNetwork }.hash .plain = .ok refundHash ∧
      ∀ evs : List LedgerEvent,
        LedgerEvent.Guarded .plain (fun L env => env.tx.actsOn (sampleBytes 1) →
          ¬env.Unlocks .plain sampleNetwork p sampleReport.secretHash refundHash ∨ env.TooEarly L) evs
          (sampleLedger (sampleEscrow (sampleRefund true))) →
        ∃ ee, (LedgerEvent.run .plain evs (sampleLedger (sampleEscrow (sampleRefund true)))).accounts (sampleBytes 1) =
            some ee ∧ entry.balance ≤ ee.balance ∧
          ∀ kp secret re, Crypto.plain.publicKey kp.seed = p → Crypto.plain.sha256 secret = sampleReport.secretHash →
            secret.length ≤ signatureMaxSize → p ≠ sampleBytes 1 → 0 ≤ entry.seqNum ∧ entry.seqNum + 1 < 2 ^ 63 →
            entry.Mergeable →
            (LedgerEvent.run .plain evs (sampleLedger (sampleEscrow (sampleRefund true)))).accounts p = some re →
            ∃ res, RedeemCmd.runCommand .hexText .plain sampleNetwork (Ledger.client .hexText .plain History.empty)
                ⟨kp, (sampleAudit (sampleRefund true)).holdingAccountAdress, secret⟩
                (LedgerEvent.run .plain evs (sampleLedger (sampleEscrow (sampleRefund true)))) =
              .ok res (((LedgerEvent.run .plain evs (sampleLedger (sampleEscrow (sampleRefund true)))).set p
                (some { re with balance := re.balance + ee.balance })).set (sampleBytes 1) none) :=
  auditContract_value_held rfl (by decide) rfl (by decide)
    (fun a x h => by
      simp only [sampleLedger] at h
      split at h <;> cases h
      decide)
    sampleAudit_run

/-! ## The swap completes -/

section Complete

variable {sk : StrKey} {c : Crypto} {b64 : Base64} {histA histB : History} {netA netB : String}

end Complete

/-- A ledger whose only account is the participant's funding account `sampleBytes 3`, the
recipient of the sample audit, at ledger 3. -/
def sampleParticipantLedger : Ledger :=
  ⟨fun a => if a = sampleBytes 3 then some ⟨10 ^ 9, 2 ^ 32, 1, 0, 0, 0, [], false, 0⟩ else none, sampleNetwork, 3, 0⟩

end StellarAtomicSwap
