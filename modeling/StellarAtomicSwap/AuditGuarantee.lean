/-
What the counterparty's `auditcontract` guarantees on the ledger. An accepted audit reads,
from horizon alone, an account whose thresholds are all 2 and whose signers of non-zero weight
are a recipient of weight 1, a secret hash of weight 1 and a refund transaction hash of weight
2 (`AuditContractCmd.runCommand_ledger`). Signatures that give such an account weight 2 have the
refund hash, or both the recipient's signature and the secret (`AccountEntry.unlocks_of_quorum`),
and those two give it weight 2 (`AccountEntry.two_le_signatureWeight`).

So over any run of ledger events in which no envelope acting on the audited account unlocks
it, the account stays as the audit read it but for its balance (`auditContract_guards`), and
at the end `redeem` by the recipient with the secret merges it into the recipient's account
(`auditContract_redeemable`).
-/
import StellarAtomicSwap.Escrow

namespace StellarAtomicSwap

open Stellar

section Audited

variable {sk : StrKey}

/-- A signer key whose horizon type is `k'`'s and whose address decodes, under `k'`'s version,
to `k'`'s payload, is `k'`. -/
theorem SignerKey.eq_of_address {k k' : SignerKey} (hv : keyTypeNames k.version = keyTypeNames k'.version)
    (hd : sk.decode k'.version (k.address sk) = .ok k'.payload) : k = k' := by
  have hv' := keyTypeNames_injective hv
  rw [← hv', SignerKey.address, StrKey.decode_encode, Except.ok.injEq] at hd
  cases k <;> cases k' <;> simp_all [SignerKey.version, SignerKey.payload]

/-- A signer that horizon lists with weight 1, the type of key `k'` and an address that
decodes to `k'`'s payload is the account's signer `k'` of weight 1. -/
theorem AccountEntry.mem_allSigners_of_horizon {entry : AccountEntry} {e : List UInt8} {y : HorizonSigner}
    (k' : SignerKey) (hy : y ∈ entry.horizonSigners sk e) (hw : y.weight = 1) (hv : y.type = keyTypeNames k'.version)
    (hd : sk.decode k'.version y.key = .ok k'.payload) : ⟨k', 1⟩ ∈ entry.allSigners e := by
  obtain ⟨⟨k, w⟩, hs, rfl⟩ := List.mem_map.mp hy
  obtain rfl := SignerKey.eq_of_address hv hd
  obtain rfl : w = 1 := by simpa using hw
  exact hs

/-- What an accepted audit of account `e` on the ledger found: `e`'s entry, with thresholds 2
and horizon's signers of non-zero weight the recipient, whose address decodes, the secret
signer and the refund signer, whose hash is the claimed refund transaction's. -/
theorem AuditContractCmd.runCommand_ledger {c : Crypto} {net : String} {hist : History} {L : Ledger}
    {cmd : AuditContractCmd} {r : AuditReport} {e : List UInt8}
    (hE : cmd.holdingAccountAdress = sk.encode .accountID e)
    (h : AuditContractCmd.runCommand sk c net (Ledger.client sk c hist) L cmd = .ok r) :
    ∃ entry p refundHash x t, L.accounts e = some entry ∧ sk.decode .accountID r.recipientAddress = .ok p ∧
      { cmd.refundTx with network := net }.hash c = .ok refundHash ∧
      entry.lowThreshold = 2 ∧ entry.medThreshold = 2 ∧ entry.highThreshold = 2 ∧
      ((entry.horizonSigners sk e).filter (·.weight ≠ 0)).Perm
        [⟨1, r.recipientAddress, keyTypeNames .accountID⟩, x, t] ∧
      IsSecretSigner sk x r.secretHash ∧ IsRefundSigner sk t refundHash := by
  obtain ⟨acc, balance, sc, rh, sh, dest, hacc, -, h1, h2, h3, hsc, hrh, hsh, hrec, hh, -, rfl⟩ :=
    AuditContractCmd.runCommand_eq_ok.mp h
  rw [hE] at hacc
  obtain ⟨entry, he, rfl⟩ : ∃ entry, L.accounts e = some entry ∧ acc = entry.toHorizon sk e := by
    cases he : L.accounts e with
    | none => simp only [Ledger.client, Ledger.accountDetail, StrKey.decode_encode, he] at hacc; cases hacc
    | some entry => exact ⟨entry, rfl, by simpa [Ledger.client, he] using hacc.symm⟩
  obtain ⟨rs, xs, ts, hp, hr, hx, ht⟩ := (SigningConditions.holds_nil sk).foldlM hsc
    fun y hy => by obtain ⟨s, -, rfl⟩ := List.mem_map.mp hy; exact sk.encode_ne_empty _ _
  simp only [SigningConditions.recipient?, if_neg hrec, Slot] at hr
  simp only [hsh, Slot] at hx
  simp only [hrh, Slot] at ht
  obtain ⟨r', rfl, hr'⟩ := hr
  obtain ⟨x, rfl, hx'⟩ := hx
  obtain ⟨t, rfl, ht'⟩ := ht
  subst hr'
  simp only [List.nil_append, List.singleton_append] at hp
  -- The recipient is one of the account's signers, so its address decodes.
  obtain ⟨s, -, hs⟩ := List.mem_map.mp (List.mem_of_mem_filter (hp.mem_iff.mpr (List.mem_cons_self _ _)))
  simp only [HorizonSigner.mk.injEq] at hs
  refine ⟨entry, s.key.payload, rh, x, t, he, ?_, hh, h3, h2, h1, hp, hx', ht'⟩
  rw [← hs.2.1, SignerKey.address, keyTypeNames_injective hs.2.2, StrKey.decode_encode]

/-- The contract value an accepted audit reports is the text of the account's balance. -/
theorem AuditContractCmd.runCommand_contractValue {c : Crypto} {net : String} {hist : History} {L : Ledger}
    {cmd : AuditContractCmd} {r : AuditReport} {e : List UInt8} {entry : AccountEntry}
    (hE : cmd.holdingAccountAdress = sk.encode .accountID e) (he : L.accounts e = some entry)
    (h : AuditContractCmd.runCommand sk c net (Ledger.client sk c hist) L cmd = .ok r) :
    r.contractValue = amountString entry.balance := by
  obtain ⟨acc, balance, -, -, -, -, hacc, hb, -, -, -, -, -, -, -, -, -, rfl⟩ := AuditContractCmd.runCommand_eq_ok.mp h
  rw [hE] at hacc
  simp only [Ledger.client, Ledger.accountDetail_encode sk he, Except.ok.injEq] at hacc
  subst hacc
  simpa using hb.symm

/-- **The audit's quorum on the ledger.** When the audit's quorum holds of horizon's list of
account `e`'s signers, signatures that give `e` weight 2 have the refund signer's hash, or
satisfy both the recipient's key and the secret signer's hash. -/
theorem AccountEntry.unlocks_of_quorum {c : Crypto} {entry : AccountEntry} {e p H h txHash : List UInt8}
    {sigs : List DecoratedSignature} {R : String} {x t : HorizonSigner}
    (hq : Quorum (entry.horizonSigners sk e) ⟨1, R, keyTypeNames .accountID⟩ x t)
    (hR : sk.decode .accountID R = .ok p) (hx : IsSecretSigner sk x H) (ht : IsRefundSigner sk t h)
    (hw : meetsThreshold (entry.signatureWeight c txHash sigs e) 2) :
    h = txHash ∨ (SignerKey.ed25519 p).satisfiedBy c txHash sigs ∧ (SignerKey.hashX H).satisfiedBy c txHash sigs := by
  let S := (entry.allSigners e).filter (·.key.satisfiedBy c txHash sigs)
  let toHorizon : XdrSigner → HorizonSigner := fun s => ⟨s.weight, s.key.address sk, keyTypeNames s.key.version⟩
  -- A satisfied signer that horizon lists as `y`, read back under `k'`'s version, is `k'`.
  have hsat : ∀ y ∈ S.map toHorizon, ∀ k' : SignerKey, y.type = keyTypeNames k'.version →
      sk.decode k'.version y.key = .ok k'.payload → k'.satisfiedBy c txHash sigs := by
    rintro y hy k' hv hd
    obtain ⟨s, hs, rfl⟩ := List.mem_map.mp hy
    rw [← SignerKey.eq_of_address hv hd]
    exact (List.mem_filter.mp hs).2
  have hsum : 2 ≤ ((S.map toHorizon).map (·.weight)).sum :=
    calc (2 : Int) ≤ (entry.signatureWeight c txHash sigs e : Int) := by
          simp only [meetsThreshold, Bool.and_eq_true, decide_eq_true_eq] at hw; exact_mod_cast hw.2
      _ = ((S.map toHorizon).map (·.weight)).sum := by
          simp [AccountEntry.signatureWeight, S, toHorizon, Nat.cast_list_sum, List.map_map, Function.comp_def]
  rcases hq (S.map toHorizon) ((List.filter_sublist _).map toHorizon) hsum with ht' | ⟨hr', hx'⟩
  · exact .inl (by simpa [SignerKey.satisfiedBy] using hsat t ht' (.preAuthTx h) ht.2.1 ht.2.2)
  · exact .inr ⟨hsat _ hr' (.ed25519 p) rfl hR, hsat x hx' (.hashX H) hx.2.1 hx.2.2⟩

/-- Signatures that satisfy both the recipient's key and the secret signer's hash give an
audited account weight 2. -/
theorem AccountEntry.two_le_signatureWeight {c : Crypto} {entry : AccountEntry} {e p H txHash : List UInt8}
    {sigs : List DecoratedSignature} {R : String} {x t : HorizonSigner}
    (hp : ((entry.horizonSigners sk e).filter (·.weight ≠ 0)).Perm [⟨1, R, keyTypeNames .accountID⟩, x, t])
    (hR : sk.decode .accountID R = .ok p) (hx : IsSecretSigner sk x H)
    (hsr : (SignerKey.ed25519 p).satisfiedBy c txHash sigs) (hsx : (SignerKey.hashX H).satisfiedBy c txHash sigs) :
    2 ≤ entry.signatureWeight c txHash sigs e := by
  have hr := AccountEntry.mem_allSigners_of_horizon (.ed25519 p)
    (List.mem_of_mem_filter (hp.mem_iff.mpr (List.mem_cons_self _ _))) rfl rfl hR
  have hxm := AccountEntry.mem_allSigners_of_horizon (.hashX H)
    (List.mem_of_mem_filter (hp.mem_iff.mpr (by simp))) hx.1 hx.2.1 hx.2.2
  obtain ⟨l, hl, hls⟩ : List.Subperm [(⟨.ed25519 p, 1⟩ : XdrSigner), ⟨.hashX H, 1⟩]
      ((entry.allSigners e).filter (·.key.satisfiedBy c txHash sigs)) :=
    List.subperm_of_subset (by simp) (by simp [List.subset_def, hr, hxm, hsr, hsx])
  calc 2 = ([(⟨.ed25519 p, 1⟩ : XdrSigner), ⟨.hashX H, 1⟩].map (·.weight)).sum := rfl
    _ = (l.map (·.weight)).sum := (hl.map _).sum_eq.symm
    _ ≤ entry.signatureWeight c txHash sigs e := (hls.map _).sum_le_sum fun _ _ => Nat.zero_le _

/-- **The audited account refuses what does not unlock it.** An account with thresholds 2
whose horizon signers of non-zero weight are the audit's recipient, secret signer and refund
signer refuses, at any balance, every transaction acting on it that does not unlock it for the
recipient, the secret hash and the refund hash. -/
theorem Ledger.audited_refuses {c : Crypto} {net : String} {entry : AccountEntry} {e p H h : List UInt8}
    {R : String} {x t : HorizonSigner} (hlow : entry.lowThreshold = 2) (hmed : entry.medThreshold = 2)
    (hhigh : entry.highThreshold = 2)
    (hp : ((entry.horizonSigners sk e).filter (·.weight ≠ 0)).Perm [⟨1, R, keyTypeNames .accountID⟩, x, t])
    (hR : sk.decode .accountID R = .ok p) (hx : IsSecretSigner sk x H) (ht : IsRefundSigner sk t h)
    (L : Ledger) (env : TransactionEnvelope) (hL : L.Keeps e entry) (hnet : L.networkPassphrase = net)
    (hacts : env.tx.actsOn e) (hu : ¬env.Unlocks c net p H h) : ∃ err, L.submit c env = (.error err, L) := by
  obtain ⟨bal, hL⟩ := hL
  exact Ledger.submit_refused_of_thresholds hL hlow hmed hhigh
    (fun hw => AccountEntry.unlocks_of_quorum (quorum_of_perm hp rfl hx.1 ht.1) hR hx ht (hnet ▸ hw))
    (XdrTransaction.actsOn_iff.mp hacts) hu

end Audited

/-- On an audited holding account that can be merged, `redeem` by the recipient with the secret,
no longer than a signature, merges the holding account into the recipient's account. -/
theorem RedeemCmd.runCommand_audited {sk : StrKey} {c : Crypto} {net : String} {hist : History} {L : Ledger}
    {e p H : List UInt8} {ee re : AccountEntry} {kp : KeyPairFull} {secret : List UInt8} {R : String}
    {x t : HorizonSigner} (he : L.accounts e = some ee) (he32 : e.length = 32) (hlow : ee.lowThreshold = 2)
    (hhigh : ee.highThreshold = 2)
    (hp : ((ee.horizonSigners sk e).filter (·.weight ≠ 0)).Perm [⟨1, R, keyTypeNames .accountID⟩, x, t])
    (hR : sk.decode .accountID R = .ok p) (hx : IsSecretSigner sk x H) (hr : L.accounts p = some re) (hpe : p ≠ e)
    (hkp : c.publicKey kp.seed = p) (hH : c.sha256 secret = H) (hs : secret.length ≤ signatureMaxSize)
    (hn : isBlank net = false) (hnet : L.networkPassphrase = net) (hseq : 0 ≤ ee.seqNum ∧ ee.seqNum + 1 < 2 ^ 63)
    (hm : ee.Mergeable) :
    RedeemCmd.runCommand sk c net (Ledger.client sk c hist) ⟨kp, sk.encode .accountID e, secret⟩ L =
      .ok ⟨hexString (c.transactionHash (redeemTransactionXdr e p (ee.seqNum + 1)) net)⟩
        ((L.set p (some { re with balance := re.balance + ee.balance })).set e none) := by
  subst hkp hH hnet
  have hrun := @RedeemCmd.runCommand_eq_submitTransaction sk c hist L.networkPassphrase L e ee kp secret he he32
    hseq hs hn
  dsimp only at hrun
  let xh := c.transactionHash (redeemTransactionXdr e (c.publicKey kp.seed) (ee.seqNum + 1)) L.networkPassphrase
  have hw : 2 ≤ ee.signatureWeight c xh [⟨(c.sha256 secret).drop 28, secret⟩, kp.signDecorated c xh] e :=
    AccountEntry.two_le_signatureWeight hp hR hx
      (by simp [SignerKey.satisfiedBy, KeyPairFull.signDecorated]) (by simp [SignerKey.satisfiedBy])
  have hmeets : ∀ t', t' = 2 →
      meetsThreshold (ee.signatureWeight c xh [⟨(c.sha256 secret).drop 28, secret⟩, kp.signDecorated c xh] e) t' := by
    rintro _ rfl
    simp only [meetsThreshold, Bool.and_eq_true, decide_eq_true_eq]
    omega
  rw [hrun, submitTransaction_ledger sk (Ledger.submit_merge he hr hpe hm rfl rfl rfl
    (by simp [redeemTransactionXdr]) (hmeets _ hlow) (hmeets _ hhigh))]

/-- **An accepted audit guards the holding account.** When `auditcontract` accepts account `e`
on the ledger, over any run of ledger events in which no envelope acting on `e` has the
claimed refund transaction's hash, or the signature of the reported recipient with a preimage
of the reported secret hash, `e` stays the entry the audit read but for its balance. -/
theorem auditContract_guards {sk : StrKey} {c : Crypto} {net : String} {hist : History} {L : Ledger}
    {cmd : AuditContractCmd} {r : AuditReport} {e : List UInt8}
    (hE : cmd.holdingAccountAdress = sk.encode .accountID e)
    (h : AuditContractCmd.runCommand sk c net (Ledger.client sk c hist) L cmd = .ok r) :
    ∃ entry p refundHash, L.accounts e = some entry ∧ sk.decode .accountID r.recipientAddress = .ok p ∧
      { cmd.refundTx with network := net }.hash c = .ok refundHash ∧
      ∀ evs : List LedgerEvent,
        (∀ env, .submit env ∈ evs → env.tx.actsOn e →
          ¬env.Unlocks c L.networkPassphrase p r.secretHash refundHash) →
        (LedgerEvent.run c evs L).Keeps e entry := by
  obtain ⟨entry, p, rh, x, t, he, hpR, hh, hlow, hmed, hhigh, hp, hx, ht⟩ :=
    AuditContractCmd.runCommand_ledger hE h
  exact ⟨entry, p, rh, he, hpR, hh, fun evs hevs =>
    (LedgerEvent.run_keeps (Ledger.audited_refuses hlow hmed hhigh hp hpR hx ht) evs L ⟨_, he⟩ rfl hevs).1⟩

theorem sampleAudit_guards :
    ∃ entry p refundHash, (sampleLedger (sampleEscrow (sampleRefund true))).accounts (sampleBytes 1) = some entry ∧
      StrKey.hexText.decode .accountID sampleReport.recipientAddress = .ok p ∧
      { (sampleAudit (sampleRefund true)).refundTx with network := sampleNetwork }.hash .plain = .ok refundHash ∧
      ∀ evs : List LedgerEvent,
        (∀ env, .submit env ∈ evs → env.tx.actsOn (sampleBytes 1) →
          ¬env.Unlocks .plain (sampleLedger (sampleEscrow (sampleRefund true))).networkPassphrase p
            sampleReport.secretHash refundHash) →
        (LedgerEvent.run .plain evs (sampleLedger (sampleEscrow (sampleRefund true)))).Keeps (sampleBytes 1) entry :=
  auditContract_guards rfl sampleAudit_run

section Immutable

variable {sk : StrKey} {c : Crypto} {net : String} {hist : History}

/-- On a ledger where the holding account has `AUTH_IMMUTABLE` set, `redeem` never ends
normally: the merge it submits cannot apply. -/
theorem RedeemCmd.runCommand_immutable {L : Ledger} {e : List UInt8} {kp : KeyPairFull} {secret : List UInt8}
    (he32 : e.length = 32) (hL : L.Immutable e) :
    ∃ err L', RedeemCmd.runCommand sk c net (Ledger.client sk c hist) ⟨kp, sk.encode .accountID e, secret⟩ L =
      .error err L' := by
  rcases @RedeemCmd.runCommand_ledger_cases sk c hist net L e kp secret he32 with ⟨err, h⟩ | ⟨seqNum, sigs, h⟩
  · exact ⟨err, L, h⟩
  rw [h]
  rcases hs : L.submit c ⟨redeemTransactionXdr e (c.publicKey kp.seed) seqNum, sigs⟩ with ⟨_ | _, L'⟩
  · exact ⟨_, _, (submitTransaction_ledger_error sk hs).choose_spec⟩
  · -- The merge applied: `e` is gone, yet it keeps `AUTH_IMMUTABLE` whatever is submitted.
    have hgone := (Ledger.submit_merge_eq_ok rfl hs).2
    have hkept := @Ledger.submit_immutable c L e ⟨redeemTransactionXdr e (c.publicKey kp.seed) seqNum, sigs⟩ hL
    simp [hs, Ledger.Immutable, hgone] at hkept

/-- **The audit accepts an escrow no one can merge.** `auditcontract` reads neither the flags
nor the sub-entries of the holding account: when it accepts account `e`, it accepts `e` just
the same, with the same report, once `AUTH_IMMUTABLE` is set on it. From there no run of ledger
events, whatever anyone submits, merges `e`, and `redeem` never ends normally. -/
theorem auditContract_accepts_immutable {L : Ledger} {cmd : AuditContractCmd} {r : AuditReport}
    {e : List UInt8} {entry : AccountEntry} (hE : cmd.holdingAccountAdress = sk.encode .accountID e)
    (he32 : e.length = 32) (he : L.accounts e = some entry)
    (h : AuditContractCmd.runCommand sk c net (Ledger.client sk c hist) L cmd = .ok r) :
    let L' := L.set e (some { entry with authImmutable := true })
    AuditContractCmd.runCommand sk c net (Ledger.client sk c hist) L' cmd = .ok r ∧
      ∀ evs : List LedgerEvent, ((LedgerEvent.run c evs L').accounts e).isSome ∧
        ∀ kp secret, ∃ err L'', RedeemCmd.runCommand sk c net (Ledger.client sk c hist)
          ⟨kp, cmd.holdingAccountAdress, secret⟩ (LedgerEvent.run c evs L') = .error err L'' := by
  have hL' : (L.set e (some { entry with authImmutable := true })).Immutable e := by
    simp [Ledger.Immutable]
  refine ⟨?_, fun evs => ⟨?_, fun kp secret => hE ▸ RedeemCmd.runCommand_immutable he32
    (LedgerEvent.run_immutable evs hL')⟩⟩
  · have hd := Ledger.accountDetail_set_flags sk he true entry.subEntries
    rw [← h]
    simp only [AuditContractCmd.runCommand, Ledger.client, hd]
  · exact (@LedgerEvent.run_immutable c e evs _ hL').isSome

end Immutable

theorem sampleAudit_accepts_immutable :
    AuditContractCmd.runCommand .hexText .plain sampleNetwork (Ledger.client .hexText .plain History.empty)
        ((sampleLedger (sampleEscrow (sampleRefund true))).set (sampleBytes 1)
          (some { sampleEscrow (sampleRefund true) with authImmutable := true }))
        (sampleAudit (sampleRefund true)) = .ok sampleReport ∧
      ∀ evs : List LedgerEvent, ((LedgerEvent.run .plain evs ((sampleLedger (sampleEscrow (sampleRefund true))).set
          (sampleBytes 1) (some { sampleEscrow (sampleRefund true) with authImmutable := true }))).accounts
            (sampleBytes 1)).isSome ∧
        ∀ kp secret, ∃ err L'', RedeemCmd.runCommand .hexText .plain sampleNetwork
          (Ledger.client .hexText .plain History.empty) ⟨kp, (sampleAudit (sampleRefund true)).holdingAccountAdress, secret⟩
          (LedgerEvent.run .plain evs ((sampleLedger (sampleEscrow (sampleRefund true))).set (sampleBytes 1)
            (some { sampleEscrow (sampleRefund true) with authImmutable := true }))) = .error err L'' :=
  auditContract_accepts_immutable rfl (by decide) (by simp [sampleLedger]) sampleAudit_run

end StellarAtomicSwap
