/-
The holding account on a ledger that others use too. A `LedgerEvent` is what anyone can do:
submit an envelope, or let time pass. `LedgerEvent.run_keeps` lifts a guard on one submission
to every run: when the ledger refuses every envelope acting on an account that does not meet
a condition, no run of envelopes that do not meet it changes the account but for its balance.
The tool's own refunds and redeems are such runs (`SpendEvent.run_refines`).

On the ledger that `createAtomicSwapHoldingAccount` leaves, over any run in which no envelope
acting on the holding account unlocks it, the holding account stays configured, and both ways
out still work at the end (`createAtomicSwapHoldingAccount_ways_out_stay_open`), as does its
audit (`createAtomicSwapHoldingAccount_audit_stays`).

The builder is not atomic: when the signer setup fails after the funding transaction, as it
does on a counterparty address that is no signer address, the amount stays in an unconfigured
holding account that only the holding key pair can spend (`initiate_participate_strand_funds`).
-/
import StellarAtomicSwap.Lifecycle

namespace StellarAtomicSwap

open Stellar

/-- What happens on the ledger besides the tool's commands: anyone submits an envelope, or
time passes before the next ledger closes. -/
inductive LedgerEvent
  | submit (env : TransactionEnvelope)
  | wait (seconds : Nat)

section Events

variable (c : Crypto)

/-- One event. -/
def LedgerEvent.step : LedgerEvent → Ledger → Ledger
  | .submit env, L => (L.submit c env).2
  | .wait seconds, L => { L with closeTime := L.closeTime + seconds }

/-- A run of events, each on the ledger the one before left. -/
def LedgerEvent.run : List LedgerEvent → Ledger → Ledger
  | [], L => L
  | ev :: evs, L => LedgerEvent.run evs (ev.step c L)

/-- Every envelope of a run meets `G` at the ledger it comes to. -/
def LedgerEvent.Guarded (G : Ledger → TransactionEnvelope → Prop) : List LedgerEvent → Ledger → Prop
  | [], _ => True
  | ev :: evs, L => (∀ env, ev = .submit env → G L env) ∧ LedgerEvent.Guarded G evs (ev.step c L)

end Events

/-- Whether a transaction acts on account `e`: as its source account, or as an operation's. -/
def XdrTransaction.actsOn (tx : XdrTransaction) (e : List UInt8) : Bool :=
  tx.sourceAccount == e || tx.operations.any fun op => op.sourceAccount.getD tx.sourceAccount == e

theorem XdrTransaction.actsOn_iff {tx : XdrTransaction} {e : List UInt8} :
    tx.actsOn e = true ↔
      tx.sourceAccount = e ∨ ∃ op ∈ tx.operations, op.sourceAccount.getD tx.sourceAccount = e := by
  simp [XdrTransaction.actsOn]

/-- Account `e` is entry `x` but for its balance. -/
def Ledger.Keeps (L : Ledger) (e : List UInt8) (x : AccountEntry) : Prop :=
  ∃ bal, L.accounts e = some { x with balance := bal }

section Run

variable {c : Crypto} {e : List UInt8} {x : AccountEntry} {net : String}

@[simp] theorem LedgerEvent.step_networkPassphrase (ev : LedgerEvent) (L : Ledger) :
    (ev.step c L).networkPassphrase = L.networkPassphrase := by
  cases ev <;> simp [LedgerEvent.step]

@[simp] theorem LedgerEvent.run_networkPassphrase (evs : List LedgerEvent) (L : Ledger) :
    (LedgerEvent.run c evs L).networkPassphrase = L.networkPassphrase := by
  induction evs generalizing L <;> simp [LedgerEvent.run, *]

theorem LedgerEvent.guarded_of_forall {P : TransactionEnvelope → Prop} :
    ∀ {evs : List LedgerEvent} {L : Ledger}, (∀ env, .submit env ∈ evs → P env) →
      LedgerEvent.Guarded c (fun _ => P) evs L
  | [], _, _ => trivial
  | _ :: _, _, h => ⟨fun env hev => h env (hev ▸ List.mem_cons_self _ _),
      LedgerEvent.guarded_of_forall fun env hm => h env (List.mem_cons_of_mem _ hm)⟩

/-- **Step lemma.** An event keeps account `e` as `x`, but for its balance, when the ledger
refuses the transactions acting on `e` that meet `G` at the ledger they come to, and the
event's envelope, if it acts on `e`, meets `G`. -/
theorem LedgerEvent.step_keeps {G : Ledger → TransactionEnvelope → Prop}
    (hguard : ∀ (L : Ledger) env, L.Keeps e x → L.networkPassphrase = net → env.tx.actsOn e →
      G L env → ∃ err, L.submit c env = (.error err, L))
    {L : Ledger} (hL : L.Keeps e x) (hnet : L.networkPassphrase = net) (ev : LedgerEvent)
    (hev : ∀ env, ev = .submit env → env.tx.actsOn e → G L env) : (ev.step c L).Keeps e x := by
  cases ev with
  | wait seconds => exact hL
  | submit env =>
    by_cases hacts : env.tx.actsOn e
    · obtain ⟨err, hs⟩ := hguard L env hL hnet hacts (hev env rfl hacts)
      rw [LedgerEvent.step, hs]
      exact hL
    · simp only [XdrTransaction.actsOn_iff, not_or, not_exists, not_and] at hacts
      exact Ledger.submit_keeps hacts.1 hacts.2 hL

/-- **Run lemma.** A property that every event keeps, when the event's envelope meets `G` at the
ledger it comes to, holds after every run whose envelopes do. -/
theorem LedgerEvent.run_invariant {I : Ledger → Prop} {G : Ledger → TransactionEnvelope → Prop}
    (hstep : ∀ (L : Ledger) (ev : LedgerEvent), I L → (∀ env, ev = .submit env → G L env) → I (ev.step c L)) :
    ∀ (evs : List LedgerEvent) (L : Ledger), I L → LedgerEvent.Guarded c G evs L → I (LedgerEvent.run c evs L)
  | [], _, hL, _ => hL
  | ev :: evs, L, hL, ⟨hev, hevs⟩ => LedgerEvent.run_invariant hstep evs _ (hstep L ev hL hev) hevs

/-- **Run lemma for an account.** Over any run whose envelopes acting on `e` meet `G` at the
ledger they come to, account `e` stays `x` but for its balance, when the ledger refuses those
envelopes while it is. -/
theorem LedgerEvent.run_keeps_guarded {G : Ledger → TransactionEnvelope → Prop}
    (hguard : ∀ (L : Ledger) env, L.Keeps e x → L.networkPassphrase = net → env.tx.actsOn e →
      G L env → ∃ err, L.submit c env = (.error err, L))
    (evs : List LedgerEvent) (L : Ledger) (hL : L.Keeps e x) (hnet : L.networkPassphrase = net)
    (hevs : LedgerEvent.Guarded c (fun L env => env.tx.actsOn e → G L env) evs L) :
    (LedgerEvent.run c evs L).Keeps e x :=
  (@LedgerEvent.run_invariant c (fun L => L.Keeps e x ∧ L.networkPassphrase = net) _
    (fun L ev ⟨hL, hnet⟩ hev => ⟨LedgerEvent.step_keeps hguard hL hnet ev hev,
      (LedgerEvent.step_networkPassphrase ev L).trans hnet⟩) evs L ⟨hL, hnet⟩ hevs).1

/-- **Run lemma**, for a condition on envelopes alone: over any run in which no envelope acting
on `e` meets `U`, account `e` stays `x` but for its balance, when every envelope acting on `e`
that does not meet `U` is refused while it is. -/
theorem LedgerEvent.run_keeps {U : TransactionEnvelope → Prop}
    (hguard : ∀ (L : Ledger) env, L.Keeps e x → L.networkPassphrase = net → env.tx.actsOn e →
      ¬U env → ∃ err, L.submit c env = (.error err, L))
    (evs : List LedgerEvent) (L : Ledger) (hL : L.Keeps e x) (hnet : L.networkPassphrase = net)
    (hevs : ∀ env, .submit env ∈ evs → env.tx.actsOn e → ¬U env) :
    (LedgerEvent.run c evs L).Keeps e x ∧ (LedgerEvent.run c evs L).networkPassphrase = net :=
  ⟨LedgerEvent.run_keeps_guarded hguard evs L hL hnet (LedgerEvent.guarded_of_forall hevs),
    (LedgerEvent.run_networkPassphrase evs L).trans hnet⟩

/-- **Run lemma.** Whatever is submitted, an account with `AUTH_IMMUTABLE` set is never merged. -/
theorem LedgerEvent.run_immutable (evs : List LedgerEvent) {L : Ledger} (hL : L.Immutable e) :
    (LedgerEvent.run c evs L).Immutable e :=
  @LedgerEvent.run_invariant c (fun L => L.Immutable e) (fun _ _ => True)
    (fun L ev hL _ => by
      cases ev with
      | submit env => exact Ledger.submit_immutable env hL
      | wait _ => exact hL)
    evs L hL (LedgerEvent.guarded_of_forall fun _ _ => trivial)

/-- **The first change.** A run from a ledger where `P` holds to one where it does not has a
first event after which `P` fails. -/
theorem LedgerEvent.run_first_change (P : Ledger → Prop) :
    ∀ (evs : List LedgerEvent) (L : Ledger), P L → ¬P (LedgerEvent.run c evs L) →
      ∃ pre ev post, evs = pre ++ ev :: post ∧ P (LedgerEvent.run c pre L) ∧
        ¬P (ev.step c (LedgerEvent.run c pre L))
  | [], _, hL, hend => absurd hL hend
  | ev :: evs, L, hL, hend => by
    by_cases hs : P (ev.step c L)
    · obtain ⟨pre, ev', post, rfl, hpre, hev'⟩ := LedgerEvent.run_first_change P evs _ hs hend
      exact ⟨ev :: pre, ev', post, rfl, hpre, hev'⟩
    · exact ⟨[], ev, evs, rfl, hL, hs⟩

end Run

/-! ## The tool's spends are ledger events -/

/-- The envelopes a spend event can submit: `refund` the refund envelope, `redeem` with key
pair `kp` a merge of the holding account `e` into `kp`'s account. -/
def SpendEvent.Submits (c : Crypto) (refundEnvelope : TransactionEnvelope) (e : List UInt8) :
    SpendEvent → TransactionEnvelope → Prop
  | .refund, env => env = refundEnvelope
  | .redeem kp _, env => ∃ seqNum, env.tx = redeemTransactionXdr e (c.publicKey kp.seed) seqNum
  | .wait _, _ => False

section Refines

variable {sk : StrKey} {c : Crypto} {net : String} {hist : History} {refundEnvelope : TransactionEnvelope}
  {e : List UInt8}

theorem LedgerEvent.run_append (evs evs' : List LedgerEvent) (L : Ledger) :
    LedgerEvent.run c (evs ++ evs') L = LedgerEvent.run c evs' (LedgerEvent.run c evs L) := by
  induction evs generalizing L with
  | nil => rfl
  | cons ev evs ih => exact ih _

/-- **Step lemma.** Each spend event changes the ledger as a run of at most one ledger event
does, submitting only what it can submit. -/
theorem SpendEvent.step_refines (he32 : e.length = 32) (ev : SpendEvent) (L : Ledger) :
    ∃ levs : List LedgerEvent,
      (ev.step sk c net hist refundEnvelope (sk.encode .accountID e) L).1 = LedgerEvent.run c levs L ∧
      ∀ env, .submit env ∈ levs → ev.Submits c refundEnvelope e env := by
  cases ev with
  | refund =>
    refine ⟨[.submit refundEnvelope], ?_, by simp [SpendEvent.Submits]⟩
    rw [SpendEvent.step, RefundCmd.runCommand_transactionFromXDR, settle_submitTransaction_ledger]
    rfl
  | redeem kp secret =>
    rcases @RedeemCmd.runCommand_ledger_cases sk c hist net L e kp secret he32 with ⟨err, h⟩ | ⟨seqNum, sigs, h⟩
    · exact ⟨[], by rw [SpendEvent.step, h]; rfl, by simp⟩
    · refine ⟨[.submit ⟨redeemTransactionXdr e (c.publicKey kp.seed) seqNum, sigs⟩], ?_, by simp [SpendEvent.Submits]⟩
      rw [SpendEvent.step, h, settle_submitTransaction_ledger]
      rfl
  | wait seconds => exact ⟨[.wait seconds], rfl, by simp⟩

/-- **The tool's spends are ledger events.** Any run of refunds, redeems and waits changes the
ledger as a run of ledger events does, each submission in it the refund envelope or a merge
of the holding account by one of the run's redeems. -/
theorem SpendEvent.run_refines (he32 : e.length = 32) (evs : List SpendEvent) (L : Ledger) :
    ∃ levs : List LedgerEvent,
      (SpendEvent.run sk c net hist refundEnvelope (sk.encode .accountID e) evs L).1 = LedgerEvent.run c levs L ∧
      ∀ env, .submit env ∈ levs → ∃ ev ∈ evs, ev.Submits c refundEnvelope e env := by
  induction evs generalizing L with
  | nil => exact ⟨[], rfl, by simp⟩
  | cons ev evs ih =>
    obtain ⟨l₁, h₁, hs₁⟩ := SpendEvent.step_refines he32 ev L
    obtain ⟨l₂, h₂, hs₂⟩ := ih (ev.step sk c net hist refundEnvelope (sk.encode .accountID e) L).1
    refine ⟨l₁ ++ l₂, by rw [LedgerEvent.run_append, ← h₁, ← h₂]; rfl, fun env hm => ?_⟩
    rcases List.mem_append.mp hm with h | h
    · exact ⟨ev, List.mem_cons_self _ _, hs₁ env h⟩
    · obtain ⟨ev', hev', hs⟩ := hs₂ env h
      exact ⟨ev', List.mem_cons_of_mem _ hev', hs⟩

end Refines

theorem sampleSpends_refine :
    ∃ levs : List LedgerEvent,
      (SpendEvent.run .hexText .plain sampleNetwork History.empty (sampleRefund true)
        (StrKey.hexText.encode .accountID (sampleBytes 1)) [.wait 100, .refund]
        (sampleLedger (sampleEscrow (sampleRefund true)))).1 =
        LedgerEvent.run .plain levs (sampleLedger (sampleEscrow (sampleRefund true))) ∧
      ∀ env, .submit env ∈ levs →
        ∃ ev ∈ [SpendEvent.wait 100, .refund], ev.Submits .plain (sampleRefund true) (sampleBytes 1) env :=
  SpendEvent.run_refines (by decide) _ _

/-! ## The configured holding account -/

/-- An envelope unlocks the holding account configured for the recipient `r`, the secret hash
`H` and the pre-authorized hash `h`, on network `net`: its hash is `h`, or `r` signed it with a
preimage of `H` among its signatures. -/
def TransactionEnvelope.Unlocks (c : Crypto) (net : String) (r H h : List UInt8)
    (env : TransactionEnvelope) : Prop :=
  h = c.transactionHash env.tx net ∨
    (SignerKey.ed25519 r).satisfiedBy c (c.transactionHash env.tx net) env.signatures ∧
    (SignerKey.hashX H).satisfiedBy c (c.transactionHash env.tx net) env.signatures

instance (c : Crypto) (net : String) (r H h : List UInt8) (env : TransactionEnvelope) :
    Decidable (env.Unlocks c net r H h) :=
  inferInstanceAs (Decidable (_ ∨ _ ∧ _))

section Configured

variable {c : Crypto} {e r H h : List UInt8} {net : String}

/-- The configured holding account refuses every transaction acting on it that does not
unlock it, whatever its balance. -/
theorem Ledger.configured_refuses {ee : AccountEntry} (L : Ledger) (env : TransactionEnvelope)
    (hL : L.Keeps e (ee.configured r H h)) (hnet : L.networkPassphrase = net) (hacts : env.tx.actsOn e)
    (hu : ¬env.Unlocks c net r H h) : ∃ err, L.submit c env = (.error err, L) := by
  obtain ⟨bal, he⟩ := hL
  have he' : L.accounts e = some (({ ee with balance := bal } : AccountEntry).configured r H h) := he
  exact Ledger.submit_configured_refused he' (XdrTransaction.actsOn_iff.mp hacts) (hnet ▸ hu)

/-- **Run lemma for the configured holding account.** Over any run in which no envelope acting
on the configured holding account unlocks it, it stays configured, but for its balance. -/
theorem LedgerEvent.run_configured {ee : AccountEntry} {L : Ledger} (hE : L.accounts e = some (ee.configured r H h))
    (hnet : L.networkPassphrase = net) (evs : List LedgerEvent)
    (hevs : ∀ env, .submit env ∈ evs → env.tx.actsOn e → ¬env.Unlocks c net r H h) :
    ∃ bal, (LedgerEvent.run c evs L).accounts e = some (({ ee with balance := bal } : AccountEntry).configured r H h) ∧
      (LedgerEvent.run c evs L).networkPassphrase = net := by
  obtain ⟨⟨bal, hL⟩, hnet'⟩ := LedgerEvent.run_keeps (fun L env => Ledger.configured_refuses L env) evs L
    ⟨ee.balance, hE⟩ hnet hevs
  exact ⟨bal, hL, hnet'⟩

/-- **Step lemma for a change.** An event after which the configured holding account is not as
it was, but for its balance, is an envelope acting on it that the ledger accepted to apply, and
the envelope unlocks the account. -/
theorem LedgerEvent.step_configured_changed {ee : AccountEntry} {L : Ledger}
    (hL : L.Keeps e (ee.configured r H h)) (hnet : L.networkPassphrase = net) {ev : LedgerEvent}
    (hev : ¬(ev.step c L).Keeps e (ee.configured r H h)) :
    ∃ env, ev = .submit env ∧ L.checkValid c env = .ok () ∧ env.tx.actsOn e ∧ env.Unlocks c net r H h := by
  cases ev with
  | wait seconds => exact absurd hL hev
  | submit env =>
    -- A submission the ledger refuses leaves the account as it was.
    have hrefused : ∀ err, L.submit c env ≠ (.error err, L) := fun err hs =>
      hev (by rw [LedgerEvent.step, hs]; exact hL)
    have hacts : env.tx.actsOn e := by
      by_contra hacts
      simp only [XdrTransaction.actsOn_iff, not_or, not_exists, not_and] at hacts
      exact hev (Ledger.submit_keeps hacts.1 hacts.2 hL)
    refine ⟨env, rfl, ?_, hacts, ?_⟩
    · by_contra hv
      obtain ⟨err, hs⟩ := Ledger.submit_of_checkValid_ne_ok hv
      exact hrefused err hs
    · by_contra hu
      obtain ⟨err, hs⟩ := Ledger.configured_refuses L env hL hnet hacts hu
      exact hrefused err hs

/-- **Run lemma for a change.** Over any run after which the configured holding account is not
as it was, but for its balance, the first event that changed it is an envelope acting on it
that the ledger accepted to apply, and the envelope unlocks the account. -/
theorem LedgerEvent.run_configured_changed {ee : AccountEntry} {L : Ledger}
    (hE : L.accounts e = some (ee.configured r H h)) (hnet : L.networkPassphrase = net) (evs : List LedgerEvent)
    (hend : ¬(LedgerEvent.run c evs L).Keeps e (ee.configured r H h)) :
    ∃ pre env post, evs = pre ++ .submit env :: post ∧
      (LedgerEvent.run c pre L).Keeps e (ee.configured r H h) ∧
      (LedgerEvent.run c pre L).checkValid c env = .ok () ∧ env.tx.actsOn e ∧ env.Unlocks c net r H h := by
  obtain ⟨pre, ev, post, rfl, hpre, hev⟩ := LedgerEvent.run_first_change (·.Keeps e (ee.configured r H h)) evs L ⟨ee.balance, hE⟩ hend
  obtain ⟨env, rfl, hv, hacts, hu⟩ :=
    LedgerEvent.step_configured_changed hpre ((LedgerEvent.run_networkPassphrase pre L).trans hnet) hev
  exact ⟨pre, env, post, rfl, hpre, hv, hacts, hu⟩

end Configured

/-! ## The ways out stay open -/

section Open

variable {sk : StrKey} {c : Crypto} {hist : History} {net : String}

/-- **The ways out stay open.** From a ledger where `createAtomicSwapHoldingAccount` ends
normally, over any run of ledger events in which no envelope acting on the holding account
unlocks it, the holding account stays configured, at the sequence number after its starting
one. At the end, the refund merges it into the funding account once the ledger closes at or
after the lock time, and `redeem` by the recipient with the secret merges it into the
recipient's account. -/
theorem createAtomicSwapHoldingAccount_ways_out_stay_open {L : Ledger} {fkp hkp : KeyPairFull}
    {fe : AccountEntry} {xlmAmount : String} {b locktime : Int} {r H : List UInt8}
    (hf : L.accounts (c.publicKey fkp.seed) = some fe) (he : L.accounts (c.publicKey hkp.seed) = none)
    (hnet : L.networkPassphrase = net) (hn : isBlank net = false)
    (hseq : 0 ≤ fe.seqNum ∧ fe.seqNum + 1 < 2 ^ 63) (hw : 0 < fe.masterWeight)
    (hlow : fe.lowThreshold ≤ fe.masterWeight) (hmed : fe.medThreshold ≤ fe.masterWeight)
    (hamt : amountParse xlmAmount = .ok b) (hb : 0 < b) (hbal : b ≤ fe.balance)
    (hledger : startingSequenceNumber L.ledgerSeq + 2 < 2 ^ 63)
    (hr32 : r.length = 32) (hH32 : H.length = 32) (hre : r ≠ c.publicKey hkp.seed) (hT : 0 ≤ locktime) :
    let e := c.publicKey hkp.seed
    let f := c.publicKey fkp.seed
    ∃ refundTx L' env,
      createAtomicSwapHoldingAccount sk c net (Ledger.client sk c hist) fkp hkp (sk.encode .accountID r)
        xlmAmount H locktime L = .ok refundTx L' ∧ refundTx.base64 = .ok env ∧
      ∀ evs : List LedgerEvent,
        (∀ env', .submit env' ∈ evs → env'.tx.actsOn e → ¬env'.Unlocks c net r H (c.transactionHash env.tx net)) →
        let L'' := LedgerEvent.run c evs L'
        ∃ ee : AccountEntry, ee.seqNum = startingSequenceNumber L.ledgerSeq + 1 ∧
          L''.accounts e = some (ee.configured r H (c.transactionHash env.tx net)) ∧
          (∀ (t : Nat) fe', L''.accounts f = some fe' → locktime ≤ L''.closeTime + t →
            SpendEvent.run sk c net hist env (sk.encode .accountID e) [.wait t, .refund] L'' =
              ((({ L'' with closeTime := L''.closeTime + t } : Ledger).set f
                (some { fe' with balance := fe'.balance + ee.balance })).set e none, [false, true])) ∧
          ∀ kp secret re, c.publicKey kp.seed = r → c.sha256 secret = H → secret.length ≤ signatureMaxSize →
            L''.accounts r = some re →
            SpendEvent.run sk c net hist env (sk.encode .accountID e) [.redeem kp secret] L'' =
              ((L''.set r (some { re with balance := re.balance + ee.balance })).set e none, [true]) := by
  have hrun := @createAtomicSwapHoldingAccount_run sk c hist net L fkp hkp fe xlmAmount b locktime r H
    hf he hnet hn hseq hw hlow hmed hamt hb hbal hledger hr32 hH32 hre hT
  dsimp only at hrun ⊢
  have hfe : c.publicKey fkp.seed ≠ c.publicKey hkp.seed := by rintro h; simp [h, he] at hf
  have hs0 := startingSequenceNumber_nonneg L.ledgerSeq
  let s := startingSequenceNumber L.ledgerSeq
  let ee : AccountEntry := ⟨b, s + 1, 1, 0, 0, 0, [], false, 0⟩
  let h := c.transactionHash (refundTransactionXdr (c.publicKey hkp.seed) (c.publicKey fkp.seed) (s + 2) locktime) net
  let L' := (L.set (c.publicKey fkp.seed) (some { fe with seqNum := fe.seqNum + 1, balance := fe.balance - b })).set
    (c.publicKey hkp.seed) (some (ee.configured r H h))
  refine ⟨_, L', _, hrun, rfl, fun evs hevs => ?_⟩
  obtain ⟨bal, hE, hnet'⟩ := LedgerEvent.run_configured (Ledger.set_accounts_self _ _ _ :
    L'.accounts (c.publicKey hkp.seed) = some (ee.configured r H h)) (by simp [L', hnet]) evs hevs
  refine ⟨{ ee with balance := bal }, rfl, hE, fun t fe' hf' ht => ?_, fun kp secret re hkp hH hs hr => ?_⟩
  · have hE' : (LedgerEvent.run c evs L').accounts (c.publicKey hkp.seed) = some (({ ee with balance := bal } :
        AccountEntry).configured r H (c.transactionHash (refundTransactionXdr (c.publicKey hkp.seed)
          (c.publicKey fkp.seed) (s + 2) locktime) (LedgerEvent.run c evs L').networkPassphrase)) := by
      rw [hnet']; exact hE
    exact SpendEvent.run_wait_refund hE' hf' hfe ⟨rfl, rfl⟩ ht (by simp only [ee]; ring)
  · exact SpendEvent.run_redeem hE (c.publicKey_length _) (hkp ▸ hr) (hkp ▸ hre) ⟨rfl, rfl⟩ hkp hH hs hn hnet'
      ⟨by simp only [ee]; omega, by simp only [ee]; omega⟩

/-- **The audit stays valid.** From a ledger where `createAtomicSwapHoldingAccount` ends
normally, over any run of ledger events in which no envelope acting on the holding account
unlocks it, the audit of the holding account with the refund transaction returned, read back
from its base64 text, still reports the counterparty, the secret hash, the funding account and
the lock time, and as the contract's value the balance the holding account has at the end. -/
theorem createAtomicSwapHoldingAccount_audit_stays {L : Ledger} {fkp hkp : KeyPairFull}
    {fe : AccountEntry} {xlmAmount : String} {b locktime : Int} {r H : List UInt8}
    (hf : L.accounts (c.publicKey fkp.seed) = some fe) (he : L.accounts (c.publicKey hkp.seed) = none)
    (hnet : L.networkPassphrase = net) (hn : isBlank net = false)
    (hseq : 0 ≤ fe.seqNum ∧ fe.seqNum + 1 < 2 ^ 63) (hw : 0 < fe.masterWeight)
    (hlow : fe.lowThreshold ≤ fe.masterWeight) (hmed : fe.medThreshold ≤ fe.masterWeight)
    (hamt : amountParse xlmAmount = .ok b) (hb : 0 < b) (hbal : b ≤ fe.balance)
    (hledger : startingSequenceNumber L.ledgerSeq + 2 < 2 ^ 63)
    (hr32 : r.length = 32) (hH32 : H.length = 32) (hre : r ≠ c.publicKey hkp.seed)
    (hT : 0 ≤ locktime ∧ locktime < 2 ^ 63) :
    let e := c.publicKey hkp.seed
    let f := c.publicKey fkp.seed
    ∃ refundTx L' env,
      createAtomicSwapHoldingAccount sk c net (Ledger.client sk c hist) fkp hkp (sk.encode .accountID r)
        xlmAmount H locktime L = .ok refundTx L' ∧ refundTx.base64 = .ok env ∧
      ∀ evs : List LedgerEvent,
        (∀ env', .submit env' ∈ evs → env'.tx.actsOn e → ¬env'.Unlocks c net r H (c.transactionHash env.tx net)) →
        ∃ ee, (LedgerEvent.run c evs L').accounts e = some ee ∧
          AuditContractCmd.runCommand sk c net (Ledger.client sk c hist) (LedgerEvent.run c evs L')
            ⟨transactionFromXDR sk env, sk.encode .accountID e⟩ =
          .ok ⟨sk.encode .accountID e, amountString ee.balance, sk.encode .accountID r, sk.encode .accountID f, H,
            locktime⟩ := by
  have hrun := @createAtomicSwapHoldingAccount_run sk c hist net L fkp hkp fe xlmAmount b locktime r H
    hf he hnet hn hseq hw hlow hmed hamt hb hbal hledger hr32 hH32 hre hT.1
  dsimp only at hrun ⊢
  let ee : AccountEntry := ⟨b, startingSequenceNumber L.ledgerSeq + 1, 1, 0, 0, 0, [], false, 0⟩
  let h := c.transactionHash (refundTransactionXdr (c.publicKey hkp.seed) (c.publicKey fkp.seed)
    (startingSequenceNumber L.ledgerSeq + 2) locktime) net
  let L' := (L.set (c.publicKey fkp.seed) (some { fe with seqNum := fe.seqNum + 1, balance := fe.balance - b })).set
    (c.publicKey hkp.seed) (some (ee.configured r H h))
  refine ⟨_, L', _, hrun, rfl, fun evs hevs => ?_⟩
  obtain ⟨bal, hE, -⟩ := LedgerEvent.run_configured (Ledger.set_accounts_self _ _ _ :
    L'.accounts (c.publicKey hkp.seed) = some (ee.configured r H h)) (by simp [L', hnet]) evs hevs
  exact ⟨_, hE, @audit_configured sk c hist net _ (c.publicKey hkp.seed) (c.publicKey fkp.seed) r H
    { ee with balance := bal } (startingSequenceNumber L.ledgerSeq + 2) locktime hE hn hT⟩

end Open

theorem createAtomicSwapHoldingAccount_ways_out_stay_open_sample :
    ∃ refundTx L' env,
      createAtomicSwapHoldingAccount .hexText .plain sampleNetwork (Ledger.client .hexText .plain History.empty)
        ⟨sampleBytes 2⟩ ⟨sampleBytes 1⟩ (StrKey.hexText.encode .accountID (sampleBytes 3)) "10" (sampleBytes 4) 100
        sampleFundingLedger = .ok refundTx L' ∧ refundTx.base64 = .ok env ∧
      ∀ evs : List LedgerEvent,
        (∀ env', .submit env' ∈ evs → env'.tx.actsOn (Crypto.plain.publicKey (sampleBytes 1)) →
          ¬env'.Unlocks .plain sampleNetwork (sampleBytes 3) (sampleBytes 4)
            (Crypto.plain.transactionHash env.tx sampleNetwork)) →
        ∃ ee : AccountEntry, ee.seqNum = startingSequenceNumber 3 + 1 ∧
          (LedgerEvent.run .plain evs L').accounts (Crypto.plain.publicKey (sampleBytes 1)) =
            some (ee.configured (sampleBytes 3) (sampleBytes 4) (Crypto.plain.transactionHash env.tx sampleNetwork)) ∧
          (∀ (t : Nat) fe', (LedgerEvent.run .plain evs L').accounts (Crypto.plain.publicKey (sampleBytes 2)) = some fe' →
            (100 : Int) ≤ (LedgerEvent.run .plain evs L').closeTime + t →
            SpendEvent.run .hexText .plain sampleNetwork History.empty env
                (StrKey.hexText.encode .accountID (Crypto.plain.publicKey (sampleBytes 1))) [.wait t, .refund]
                (LedgerEvent.run .plain evs L') =
              ((({ LedgerEvent.run .plain evs L' with
                    closeTime := (LedgerEvent.run .plain evs L').closeTime + t } : Ledger).set
                  (Crypto.plain.publicKey (sampleBytes 2)) (some { fe' with balance := fe'.balance + ee.balance })).set
                (Crypto.plain.publicKey (sampleBytes 1)) none, [false, true])) ∧
          ∀ kp secret re, Crypto.plain.publicKey kp.seed = sampleBytes 3 → Crypto.plain.sha256 secret = sampleBytes 4 →
            secret.length ≤ signatureMaxSize → (LedgerEvent.run .plain evs L').accounts (sampleBytes 3) = some re →
            SpendEvent.run .hexText .plain sampleNetwork History.empty env
                (StrKey.hexText.encode .accountID (Crypto.plain.publicKey (sampleBytes 1))) [.redeem kp secret]
                (LedgerEvent.run .plain evs L') =
              (((LedgerEvent.run .plain evs L').set (sampleBytes 3) (some { re with balance := re.balance + ee.balance })).set
                (Crypto.plain.publicKey (sampleBytes 1)) none, [true]) :=
  createAtomicSwapHoldingAccount_ways_out_stay_open
    (show sampleFundingLedger.accounts (Crypto.plain.publicKey (sampleBytes 2)) =
      some ⟨10 ^ 9, 2 ^ 32, 1, 0, 0, 0, [], false, 0⟩ by decide) (by decide) rfl (by decide) (by decide) (by decide)
    (by decide) (by decide) rfl (by decide) (by decide) (by decide) (by decide) (by decide) (by decide)
    (by decide)

theorem createAtomicSwapHoldingAccount_audit_stays_sample :
    ∃ refundTx L' env,
      createAtomicSwapHoldingAccount .hexText .plain sampleNetwork (Ledger.client .hexText .plain History.empty)
        ⟨sampleBytes 2⟩ ⟨sampleBytes 1⟩ (StrKey.hexText.encode .accountID (sampleBytes 3)) "10" (sampleBytes 4) 100
        sampleFundingLedger = .ok refundTx L' ∧ refundTx.base64 = .ok env ∧
      ∀ evs : List LedgerEvent,
        (∀ env', .submit env' ∈ evs → env'.tx.actsOn (Crypto.plain.publicKey (sampleBytes 1)) →
          ¬env'.Unlocks .plain sampleNetwork (sampleBytes 3) (sampleBytes 4)
            (Crypto.plain.transactionHash env.tx sampleNetwork)) →
        ∃ ee, (LedgerEvent.run .plain evs L').accounts (Crypto.plain.publicKey (sampleBytes 1)) = some ee ∧
          AuditContractCmd.runCommand .hexText .plain sampleNetwork (Ledger.client .hexText .plain History.empty)
            (LedgerEvent.run .plain evs L')
            ⟨transactionFromXDR .hexText env, StrKey.hexText.encode .accountID (Crypto.plain.publicKey (sampleBytes 1))⟩ =
          .ok ⟨StrKey.hexText.encode .accountID (Crypto.plain.publicKey (sampleBytes 1)), amountString ee.balance,
            StrKey.hexText.encode .accountID (sampleBytes 3),
            StrKey.hexText.encode .accountID (Crypto.plain.publicKey (sampleBytes 2)), sampleBytes 4, 100⟩ :=
  createAtomicSwapHoldingAccount_audit_stays
    (show sampleFundingLedger.accounts (Crypto.plain.publicKey (sampleBytes 2)) =
      some ⟨10 ^ 9, 2 ^ 32, 1, 0, 0, 0, [], false, 0⟩ by decide) (by decide) rfl (by decide) (by decide) (by decide)
    (by decide) (by decide) rfl (by decide) (by decide) (by decide) (by decide) (by decide) (by decide)
    (by decide)

/-! ## When the signer setup fails -/

section Stranded

variable {sk : StrKey} {c : Crypto} {hist : History} {net : String}

/-- A seed's text, which `keypair.Parse` accepts as an address, is no signer address. -/
theorem signerKeyFromAddress_seed (x : List UInt8) :
    signerKeyFromAddress sk (sk.encode .seed x) = .error "invalid version byte" := by
  simp [signerKeyFromAddress]

/-- An account whose only signer is its master key meets a threshold only with a signature
of the master key. -/
theorem AccountEntry.master_of_meetsThreshold {ee : AccountEntry} {txHash a : List UInt8}
    {sigs : List DecoratedSignature} {t : Nat} (hs : ee.signers = [])
    (h : meetsThreshold (ee.signatureWeight c txHash sigs a) t) : (SignerKey.ed25519 a).satisfiedBy c txHash sigs := by
  by_contra hn
  simp [meetsThreshold, AccountEntry.signatureWeight, AccountEntry.allSigners, hs, hn] at h

/-- `setHoldingAccountSigningOptions` with a counterparty address that txnbuild cannot read as
a signer fails before it submits anything. -/
theorem setHoldingAccountSigningOptions_of_signer_error {L : Ledger} {kp : KeyPairFull} {ee : AccountEntry}
    {counterPartyAddress msg network : String} {H h : List UInt8}
    (he : L.accounts (c.publicKey kp.seed) = some ee)
    (hcp : signerKeyFromAddress sk counterPartyAddress = .error msg) :
    ∃ err, setHoldingAccountSigningOptions sk c net (Ledger.client sk c hist) kp counterPartyAddress H h network L =
      .error err L := by
  obtain ⟨m, hm⟩ : ∃ m, (createHoldingAccountSigningTransaction sk (ee.toHorizon sk (c.publicKey kp.seed))
      counterPartyAddress H h net).buildSignEncode c sk kp = .error m := by
    simp only [Transaction.buildSignEncode, Transaction.build, createHoldingAccountSigningTransaction, List.mapM_cons,
      Operation.buildXDR, hcp, AccountEntry.toHorizon, HorizonAccount.toAccount,
      accountIdFromAddress_encode (c.publicKey_length _)]
    cases (⟨sk.encode .accountID (c.publicKey kp.seed), ee.seqNum⟩ : Account).incrementSequenceNumber <;>
      exact ⟨_, rfl⟩
  simp only [setHoldingAccountSigningOptions, KeyPairFull.address]
  rw [EStateM.bind_of_ok (EStateM.adaptExcept_of_ok (getAccount_ledger sk he))]
  simp only [hm, mapError_error]
  exact ⟨_, EStateM.bind_of_error (liftExcept_error _ _)⟩

/-- The builder with a counterparty address that txnbuild cannot read as a signer fails once
the holding account is funded, and leaves it funded. -/
theorem createAtomicSwapHoldingAccount_of_signer_error {L : Ledger} {fkp hkp : KeyPairFull} {fe : AccountEntry}
    {counterPartyAddress xlmAmount msg : String} {b locktime : Int} {H : List UInt8}
    (hf : L.accounts (c.publicKey fkp.seed) = some fe) (he : L.accounts (c.publicKey hkp.seed) = none)
    (hnet : L.networkPassphrase = net) (hn : isBlank net = false)
    (hseq : 0 ≤ fe.seqNum ∧ fe.seqNum + 1 < 2 ^ 63) (hw : 0 < fe.masterWeight)
    (hlow : fe.lowThreshold ≤ fe.masterWeight) (hmed : fe.medThreshold ≤ fe.masterWeight)
    (hamt : amountParse xlmAmount = .ok b) (hb : 0 < b) (hbal : b ≤ fe.balance)
    (hledger : startingSequenceNumber L.ledgerSeq + 2 < 2 ^ 63) (hT : 0 ≤ locktime)
    (hcp : signerKeyFromAddress sk counterPartyAddress = .error msg) :
    ∃ err, createAtomicSwapHoldingAccount sk c net (Ledger.client sk c hist) fkp hkp counterPartyAddress
      xlmAmount H locktime L = .error err ((L.set (c.publicKey fkp.seed)
        (some { fe with seqNum := fe.seqNum + 1, balance := fe.balance - b })).set (c.publicKey hkp.seed)
          (some ⟨b, startingSequenceNumber L.ledgerSeq, 1, 0, 0, 0, [], false, 0⟩)) := by
  have hs0 := startingSequenceNumber_nonneg L.ledgerSeq
  have hacc : ((L.set (c.publicKey fkp.seed)
      (some { fe with seqNum := fe.seqNum + 1, balance := fe.balance - b })).set (c.publicKey hkp.seed)
        (some ⟨b, startingSequenceNumber L.ledgerSeq, 1, 0, 0, 0, [], false, 0⟩)).accounts (c.publicKey hkp.seed) =
      some ⟨b, startingSequenceNumber L.ledgerSeq, 1, 0, 0, 0, [], false, 0⟩ := Ledger.set_accounts_self _ _ _
  simp only [createAtomicSwapHoldingAccount, KeyPairFull.address]
  rw [EStateM.bind_of_ok (createHoldingAccount_run hf he (c.publicKey_length _) hnet hn hseq hw hlow hmed
    hamt hb hbal)]
  rw [EStateM.bind_of_ok (createRefundTransaction_run hacc (c.publicKey_length _) (c.publicKey_length _)
    ⟨hs0, hledger⟩ hT)]
  rw [Transaction.hash_of_envelope rfl hn, mapError_ok, EStateM.bind_of_ok (liftExcept_ok _ _)]
  obtain ⟨err, herr⟩ := @setHoldingAccountSigningOptions_of_signer_error sk c hist net _ hkp _ _ msg net H _ hacc hcp
  exact ⟨err, EStateM.bind_of_error herr⟩

/-- **A bad counterparty address strands the funds.** From a ledger where the funding account
can fund a new account, `initiate` and `participate` with a counterparty address that txnbuild
cannot read as a signer, such as a seed's text (`keypair.Parse`, the command line's check,
accepts seeds), end with an error once the funding transaction went through: the amount has
left the funding account for the holding account, which is left unconfigured, and the ledger
refuses every transaction acting on the holding account without the signature of the holding
key pair, which the commands generate and do not print on this error. -/
theorem initiate_participate_strand_funds {L : Ledger} {fkp hkp : KeyPairFull} {fe : AccountEntry}
    {counterPartyAddress xlmAmount msg : String} {b now : Int} {secret H : List UInt8}
    (hf : L.accounts (c.publicKey fkp.seed) = some fe) (he : L.accounts (c.publicKey hkp.seed) = none)
    (hnet : L.networkPassphrase = net) (hn : isBlank net = false)
    (hseq : 0 ≤ fe.seqNum ∧ fe.seqNum + 1 < 2 ^ 63) (hw : 0 < fe.masterWeight)
    (hlow : fe.lowThreshold ≤ fe.masterWeight) (hmed : fe.medThreshold ≤ fe.masterWeight)
    (hamt : amountParse xlmAmount = .ok b) (hb : 0 < b) (hbal : b ≤ fe.balance)
    (hledger : startingSequenceNumber L.ledgerSeq + 2 < 2 ^ 63) (hnow : 0 ≤ now)
    (hcp : signerKeyFromAddress sk counterPartyAddress = .error msg) :
    let e := c.publicKey hkp.seed
    let L' := (L.set (c.publicKey fkp.seed) (some { fe with seqNum := fe.seqNum + 1, balance := fe.balance - b })).set
      e (some ⟨b, startingSequenceNumber L.ledgerSeq, 1, 0, 0, 0, [], false, 0⟩)
    (∃ err, InitiateCmd.runCommand sk c net (Ledger.client sk c hist) ⟨fkp, counterPartyAddress, xlmAmount⟩
      secret hkp now L = .error err L') ∧
    (∃ err, ParticipateCmd.runCommand sk c net (Ledger.client sk c hist) ⟨counterPartyAddress, fkp, xlmAmount, H⟩
      hkp now L = .error err L') ∧
    ∀ env : TransactionEnvelope, env.tx.actsOn e →
      (SignerKey.ed25519 e).satisfiedBy c (c.transactionHash env.tx net) env.signatures = false →
      ∃ err, L'.submit c env = (.error err, L') := by
  intro e L'
  have hacc : L'.accounts e = some ⟨b, startingSequenceNumber L.ledgerSeq, 1, 0, 0, 0, [], false, 0⟩ :=
    Ledger.set_accounts_self _ _ _
  obtain ⟨err, h₁⟩ := @createAtomicSwapHoldingAccount_of_signer_error sk c hist net L fkp hkp fe _ xlmAmount msg b
    (now + lockTime) (c.sha256 secret) hf he hnet hn hseq hw hlow hmed hamt hb hbal hledger
    (by unfold lockTime; omega) hcp
  obtain ⟨err', h₂⟩ := @createAtomicSwapHoldingAccount_of_signer_error sk c hist net L fkp hkp fe _ xlmAmount msg b
    (now + lockTime / 2) H hf he hnet hn hseq hw hlow hmed hamt hb hbal hledger (by unfold lockTime; omega) hcp
  refine ⟨⟨err, EStateM.bind_of_error h₁⟩, ⟨err', EStateM.bind_of_error h₂⟩, fun env hacts hsat => ?_⟩
  have hmaster : ∀ t, meetsThreshold (AccountEntry.signatureWeight c (c.transactionHash env.tx L'.networkPassphrase)
      env.signatures e ⟨b, startingSequenceNumber L.ledgerSeq, 1, 0, 0, 0, [], false, 0⟩) t →
      (SignerKey.ed25519 e).satisfiedBy c (c.transactionHash env.tx net) env.signatures := fun t ht => by
    simpa [L', hnet] using AccountEntry.master_of_meetsThreshold rfl ht
  exact Ledger.submit_refused hacc (hmaster _) (fun body => hmaster _) (XdrTransaction.actsOn_iff.mp hacts)
    (by simp [hsat])

end Stranded

theorem initiate_participate_strand_funds_sample :
    let e := Crypto.plain.publicKey (sampleBytes 1)
    let L' := (sampleFundingLedger.set (Crypto.plain.publicKey (sampleBytes 2))
      (some { (⟨10 ^ 9, 2 ^ 32, 1, 0, 0, 0, [], false, 0⟩ : AccountEntry) with seqNum := 2 ^ 32 + 1, balance := 10 ^ 9 - 10 ^ 8 })).set
      e (some ⟨10 ^ 8, startingSequenceNumber sampleFundingLedger.ledgerSeq, 1, 0, 0, 0, [], false, 0⟩)
    (∃ err, InitiateCmd.runCommand .hexText .plain sampleNetwork (Ledger.client .hexText .plain History.empty)
      ⟨⟨sampleBytes 2⟩, StrKey.hexText.encode .seed (sampleBytes 3), "10"⟩ (sampleBytes 5) ⟨sampleBytes 1⟩ 0
      sampleFundingLedger = .error err L') ∧
    (∃ err, ParticipateCmd.runCommand .hexText .plain sampleNetwork (Ledger.client .hexText .plain History.empty)
      ⟨StrKey.hexText.encode .seed (sampleBytes 3), ⟨sampleBytes 2⟩, "10", sampleBytes 4⟩ ⟨sampleBytes 1⟩ 0
      sampleFundingLedger = .error err L') ∧
    ∀ env : TransactionEnvelope, env.tx.actsOn e →
      (SignerKey.ed25519 e).satisfiedBy .plain (Crypto.plain.transactionHash env.tx sampleNetwork) env.signatures =
        false →
      ∃ err, L'.submit .plain env = (.error err, L') :=
  initiate_participate_strand_funds
    (show sampleFundingLedger.accounts (Crypto.plain.publicKey (sampleBytes 2)) =
      some ⟨10 ^ 9, 2 ^ 32, 1, 0, 0, 0, [], false, 0⟩ by decide) (by decide) rfl (by decide) (by decide) (by decide)
    (by decide) (by decide) rfl (by decide) (by decide) (by decide) le_rfl (signerKeyFromAddress_seed _)

end StellarAtomicSwap
