/-
The tool's commands are ledger events too. A command that changes the ledger changes it only by
submitting transactions (`SubmitsFrom`), and what it submits acts only on the accounts it was
given: `initiate` and `participate` on the funding key pair's account and the holding key pair's,
`redeem` on the holding account it names, while `refund` submits the transaction it reads.
`auditcontract` and `extractsecret` only read.

So any interleaving of the tool's commands, run by anyone with any arguments, with anyone's
submissions and waits, changes the ledger as a run of ledger events does, in which each
submission is one of the interleaving's own or one its commands may make
(`ToolEvent.run_as_ledger_events`). Every result about runs of ledger events holds of it, and an
account no event may act on keeps all but its balance (`ToolEvent.run_keeps_other_accounts`).
-/
import StellarAtomicSwap.Escrow
import StellarAtomicSwap.Extract

namespace StellarAtomicSwap

open Stellar

/-- The envelope acts only on accounts that meet `A`, as its source account or as an
operation's. -/
def TransactionEnvelope.ActsOnly (A : List UInt8 → Prop) (env : TransactionEnvelope) : Prop :=
  ∀ a, env.tx.actsOn a → A a

/-- A command over the ledger, run from `L`, ends, normally or not, in the ledger after
submitting, in order, envelopes that each meet `S`. -/
def SubmitsFrom (c : Crypto) (S : TransactionEnvelope → Prop) {α : Type} (x : EStateM Failure Ledger α)
    (L : Ledger) : Prop :=
  ∃ envs : List TransactionEnvelope, (∀ env ∈ envs, S env) ∧
    (settle (x L)).1 = LedgerEvent.run c (envs.map .submit) L

/-! ## Commands that only submit -/

section Submits

variable {c : Crypto} {S S' : TransactionEnvelope → Prop} {α β : Type} {L : Ledger}

theorem SubmitsFrom.of_settle {x : EStateM Failure Ledger α} (h : (settle (x L)).1 = L) : SubmitsFrom c S x L :=
  ⟨[], nofun, h⟩

theorem SubmitsFrom.mono {x : EStateM Failure Ledger α} (hS : ∀ env, S env → S' env) :
    SubmitsFrom c S x L → SubmitsFrom c S' x L
  | ⟨envs, h, hL⟩ => ⟨envs, fun env hm => hS env (h env hm), hL⟩

/-- **Sequencing.** A command that submits, followed by commands that submit from wherever it
ended normally, submits. -/
theorem SubmitsFrom.bind {x : EStateM Failure Ledger α} {f : α → EStateM Failure Ledger β}
    (hx : SubmitsFrom c S x L) (hf : ∀ a L', x L = .ok a L' → SubmitsFrom c S (f a) L') :
    SubmitsFrom c S (x >>= f) L := by
  obtain ⟨envs, hS, hL⟩ := hx
  cases hxL : x L with
  | ok a L' =>
    obtain ⟨envs', hS', hL'⟩ := hf a L' hxL
    rw [hxL] at hL
    refine ⟨envs ++ envs', fun env hm => (List.mem_append.mp hm).elim (hS env) (hS' env), ?_⟩
    rw [EStateM.bind_of_ok hxL, hL', List.map_append, LedgerEvent.run_append, ← hL]
    rfl
  | error err L' =>
    rw [hxL] at hL
    exact ⟨envs, hS, by rw [EStateM.bind_of_error hxL]; exact hL⟩

theorem SubmitsFrom.adaptExcept {x : EStateM Failure Ledger α} {f : Failure → Failure}
    (h : SubmitsFrom c S x L) : SubmitsFrom c S (x.adaptExcept f) L := by
  obtain ⟨envs, hS, hL⟩ := h
  refine ⟨envs, hS, ?_⟩
  rw [← hL]
  unfold EStateM.adaptExcept
  cases x L <;> rfl

theorem SubmitsFrom.pure (a : α) : SubmitsFrom c S (Pure.pure a) L := .of_settle rfl

theorem SubmitsFrom.liftExcept (y : Except Failure α) : SubmitsFrom c S (liftExcept y) L :=
  .of_settle (by cases y <;> rfl)

theorem liftExcept_eq_ok {y : Except Failure α} {a : α} {L L' : Ledger} (h : liftExcept y L = .ok a L') :
    y = .ok a ∧ L' = L := by
  cases y <;> cases h
  exact ⟨rfl, rfl⟩

theorem EStateM.adaptExcept_eq_ok {x : EStateM Failure Ledger α} {f : Failure → Failure} {a : α} {L' : Ledger}
    (h : x.adaptExcept f L = .ok a L') : x L = .ok a L' := by
  unfold EStateM.adaptExcept at h
  split at h <;> cases h
  assumption

variable {sk : StrKey} {hist : History}

theorem SubmitsFrom.getAccount (address : String) :
    SubmitsFrom c S (getAccount (Ledger.client sk c hist) address) L :=
  .of_settle (by unfold Stellar.getAccount; split <;> rfl)

/-- What horizon's account endpoint gives on the ledger: the record of the account the address
decodes to, the ledger left as it was. -/
theorem getAccount_ledger_eq_ok {address : String} {a : HorizonAccount} {L' : Ledger}
    (h : getAccount (Ledger.client sk c hist) address L = .ok a L') :
    L' = L ∧ ∃ k, sk.decode .accountID address = .ok k ∧ a.accountID = sk.encode .accountID k := by
  unfold getAccount at h
  split at h
  · rename_i a' ha
    cases h
    refine ⟨rfl, ?_⟩
    simp only [Ledger.client, Ledger.accountDetail] at ha
    split at ha
    · cases ha
    · rename_i k hk
      split at ha
      · cases ha; exact ⟨k, hk, rfl⟩
      · cases ha
  · cases h

theorem SubmitsFrom.submitTransaction {env : TransactionEnvelope} (h : S env) :
    SubmitsFrom c S (submitTransaction (Ledger.client sk c hist) env) L :=
  ⟨[env], by simpa using h, by rw [settle_submitTransaction_ledger]; rfl⟩

end Submits

/-! ## What the tool's transactions act on -/

section ActsOn

variable {sk : StrKey} {c : Crypto}

/-- A transaction built from one whose operations all name its source account acts only on the
key of the source address. -/
theorem actsOnly_of_build {tx : Transaction} {xtx : XdrTransaction} {k : List UInt8}
    (hsrc : accountIdFromAddress sk tx.sourceAccount.accountID = .ok xtx.sourceAccount)
    (hops : ∀ xop ∈ xtx.operations, ∃ op ∈ tx.operations, op.buildXDR sk = .ok xop)
    (hnamed : ∀ op ∈ tx.operations, op.getSourceAccount = some tx.sourceAccount.accountID)
    (hk : tx.sourceAccount.accountID = sk.encode .accountID k) {a : List UInt8} (ha : xtx.actsOn a) : a = k := by
  have hxk : xtx.sourceAccount = k := by
    rw [hk] at hsrc
    simp only [accountIdFromAddress, StrKey.decode_encode, ok_bind] at hsrc
    split at hsrc
    · cases hsrc
    · exact (Except.ok.inj hsrc).symm
  rcases XdrTransaction.actsOn_iff.mp ha with rfl | ⟨xop, hx, rfl⟩
  · exact hxk
  · obtain ⟨op, hop, hb⟩ := hops xop hx
    rw [Operation.buildXDR_sourceAccount hb, hnamed op hop, opSourceAccount_of hsrc]
    exact hxk

/-- An envelope that `BuildSignEncode` made of a transaction whose operations all name its
source account acts only on that account. -/
theorem Transaction.buildSignEncode_actsOnly {tx : Transaction} {kp : KeyPairFull} {env : TransactionEnvelope}
    {k : List UInt8} (h : tx.buildSignEncode c sk kp = .ok env)
    (hnamed : ∀ op ∈ tx.operations, op.getSourceAccount = some tx.sourceAccount.accountID)
    (hk : tx.sourceAccount.accountID = sk.encode .accountID k) : env.ActsOnly (· = k) :=
  fun _ ha => actsOnly_of_build (Transaction.buildSignEncode_inv h).1 (Transaction.buildSignEncode_inv h).2
    hnamed hk ha

end ActsOn

/-! ## What each command submits -/

section Commands

variable {sk : StrKey} {c : Crypto} {hist : History} {net : String}

/-- `createHoldingAccount` submits only transactions acting on the funding account. -/
theorem createHoldingAccount_submits (holdingAccountAddress xlmAmount : String) (fkp : KeyPairFull)
    (network : String) (L : Ledger) :
    SubmitsFrom c (TransactionEnvelope.ActsOnly (· = c.publicKey fkp.seed))
      (createHoldingAccount sk c (Ledger.client sk c hist) holdingAccountAddress xlmAmount fkp network) L := by
  unfold createHoldingAccount
  refine (SubmitsFrom.getAccount _).adaptExcept.bind fun fa L₁ hfa => ?_
  obtain ⟨rfl, k, hk, hid⟩ := getAccount_ledger_eq_ok (EStateM.adaptExcept_eq_ok hfa)
  rw [KeyPairFull.address, StrKey.decode_encode, Except.ok.injEq] at hk
  subst hk
  refine (SubmitsFrom.liftExcept _).bind fun txe L₂ htxe => ?_
  obtain ⟨hb, rfl⟩ := liftExcept_eq_ok htxe
  refine (SubmitsFrom.submitTransaction ?_).adaptExcept.bind fun _ _ _ => .pure _
  exact Transaction.buildSignEncode_actsOnly (mapError_eq_ok.mp hb)
    (by simp [createHoldingAccountTransaction, Operation.getSourceAccount, HorizonAccount.toAccount]) hid

/-- `createRefundTransaction` only reads. -/
theorem createRefundTransaction_submits {S : TransactionEnvelope → Prop}
    (holdingAccountAddress refundAccountAdress : String) (locktime : Int) (L : Ledger) :
    SubmitsFrom c S (createRefundTransaction sk net (Ledger.client sk c hist) holdingAccountAddress
      refundAccountAdress locktime) L :=
  (SubmitsFrom.getAccount _).bind fun _ _ _ => (SubmitsFrom.liftExcept _).bind fun _ _ _ => SubmitsFrom.liftExcept _

/-- `setHoldingAccountSigningOptions` submits only transactions acting on the holding account. -/
theorem setHoldingAccountSigningOptions_submits (hkp : KeyPairFull) (counterPartyAddress : String)
    (secretHash refundTxHash : List UInt8) (network : String) (L : Ledger) :
    SubmitsFrom c (TransactionEnvelope.ActsOnly (· = c.publicKey hkp.seed))
      (setHoldingAccountSigningOptions sk c net (Ledger.client sk c hist) hkp counterPartyAddress secretHash
        refundTxHash network) L := by
  unfold setHoldingAccountSigningOptions
  refine (SubmitsFrom.getAccount _).adaptExcept.bind fun ha L₁ hha => ?_
  obtain ⟨rfl, k, hk, hid⟩ := getAccount_ledger_eq_ok (EStateM.adaptExcept_eq_ok hha)
  rw [KeyPairFull.address, StrKey.decode_encode, Except.ok.injEq] at hk
  subst hk
  refine (SubmitsFrom.liftExcept _).bind fun txe L₂ htxe => ?_
  obtain ⟨hb, rfl⟩ := liftExcept_eq_ok htxe
  refine (SubmitsFrom.submitTransaction ?_).adaptExcept.bind fun _ _ _ => .pure _
  exact Transaction.buildSignEncode_actsOnly (mapError_eq_ok.mp hb)
    (by simp [createHoldingAccountSigningTransaction, Operation.getSourceAccount, HorizonAccount.toAccount]) hid

/-- `createAtomicSwapHoldingAccount` submits only transactions acting on the funding account or
the holding account. -/
theorem createAtomicSwapHoldingAccount_submits (fkp hkp : KeyPairFull) (counterPartyAddress xlmAmount : String)
    (secretHash : List UInt8) (locktime : Int) (L : Ledger) :
    SubmitsFrom c (TransactionEnvelope.ActsOnly fun a => a = c.publicKey fkp.seed ∨ a = c.publicKey hkp.seed)
      (createAtomicSwapHoldingAccount sk c net (Ledger.client sk c hist) fkp hkp counterPartyAddress xlmAmount
        secretHash locktime) L := by
  unfold createAtomicSwapHoldingAccount
  exact ((createHoldingAccount_submits _ _ _ _ _).mono fun _ h a ha => .inl (h a ha)).bind fun _ _ _ =>
    (createRefundTransaction_submits _ _ _ _).bind fun _ _ _ => (SubmitsFrom.liftExcept _).bind fun _ _ _ =>
      ((setHoldingAccountSigningOptions_submits _ _ _ _ _ _).mono fun _ h a ha => .inr (h a ha)).bind
        fun _ _ _ => .pure _

theorem InitiateCmd.runCommand_submits (cmd : InitiateCmd) (secret : List UInt8) (hkp : KeyPairFull) (now : Int)
    (L : Ledger) :
    SubmitsFrom c (TransactionEnvelope.ActsOnly fun a => a = c.publicKey cmd.initiatorKeyPair.seed ∨ a = c.publicKey hkp.seed)
      (cmd.runCommand sk c net (Ledger.client sk c hist) secret hkp now) L :=
  (createAtomicSwapHoldingAccount_submits _ _ _ _ _ _ _).bind fun _ _ _ =>
    (SubmitsFrom.liftExcept _).bind fun _ _ _ => .pure _

theorem ParticipateCmd.runCommand_submits (cmd : ParticipateCmd) (hkp : KeyPairFull) (now : Int) (L : Ledger) :
    SubmitsFrom c
      (TransactionEnvelope.ActsOnly fun a => a = c.publicKey cmd.participatorKeyPair.seed ∨ a = c.publicKey hkp.seed)
      (cmd.runCommand sk c net (Ledger.client sk c hist) hkp now) L :=
  (createAtomicSwapHoldingAccount_submits _ _ _ _ _ _ _).bind fun _ _ _ =>
    (SubmitsFrom.liftExcept _).bind fun _ _ _ => .pure _

/-- `redeem` submits only transactions acting on the account its holding account address
decodes to. -/
theorem RedeemCmd.runCommand_submits (cmd : RedeemCmd) (L : Ledger) :
    SubmitsFrom c (TransactionEnvelope.ActsOnly fun a => sk.decode .accountID cmd.holdingAccountAddress = .ok a)
      (cmd.runCommand sk c net (Ledger.client sk c hist)) L := by
  unfold RedeemCmd.runCommand
  refine (SubmitsFrom.getAccount _).bind fun ha L₁ hha => ?_
  obtain ⟨rfl, k, hk, hid⟩ := getAccount_ledger_eq_ok hha
  refine (SubmitsFrom.liftExcept _).bind fun _ _ h₁ => ?_
  obtain ⟨hb, rfl⟩ := liftExcept_eq_ok h₁
  refine (SubmitsFrom.liftExcept _).bind fun _ _ h₂ => ?_
  obtain ⟨hx, rfl⟩ := liftExcept_eq_ok h₂
  refine (SubmitsFrom.liftExcept _).bind fun _ _ h₃ => ?_
  obtain ⟨hs, rfl⟩ := liftExcept_eq_ok h₃
  refine (SubmitsFrom.liftExcept _).bind fun txe _ h₄ => ?_
  obtain ⟨he, rfl⟩ := liftExcept_eq_ok h₄
  -- Signing keeps the transaction `Build` made.
  obtain ⟨xtx, he₁, hsrc, hops⟩ := Transaction.build_inv (mapError_eq_ok.mp hb)
  obtain ⟨_, he₂⟩ := Transaction.signHashX_tx he₁ (mapError_eq_ok.mp hx)
  obtain ⟨_, he₃⟩ := Transaction.sign_tx he₂ (mapError_eq_ok.mp hs)
  simp only [mapError_eq_ok, Transaction.base64, he₃, Except.ok.injEq] at he
  subst he
  refine SubmitsFrom.submitTransaction fun a ha' => ?_
  rw [actsOnly_of_build hsrc hops (by simp [Operation.getSourceAccount, HorizonAccount.toAccount]) hid ha']
  exact hk

/-- `refund` submits only the envelope of the transaction it reads. -/
theorem RefundCmd.runCommand_submits (cmd : RefundCmd) (L : Ledger) :
    SubmitsFrom c (cmd.refundTx.base64 = .ok ·) (cmd.runCommand (Ledger.client sk c hist)) L := by
  unfold RefundCmd.runCommand
  refine (SubmitsFrom.liftExcept _).bind fun txe _ h => ?_
  obtain ⟨he, rfl⟩ := liftExcept_eq_ok h
  exact SubmitsFrom.submitTransaction (mapError_eq_ok.mp he)

end Commands

/-! ## Interleavings of the tool's commands -/

/-- What can happen on a ledger the tool is used on: one of its commands that submit, run by
anyone with any arguments, or any other ledger event. -/
inductive ToolEvent
  | initiate (cmd : InitiateCmd) (secret : List UInt8) (holdingAccountKeyPair : KeyPairFull) (now : Int)
  | participate (cmd : ParticipateCmd) (holdingAccountKeyPair : KeyPairFull) (now : Int)
  | redeem (cmd : RedeemCmd)
  | refund (cmd : RefundCmd)
  | ledger (ev : LedgerEvent)

section Tool

variable (sk : StrKey) (c : Crypto) (net : String) (hist : History)

/-- One event: the ledger after it, whether the command ended normally or not. -/
def ToolEvent.step : ToolEvent → Ledger → Ledger
  | .initiate cmd secret hkp now, L =>
    (settle (cmd.runCommand sk c net (Ledger.client sk c hist) secret hkp now L)).1
  | .participate cmd hkp now, L => (settle (cmd.runCommand sk c net (Ledger.client sk c hist) hkp now L)).1
  | .redeem cmd, L => (settle (cmd.runCommand sk c net (Ledger.client sk c hist) L)).1
  | .refund cmd, L => (settle (cmd.runCommand (Ledger.client sk c hist) L)).1
  | .ledger ev, L => ev.step c L

/-- A run of events, each on the ledger the one before left. -/
def ToolEvent.run : List ToolEvent → Ledger → Ledger
  | [], L => L
  | ev :: evs, L => ToolEvent.run evs (ev.step sk c net hist L)

/-- What an event may submit: `initiate` and `participate`, envelopes acting only on the funding
key pair's account and the holding key pair's; `redeem`, envelopes acting only on the account its
holding account address decodes to; `refund`, its transaction's envelope; any other event, its
own envelope. -/
def ToolEvent.Submits : ToolEvent → TransactionEnvelope → Prop
  | .initiate cmd _ hkp _, env =>
    env.ActsOnly fun a => a = c.publicKey cmd.initiatorKeyPair.seed ∨ a = c.publicKey hkp.seed
  | .participate cmd hkp _, env =>
    env.ActsOnly fun a => a = c.publicKey cmd.participatorKeyPair.seed ∨ a = c.publicKey hkp.seed
  | .redeem cmd, env => env.ActsOnly fun a => sk.decode .accountID cmd.holdingAccountAddress = .ok a
  | .refund cmd, env => cmd.refundTx.base64 = .ok env
  | .ledger ev, env => ev = .submit env

/-- The accounts an event may act on: for `initiate` and `participate` the funding key pair's and
the holding key pair's, for `redeem` the one its holding account address decodes to, for
`refund` and any other event those its envelope acts on. -/
def ToolEvent.MayActOn : ToolEvent → List UInt8 → Prop
  | .initiate cmd _ hkp _, a => a = c.publicKey cmd.initiatorKeyPair.seed ∨ a = c.publicKey hkp.seed
  | .participate cmd hkp _, a => a = c.publicKey cmd.participatorKeyPair.seed ∨ a = c.publicKey hkp.seed
  | .redeem cmd, a => sk.decode .accountID cmd.holdingAccountAddress = .ok a
  | .refund cmd, a => ∃ env, cmd.refundTx.base64 = .ok env ∧ env.tx.actsOn a
  | .ledger ev, a => ∃ env, ev = .submit env ∧ env.tx.actsOn a

end Tool

section Refines

variable {sk : StrKey} {c : Crypto} {net : String} {hist : History}

theorem SubmitsFrom.refines {S : TransactionEnvelope → Prop} {α : Type} {x : EStateM Failure Ledger α}
    {L : Ledger} : SubmitsFrom c S x L →
      ∃ levs : List LedgerEvent, (settle (x L)).1 = LedgerEvent.run c levs L ∧ ∀ env, .submit env ∈ levs → S env
  | ⟨envs, hS, hL⟩ => ⟨_, hL, fun env hm => hS env (by simpa using hm)⟩

/-- **Step lemma.** Each event changes the ledger as a run of ledger events does, submitting
only what it may. -/
theorem ToolEvent.step_refines (ev : ToolEvent) (L : Ledger) :
    ∃ levs : List LedgerEvent, ev.step sk c net hist L = LedgerEvent.run c levs L ∧
      ∀ env, .submit env ∈ levs → ev.Submits sk c env := by
  cases ev with
  | initiate cmd secret hkp now => exact (InitiateCmd.runCommand_submits cmd secret hkp now L).refines
  | participate cmd hkp now => exact (ParticipateCmd.runCommand_submits cmd hkp now L).refines
  | redeem cmd => exact (RedeemCmd.runCommand_submits cmd L).refines
  | refund cmd => exact (RefundCmd.runCommand_submits cmd L).refines
  | ledger ev => exact ⟨[ev], rfl, fun env h => (List.mem_singleton.mp h).symm⟩

/-- **The tool's commands are ledger events.** Any interleaving of the tool's commands, run by
anyone with any arguments and ending normally or not, with any other ledger events, changes the
ledger as a run of ledger events does, each submission in it an envelope one of the
interleaving's events may submit. -/
theorem ToolEvent.run_as_ledger_events (evs : List ToolEvent) (L : Ledger) :
    ∃ levs : List LedgerEvent, ToolEvent.run sk c net hist evs L = LedgerEvent.run c levs L ∧
      ∀ env, .submit env ∈ levs → ∃ ev ∈ evs, ev.Submits sk c env := by
  induction evs generalizing L with
  | nil => exact ⟨[], rfl, by simp⟩
  | cons ev evs ih =>
    obtain ⟨l₁, h₁, hs₁⟩ := ToolEvent.step_refines ev L
    obtain ⟨l₂, h₂, hs₂⟩ := ih (ev.step sk c net hist L)
    refine ⟨l₁ ++ l₂, by rw [LedgerEvent.run_append, ← h₁, ← h₂]; rfl, fun env hm => ?_⟩
    rcases List.mem_append.mp hm with h | h
    · exact ⟨ev, List.mem_cons_self _ _, hs₁ env h⟩
    · obtain ⟨ev', hev', hs⟩ := hs₂ env h
      exact ⟨ev', List.mem_cons_of_mem _ hev', hs⟩

theorem sampleRun_as_ledger_events :
    let evs : List ToolEvent := [.initiate ⟨⟨sampleBytes 2⟩, StrKey.hexText.encode .accountID (sampleBytes 3), "10"⟩
      (sampleBytes 5) ⟨sampleBytes 6⟩ 0, .ledger (.wait 100)]
    ∃ levs : List LedgerEvent,
      ToolEvent.run .hexText .plain sampleNetwork History.empty evs sampleFundingLedger =
        LedgerEvent.run .plain levs sampleFundingLedger ∧
      ∀ env, .submit env ∈ levs → ∃ ev ∈ evs, ev.Submits .hexText .plain env :=
  ToolEvent.run_as_ledger_events _ _

theorem ToolEvent.mayActOn_of_submits {ev : ToolEvent} {env : TransactionEnvelope} {a : List UInt8}
    (h : ev.Submits sk c env) (ha : env.tx.actsOn a) : ev.MayActOn sk c a := by
  cases ev with
  | refund cmd => exact ⟨env, h, ha⟩
  | ledger ev => exact ⟨env, h, ha⟩
  | _ => exact h a ha

/-- **Step lemma for the other accounts.** An event that may not act on account `e` keeps it as
it was, but for its balance. -/
theorem ToolEvent.step_keeps {e : List UInt8} {x : AccountEntry} {L : Ledger} (ev : ToolEvent)
    (hev : ¬ev.MayActOn sk c e) (hL : L.Keeps e x) : (ev.step sk c net hist L).Keeps e x := by
  obtain ⟨levs, h, hs⟩ := ToolEvent.step_refines ev L
  rw [h]
  exact (@LedgerEvent.run_keeps c e x L.networkPassphrase (fun _ => True) (fun _ _ _ _ _ hu => absurd trivial hu)
    levs L hL rfl fun env hm ha _ => hev (ToolEvent.mayActOn_of_submits (hs env hm) ha)).1

/-- **The tool touches only the accounts it is given.** Over any interleaving of the tool's
commands, run by anyone with any arguments, with other ledger events, an account that no event
may act on stays as it was, but for its balance: no `initiate` or `participate` has it as its
funding or holding account, no `redeem` names it as the holding account, and neither the refund
transaction of a `refund` nor any other envelope acts on it. -/
theorem ToolEvent.run_keeps_other_accounts {e : List UInt8} {x : AccountEntry} (evs : List ToolEvent) (L : Ledger)
    (hL : L.Keeps e x) (hevs : ∀ ev ∈ evs, ¬ev.MayActOn sk c e) : (ToolEvent.run sk c net hist evs L).Keeps e x := by
  induction evs generalizing L with
  | nil => exact hL
  | cons ev evs ih =>
    exact ih _ (ToolEvent.step_keeps ev (hevs ev (List.mem_cons_self _ _)) hL) fun ev' hm =>
      hevs ev' (List.mem_cons_of_mem _ hm)

end Refines

theorem sampleLedger_keeps_other_accounts :
    (ToolEvent.run .hexText .plain sampleNetwork History.empty
      [.initiate ⟨⟨sampleBytes 2⟩, StrKey.hexText.encode .accountID (sampleBytes 3), "10"⟩ (sampleBytes 5)
        ⟨sampleBytes 6⟩ 0, .ledger (.wait 100)]
      (sampleLedger (sampleEscrow (sampleRefund true)))).Keeps (sampleBytes 1) (sampleEscrow (sampleRefund true)) :=
  ToolEvent.run_keeps_other_accounts _ _ ⟨_, sampleLedger_accounts _⟩ (by
    simp only [List.mem_cons, List.mem_singleton, List.not_mem_nil, or_false, forall_eq_or_imp, forall_eq,
      ToolEvent.MayActOn]
    exact ⟨by decide, by simp⟩)

end StellarAtomicSwap
