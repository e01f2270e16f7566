/-
`auditcontract` (`auditContractCmd.runCommand`): the check a counterparty runs on a holding
account before funding its own side. It fetches the account, checks the thresholds, scans
the signers for the three signing conditions, and compares the claimed refund transaction
with the pre-authorized hash it finds.

`AuditContractCmd.runCommand_eq_ok`: the command ends normally exactly when every check
passes. The loop over the signers keeps `SigningConditions.Holds` (each filled slot holds the
one signer of its role that it has seen), which makes an accepted audit sound, and
`SigningConditions.foldlM_complete` fills every slot of a configured account, in any order.
`AuditContractCmd.runCommand_eq_panic`: the one runtime fault is a refund merge that names
no source account.
-/
import StellarAtomicSwap.Ledger

namespace StellarAtomicSwap

/-- `auditContractCmd`. -/
structure AuditContractCmd where
  refundTx : Transaction
  holdingAccountAdress : String
  deriving DecidableEq, Repr

/-- What `auditcontract` prints, as text or as JSON. -/
structure AuditReport where
  contractAddress : String
  contractValue : String
  recipientAddress : String
  refundAddress : String
  secretHash : List UInt8
  lockTime : Int
  deriving DecidableEq, Repr

/-- The signing conditions the loop over the signers collects. `none` and `""` are Go's nil
slice and empty string, which the loop reads as "not found yet". -/
structure SigningConditions where
  refundTxHashFromSigningConditions : Option (List UInt8) := none
  recipientAddress : String := ""
  secretHash : Option (List UInt8) := none
  deriving DecidableEq, Repr

/-- `%s` of a byte slice: its bytes as characters. -/
def rawString (b : List UInt8) : String := String.mk (b.map fun x => Char.ofNat x.toNat)

/-- One round of the loop over the holding account's signers. A signer of weight 0 (the
disabled master key) is skipped; the others are classified by their type. -/
def SigningConditions.add (sk : StrKey) (sc : SigningConditions) (signer : HorizonSigner) :
    Except Failure SigningConditions :=
  if signer.weight = 0 then .ok sc
  else if signer.type = keyTypeNames .accountID then
    if sc.recipientAddress ≠ "" then
      .error (.error ("Multiple recipients as signer: " ++ sc.recipientAddress ++ " and " ++
        signer.key))
    else if signer.weight ≠ 1 then
      .error (.error ("Signing weight of the recipient is wrong. Recipient: " ++ signer.key ++
        " Weight: " ++ toString signer.weight))
    else .ok { sc with recipientAddress := signer.key }
  else if signer.type = keyTypeNames .hashTx then
    if sc.refundTxHashFromSigningConditions.isSome then
      .error (.error "Multiple refund transaction hashes as signer")
    else match sk.decode .hashTx signer.key with
      | .error e => .error (.error ("Faulty encoded refund transaction hash: " ++ e))
      | .ok h =>
        if signer.weight ≠ 2 then
          .error (.error ("Signing weight of the refund transaction is wrong. Weight: " ++
            toString signer.weight))
        else .ok { sc with refundTxHashFromSigningConditions := some h }
  else if signer.type = keyTypeNames .hashX then
    match sc.secretHash with
    | some x =>
      .error (.error ("Multiple secret hashes  transaction hashes as signer: " ++ rawString x ++
        " and " ++ signer.key))
    | none =>
      match sk.decode .hashX signer.key with
      | .error e => .error (.error ("Faulty encoded secret hash: " ++ e))
      | .ok x =>
        if signer.weight ≠ 1 then
          .error (.error ("Signing weight of the secret hash is wrong. Weight: " ++
            toString signer.weight))
        else .ok { sc with secretHash := some x }
  else .error (.error ("Unexpected signer type: " ++ signer.type))

/-! ## The loop over the signers -/

/-- The recipient condition: an account signer of weight 1. -/
def IsRecipient (s : HorizonSigner) (address : String) : Prop :=
  s = ⟨1, address, keyTypeNames .accountID⟩

/-- The secret condition: a hash-x signer of weight 1, whose key decodes to `h`. -/
def IsSecretSigner (sk : StrKey) (s : HorizonSigner) (h : List UInt8) : Prop :=
  s.weight = 1 ∧ s.type = keyTypeNames .hashX ∧ sk.decode .hashX s.key = .ok h

/-- The refund condition: a pre-authorized-transaction signer of weight 2, whose key decodes
to `h`. -/
def IsRefundSigner (sk : StrKey) (s : HorizonSigner) (h : List UInt8) : Prop :=
  s.weight = 2 ∧ s.type = keyTypeNames .hashTx ∧ sk.decode .hashTx s.key = .ok h

/-- What one round of the loop can do: skip a signer of weight 0, or fill an empty slot
with a signer of the slot's type and weight. -/
theorem SigningConditions.add_eq_ok {sk : StrKey} {sc sc' : SigningConditions}
    {s : HorizonSigner} (h : sc.add sk s = .ok sc') :
    (s.weight = 0 ∧ sc' = sc) ∨
    (sc.recipientAddress = "" ∧ IsRecipient s s.key ∧ sc' = { sc with recipientAddress := s.key }) ∨
    (sc.refundTxHashFromSigningConditions = none ∧ ∃ x, IsRefundSigner sk s x ∧
      sc' = { sc with refundTxHashFromSigningConditions := some x }) ∨
    (sc.secretHash = none ∧ ∃ x, IsSecretSigner sk s x ∧ sc' = { sc with secretHash := some x }) := by
  unfold SigningConditions.add at h
  by_cases h0 : s.weight = 0
  · rw [if_pos h0, Except.ok.injEq] at h
    exact .inl ⟨h0, h.symm⟩
  rw [if_neg h0] at h
  by_cases ha : s.type = keyTypeNames .accountID
  · rw [if_pos ha] at h
    by_cases hr : sc.recipientAddress ≠ ""
    · rw [if_pos hr] at h; cases h
    by_cases hw : s.weight ≠ 1
    · rw [if_neg hr, if_pos hw] at h; cases h
    rw [if_neg hr, if_neg hw, Except.ok.injEq] at h
    subst h
    simp only [ne_eq, not_not] at hr hw
    exact .inr (.inl ⟨hr, by simp [IsRecipient, ← ha, ← hw], rfl⟩)
  rw [if_neg ha] at h
  by_cases ht : s.type = keyTypeNames .hashTx
  · rw [if_pos ht] at h
    cases hr : sc.refundTxHashFromSigningConditions
    · rw [hr] at h
      cases hd : sk.decode .hashTx s.key
      · rw [hd] at h; cases h
      rw [hd, Option.isSome_none, if_neg Bool.false_ne_true] at h
      dsimp only at h
      by_cases hw : s.weight ≠ 2
      · rw [if_pos hw] at h; cases h
      rw [if_neg hw, Except.ok.injEq] at h
      subst h
      exact .inr (.inr (.inl ⟨rfl, _, ⟨not_not.mp hw, ht, hd⟩, rfl⟩))
    · rw [hr] at h; cases h
  rw [if_neg ht] at h
  by_cases hx : s.type = keyTypeNames .hashX
  · rw [if_pos hx] at h
    cases hs : sc.secretHash
    · rw [hs] at h
      cases hd : sk.decode .hashX s.key
      · rw [hd] at h; cases h
      rw [hd] at h
      dsimp only at h
      by_cases hw : s.weight ≠ 1
      · rw [if_pos hw] at h; cases h
      rw [if_neg hw, Except.ok.injEq] at h
      subst h
      exact .inr (.inr (.inr ⟨rfl, _, ⟨not_not.mp hw, hx, hd⟩, rfl⟩))
    · rw [hs] at h; cases h
  rw [if_neg hx] at h
  cases h

/-- The signers kept for one role: none while its slot is empty, else the one that filled it. -/
def Slot {α : Type} (role : HorizonSigner → α → Prop) : Option α → List HorizonSigner → Prop
  | none, l => l = []
  | some a, l => ∃ s, l = [s] ∧ role s a

/-- The recipient slot, Go's empty string read as "not found". -/
def SigningConditions.recipient? (sc : SigningConditions) : Option String :=
  if sc.recipientAddress = "" then none else some sc.recipientAddress

/-- The loop's invariant: the signers of non-zero weight it has seen are, in some order,
the ones its three slots hold. -/
def SigningConditions.Holds (sk : StrKey) (sc : SigningConditions) (seen : List HorizonSigner) :
    Prop :=
  ∃ rs xs ts, (seen.filter (·.weight ≠ 0)).Perm (rs ++ xs ++ ts) ∧ Slot IsRecipient sc.recipient? rs ∧
    Slot (IsSecretSigner sk) sc.secretHash xs ∧
    Slot (IsRefundSigner sk) sc.refundTxHashFromSigningConditions ts

theorem SigningConditions.holds_nil (sk : StrKey) : ({} : SigningConditions).Holds sk [] :=
  ⟨[], [], [], by simp, rfl, rfl, rfl⟩

theorem SigningConditions.Holds.add {sk : StrKey} {sc sc' : SigningConditions}
    {seen : List HorizonSigner} {s : HorizonSigner} (hi : sc.Holds sk seen)
    (h : sc.add sk s = .ok sc') (hk : s.key ≠ "") : sc'.Holds sk (seen ++ [s]) := by
  obtain ⟨rs, xs, ts, hp, hr, hx, ht⟩ := hi
  rcases SigningConditions.add_eq_ok h with ⟨h0, rfl⟩ | ⟨he, hs, rfl⟩ | ⟨he, x, hs, rfl⟩ |
    ⟨he, x, hs, rfl⟩
  · exact ⟨rs, xs, ts, by simpa [h0] using hp, hr, hx, ht⟩
  · simp only [SigningConditions.recipient?, he, if_true, Slot] at hr
    subst hr
    have hw : s.weight ≠ 0 := by simp [congrArg HorizonSigner.weight hs]
    refine ⟨[s], xs, ts, ?_, ?_, hx, ht⟩
    · simpa [hw] using (hp.append_right [s]).trans (@List.perm_append_comm _ _ [s])
    · simp only [SigningConditions.recipient?, if_neg hk, Slot]
      exact ⟨s, rfl, hs⟩
  · simp only [he, Slot] at ht
    subst ht
    have hw : s.weight ≠ 0 := by rw [hs.1]; decide
    exact ⟨rs, xs, [s], by simpa [hw] using hp.append_right [s], hr, hx, ⟨s, rfl, hs⟩⟩
  · simp only [he, Slot] at hx
    subst hx
    have hw : s.weight ≠ 0 := by rw [hs.1]; decide
    refine ⟨rs, [s], ts, ?_, hr, ⟨s, rfl, hs⟩, ht⟩
    simp only [List.append_nil, List.append_assoc] at hp
    simpa [hw] using (hp.append_right [s]).trans
      (by simpa using (@List.perm_append_comm _ ts [s]).append_left rs)

theorem SigningConditions.Holds.foldlM {sk : StrKey} :
    ∀ {signers : List HorizonSigner} {sc sc' : SigningConditions} {seen : List HorizonSigner},
      sc.Holds sk seen → signers.foldlM (SigningConditions.add sk) sc = .ok sc' →
      (∀ s ∈ signers, s.key ≠ "") → sc'.Holds sk (seen ++ signers)
  | [], _, _, _, hi, h, _ => by
    simp only [List.foldlM_nil, pure_eq_ok] at h
    simpa [← h] using hi
  | s :: ss, _, _, _, hi, h, hk => by
    rw [List.foldlM_cons, bind_eq_ok] at h
    obtain ⟨sc₁, h₁, h⟩ := h
    simpa using (hi.add h₁ (hk s (by simp))).foldlM h fun x hx => hk x (by simp [hx])

/-! ## The loop finds every configured holding account -/

section LoopComplete

variable {sk : StrKey} {r x t : HorizonSigner} {R : String} {H h : List UInt8}

/-- The signers the loop has still to find, of the recipient `r`, the secret signer `x` and
the refund signer `t`: those whose slot is empty. -/
def SigningConditions.pending (r x t : HorizonSigner) (sc : SigningConditions) :
    List HorizonSigner :=
  (if sc.recipientAddress = "" then [r] else []) ++ (if sc.secretHash = none then [x] else []) ++
    (if sc.refundTxHashFromSigningConditions = none then [t] else [])

/-- Every slot is empty or holds what its signer gives. -/
def SigningConditions.Agrees (R : String) (H h : List UInt8) (sc : SigningConditions) : Prop :=
  (sc.recipientAddress = "" ∨ sc.recipientAddress = R) ∧ (sc.secretHash = none ∨ sc.secretHash = some H) ∧
    (sc.refundTxHashFromSigningConditions = none ∨ sc.refundTxHashFromSigningConditions = some h)

theorem SigningConditions.add_recipient (hr : IsRecipient r R) {sc : SigningConditions}
    (he : sc.recipientAddress = "") : sc.add sk r = .ok { sc with recipientAddress := R } := by
  subst hr; simp [SigningConditions.add, he]

theorem SigningConditions.add_secret (hx : IsSecretSigner sk x H) {sc : SigningConditions}
    (he : sc.secretHash = none) : sc.add sk x = .ok { sc with secretHash := some H } := by
  obtain ⟨hw, ht, hd⟩ := hx
  simp [SigningConditions.add, hw, ht, hd, he, keyTypeNames]

theorem SigningConditions.add_refund (ht : IsRefundSigner sk t h) {sc : SigningConditions}
    (he : sc.refundTxHashFromSigningConditions = none) :
    sc.add sk t = .ok { sc with refundTxHashFromSigningConditions := some h } := by
  obtain ⟨hw, ht, hd⟩ := ht
  simp [SigningConditions.add, hw, ht, hd, he, keyTypeNames]

theorem SigningConditions.foldlM_complete (hr : IsRecipient r R) (hR : R ≠ "")
    (hx : IsSecretSigner sk x H) (ht : IsRefundSigner sk t h) (L : List HorizonSigner) :
    ∀ sc : SigningConditions, sc.Agrees R H h →
      (L.filter (·.weight ≠ 0)).Perm (sc.pending r x t) →
      L.foldlM (SigningConditions.add sk) sc = .ok ⟨some h, R, some H⟩ := by
  induction L with
  | nil =>
    rintro ⟨sh, sr, ss⟩ ⟨h1, h2, h3⟩ hp
    have := List.perm_nil.mp hp.symm
    simp only [SigningConditions.pending, List.append_eq_nil, ite_eq_right_iff,
      List.cons_ne_nil, imp_false] at this
    obtain ⟨⟨hr', hx'⟩, ht'⟩ := this
    simp_all
  | cons s L ih =>
    intro sc ha hp
    rw [List.foldlM_cons]
    by_cases h0 : s.weight = 0
    · rw [show sc.add sk s = .ok sc by simp [SigningConditions.add, h0], ok_bind]
      exact ih sc ha (by simpa [h0] using hp)
    rw [List.filter_cons_of_pos (by simpa using h0)] at hp
    have hs : s ∈ sc.pending r x t := hp.subset (List.mem_cons_self _ _)
    obtain ⟨h1, h2, h3⟩ := ha
    simp only [SigningConditions.pending, List.mem_append] at hs
    rcases hs with (hs | hs) | hs
    · split_ifs at hs with he
      · obtain rfl := List.mem_singleton.mp hs
        rw [SigningConditions.add_recipient hr he, ok_bind]
        refine ih _ ⟨.inr rfl, h2, h3⟩ (List.Perm.cons_inv (hp.trans ?_))
        simp [SigningConditions.pending, he, hR]
      · simp at hs
    · split_ifs at hs with he
      · obtain rfl := List.mem_singleton.mp hs
        rw [SigningConditions.add_secret hx he, ok_bind]
        refine ih _ ⟨h1, .inr rfl, h3⟩ (List.Perm.cons_inv (hp.trans ?_))
        simp [SigningConditions.pending, he]
      · simp at hs
    · split_ifs at hs with he
      · obtain rfl := List.mem_singleton.mp hs
        rw [SigningConditions.add_refund ht he, ok_bind]
        refine ih _ ⟨h1, h2, .inr rfl⟩ (List.Perm.cons_inv (hp.trans ?_))
        simp only [SigningConditions.pending, he, if_true, reduceCtorEq, if_false, List.append_nil]
        exact List.perm_append_singleton _ _
      · simp at hs

theorem SigningConditions.foldlM_eq_of_perm {signers : List HorizonSigner}
    (hp : (signers.filter (·.weight ≠ 0)).Perm [r, x, t]) (hr : IsRecipient r R) (hR : R ≠ "")
    (hx : IsSecretSigner sk x H) (ht : IsRefundSigner sk t h) :
    signers.foldlM (SigningConditions.add sk) {} = .ok ⟨some h, R, some H⟩ :=
  SigningConditions.foldlM_complete hr hR hx ht signers {} ⟨.inl rfl, .inl rfl, .inl rfl⟩
    (by simpa [SigningConditions.pending] using hp)

theorem SigningConditions.add_ne_panic {sc : SigningConditions} {x : HorizonSigner} {m : String} :
    sc.add sk x ≠ .error (.panic m) := by
  unfold SigningConditions.add
  repeat' split
  all_goals nofun

theorem SigningConditions.foldlM_ne_panic {m : String} :
    ∀ (L : List HorizonSigner) (sc : SigningConditions), L.foldlM (add sk) sc ≠ .error (.panic m)
  | [], sc => by simp [pure, Except.pure]
  | x :: L, sc => by
    rw [List.foldlM_cons]
    cases h : sc.add sk x with
    | error e => rintro ⟨⟩; exact SigningConditions.add_ne_panic h
    | ok sc' => exact SigningConditions.foldlM_ne_panic L sc'

end LoopComplete

/-- The Go runtime's message for a method call on a nil interface. -/
def nilDereference : String := "runtime error: invalid memory address or nil pointer dereference"

variable {σ : Type}

/-- `auditContractCmd.runCommand`, up to printing: the report it prints. -/
def AuditContractCmd.runCommand (sk : StrKey) (c : Crypto) (targetNetwork : String)
    (client : ClientInterface σ) (s : σ) (cmd : AuditContractCmd) :
    Except Failure AuditReport := do
  let holdingAccount ← (client.accountDetail s cmd.holdingAccountAdress).mapError fun e =>
    .error ("Error getting the holding account details: " ++ e.message)
  let balance ← holdingAccount.getNativeBalance.mapError .error
  let t := holdingAccount.thresholds
  if t.highThreshold ≠ 2 ∨ t.medThreshold ≠ 2 ∨ t.lowThreshold ≠ 2 then
    throw (.error ("Holding account signing tresholds are wrong.\nTresholds: High: " ++
      toString t.highThreshold ++ ", Medium: " ++ toString t.medThreshold ++ ", Low: " ++
      toString t.lowThreshold))
  let sc ← holdingAccount.signers.foldlM (SigningConditions.add sk) {}
  let some refundTxHashFromSigningConditions := sc.refundTxHashFromSigningConditions
    | throw (.error "Missing refund transaction hash as signer")
  let some secretHash := sc.secretHash | throw (.error "Missing secret as signer")
  if sc.recipientAddress = "" then throw (.error "Missing recipient as signer")
  let refundTx := { cmd.refundTx with network := targetNetwork }
  let refundTxHash ← (refundTx.hash c).mapError fun e =>
    .error ("Unable to hash the passed refund transaction: " ++ e)
  if refundTxHashFromSigningConditions ≠ refundTxHash then
    throw (.error ("Refund transaction hash in the signing condition is not equal to the " ++
      "one of the passed refund transaction"))
  let lockTime := refundTx.timebounds.minTime
  match refundTx.operations with
  | [.accountMerge destination sourceAccount] =>
    match sourceAccount with
    | none => throw (.panic nilDereference)
    | some source =>
      if source ≠ cmd.holdingAccountAdress then
        throw (.error ("The refund transaction does not refund from the holding account but from " ++
          source))
      else return ⟨cmd.holdingAccountAdress, balance, sc.recipientAddress, destination,
        secretHash, lockTime⟩
  | [op] =>
    throw (.error ("Expecting an accountmerge operation in the refund transaction but got a " ++
      op.typeName))
  | ops =>
    throw (.error ("Refund transaction is expected to have 1 operation instead of " ++
      toString ops.length))

/-! ## What a run returns -/

/-- The command ends normally exactly when every check passes; the report is then made of
what the checks found. -/
theorem AuditContractCmd.runCommand_eq_ok {sk : StrKey} {c : Crypto} {net : String} {client : ClientInterface σ} {s : σ}
    {cmd : AuditContractCmd} {r : AuditReport} :
    AuditContractCmd.runCommand sk c net client s cmd = .ok r ↔
    ∃ acc balance sc refundHash secretHash destination,
      client.accountDetail s cmd.holdingAccountAdress = .ok acc ∧
      acc.getNativeBalance = .ok balance ∧
      acc.thresholds.highThreshold = 2 ∧ acc.thresholds.medThreshold = 2 ∧
      acc.thresholds.lowThreshold = 2 ∧
      acc.signers.foldlM (SigningConditions.add sk) {} = .ok sc ∧
      sc.refundTxHashFromSigningConditions = some refundHash ∧ sc.secretHash = some secretHash ∧
      sc.recipientAddress ≠ "" ∧
      { cmd.refundTx with network := net }.hash c = .ok refundHash ∧
      cmd.refundTx.operations = [.accountMerge destination (some cmd.holdingAccountAdress)] ∧
      r = ⟨cmd.holdingAccountAdress, balance, sc.recipientAddress, destination, secretHash,
        cmd.refundTx.timebounds.minTime⟩ := by
  constructor
  · intro h
    simp only [AuditContractCmd.runCommand, bind_eq_ok, mapError_eq_ok] at h
    obtain ⟨acc, hacc, balance, hb, h⟩ := h
    split at h
    · cases h
    rename_i hthr
    simp only [not_or, not_not] at hthr
    simp only [pure_bind, bind_eq_ok] at h
    obtain ⟨sc, hsc, h⟩ := h
    cases hrh : sc.refundTxHashFromSigningConditions with
    | none => rw [hrh] at h; cases h
    | some rh =>
    cases hsh : sc.secretHash with
    | none => simp only [hrh, hsh] at h; cases h
    | some sh =>
    simp only [hrh, hsh] at h
    split at h
    · cases h
    rename_i hrec
    simp only [pure_bind, bind_eq_ok, mapError_eq_ok] at h
    obtain ⟨h', hh, h⟩ := h
    split at h
    · cases h
    rename_i heq
    simp only [pure_bind, ne_eq, not_not] at h heq
    subst heq
    split at h
    · rename_i dest src hops
      cases src with
      | none => cases h
      | some src =>
        dsimp only at h
        split at h
        · cases h
        rename_i hsrc
        simp only [not_not, pure_eq_ok] at hsrc h
        subst hsrc
        exact ⟨acc, balance, sc, rh, sh, dest, hacc, hb, hthr.1, hthr.2.1, hthr.2.2, hsc, hrh,
          hsh, hrec, hh, hops, h.symm⟩
    · cases h
    · cases h
  · rintro ⟨acc, balance, sc, rh, sh, dest, hacc, hb, h1, h2, h3, hsc, hrh, hsh, hrec, hh, hops, rfl⟩
    simp only [AuditContractCmd.runCommand, Except.mapError, hacc, ne_eq, hh, ite_not, throw_bind, pure_bind,
      ok_bind, hb, h1, not_true_eq_false, h2, h3, or_self, if_false, hsc, hrh, hsh, hrec]
    simp only [hops, ne_eq, not_true_eq_false, if_false]
    rfl

/-! ## A configured holding account -/

/-- Thirty-two bytes `k`, a key or a hash of the samples. -/
def sampleBytes (k : UInt8) : List UInt8 := List.replicate 32 k

/-- The network of the samples. -/
def sampleNetwork : String := "Test SDF Network ; September 2015"

/-- A refund envelope of the holding account `sampleBytes 1` into `sampleBytes 2`, at
sequence 5, not before time 100. Its merge names its source when `explicit`; otherwise it
acts on the transaction's source, the same account. -/
def sampleRefund (explicit : Bool) : TransactionEnvelope :=
  ⟨⟨sampleBytes 1, minBaseFee, 5, some ⟨100, 0⟩,
    [⟨if explicit then some (sampleBytes 1) else none, .accountMerge (sampleBytes 2)⟩]⟩, []⟩

/-- The holding account as the builder configures it, for the recipient `sampleBytes 3`, the
secret hash `sampleBytes 4` and the refund envelope `env`. -/
def sampleEscrow (env : TransactionEnvelope) : AccountEntry :=
  ⟨10 ^ 8, 4, 0, 2, 2, 2, [⟨.ed25519 (sampleBytes 3), 1⟩, ⟨.hashX (sampleBytes 4), 1⟩,
    ⟨.preAuthTx (Crypto.plain.transactionHash env.tx sampleNetwork), 2⟩], false, 0⟩

/-- A ledger whose only account is the holding account `sampleBytes 1`. -/
def sampleLedger (e : AccountEntry) : Ledger :=
  ⟨fun a => if a = sampleBytes 1 then some e else none, sampleNetwork, 1, 0⟩

/-- The audit of the holding account with the refund envelope `env`. -/
def sampleAudit (env : TransactionEnvelope) : AuditContractCmd :=
  ⟨transactionFromXDR .hexText env, StrKey.hexText.encode .accountID (sampleBytes 1)⟩

/-- The report of the audit of the sample. -/
def sampleReport : AuditReport :=
  ⟨StrKey.hexText.encode .accountID (sampleBytes 1), amountString (10 ^ 8),
    StrKey.hexText.encode .accountID (sampleBytes 3), StrKey.hexText.encode .accountID (sampleBytes 2),
    sampleBytes 4, 100⟩

theorem sampleLedger_accounts (e : AccountEntry) :
    (sampleLedger e).accounts (sampleBytes 1) = some e := by simp [sampleLedger]

theorem sampleAudit_refund (explicit : Bool) :
    { (sampleAudit (sampleRefund explicit)).refundTx with network := sampleNetwork }.hash .plain =
      .ok (Crypto.plain.transactionHash (sampleRefund explicit).tx sampleNetwork) :=
  Crypto.hashTransaction_of_not_blank _ _ (by decide : isBlank sampleNetwork = false)

theorem sampleEscrow_signers (env : TransactionEnvelope) :
    (((sampleEscrow env).toHorizon .hexText (sampleBytes 1)).signers.filter (·.weight ≠ 0)).Perm
      [⟨1, StrKey.hexText.encode .accountID (sampleBytes 3), keyTypeNames .accountID⟩,
       ⟨1, StrKey.hexText.encode .hashX (sampleBytes 4), keyTypeNames .hashX⟩,
       ⟨2, StrKey.hexText.encode .hashTx (Crypto.plain.transactionHash env.tx sampleNetwork),
         keyTypeNames .hashTx⟩] := by
  rw [AccountEntry.toHorizon_signers, AccountEntry.horizonSigners_filter _ rfl]
  rfl

theorem sampleEscrow_secret :
    IsSecretSigner .hexText ⟨1, StrKey.hexText.encode .hashX (sampleBytes 4), keyTypeNames .hashX⟩
      (sampleBytes 4) := ⟨rfl, rfl, StrKey.decode_encode _ _ _⟩

theorem sampleEscrow_refund (env : TransactionEnvelope) :
    IsRefundSigner .hexText
      ⟨2, StrKey.hexText.encode .hashTx (Crypto.plain.transactionHash env.tx sampleNetwork),
        keyTypeNames .hashTx⟩ (Crypto.plain.transactionHash env.tx sampleNetwork) :=
  ⟨rfl, rfl, StrKey.decode_encode _ _ _⟩

theorem sampleAudit_run :
    AuditContractCmd.runCommand .hexText .plain sampleNetwork
      (Ledger.client .hexText .plain History.empty) (sampleLedger (sampleEscrow (sampleRefund true)))
      (sampleAudit (sampleRefund true)) = .ok sampleReport :=
  AuditContractCmd.runCommand_eq_ok.mpr ⟨(sampleEscrow (sampleRefund true)).toHorizon .hexText (sampleBytes 1),
    amountString (10 ^ 8), _, _, sampleBytes 4, StrKey.hexText.encode .accountID (sampleBytes 2),
    Ledger.accountDetail_encode StrKey.hexText (sampleLedger_accounts _), rfl, rfl, rfl, rfl,
    SigningConditions.foldlM_eq_of_perm (sampleEscrow_signers _) rfl
      (StrKey.hexText.encode_ne_empty _ _) sampleEscrow_secret (sampleEscrow_refund _),
    rfl, rfl, StrKey.hexText.encode_ne_empty _ _, sampleAudit_refund true, rfl,
    by simp [sampleReport, sampleAudit, transactionFromXDR, sampleRefund, newTimebounds,
      toInt64_of_lt]⟩

/-! ## Soundness -/

/-- Any signers of `signers` whose weights reach the threshold 2 include the refund signer,
or both the recipient and the secret signer. -/
def Quorum (signers : List HorizonSigner) (recipient secret refund : HorizonSigner) : Prop :=
  ∀ S : List HorizonSigner, S.Sublist signers → 2 ≤ (S.map (·.weight)).sum →
    refund ∈ S ∨ recipient ∈ S ∧ secret ∈ S

theorem sum_weight_filter (S : List HorizonSigner) :
    ((S.filter (·.weight ≠ 0)).map (·.weight)).sum = (S.map (·.weight)).sum := by
  induction S with
  | nil => rfl
  | cons a S ih => by_cases h : a.weight = 0 <;> simp_all [List.filter_cons]

theorem quorum_of_perm {signers : List HorizonSigner} {r x t : HorizonSigner}
    (hp : (signers.filter (·.weight ≠ 0)).Perm [r, x, t]) (hr : r.weight = 1)
    (hx : x.weight = 1) (ht : t.weight = 2) : Quorum signers r x t := by
  intro S hS hw
  obtain ⟨l, hl, hsub⟩ := ((hS.filter _).subperm.trans hp.subperm)
  have hmem : ∀ y, y.weight ≠ 0 → (y ∈ S ↔ y ∈ l) := fun y hy => by
    rw [hl.mem_iff, List.mem_filter]; simp [hy]
  rw [← sum_weight_filter, ← (hl.map (·.weight)).sum_eq] at hw
  rw [hmem t (by omega), hmem r (by omega), hmem x (by omega)]
  rw [← List.mem_sublists] at hsub
  simp [List.sublists] at hsub
  rcases hsub with rfl | rfl | rfl | rfl | rfl | rfl | rfl | rfl <;> simp [hr, hx, ht] at hw ⊢

/-- What an accepted audit says of the fetched record `acc`, of the claimed refund
transaction, and of the report `r`. -/
structure AuditAccepted (sk : StrKey) (c : Crypto) (targetNetwork : String)
    (acc : HorizonAccount) (cmd : AuditContractCmd) (r : AuditReport) : Prop where
  thresholds : acc.thresholds.lowThreshold = 2 ∧ acc.thresholds.medThreshold = 2 ∧
    acc.thresholds.highThreshold = 2
  signers : ∃ secret refund : HorizonSigner,
    (acc.signers.filter (·.weight ≠ 0)).Perm
      [⟨1, r.recipientAddress, keyTypeNames .accountID⟩, secret, refund] ∧
    IsSecretSigner sk secret r.secretHash ∧
    (∃ h, IsRefundSigner sk refund h ∧ { cmd.refundTx with network := targetNetwork }.hash c = .ok h) ∧
    Quorum acc.signers ⟨1, r.recipientAddress, keyTypeNames .accountID⟩ secret refund
  refundTx : cmd.refundTx.operations = [.accountMerge r.refundAddress (some cmd.holdingAccountAdress)]
  report : r.contractAddress = cmd.holdingAccountAdress ∧ acc.getNativeBalance = .ok r.contractValue ∧
    r.lockTime = cmd.refundTx.timebounds.minTime

theorem auditContract_sound {sk : StrKey} {c : Crypto} {targetNetwork : String}
    {client : ClientInterface σ} {s : σ} {cmd : AuditContractCmd} {r : AuditReport}
    {acc : HorizonAccount} (hacc : client.accountDetail s cmd.holdingAccountAdress = .ok acc)
    (hkeys : ∀ x ∈ acc.signers, x.key ≠ "")
    (h : AuditContractCmd.runCommand sk c targetNetwork client s cmd = .ok r) :
    AuditAccepted sk c targetNetwork acc cmd r := by
  obtain ⟨acc', balance, sc, rh, sh, dest, hacc', hb, h1, h2, h3, hsc, hrh, hsh, hrec, hh, hops,
    rfl⟩ := AuditContractCmd.runCommand_eq_ok.mp h
  obtain rfl : acc' = acc := by simpa [hacc] using hacc'.symm
  obtain ⟨rs, xs, ts, hp, hr, hx, ht⟩ := (SigningConditions.holds_nil sk).foldlM hsc hkeys
  simp only [SigningConditions.recipient?, if_neg hrec, Slot] at hr
  simp only [hsh, Slot] at hx
  simp only [hrh, Slot] at ht
  obtain ⟨r', rfl, hr'⟩ := hr
  obtain ⟨x, rfl, hx'⟩ := hx
  obtain ⟨t, rfl, ht'⟩ := ht
  subst hr'
  refine ⟨⟨h3, h2, h1⟩, ⟨x, t, by simpa using hp, hx', ⟨rh, ht', hh⟩,
    quorum_of_perm (by simpa using hp) rfl hx'.1 ht'.1⟩, hops, rfl, hb, rfl⟩

theorem sampleAudit_accepted :
    AuditAccepted .hexText .plain sampleNetwork
      ((sampleEscrow (sampleRefund true)).toHorizon .hexText (sampleBytes 1))
      (sampleAudit (sampleRefund true)) sampleReport :=
  auditContract_sound (Ledger.accountDetail_encode StrKey.hexText (sampleLedger_accounts _))
    (by simp [AccountEntry.horizonSigners, AccountEntry.allSigners, sampleEscrow, SignerKey.address])
    sampleAudit_run

/-! ## Completeness, and the one runtime fault -/

section Complete

variable {sk : StrKey} {c : Crypto} {targetNetwork : String} {client : ClientInterface σ} {s : σ}
  {cmd : AuditContractCmd} {acc : HorizonAccount} {balance destination : String}
  {r x t : HorizonSigner} {R : String} {H h : List UInt8}

theorem auditContract_complete (hacc : client.accountDetail s cmd.holdingAccountAdress = .ok acc)
    (hb : acc.getNativeBalance = .ok balance) (hthr : acc.thresholds = ⟨2, 2, 2⟩)
    (hp : (acc.signers.filter (·.weight ≠ 0)).Perm [r, x, t])
    (hr : IsRecipient r R) (hR : R ≠ "") (hx : IsSecretSigner sk x H) (ht : IsRefundSigner sk t h)
    (hh : { cmd.refundTx with network := targetNetwork }.hash c = .ok h)
    (hops : cmd.refundTx.operations = [.accountMerge destination (some cmd.holdingAccountAdress)]) :
    AuditContractCmd.runCommand sk c targetNetwork client s cmd =
      .ok ⟨cmd.holdingAccountAdress, balance, R, destination, H, cmd.refundTx.timebounds.minTime⟩ :=
  AuditContractCmd.runCommand_eq_ok.mpr ⟨acc, balance, _, h, H, destination, hacc, hb,
    by rw [hthr], by rw [hthr], by rw [hthr], SigningConditions.foldlM_eq_of_perm hp hr hR hx ht,
    rfl, rfl, hR, hh, hops, rfl⟩

/-- A configured holding account, with a refund transaction whose merge leaves its source to
the transaction's: the audit calls a method on the merge's nil source account and panics. -/
theorem auditContract_panics_of_implicit_source
    (hacc : client.accountDetail s cmd.holdingAccountAdress = .ok acc)
    (hb : acc.getNativeBalance = .ok balance) (hthr : acc.thresholds = ⟨2, 2, 2⟩)
    (hp : (acc.signers.filter (·.weight ≠ 0)).Perm [r, x, t])
    (hr : IsRecipient r R) (hR : R ≠ "") (hx : IsSecretSigner sk x H) (ht : IsRefundSigner sk t h)
    (hh : { cmd.refundTx with network := targetNetwork }.hash c = .ok h)
    (hops : cmd.refundTx.operations = [.accountMerge destination none]) :
    AuditContractCmd.runCommand sk c targetNetwork client s cmd = .error (.panic nilDereference) := by
  simp only [hops] at hh
  simp [AuditContractCmd.runCommand, hacc, hb, hthr, SigningConditions.foldlM_eq_of_perm hp hr hR hx ht,
    hR, hh, hops, Except.mapError]

/-- Every other way the audit ends abnormally is one of its errors. -/
theorem AuditContractCmd.runCommand_eq_panic {m : String}
    (h : AuditContractCmd.runCommand sk c targetNetwork client s cmd = .error (.panic m)) :
    m = nilDereference ∧ ∃ destination, cmd.refundTx.operations = [.accountMerge destination none] := by
  unfold AuditContractCmd.runCommand at h
  cases h1 : client.accountDetail s cmd.holdingAccountAdress with
  | error => rw [h1] at h; cases h
  | ok acc =>
  cases h2 : acc.getNativeBalance with
  | error => rw [h1] at h; simp only [Except.mapError, ok_bind, h2] at h; cases h
  | ok balance =>
  simp only [h1, h2, Except.mapError, ok_bind] at h
  split at h
  · cases h
  cases h3 : acc.signers.foldlM (SigningConditions.add sk) {} with
  | error e =>
    simp only [h3, pure_bind, error_bind, Except.error.injEq] at h
    exact absurd (h ▸ h3) (SigningConditions.foldlM_ne_panic _ _)
  | ok sc =>
  simp only [h3, pure_bind, ok_bind] at h
  cases hr : sc.refundTxHashFromSigningConditions <;> simp only [hr, throw_eq_error, reduceCtorEq] at h
  cases hs : sc.secretHash <;> simp only [hs, throw_eq_error, reduceCtorEq] at h
  split at h
  · cases h
  cases h4 : ({ cmd.refundTx with network := targetNetwork }.hash c) with
  | error => rw [h4] at h; cases h
  | ok rh =>
  simp only [h4, Except.mapError, ok_bind] at h
  split at h
  · cases h
  split at h
  · rename_i dest src hops
    cases src with
    | none => exact ⟨Failure.panic.inj (throw_eq_error.mp h).symm, dest, hops⟩
    | some src =>
      by_cases hsrc : src = cmd.holdingAccountAdress <;> simp [hsrc, pure, Except.pure] at h
  · cases h
  · cases h

end Complete

/-! ## The master key -/

/-- A holding account whose master key keeps weight 1, with the secret and the refund
signers besides and no other account signer, passes the audit: horizon lists the master key
as an account signer, and the audit takes it for the recipient. -/
theorem auditContract_accepts_live_master_key {sk : StrKey} {c : Crypto} {net : String}
    {history : History} {L : Ledger} {e H h : List UInt8} {entry : AccountEntry}
    {cmd : AuditContractCmd} {destination : String} (he : L.accounts e = some entry)
    (hE : cmd.holdingAccountAdress = sk.encode .accountID e) (hm : entry.masterWeight = 1)
    (hthr : entry.lowThreshold = 2 ∧ entry.medThreshold = 2 ∧ entry.highThreshold = 2)
    (hs : entry.signers = [⟨.hashX H, 1⟩, ⟨.preAuthTx h, 2⟩])
    (hh : { cmd.refundTx with network := net }.hash c = .ok h)
    (hops : cmd.refundTx.operations = [.accountMerge destination (some cmd.holdingAccountAdress)]) :
    AuditContractCmd.runCommand sk c net (Ledger.client sk c history) L cmd =
      .ok ⟨cmd.holdingAccountAdress, amountString entry.balance, cmd.holdingAccountAdress,
        destination, H, cmd.refundTx.timebounds.minTime⟩ := by
  obtain ⟨h1, h2, h3⟩ := hthr
  have hp : ((entry.toHorizon sk e).signers.filter (·.weight ≠ 0)).Perm
      [⟨1, cmd.holdingAccountAdress, keyTypeNames .accountID⟩, ⟨1, sk.encode .hashX H, keyTypeNames .hashX⟩,
        ⟨2, sk.encode .hashTx h, keyTypeNames .hashTx⟩] := .of_eq <| by
    simp [AccountEntry.horizonSigners, AccountEntry.allSigners, hm, hs, hE, SignerKey.address,
      SignerKey.version, SignerKey.payload]
  have hR : cmd.holdingAccountAdress ≠ "" := hE ▸ sk.encode_ne_empty _ _
  exact AuditContractCmd.runCommand_eq_ok.mpr ⟨entry.toHorizon sk e, _, _, h, H, destination,
    hE ▸ Ledger.accountDetail_encode sk he, rfl, by simp [h3], by simp [h2], by simp [h1],
    SigningConditions.foldlM_eq_of_perm hp rfl hR ⟨rfl, rfl, sk.decode_encode _ _⟩
      ⟨rfl, rfl, sk.decode_encode _ _⟩, rfl, rfl, hR, hh, hops, rfl⟩

theorem sampleAudit_live_master_key :
    AuditContractCmd.runCommand .hexText .plain sampleNetwork
      (Ledger.client .hexText .plain History.empty)
      (sampleLedger { sampleEscrow (sampleRefund true) with
        masterWeight := 1, signers := (sampleEscrow (sampleRefund true)).signers.tail })
      (sampleAudit (sampleRefund true)) =
      .ok ⟨StrKey.hexText.encode .accountID (sampleBytes 1), amountString (10 ^ 8),
        StrKey.hexText.encode .accountID (sampleBytes 1), StrKey.hexText.encode .accountID (sampleBytes 2),
        sampleBytes 4, (sampleAudit (sampleRefund true)).refundTx.timebounds.minTime⟩ :=
  @auditContract_accepts_live_master_key .hexText .plain sampleNetwork History.empty _ _ _ _
    { sampleEscrow (sampleRefund true) with
      masterWeight := 1, signers := (sampleEscrow (sampleRefund true)).signers.tail } _ _
    (sampleLedger_accounts _) rfl rfl ⟨rfl, rfl, rfl⟩ rfl (sampleAudit_refund true) rfl

end StellarAtomicSwap
