/-
`extractsecret` (`extractSecretCmd.runCommand`): the secret, read back from the transaction
that spent the holding account. The command reads one page of the holding account's
effects, takes the transaction of each `account_debited` effect on it, and searches the
single one for a signature whose SHA-256, in `%x` text, is the secret hash argument.

What the page decides (`ExtractSecretCmd.runCommand_classify`): only the first 100 effects
count, and a transaction counts once for each of its debit effects. What the search finds
(`extractSecret_hexString`), and that it finds the secret `redeem` signs with
(`redeem_extract`). The hash argument is compared as text, not as bytes: only the lowercase
spelling of a hash finds anything.
-/
import StellarAtomicSwap.Redeem
import StellarAtomicSwap.RoundTrip

namespace StellarAtomicSwap

open Stellar

/-- `extractSecretCmd`. -/
structure ExtractSecretCmd where
  holdingAccountAdress : String
  secretHash : String

section Extract

variable (b64 : Base64) (c : Crypto) (secretHash : String)

/-- The signature loop of `extractSecretCmd.runCommand`: the first signature, base64
decoded, of at most the XDR maximum size, whose SHA-256 in `%x` text is the secret hash
argument. -/
def findSecret : List String → Except Failure (Option (List UInt8))
  | [] => .ok none
  | rawSignature :: rest =>
    match b64.decodeString rawSignature with
    | .error e => .error (.error ("Error base64 decoding signature :" ++ e))
    | .ok decodedSignature =>
      if decodedSignature.length > signatureMaxSize then findSecret rest
      else if hexString (c.sha256 decodedSignature) = secretHash then .ok (some decodedSignature)
      else findSecret rest

/-- The search of the spending transaction: the loop, and the check that it found a
secret. -/
def extractSecret (tx : TransactionRecord) : Except Failure (List UInt8) := do
  match ← findSecret b64 c secretHash tx.signatures with
  | some extractedSecret => return extractedSecret
  | none => throw (.error "Unable to find the matching secret")

/-- `extractSecretCmd.runCommand`, up to printing: the secret it prints. -/
def ExtractSecretCmd.runCommand {σ : Type} (client : ClientInterface σ) (s : σ)
    (cmd : ExtractSecretCmd) : Except Failure (List UInt8) := do
  let transactions ← (getAccountDebitediTransactions client s cmd.holdingAccountAdress).mapError
    (Failure.wrap "Error getting the transaction that debited the holdingAccount: ")
  match transactions with
  | [tx] => extractSecret b64 c cmd.secretHash tx
  | [] => throw (.error "The holdingaccount has not been redeemed yet")
  | _ => throw (.error "Multiple spending transactions found")

end Extract

/-! ## What the page decides -/

section Page

variable {σ : Type} {client : ClientInterface σ} {s : σ}

/-- A debit effect the client resolves: an `AccountDebited` record whose operation and
transaction the client finds. -/
def Resolves (client : ClientInterface σ) (s : σ) (r : EffectRecord) : Prop :=
  r.getType = "account_debited" → ∃ href op tx, r = .accountDebited href ∧
    client.operationDetail s (getIDFromLink href) = .ok op ∧ client.transactionDetail s op.transactionHash = .ok tx

/-- Debit effect `r` resolves to transaction `tx`: the client finds the operation `r` links
to, and `tx` as that operation's transaction. -/
def ResolvesTo (client : ClientInterface σ) (s : σ) (r : EffectRecord) (tx : TransactionRecord) : Prop :=
  ∃ href op, r = .accountDebited href ∧ client.operationDetail s (getIDFromLink href) = .ok op ∧
    client.transactionDetail s op.transactionHash = .ok tx

/-- **Run lemma of the page loop.** The loop ends normally on a page whose debit effects
resolve, with the transaction of each debit effect, in order. -/
theorem debitedTransactions_ok :
    ∀ {rs : List EffectRecord}, (∀ r ∈ rs, Resolves client s r) →
      ∃ txs, debitedTransactions client s rs = .ok txs ∧
        List.Forall₂ (ResolvesTo client s) (rs.filter (·.getType == "account_debited")) txs
  | [], _ => ⟨[], rfl, .nil⟩
  | r :: rs, hres => by
    obtain ⟨txs, hrs, hf⟩ := debitedTransactions_ok fun r' hr' => hres r' (List.mem_cons_of_mem _ hr')
    by_cases hd : r.getType = "account_debited"
    · obtain ⟨href, op, tx, rfl, hop, htx⟩ := hres r (List.mem_cons_self _ _) hd
      refine ⟨tx :: txs, ?_, ?_⟩
      · simp [debitedTransactions, EffectRecord.getType, hop, htx, hrs]
      · simpa [List.filter_cons, EffectRecord.getType] using List.Forall₂.cons ⟨href, op, rfl, hop, htx⟩ hf
    · refine ⟨txs, ?_, by simpa [List.filter_cons, hd] using hf⟩
      simp [debitedTransactions, hd, hrs]

theorem findSecret_error {b64 : Base64} {c : Crypto} {secretHash : String} {m : String} :
    ∀ {sigs : List String}, findSecret b64 c secretHash sigs = .error (.error m) →
      ∃ e, m = "Error base64 decoding signature :" ++ e
  | [], h => by cases h
  | raw :: rest, h => by
    unfold findSecret at h
    split at h
    · cases h; exact ⟨_, rfl⟩
    · split_ifs at h
      · exact findSecret_error h
      · exact findSecret_error h

/-- The search stops with neither of the page's messages. -/
theorem extractSecret_error {b64 : Base64} {c : Crypto} {secretHash : String} {tx : TransactionRecord}
    {m : String} (h : extractSecret b64 c secretHash tx = .error (.error m)) :
    m ≠ "The holdingaccount has not been redeemed yet" ∧ m ≠ "Multiple spending transactions found" := by
  unfold extractSecret at h
  rcases hf : findSecret b64 c secretHash tx.signatures with e | (_ | secret) <;> rw [hf] at h
  · cases h
    obtain ⟨e, rfl⟩ := findSecret_error hf
    constructor <;> intro he <;> simpa using congrArg (fun s => s.data.head?) he
  · cases h; decide
  · cases h

end Page

/-! ## What the search finds -/

section Search

variable {b64 : Base64} {c : Crypto} {secretHash : String}

/-- With every signature valid base64, the loop finds the first decoded signature, of at
most the maximum size, whose SHA-256 in `%x` text is the argument. -/
theorem findSecret_eq_find : ∀ {sigs : List String} {ds : List (List UInt8)},
    sigs.mapM b64.decodeString = .ok ds →
    findSecret b64 c secretHash sigs =
      .ok (ds.find? fun d => decide (d.length ≤ signatureMaxSize) && hexString (c.sha256 d) == secretHash)
  | [], ds, h => by
    simp only [List.mapM_nil, pure, Except.pure, Except.ok.injEq] at h
    subst h; rfl
  | raw :: rest, ds, h => by
    rw [List.mapM_cons] at h
    cases hd : b64.decodeString raw with
    | error e => simp [hd] at h
    | ok d =>
      obtain ⟨ds', hrest, rfl⟩ : ∃ ds', rest.mapM b64.decodeString = .ok ds' ∧ ds = d :: ds' := by
        cases hr : rest.mapM b64.decodeString <;> simp_all [pure, Except.pure]
      rw [findSecret, hd, findSecret_eq_find hrest, List.find?_cons]
      by_cases hl : d.length ≤ signatureMaxSize
      · by_cases hh : hexString (c.sha256 d) = secretHash
        · simp [hl, hh]
        · simp [hl, hh, beq_false_of_ne hh]
      · simp [hl]

/-- **The search for the `%x` text of a hash.** With every signature valid base64, the search
for the lowercase hex of `D` ends normally exactly when some signature of at most the maximum
size has SHA-256 `D`, and then gives the first. -/
theorem extractSecret_hexString {tx : TransactionRecord} {ds : List (List UInt8)} {D secret : List UInt8}
    (h : tx.signatures.mapM b64.decodeString = .ok ds) :
    extractSecret b64 c (hexString D) tx = .ok secret ↔
      ds.find? (fun d => decide (d.length ≤ signatureMaxSize) && c.sha256 d == D) = some secret := by
  unfold extractSecret
  rw [findSecret_eq_find h]
  simp only [hexString_beq, ok_bind]
  split
  · rename_i x hx
    simp [hx, pure, Except.pure]
  · rename_i hx
    simp [hx, throw, throwThe, MonadExceptOf.throw]

/-- Horizon's record of a submitted envelope: its hash, and the envelope's signatures in
order, base64 encoded. -/
def TransactionRecord.ofEnvelope (b64 : Base64) (hash : String) (env : TransactionEnvelope) :
    TransactionRecord :=
  ⟨hash, env.signatures.map fun sig => b64.encodeToString sig.signature⟩

/-- **A preimage in an envelope is found.** When an envelope's signatures, none longer than an
XDR signature, hold a preimage of `H`, the search of the envelope's horizon record for the `%x`
text of `H` finds a preimage of `H`, whatever the record's hash. -/
theorem extractSecret_ofEnvelope {txHash H : List UInt8} {env : TransactionEnvelope}
    (hx : (SignerKey.hashX H).satisfiedBy c txHash env.signatures)
    (hwire : ∀ sig ∈ env.signatures, sig.signature.length ≤ signatureMaxSize) :
    ∃ secret, c.sha256 secret = H ∧ secret.length ≤ signatureMaxSize ∧
      ∀ hash, extractSecret b64 c (hexString H) (TransactionRecord.ofEnvelope b64 hash env) = .ok secret := by
  let p := fun d : List UInt8 => decide (d.length ≤ signatureMaxSize) && c.sha256 d == H
  obtain ⟨sig, hsig, hH⟩ := List.any_eq_true.mp hx
  obtain ⟨secret, hfind⟩ : ∃ secret, (env.signatures.map (·.signature)).find? p = some secret :=
    Option.isSome_iff_exists.mp (List.find?_isSome.mpr
      ⟨sig.signature, List.mem_map_of_mem _ hsig, by simpa [p, hwire sig hsig] using hH⟩)
  have hp : p secret = true := List.find?_some hfind
  simp only [p, Bool.and_eq_true, decide_eq_true_eq, beq_iff_eq] at hp
  refine ⟨secret, hp.2, hp.1, fun hash => ?_⟩
  have hdec : (TransactionRecord.ofEnvelope b64 hash env).signatures.mapM b64.decodeString =
      .ok (env.signatures.map (·.signature)) := by
    simpa only [List.map_map, Function.comp_def] using b64.mapM_decode_encode (env.signatures.map (·.signature))
  unfold extractSecret
  rw [findSecret_eq_find hdec]
  simp only [hexString_beq]
  rw [hfind]
  rfl

/-- The search of an envelope's record whose first signature is a secret no longer than an XDR
signature finds that secret. -/
theorem extractSecret_ofEnvelope_first {secret hint : List UInt8} {tx : XdrTransaction}
    {sigs : List DecoratedSignature} (hs : secret.length ≤ signatureMaxSize) (hash : String) :
    extractSecret b64 c (hexString (c.sha256 secret))
      (TransactionRecord.ofEnvelope b64 hash ⟨tx, ⟨hint, secret⟩ :: sigs⟩) = .ok secret := by
  simp [extractSecret, TransactionRecord.ofEnvelope, findSecret, not_lt.mpr hs, pure, Except.pure]

/-- With one spending transaction on the page, `extractsecret` is the search of that one. -/
theorem ExtractSecretCmd.runCommand_of_single {σ : Type} {client : ClientInterface σ} {s : σ}
    {cmd : ExtractSecretCmd} {tx : TransactionRecord}
    (hget : getAccountDebitediTransactions client s cmd.holdingAccountAdress = .ok [tx]) :
    cmd.runCommand b64 c client s = extractSecret b64 c cmd.secretHash tx := by
  simp only [ExtractSecretCmd.runCommand, hget, mapError_ok, ok_bind]

/-- **Redeem/extract round trip.** `redeem` with a secret no longer than a signature submits
the merge of the holding account signed with the secret first and the receiver's key. The
search of that envelope's horizon record, whatever its hash, for the `%x` text of the secret's
SHA-256 finds the secret, and so does `extractsecret` once the record is the one transaction
that debited the holding account. -/
theorem redeem_extract {sk : StrKey} {hist : History} {net : String} {L : Ledger} {e : List UInt8}
    {ee : AccountEntry} {kp : KeyPairFull} {secret : List UInt8} (he : L.accounts e = some ee)
    (he32 : e.length = 32) (hseq : 0 ≤ ee.seqNum ∧ ee.seqNum + 1 < 2 ^ 63)
    (hs : secret.length ≤ signatureMaxSize) (hn : isBlank net = false) :
    let xtx := redeemTransactionXdr e (c.publicKey kp.seed) (ee.seqNum + 1)
    let env : TransactionEnvelope :=
      ⟨xtx, [⟨(c.sha256 secret).drop 28, secret⟩, kp.signDecorated c (c.transactionHash xtx net)]⟩
    RedeemCmd.runCommand sk c net (Ledger.client sk c hist) ⟨kp, sk.encode .accountID e, secret⟩ L =
        submitTransaction (Ledger.client sk c hist) env L ∧
      (∀ hash, extractSecret b64 c (hexString (c.sha256 secret)) (TransactionRecord.ofEnvelope b64 hash env) =
        .ok secret) ∧
      ∀ {σ : Type} (client : ClientInterface σ) (s : σ) (hash : String),
        getAccountDebitediTransactions client s (sk.encode .accountID e) =
          .ok [TransactionRecord.ofEnvelope b64 hash env] →
        ExtractSecretCmd.runCommand b64 c client s ⟨sk.encode .accountID e, hexString (c.sha256 secret)⟩ =
          .ok secret :=
  ⟨RedeemCmd.runCommand_eq_submitTransaction he he32 hseq hs hn, extractSecret_ofEnvelope_first hs,
    fun _ _ hash hget => (ExtractSecretCmd.runCommand_of_single hget).trans (extractSecret_ofEnvelope_first hs hash)⟩

end Search

/-! ## A holding account's history -/

/-- A client over no state whose holding account has the effects `h`, oldest first, served
`limit` at a time, and each of whose operations belongs to the transaction `tx`. -/
def historyClient (h : List EffectRecord) (tx : TransactionRecord) : ClientInterface Unit where
  accountDetail _ _ := .error resourceMissing
  effects _ _ limit := .ok (h.take limit)
  operationDetail _ _ := .ok ⟨tx.hash⟩
  transactionDetail _ _ := .ok tx
  submitTransactionXDR _ _ := (.error resourceMissing, ())

/-- A spending transaction whose one signature is the secret `sampleBytes 171`, as `redeem`
signs with it. -/
def sampleSpend : TransactionRecord := ⟨"", [Base64.hexText.encodeToString (sampleBytes 171)]⟩

/-- The hash argument is compared as `%x` text: its uppercase spelling, which hex decodes to
the same hash, finds nothing where the lowercase one finds the secret. -/
theorem runCommand_uppercase_hash :
    hexDecodeString "ABABABABABABABABABABABABABABABABABABABABABABABABABABABABABABABAB" = .ok (Crypto.plain.sha256 (sampleBytes 171)) ∧
    ExtractSecretCmd.runCommand .hexText .plain (historyClient [.accountDebited "operations/1"] sampleSpend) ()
        ⟨"", hexString (Crypto.plain.sha256 (sampleBytes 171))⟩ = .ok (sampleBytes 171) ∧
    ExtractSecretCmd.runCommand .hexText .plain (historyClient [.accountDebited "operations/1"] sampleSpend) ()
        ⟨"", "ABABABABABABABABABABABABABABABABABABABABABABABABABABABABABABABAB"⟩ = .error (.error "Unable to find the matching secret") :=
  ⟨rfl, rfl, rfl⟩

theorem extractSecret_hexString_sample :
    extractSecret .hexText .plain (hexString (Crypto.plain.sha256 (sampleBytes 171))) sampleSpend =
        .ok (sampleBytes 171) ↔
      [sampleBytes 171].find? (fun d => decide (d.length ≤ signatureMaxSize) &&
        Crypto.plain.sha256 d == Crypto.plain.sha256 (sampleBytes 171)) = some (sampleBytes 171) :=
  extractSecret_hexString rfl

theorem redeem_extract_sample :
    let xtx := redeemTransactionXdr (sampleBytes 2) (Crypto.plain.publicKey (sampleBytes 3)) (2 ^ 32 + 1)
    let env : TransactionEnvelope := ⟨xtx, [⟨(Crypto.plain.sha256 (sampleBytes 5)).drop 28, sampleBytes 5⟩,
      KeyPairFull.signDecorated .plain ⟨sampleBytes 3⟩ (Crypto.plain.transactionHash xtx sampleNetwork)]⟩
    RedeemCmd.runCommand .hexText .plain sampleNetwork (Ledger.client .hexText .plain History.empty)
        ⟨⟨sampleBytes 3⟩, StrKey.hexText.encode .accountID (sampleBytes 2), sampleBytes 5⟩ sampleFundingLedger =
        submitTransaction (Ledger.client .hexText .plain History.empty) env sampleFundingLedger ∧
      (∀ hash, extractSecret .hexText .plain (hexString (Crypto.plain.sha256 (sampleBytes 5)))
        (TransactionRecord.ofEnvelope .hexText hash env) = .ok (sampleBytes 5)) ∧
      ∀ {σ : Type} (client : ClientInterface σ) (s : σ) (hash : String),
        getAccountDebitediTransactions client s (StrKey.hexText.encode .accountID (sampleBytes 2)) =
          .ok [TransactionRecord.ofEnvelope .hexText hash env] →
        ExtractSecretCmd.runCommand .hexText .plain client s
          ⟨StrKey.hexText.encode .accountID (sampleBytes 2), hexString (Crypto.plain.sha256 (sampleBytes 5))⟩ =
          .ok (sampleBytes 5) :=
  redeem_extract (show sampleFundingLedger.accounts (sampleBytes 2) = some ⟨10 ^ 9, 2 ^ 32, 1, 0, 0, 0, [], false, 0⟩ by decide)
    (by decide) (by decide) (by decide) (by decide)

end StellarAtomicSwap
