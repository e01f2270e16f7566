/-
What the tool reads from and sends to horizon (`github.com/stellar/go/clients/horizonclient`,
`protocols/horizon`): account records, effect, operation and transaction records, and the
client interface over a network state `σ`. Submitting a transaction changes the state, also
when the ledger rejects it after consuming its sequence number, so the tool's commands that
submit run in `EStateM Failure σ`, which keeps the state on an error.
-/
import StellarAtomicSwap.Txnbuild

namespace StellarAtomicSwap

/-- `horizon.Signer`. -/
structure HorizonSigner where
  weight : Int
  key : String
  type : String
  deriving DecidableEq, Repr

/-- `horizon.AccountThresholds`. -/
structure AccountThresholds where
  lowThreshold : Nat
  medThreshold : Nat
  highThreshold : Nat
  deriving DecidableEq, Repr

/-- `horizon.Balance`, the fields the tool reads. -/
structure Balance where
  balance : String
  assetType : String
  deriving DecidableEq, Repr

/-- `horizon.Account`, the fields the tool reads. -/
structure HorizonAccount where
  accountID : String
  sequence : Int
  balances : List Balance
  thresholds : AccountThresholds
  signers : List HorizonSigner
  deriving DecidableEq, Repr

/-- `horizon.Account.GetNativeBalance`. -/
def HorizonAccount.getNativeBalance (a : HorizonAccount) : Except String String :=
  match a.balances.find? (·.assetType = "native") with
  | some b => .ok b.balance
  | none => .error "account does not have a native balance"

/-- A `horizon.Account` used as txnbuild's source account. -/
def HorizonAccount.toAccount (a : HorizonAccount) : Account := ⟨a.accountID, a.sequence⟩

/-- An effect record (`effects.Effect`): an `AccountDebited` effect, with the link to its
operation, or any other record, by its type name. -/
inductive EffectRecord
  | accountDebited (operationHref : String)
  | other (type : String)
  deriving DecidableEq, Repr

/-- `Effect.GetType`. -/
def EffectRecord.getType : EffectRecord → String
  | .accountDebited _ => "account_debited"
  | .other t => t

/-- An operation record (`operations.Operation`), by the transaction it belongs to. -/
structure OperationRecord where
  transactionHash : String
  deriving DecidableEq, Repr

/-- `horizon.Transaction`: its hash and its signatures, in base64. -/
structure TransactionRecord where
  hash : String
  signatures : List String
  deriving DecidableEq, Repr

/-- `horizon.TransactionSuccess`. -/
structure TransactionSuccess where
  hash : String
  deriving DecidableEq, Repr

/-- An error of the client: a `*horizonclient.Error` carrying horizon's problem (its title,
detail, result codes when there are any, and extras), or any other error. -/
inductive HorizonError
  | problem (title detail : String) (resultCodes : Option String) (extras : List String)
  | other (msg : String)
  deriving DecidableEq, Repr

/-- The text of an error (`Error()`). -/
def HorizonError.message : HorizonError → String
  | .problem title _ _ _ =>
    "horizon error: \"" ++ title ++ "\" - check horizon.Error.Problem for more information"
  | .other msg => msg

/-- `horizonclient.ClientInterface`, the calls the tool makes, over a network state `σ`.
`effects` takes the account and the page limit and returns the page's records, oldest
first; `submitTransactionXDR` returns the state after the submission, whatever its
outcome. -/
structure ClientInterface (σ : Type) where
  accountDetail : σ → String → Except HorizonError HorizonAccount
  effects : σ → String → Nat → Except HorizonError (List EffectRecord)
  operationDetail : σ → String → Except HorizonError OperationRecord
  transactionDetail : σ → String → Except HorizonError TransactionRecord
  submitTransactionXDR : σ → TransactionEnvelope → Except HorizonError TransactionSuccess × σ

/-! ## Running in `EStateM` -/

/-- A computation that does not touch the network state. -/
def liftExcept {σ α : Type} (x : Except Failure α) : EStateM Failure σ α := fun s =>
  match x with
  | .ok a => .ok a s
  | .error e => .error e s

@[simp] theorem liftExcept_ok {σ α : Type} (a : α) (s : σ) :
    (liftExcept (.ok a) : EStateM Failure σ α) s = .ok a s := rfl

@[simp] theorem liftExcept_error {σ α : Type} (e : Failure) (s : σ) :
    (liftExcept (.error e) : EStateM Failure σ α) s = .error e s := rfl

theorem EStateM.bind_of_ok {ε σ α β : Type} {x : EStateM ε σ α} {f : α → EStateM ε σ β}
    {s s' : σ} {a : α} (h : x s = .ok a s') : (x >>= f) s = f a s' := by
  show EStateM.bind x f s = _
  simp only [EStateM.bind, h]

theorem EStateM.bind_of_error {ε σ α β : Type} {x : EStateM ε σ α} {f : α → EStateM ε σ β}
    {s s' : σ} {e : ε} (h : x s = .error e s') : (x >>= f) s = .error e s' := by
  show EStateM.bind x f s = _
  simp only [EStateM.bind, h]

theorem EStateM.bind_eq_ok {ε σ α β : Type} {x : EStateM ε σ α} {f : α → EStateM ε σ β}
    {s s' : σ} {b : β} :
    (x >>= f) s = .ok b s' ↔ ∃ a s₁, x s = .ok a s₁ ∧ f a s₁ = .ok b s' := by
  show EStateM.bind x f s = _ ↔ _
  unfold EStateM.bind
  cases x s <;> simp [and_assoc]

theorem EStateM.adaptExcept_of_ok {ε ε' σ α : Type} {x : EStateM ε σ α} {f : ε → ε'} {s s' : σ} {a : α}
    (h : x s = .ok a s') : x.adaptExcept f s = .ok a s' := by
  simp [EStateM.adaptExcept, h]

end StellarAtomicSwap
