/-
The tool's `stellar` package (`cmd/stellaratomicswap/stellar`): signer addresses of hashes,
account lookup, the transactions that debited an account, and submission with horizon's
problem turned into the error's text.
-/
import StellarAtomicSwap.Horizon

namespace StellarAtomicSwap.Stellar

variable {σ : Type}

/-- `CreateHashxAddress`: the signer address of a hash-x condition. -/
def createHashxAddress (sk : StrKey) (hash : List UInt8) : String := sk.encode .hashX hash

/-- `CreateHashTxAddress`: the signer address of a pre-authorized transaction. -/
def createHashTxAddress (sk : StrKey) (hash : List UInt8) : String := sk.encode .hashTx hash

/-- `GetAccount`. -/
def getAccount (client : ClientInterface σ) (address : String) :
    EStateM Failure σ HorizonAccount := fun s =>
  match client.accountDetail s address with
  | .ok a => .ok a s
  | .error e => .error (.error e.message) s

/-- `getIDFromLink`: the last segment of a link. -/
def getIDFromLink (href : String) : String := (href.splitOn "/").getLastD ""

/-- The loop of `GetAccountDebitediTransactions`: for each `account_debited` record of the
page, in order, the transaction of its operation. -/
def debitedTransactions (client : ClientInterface σ) (s : σ) :
    List EffectRecord → Except Failure (List TransactionRecord)
  | [] => .ok []
  | r :: rs =>
    if r.getType ≠ "account_debited" then debitedTransactions client s rs
    else match r with
      | .accountDebited href =>
        let operationID := getIDFromLink href
        match client.operationDetail s operationID with
        | .error _ => .error (.error ("Failed to get the operation with ID " ++ operationID))
        | .ok op =>
          match client.transactionDetail s op.transactionHash with
          | .error _ =>
            .error (.error ("Failed to get the transaction with hash " ++ op.transactionHash))
          | .ok tx => (tx :: ·) <$> debitedTransactions client s rs
      | .other t =>
        .error (.error ("effect is not a horizon protocol AccountDebited effect but a " ++ t))

/-- `GetAccountDebitediTransactions`: one page of at most 100 effects of the account. -/
def getAccountDebitediTransactions (client : ClientInterface σ) (s : σ)
    (accountAddress : String) : Except Failure (List TransactionRecord) :=
  match client.effects s accountAddress 100 with
  | .error e => .error (.error e.message)
  | .ok records => debitedTransactions client s records

/-- `SubmitTransaction`: horizon's problem becomes the error's text. The type assertion
`err.(*horizonclient.Error)` panics on any other error. -/
def submitTransaction (client : ClientInterface σ) (tx : TransactionEnvelope) :
    EStateM Failure σ TransactionSuccess := fun s =>
  match client.submitTransactionXDR s tx with
  | (.ok r, s') => .ok r s'
  | (.error (.problem _ detail codes extras), s') =>
    let detail := match codes with
      | some c => detail ++ "\nResultcodes:\n" ++ c ++ "\n"
      | none => detail
    .error (.error (detail ++ "Extras:\n" ++ String.join (extras.map (· ++ "\n")))) s'
  | (.error (.other msg), s') =>
    .error (.panic ("interface conversion: error is not *horizonclient.Error: " ++ msg)) s'

end StellarAtomicSwap.Stellar
