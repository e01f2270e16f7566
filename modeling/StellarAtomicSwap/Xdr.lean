/-
The ledger's wire data (`github.com/stellar/go/xdr`), as far as the tool builds, signs,
submits or reads it: signer keys, the operations the tool uses, transactions and their
signed envelopes. Account IDs and hashes are the raw bytes the ledger stores; the text
the tool handles is their strkey encoding (`StrKey`).

The base64 text of an envelope (`Transaction.Base64`, `TransactionFromXDR`) is modelled by
the envelope itself: XDR is a bijection between the two, and no code of the tool looks at
the text.
-/
import Mathlib

namespace StellarAtomicSwap

/-- `xdr.SignerKey`: an ed25519 public key, the hash of a pre-authorized transaction, or
the SHA-256 hash of a preimage (hash-x). -/
inductive SignerKey
  | ed25519 (key : List UInt8)
  | preAuthTx (hash : List UInt8)
  | hashX (hash : List UInt8)
  deriving DecidableEq, Repr, Inhabited

/-- `xdr.Signer`. -/
structure XdrSigner where
  key : SignerKey
  weight : Nat
  deriving DecidableEq, Repr, Inhabited

/-- The fields of `xdr.SetOptionsOp` the tool sets. -/
structure SetOptionsOp where
  masterWeight : Option Nat
  lowThreshold : Option Nat
  medThreshold : Option Nat
  highThreshold : Option Nat
  signer : Option XdrSigner
  deriving DecidableEq, Repr, Inhabited

/-- `xdr.OperationBody` for the operation types the tool builds; any other type is
`other`, with its name. -/
inductive OperationBody
  | createAccount (destination : List UInt8) (startingBalance : Int)
  | setOptions (op : SetOptionsOp)
  | accountMerge (destination : List UInt8)
  | other (type : String)
  deriving DecidableEq, Repr, Inhabited

/-- `xdr.Operation`: a body, and the account it acts on when that is not the
transaction's source account. -/
structure XdrOperation where
  sourceAccount : Option (List UInt8)
  body : OperationBody
  deriving DecidableEq, Repr, Inhabited

/-- `xdr.TimeBounds` (`uint64` seconds); a `maxTime` of 0 is no upper bound. -/
structure TimeBounds where
  minTime : Nat
  maxTime : Nat
  deriving DecidableEq, Repr, Inhabited

/-- `xdr.Transaction`, the part of an envelope its hash covers. -/
structure XdrTransaction where
  sourceAccount : List UInt8
  fee : Nat
  seqNum : Int
  timeBounds : Option TimeBounds
  operations : List XdrOperation
  deriving DecidableEq, Repr, Inhabited

/-- `xdr.DecoratedSignature`: the last bytes of the signer's key as a hint, and the
signature (for a hash-x signer, the preimage itself). -/
structure DecoratedSignature where
  hint : List UInt8
  signature : List UInt8
  deriving DecidableEq, Repr, Inhabited

/-- `xdr.TransactionEnvelope`. -/
structure TransactionEnvelope where
  tx : XdrTransaction
  signatures : List DecoratedSignature
  deriving DecidableEq, Repr, Inhabited

/-- The maximum size of an `xdr.Signature` (`XDRMaxSize`). -/
def signatureMaxSize : Nat := 64

end StellarAtomicSwap
