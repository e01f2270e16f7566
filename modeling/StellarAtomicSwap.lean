import StellarAtomicSwap.Xdr
import StellarAtomicSwap.Primitives
import StellarAtomicSwap.Txnbuild
import StellarAtomicSwap.Horizon
import StellarAtomicSwap.Stellar
import StellarAtomicSwap.Ledger
import StellarAtomicSwap.Audit
import StellarAtomicSwap.Builder
import StellarAtomicSwap.RoundTrip
import StellarAtomicSwap.Redeem
import StellarAtomicSwap.Lifecycle
import StellarAtomicSwap.Escrow
import StellarAtomicSwap.AuditGuarantee
import StellarAtomicSwap.Extract
import StellarAtomicSwap.Swap
import StellarAtomicSwap.Interleaving
import StellarAtomicSwap.Cli
