/-
The command line (`run`): the flags in front of the command, how many arguments each command
takes, the check that they are there and that none of them is a flag (`checkCmdArgLength`),
the flags after them, and what each command's arguments must be before the command runs.

`run_eq_ok`: a command comes out only of a known command name, enough arguments none of
which looks like a flag, nothing left once the trailing flags are parsed, and arguments that
parse. `run_wellFormed`: what it builds is what the command lemmas assume: a secret of
`secretSize` bytes for `redeem`, a 32-byte secret hash, hex decoded, for `participate`.
`extractsecret` keeps its secret hash argument as it was typed (`run_extractsecret`).

The flag set is made with `flag.ExitOnError`, and `run` parses the flags after the command's
arguments before it checks that there are enough of them: a flag the package rejects there
ends the process with the package's status, 2 for an undefined flag, in place of the usage
and the "too few arguments" error (`run_flag_exit`).

`keypair.Parse`, `strconv.ParseFloat`, `txnbuild.TransactionFromXDR` and the flag package's
`Parse` are parameters; the flags' values (`-testnet`, `-automated`) are not modelled.
-/
import StellarAtomicSwap.Extract

namespace StellarAtomicSwap

/-- `keypair.Parse`'s result: a full key pair, from a seed, or an address. -/
inductive KeyPair
  | full (kp : KeyPairFull)
  | fromAddress (address : String)
  deriving DecidableEq, Repr

/-- What `run` takes from its libraries: `keypair.Parse`, `strconv.ParseFloat` (whether it
accepts an amount), `txnbuild.TransactionFromXDR`, and the flag package's `flagset.Parse` of a
list followed by `flagset.Args`: the arguments left once the flags at the front are parsed, or
the status the process exits with when the package stops it (`flag.ExitOnError`: 2 for a flag
it does not define or a bad value, 0 for `-h` and `-help`). -/
structure Parsers where
  keypairParse : String → Except String KeyPair
  parseFloat : String → Except String Unit
  transactionFromXDR : String → Except String Transaction
  flagParse : List String → Except Nat (List String)

/-- A command `run` builds. -/
inductive Command
  | initiate (cmd : InitiateCmd)
  | participate (cmd : ParticipateCmd)
  | redeem (cmd : RedeemCmd)
  | refund (cmd : RefundCmd)
  | extractSecret (cmd : ExtractSecretCmd)
  | auditContract (cmd : AuditContractCmd)

/-- `secretSize`. -/
def secretSize : Nat := 32

/-- The number of arguments of each command; none for an unknown command. -/
def cmdArgs : String → Option Nat
  | "initiate" => some 3
  | "participate" => some 4
  | "redeem" => some 3
  | "refund" => some 1
  | "extractsecret" => some 2
  | "auditcontract" => some 2
  | _ => none

/-- The test of `checkCmdArgLength`: an argument that is not one character long and starts
with `-`. -/
def looksLikeFlag (arg : String) : Bool := arg.length != 1 && arg.data.head? == some '-'

/-- `checkCmdArgLength`: 0 when there are fewer than `required` arguments, else the index of
the first of the `required` that looks like a flag, or `required`. -/
def checkCmdArgLength (args : List String) (required : Nat) : Nat :=
  if args.length < required then 0
  else ((args.take required).takeWhile fun arg => !looksLikeFlag arg).length

section Parse

variable (p : Parsers)

/-- A seed argument: `keypair.Parse` must give a full key pair. -/
def parseSeed (what arg : String) : Except String KeyPairFull := do
  match ← (p.keypairParse arg).mapError (("invalid " ++ what ++ " seed: ") ++ ·) with
  | .full kp => return kp
  | .fromAddress _ => throw ("invalid " ++ what ++ " seed")

/-- An address argument: `keypair.Parse` must accept it. -/
def checkAddress (what arg : String) : Except String Unit := do
  let _ ← (p.keypairParse arg).mapError (("invalid " ++ what ++ ": ") ++ ·)

/-- The arguments of each command, after the command's name, once there are enough of them. -/
def parseCommand : String → List String → Except String Command
  | "initiate", seed :: cp2Addr :: amount :: _ => do
    let initiatorKeyPair ← parseSeed p "initiator" seed
    checkAddress p "participant address" cp2Addr
    (p.parseFloat amount).mapError ("failed to decode amount: " ++ ·)
    return .initiate ⟨initiatorKeyPair, cp2Addr, amount⟩
  | "participate", seed :: cp1Addr :: amount :: secretHashArg :: _ => do
    let participatorKeyPair ← parseSeed p "participator" seed
    checkAddress p "initiator address" cp1Addr
    (p.parseFloat amount).mapError ("failed to decode amount: " ++ ·)
    let secretHash ← (hexDecodeString secretHashArg).mapError fun _ => "secret hash must be hex encoded"
    if secretHash.length ≠ 32 then throw "secret hash has wrong size"
    return .participate ⟨cp1Addr, participatorKeyPair, amount, secretHash⟩
  | "auditcontract", holdingAccountAdress :: refundArg :: _ => do
    checkAddress p "holding account address" holdingAccountAdress
    let refundTransaction ← (p.transactionFromXDR refundArg).mapError
      ("failed to decode refund transaction: " ++ ·)
    return .auditContract ⟨refundTransaction, holdingAccountAdress⟩
  | "refund", refundArg :: _ => do
    let refundTransaction ← (p.transactionFromXDR refundArg).mapError
      ("failed to decode refund transaction: " ++ ·)
    return .refund ⟨refundTransaction⟩
  | "redeem", seed :: holdingAccountAddress :: secretArg :: _ => do
    let receiverKeyPair ← parseSeed p "receiver" seed
    checkAddress p "holding account address" holdingAccountAddress
    let secret ← (hexDecodeString secretArg).mapError ("failed to decode secret: " ++ ·)
    if secret.length ≠ secretSize then
      throw ("The secret should be " ++ toString secretSize ++ " bytes instead of " ++ toString secret.length)
    return .redeem ⟨receiverKeyPair, holdingAccountAddress, secret⟩
  | "extractsecret", holdingAccountAdress :: secretHash :: _ => do
    checkAddress p "holding account address" holdingAccountAdress
    return .extractSecret ⟨holdingAccountAdress, secretHash⟩
  | name, _ => throw ("unknown command " ++ name)

/-- How `run` ends without a command to run: with the usage and the error, if there is one,
after which `main` exits with status 1; or inside `flagset.Parse`, which ends the process with
its own status. -/
inductive RunStop
  | usage (err : Option String)
  | exit (status : Nat)
  deriving DecidableEq, Repr

/-- `run`, up to running the command: the command to run, or how it stops. `osArgs` are the
arguments after the program's name. -/
def run (osArgs : List String) : Except RunStop Command :=
  match p.flagParse osArgs with
  | .error status => .error (.exit status)
  | .ok [] => .error (.usage none)
  | .ok (name :: rest) =>
    match cmdArgs name with
    | none => .error (.usage (some ("unknown command " ++ name)))
    | some required =>
      let nArgs := checkCmdArgLength rest required
      match p.flagParse (rest.drop nArgs) with
      | .error status => .error (.exit status)
      | .ok left =>
        if nArgs < required then .error (.usage (some (name ++ ": too few arguments")))
        else match left with
          | arg :: _ => .error (.usage (some ("unexpected argument: " ++ arg)))
          | [] => (parseCommand p name rest).mapError fun err => .usage (some err)

end Parse

/-! ## The argument count -/

theorem checkCmdArgLength_le (args : List String) (required : Nat) :
    checkCmdArgLength args required ≤ required := by
  unfold checkCmdArgLength
  split_ifs
  · exact Nat.zero_le _
  · exact (List.takeWhile_prefix _).length_le.trans (List.length_take_le _ _)

/-- **The argument count.** `checkCmdArgLength` gives the full count exactly when there are
enough arguments and none of the first `required` looks like a flag. -/
theorem checkCmdArgLength_eq_iff {args : List String} {required : Nat} :
    checkCmdArgLength args required = required ↔
      required ≤ args.length ∧ ∀ arg ∈ args.take required, looksLikeFlag arg = false := by
  unfold checkCmdArgLength
  split_ifs with h
  · constructor
    · intro h0; omega
    · intro h'; omega
  · have hlen : (args.take required).length = required := List.length_take_of_le (by omega)
    constructor
    · intro hw
      have he := (List.takeWhile_prefix _).eq_of_length (hw.trans hlen.symm)
      refine ⟨by omega, fun arg ha => ?_⟩
      simpa using List.takeWhile_eq_self_iff.mp he arg ha
    · rintro ⟨-, hf⟩
      rw [List.takeWhile_eq_self_iff.mpr (by simpa using hf), hlen]

/-! ## What `run` accepts -/

section Run

variable {p : Parsers}

/-- **What `run` accepts.** A command comes out of a known command name, in front of which the
flags parse, followed by enough arguments, none of which looks like a flag, with nothing left
once the flags after them are parsed, and arguments that parse. -/
theorem run_eq_ok {osArgs : List String} {c : Command} :
    run p osArgs = .ok c ↔ ∃ name rest required, p.flagParse osArgs = .ok (name :: rest) ∧
      cmdArgs name = some required ∧ required ≤ rest.length ∧
      (∀ arg ∈ rest.take required, looksLikeFlag arg = false) ∧ p.flagParse (rest.drop required) = .ok [] ∧
      parseCommand p name rest = .ok c := by
  unfold run
  rcases p.flagParse osArgs with _ | _ | ⟨name, rest⟩
  · simp
  · simp
  · simp only [Except.ok.injEq, List.cons.injEq, and_assoc, exists_and_left, exists_eq_left']
    cases hc : cmdArgs name with
    | none => simp
    | some required =>
      simp only [Option.some.injEq, exists_eq_left']
      by_cases hn : checkCmdArgLength rest required = required
      · obtain ⟨h1, h2⟩ := checkCmdArgLength_eq_iff.mp hn
        rw [hn]
        rcases p.flagParse (rest.drop required) with _ | _ | _ <;> simp [h1]
        exact fun _ => h2
      · have hlt := lt_of_le_of_ne (checkCmdArgLength_le rest required) hn
        refine iff_of_false ?_ fun ⟨h1, h2, _⟩ => hn (checkCmdArgLength_eq_iff.mpr ⟨h1, h2⟩)
        rcases p.flagParse (rest.drop (checkCmdArgLength rest required)) with _ | _ <;> simp [hlt]

/-- **A flag error after the arguments stops the process first.** Once the command is known,
`flagset.Parse` runs on what follows its arguments before their count is checked: when it
rejects a flag there, the process ends with the flag package's status, whether or not the
command's arguments were all given. -/
theorem run_flag_exit {osArgs rest : List String} {name : String} {required status : Nat}
    (hargs : p.flagParse osArgs = .ok (name :: rest)) (hc : cmdArgs name = some required)
    (hf : p.flagParse (rest.drop (checkCmdArgLength rest required)) = .error status) :
    run p osArgs = .error (.exit status) := by
  simp only [run, hargs, hc, hf]

/-- What the command lemmas assume of a command's arguments: `redeem`'s secret is
`secretSize` bytes, which a signature can hold, and `participate`'s secret hash is 32 bytes. -/
@[simp] def Command.WellFormed : Command → Prop
  | .participate cmd => cmd.secretHash.length = 32
  | .redeem cmd => cmd.secret.length = secretSize
  | _ => True

theorem parseCommand_wellFormed {name : String} {rest : List String} {c : Command}
    (h : parseCommand p name rest = .ok c) : c.WellFormed := by
  unfold parseCommand at h
  split at h <;> simp only [ne_eq, bind_pure_comp, map_pure, ite_not, bind_eq_ok, map_eq_ok, mapError_eq_ok,
    exists_and_right, throw_ne_ok] at h
  case h_2 =>
    obtain ⟨_, -, -, -, _, -, hif⟩ := h
    split_ifs at hif with hl
    · cases hif; exact hl
    · cases hif
  case h_5 =>
    obtain ⟨_, -, -, _, -, hif⟩ := h
    split_ifs at hif with hl
    · cases hif; exact hl
    · cases hif
  case h_1 => obtain ⟨_, -, -, -, rfl⟩ := h; trivial
  case h_3 => obtain ⟨-, _, -, rfl⟩ := h; trivial
  case h_4 => obtain ⟨_, -, rfl⟩ := h; trivial
  case h_6 => obtain ⟨-, rfl⟩ := h; trivial

/-- **What `run` builds is well formed.** Every command `run` builds comes from a known command
name with the flags in front of it parsed, enough arguments none of which looks like a flag,
nothing left once the flags after them are parsed, and arguments that parse; and it meets what
the command lemmas assume: a `redeem` secret of `secretSize` bytes, no longer than a
signature, and a 32-byte `participate` secret hash. -/
theorem run_wellFormed {osArgs : List String} {c : Command} (h : run p osArgs = .ok c) :
    (∃ name rest required, p.flagParse osArgs = .ok (name :: rest) ∧ cmdArgs name = some required ∧
      required ≤ rest.length ∧ (∀ arg ∈ rest.take required, looksLikeFlag arg = false) ∧
      p.flagParse (rest.drop required) = .ok [] ∧ parseCommand p name rest = .ok c) ∧ c.WellFormed := by
  have hok := run_eq_ok.mp h
  obtain ⟨_, _, _, _, _, _, _, _, hp⟩ := id hok
  exact ⟨hok, parseCommand_wellFormed hp⟩

/-- `extractsecret` keeps its secret hash argument as it was typed. -/
theorem run_extractsecret {osArgs rest : List String} {c : Command}
    (hargs : p.flagParse osArgs = .ok ("extractsecret" :: rest)) (h : run p osArgs = .ok c) :
    ∃ holdingAccountAdress secretHash, rest.take 2 = [holdingAccountAdress, secretHash] ∧
      c = .extractSecret ⟨holdingAccountAdress, secretHash⟩ := by
  obtain ⟨_, _, _, hargs', _, _, _, _, hp⟩ := run_eq_ok.mp h
  obtain ⟨rfl, rfl⟩ := List.cons.inj (Except.ok.inj (hargs.symm.trans hargs'))
  match rest, hp with
  | a :: b :: _, hp =>
    simp [parseCommand, bind_eq_ok] at hp
    exact ⟨a, b, rfl, hp.2.symm⟩

/-- `participate` hex decodes its secret hash argument, in either letter case. -/
theorem run_participate {osArgs rest : List String} {cmd : ParticipateCmd}
    (hargs : p.flagParse osArgs = .ok ("participate" :: rest)) (h : run p osArgs = .ok (.participate cmd)) :
    ∃ secretHashArg, rest.get? 3 = some secretHashArg ∧ hexDecodeString secretHashArg = .ok cmd.secretHash := by
  obtain ⟨_, _, _, hargs', _, _, _, _, hp⟩ := run_eq_ok.mp h
  obtain ⟨rfl, rfl⟩ := List.cons.inj (Except.ok.inj (hargs.symm.trans hargs'))
  match rest, hp with
  | _ :: _ :: _ :: secretHashArg :: _, hp =>
    simp [parseCommand, bind_eq_ok] at hp
    obtain ⟨_, -, -, -, secretHash, hd, hif⟩ := hp
    refine ⟨secretHashArg, rfl, ?_⟩
    split_ifs at hif
    · cases hif; exact hd
    · simp [throw, throwThe, MonadExceptOf.throw] at hif

end Run

/-- The flag package's `Parse` then `Args` on this flag set, for its two boolean flags given
without a value: `--` ends the flags, and so does an argument that is `-` or does not start with
`-`; `-h` and `-help` exit with status 0, and any other flag with status 2. -/
def sampleFlagParse : List String → Except Nat (List String)
  | [] => .ok []
  | arg :: rest =>
    if arg = "--" then .ok rest
    else if arg.length < 2 ∨ arg.data.head? ≠ some '-' then .ok (arg :: rest)
    else if arg ∈ ["-testnet", "--testnet", "-automated", "--automated"] then sampleFlagParse rest
    else if arg ∈ ["-h", "--h", "-help", "--help"] then .error 0
    else .error 2

/-- Parsers to run the model on: `keypair.Parse` reads the hex strkey text of a seed or an
address, every amount is a float, no refund transaction decodes, and the flags are parsed by
`sampleFlagParse`. -/
def sampleParsers : Parsers where
  keypairParse arg :=
    match StrKey.hexText.decode .seed arg with
    | .ok seed => .ok (.full ⟨seed⟩)
    | .error _ => (StrKey.hexText.decode .accountID arg).map fun _ => .fromAddress arg
  parseFloat _ := .ok ()
  transactionFromXDR _ := .error "unsupported"
  flagParse := sampleFlagParse

/-- `redeem` with an undefined flag where its arguments should be: the process exits with
status 2, and the missing arguments are never reported. -/
theorem run_flag_exit_sample : run sampleParsers ["-testnet", "redeem", "-x"] = .error (.exit 2) :=
  run_flag_exit rfl rfl rfl

/-- A `redeem` command line of the samples: the counterparty's seed, the holding account and
the secret `sampleBytes 5` in hex, after the `-testnet` flag. -/
def sampleRedeemArgs : List String :=
  ["-testnet", "redeem", StrKey.hexText.encode .seed (sampleBytes 3), StrKey.hexText.encode .accountID (sampleBytes 1),
    hexString (sampleBytes 5)]

theorem run_wellFormed_sample :
    run sampleParsers sampleRedeemArgs =
        .ok (.redeem ⟨⟨sampleBytes 3⟩, StrKey.hexText.encode .accountID (sampleBytes 1), sampleBytes 5⟩) ∧
      (∃ name rest required, sampleParsers.flagParse sampleRedeemArgs = .ok (name :: rest) ∧
        cmdArgs name = some required ∧ required ≤ rest.length ∧
        (∀ arg ∈ rest.take required, looksLikeFlag arg = false) ∧
        sampleParsers.flagParse (rest.drop required) = .ok [] ∧
        parseCommand sampleParsers name rest =
          .ok (.redeem ⟨⟨sampleBytes 3⟩, StrKey.hexText.encode .accountID (sampleBytes 1), sampleBytes 5⟩)) ∧
      Command.WellFormed (.redeem ⟨⟨sampleBytes 3⟩, StrKey.hexText.encode .accountID (sampleBytes 1), sampleBytes 5⟩) :=
  ⟨rfl, @run_wellFormed sampleParsers sampleRedeemArgs _ rfl⟩

end StellarAtomicSwap
