import GrantProgram.Grant
import GrantProgram.ProofOfProcess

/-
**Accounts, lamports, and what the runtime does with them.**

The program's instructions read and write accounts through three collaborators, and this module
models the part of each that the instructions reach.

* The runtime keeps, for every address, its lamports and its owner.  The accounts of the program
  (grants, receipts, chain states and signer registrations) and of the token program (vaults,
  users' token accounts and mints) are kept as data, one map per kind; `GrantProgram.SystemState`
  keeps the lamports of every address and whether the System Program owns it with no data, as it
  owns a wallet, or an address where no account lives.
* Anchor creates the `init` and `init_if_needed` accounts of an instruction
  (`GrantProgram.createAccount`).  The payer pays the rent-exempt minimum of the account's size
  (`GrantProgram.Runtime.minimumBalance`) through the System Program's `transfer`
  (`GrantProgram.transferLamports`), which fails if the payer cannot pay, and the address must not
  be in use.  An existing `init_if_needed` account must hold that minimum
  (`GrantProgram.initIfNeeded`).  A closed account's lamports go to the account its `close` names
  (`GrantProgram.SystemState.close`).
* The token program's `transfer_checked` (`GrantProgram.transferChecked`) moves tokens between two
  token accounts of one mint.

Lamports are natural numbers: the runtime's total supply is below `2^64`, so no sum of lamports
overflows.  Token accounts have no frozen state: every token account is taken to be unfrozen.

Main definitions:

* `GrantProgram.Runtime` — the digest, the address derivation and the rent the program calls;
* `GrantProgram.SystemState`, `GrantProgram.World` — lamports and owners by address, and the
  accounts;
* `GrantProgram.transferLamports`, `GrantProgram.createAccount`, `GrantProgram.initIfNeeded` — the
  System Program's `transfer`, and the account creation Anchor generates;
* `GrantProgram.transferChecked` — the token program's `transfer_checked`.

Main results:

* `GrantProgram.createAccount_eq_ok` — **when an account creation succeeds**, and what it costs
  the payer;
* `GrantProgram.createAccount_inUse` — an address a creation has taken cannot be created again;
* `GrantProgram.transferChecked_eq_ok` — when a token transfer succeeds.
-/

set_option autoImplicit false

namespace GrantProgram

/-- The primitives of the runtime the program calls: SHA-256 (through `hashv`),
`find_program_address`, which returns an address and its bump, and the rent sysvar's
`minimum_balance`, the lamports an account of a given size must hold to be rent exempt. -/
structure Runtime where
  sha256 : Bytes → Hash
  findProgramAddress : List Bytes → Pubkey × UInt8
  minimumBalance : ℕ → ℕ

/-! ### Accounts -/

/-- A token account of the token program. -/
structure TokenAccount where
  mint : Pubkey
  owner : Pubkey
  amount : ℕ
deriving DecidableEq

/-- `ClaimReceipt`. -/
structure ClaimReceipt where
  grant : Pubkey
  claimer : Pubkey
  periodIndex : UInt64
  claimedAt : I64
deriving DecidableEq

/-- What the runtime keeps of every address besides the data of its account: its lamports, and
whether the System Program owns it with no data. -/
structure SystemState where
  lamports : Pubkey → ℕ
  systemOwned : Pubkey → Bool

/-- The accounts. -/
structure World where
  /-- `Grant` accounts, by address. -/
  grants : Pubkey → Option Grant
  /-- The vault of each grant (`seeds = [b"vault", grant]`), by the grant's address. -/
  vaults : Pubkey → Option TokenAccount
  /-- The users' token accounts, by address. -/
  tokenAccounts : Pubkey → Option TokenAccount
  /-- Receipts (`seeds = [b"receipt", grant, claimer, period_index]`). -/
  receipts : Pubkey × Pubkey × UInt64 → Option ClaimReceipt
  /-- Chain states (`seeds = [b"pop-state", grant]`), by the grant's address. -/
  popStates : Pubkey → Option PopState
  /-- Signer registrations (`seeds = [b"pop-config", authority]`), by authority. -/
  popConfigs : Pubkey → Option PopConfig
  /-- The addresses of the token program's initialized mints; the program changes no mint. -/
  mints : Pubkey → Bool
  /-- Lamports and System Program ownership, by address. -/
  system : SystemState

/-- No account at all: no lamports anywhere, and every address the System Program's. -/
def World.empty : World := ⟨fun _ => none, fun _ => none, fun _ => none, fun _ => none,
  fun _ => none, fun _ => none, fun _ => false, ⟨fun _ => 0, fun _ => true⟩⟩

/-- `Grant::INIT_SPACE`: three keys and the id, the amount and three timestamps, the root, and
`paused` and the bump. -/
def Grant.initSpace : ℕ := 32 + 32 + 32 + 8 + 8 + 8 + 8 + 8 + 32 + 1 + 1

/-- `ClaimReceipt::INIT_SPACE`. -/
def ClaimReceipt.initSpace : ℕ := 32 + 32 + 8 + 8

/-- `PopConfig::INIT_SPACE`. -/
def PopConfig.initSpace : ℕ := 32 + 32 + 1

/-- `PopState::INIT_SPACE`. -/
def PopState.initSpace : ℕ := 32 + 32 + 32 + 8 + 8 + 1 + 1

/-- `TokenAccount::LEN`, the size of a token account. -/
def TokenAccount.len : ℕ := 165

/-- The seeds of a grant's address. -/
def grantSeeds (authority mint : Pubkey) (grantId : UInt64) : List Bytes :=
  [ascii "grant", authority.toList, mint.toList, leBytes grantId.toNat 8]

/-- The seeds of a grant's vault. -/
def vaultSeeds (grant : Pubkey) : List Bytes := [ascii "vault", grant.toList]

/-- The seeds of a claim's receipt. -/
def receiptSeeds (grant claimer : Pubkey) (periodIndex : UInt64) : List Bytes :=
  [ascii "receipt", grant.toList, claimer.toList, leBytes periodIndex.toNat 8]

/-- The seeds of a grant's chain state. -/
def popStateSeeds (grant : Pubkey) : List Bytes := [ascii "pop-state", grant.toList]

/-- The seeds of an authority's signer registration. -/
def popConfigSeeds (authority : Pubkey) : List Bytes := [ascii "pop-config", authority.toList]

/-! ### Checks -/

/-- An `Account<T>` that must exist. -/
def loadAccount {α : Type} (o : Option α) : Except ProgramError α :=
  match o with
  | some a => .ok a
  | none => .error (.anchor .accountNotInitialized)

/-- A check of the framework, of the System Program or of the token program, failing with `e`. -/
def check (c : Prop) [Decidable c] (e : ProgramError) : Except ProgramError Unit :=
  if c then .ok () else .error e

@[simp] theorem loadAccount_eq_ok {α : Type} {o : Option α} {a : α} :
    loadAccount o = .ok a ↔ o = some a := by
  cases o <;> simp [loadAccount]

theorem loadAccount_bind_eq_ok {α β : Type} {o : Option α} {f : α → Except ProgramError β} {b : β} :
    loadAccount o >>= f = .ok b ↔ ∃ a, o = some a ∧ f a = .ok b := by
  cases o <;> simp [loadAccount]

@[simp] theorem check_eq_ok {c : Prop} [Decidable c] {e : ProgramError} {u : Unit} :
    check c e = .ok u ↔ c := by
  unfold check; split <;> simp_all

theorem check_of_not {c : Prop} [Decidable c] {e : ProgramError} (h : ¬c) : check c e = .error e :=
  if_neg h

theorem check_bind_eq_ok {β : Type} {c : Prop} [Decidable c] {e : ProgramError}
    {f : Unit → Except ProgramError β} {b : β} :
    check c e >>= f = .ok b ↔ c ∧ f () = .ok b := by
  unfold check; split <;> simp_all

/-! ### Lamports -/

namespace SystemState

/-- `amount` lamports move from `source` to `destination`. -/
def move (s : SystemState) (source destination : Pubkey) (amount : ℕ) : SystemState :=
  let lamports := Function.update s.lamports source (s.lamports source - amount)
  { s with lamports := Function.update lamports destination (lamports destination + amount) }

/-- A program takes the address `address`: the System Program no longer owns it. -/
def assign (s : SystemState) (address : Pubkey) : SystemState :=
  { s with systemOwned := Function.update s.systemOwned address false }

/-- The account at `account` closed into `destination`: its lamports go to `destination`, and the
address is the System Program's again, with no data (the runtime deletes an account left without
lamports). -/
def close (s : SystemState) (account destination : Pubkey) : SystemState :=
  { s.move account destination (s.lamports account) with
    systemOwned := Function.update s.systemOwned account true }

variable {s : SystemState} {a b x : Pubkey} {n : ℕ}

@[simp] theorem move_systemOwned : (s.move a b n).systemOwned = s.systemOwned := rfl

@[simp] theorem assign_lamports : (s.assign a).lamports = s.lamports := rfl

@[simp] theorem assign_systemOwned_self : (s.assign a).systemOwned a = false :=
  Function.update_same _ _ _

theorem move_lamports_of_ne (ha : x ≠ a) (hb : x ≠ b) : (s.move a b n).lamports x = s.lamports x := by
  simp [move, Function.update_noteq ha, Function.update_noteq hb]

theorem move_lamports_destination (h : a ≠ b) : (s.move a b n).lamports b = s.lamports b + n := by
  simp [move, Function.update_noteq h.symm]

@[simp] theorem move_zero : s.move a b 0 = s := by
  simp only [move, Nat.sub_zero, Nat.add_zero, Function.update_eq_self]

end SystemState

/-- The System Program's `transfer` of `amount` lamports from `source`, which it must own with no
data, to `destination`. -/
def transferLamports (s : SystemState) (source destination : Pubkey) (amount : ℕ) :
    Except ProgramError SystemState := do
  check (s.systemOwned source) (.system .invalidArgument)
  check (amount ≤ s.lamports source) (.system .resultWithNegativeLamports)
  pure (s.move source destination amount)

theorem transferLamports_eq_ok {s s' : SystemState} {source destination : Pubkey} {amount : ℕ} :
    transferLamports s source destination amount = .ok s' ↔
      s.systemOwned source ∧ amount ≤ s.lamports source ∧ s' = s.move source destination amount := by
  simp only [transferLamports, check_bind_eq_ok, pure_eq_ok, Except.ok.injEq]
  exact and_congr_right fun _ => and_congr_right fun _ => eq_comm

/-! ### Creating accounts -/

/-- The account creation Anchor generates for an `init` account, and for an `init_if_needed` one
that does not exist, at `address`, of `space` bytes, paid by `payer`; `inUse` says that the
address holds an account of the program.  An address without lamports is taken by the System
Program's `create_account`: `allocate` fails if the address is in use, and the rent-exempt
minimum moves from the payer.  An address with lamports, after a check that the payer is not the
address itself, is topped up by a `transfer` from the payer to the minimum, and to at least one
lamport, and then taken by `allocate` and `assign`. -/
def createAccount (rt : Runtime) (s : SystemState) (payer address : Pubkey) (space : ℕ)
    (inUse : Bool) : Except ProgramError SystemState := do
  let s ← if s.lamports address = 0 then do
      check (s.systemOwned address ∧ inUse = false) (.anchor .accountAlreadyInUse)
      transferLamports s payer address (rt.minimumBalance space)
    else do
      check (payer ≠ address) (.anchor .tryingToInitPayerAsProgramAccount)
      let s ← if s.lamports address < max (rt.minimumBalance space) 1 then
          transferLamports s payer address (max (rt.minimumBalance space) 1 - s.lamports address)
        else pure s
      check (s.systemOwned address ∧ inUse = false) (.anchor .accountAlreadyInUse)
      pure s
  pure (s.assign address)

/-- An `init_if_needed` account of the program at `address`, of `space` bytes, paid by `payer`:
created if the address holds none (`present` is false), and otherwise kept, if it holds the
rent-exempt minimum. -/
def initIfNeeded (rt : Runtime) (s : SystemState) (payer address : Pubkey) (space : ℕ)
    (present : Bool) : Except ProgramError SystemState :=
  if present then do
    check (rt.minimumBalance space ≤ s.lamports address) (.anchor .constraintRentExempt)
    pure s
  else createAccount rt s payer address space false

/-- The lamports a creation takes from the payer: the rent-exempt minimum at an address without
lamports, and otherwise what the address lacks of the minimum, itself at least one lamport. -/
def rentShortfall (rt : Runtime) (s : SystemState) (address : Pubkey) (space : ℕ) : ℕ :=
  if s.lamports address = 0 then rt.minimumBalance space
  else max (rt.minimumBalance space) 1 - s.lamports address

section Create

variable {rt : Runtime} {s s' : SystemState} {payer address : Pubkey} {space : ℕ} {inUse : Bool}

/-- **When an account creation succeeds.**  Exactly when the address is the System Program's and
not in use, the payer is not the address if that holds lamports, and the payer, a wallet, can pay
the shortfall (`create_account` makes the transfer even of nothing); the payer then pays it to the
address, which a program takes. -/
theorem createAccount_eq_ok :
    createAccount rt s payer address space inUse = .ok s' ↔
      s.systemOwned address ∧ inUse = false ∧ (s.lamports address ≠ 0 → payer ≠ address) ∧
      (s.lamports address = 0 ∨ 0 < rentShortfall rt s address space →
        s.systemOwned payer ∧ rentShortfall rt s address space ≤ s.lamports payer) ∧
      s' = (s.move payer address (rentShortfall rt s address space)).assign address := by
  unfold createAccount rentShortfall
  by_cases h0 : s.lamports address = 0
  · simp only [h0, if_true, ne_eq, not_true_eq_false, IsEmpty.forall_iff, true_or, forall_const,
      true_and, bind_eq_ok, check_eq_ok, exists_const, transferLamports_eq_ok, pure_eq_ok,
      Except.ok.injEq]
    constructor
    · rintro ⟨⟨ho, hu⟩, _, ⟨hp, hle, rfl⟩, rfl⟩
      exact ⟨ho, hu, ⟨hp, hle⟩, rfl⟩
    · rintro ⟨ho, hu, ⟨hp, hle⟩, rfl⟩
      exact ⟨⟨ho, hu⟩, _, ⟨hp, hle, rfl⟩, rfl⟩
  · have hpos : 0 < max (rt.minimumBalance space) 1 - s.lamports address ↔
        s.lamports address < max (rt.minimumBalance space) 1 := Nat.sub_pos_iff_lt
    by_cases hlt : s.lamports address < max (rt.minimumBalance space) 1
    · simp only [h0, hlt, hpos, ne_eq, if_true, if_false, not_false_eq_true, forall_const,
        or_true, false_or, bind_eq_ok, check_eq_ok, exists_const, exists_eq_left',
        transferLamports_eq_ok, pure_eq_ok, Except.ok.injEq]
      constructor
      · rintro ⟨hne, _, ⟨hp, hle, rfl⟩, ⟨ho, hu⟩, rfl⟩
        exact ⟨ho, hu, hne, ⟨hp, hle⟩, rfl⟩
      · rintro ⟨ho, hu, hne, ⟨hp, hle⟩, rfl⟩
        exact ⟨hne, _, ⟨hp, hle, rfl⟩, ⟨ho, hu⟩, rfl⟩
    · have hz : max (rt.minimumBalance space) 1 - s.lamports address = 0 := by omega
      simp only [h0, hlt, hpos, hz, ne_eq, if_false, not_false_eq_true, forall_const, or_false,
        lt_self_iff_false, false_implies, true_and, bind_eq_ok, check_eq_ok, exists_const,
        exists_eq_left', pure_eq_ok, Except.ok.injEq, SystemState.move_zero]
      constructor
      · rintro ⟨hne, ⟨ho, hu⟩, rfl⟩
        exact ⟨ho, hu, hne, rfl⟩
      · rintro ⟨ho, hu, hne, rfl⟩
        exact ⟨hne, ⟨ho, hu⟩, rfl⟩

theorem initIfNeeded_eq_ok {present : Bool} :
    initIfNeeded rt s payer address space present = .ok s' ↔
      if present then rt.minimumBalance space ≤ s.lamports address ∧ s' = s
      else createAccount rt s payer address space false = .ok s' := by
  cases present
  · rfl
  · simp only [initIfNeeded, if_true, check_bind_eq_ok, pure_eq_ok, Except.ok.injEq]
    exact and_congr_right fun _ => eq_comm

/-- A creation takes its address from the System Program, and leaves at the address either no
lamports, or, with a payer other than the address, at least the minimum and one lamport. -/
theorem createAccount_taken (h : createAccount rt s payer address space inUse = .ok s') :
    s'.systemOwned address = false ∧ (s'.lamports address = 0 ∨
      payer ≠ address ∧ max (rt.minimumBalance space) 1 ≤ s'.lamports address) := by
  obtain ⟨-, -, hne, hpay, rfl⟩ := createAccount_eq_ok.1 h
  refine ⟨SystemState.assign_systemOwned_self, ?_⟩
  simp only [SystemState.assign_lamports]
  by_cases hpa : payer = address
  · -- a payer that is the address pays itself: only an address without lamports, at no cost
    subst hpa
    have h0 : s.lamports payer = 0 := by_contra fun h => hne h rfl
    simp [rentShortfall, h0] at hpay
    simp [SystemState.move, rentShortfall, h0, hpay.2]
  · rw [SystemState.move_lamports_destination hpa]
    unfold rentShortfall
    split_ifs with h0
    · rcases Nat.eq_zero_or_pos (rt.minimumBalance space) with hr | hr
      · exact .inl (by omega)
      · exact .inr ⟨hpa, by omega⟩
    · exact .inr ⟨hpa, by omega⟩

/-- A creation leaves the lamports of an address the System Program does not own as they are: it
can neither debit it nor take it. -/
theorem createAccount_lamports_of_not_systemOwned {x : Pubkey} (hx : s.systemOwned x = false)
    (h : createAccount rt s payer address space inUse = .ok s') :
    s'.systemOwned x = false ∧ s'.lamports x = s.lamports x := by
  obtain ⟨ho, -, -, hpay, rfl⟩ := createAccount_eq_ok.1 h
  have hxa : x ≠ address := by rintro rfl; simp [hx] at ho
  refine ⟨by simp [SystemState.assign, Function.update_noteq hxa, hx], ?_⟩
  by_cases hxp : x = payer
  · -- the payer is not a wallet, so it paid nothing
    subst hxp
    have h0 : rentShortfall rt s address space = 0 := by
      by_contra hz
      simpa [hx] using (hpay (.inr (Nat.pos_of_ne_zero hz))).1
    simp [h0]
  · exact SystemState.move_lamports_of_ne hxp hxa

/-- **An address a creation has taken cannot be created again**: the creation of an address in
use whose lamports a creation left fails with "account already in use". -/
theorem createAccount_inUse
    (h : s.lamports address = 0 ∨ payer ≠ address ∧ max (rt.minimumBalance space) 1 ≤ s.lamports address) :
    createAccount rt s payer address space true = .error (.anchor .accountAlreadyInUse) := by
  unfold createAccount
  rcases h with h0 | ⟨hne, hle⟩
  · simp [h0, check_of_not]
  · have h0 : s.lamports address ≠ 0 := by omega
    simp [h0, hne, check, Nat.not_lt.2 hle]

end Create

/-! ### The token program -/

/-- `u64::MAX + 1`. -/
def u64Size : ℕ := 18446744073709551616

/-- The token program's `transfer_checked` from `source` to `destination`, signed by `authority`,
of tokens of `mint`.  It returns both accounts after the transfer.  Both accounts are taken to be
initialized and unfrozen: a token account here has no frozen state, so the token program's
`AccountFrozen` check is not modelled. -/
def transferChecked (source destination : TokenAccount) (mint authority : Pubkey) (amount : ℕ) :
    Except ProgramError (TokenAccount × TokenAccount) :=
  if source.amount < amount then .error (.token .insufficientFunds)
  else if source.mint ≠ destination.mint ∨ mint ≠ source.mint then .error (.token .mintMismatch)
  else if source.owner ≠ authority then .error (.token .ownerMismatch)
  else if u64Size ≤ destination.amount + amount then .error (.token .overflow)
  else .ok ({ source with amount := source.amount - amount },
    { destination with amount := destination.amount + amount })

/-- A transfer goes through exactly when the source holds the amount, both accounts and the
instruction agree on the mint, the authority owns the source, and the destination does not
overflow; it then moves the amount and nothing else. -/
theorem transferChecked_eq_ok {source destination source' destination' : TokenAccount}
    {mint authority : Pubkey} {amount : ℕ} :
    transferChecked source destination mint authority amount = .ok (source', destination') ↔
      amount ≤ source.amount ∧ source.mint = destination.mint ∧ mint = source.mint ∧
      source.owner = authority ∧ destination.amount + amount < u64Size ∧
      source' = { source with amount := source.amount - amount } ∧
      destination' = { destination with amount := destination.amount + amount } := by
  unfold transferChecked
  split_ifs with h₁ h₂ h₃ h₄
  · exact iff_of_false nofun fun h => Nat.not_le.2 h₁ h.1
  · exact iff_of_false nofun fun h => h₂.elim (· h.2.1) (· h.2.2.1)
  · exact iff_of_false nofun fun h => h₃ h.2.2.2.1
  · exact iff_of_false nofun fun h => Nat.not_lt.2 h₄ h.2.2.2.2.1
  · simp only [not_or, not_not] at h₂ h₃
    simp only [Except.ok.injEq, Prod.mk.injEq, h₂, h₃, and_true, true_and, eq_comm]
    exact ⟨fun h => ⟨by omega, by omega, h⟩, fun h => h.2.2⟩

end GrantProgram
