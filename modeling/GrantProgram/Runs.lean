import GrantProgram.Instructions

/-
**Runs of the program, and what an instruction does to a grant.**

A run is a list of instructions, each at the clock value of its slot.  Every instruction is a
transaction of its own: a successful one takes the accounts to its result, and a failed one is
discarded and changes nothing.  The clock values are arbitrary, so a run covers every order and
every timing of the instructions.  `GrantProgram.trace` keeps the successful steps of a run with
the accounts before and after each, which is what the invariants of the later modules are about.

The grant account is `init_if_needed` in `CreateGrant`, so `create_grant` may run on a grant that
already exists; it then rewrites every field from its arguments, with the allowlist cleared and
the grant unpaused.  Apart from that the lifecycle is the one the specification describes: no
instruction other than `close_grant` removes a grant, none touches its terms, and `paused` and
`merkle_root` change only through `set_paused` and `set_allowlist_root`.

Main definitions:

* `GrantProgram.Transition`, `GrantProgram.trace`, `GrantProgram.run` — the successful steps of a
  run, and the accounts after it;
* `GrantProgram.Grant.SameTerms` — two grants that differ at most in `paused` and `merkle_root`.

Main results:

* `GrantProgram.run_trace_induction` — **induction over runs**: a property of the accounts and the
  trace so far that every successful instruction keeps holds after every run;
* `GrantProgram.execute_grant_frame` — **what an instruction does to a grant**;
* `GrantProgram.execute_createGrant_resets` — a second `create_grant`, on a grant that was given an
  allowlist and paused, clears the allowlist and unpauses it.
-/

set_option autoImplicit false

namespace GrantProgram

/-! ### Runs -/

/-- A successful instruction: the accounts before it, its clock value, the instruction, and the
accounts after it. -/
structure Transition where
  before : World
  now : I64
  ix : ProgramInstruction
  after : World

/-- The successful steps of a run from the accounts `w`, in order; a failed instruction changes
nothing and is left out. -/
def trace (rt : Runtime) : World → List (I64 × ProgramInstruction) → List Transition
  | _, [] => []
  | w, (now, ix) :: steps =>
    match execute rt now w ix with
    | .ok w' => ⟨w, now, ix, w'⟩ :: trace rt w' steps
    | .error _ => trace rt w steps

/-- The accounts after a run from the accounts `w`. -/
def run (rt : Runtime) : World → List (I64 × ProgramInstruction) → World
  | w, [] => w
  | w, (now, ix) :: steps =>
    match execute rt now w ix with
    | .ok w' => run rt w' steps
    | .error _ => run rt w steps

/-- **Induction over runs.**  A property of the accounts and of the successful steps so far that
holds at the start, and that every successful instruction of a kind `Q` keeps, holds after a run
of instructions of that kind. -/
theorem run_trace_induction (rt : Runtime) (Q : ProgramInstruction → Prop)
    (P : World → List Transition → Prop)
    (hstep : ∀ w tr now ix w', Q ix → P w tr → execute rt now w ix = .ok w' →
      P w' (tr ++ [⟨w, now, ix, w'⟩]))
    (steps : List (I64 × ProgramInstruction)) (hQ : ∀ st ∈ steps, Q st.2) (w : World)
    (tr : List Transition) (h : P w tr) :
    P (run rt w steps) (tr ++ trace rt w steps) := by
  induction steps generalizing w tr with
  | nil => simpa [run, trace] using h
  | cons st steps ih =>
    obtain ⟨now, ix⟩ := st
    have hQ' : ∀ st ∈ steps, Q st.2 := fun st hst => hQ st (List.mem_cons_of_mem _ hst)
    simp only [run, trace]
    cases hx : execute rt now w ix with
    | ok w' =>
      simpa using ih hQ' w' _ (hstep w tr now ix w' (hQ _ (List.mem_cons_self _ _)) h hx)
    | error e => exact ih hQ' w tr h

/-! ### What an instruction does to a grant -/

/-- Two grants with the same terms: they differ at most in `paused` and `merkle_root`. -/
def Grant.SameTerms (a b : Grant) : Prop :=
  { a with paused := false, merkleRoot := Bytes32.zero } =
    { b with paused := false, merkleRoot := Bytes32.zero }

/-- Grants with the same terms pay the same amount on the same schedule. -/
theorem Grant.SameTerms.schedule {a b : Grant} (h : a.SameTerms b) :
    a.amountPerPeriod = b.amountPerPeriod ∧ a.periodSeconds = b.periodSeconds ∧
      a.startTs = b.startTs ∧ a.expiresAt = b.expiresAt :=
  ⟨(congrArg Grant.amountPerPeriod h :), (congrArg Grant.periodSeconds h :),
    (congrArg Grant.startTs h :), (congrArg Grant.expiresAt h :)⟩

/-- The instruction is a `create_grant` whose seeds derive the address `g`. -/
def ProgramInstruction.CreatesAt (rt : Runtime) (g : Pubkey) : ProgramInstruction → Prop
  | .createGrant a m id _ _ _ _ => (rt.findProgramAddress (grantSeeds a m id)).1 = g
  | _ => False

section Frame

variable {w w' : World} {g : Pubkey} {grant : Grant}

/-- The grant at `g` as an instruction `ix` that does not remove it leaves it: the same terms, a
new `paused` only from `set_paused` on `g`, and a new root only from `set_allowlist_root` on `g`. -/
def GrantKept (ix : ProgramInstruction) (w' : World) (g : Pubkey) (grant : Grant) : Prop :=
  ∃ grant', w'.grants g = some grant' ∧ grant'.SameTerms grant ∧
    (grant'.paused ≠ grant.paused → ∃ m a, ix = .setPaused g m a grant'.paused) ∧
    (grant'.merkleRoot ≠ grant.merkleRoot → ∃ m a, ix = .setAllowlistRoot g m a grant'.merkleRoot)

theorem grantKept_of_eq {ix : ProgramInstruction} (hg : w.grants g = some grant)
    (h : w'.grants g = w.grants g) : GrantKept ix w' g grant :=
  ⟨grant, h.trans hg, rfl, fun h => absurd rfl h, fun h => absurd rfl h⟩

/-- Apart from a `create_grant` there, an instruction removes the grant at `g` only if it is a
`close_grant` of it, and otherwise keeps it. -/
theorem execute_grant_kept {rt : Runtime} {now : I64} {ix : ProgramInstruction}
    (h : execute rt now w ix = .ok w') (hg : w.grants g = some grant) (hnc : ¬ix.CreatesAt rt g) :
    (w'.grants g = none ∧ ∃ m ata a, ix = .closeGrant g m ata a) ∨ GrantKept ix w' g grant := by
  cases ix with
  | createGrant a m id amt p s e =>
    obtain ⟨-, -, -, -, -, -, -, -, rfl⟩ := createGrant_eq_ok h
    exact .inr (grantKept_of_eq hg (Function.update_noteq (Ne.symm hnc) _ _))
  | fundGrant =>
    obtain ⟨_, _, rfl⟩ := fundGrant_eq_ok h
    exact .inr (grantKept_of_eq hg rfl)
  | claimGrant acc k =>
    obtain ⟨_, -, -, hs, -⟩ := execute_claim h rfl
    exact .inr (grantKept_of_eq hg (congrFun (settleClaim_grants hs) g))
  | claimGrantWithProof acc k p =>
    obtain ⟨_, -, -, hs, -⟩ := execute_claim h rfl
    exact .inr (grantKept_of_eq hg (congrFun (settleClaim_grants hs) g))
  | closeGrant g₀ m ata a =>
    obtain ⟨_, rfl⟩ := closeGrant_eq_ok h
    rcases eq_or_ne g₀ g with rfl | h₀
    · exact .inl ⟨Function.update_same _ _ _, m, ata, a, rfl⟩
    · exact .inr (grantKept_of_eq hg (Function.update_noteq h₀.symm _ _))
  | setPaused g₀ m a b =>
    obtain ⟨grant₀, hl, rfl⟩ := setPaused_eq_ok h
    rcases eq_or_ne g₀ g with rfl | h₀
    · obtain rfl := Option.some_injective _ ((loadOwnedGrant_eq_ok.1 hl).1.symm.trans hg)
      exact .inr ⟨_, Function.update_same _ _ _, rfl, fun _ => ⟨m, a, rfl⟩, fun h => absurd rfl h⟩
    · exact .inr (grantKept_of_eq hg (Function.update_noteq h₀.symm _ _))
  | setAllowlistRoot g₀ m a r =>
    obtain ⟨grant₀, hl, rfl⟩ := setAllowlistRoot_eq_ok h
    rcases eq_or_ne g₀ g with rfl | h₀
    · obtain rfl := Option.some_injective _ ((loadOwnedGrant_eq_ok.1 hl).1.symm.trans hg)
      exact .inr ⟨_, Function.update_same _ _ _, rfl, fun h => absurd rfl h, fun _ => ⟨m, a, rfl⟩⟩
    · exact .inr (grantKept_of_eq hg (Function.update_noteq h₀.symm _ _))
  | upsertPopConfig =>
    obtain ⟨_, rfl⟩ := upsertPopConfig_eq_ok h
    exact .inr (grantKept_of_eq hg rfl)

/-- **What an instruction does to a grant.**  A `create_grant` whose seeds derive the address of
an existing grant rewrites it from its arguments, with the allowlist cleared and unpaused.  Any
other successful instruction either is a `close_grant` of the grant, which removes it, or keeps
its terms (authority, mint, vault, id, amount, period, start, expiry and bump), changes `paused`
only if it is a `set_paused` of the grant, and changes the root only if it is a
`set_allowlist_root` of the grant. -/
theorem execute_grant_frame (rt : Runtime) (now : I64) (w w' : World) (ix : ProgramInstruction)
    (g : Pubkey) (grant : Grant) (h : execute rt now w ix = .ok w')
    (hg : w.grants g = some grant) :
    (∀ a m id amt p s e, ix = .createGrant a m id amt p s e →
      (rt.findProgramAddress (grantSeeds a m id)).1 = g →
      w'.grants g = some ⟨a, m, (rt.findProgramAddress (vaultSeeds g)).1, id, amt, p, s, e,
        Bytes32.zero, false, (rt.findProgramAddress (grantSeeds a m id)).2⟩) ∧
    (¬ix.CreatesAt rt g →
      (w'.grants g = none ∧ ∃ m ata a, ix = .closeGrant g m ata a) ∨
      ∃ grant', w'.grants g = some grant' ∧ grant'.SameTerms grant ∧
        (grant'.paused ≠ grant.paused → ∃ m a, ix = .setPaused g m a grant'.paused) ∧
        (grant'.merkleRoot ≠ grant.merkleRoot →
          ∃ m a, ix = .setAllowlistRoot g m a grant'.merkleRoot)) := by
  refine ⟨fun a m id amt p s e hix hk => ?_, execute_grant_kept h hg⟩
  subst hix hk
  obtain ⟨-, -, -, -, -, -, -, -, rfl⟩ := createGrant_eq_ok h
  exact Function.update_same _ _ _

end Frame

/-! ### The example accounts

The witnesses of this module and of the later ones run the program under `exampleRuntime`: its
digest tells apart every preimage they hash, its address derivation gives every account of the
examples an address of its own, and its rent is the runtime's default.  They start from
`exampleWallets`, where an authority and a claimer hold lamports and token accounts of a mint, and
every account of the program in them is made by the program itself. -/

/-- A digest for examples: the input read as a number in base 257, each byte shifted up by one,
modulo `2^256`, in 32 little-endian bytes.  It is no cryptographic hash, but no two preimages of
the examples share a digest. -/
def exampleDigest (bytes : Bytes) : Hash :=
  ⟨leBytes (bytes.foldl (fun acc b => acc * 257 + b.toNat + 1) 0 % 2 ^ 256) 32,
    leBytes_length _ _⟩

/-- The runtime of the examples: `exampleDigest`; the digest of the seeds as the address derived
from them, with bump 255; and the default rent, 6960 lamports a byte counting 128 bytes of account
overhead. -/
def exampleRuntime : Runtime :=
  ⟨exampleDigest, fun seeds => (exampleDigest seeds.flatten, 255), fun space => (space + 128) * 6960⟩

/-- The key whose 32 bytes are all `n`. -/
def exampleKey (n : UInt8) : Pubkey := ⟨List.replicate 32 n, List.length_replicate 32 n⟩

/-- The authority of the example grant. -/
def exampleAuthority : Pubkey := exampleKey 1

/-- The mint of the example grant. -/
def exampleMint : Pubkey := exampleKey 2

/-- The claimer of the examples. -/
def exampleClaimer : Pubkey := exampleKey 3

/-- The claimer's token account. -/
def exampleClaimerAta : Pubkey := exampleKey 4

/-- The authority's token account. -/
def exampleAuthorityAta : Pubkey := exampleKey 5

/-- The proof-of-process signer the authority registers. -/
def exampleSigner : Pubkey := exampleKey 6

/-- The authority and the claimer, with 10 SOL each and a token account of `exampleMint` each (the
authority's holding 100 tokens), and the mint, the token program's accounts holding the rent-exempt
minimum of their size; no account of the program. -/
def exampleWallets : World :=
  { World.empty with
    tokenAccounts := fun a =>
      if a = exampleAuthorityAta then some ⟨exampleMint, exampleAuthority, 100⟩
      else if a = exampleClaimerAta then some ⟨exampleMint, exampleClaimer, 0⟩ else none
    mints := fun a => a = exampleMint
    system :=
      ⟨fun a => if a = exampleAuthority ∨ a = exampleClaimer then 10000000000
        else if a = exampleMint then exampleRuntime.minimumBalance 82
        else if a = exampleAuthorityAta ∨ a = exampleClaimerAta then
          exampleRuntime.minimumBalance TokenAccount.len
        else 0,
       fun a => !(a = exampleMint || a = exampleAuthorityAta || a = exampleClaimerAta)⟩ }

/-- The creation of the specification's example grant (id 0, one token per period of 30 days
from `start_ts = 1000`, no expiry) by `exampleAuthority` for `exampleMint`. -/
def exampleCreate : ProgramInstruction :=
  .createGrant exampleAuthority exampleMint 0 1 exampleGrant.periodSeconds exampleGrant.startTs
    I64.zero

/-- The address of the example grant. -/
def exampleGrantKey : Pubkey :=
  (exampleRuntime.findProgramAddress (grantSeeds exampleAuthority exampleMint 0)).1

/-- The example grant as `exampleCreate` writes it. -/
def exampleOpenGrant : Grant :=
  { exampleGrant with authority := exampleAuthority, mint := exampleMint
                      vault := (exampleRuntime.findProgramAddress (vaultSeeds exampleGrantKey)).1
                      bump := 255 }

/-- The allowlist of the claimer alone: the root of the tree with its one leaf. -/
def exampleRoot : Hash := allowlistLeaf exampleDigest exampleClaimer

/-- The authority creates the example grant, gives it the claimer's allowlist and pauses it. -/
def exampleAdminSteps : List (I64 × ProgramInstruction) :=
  [(exampleNow, exampleCreate),
    (exampleNow, .setAllowlistRoot exampleGrantKey exampleMint exampleAuthority exampleRoot),
    (exampleNow, .setPaused exampleGrantKey exampleMint exampleAuthority true)]

set_option maxRecDepth 4000 in
/-- A second `create_grant` on a grant that has an allowlist and is paused: the example grant,
given the claimer's allowlist and paused, is created again, and is unpaused with a zero root. -/
theorem execute_createGrant_resets :
    (run exampleRuntime exampleWallets exampleAdminSteps).grants exampleGrantKey =
      some { exampleOpenGrant with merkleRoot := exampleRoot, paused := true } ∧
    ((execute exampleRuntime exampleNow (run exampleRuntime exampleWallets exampleAdminSteps)
        exampleCreate).toOption.bind fun w' => w'.grants exampleGrantKey) = some exampleOpenGrant := by
  decide

end GrantProgram
