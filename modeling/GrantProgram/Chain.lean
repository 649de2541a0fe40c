import GrantProgram.Allowlist
import Mathlib.Data.List.Chain

/-
**The proof-of-process chain of a grant over a run.**

Every accepted claim on a grant carries a proof-of-process message, and
`verify_and_record_pop_proof` accepts it only if it extends the chain recorded in the grant's
`PopState`, on both strands, or starts it from two zero hashes.  Over a whole run, whatever the
interleaving of claims by any claimers and of the other instructions, and whatever claims fail on
the way, the messages of the accepted claims on a grant therefore form one hash chain: the first
starts from zero, each one names the entry hash of the one before it on both strands, each one
commits to its own fields, and the chain state records the last one.

Two accepted messages on the same base (the same previous hash) would be a fork.  The chain has
none unless the digest has a collision among the entry preimages, or some entry hash is zero:
walking back from the two messages, equal bases mean equal entry hashes one step earlier, hence,
without a collision, equal preimages, hence equal bases again, down to the genesis message, whose
base is zero.

The same chain makes the claims on one grant sequential.  Two claims that each extend the chain
state they find cannot both be accepted one after the other, unless the first one's entry hash
is its own base; a proof of process is signed against one last entry, and any other accepted
claim on the grant makes it stale.

Main definitions:

* `GrantProgram.InstructionsSysvar.popMessage?` — the message a claim's signature instruction
  carries;
* `GrantProgram.popMessages` — the messages of the accepted claims on a grant, in order;
* `GrantProgram.PopChain` — the chain of those messages, and the chain state that records it.

Main results:

* `GrantProgram.execute_claim_chain` — what one successful claim does to the chain state;
* `GrantProgram.PopChain.step` — one successful instruction keeps the chain;
* `GrantProgram.PopChain.prevHash_eq_of_entryHash_eq` — without a collision, one entry hash means
  one base;
* `GrantProgram.PopChain.pairwise_prevHash_ne` — a chain without a zero entry hash or a collision
  has no fork;
* `GrantProgram.run_popChain` — **the chain over every run** from a state in which the grant's
  chain is not started;
* `GrantProgram.execute_claims_sequential` — **claims on one grant do not commute**: two claims
  accepted in one state are accepted one after the other only if the first entry is its own base.
-/

set_option autoImplicit false

namespace GrantProgram

/-! ### The messages of a run -/

/-- The proof-of-process message that the instruction just before the current one carries,
decoded as `verify_and_record_pop_proof` decodes it. -/
def InstructionsSysvar.popMessage? (sysvar : InstructionsSysvar) : Option PopProofMessage := do
  let ix ← sysvar.instructions[sysvar.currentIndex - 1]?
  let (_, bytes) ← (extractEd25519SignerAndMessage ix).toOption
  (parsePopMessage bytes).toOption

/-- The message a successful claim on `g` carries. -/
def Transition.popMessage? (g : Pubkey) (t : Transition) : Option PopProofMessage :=
  match t.ix.claim? with
  | some (acc, _) => if acc.grant = g then acc.sysvar.popMessage? else none
  | none => none

/-- The messages of the accepted claims on `g`, in the order of the run. -/
def popMessages (g : Pubkey) (tr : List Transition) : List PopProofMessage :=
  tr.filterMap (Transition.popMessage? g)

theorem popMessages_append_singleton (g : Pubkey) (tr : List Transition) (t : Transition) :
    popMessages g (tr ++ [t]) = popMessages g tr ++ (t.popMessage? g).toList := by
  cases h : t.popMessage? g <;> simp [popMessages, h]

/-- The chain state of `g` as a claim finds it: the account, or the zeroed one that
`init_if_needed` creates. -/
def chainState (w : World) (g : Pubkey) : PopState := (w.popStates g).getD PopState.empty

/-- The message a verified proof of process was decoded from. -/
theorem popMessage?_of_verifyPopProof {sha256 : Bytes → Hash} {sysvar : InstructionsSysvar}
    {popConfig : PopConfig} {g c : Pubkey} {k : UInt64} {now : I64} {m : PopProofMessage}
    (h : verifyPopProof sha256 sysvar popConfig g c k now = .ok m) : sysvar.popMessage? = some m := by
  obtain ⟨-, ix, pk, bytes, hix, -, hx, -, hm, -⟩ := verifyPopProof_eq_ok.1 h
  simp [InstructionsSysvar.popMessage?, hix, hx, hm, Except.toOption]

/-- **What a successful claim does to the chain.**  The message it carries commits to its own
fields and extends the chain state of the claim's grant; that chain state advances to it, and no
other changes. -/
theorem execute_claim_chain {rt : Runtime} {now : I64} {w w' : World} {ix : ProgramInstruction}
    {acc : ClaimAccounts} {k : UInt64} (h : execute rt now w ix = .ok w')
    (hc : ix.claim? = some (acc, k)) :
    ∃ m bump, acc.sysvar.popMessage? = some m ∧ m.expectedEntryHash rt.sha256 = .ok m.entryHash ∧
      (chainState w acc.grant).Extends acc.grant m ∧
      w'.popStates = Function.update w.popStates acc.grant
        (some ((chainState w acc.grant).advance acc.grant bump m)) := by
  obtain ⟨ctx, hl, -, hs, -⟩ := execute_claim h hc
  obtain ⟨m, v, a, hv, hx, -, -, rfl⟩ := settleClaim_eq_ok.1 hs
  have hps := (loadClaimGrant_eq_ok.1 hl).popState
  obtain ⟨-, -, -, -, -, -, -, -, -, -, -, -, -, he, -⟩ := verifyPopProof_eq_ok.1 hv
  rw [hps] at hx
  exact ⟨m, ctx.popStateBump, popMessage?_of_verifyPopProof hv, he, hx, by rw [hps]; rfl⟩

/-! ### The chain -/

/-- The hash chain of the grant `g` in the accounts `w`, given the messages `ms` of the claims
accepted on it so far, in order. -/
structure PopChain (sha256 : Bytes → Hash) (g : Pubkey) (w : World) (ms : List PopProofMessage) :
    Prop where
  /-- The first message starts the chain on both strands. -/
  genesis : ∀ m ∈ ms.head?, m.prevHash = Bytes32.zero ∧ m.streamPrevHash = Bytes32.zero
  /-- Each message extends the one before it, on both strands. -/
  linked : ms.Chain' fun m m' => m'.prevHash = m.entryHash ∧ m'.streamPrevHash = m.entryHash
  /-- Each message's entry hash is `pop_entry_hash` of its own fields. -/
  committed : ∀ m ∈ ms, m.expectedEntryHash sha256 = .ok m.entryHash
  /-- Before the first accepted claim the chain state is not initialized. -/
  unstarted : ms = [] → (chainState w g).initialized = false
  /-- After it, the chain state records the last accepted message on both strands. -/
  last : ∀ m ∈ ms.getLast?, ∃ s, w.popStates g = some s ∧ s.initialized = true ∧ s.grant = g ∧
    s.lastGlobalHash = m.entryHash ∧ s.lastStreamHash = m.entryHash ∧
    s.lastPeriodIndex = m.periodIndex ∧ s.lastIssuedAt = m.issuedAt

namespace PopChain

variable {sha256 : Bytes → Hash} {g : Pubkey} {w w' : World} {ms : List PopProofMessage}

theorem nil (h : (chainState w g).initialized = false) : PopChain sha256 g w [] :=
  ⟨by simp, trivial, by simp, fun _ => h, by simp⟩

/-- The chain depends on the accounts only through the chain state of `g`. -/
theorem congr (hc : PopChain sha256 g w ms) (h : w'.popStates g = w.popStates g) :
    PopChain sha256 g w' ms :=
  ⟨hc.genesis, hc.linked, hc.committed, by simpa [chainState, h] using hc.unstarted,
    by simpa [h] using hc.last⟩

/-- A message that extends the recorded chain, once recorded, extends the list of accepted
messages. -/
theorem extend (hc : PopChain sha256 g w ms) {m : PopProofMessage} {bump : UInt8}
    (hx : (chainState w g).Extends g m) (he : m.expectedEntryHash sha256 = .ok m.entryHash)
    (hw : w'.popStates g = some ((chainState w g).advance g bump m)) :
    PopChain sha256 g w' (ms ++ [m]) := by
  refine ⟨?_, ?_, ?_, by simp, by simp [hw, PopState.advance]⟩
  · cases ms with
    | nil =>
      rcases hx with ⟨hi, -⟩ | ⟨-, h₁, h₂⟩
      · simp [hc.unstarted rfl] at hi
      · simpa using And.intro h₁ h₂
    | cons x xs => simpa using hc.genesis
  · refine List.chain'_append.2 ⟨hc.linked, List.chain'_singleton m, fun x hx' y hy => ?_⟩
    obtain rfl : y = m := by simpa using hy.symm
    obtain ⟨s, hs, hi, -, hgh, hsh, -⟩ := hc.last x hx'
    simp only [chainState, hs, Option.getD_some] at hx
    rcases hx with ⟨-, -, h₁, h₂⟩ | ⟨hi', -⟩
    · exact ⟨h₁.symm.trans hgh, h₂.symm.trans hsh⟩
    · simp [hi] at hi'
  · simpa [or_imp, forall_and] using And.intro hc.committed he

/-- **One successful instruction keeps the chain.** -/
theorem step {tr : List Transition} (hc : PopChain sha256 g w (popMessages g tr)) {rt : Runtime}
    {now : I64} {ix : ProgramInstruction} (h : execute rt now w ix = .ok w')
    (hsha : rt.sha256 = sha256) :
    PopChain sha256 g w' (popMessages g (tr ++ [⟨w, now, ix, w'⟩])) := by
  subst hsha
  rw [popMessages_append_singleton]
  cases hcl : ix.claim? with
  | none =>
    have hm : Transition.popMessage? g ⟨w, now, ix, w'⟩ = none := by
      simp [Transition.popMessage?, hcl]
    rw [hm, Option.toList_none, List.append_nil]
    exact hc.congr (congrFun (execute_of_claim?_eq_none h hcl).2 g)
  | some ak =>
    obtain ⟨acc, k⟩ := ak
    obtain ⟨m, bump, hm, he, hx, hw'⟩ := execute_claim_chain h hcl
    by_cases hg : acc.grant = g
    · subst hg
      rw [show Transition.popMessage? acc.grant ⟨w, now, ix, w'⟩ = some m by
        simp [Transition.popMessage?, hcl, hm], Option.toList_some]
      exact hc.extend hx he (by rw [hw', Function.update_same])
    · rw [show Transition.popMessage? g ⟨w, now, ix, w'⟩ = none by
        simp [Transition.popMessage?, hcl, hg], Option.toList_none, List.append_nil]
      exact hc.congr (by rw [hw', Function.update_noteq (Ne.symm hg)])

/-- Without a collision among the entry preimages, two messages of the chain with one entry hash
have one base: their preimages are equal, and the base is a field of the preimage. -/
theorem prevHash_eq_of_entryHash_eq (hc : PopChain sha256 g w ms)
    (hcol : ¬Collision sha256 (ms.filterMap PopProofMessage.entryPreimage?))
    {m m' : PopProofMessage} (hm : m ∈ ms) (hm' : m' ∈ ms) (he : m.entryHash = m'.entryHash) :
    m.prevHash = m'.prevHash := by
  obtain ⟨b, hb, hbe⟩ := expectedEntryHash_eq_ok.1 (hc.committed m hm)
  obtain ⟨b', hb', hbe'⟩ := expectedEntryHash_eq_ok.1 (hc.committed m' hm')
  obtain rfl : b = b' := by
    by_contra hne
    exact hcol ⟨b, List.mem_filterMap.2 ⟨m, hm, hb⟩, b', List.mem_filterMap.2 ⟨m', hm', hb'⟩,
      hne, by rw [hbe, hbe', he]⟩
  exact Bytes32.toList_inj ((entryPreimage?_prevHash hb).symm.trans (entryPreimage?_prevHash hb'))

/-- **No fork without a collision or a zero entry.**  Unless some entry hash of the chain is zero
or two distinct entry preimages have the same digest, no two messages of the chain extend the
same base. -/
theorem pairwise_prevHash_ne (hc : PopChain sha256 g w ms) :
    (∃ m ∈ ms, m.entryHash = Bytes32.zero) ∨
      Collision sha256 (ms.filterMap PopProofMessage.entryPreimage?) ∨
      ms.Pairwise fun m m' => m.prevHash ≠ m'.prevHash := by
  refine or_iff_not_imp_left.2 fun hz => or_iff_not_imp_left.2 fun hcol => ?_
  have hfirst : ∀ h : 0 < ms.length, ms[0].prevHash = Bytes32.zero := by
    cases ms with
    | nil => intro h; simp at h
    | cons x xs => exact fun _ => (hc.genesis x rfl).1
  have hnext : ∀ i (h : i + 1 < ms.length), ms[i + 1].prevHash = ms[i].entryHash := fun i h => by
    simpa using (List.chain'_iff_get.1 hc.linked i (by omega)).1
  -- walking back from the two messages: equal bases, equal entry hashes one step earlier
  rw [List.pairwise_iff_getElem]
  intro i j hi hj hij
  induction i generalizing j with
  | zero =>
    obtain ⟨j, rfl⟩ : ∃ j', j = j' + 1 := ⟨j - 1, by omega⟩
    rw [hfirst, hnext]
    exact fun h => hz ⟨_, List.getElem_mem _, h.symm⟩
  | succ i ih =>
    obtain ⟨j, rfl⟩ : ∃ j', j = j' + 1 := ⟨j - 1, by omega⟩
    rw [hnext, hnext]
    exact fun he => ih j (by omega) (by omega) (by omega)
      (hc.prevHash_eq_of_entryHash_eq hcol (List.getElem_mem _) (List.getElem_mem _) he)

end PopChain

/-! ### Every run -/

/-- **The proof-of-process chain over every run.**  From accounts in which the chain of the grant
`g` is not started, after any run, the messages of the claims accepted on `g`, in order, form a
chain: the first starts from zero on both strands, each extends the one before it on both
strands, each commits to its own fields, and the chain state is unstarted if there are none and
records the last one otherwise.  And no two of them extend the same base, unless some entry hash
is zero or two distinct entry preimages have one digest. -/
theorem run_popChain (rt : Runtime) (w : World) (steps : List (I64 × ProgramInstruction))
    (g : Pubkey) (hg : (chainState w g).initialized = false) :
    PopChain rt.sha256 g (run rt w steps) (popMessages g (trace rt w steps)) ∧
    ((∃ m ∈ popMessages g (trace rt w steps), m.entryHash = Bytes32.zero) ∨
      Collision rt.sha256
        ((popMessages g (trace rt w steps)).filterMap PopProofMessage.entryPreimage?) ∨
      (popMessages g (trace rt w steps)).Pairwise fun m m' => m.prevHash ≠ m'.prevHash) := by
  have hrun : PopChain rt.sha256 g (run rt w steps) (popMessages g (trace rt w steps)) := by
    simpa using run_trace_induction rt (fun _ => True)
      (fun w tr => PopChain rt.sha256 g w (popMessages g tr))
      (fun _ _ _ _ _ _ hc h => hc.step h rfl) steps (fun _ _ => trivial) w [] (PopChain.nil hg)
  exact ⟨hrun, hrun.pairwise_prevHash_ne⟩

/-- The example claim, at the clock value of the example. -/
def exampleClaimSteps : List (I64 × ProgramInstruction) :=
  [(exampleNow, .claimGrantWithProof exampleClaimAccounts 3 [])]

set_option maxRecDepth 4000 in
theorem run_popChain_exampleClaim :
    (chainState exampleClaimWorld exampleGrantKey).initialized = false ∧
    PopChain exampleRuntime.sha256 exampleGrantKey
      (run exampleRuntime exampleClaimWorld exampleClaimSteps)
      (popMessages exampleGrantKey (trace exampleRuntime exampleClaimWorld exampleClaimSteps)) ∧
    ((∃ m ∈ popMessages exampleGrantKey (trace exampleRuntime exampleClaimWorld exampleClaimSteps),
        m.entryHash = Bytes32.zero) ∨
      Collision exampleRuntime.sha256
        ((popMessages exampleGrantKey
          (trace exampleRuntime exampleClaimWorld exampleClaimSteps)).filterMap
          PopProofMessage.entryPreimage?) ∨
      (popMessages exampleGrantKey (trace exampleRuntime exampleClaimWorld exampleClaimSteps)).Pairwise
        fun m m' => m.prevHash ≠ m'.prevHash) :=
  have hg : (chainState exampleClaimWorld exampleGrantKey).initialized = false := by decide
  ⟨hg, run_popChain exampleRuntime exampleClaimWorld exampleClaimSteps exampleGrantKey hg⟩

/-! ### Claims on one grant, one after the other -/

/-- **Claims on one grant are sequential.**  Let two claims on one grant each succeed in the
accounts `w`, by any claimers, for any periods, at any clock values.  If the second still succeeds
after the first, then the first one's message is its own base: its entry hash, the digest of a
preimage that holds its `prev_hash` and `stream_prev_hash`, equals both.  Short of a digest that
returns a hash it was given, once a claim on a grant is accepted, every other claim on it that
would have succeeded in the same state fails: its proof of process, signed against the old last
entry, is stale, and the signer must sign again against the new one.  Unlike claims on two
grants, claims on one grant do not commute. -/
theorem execute_claims_sequential {rt : Runtime} {now₁ now₂ : I64} {w w₁ w₂ w₁₂ : World}
    {ix₁ ix₂ : ProgramInstruction} {acc₁ acc₂ : ClaimAccounts} {k₁ k₂ : UInt64}
    (h₁ : execute rt now₁ w ix₁ = .ok w₁) (h₂ : execute rt now₂ w ix₂ = .ok w₂)
    (h₁₂ : execute rt now₂ w₁ ix₂ = .ok w₁₂) (hc₁ : ix₁.claim? = some (acc₁, k₁))
    (hc₂ : ix₂.claim? = some (acc₂, k₂)) (hg : acc₁.grant = acc₂.grant) :
    ∃ m, acc₁.sysvar.popMessage? = some m ∧ m.entryHash = m.prevHash ∧
      m.entryHash = m.streamPrevHash := by
  obtain ⟨m₁, bump, hm₁, -, hx₁, hw₁⟩ := execute_claim_chain h₁ hc₁
  obtain ⟨m₂, -, hm₂, -, hx₂, -⟩ := execute_claim_chain h₂ hc₂
  obtain ⟨m₂', -, hm₂', -, hx₁₂, -⟩ := execute_claim_chain h₁₂ hc₂
  obtain rfl : m₂' = m₂ := Option.some_injective _ (hm₂'.symm.trans hm₂)
  -- after the first claim, the chain state of the grant is at the first entry
  have hs : chainState w₁ acc₂.grant = (chainState w acc₁.grant).advance acc₁.grant bump m₁ := by
    rw [← hg, chainState, hw₁, Function.update_same, Option.getD_some]
  rw [hs, PopState.extends_advance] at hx₁₂
  -- before it, both messages extended the same chain state, so they have one base
  obtain ⟨hp, hsp⟩ := (hg ▸ hx₁).base_eq hx₂
  exact ⟨m₁, hm₁, hx₁₂.2.1.trans hp.symm, hx₁₂.2.2.trans hsp.symm⟩

/-- A digest with a fixed point on every entry: the 32 bytes that follow the 12-byte tag of an
entry preimage, which are its `prev_hash`.  Under it every entry is its own base. -/
def exampleEchoDigest (bytes : Bytes) : Hash :=
  ⟨(bytes.drop 12 ++ List.replicate 32 0).take 32, by
    simp only [List.length_take, List.length_append, List.length_replicate]; omega⟩

/-- `exampleRuntime` with `exampleEchoDigest` for SHA-256. -/
def exampleEchoRuntime : Runtime := { exampleRuntime with sha256 := exampleEchoDigest }

/-- A claim on the example grant for period 3 by `c` into its token account `ata`, with a genesis
message under `exampleEchoDigest`. -/
def exampleLinkedClaim (c ata : Pubkey) : ClaimAccounts :=
  ⟨exampleGrantKey, exampleMint, c, ata,
    exampleSysvar (exampleMessage exampleEchoRuntime exampleGrantKey c Bytes32.zero)⟩

/-- The accounts after `exampleSetup` under `exampleEchoRuntime`: the example grant, funded, with
the authority's signer registered and no chain state. -/
def exampleChainWorld : World := run exampleEchoRuntime exampleWallets exampleSetup

set_option maxRecDepth 4000 in
/-- Under `exampleEchoRuntime` an entry is its own base, so claims of the claimer and of the
authority, each a genesis of the chain, go through one after the other. -/
theorem execute_claims_sequential_exampleChain :
    ∃ w₁ w₂ w₁₂, execute exampleEchoRuntime exampleNow exampleChainWorld
        (.claimGrant (exampleLinkedClaim exampleClaimer exampleClaimerAta) 3) = .ok w₁ ∧
      execute exampleEchoRuntime exampleNow exampleChainWorld
        (.claimGrant (exampleLinkedClaim exampleAuthority exampleAuthorityAta) 3) = .ok w₂ ∧
      execute exampleEchoRuntime exampleNow w₁
        (.claimGrant (exampleLinkedClaim exampleAuthority exampleAuthorityAta) 3) = .ok w₁₂ ∧
      ∃ m, (exampleLinkedClaim exampleClaimer exampleClaimerAta).sysvar.popMessage? = some m ∧
        m.entryHash = m.prevHash ∧ m.entryHash = m.streamPrevHash :=
  ⟨_, _, _, rfl, rfl, rfl, @execute_claims_sequential exampleEchoRuntime exampleNow exampleNow
    exampleChainWorld _ _ _ (.claimGrant (exampleLinkedClaim exampleClaimer exampleClaimerAta) 3)
    (.claimGrant (exampleLinkedClaim exampleAuthority exampleAuthorityAta) 3) _ _ _ _ rfl rfl rfl
    rfl rfl rfl⟩

end GrantProgram
