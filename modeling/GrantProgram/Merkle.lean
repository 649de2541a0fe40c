import GrantProgram.ProofOfProcess

/-
**The allowlist: `allowlist_leaf` and `verify_merkle_sorted`.**

A grant with a non-zero `merkle_root` admits only the claimers its allowlist tree contains.  A
leaf is the domain-separated hash of a claimer key, and an inner node hashes its two children in
*sorted* order — the smaller one first, bytes compared lexicographically — so that a proof is a
plain list of sibling hashes with no left/right flags.  `verify_merkle_sorted` folds the proof
into the leaf, hashing the running value with each sibling in sorted order, and compares the
result with the root.

The trees themselves are built off-chain and are not part of the program; `MerkleTree` here is
the tree the sorted-pair rule describes, with `MerkleTree.root` computed by that rule and
`MerkleTree.proofs` the sibling list of every leaf occurrence.

Main definitions:

* `GrantProgram.allowlistLeaf`, `GrantProgram.verifyMerkleSorted` — the two functions of the
  program;
* `GrantProgram.MerkleTree`, `GrantProgram.MerkleTree.root`, `GrantProgram.MerkleTree.proofs`;
* `GrantProgram.Collision` — two different byte strings with the same digest among a list of
  hashed preimages.

Main results:

* `GrantProgram.merkleStep_comm` — a step of the fold does not depend on the order of its two
  operands;
* `GrantProgram.verifyMerkleSorted_proofs` — **completeness**: the sibling list of every leaf
  occurrence of every tree verifies against the tree's root;
* `GrantProgram.verifyMerkleSorted_sound` — **soundness up to a collision**: a proof that verifies
  for a claimer against the root of a tree either comes from a leaf of that claimer, or two of the
  preimages hashed by the verification and by the tree are different strings with the same
  digest.
-/

set_option autoImplicit false

namespace GrantProgram

variable (sha256 : Bytes → Hash)

/-! ### The program's functions -/

/-- The domain tag of a leaf. -/
def allowlistTag : Bytes := ascii "we-ne:allowlist"

/-- `allowlist_leaf`: `sha256("we-ne:allowlist" || claimer)`. -/
def allowlistLeaf (claimer : Pubkey) : Hash := hashv sha256 [allowlistTag, claimer.toList]

/-- The two operands of a step in sorted order: `if computed <= p { (computed, p) } else
{ (p, computed) }`. -/
def sortedPair (computed p : Hash) : Hash × Hash :=
  if lexLe computed.toList p.toList then (computed, p) else (p, computed)

/-- The preimage a step hashes: the two operands, smaller first. -/
def merkleStepPreimage (computed p : Hash) : Bytes :=
  (sortedPair computed p).1.toList ++ (sortedPair computed p).2.toList

/-- One step of `verify_merkle_sorted`'s loop. -/
def merkleStep (computed p : Hash) : Hash :=
  hashv sha256 [(sortedPair computed p).1.toList, (sortedPair computed p).2.toList]

/-- `verify_merkle_sorted`. -/
def verifyMerkleSorted (root leaf : Hash) (proof : List Hash) : Bool :=
  decide (proof.foldl (merkleStep sha256) leaf = root)

theorem merkleStep_eq (computed p : Hash) :
    merkleStep sha256 computed p = sha256 (merkleStepPreimage computed p) := by
  simp [merkleStep, merkleStepPreimage, hashv]

theorem allowlistLeaf_eq (claimer : Pubkey) :
    allowlistLeaf sha256 claimer = sha256 (allowlistTag ++ claimer.toList) := by
  simp [allowlistLeaf, hashv]

/-! ### The sorted pair -/

theorem sortedPair_comm (a b : Hash) : sortedPair a b = sortedPair b a := by
  unfold sortedPair
  by_cases hab : lexLe a.toList b.toList = true <;> by_cases hba : lexLe b.toList a.toList = true
  · rw [Bytes32.toList_inj (lexLe_antisymm hab hba)]
  · simp [hab, hba]
  · simp [hab, hba]
  · rcases lexLe_total a.toList b.toList with h | h <;> simp_all

theorem merkleStep_comm (a b : Hash) : merkleStep sha256 a b = merkleStep sha256 b a := by
  rw [merkleStep, merkleStep, sortedPair_comm]

theorem sortedPair_cases (a b : Hash) : sortedPair a b = (a, b) ∨ sortedPair a b = (b, a) := by
  unfold sortedPair; split <;> simp

/-- Equal step preimages have the same operands, in some order. -/
theorem merkleStepPreimage_inj {a b c d : Hash}
    (h : merkleStepPreimage a b = merkleStepPreimage c d) :
    (a = c ∧ b = d) ∨ (a = d ∧ b = c) := by
  unfold merkleStepPreimage at h
  obtain ⟨h₁, h₂⟩ := List.append_inj h (by simp)
  have hp : sortedPair a b = sortedPair c d :=
    Prod.ext (Bytes32.toList_inj h₁) (Bytes32.toList_inj h₂)
  rcases sortedPair_cases a b with hab | hab <;> rcases sortedPair_cases c d with hcd | hcd <;>
    rw [hab, hcd, Prod.mk.injEq] at hp <;> tauto

@[simp] theorem merkleStepPreimage_length (a b : Hash) : (merkleStepPreimage a b).length = 64 := by
  simp [merkleStepPreimage]

@[simp] theorem allowlistTag_length : allowlistTag.length = 15 := rfl

theorem verifyMerkleSorted_iff {root leaf : Hash} {proof : List Hash} :
    verifyMerkleSorted sha256 root leaf proof = true ↔
      proof.foldl (merkleStep sha256) leaf = root :=
  decide_eq_true_iff

/-! ### Trees -/

/-- A binary tree of claimer keys, as the off-chain builder makes it. -/
inductive MerkleTree
  | leaf (key : Pubkey)
  | node (left right : MerkleTree)

namespace MerkleTree

/-- The root by the sorted-pair rule: a leaf is `allowlist_leaf` of its key, a node the hash of
its children's roots, the smaller first. -/
def root : MerkleTree → Hash
  | leaf k => allowlistLeaf sha256 k
  | node l r => hashv sha256 [(sortedPair (root l) (root r)).1.toList,
      (sortedPair (root l) (root r)).2.toList]

/-- The keys at the leaves. -/
def keys : MerkleTree → List Pubkey
  | leaf k => [k]
  | node l r => keys l ++ keys r

/-- Every leaf occurrence with its proof: the roots of its sibling subtrees, bottom-up. -/
def proofs : MerkleTree → List (Pubkey × List Hash)
  | leaf k => [(k, [])]
  | node l r => (proofs l).map (fun kp => (kp.1, kp.2 ++ [root sha256 r])) ++
      (proofs r).map (fun kp => (kp.1, kp.2 ++ [root sha256 l]))

/-- The preimages the root computation hashes. -/
def preimages : MerkleTree → List Bytes
  | leaf k => [allowlistTag ++ k.toList]
  | node l r => merkleStepPreimage (root sha256 l) (root sha256 r) :: (preimages l ++ preimages r)

theorem root_node (l r : MerkleTree) :
    root sha256 (node l r) = merkleStep sha256 (root sha256 l) (root sha256 r) := rfl

end MerkleTree

/-! ### Completeness -/

theorem foldl_proofs (T : MerkleTree) :
    ∀ kp ∈ T.proofs sha256, kp.2.foldl (merkleStep sha256) (allowlistLeaf sha256 kp.1) =
      T.root sha256 := by
  induction T with
  | leaf k => simp [MerkleTree.proofs, MerkleTree.root]
  | node l r ihl ihr =>
      simp only [MerkleTree.proofs, List.mem_append, List.mem_map]
      rintro _ (⟨⟨k, P⟩, hkP, rfl⟩ | ⟨⟨k, P⟩, hkP, rfl⟩)
      · simp [ihl _ hkP, MerkleTree.root_node]
      · simp [ihr _ hkP, MerkleTree.root_node, merkleStep_comm]

/-- **Completeness**: in every tree, the sibling list of every leaf occurrence verifies for its
key against the root, whatever side the leaf is on at each level. -/
theorem verifyMerkleSorted_proofs (T : MerkleTree) :
    ∀ kp ∈ T.proofs sha256,
      verifyMerkleSorted sha256 (T.root sha256) (allowlistLeaf sha256 kp.1) kp.2 = true :=
  fun kp hkp => (verifyMerkleSorted_iff sha256).2 (foldl_proofs sha256 T kp hkp)

theorem verifyMerkleSorted_proofs_pair :
    (Bytes32.zero, [Bytes32.zero]) ∈
        (MerkleTree.node (.leaf Bytes32.zero) (.leaf Bytes32.zero)).proofs (fun _ => Bytes32.zero) ∧
      verifyMerkleSorted (fun _ => Bytes32.zero)
        ((MerkleTree.node (.leaf Bytes32.zero) (.leaf Bytes32.zero)).root (fun _ => Bytes32.zero))
        (allowlistLeaf (fun _ => Bytes32.zero) Bytes32.zero) [Bytes32.zero] = true :=
  have h : (Bytes32.zero, [Bytes32.zero]) ∈
      (MerkleTree.node (.leaf Bytes32.zero) (.leaf Bytes32.zero)).proofs (fun _ => Bytes32.zero) := by
    decide
  ⟨h, verifyMerkleSorted_proofs (fun _ => Bytes32.zero) _ _ h⟩

/-! ### Soundness up to a collision -/

/-- Two different byte strings with the same digest among `S`. -/
def Collision (S : List Bytes) : Prop := ∃ a ∈ S, ∃ b ∈ S, a ≠ b ∧ sha256 a = sha256 b

theorem Collision.mono {S S' : List Bytes} (h : Collision sha256 S) (hS : S ⊆ S') :
    Collision sha256 S' := by
  obtain ⟨a, ha, b, hb, hne, he⟩ := h
  exact ⟨a, hS ha, b, hS hb, hne, he⟩

/-- The preimages the fold of a proof hashes, from the running value `h`. -/
def verifyPreimages (h : Hash) : List Hash → List Bytes
  | [] => []
  | x :: xs => merkleStepPreimage h x :: verifyPreimages (merkleStep sha256 h x) xs

theorem verifyPreimages_concat (h : Hash) (q : List Hash) (x : Hash) :
    verifyPreimages sha256 h (q ++ [x]) =
      verifyPreimages sha256 h q ++ [merkleStepPreimage (q.foldl (merkleStep sha256) h) x] := by
  induction q generalizing h with
  | nil => rfl
  | cons y q ih => simp [verifyPreimages, ih]

/-- The preimages hashed when a claimer's proof is checked: its leaf, then each step. -/
def allowlistPreimages (c : Pubkey) (proof : List Hash) : List Bytes :=
  (allowlistTag ++ c.toList) :: verifyPreimages sha256 (allowlistLeaf sha256 c) proof

theorem allowlistPreimages_concat_subset (c : Pubkey) (q : List Hash) (x : Hash) :
    allowlistPreimages sha256 c q ⊆ allowlistPreimages sha256 c (q ++ [x]) := by
  intro y hy
  simp only [allowlistPreimages, verifyPreimages_concat, List.mem_cons, List.mem_append] at hy ⊢
  tauto

theorem stepPreimage_mem_allowlistPreimages (c : Pubkey) (q : List Hash) (x : Hash) :
    merkleStepPreimage ((q.foldl (merkleStep sha256) (allowlistLeaf sha256 c))) x ∈
      allowlistPreimages sha256 c (q ++ [x]) := by
  simp [allowlistPreimages, verifyPreimages_concat]

/-- A leaf preimage (47 bytes) is never a step preimage (64 bytes). -/
theorem leafPreimage_ne_stepPreimage (k : Pubkey) (a b : Hash) :
    allowlistTag ++ k.toList ≠ merkleStepPreimage a b := by
  intro h
  have := congrArg List.length h
  simp at this

/-- **Soundness up to a collision.**  If a proof for claimer `c` folds to the root of a tree, then
`c` is a key of the tree, or two different preimages hashed by the verification and by the root
computation have the same digest. -/
theorem verifyMerkleSorted_sound (T : MerkleTree) (c : Pubkey) (p : List Hash)
    (h : verifyMerkleSorted sha256 (T.root sha256) (allowlistLeaf sha256 c) p = true) :
    c ∈ T.keys ∨ Collision sha256 (allowlistPreimages sha256 c p ++ T.preimages sha256) := by
  rw [verifyMerkleSorted_iff] at h
  induction T generalizing p with
  | leaf k =>
      rcases List.eq_nil_or_concat p with rfl | ⟨q, x, rfl⟩
      · by_cases hck : c = k
        · exact .inl (by simp [MerkleTree.keys, hck])
        · refine .inr ⟨_, by simp [allowlistPreimages], allowlistTag ++ k.toList,
            by simp [MerkleTree.preimages], fun he => hck (Bytes32.toList_inj
              (List.append_cancel_left he)), ?_⟩
          simpa [allowlistLeaf_eq, MerkleTree.root] using h
      · rw [List.concat_eq_append] at h ⊢
        refine .inr ⟨_, List.mem_append_left _ (stepPreimage_mem_allowlistPreimages sha256 c q x),
          allowlistTag ++ k.toList, by simp [MerkleTree.preimages],
          (leafPreimage_ne_stepPreimage k _ _).symm, ?_⟩
        simpa [merkleStep_eq, MerkleTree.root, allowlistLeaf_eq] using h
  | node l r ihl ihr =>
      rcases List.eq_nil_or_concat p with rfl | ⟨q, x, rfl⟩
      · refine .inr ⟨_, by simp [allowlistPreimages], merkleStepPreimage (l.root sha256)
          (r.root sha256), by simp [MerkleTree.preimages], leafPreimage_ne_stepPreimage c _ _, ?_⟩
        simpa [allowlistLeaf_eq, MerkleTree.root_node, merkleStep_eq] using h
      · rw [List.concat_eq_append] at h ⊢
        rw [List.foldl_concat, MerkleTree.root_node, merkleStep_eq, merkleStep_eq] at h
        -- a collision found below one child is a collision of the whole verification
        have hsub : ∀ {S : List Bytes}, S ⊆ (l.node r).preimages sha256 →
            allowlistPreimages sha256 c q ++ S ⊆
              allowlistPreimages sha256 c (q ++ [x]) ++ (l.node r).preimages sha256 := by
          intro S hS y hy
          rcases List.mem_append.1 hy with hy | hy
          · exact List.mem_append_left _ (allowlistPreimages_concat_subset sha256 c q x hy)
          · exact List.mem_append_right _ (hS hy)
        by_cases heq : merkleStepPreimage (q.foldl (merkleStep sha256) (allowlistLeaf sha256 c)) x =
            merkleStepPreimage (l.root sha256) (r.root sha256)
        · rcases merkleStepPreimage_inj heq with ⟨ha, -⟩ | ⟨ha, -⟩
          · rcases ihl q ha with hk | hc
            · exact .inl (List.mem_append_left _ hk)
            · exact .inr (hc.mono sha256 (hsub fun y hy => by simp [MerkleTree.preimages, hy]))
          · rcases ihr q ha with hk | hc
            · exact .inl (List.mem_append_right _ hk)
            · exact .inr (hc.mono sha256 (hsub fun y hy => by simp [MerkleTree.preimages, hy]))
        · exact .inr ⟨_, List.mem_append_left _ (stepPreimage_mem_allowlistPreimages sha256 c q x),
            _, by simp [MerkleTree.preimages], heq, h⟩

end GrantProgram
