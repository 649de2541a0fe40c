import GrantProgram.Merkle
import Mathlib.Algebra.BigOperators.Group.List
import Mathlib.Algebra.Order.Ring.Nat

/-
**Domain separation of the hashed byte strings.**

The program hashes three kinds of byte strings with `hashv`: the entries of the proof-of-process
chain (`pop_entry_hash`, in two versions with a tag each), the leaves of the allowlist
(`allowlist_leaf`, with its own tag) and the nodes of the allowlist tree, which
`verify_merkle_sorted` hashes as two operands, smaller first.  Each is a concatenation of fields
of fixed widths, and the four kinds have four lengths: 156 bytes for a version 1 entry, 188 for a
version 2 entry, 47 for a leaf and 64 for a node.  So the bytes determine the kind, and, the
widths being fixed, every field the kind hashes: two calls hash the same bytes exactly when they
are of one kind with the same hashed fields.  A version 1 entry does not hash its audit hash, so
two version 1 entries that differ only there hash the same bytes.

Main definitions:

* `GrantProgram.HashInput` — a call of `hashv` by the program, with the fields it hashes;
* `GrantProgram.HashInput.preimage?` — the bytes it hashes;
* `GrantProgram.HashInput.SameFields` — two calls of one kind with the same hashed fields.

Main results:

* `GrantProgram.HashInput.digest?_popEntry`, `GrantProgram.HashInput.digest?_leaf`,
  `GrantProgram.HashInput.digest?_node` — the hashes the program computes are the digests of
  these calls;
* `GrantProgram.HashInput.length_preimage?` — the length of the bytes is fixed by the kind;
* `GrantProgram.HashInput.sameFields_of_preimage?_eq` — equal bytes come from calls of one kind
  with the same hashed fields;
* `GrantProgram.HashInput.preimage?_eq_iff` — **the preimages are injective per kind and disjoint
  across kinds**;
* `GrantProgram.HashInput.sameFields_or_collision` — equal digests of two calls that differ in
  kind or in a hashed field are a collision of the digest.
-/

set_option autoImplicit false

namespace GrantProgram

/-! ### The calls of `hashv` -/

/-- A call of `hashv` by the program, with the fields it hashes: an entry of the proof-of-process
chain (`pop_entry_hash`), a leaf of the allowlist (`allowlist_leaf`), or a node of the allowlist
tree with its two operands in the order they are hashed. -/
inductive HashInput
  | popEntry (version : UInt8) (prevHash streamPrevHash auditHash : Hash) (grant claimer : Pubkey)
      (periodIndex : UInt64) (issuedAt : I64)
  | leaf (claimer : Pubkey)
  | node (left right : Hash)
deriving DecidableEq

namespace HashInput

/-- The byte strings a call passes to `hashv`; none for an entry of an unknown version, which
`pop_entry_hash` rejects before hashing. -/
def parts? : HashInput → Option (List Bytes)
  | popEntry v p s a g c k t => popEntryParts v p s a g c k t
  | leaf c => some [allowlistTag, c.toList]
  | node l r => some [l.toList, r.toList]

/-- The bytes a call hashes: its parts, concatenated. -/
def preimage? (x : HashInput) : Option Bytes := x.parts?.map List.flatten

/-- The digest of a call. -/
def digest? (sha256 : Bytes → Hash) (x : HashInput) : Option Hash := x.parts?.map (hashv sha256)

/-- Two calls of one kind that hash the same fields: for an entry, the same version and every
field it hashes, the audit hash in version 2 only. -/
def SameFields : HashInput → HashInput → Prop
  | popEntry v p s a g c k t, popEntry v' p' s' a' g' c' k' t' =>
    v = v' ∧ p = p' ∧ s = s' ∧ (v = popMessageVersionV2 → a = a') ∧ g = g' ∧ c = c' ∧ k = k' ∧
      t = t'
  | leaf c, leaf c' => c = c'
  | node l r, node l' r' => l = l' ∧ r = r'
  | _, _ => False

instance : DecidableRel SameFields := fun x y => by
  cases x <;> cases y <;> dsimp only [SameFields] <;> infer_instance

/-- The widths of a call's parts, fixed by its kind. -/
def widths : HashInput → List ℕ
  | popEntry v .. =>
    if v = popMessageVersionV1 then [12, 32, 32, 32, 32, 8, 8] else [12, 32, 32, 32, 32, 32, 8, 8]
  | leaf _ => [15, 32]
  | node .. => [32, 32]

/-! ### The program's hashes -/

/-- `pop_entry_hash` is the digest of the entry, and fails exactly on an unknown version. -/
theorem digest?_popEntry (sha256 : Bytes → Hash) (v : UInt8) (p s a : Hash) (g c : Pubkey)
    (k : UInt64) (t : I64) :
    (popEntry v p s a g c k t).digest? sha256 = (popEntryHash sha256 v p s a g c k t).toOption := by
  simp only [digest?, parts?, popEntryHash]
  cases popEntryParts v p s a g c k t <;> rfl

/-- `allowlist_leaf` is the digest of the leaf. -/
theorem digest?_leaf (sha256 : Bytes → Hash) (c : Pubkey) :
    (leaf c).digest? sha256 = some (allowlistLeaf sha256 c) := rfl

/-- A step of `verify_merkle_sorted` is the digest of the node of its two operands, sorted. -/
theorem digest?_node (sha256 : Bytes → Hash) (computed p : Hash) :
    (node (sortedPair computed p).1 (sortedPair computed p).2).digest? sha256 =
      some (merkleStep sha256 computed p) := rfl

/-- The preimage of an entry is the one the chain's collision results are about. -/
theorem preimage?_popEntry (m : PopProofMessage) :
    (popEntry m.version m.prevHash m.streamPrevHash m.auditHash m.grant m.claimer m.periodIndex
      m.issuedAt).preimage? = m.entryPreimage? := rfl

theorem digest?_eq_some {sha256 : Bytes → Hash} {x : HashInput} {h : Hash} :
    x.digest? sha256 = some h ↔ ∃ b, x.preimage? = some b ∧ sha256 b = h := by
  cases hx : x.parts? <;> simp [digest?, preimage?, hx, hashv]

/-! ### Widths and lengths -/

theorem map_length_parts {x : HashInput} {ps : List Bytes} (h : x.parts? = some ps) :
    ps.map List.length = x.widths := by
  cases x <;> simp only [parts?, popEntryParts, widths] at h ⊢ <;> (try split_ifs at h ⊢) <;>
    cases h <;> simp

/-- **The length of the bytes is fixed by the kind**: 156 for a version 1 entry, 188 for a
version 2 entry, 47 for a leaf and 64 for a node. -/
theorem length_preimage? {x : HashInput} {b : Bytes} (h : x.preimage? = some b) :
    b.length = x.widths.sum := by
  obtain ⟨ps, hps, rfl⟩ := Option.map_eq_some'.1 h
  rw [List.length_flatten, map_length_parts hps]

/-- Four kinds, four lengths. -/
theorem widths_eq_of_sum_eq {x y : HashInput} (h : x.widths.sum = y.widths.sum) :
    x.widths = y.widths := by
  cases x <;> cases y <;> simp only [widths] at h ⊢ <;> (try split_ifs at h ⊢) <;>
    first | rfl | exact absurd h (by decide)

/-! ### Injectivity per kind -/

theorem leBytes_u64_inj {k k' : UInt64} (h : leBytes k.toNat 8 = leBytes k'.toNat 8) : k = k' :=
  Option.some.inj ((u64OfLeBytes?_leBytes k).symm.trans (h ▸ u64OfLeBytes?_leBytes k'))

theorem leBytes_i64_inj {t t' : I64} (h : leBytes t.bits 8 = leBytes t'.bits 8) : t = t' :=
  Option.some.inj ((i64OfLeBytes?_leBytes t).symm.trans (h ▸ i64OfLeBytes?_leBytes t'))

/-- The parts of an entry determine its version and every field the version hashes. -/
theorem sameFields_of_popEntryParts {v v' : UInt8} {p s a p' s' a' : Hash} {g c g' c' : Pubkey}
    {k k' : UInt64} {t t' : I64} {ps : List Bytes} (h : popEntryParts v p s a g c k t = some ps)
    (h' : popEntryParts v' p' s' a' g' c' k' t' = some ps) :
    (popEntry v p s a g c k t).SameFields (popEntry v' p' s' a' g' c' k' t') := by
  unfold popEntryParts at h h'
  -- entries of different versions have different numbers of parts
  split_ifs at h h' <;> cases h <;>
    simp only [Option.some.injEq, List.cons.injEq, and_true, true_and, reduceCtorEq,
      and_false] at h'
  · -- version 1 does not hash the audit hash
    obtain rfl := ‹v = popMessageVersionV1›
    obtain rfl := ‹v' = popMessageVersionV1›
    obtain ⟨hp, hs, hg, hc, hk, ht⟩ := h'
    exact ⟨rfl, Bytes32.toList_inj hp.symm, Bytes32.toList_inj hs.symm,
      fun h => absurd h (by decide), Bytes32.toList_inj hg.symm, Bytes32.toList_inj hc.symm,
      (leBytes_u64_inj hk).symm, (leBytes_i64_inj ht).symm⟩
  · obtain rfl := ‹v = popMessageVersionV2›
    obtain rfl := ‹v' = popMessageVersionV2›
    obtain ⟨hp, hs, ha, hg, hc, hk, ht⟩ := h'
    exact ⟨rfl, Bytes32.toList_inj hp.symm, Bytes32.toList_inj hs.symm,
      fun _ => Bytes32.toList_inj ha.symm, Bytes32.toList_inj hg.symm, Bytes32.toList_inj hc.symm,
      (leBytes_u64_inj hk).symm, (leBytes_i64_inj ht).symm⟩

/-- Calls with the same parts are of one kind and hash the same fields. -/
theorem sameFields_of_parts? {x y : HashInput} {ps : List Bytes} (hx : x.parts? = some ps)
    (hy : y.parts? = some ps) : x.SameFields y := by
  have hw := (map_length_parts hx).symm.trans (map_length_parts hy)
  cases x <;> cases y
  case popEntry.popEntry => exact sameFields_of_popEntryParts hx hy
  case leaf.leaf c c' =>
    simp only [parts?, Option.some.injEq] at hx hy
    simpa using Bytes32.toList_inj (List.cons.inj (List.cons.inj (hx.trans hy.symm)).2).1
  case node.node l r l' r' =>
    simp only [parts?, Option.some.injEq] at hx hy
    obtain ⟨hl, hr⟩ := List.cons.inj (hx.trans hy.symm)
    exact ⟨Bytes32.toList_inj hl, Bytes32.toList_inj (List.cons.inj hr).1⟩
  -- calls of different kinds have parts of different widths
  all_goals simp only [widths] at hw; (try split_ifs at hw) <;> simp at hw

/-- **Equal bytes come from calls of one kind with the same hashed fields**: the kinds have
different lengths, and within a kind the parts have fixed widths. -/
theorem sameFields_of_preimage?_eq {x y : HashInput} {b : Bytes} (hx : x.preimage? = some b)
    (hy : y.preimage? = some b) : x.SameFields y := by
  obtain ⟨ps, hps, rfl⟩ := Option.map_eq_some'.1 hx
  obtain ⟨qs, hqs, hpq⟩ := Option.map_eq_some'.1 hy
  have hw : qs.map List.length = ps.map List.length := by
    rw [map_length_parts hps, map_length_parts hqs]
    refine widths_eq_of_sum_eq ?_
    rw [← length_preimage? hx, ← length_preimage? hy]
  obtain rfl : qs = ps := List.eq_iff_flatten_eq.2 ⟨hpq, hw⟩
  exact sameFields_of_parts? hps hqs

/-- Calls of one kind with the same hashed fields have the same parts. -/
theorem parts?_eq_of_sameFields {x y : HashInput} (h : x.SameFields y) : y.parts? = x.parts? := by
  cases x <;> cases y <;> simp only [SameFields] at h
  case popEntry.popEntry v p s a g c k t v' p' s' a' g' c' k' t' =>
    obtain ⟨rfl, rfl, rfl, ha, rfl, rfl, rfl, rfl⟩ := h
    -- the audit hash is hashed in version 2 only
    by_cases hv : v = popMessageVersionV2
    · rw [ha hv]
    · simp [parts?, popEntryParts, hv]
  case leaf.leaf => rw [h]
  case node.node => rw [h.1, h.2]

/-- Two version 1 entries that differ only in the audit hash hash the same bytes. -/
example :
    (popEntry 1 Bytes32.zero Bytes32.zero Bytes32.zero Bytes32.zero Bytes32.zero 0
        I64.zero).preimage? =
      (popEntry 1 Bytes32.zero Bytes32.zero ⟨List.replicate 32 1, rfl⟩ Bytes32.zero Bytes32.zero 0
        I64.zero).preimage? := by
  decide

/-- **The preimages are injective per kind and disjoint across kinds.**  Whatever the fields,
the bytes a call of `hashv` hashes are the bytes of another call exactly when the two calls are
of one kind (a version 1 entry, a version 2 entry, an allowlist leaf or a tree node) and hash the
same fields: for an entry, the same version, previous hashes, grant, claimer, period index and
clock value, and in version 2 the same audit hash; for a leaf, the same key; for a node, the same
two operands in the same order. -/
theorem preimage?_eq_iff (x y : HashInput) (b : Bytes) (hx : x.preimage? = some b) :
    y.preimage? = some b ↔ x.SameFields y :=
  ⟨sameFields_of_preimage?_eq hx, fun h => by rw [preimage?, parts?_eq_of_sameFields h]; exact hx⟩

/-- A leaf and a node never hash the same bytes. -/
theorem preimage?_eq_iff_leaf_node :
    (leaf Bytes32.zero).preimage? = some (allowlistTag ++ Bytes32.zero.toList) ∧
      ((node Bytes32.zero Bytes32.zero).preimage? = some (allowlistTag ++ Bytes32.zero.toList) ↔
        (leaf Bytes32.zero).SameFields (node Bytes32.zero Bytes32.zero)) :=
  ⟨rfl, preimage?_eq_iff _ _ _ rfl⟩

/-- **Domain separation of the digests.**  Two calls with one digest are of one kind with the
same hashed fields, or their two preimages are different strings with one digest. -/
theorem sameFields_or_collision {sha256 : Bytes → Hash} {x y : HashInput} {h : Hash}
    (hx : x.digest? sha256 = some h) (hy : y.digest? sha256 = some h) :
    x.SameFields y ∨ ∃ b₁ b₂, x.preimage? = some b₁ ∧ y.preimage? = some b₂ ∧
      Collision sha256 [b₁, b₂] := by
  obtain ⟨b₁, hb₁, rfl⟩ := digest?_eq_some.1 hx
  obtain ⟨b₂, hb₂, he⟩ := digest?_eq_some.1 hy
  by_cases hb : b₁ = b₂
  · subst hb
    exact .inl (sameFields_of_preimage?_eq hb₁ hb₂)
  · exact .inr ⟨b₁, b₂, hb₁, hb₂, b₁, by simp, b₂, by simp, hb, he.symm⟩

/-- Under a digest that maps every string to zero, a leaf and a node have one digest; they are of
two kinds, so their preimages are a collision. -/
theorem sameFields_or_collision_zeroDigest :
    (leaf Bytes32.zero).digest? (fun _ => Bytes32.zero) = some Bytes32.zero ∧
    (node Bytes32.zero Bytes32.zero).digest? (fun _ => Bytes32.zero) = some Bytes32.zero ∧
    ((leaf Bytes32.zero).SameFields (node Bytes32.zero Bytes32.zero) ∨
      ∃ b₁ b₂, (leaf Bytes32.zero).preimage? = some b₁ ∧
        (node Bytes32.zero Bytes32.zero).preimage? = some b₂ ∧
        Collision (fun _ => Bytes32.zero) [b₁, b₂]) :=
  ⟨rfl, rfl, sameFields_or_collision rfl rfl⟩

end HashInput

end GrantProgram
