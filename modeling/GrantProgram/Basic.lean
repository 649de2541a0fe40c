import Mathlib.Data.List.Basic
import Mathlib.Order.Basic
import Mathlib.Algebra.Group.Nat.Basic

/-
**Machine values of the grant program: bytes, 32-byte arrays, `i64` and the error codes.**

The program is an Anchor program over Solana accounts (`programs/grant_program/src/lib.rs`).  Its
values are byte strings, 32-byte arrays (`Pubkey` and `[u8; 32]`), `u64` and `i64` integers, and the
errors it can return.  This module fixes their Lean counterparts once, together with the small
encodings the program relies on: little-endian integers (`to_le_bytes` / `from_le_bytes`), the
lexicographic order of byte arrays used by the Merkle verifier, and the domain tags it hashes.

`u64` is Lean's `UInt64`.  Lean 4.14 has no signed fixed-width integers, so `i64` is `I64`, an
integer carrying its range, and every `i64` operation the program performs (`checked_sub`, `/`,
`as u64`) is given here with Rust's overflow behaviour.  SHA-256 is not modelled: the program only
ever calls it through `hashv`, which is `hashv sha256 parts = sha256 (concatenation of parts)` for a
digest function taken as a parameter, so that every result holds for any digest.

Main definitions:

* `GrantProgram.Bytes32` — a `[u8; 32]` (also a `Pubkey`), a list of bytes of length 32;
* `GrantProgram.lexLe` — Rust's `<=` on byte arrays;
* `GrantProgram.leValue`, `GrantProgram.leBytes` — little-endian decoding and encoding;
* `GrantProgram.I64` and its operations `I64.checkedSub`, `I64.div`, `I64.toU64`;
* `GrantProgram.ErrorCode`, `GrantProgram.ProgramError` — the program's error codes, and every way
  an instruction can fail.

Main results:

* `GrantProgram.lexLe_total`, `GrantProgram.lexLe_antisymm` — the byte order is total and
  antisymmetric;
* `GrantProgram.leValue_leBytes`, `GrantProgram.leBytes_leValue` — the two little-endian maps are
  inverse to each other at a fixed width.
-/

set_option autoImplicit false

namespace GrantProgram

/-! ### Bytes -/

/-- A byte string (`&[u8]`, `Vec<u8>`). -/
abbrev Bytes := List UInt8

theorem UInt8.toNat_ofNat (n : ℕ) : (UInt8.ofNat n).toNat = n % 256 := by
  simp [UInt8.ofNat, UInt8.toNat, BitVec.toNat_ofNat]

theorem UInt8.lt_iff_toNat_lt {a b : UInt8} : a < b ↔ a.toNat < b.toNat := by
  rw [UInt8.lt_def]; rfl

@[simp] theorem UInt8.ofNat_toNat (a : UInt8) : UInt8.ofNat a.toNat = a :=
  UInt8.toNat.inj (by rw [UInt8.toNat_ofNat]; exact Nat.mod_eq_of_lt a.toNat_lt_size)

/-- The bytes of an ASCII string literal (`b"..."`). -/
def ascii (s : String) : Bytes := s.toList.map fun c => UInt8.ofNat c.toNat

/-- A `[u8; 32]`: a byte string of length 32.  Public keys and hashes are both of this type. -/
structure Bytes32 where
  /-- The 32 bytes, in order. -/
  toList : Bytes
  /-- There are exactly 32 of them. -/
  length_toList : toList.length = 32
deriving DecidableEq

/-- A Solana public key (an account address). -/
abbrev Pubkey := Bytes32

/-- A SHA-256 digest, and every other `[u8; 32]` the program hashes. -/
abbrev Hash := Bytes32

namespace Bytes32

attribute [simp] length_toList

/-- `[0u8; 32]`. -/
def zero : Bytes32 := ⟨List.replicate 32 0, List.length_replicate 32 0⟩

/-- `<[u8; 32]>::try_from(slice)`: succeeds exactly on slices of length 32. -/
def ofList? (l : Bytes) : Option Bytes32 :=
  if h : l.length = 32 then some ⟨l, h⟩ else none

theorem ofList?_of_length {l : Bytes} (h : l.length = 32) : ofList? l = some ⟨l, h⟩ := by
  simp [ofList?, h]

@[simp] theorem ofList?_toList (a : Bytes32) : ofList? a.toList = some a :=
  ofList?_of_length a.length_toList

theorem toList_inj {a b : Bytes32} (h : a.toList = b.toList) : a = b := by
  cases a; cases b; cases h; rfl

end Bytes32

/-! ### The order of byte arrays -/

/-- Rust's `<=` on byte arrays: lexicographic, bytes compared as numbers. -/
def lexLe : Bytes → Bytes → Bool
  | [], _ => true
  | _ :: _, [] => false
  | a :: as, b :: bs => decide (a < b) || (decide (a = b) && lexLe as bs)

theorem lexLe_total : ∀ a b : Bytes, lexLe a b = true ∨ lexLe b a = true
  | [], _ => .inl rfl
  | _ :: _, [] => .inr rfl
  | a :: as, b :: bs => by
      have := lexLe_total as bs
      simp only [lexLe, Bool.or_eq_true, decide_eq_true_eq, Bool.and_eq_true,
        UInt8.lt_iff_toNat_lt]
      rcases Nat.lt_trichotomy a.toNat b.toNat with h | h | h
      · exact .inl (.inl h)
      · have hab := UInt8.toNat.inj h
        subst hab
        tauto
      · exact .inr (.inl h)

theorem lexLe_antisymm : ∀ {a b : Bytes}, lexLe a b = true → lexLe b a = true → a = b
  | [], [], _, _ => rfl
  | _ :: _, [], h, _ => by simp [lexLe] at h
  | [], _ :: _, _, h => by simp [lexLe] at h
  | a :: as, b :: bs, h₁, h₂ => by
      simp only [lexLe, Bool.or_eq_true, decide_eq_true_eq, Bool.and_eq_true,
        UInt8.lt_iff_toNat_lt] at h₁ h₂
      rcases h₁ with h₁ | ⟨rfl, h₁⟩
      · rcases h₂ with h₂ | ⟨rfl, _⟩ <;> omega
      · rcases h₂ with h₂ | ⟨-, h₂⟩
        · omega
        · rw [lexLe_antisymm h₁ h₂]

/-! ### Little-endian integers -/

/-- The number a little-endian byte string encodes (`from_le_bytes`). -/
def leValue : Bytes → ℕ
  | [] => 0
  | b :: bs => b.toNat + 256 * leValue bs

/-- The `w` low bytes of `n`, least significant first (`to_le_bytes`). -/
def leBytes (n : ℕ) : ℕ → Bytes
  | 0 => []
  | w + 1 => UInt8.ofNat (n % 256) :: leBytes (n / 256) w

@[simp] theorem leBytes_length (n w : ℕ) : (leBytes n w).length = w := by
  induction w generalizing n with
  | zero => rfl
  | succ w ih => simp [leBytes, ih]

theorem leValue_lt : ∀ bs : Bytes, leValue bs < 256 ^ bs.length
  | [] => Nat.one_pos
  | b :: bs => by
      have h₁ := leValue_lt bs
      have h₂ := b.toNat_lt_size
      simp only [leValue, List.length_cons, Nat.pow_succ]
      change b.toNat < 256 at h₂
      omega

theorem leValue_leBytes (n w : ℕ) : leValue (leBytes n w) = n % 256 ^ w := by
  induction w generalizing n with
  | zero => simp [leBytes, leValue, Nat.mod_one]
  | succ w ih =>
      simp only [leBytes, leValue, ih, UInt8.toNat_ofNat, Nat.mod_mod, Nat.pow_succ',
        Nat.mod_mul]

theorem leBytes_leValue : ∀ bs : Bytes, leBytes (leValue bs) bs.length = bs
  | [] => rfl
  | b :: bs => by
      have h := b.toNat_lt_size
      change b.toNat < 256 at h
      have h₁ : (b.toNat + 256 * leValue bs) % 256 = b.toNat := by omega
      have h₂ : (b.toNat + 256 * leValue bs) / 256 = leValue bs := by omega
      simp only [leValue, List.length_cons, leBytes, h₁, h₂, UInt8.ofNat_toNat,
        leBytes_leValue bs]

/-! ### `i64` -/

/-- `i64::MIN`. -/
def i64Min : ℤ := -9223372036854775808

/-- `i64::MAX`. -/
def i64Max : ℤ := 9223372036854775807

/-- A Rust `i64`: an integer in `[i64::MIN, i64::MAX]`. -/
structure I64 where
  /-- The value. -/
  toInt : ℤ
  /-- `i64::MIN ≤ self`. -/
  min_le : i64Min ≤ toInt
  /-- `self ≤ i64::MAX`. -/
  le_max : toInt ≤ i64Max
deriving DecidableEq

namespace I64

/-- `0i64`. -/
def zero : I64 := ⟨0, by unfold i64Min; omega, by unfold i64Max; omega⟩

/-- The `i64` holding `x`, when `x` is in range. -/
def ofInt? (x : ℤ) : Option I64 :=
  if h : i64Min ≤ x ∧ x ≤ i64Max then some ⟨x, h.1, h.2⟩ else none

theorem ofInt?_eq_some {x : ℤ} {a : I64} : ofInt? x = some a ↔ a.toInt = x := by
  unfold ofInt?
  split
  · rename_i h
    constructor
    · rintro ⟨⟩; rfl
    · intro h'; cases a; cases h'; rfl
  · rename_i h
    simp only [reduceCtorEq, false_iff]
    rintro rfl
    exact h ⟨a.min_le, a.le_max⟩

theorem ofInt?_eq_none {x : ℤ} : ofInt? x = none ↔ ¬(i64Min ≤ x ∧ x ≤ i64Max) := by
  unfold ofInt?; split <;> simp_all

/-- `a.checked_sub(b)`. -/
def checkedSub (a b : I64) : Option I64 := ofInt? (a.toInt - b.toInt)

/-- `a + b` with Rust's overflow check (`None` is the panic). -/
def checkedAdd (a b : I64) : Option I64 := ofInt? (a.toInt + b.toInt)

/-- The `i64` with bits `v`: two's complement of `v mod 2^64` (`i64::from_le_bytes`). -/
def ofBits (v : ℕ) : I64 where
  toInt := if v % 18446744073709551616 < 9223372036854775808 then v % 18446744073709551616
    else (v % 18446744073709551616 : ℕ) - 18446744073709551616
  min_le := by unfold i64Min; split <;> omega
  le_max := by unfold i64Max; split <;> omega

/-- The bits of an `i64`: its value modulo `2^64` (`to_le_bytes`, `as u64`). -/
def bits (a : I64) : ℕ := (a.toInt % 18446744073709551616).toNat

theorem bits_lt (a : I64) : a.bits < 18446744073709551616 := by
  unfold bits; omega

@[simp] theorem ofBits_bits (a : I64) : ofBits a.bits = a := by
  rcases a with ⟨x, h₁, h₂⟩
  unfold i64Min at h₁; unfold i64Max at h₂
  simp only [ofBits, bits, mk.injEq]
  split <;> omega

/-- `a / b`: Rust's division, truncating toward zero, which panics on a zero divisor and on
`i64::MIN / -1` (`None` is the panic). -/
def div? (a b : I64) : Option I64 := if b.toInt = 0 then none else ofInt? (a.toInt.tdiv b.toInt)

/-- `a as u64`: the two's complement reinterpretation. -/
def toU64 (a : I64) : UInt64 := UInt64.ofNat a.bits

end I64

/-! ### Errors -/

/-- The program's `ErrorCode` enum. -/
inductive ErrorCode
  | unauthorized
  | insufficientFunds
  | invalidAmount
  | invalidPeriod
  | invalidStartTs
  | invalidPeriodIndex
  | mintMismatch
  | paused
  | grantExpired
  | grantNotStarted
  | mathOverflow
  | allowlistRequired
  | allowlistNotEnabled
  | notInAllowlist
  | invalidPopConfigAuthority
  | missingPopSignatureInstruction
  | invalidPopSignatureProgram
  | invalidPopSignatureData
  | invalidPopSigner
  | invalidPopMessageVersion
  | invalidPopMessageLength
  | popProofGrantMismatch
  | popProofClaimerMismatch
  | popProofPeriodMismatch
  | popProofExpired
  | popEntryHashMismatch
  | popHashChainBroken
  | popStreamChainBroken
  | popGenesisMismatch
  | popStateGrantMismatch
  | popAuditHashMissing
deriving DecidableEq, Repr

/-- The account checks Anchor derives from the `#[account(...)]` attributes. -/
inductive AnchorError
  /-- An `Account<T>` that does not exist. -/
  | accountNotInitialized
  /-- An `init` account whose address is already in use: the System Program's `allocate` (or
  `create_account`) refuses an address that holds data or that another program owns. -/
  | accountAlreadyInUse
  /-- A `SystemAccount` that the System Program does not own. -/
  | accountNotSystemOwned
  /-- An `init` account whose payer is the account itself. -/
  | tryingToInitPayerAsProgramAccount
  /-- An existing `init_if_needed` account that holds less than the rent-exempt minimum. -/
  | constraintRentExempt
  /-- An account that is not at the address its `seeds` derive. -/
  | constraintSeeds
  /-- A `has_one` field that does not match. -/
  | constraintHasOne
  /-- A `token::mint` constraint on an existing token account that does not match. -/
  | constraintTokenMint
  /-- A `token::authority` constraint on an existing token account that does not match. -/
  | constraintTokenOwner
deriving DecidableEq, Repr

/-- The failures of the token program's `transfer_checked`. -/
inductive TokenError
  | insufficientFunds
  | mintMismatch
  | ownerMismatch
  | overflow
deriving DecidableEq, Repr

/-- The failures of the System Program's `transfer`, which pays the rent of a new account. -/
inductive SystemError
  /-- A payer that holds fewer lamports than the transfer (`ResultWithNegativeLamports`). -/
  | resultWithNegativeLamports
  /-- A payer that carries data or that another program owns, so the System Program cannot
  debit it (`InvalidArgument`, or the runtime's `ExternalAccountLamportSpend`). -/
  | invalidArgument
deriving DecidableEq, Repr

/-- Every way an instruction of the program can fail. -/
inductive ProgramError
  /-- An `ErrorCode` from `require!`, `err!` or a `constraint = ... @ ErrorCode::...`. -/
  | custom (e : ErrorCode)
  /-- An account check of the framework. -/
  | anchor (e : AnchorError)
  /-- A failed token transfer. -/
  | token (e : TokenError)
  /-- A failed lamport transfer. -/
  | system (e : SystemError)
  /-- An arithmetic panic: division by zero or overflow. -/
  | panic
deriving DecidableEq, Repr

/-! ### Results -/

@[simp] theorem ok_bind {ε α β : Type} (a : α) (f : α → Except ε β) :
    (Except.ok a >>= f) = f a := rfl

@[simp] theorem error_bind {ε α β : Type} (e : ε) (f : α → Except ε β) :
    (Except.error e >>= f) = Except.error e := rfl

@[simp] theorem pure_eq_ok {ε α : Type} (a : α) : (pure a : Except ε α) = Except.ok a := rfl

@[simp] theorem throw_eq_error {ε α : Type} (e : ε) : (throw e : Except ε α) = Except.error e := rfl

theorem bind_eq_ok {ε α β : Type} {x : Except ε α} {f : α → Except ε β} {b : β} :
    x >>= f = .ok b ↔ ∃ a, x = .ok a ∧ f a = .ok b := by
  cases x <;> simp

@[simp] theorem map_ok {ε α β : Type} (f : α → β) (a : α) :
    f <$> (Except.ok a : Except ε α) = .ok (f a) := rfl

@[simp] theorem map_error {ε α β : Type} (f : α → β) (e : ε) :
    f <$> (Except.error e : Except ε α) = .error e := rfl

/-- `opt.ok_or(ErrorCode::e)?`. -/
def okOr {α : Type} (o : Option α) (e : ErrorCode) : Except ProgramError α :=
  match o with
  | some a => .ok a
  | none => .error (.custom e)

@[simp] theorem okOr_some {α : Type} (a : α) (e : ErrorCode) : okOr (some a) e = .ok a := rfl

@[simp] theorem okOr_none {α : Type} (e : ErrorCode) : okOr (none : Option α) e = .error (.custom e) :=
  rfl

/-- The result of an operation that panics on `None`: an overflow-checked arithmetic operator,
or an index out of bounds. -/
def orPanic {α : Type} (o : Option α) : Except ProgramError α :=
  match o with
  | some a => .ok a
  | none => .error .panic

@[simp] theorem orPanic_some {α : Type} (a : α) : orPanic (some a) = .ok a := rfl

@[simp] theorem orPanic_none {α : Type} : orPanic (none : Option α) = .error .panic := rfl

/-- `data[i]`, which panics out of bounds. -/
def index (data : Bytes) (i : ℕ) : Except ProgramError UInt8 := orPanic data[i]?

/-- The bytes of `data` from `start` up to `stop`. -/
def slice (data : Bytes) (start stop : ℕ) : Bytes := (data.drop start).take (stop - start)

/-- `data[start..stop]`, which panics unless `start ≤ stop ≤ data.len()`. -/
def sliceRange (data : Bytes) (start stop : ℕ) : Except ProgramError Bytes :=
  if start ≤ stop ∧ stop ≤ data.length then .ok (slice data start stop) else .error .panic

/-- `usize::checked_add` on a 64-bit target. -/
def checkedAddUsize (a b : ℕ) : Option ℕ :=
  if a + b < 18446744073709551616 then some (a + b) else none

theorem checkedAddUsize_of_lt {a b : ℕ} (h : a + b < 18446744073709551616) :
    checkedAddUsize a b = some (a + b) :=
  if_pos h

@[simp] theorem slice_length {data : Bytes} {start stop : ℕ} (h : stop ≤ data.length) :
    (slice data start stop).length = stop - start := by
  simp only [slice, List.length_take, List.length_drop]
  omega

theorem index_of_lt {data : Bytes} {i : ℕ} (h : i < data.length) :
    index data i = .ok (data.getD i 0) := by
  simp [index, List.getElem?_eq_getElem h]

theorem sliceRange_of_le {data : Bytes} {start stop : ℕ} (h₁ : start ≤ stop)
    (h₂ : stop ≤ data.length) : sliceRange data start stop = .ok (slice data start stop) :=
  if_pos ⟨h₁, h₂⟩

/-- `require!(c, e)`. -/
def require (c : Prop) [Decidable c] (e : ErrorCode) : Except ProgramError Unit :=
  if c then pure () else throw (.custom e)

theorem require_of_true {c : Prop} [Decidable c] (e : ErrorCode) (h : c) : require c e = .ok () :=
  if_pos h

theorem require_of_false {c : Prop} [Decidable c] (e : ErrorCode) (h : ¬c) :
    require c e = .error (.custom e) :=
  if_neg h

theorem require_bind {β : Type} {c : Prop} [Decidable c] {e : ErrorCode}
    {f : Unit → Except ProgramError β} :
    require c e >>= f = if c then f () else .error (.custom e) := by
  unfold require; split <;> rfl

theorem require_bind_eq_ok {β : Type} {c : Prop} [Decidable c] {e : ErrorCode}
    {f : Unit → Except ProgramError β} {b : β} :
    require c e >>= f = .ok b ↔ c ∧ f () = .ok b := by
  rw [require_bind]; split <;> simp_all

theorem okOr_bind_eq_ok {α β : Type} {o : Option α} {e : ErrorCode}
    {f : α → Except ProgramError β} {b : β} :
    okOr o e >>= f = .ok b ↔ ∃ a, o = some a ∧ f a = .ok b := by
  cases o <;> simp

@[simp] theorem require_true [Decidable True] (e : ErrorCode) : require True e = .ok () :=
  require_of_true e trivial

@[simp] theorem require_eq_ok {c : Prop} [Decidable c] {e : ErrorCode} {u : Unit} :
    require c e = .ok u ↔ c := by
  by_cases h : c
  · rw [require_of_true e h]; exact iff_of_true rfl h
  · rw [require_of_false e h]; exact iff_of_false (by simp) h

/-- `require!(c, e)` inside a function that mutates one account, modelled in `EStateM`. -/
def requireM {σ : Type} (c : Prop) [Decidable c] (e : ErrorCode) : EStateM ProgramError σ Unit :=
  if c then pure () else throw (.custom e)

/-- `x?` on a `Result` inside a function that mutates one account. -/
def liftM {σ α : Type} : Except ProgramError α → EStateM ProgramError σ α
  | .ok a => pure a
  | .error e => throw e

section EStateM

variable {σ α β : Type}

@[simp] theorem requireM_bind_run (c : Prop) [Decidable c] (e : ErrorCode)
    (f : Unit → EStateM ProgramError σ β) (s : σ) :
    (requireM c e >>= f).run s = if c then (f ()).run s else .error (.custom e) s := by
  unfold requireM; split <;> rfl

@[simp] theorem get_bind_run (f : σ → EStateM ProgramError σ β) (s : σ) :
    (get >>= f).run s = (f s).run s := rfl

@[simp] theorem modify_run (g : σ → σ) (s : σ) :
    (modify g : EStateM ProgramError σ Unit).run s = .ok () (g s) := rfl

@[simp] theorem modify_bind_run (g : σ → σ) (f : Unit → EStateM ProgramError σ β) (s : σ) :
    (modify g >>= f).run s = (f ()).run (g s) := rfl

theorem ite_bind_run (c : Prop) [Decidable c] (x y : EStateM ProgramError σ α)
    (f : α → EStateM ProgramError σ β) (s : σ) :
    ((if c then x else y) >>= f).run s = if c then (x >>= f).run s else (y >>= f).run s := by
  split <;> rfl

theorem ite_run (c : Prop) [Decidable c] (x y : EStateM ProgramError σ α) (s : σ) :
    (if c then x else y).run s = if c then x.run s else y.run s := by
  split <;> rfl

end EStateM

end GrantProgram
