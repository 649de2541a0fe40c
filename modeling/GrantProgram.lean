import GrantProgram.Basic
import GrantProgram.Codec
import GrantProgram.Ed25519
import GrantProgram.ProofOfProcess
import GrantProgram.Merkle
import GrantProgram.HashDomains
import GrantProgram.Grant
import GrantProgram.Accounts
import GrantProgram.Instructions
import GrantProgram.Runs
import GrantProgram.Allowlist
import GrantProgram.Chain
import GrantProgram.Receipts
import GrantProgram.Tokens
import GrantProgram.Invariants
import GrantProgram.Parallel
