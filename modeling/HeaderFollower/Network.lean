/-
# The three networks

What is fixed for each network: its names, its genesis block, the height from which headers are
kept, the ports its servers listen on, and a transaction that every full server can show.
-/

import HeaderFollower.Header.Basic
import HeaderFollower.Text.Lowercase

namespace HeaderFollower

inductive Network where
  | mainnet
  | testnet
  | regtest
  deriving DecidableEq, Repr, Inhabited

/-- Blocks between two adjustments of the difficulty; servers send at most so many headers at
once. -/
def retargetSpan : Nat := 2016

namespace Network

/-- The name shown to people. -/
def title : Network → String
  | .mainnet => "Mainnet"
  | .testnet => "Testnet"
  | .regtest => "Regtest"

/-- The name in configuration files and directories. -/
def key : Network → String
  | .mainnet => "mainnet"
  | .testnet => "testnet"
  | .regtest => "regtest"

/-- The network with exactly this key. -/
def ofKey? (s : String) : Option Network :=
  if s = "mainnet" then some .mainnet
  else if s = "testnet" then some .testnet
  else if s = "regtest" then some .regtest
  else none

/-- What is said of a name in lower case that is no network's. -/
def unknownMessage (lowered : String) : String := "unknown network: " ++ lowered

/-- The network of a name in any case, or the name in lower case. -/
def ofName (s : String) : Except String Network :=
  let name := Text.lowercase s
  if name = "mainnet" ∨ name = "main" ∨ name = "bitcoin" then .ok .mainnet
  else if name = "testnet" ∨ name = "test" ∨ name = "testnet3" then .ok .testnet
  else if name = "regtest" then .ok .regtest
  else .error name

/-- Hash of the genesis block as people write it. -/
def genesisHash : Network → String
  | .mainnet => "000000000019d6689c085ae165831e934ff763ae46a2a6c172b3f1b60a8ce26f"
  | .testnet => "000000000933ea01ad0ee984209779baaec3ced90fa3f408719526f8d77f4943"
  | .regtest => "0f9188f13cb7b2c71f2a335e3a4fc328bf5beb436012afca590b1a11466e2206"

/-- Time, bits and nonce of the genesis block. -/
def genesisStamp : Network → UInt32 × UInt32 × UInt32
  | .mainnet => (0x495fab29, 0x1d00ffff, 0x7c2bac1d)
  | .testnet => (0x4d49e5da, 0x1d00ffff, 0x18aea41a)
  | .regtest => (0x4d49e5da, 0x207fffff, 2)

/-- The Merkle root that the three genesis blocks share. -/
def genesisMerkle : Hash256 :=
  ⟨[0x3b, 0xa3, 0xed, 0xfd, 0x7a, 0x7b, 0x12, 0xb2, 0x7a, 0xc7, 0x2c, 0x3e, 0x67, 0x76, 0x8f, 0x61,
    0x7f, 0xc8, 0x1b, 0xc3, 0x88, 0x8a, 0x51, 0x32, 0x3a, 0x9f, 0xb8, 0xaa, 0x4b, 0x1e, 0x5e, 0x4a],
    rfl⟩

/-- The genesis header. -/
def genesis (n : Network) : BlockHeader :=
  let (time, bits, nonce) := n.genesisStamp
  .ofFields 1 .zero genesisMerkle time bits nonce

/-- The height below which headers are trusted and not kept. -/
def startPoint : Network → Nat
  | .mainnet => 397 * retargetSpan
  | .testnet => 1240 * retargetSpan
  | .regtest => 0

/-- Size of a header record. -/
def headerSize (_ : Network) : Nat := baseHeaderSize

/-- Headers asked for at once. -/
def chunkSize (_ : Network) : Nat := retargetSpan

/-- The port for plain connections. -/
def tcpPort : Network → Nat
  | .mainnet => 50001
  | .testnet => 60001
  | .regtest => 50001

/-- The port for connections over TLS. -/
def tlsPort : Network → Nat
  | .mainnet => 50002
  | .testnet => 60002
  | .regtest => 50002

/-- A transaction that every server with a transaction index can show. -/
def canary? : Network → Option String
  | .mainnet => some "f4184fc596403b9d638783cf57adfe4c75c605f6356fbc91338530e9831e9e16"
  | .testnet => none
  | .regtest => none

end Network
end HeaderFollower
