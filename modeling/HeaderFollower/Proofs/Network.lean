/-
# The hashes that are written down for the networks

Hashes are written down in lower case. `display_genesis` says that the genesis header of each network
has the hash that is written down for it, so different networks have different genesis hashes.
-/

import HeaderFollower.Network
import HeaderFollower.Proofs.Bytes.Sha256

namespace HeaderFollower

theorem toLower_canary {network : Network} {txid : String} (h : network.canary? = some txid) :
    txid.toList.map Char.toLower = txid.toList := by
  cases network with
  | mainnet =>
    cases h
    decide
  | testnet => cases h
  | regtest => cases h

/-- The genesis header of each network has the hash that is written down for it. -/
theorem display_genesis (network : Network) :
    network.genesis.hash.display = network.genesisHash := by
  rw [Hash256.display, BlockHeader.hash, Hash256.bytes_ofMessage]
  cases network with
  | mainnet => decide +kernel
  | testnet => decide +kernel
  | regtest => decide +kernel

/-- Different networks have different genesis hashes. -/
theorem hash_genesis_injective {network other : Network}
    (h : network.genesis.hash = other.genesis.hash) : network = other := by
  have htext : network.genesisHash = other.genesisHash := by
    rw [← display_genesis, ← display_genesis, h]
  revert htext
  cases network <;> cases other <;> decide

end HeaderFollower
