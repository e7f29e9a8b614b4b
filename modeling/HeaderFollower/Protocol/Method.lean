/-
# Method names

The names under which requests and pushes travel.
-/

namespace HeaderFollower
namespace Method

def ping : String := "server.ping"
def version : String := "server.version"
def features : String := "server.features"
def peers : String := "server.peers.subscribe"
def blockHeader : String := "blockchain.block.header"
def blockHeaders : String := "blockchain.block.headers"
def headersSubscribe : String := "blockchain.headers.subscribe"
def scripthashSubscribe : String := "blockchain.scripthash.subscribe"
def scripthashUnsubscribe : String := "blockchain.scripthash.unsubscribe"
def scripthashHistory : String := "blockchain.scripthash.get_history"
def scripthashUnspent : String := "blockchain.scripthash.listunspent"
def transaction : String := "blockchain.transaction.get"
def broadcast : String := "blockchain.transaction.broadcast"
def estimateFee : String := "blockchain.estimatefee"

/-- The methods that are requested. -/
def all : List String :=
  [ping, version, features, peers, blockHeader, blockHeaders, headersSubscribe, scripthashSubscribe,
    scripthashUnsubscribe, scripthashHistory, scripthashUnspent, transaction, broadcast, estimateFee]

end Method
end HeaderFollower
