import StateRelay.Json.Decoder
import StateRelay.Json.Printer

/-!
The network an engine follows, chosen once when the program starts.
-/

namespace StateRelay

open Json (encodeRecord encodeString encodeBool)
open Json.Decoder (Record need enumeration)

inductive Network where
  | mainnet
  | testnet
  deriving DecidableEq, Repr, Inhabited

namespace Network

/-- The name within data. -/
def name : Network → String
  | .mainnet => "Mainnet"
  | .testnet => "Testnet"

/-- The name within messages. -/
def label : Network → String
  | .mainnet => "mainnet"
  | .testnet => "testnet"

def encode (n : Network) : Bytes :=
  encodeString n.name

def decoder : Json.Decoder Network :=
  enumeration ([.mainnet, .testnet].map fun n => (n.name, n))

/-- What an engine decodes entries with. -/
structure Params where
  network : Network
  /-- A local network for tests. -/
  regtest : Bool
  /-- A local network with short block times. -/
  acceleratedRegtest : Bool
  deriving DecidableEq, Repr, Inhabited

namespace Params

def mainnet : Params :=
  ⟨.mainnet, false, false⟩

def testnet : Params :=
  ⟨.testnet, false, false⟩

/-- Mainnet unless `isTestnet`; only a testnet may be a local one, and only a local one
accelerated. -/
def select (isTestnet regtest accelerated : Bool) : Params :=
  if isTestnet then ⟨.testnet, regtest, regtest && accelerated⟩ else mainnet

def isMainnet (p : Params) : Bool :=
  p.network = .mainnet

def encode (p : Params) : Bytes :=
  encodeRecord
    [("network", p.network.encode),
      ("regtest", encodeBool p.regtest),
      ("accelerated_regtest", encodeBool p.acceleratedRegtest)]

structure Draft where
  network : Option Network := none
  regtest : Option Bool := none
  acceleratedRegtest : Option Bool := none

def record : Record Draft Params where
  name := "NetworkParams"
  fields :=
    [.mandatory "network" (·.network) (fun d x => { d with network := some x }) Network.decoder,
      .mandatory "regtest" (·.regtest) (fun d x => { d with regtest := some x })
        Json.Decoder.bool,
      .mandatory "accelerated_regtest" (·.acceleratedRegtest)
        (fun d x => { d with acceleratedRegtest := some x }) Json.Decoder.bool]
  empty := {}
  build d := do
    let network ← need "network" d.network
    let regtest ← need "regtest" d.regtest
    let acceleratedRegtest ← need "accelerated_regtest" d.acceleratedRegtest
    .ok { network, regtest, acceleratedRegtest }

def decoder : Json.Decoder Params :=
  record.decoder

end Params

end Network

end StateRelay
