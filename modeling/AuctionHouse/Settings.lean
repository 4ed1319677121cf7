import AuctionHouse.Auction.Basic
import AuctionHouse.Text.Numeral

/-!
# Settings

What coordinators and replicas are told at the start.  Times are in milliseconds.

The two time-outs and the retry delay are read from the environment like the rest, but nothing here
waits by them.  Time does not pass during a call or while a state is handed over: an answer comes or
it does not, and a node that gets no state while joining goes on asking as soon as it can.
-/

namespace AuctionHouse

/-- The settings of one process. -/
structure Settings where
  /-- How long a request waits for replies. -/
  rpcTimeout : Nat
  /-- How long handing over a state may take. -/
  stateTimeout : Nat
  /-- The pause between attempts to get a state while joining. -/
  joinRetryDelay : Nat
  /-- The number of the first auction. -/
  firstId : AuctionId
  /-- After passing this many taken numbers the search for a free one is given up. -/
  probeLimit : UInt32
  /-- Sessions that were idle longer than this are dropped. -/
  maxIdle : Nat
  /-- The file that seeds the first replica. -/
  seedFile : Option String
  /-- The directory of the bidders' accounts. -/
  accountsDirectory : Option String
deriving DecidableEq

namespace Settings

/-- The settings where nothing else is said. -/
def standard : Settings :=
  { rpcTimeout := 5000, stateTimeout := 5000, joinRetryDelay := 100, firstId := 1000
    probeLimit := 5000, maxIdle := 30 * 60 * 1000, seedFile := none, accountsDirectory := none }

/-- The time that a variable gives, if it gives one. -/
def readTime? (text : Option String) : Option Nat :=
  text.bind fun digits => Text.readNatural? (UInt64.size - 1) digits.toList

/-- The standard settings except for what the environment says. -/
def ofEnvironment (lookup? : String → Option String) : Settings :=
  { standard with
    rpcTimeout := (readTime? (lookup? "QUORATE_RPC_TIMEOUT_MS")).getD standard.rpcTimeout
    stateTimeout := (readTime? (lookup? "QUORATE_STATE_TIMEOUT_MS")).getD standard.stateTimeout
    seedFile := lookup? "QUORATE_SEED_FILE"
    accountsDirectory := lookup? "QUORATE_ACCOUNTS_DIR" }

end Settings

end AuctionHouse
