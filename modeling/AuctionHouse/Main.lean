import AuctionHouse.Demo

/-!
# The command

Reads the environment and the files that it names, and runs the demonstration.
-/

namespace AuctionHouse

/-- The contents of a file, if it can be read. -/
def contentsOf (path : String) : IO (Option (List UInt8)) := do
  try
    pure (some (← IO.FS.readBinFile path).data.toList)
  catch _ =>
    pure none

/-- The folder of accounts as far as the demonstration looks into it. -/
def accountsIn (directory : String) : IO Accounts := do
  let root : Path := ["accounts"]
  let path := directory ++ "/" ++ Demo.bidder ++ "/" ++ AccountFolder.fileName
  let place := root ++ [Demo.bidder, AccountFolder.fileName]
  let files := (← contentsOf path).toList.map fun bytes => (place, bytes)
  pure (.folder { files, root })

/-- The settings that the environment gives. -/
def settingsOfEnvironment : IO Settings := do
  let names := ["QUORATE_RPC_TIMEOUT_MS", "QUORATE_STATE_TIMEOUT_MS", "QUORATE_SEED_FILE",
    "QUORATE_ACCOUNTS_DIR"]
  let values ← names.mapM fun name => do pure (name, ← IO.getEnv name)
  pure (.ofEnvironment fun name => (values.lookup name).join)

end AuctionHouse

open AuctionHouse in
/-- Runs the demonstration with the number of replicas that the arguments ask for. -/
def main (arguments : List String) : IO UInt32 := do
  let settings ← settingsOfEnvironment
  let seed ← settings.seedFile.mapM contentsOf
  let accounts ← match settings.accountsDirectory with
    | some directory => accountsIn directory
    | none => pure Demo.standardAccounts
  let report := Demo.report arguments settings seed accounts
  report.lines.forM fun line => IO.println line
  pure (UInt32.ofNat report.exitCode)
