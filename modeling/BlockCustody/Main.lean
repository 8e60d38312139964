import BlockCustody.Config.Text
import BlockCustody.Node.Startup
import BlockCustody.Shards.Snapshot

/-!
Contract: the command that reports where a node's backups stand.

Owns: reading the settings and the saved files, and printing the log.

Does not own: what is restored from the files, and what the log says.
-/

namespace BlockCustody.Main

/-- The bytes of a file, unless it is missing. -/
def readFile? (path : String) : IO (Option Bytes) := do
  try
    let content ← IO.FS.readBinFile path
    return some content.toList
  catch _ => return none

/-- The directory for everything when the settings name none. -/
def standardDirectory : IO String := do
  let shared ←
    match ← IO.getEnv "XDG_DATA_HOME" with
    | some directory => pure directory
    | none => pure (fileIn ((← IO.getEnv "HOME").getD ".") ".local/share")
  return fileIn shared "peer-backup"

/-- The settings of the named file, or of the standard one if it is there. -/
def readSettings (standard : String) : List String → IO (Except SettingsFault Settings)
  | path :: _ => do return Settings.ofFile (← readFile? path)
  | [] => do
      match ← readFile? (fileIn standard "config.json") with
      | none => return .ok Settings.default
      | some bytes => return Settings.ofFile (some bytes)

/-- The name of the file with the rows of the shard store, and its limit. -/
def shardsFile : String := "shards.bin"

def maxGigabytes : Nat := 10

def readShards (directory : String) : IO ShardStore := do
  let store? := (← readFile? (fileIn directory shardsFile)).bind fun bytes =>
    (ShardStore.ofSnapshot maxGigabytes bytes).toOption
  return store?.getD (ShardStore.empty maxGigabytes)

/-- Salts that nobody can foresee, from the system's source of randomness. -/
def freshSalts : IO SaltStream := do
  let seed ← IO.getRandomBytes 8
  return SaltStream.ofSeed (LittleEndian.decode seed.toList).toUInt64

def printLog (lines : List LogLine) : IO Unit :=
  lines.forM fun line => IO.println (line.level.name ++ " " ++ line.text)

def fail (message : String) : IO UInt32 := do
  IO.eprintln ("Error: " ++ message)
  return 1

def run (arguments : List String) : IO UInt32 := do
  let standard ← standardDirectory
  match ← readSettings standard arguments with
  | .error fault => fail fault.message
  | .ok settings => do
      let directory := settings.directory standard
      IO.FS.createDirAll directory
      let files : SavedFiles :=
        { ledger := ← readFile? (fileIn directory ledgerFile)
          replication := ← readFile? (fileIn directory replicationFile)
          exchange := ← readFile? (fileIn directory exchangeFile) }
      let store ← readShards directory
      let salts ← freshSalts
      printLog (Node.startLog settings directory salts files)
      match Node.start settings salts files with
      | .error fault => fail fault.message
      | .ok node =>
          printLog (node.report store)
          return 0

end BlockCustody.Main

def main (arguments : List String) : IO UInt32 :=
  BlockCustody.Main.run arguments
