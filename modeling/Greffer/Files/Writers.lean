import Greffer.Files.Drafts
import Greffer.Python.Value

/-! # The files that the node replaces

Six writers replace a file of text through one that `mkstemp` makes next to it: the tunnel's
`client.toml`, the token of the node, the sticky ports of an instance, the ledger of the migrations,
and, in the CLI, `env.env` and the compose file.  They differ in what they do before the rename
(`flush` and `fsync`, or `chmod`) and in which exceptions they take the temporary file away.

Two more rename and are not here: `_save_unconfirmed` writes its ledger through a temporary file of
one fixed name, and `snapshot_volume` has a container fill an archive.
-/
namespace Greffer.Writers
open Effects Files

/-- A path, by its directory and its name. -/
structure Target where
  dir : String
  name : String
  deriving DecidableEq

/-- The path. -/
def Target.path (t : Target) : Path := t.dir ++ "/" ++ t.name

/-- What `json.dump` writes: its pieces, and the exception at a value that it cannot. -/
structure Dumped where
  chunks : List String
  failure : Option Exn := none

/-- Code that replaces a file. -/
abbrev Writing := Filing Exn

/-- `except OSError: pass`. -/
def ignoringOSError (m : Writing Unit) : Writing Unit :=
  m.tryExcept fun
    | .osError _ => return ()
    | e => Action.raise e

/-- An exception of class `FileNotFoundError`. -/
def isFileNotFound : Exn → Bool
  | .osError text => text.startsWith "[Errno 2]"
  | _ => false

/-- `except FileNotFoundError: pass`. -/
def ignoringFileNotFound (m : Writing Unit) : Writing Unit :=
  m.tryExcept fun e => if isFileNotFound e then return () else Action.raise e

/-- The body of `with os.fdopen(fd, "w") as f`: however it ends, the file is closed. -/
def closing (fd : Nat) (body : Writing Unit) : Writing Unit := do
  let r ← body.outcome
  onDisk (.close fd)
  Action.ofExcept r

/-- The pieces, one after the other. -/
def writeChunks (fd : Nat) : List String → Writing Unit
  | [] => return ()
  | chunk :: rest => do
    onDisk (.write fd chunk)
    writeChunks fd rest

/-- `json.dump(…, f)`. -/
def dump (fd : Nat) (dumped : Dumped) : Writing Unit := do
  writeChunks fd dumped.chunks
  match dumped.failure with
  | none => return ()
  | some e => Action.raise e

/-- `f.flush(); os.fsync(f.fileno())`. -/
def flushAndSync (fd : Nat) : Writing Unit := do
  onDisk (.flush fd)
  onDisk (.fsync fd)

/-! ## The six -/

/-- `if tmp_path is not None and os.path.exists(tmp_path)` and what follows. -/
def unlinkIfThere (tmp : Path) : Writing Unit := do
  if ← onDisk (.exists tmp) then ignoringOSError (onDisk (.unlink tmp))
  else return ()

/-- The `try` of `write_client_toml`, once the descriptor is open. -/
def fillClientToml (fd : Nat) (tmp target content : String) : Writing Unit := do
  closing fd do
    onDisk (.write fd content)
    flushAndSync fd
  onDisk (.replace tmp target)

/-- `except OSError as exc`: a `TunnelConfigWriteError`, which is an `OSError` too. -/
def tunnelConfigWriteError (target : Path) : Exn → Exn
  | .osError text => .osError ("failed to write " ++ target ++ ": " ++ text)
  | e => e

/-- `write_client_toml`.  The `finally` closes a descriptor that no file object has taken over, and
takes the temporary file away unless it was renamed. -/
def writeClientToml (content : String) (target : Target) : Writing Unit := do
  match ← (onDisk (.mkstemp target.dir ("." ++ target.name ++ ".") ".tmp")).outcome with
  | .error e => Action.raise (tunnelConfigWriteError target.path e)
  | .ok (fd, tmp) =>
    match ← (onDisk (.fdopen fd)).outcome with
    | .error e => do
      ignoringOSError (onDisk (.close fd))
      unlinkIfThere tmp
      Action.raise (tunnelConfigWriteError target.path e)
    | .ok () =>
      match ← (fillClientToml fd tmp target.path content).outcome with
      | .error e => do
        unlinkIfThere tmp
        Action.raise (tunnelConfigWriteError target.path e)
      | .ok () => return ()

/-- `_atomic_write` of the token: only an `OSError` takes the temporary file away. -/
def writeToken (content : String) (path : Target) : Writing Unit := do
  onDisk (.makedirs path.dir)
  let (fd, tmp) ← onDisk (.mkstemp path.dir (path.name ++ ".") ".tmp")
  Action.tryExcept (do
      onDisk (.fdopen fd)
      closing fd (onDisk (.write fd content))
      onDisk (.chmod tmp 0o600)
      onDisk (.replace tmp path.path))
    fun
      | .osError text => do
        ignoringOSError (onDisk (.unlink tmp))
        Action.raise (.osError text)
      | e => Action.raise e

/-- What the sticky ports and the ledger have in common. -/
def replaceDumped (pre suf : String) (dumped : Dumped) (path : Target) : Writing Unit := do
  onDisk (.makedirs path.dir)
  let (fd, tmp) ← onDisk (.mkstemp path.dir pre suf)
  Action.tryExcept (do
      onDisk (.fdopen fd)
      closing fd do
        dump fd dumped
        flushAndSync fd
      onDisk (.replace tmp path.path))
    fun e => do
      ignoringOSError (onDisk (.unlink tmp))
      Action.raise e

/-- `sticky_ports.save`. -/
def saveStickyPorts (dumped : Dumped) (instDir : String) : Writing Unit :=
  replaceDumped ".l4-" ".tmp" dumped ⟨instDir, "l4_ports.json"⟩

/-- `Ledger._atomic_write`. -/
def writeLedger (dumped : Dumped) (path : Target) : Writing Unit :=
  replaceDumped ".greffer-mig-" "" dumped path

/-- `EnvFile.write_atomic`. -/
def writeEnvFile (text : String) (path : Target) : Writing Unit := do
  onDisk (.makedirs path.dir)
  let (fd, tmp) ← onDisk (.mkstemp path.dir ".env.env.tmp." "")
  Action.tryExcept (do
      onDisk (.fdopen fd)
      closing fd (onDisk (.write fd text))
      onDisk (.chmod tmp 0o600)
      onDisk (.replace tmp path.path))
    fun e => do
      ignoringFileNotFound (onDisk (.unlink tmp))
      Action.raise e

/-- `os.fdopen` in the writer of the compose file, which closes what it does not take over. -/
def fdopenOrClose (fd : Nat) : Writing Unit :=
  (onDisk (.fdopen fd)).tryExcept fun e => do
    onDisk (.close fd)
    Action.raise e

/-- `_atomic_write` of the compose file. -/
def writeComposeFile (text : String) (path : Target) : Writing Unit := do
  let (fd, tmp) ← onDisk (.mkstemp path.dir ("." ++ path.name ++ ".tmp.") "")
  Action.tryExcept (do
      fdopenOrClose fd
      closing fd (onDisk (.write fd text))
      onDisk (.replace tmp path.path))
    fun e => do
      ignoringFileNotFound (onDisk (.unlink tmp))
      Action.raise e

/-! ## Any of them -/

/-- A writer, with what it writes and where. -/
inductive Writer where
  | clientToml (content : String) (target : Target)
  | token (content : String) (path : Target)
  | stickyPorts (dumped : Dumped) (instDir : String)
  | ledger (dumped : Dumped) (path : Target)
  | envFile (text : String) (path : Target)
  | composeFile (text : String) (path : Target)

namespace Writer

/-- Its file. -/
def target : Writer → Path
  | clientToml _ target => target.path
  | token _ path | ledger _ path | envFile _ path | composeFile _ path => path.path
  | stickyPorts _ instDir => (Target.mk instDir "l4_ports.json").path

/-- Its text. -/
def text : Writer → String
  | clientToml text _ | token text _ | envFile text _ | composeFile text _ => text
  | stickyPorts dumped _ | ledger dumped _ => String.join dumped.chunks

/-- Whether it calls `fsync`. -/
def syncs : Writer → Bool
  | clientToml _ _ | stickyPorts _ _ | ledger _ _ => true
  | token _ _ | envFile _ _ | composeFile _ _ => false

/-- Whether it takes its temporary file away upon an exception. -/
def cleans : Writer → Exn → Bool
  | token _ _, .osError _ => true
  | token _ _, _ => false
  | _, _ => true

/-- What it has to do. -/
def job (w : Writer) : Job Exn := ⟨w.target, w.text, w.syncs, w.cleans⟩

/-- What it does. -/
def write : Writer → Writing Unit
  | clientToml content target => writeClientToml content target
  | token content path => writeToken content path
  | stickyPorts dumped instDir => saveStickyPorts dumped instDir
  | ledger dumped path => writeLedger dumped path
  | envFile text path => writeEnvFile text path
  | composeFile text path => writeComposeFile text path

end Writer

/-- The system's calls raise an `OSError`, but for `os.path.exists`, which answers `False` then; a
text may also be one that cannot be encoded. -/
def faults : FileCall Exn → Exn → Prop
  | .write _ _, _ => True
  | .exists _, _ => False
  | _, e => ∃ text, e = .osError text

/-- Their threads go round no loop. -/
abbrev Label (_ : Writer) : Type := Unit

/-- A call of a writer, whose outcome its caller gets. -/
def blocks : Blocks (Replies Exn Writer) Label :=
  fun writer _ => Action.once do
    let r ← writer.write.outcome
    onDisk (.report r)

/-- The threads of some writers, before they start. -/
def threads (writers : List Writer) :
    List (Worker (Replies Exn Writer) Label) :=
  writers.map fun writer => ⟨writer, .pure (some ())⟩

end Greffer.Writers
