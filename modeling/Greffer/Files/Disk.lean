import Mathlib.Logic.Function.Basic
import Greffer.Effects.Reliance

/-! # Files that are replaced

A directory maps names to files, and a rename moves a file from one name to another in one step.
A **draft** is a file that a thread has made under a name of its own, to rename it onto its target
once its text is whole.

`drafting` is the discipline: who keeps to it writes only into its own draft, renames it only when
all of the text has reached the file (and, where that is promised, the disk), and reports success
exactly if it has renamed it.  If all threads keep to it, then in every state that any
interleaving reaches — so also where they are all killed — each target holds what it held at first
or the whole text of one that renamed its draft onto it (`Files.whole_along`).
-/
namespace Files
open Effects

variable {E : Type}

/-! ## The disk -/

abbrev Path := String

/-- A file, by its descriptor: what its writer has handed over, what has arrived, whether that
would survive a loss of power, and its mode. -/
structure File where
  written : String := ""
  stored : String := ""
  synced : Bool := false
  mode : Nat := 0o600

inductive FileCall (E : Type) where
  | makedirs (dir : Path)
  /-- `tempfile.mkstemp(dir=…, prefix=…, suffix=…)`. -/
  | mkstemp (dir : Path) (pre suf : String)
  | fdopen (fd : Nat)
  | write (fd : Nat) (text : String)
  | flush (fd : Nat)
  | fsync (fd : Nat)
  | close (fd : Nat)
  | chmod (path : Path) (mode : Nat)
  /-- `os.replace(tmp, path)`. -/
  | replace (tmp path : Path)
  | exists (path : Path)
  | unlink (path : Path)
  /-- The caller gets the outcome. -/
  | report (outcome : Except E Unit)

/-- What each call answers when it raises nothing. -/
@[reducible] def FileCall.Answer : FileCall E → Type
  | .mkstemp _ _ _ => Nat × Path
  | .exists _ => Bool
  | .makedirs _ | .fdopen _ | .write _ _ | .flush _ | .fsync _ | .close _ | .chmod _ _
  | .replace _ _ | .unlink _ | .report _ => Unit

/-- Code that works on files. -/
abbrev Filing (E : Type) := Action (FileCall.Answer (E := E)) E

/-- Make one call. -/
abbrev onDisk (c : FileCall E) : Filing E c.Answer := Action.perform c

/-- The directories.  `owner` and `past` only keep account: who made a file, and what each name
has stood for. -/
structure Disk where
  files : Nat → File
  opened : Nat
  names : Path → Option Nat
  owner : Nat → Option Nat
  past : Path → List (Option Nat)

/-- A name stands for something else. -/
def Disk.rename (w : Disk) (p : Path) (i : Option Nat) : Disk :=
  { w with names := Function.update w.names p i,
           past := Function.update w.past p (i :: w.past p) }

/-- A file changes. -/
def Disk.put (w : Disk) (fd : Nat) (f : File) : Disk :=
  { w with files := Function.update w.files fd f }

/-- A new file. -/
def Disk.grow (w : Disk) (n : Nat) : Disk :=
  { w with files := Function.update w.files w.opened {}, opened := w.opened + 1,
           owner := Function.update w.owner w.opened (some n) }

/-- The new file of `mkstemp`, under its name. -/
def Disk.make (w : Disk) (n : Nat) (tmp : Path) : Disk := (w.grow n).rename tmp (some w.opened)

/-- What has arrived of a text. -/
def Arrived (stored text : String) : Prop := stored.toList <+: text.toList

/-- What each call of the thread `n` may be answered, and do.  The random names of `mkstemp` are
never those of `targets`. -/
def serve (targets : Path → Prop) (n : Nat) (w : Disk) :
    (c : FileCall E) → Raises FileCall.Answer E c → Disk → Prop
  | .makedirs _, _, w' | .fdopen _, _, w' => w' = w
  | .report _, r, w' => r = .ok () ∧ w' = w
  | .mkstemp dir pre suf, .ok (fd, tmp), w' => fd = w.opened ∧
      (∃ middle, tmp = dir ++ "/" ++ pre ++ middle ++ suf) ∧ w.names tmp = none ∧ ¬ targets tmp ∧
      w' = w.make n tmp
  | .write fd text, .ok (), w' => ∃ stored, Arrived stored ((w.files fd).written ++ text) ∧
      w' = w.put fd { w.files fd with
        written := (w.files fd).written ++ text, stored := stored, synced := false }
  | .write fd text, .error _, w' => ∃ written stored,
      Arrived written ((w.files fd).written ++ text) ∧ Arrived stored written ∧
      w' = w.put fd { w.files fd with written := written, stored := stored, synced := false }
  | .flush fd, .ok (), w' | .close fd, .ok (), w' =>
      w' = w.put fd { w.files fd with
        stored := (w.files fd).written,
        synced := (w.files fd).synced && (w.files fd).stored == (w.files fd).written }
  | .flush fd, .error _, w' | .close fd, .error _, w' => ∃ stored,
      Arrived stored (w.files fd).written ∧
      w' = w.put fd { w.files fd with stored := stored, synced := false }
  | .fsync fd, .ok (), w' => w' = w.put fd { w.files fd with synced := true }
  | .chmod path mode, .ok (), w' => ∃ i, w.names path = some i ∧
      w' = w.put i { w.files i with mode := mode }
  | .replace tmp path, .ok (), w' => ∃ i, w.names tmp = some i ∧
      w' = (w.rename tmp none).rename path (some i)
  | .exists path, r, w' => r = .ok (w.names path).isSome ∧ w' = w
  | .unlink path, .ok (), w' => (w.names path).isSome ∧ w' = w.rename path none
  | .mkstemp _ _ _, .error _, w' | .fsync _, .error _, w' | .chmod _ _, .error _, w'
  | .replace _ _, .error _, w' | .unlink _, .error _, w' => w' = w

end Files
