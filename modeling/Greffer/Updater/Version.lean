import Mathlib.Data.List.Lex
import Greffer.Python.Builtins

/-! # Dotted-numeric versions

Two versions are compared component by component, the shorter one padded with
zeros.  What is not dotted-numeric is not ordered at all.
-/
namespace Greffer.Updater

/-- Whether a component is one to eighteen ASCII digits. -/
def isComponent (part : List Char) : Bool :=
  part.all Char.isDigit && decide (0 < part.length) && decide (part.length ≤ 18)

/-- `int(part)`, of ASCII digits. -/
def componentValue (part : List Char) : Nat :=
  part.foldl (fun n c => 10 * n + (c.toNat - '0'.toNat)) 0

/-- `version_tuple`. -/
def versionTuple (value : Option String) : Option (List Nat) :=
  match nonEmpty value with
  | none => none
  | some text =>
    let parts := splitOn '.' text.toList
    if parts.all isComponent then some (parts.map componentValue) else none

/-- Pad with zeros up to a width. -/
def padTo (width : Nat) (v : List Nat) : List Nat := v ++ List.replicate (width - v.length) 0

/-- The comparison of two tuples at their common width. -/
def tupleLess (a b : List Nat) : Bool :=
  let width := max a.length b.length
  decide (padTo width a < padTo width b)

/-- `update.is_downgrade`, of what is running and what would be. -/
def isDowngradeTo (current target : Option String) : Option Bool :=
  match versionTuple current, versionTuple target with
  | some cur, some tgt => some (tupleLess tgt cur)
  | _, _ => none

/-- `engine._is_downgrade`, whose arguments stand the other way round. -/
def isDowngrade (new old : Option String) : Bool := isDowngradeTo old new == some true

end Greffer.Updater
