import Mathlib.Data.List.Sort
import Greffer.Ops.Ledger

/-! # Migrations and their registry

A `Migration` is what a subclass declares: its id, its two flags, and its two
bodies, which are scripts.  `register` refuses a migration without an id, one
that is both advisory and stop-on-failure, and a second one under an id already
taken; so a `Registry` carries the last two as fields.  `allMigrations` is the
registry sorted by id.
-/
namespace Greffer.Ops
open Effects

/-- A concrete migration class. -/
structure Migration where
  id : String
  description : String
  /-- A failure of this migration halts the rest of the batch. -/
  stopOnFailure : Bool := false
  /-- Best-effort cleanup: never recorded, re-run every time, never gates boot. -/
  advisory : Bool := false
  checkPreconditions : Script Unit := pure ()
  run : Script PyValue

/-- A migration taken as a whole: each of its bodies is one call, which may
answer or raise anything. -/
def Migration.external (id description : String) (stopOnFailure advisory : Bool) : Migration where
  id := id
  description := description
  stopOnFailure := stopOnFailure
  advisory := advisory
  checkPreconditions := call (.checkPreconditions id)
  run := call (.runMigration id)

/-- `_REGISTRY`: the registered migrations, in registration order. -/
structure Registry where
  migrations : List Migration
  unique : (migrations.map Migration.id).Nodup
  consistent : ∀ m ∈ migrations, ¬ (m.advisory = true ∧ m.stopOnFailure = true)

namespace Registry

/-- Nothing registered. -/
def empty : Registry := ⟨[], List.nodup_nil, by simp⟩

/-- `register(cls)`. -/
def register (reg : Registry) (cls : Migration) : Except Exn Registry :=
  if cls.id = "" then
    .error (.valueError "has no id set")
  else if hflags : cls.advisory = true ∧ cls.stopOnFailure = true then
    .error (.valueError "sets both advisory and stop_on_failure")
  else if hdup : cls.id ∈ reg.migrations.map Migration.id then
    .error (.exception "migration id already registered")
  else
    .ok {
      migrations := reg.migrations ++ [cls]
      unique := by
        rw [List.map_append, List.map_singleton]
        exact List.nodup_append_comm.mp (List.nodup_cons.mpr ⟨hdup, reg.unique⟩)
      consistent := by
        intro m hm
        rcases List.mem_append.mp hm with hm | hm
        · exact reg.consistent m hm
        · rw [List.mem_singleton.mp hm]
          exact hflags }

/-- The order of ids. -/
def idLE (a b : Migration) : Prop := a.id ≤ b.id

instance : DecidableRel idLE := fun a b => inferInstanceAs (Decidable (a.id ≤ b.id))

instance : Std.Total idLE := ⟨fun a b => String.le_total (a := a.id) (b := b.id)⟩

instance : IsTrans Migration idLE := ⟨fun _ _ _ h h' => String.le_trans h h'⟩

/-- `all_migrations()`: every registered migration, sorted by id. -/
def allMigrations (reg : Registry) : List Migration := reg.migrations.insertionSort idLE

@[simp] theorem mem_allMigrations {reg : Registry} {m : Migration} :
    m ∈ reg.allMigrations ↔ m ∈ reg.migrations :=
  List.mem_insertionSort idLE

theorem allMigrations_unique (reg : Registry) : (reg.allMigrations.map Migration.id).Nodup :=
  ((List.perm_insertionSort idLE reg.migrations).map _).nodup_iff.mpr reg.unique

/-- **Ids ascend** along `allMigrations`, strictly, since no two are equal. -/
theorem allMigrations_ascending (reg : Registry) :
    reg.allMigrations.Pairwise fun a b => a.id < b.id := by
  have hsorted : reg.allMigrations.Pairwise idLE :=
    List.pairwise_insertionSort idLE reg.migrations
  have hne : reg.allMigrations.Pairwise fun a b => a.id ≠ b.id :=
    List.pairwise_map.mp reg.allMigrations_unique
  refine (hsorted.and hne).imp ?_
  rintro a b ⟨hle, hne⟩
  exact Classical.byContradiction fun hnlt => hne (String.le_antisymm hle (String.not_lt.mp hnlt))

end Registry

end Greffer.Ops
