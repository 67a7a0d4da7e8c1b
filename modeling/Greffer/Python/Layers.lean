import Mathlib.Data.List.Basic
import Mathlib.Data.Option.Basic

/-! # A layer kept as a difference

A map may be known only together with the one it was laid over.  The **difference** with
the lower map then stands for the layer: it holds what the lower map does not say, or
says otherwise.  Of an entry both have alike it keeps nothing, so a layer that is
laid over one map after another by its differences loses, for good, each entry that one of the
maps left behind has as well (`relaid_override`).
-/
namespace Layers
variable {K V : Type}

/-- `top` laid over `base`. -/
def override (base top : K → Option V) : K → Option V := fun k => (top k).or (base k)

theorem override_none {base top : K → Option V} {k : K} (h : top k = none) :
    override base top k = base k := by
  simp [override, h]

variable [DecidableEq V]

/-- The entries of a map that `base` does not have alike. -/
def delta (effective base : K → Option V) : K → Option V :=
  fun k => (effective k).filter fun v => base k != some v

/-- Of what was laid over `base`, the difference finds what `base` does not have alike. -/
theorem delta_override (base top : K → Option V) :
    delta (override base top) base = delta top base := by
  funext k
  simp only [delta, override]
  cases htop : top k with
  | some v => rfl
  | none =>
    cases hbase : base k with
    | none => rfl
    | some v => simp

/-- The map as it is laid over each of `rest` in turn, its layer being each time the
difference with the map below it. -/
def relaid (base effective : K → Option V) : List (K → Option V) → K → Option V
  | [] => effective
  | next :: rest => relaid next (override next (delta effective base)) rest

/-- What is left of a layer once it has been taken off each of the maps. -/
def survivors (top : K → Option V) (bases : List (K → Option V)) : K → Option V :=
  bases.foldl delta top

/-- An entry is left when none of the maps has it alike. -/
theorem survivors_apply (top : K → Option V) (bases : List (K → Option V)) (k : K) :
    survivors top bases k = (top k).filter fun v => bases.all fun base => base k != some v := by
  induction bases generalizing top with
  | nil => cases htop : top k <;> simp [survivors, htop, Option.filter]
  | cons base rest ih =>
    have hfirst : survivors top (base :: rest) k = survivors (delta top base) rest k := rfl
    rw [hfirst, ih]
    cases htop : top k with
    | none => simp [delta, htop]
    | some v => simp [delta, htop]

/-- **A layer laid over one map after another** is in the end the last map under what
is left of the layer after the maps before it. -/
theorem relaid_override (base top : K → Option V) (rest : List (K → Option V)) :
    relaid base (override base top) rest =
      override (rest.getLastD base) (survivors top (base :: rest).dropLast) := by
  induction rest generalizing base top with
  | nil => rfl
  | cons next rest ih =>
    have hstep : relaid base (override base top) (next :: rest) =
        relaid next (override next (delta top base)) rest := by
      rw [relaid, delta_override]
    rw [hstep, ih, List.getLastD_cons]
    rfl

end Layers
