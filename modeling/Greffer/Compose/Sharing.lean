import Greffer.Compose.Yaml

/-! # What an alias makes one

A catalog compose may have aliases: what an anchor names is one object, wherever an alias of it
stands, and a merge puts one environment into several services.  Read, such a compose is a tree
like any other.  **Changed in place, it changes in all its places.**  Below the top level a start
changes two kinds of object in place, the mapping of a service and the environment of one, and
`Objects` says which of these are one.

A `Document` is the tree with these objects.  An inline compose has no alias, so that its objects
are all different.  Outside are a mapping that is a service and something else besides, such as
the environment of another, and one that contains itself.
-/
namespace Greffer.Compose

/-- `compose.get('services', {})`, of a mapping. -/
def servicesIn : Yaml → Yaml
  | .dict d => (Dict.get? d "services").getD (.dict [])
  | _ => .dict []

/-- The objects of a compose, by number: the mapping of each service, and the environment that it
has or would be given. -/
structure Objects where
  service : Yaml → Nat
  environment : Yaml → Nat

/-- **One object reads the same** in all its places; the environment of one mapping is one, and a
service that has none shares the one it would be given only with its own mapping. -/
structure Objects.Of (objects : Objects) (services : Entries) : Prop where
  service : ∀ s ∈ services, ∀ t ∈ services, objects.service s.1 = objects.service t.1 → s.2 = t.2
  environment : ∀ s ∈ services, ∀ t ∈ services,
    objects.environment s.1 = objects.environment t.1 →
      Dict.get? s.2.entries "environment" = Dict.get? t.2.entries "environment"
  nested : ∀ s ∈ services, ∀ t ∈ services, objects.service s.1 = objects.service t.1 →
    objects.environment s.1 = objects.environment t.1
  given : ∀ s ∈ services, ∀ t ∈ services, objects.environment s.1 = objects.environment t.1 →
    Dict.get? s.2.entries "environment" = none → objects.service s.1 = objects.service t.1

/-- What a compose is when it has been loaded. -/
structure Document where
  tree : Yaml
  objects : Objects
  of : objects.Of (servicesIn tree).entries

/-- A compose that shares nothing. -/
def Document.unshared (tree : Yaml) (number : Yaml → Nat)
    (h : ∀ s ∈ (servicesIn tree).entries, ∀ t ∈ (servicesIn tree).entries,
      number s.1 = number t.1 → s = t) : Document where
  tree := tree
  objects := ⟨number, number⟩
  of := {
    service := fun s hs t ht heq => h s hs t ht heq ▸ rfl
    environment := fun s hs t ht heq => h s hs t ht heq ▸ rfl
    nested := fun _ _ _ _ heq => heq
    given := fun _ _ _ _ heq _ => heq }

theorem Dict.set_set {β : Type} (d : Dict β) (key : String) (v v' : β) :
    Dict.set (Dict.set d (.str key) v) (.str key) v' = Dict.set d (.str key) v' := by
  rw [Dict.set, if_pos has_set]
  unfold Dict.set
  split
  · rw [List.map_map]
    refine List.map_congr_left fun e _ => ?_
    by_cases he : e.1 = .str key
    · simp [he]
    · simp [he]
  · rename_i h
    have hother : ∀ e ∈ d, ¬ e.1 = .str key := by
      intro e he hkey
      exact h (List.any_eq_true.mpr ⟨e, he, (Yaml.sameKey_str _ _).mpr hkey⟩)
    rw [List.map_append]
    congr 1
    · refine (List.map_congr_left fun e he => ?_).trans (List.map_id d)
      simp [hother e he]
    · simp

end Greffer.Compose
