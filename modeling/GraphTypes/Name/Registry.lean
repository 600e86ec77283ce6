/-!
# Names in use

A `Registry` holds the identifiers already in use in one output file or one namespace. Names are
reserved as they are, or claimed: a claim hands out the name asked for if it is free, and otherwise
the name with the least number from 2 on that makes it free.
-/

namespace GraphTypes.Name

/-- The identifiers in use in one scope, in the order in which they were taken. -/
structure Registry where
  taken : List String := []
  deriving Repr

namespace Registry

/-- Nothing is in use. -/
def empty : Registry := {}

/-- Whether a name is in use. -/
def contains (r : Registry) (name : String) : Bool := r.taken.contains name

/-- Marks a name as used. -/
def reserve (r : Registry) (name : String) : Registry :=
  if r.contains name then r else { taken := r.taken ++ [name] }

/-- Marks several names as used. -/
def reserveAll (r : Registry) (names : List String) : Registry := names.foldl reserve r

/-- A base name with a number after it. -/
def numbered (base : String) (k : Nat) : String := base ++ toString k

/-- The least number from `k` on whose candidate is not among `taken`. A candidate that is found is
taken off the list, as no later candidate equals it, and so the list bounds the search. -/
def freeSuffix (taken : List String) (base : String) (k : Nat) : Nat :=
  if h : numbered base k ∈ taken then freeSuffix (taken.erase (numbered base k)) base (k + 1)
  else k
termination_by taken.length
decreasing_by
  rw [List.length_erase_of_mem h]
  exact Nat.sub_lt (List.length_pos_of_mem h) Nat.one_pos

/-- The name that a claim of `base` hands out. -/
def available (r : Registry) (base : String) : String :=
  if r.contains base then numbered base (freeSuffix r.taken base 2) else base

/-- Hands out `base`, or `base` with the least free number from 2 on, and marks it as used. -/
def claim (r : Registry) (base : String) : String × Registry :=
  (r.available base, r.reserve (r.available base))

/-- Claims several names one after the other. -/
def claimAll (r : Registry) : List String → List String × Registry
  | [] => ([], r)
  | base :: bases =>
    let (name, r) := r.claim base
    let (names, r) := r.claimAll bases
    (name :: names, r)

end Registry

end GraphTypes.Name
