import GraphTypes.Proofs.Name.Claims

/-!
# The history of a registry

A registry changes by requests only: names are reserved and names are claimed. `performAll` carries
out any sequence of requests and keeps a history, an entry for each request with the name that it
took. `Grants` says which name a claim has to hand out, from the names in use alone. It allows one
name, the one that is handed out, so a whole history follows from its requests (`FollowsLaw`).
-/

namespace GraphTypes.Name

/-! ### Requests and histories -/

/-- What a registry can be asked for. -/
inductive Request where
  | reserve (name : String)
  | claim (base : String)
  deriving DecidableEq, Repr

/-- A request that was carried out. -/
structure Entry where
  request : Request
  /-- The name that is reserved or handed out. -/
  name : String
  deriving DecidableEq, Repr

/-- The name that an entry hands out, if it is for a claim. -/
def Entry.claimed? (e : Entry) : Option String :=
  match e.request with
  | .reserve _ => none
  | .claim _ => some e.name

namespace Registry

/-- Carries out a request and yields the name that it takes. -/
def perform (r : Registry) : Request → String × Registry
  | .reserve name => (name, r.reserve name)
  | .claim base => r.claim base

/-- Carries out requests one after the other. -/
def performAll (r : Registry) : List Request → List Entry × Registry
  | [] => ([], r)
  | request :: rest =>
    let (name, r) := r.perform request
    let (history, r) := r.performAll rest
    (⟨request, name⟩ :: history, r)

theorem performAll_cons (r : Registry) (request : Request) (rest : List Request) :
    r.performAll (request :: rest) =
      (⟨request, (r.perform request).1⟩ :: ((r.perform request).2.performAll rest).1,
        ((r.perform request).2.performAll rest).2) := rfl

theorem performAll_append (r : Registry) (before after : List Request) :
    r.performAll (before ++ after) =
      ((r.performAll before).1 ++ ((r.performAll before).2.performAll after).1,
        ((r.performAll before).2.performAll after).2) := by
  induction before generalizing r with
  | nil => rfl
  | cons request rest ih => rw [List.cons_append, performAll_cons, performAll_cons, ih]; rfl

/-- There is an entry for every request, in order. -/
theorem map_request_performAll (r : Registry) (requests : List Request) :
    (r.performAll requests).1.map (·.request) = requests := by
  induction requests generalizing r with
  | nil => rfl
  | cons request rest ih => rw [performAll_cons, List.map_cons, ih]

/-- After a request the name that it took is in use, besides those in use before. -/
theorem mem_taken_perform {r : Registry} {request : Request} {name : String} :
    name ∈ (r.perform request).2.taken ↔ name = (r.perform request).1 ∨ name ∈ r.taken := by
  cases request with
  | reserve other => exact mem_taken_reserve
  | claim base => exact mem_taken_claim

/-- What is in use after several requests are the names of their entries, and what was in use
before. -/
theorem mem_taken_performAll {r : Registry} {requests : List Request} {name : String} :
    name ∈ (r.performAll requests).2.taken ↔
      name ∈ (r.performAll requests).1.map (·.name) ∨ name ∈ r.taken := by
  induction requests generalizing r with
  | nil => simp [performAll]
  | cons request rest ih =>
    rw [performAll_cons, ih, mem_taken_perform, List.map_cons, List.mem_cons, or_left_comm,
      or_assoc]

/-- Each part of a history is the history of its own requests, and the entry behind it shows what
was done next. -/
theorem eq_of_performAll_eq_append {r : Registry} {requests : List Request}
    {before after : List Entry} {e : Entry}
    (h : (r.performAll requests).1 = before ++ e :: after) :
    (r.performAll (before.map (·.request))).1 = before ∧
      e.name = ((r.performAll (before.map (·.request))).2.perform e.request).1 := by
  have split : requests = before.map (·.request) ++ e.request :: after.map (·.request) := by
    rw [← map_request_performAll r requests, h, List.map_append, List.map_cons]
  rw [split, performAll_append, performAll_cons] at h
  have lengths : (r.performAll (before.map (·.request))).1.length = before.length := by
    rw [← List.length_map (f := Entry.request), map_request_performAll, List.length_map]
  obtain ⟨front, back⟩ := List.append_inj h lengths
  obtain ⟨entry, -⟩ := List.cons.inj back
  exact ⟨front, (congrArg Entry.name entry).symm⟩

/-! ### What a claim has to hand out -/

/-- The name that a claim has to hand out, given which names are in use: its base if that is free,
and otherwise the base with the least number from 2 on that makes it free. -/
inductive Grants (used : String → Prop) (base : String) : String → Prop
  | own (free : ¬ used base) : Grants used base base
  | numbered (taken : used base) (k : Nat) (atLeast : 2 ≤ k) (free : ¬ used (base ++ toString k))
    (least : ∀ j, 2 ≤ j → j < k → used (base ++ toString j)) : Grants used base (base ++ toString k)

/-- The name that is handed out is the one that has to be. -/
theorem grants_iff {r : Registry} {base name : String} :
    Grants (· ∈ r.taken) base name ↔ name = r.available base := by
  have free := freeSuffix_not_mem r.taken base 2
  have atLeast := le_freeSuffix r.taken base 2
  constructor
  · intro granted
    cases granted with
    | own unused =>
      have unused : r.contains base = false := by simpa [contains] using unused
      rw [available, unused, if_neg Bool.false_ne_true]
    | numbered used k hk unused least =>
      -- Neither number is less than the other, as both are the least.
      have suffix : freeSuffix r.taken base 2 = k := by
        apply Nat.le_antisymm (freeSuffix_le hk unused)
        exact Nat.le_of_not_lt fun less => free (least _ atLeast less)
      rw [available, if_pos (contains_iff.mpr used), suffix, Registry.numbered]
  · rintro rfl
    rw [available]
    split
    · next used =>
      refine .numbered (contains_iff.mp used) _ atLeast free ?_
      intro j hj less
      apply Decidable.of_not_not
      intro unused
      exact Nat.not_le_of_lt less (freeSuffix_le hj unused)
    · next unused => exact .own fun used => unused (contains_iff.mpr used)

/-- What is handed out for claims is new each time. -/
theorem nodup_claimed_performAll (r : Registry) (requests : List Request) :
    ((r.performAll requests).1.filterMap Entry.claimed?).Nodup ∧
      ∀ name ∈ (r.performAll requests).1.filterMap Entry.claimed?, name ∉ r.taken := by
  induction requests generalizing r with
  | nil => exact ⟨.nil, fun name hname => absurd hname List.not_mem_nil⟩
  | cons request rest ih =>
    obtain ⟨nodup, fresh⟩ := ih (r.perform request).2
    have older : ∀ name ∈ ((r.perform request).2.performAll rest).1.filterMap Entry.claimed?,
        name ∉ r.taken :=
      fun name hname used => fresh name hname (mem_taken_perform.mpr (Or.inr used))
    rw [performAll_cons]
    cases request with
    | reserve name => exact ⟨nodup, older⟩
    | claim base =>
      refine ⟨List.nodup_cons.mpr ⟨?_, nodup⟩, ?_⟩
      · intro again
        exact fresh _ again (mem_taken_perform.mpr (Or.inl rfl))
      · intro name hname
        rcases List.mem_cons.mp hname with rfl | hname
        · exact r.available_not_mem base
        · exact older name hname

/-! ### The law -/

/-- The law that the history of requests follows if no name was in use before them. -/
structure FollowsLaw (requests : List Request) (history : List Entry) : Prop where
  /-- Every request is carried out, in order. -/
  answered : history.map (·.request) = requests
  reserved : ∀ name, ∀ e ∈ history, e.request = .reserve name → e.name = name
  /-- Each claim hands out the one name that it has to, going by the names taken so far. -/
  granted : ∀ before base name after, history = before ++ ⟨.claim base, name⟩ :: after →
    ∀ other, Grants (· ∈ before.map (·.name)) base other ↔ other = name
  /-- A request adds the name that it takes, and no other. -/
  added : ∀ before e after, history = before ++ e :: after → ∀ name,
    (empty.performAll ((before ++ [e]).map (·.request))).2.contains name ↔
      name = e.name ∨ (empty.performAll (before.map (·.request))).2.contains name
  /-- At any time exactly the names taken so far are in use. -/
  contains : ∀ before after, history = before ++ after → ∀ name,
    (empty.performAll (before.map (·.request))).2.contains name ↔ name ∈ before.map (·.name)
  distinct : (history.filterMap Entry.claimed?).Nodup
  /-- No claim hands out a name that was reserved before. -/
  unreserved : ∀ before base name after, history = before ++ ⟨.claim base, name⟩ :: after →
    ∀ e ∈ before, e.request ≠ .reserve name

theorem mem_taken_performAll_empty {requests : List Request} {name : String} :
    name ∈ (empty.performAll requests).2.taken ↔
      name ∈ (empty.performAll requests).1.map (·.name) := by
  rw [mem_taken_performAll]
  exact or_iff_left List.not_mem_nil

theorem name_of_reserve {r : Registry} {requests : List Request} {name : String} {e : Entry}
    (h : e ∈ (r.performAll requests).1) (reserve : e.request = .reserve name) : e.name = name := by
  obtain ⟨before, after, split⟩ := List.append_of_mem h
  rw [(eq_of_performAll_eq_append split).2, reserve]
  rfl

theorem name_of_claim {r : Registry} {requests : List Request} {before after : List Entry}
    {base name : String} (h : (r.performAll requests).1 = before ++ ⟨.claim base, name⟩ :: after) :
    name = (r.performAll (before.map (·.request))).2.available base :=
  (eq_of_performAll_eq_append h).2

/-- From any requests comes a history that follows the law. -/
theorem followsLaw_performAll (requests : List Request) :
    FollowsLaw requests (empty.performAll requests).1 where
  answered := map_request_performAll empty requests
  reserved name e he := name_of_reserve he
  granted before base name after split other := by
    have used : (· ∈ before.map (·.name)) =
        (· ∈ (empty.performAll (before.map (·.request))).2.taken) := by
      funext n
      rw [mem_taken_performAll_empty, (eq_of_performAll_eq_append split).1]
    rw [used, grants_iff, ← name_of_claim split]
  added before e after split name := by
    rw [contains_iff, contains_iff, (eq_of_performAll_eq_append split).2, List.map_append,
      performAll_append]
    exact mem_taken_perform
  contains before after split name := by
    have front : (empty.performAll (before.map (·.request))).1 = before := by
      cases after with
      | nil =>
        rw [List.append_nil] at split
        rw [← split, map_request_performAll]
      | cons e rest => exact (eq_of_performAll_eq_append split).1
    rw [contains_iff, mem_taken_performAll_empty, front]
  distinct := (nodup_claimed_performAll empty requests).1
  unreserved before base name after split e he reserve := by
    have front := (eq_of_performAll_eq_append split).1
    have inHistory : e ∈ (empty.performAll (before.map (·.request))).1 := by rwa [front]
    have used : name ∈ (empty.performAll (before.map (·.request))).2.taken := by
      rw [mem_taken_performAll_empty, front]
      exact List.mem_map.mpr ⟨e, he, name_of_reserve inHistory reserve⟩
    rw [name_of_claim split] at used
    exact available_not_mem _ base used

/-- A number that is in use already is passed over, and numbered names can be bases themselves. -/
example :
    (empty.performAll [.reserve "Name2", .claim "Name", .claim "Name", .claim "Name2"]).1.map
      (·.name) = ["Name2", "Name", "Name3", "Name22"] := by decide +kernel

end Registry

end GraphTypes.Name
