/-!
# Checks in order

Tables are compiled piece by piece, and the first piece that is malformed ends the work.
What this comes to is a list of checks, each with the error that is reported where it fails:
the work succeeds if all of them hold, and otherwise reports the first that does not.

`failure?` forgets what the work yields, and the lemmas below say how it passes through the
ways in which work is put together.  Each step of a compilation is then an equation between
its failure and the first failure of a list of checks.
-/

namespace TextBoundary

variable {ε δ α β : Type}

/-- A condition, and the error that is reported where it fails. -/
structure Check (ε : Type) where
  holds : Bool
  error : ε

namespace Check

/-- The error of the first check that does not hold. -/
def firstFailure? (checks : List (Check ε)) : Option ε :=
  (checks.find? fun c => !c.holds).map Check.error

/-- The same check with another error. -/
def mapError (f : ε → δ) (c : Check ε) : Check δ where
  holds := c.holds
  error := f c.error

variable {checks : List (Check ε)} {c : Check ε}

theorem firstFailure?_eq_none_iff :
    firstFailure? checks = none ↔ ∀ c ∈ checks, c.holds = true := by
  simp [firstFailure?]

theorem firstFailure?_nil : firstFailure? ([] : List (Check ε)) = none :=
  rfl

theorem firstFailure?_cons :
    firstFailure? (c :: checks) = if c.holds then firstFailure? checks else some c.error := by
  cases hc : c.holds <;> simp [firstFailure?, hc]

theorem firstFailure?_cons_of_pos (h : c.holds = true) :
    firstFailure? (c :: checks) = firstFailure? checks := by
  rw [firstFailure?_cons, if_pos h]

theorem firstFailure?_cons_of_neg (h : c.holds = false) :
    firstFailure? (c :: checks) = some c.error := by
  rw [firstFailure?_cons, h]
  rfl

theorem firstFailure?_append (xs ys : List (Check ε)) :
    firstFailure? (xs ++ ys) = (firstFailure? xs).or (firstFailure? ys) := by
  rw [firstFailure?, List.find?_append, Option.map_or]
  rfl

theorem firstFailure?_flatMap (l : List α) (f : α → List (Check ε)) :
    firstFailure? (l.flatMap f) = l.findSome? fun a => firstFailure? (f a) := by
  rw [firstFailure?, List.find?_flatMap, List.map_findSome?]
  rfl

theorem firstFailure?_map_mapError (f : ε → δ) (checks : List (Check ε)) :
    firstFailure? (checks.map (mapError f)) = (firstFailure? checks).map f := by
  rw [firstFailure?, List.find?_map, Option.map_map, firstFailure?, Option.map_map]
  rfl

end Check

/-- The error that ended some work, if it did not succeed. -/
def failure? : Except ε α → Option ε
  | .ok _ => none
  | .error e => some e

theorem failure?_eq_none_iff {r : Except ε α} : failure? r = none ↔ ∃ a, r = .ok a := by
  cases r <;> simp [failure?]

theorem failure?_eq_some_iff {r : Except ε α} {e : ε} : failure? r = some e ↔ r = .error e := by
  cases r <;> simp [failure?]

theorem failure?_map (r : Except ε α) (f : α → β) : failure? (r.map f) = failure? r := by
  cases r <;> rfl

theorem failure?_mapError (r : Except ε α) (f : ε → δ) :
    failure? (r.mapError f) = (failure? r).map f := by
  cases r <;> rfl

/-- Work in two parts fails as the first part does, or else as the second. -/
theorem failure?_bind {r : Except ε α} {f : α → Except ε β} {o : Option ε}
    (h : ∀ a, r = .ok a → failure? (f a) = o) : failure? (r >>= f) = (failure? r).or o := by
  cases r with
  | error e => rfl
  | ok a => exact (h a rfl).trans Option.none_or.symm

theorem findSome?_cons_eq_or (f : α → Option ε) (a : α) (l : List α) :
    (a :: l).findSome? f = (f a).or (l.findSome? f) := by
  rw [List.findSome?_cons]
  cases f a <;> rfl

/-- Work on a list fails at the first element on which it fails. -/
theorem failure?_mapM (l : List α) (f : α → Except ε β) :
    failure? (l.mapM f) = l.findSome? fun a => failure? (f a) := by
  induction l with
  | nil => rfl
  | cons a l ih =>
      have hrest : ∀ b, f a = .ok b →
          failure? (l.mapM f >>= fun bs => pure (b :: bs)) = failure? (l.mapM f) := by
        intro b _
        rw [failure?_bind (o := none) fun bs _ => rfl, Option.or_none]
      rw [List.mapM_cons, failure?_bind hrest, ih, findSome?_cons_eq_or]

end TextBoundary
