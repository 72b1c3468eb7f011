import TextBoundary.Text.Basic

/-!
# Scanning over runs

Boundary rules look past runs of codepoints: marks attached to a letter,
indicators that pair up into flags, the links of a conjunct.  A scan reads
codepoint after codepoint in one direction, skips those that belong to the
run, and reports both the run and the step that ended it.

How far a scan may look is its reach, the number of codepoints it may read.
A scan whose reach is used up ends as it does at the end of the text, with
nothing found.  `scan_eq` describes a scan by the list of all steps, cut to
the reach.
-/

namespace TextBoundary

/-- The number of codepoints a scan may read; `none` when there is no bound. -/
abbrev Reach := Option Nat

/-- The part of a list that lies within reach. -/
def Reach.cut {α : Type} (reach : Reach) (l : List α) : List α :=
  match reach with
  | none => l
  | some n => l.take n

/-- A bound on the length of the runs an evaluator follows; `none` when every
run is followed to its end. -/
abbrev RunLimit := Option Nat

/-- The reach of a scan that looks for context: as many codepoints as the limit
says, but at least the neighbour. -/
def RunLimit.contextReach (limit : RunLimit) : Reach :=
  limit.map (max 1)

/-- The reach of a scan that looks for what a run is attached to: a run of
permitted length, and one codepoint more. -/
def RunLimit.baseReach (limit : RunLimit) : Reach :=
  limit.map (· + 1)

/-- What a scan reads: the run it skips, nearest codepoint first, and the step
that ends the run. -/
structure Scan where
  run : List Codepoint
  found : Option Text.Step
deriving DecidableEq

/-- The scan of a list of steps. -/
def Scan.ofSteps (skip : Codepoint → Bool) (steps : List Text.Step) : Scan where
  run := (steps.takeWhile fun s => skip s.codepoint).map Text.Step.codepoint
  found := (steps.dropWhile fun s => skip s.codepoint).head?

namespace Text

/-- Skips the run of codepoints that satisfy `skip`, starting at a position. -/
def scan (t : Text) (d : Direction) (skip : Codepoint → Bool) (reach : Reach)
    (pos : Nat) : Scan :=
  if reach = some 0 then ⟨[], none⟩
  else
    match _h : t.step? d pos with
    | none => ⟨[], none⟩
    | some s =>
        if skip s.codepoint then
          let rest := t.scan d skip (reach.map (· - 1)) s.pos
          ⟨s.codepoint :: rest.run, rest.found⟩
        else ⟨[], some s⟩
termination_by t.distance d pos
decreasing_by exact distance_lt_of_step? _h

/-- A scan reads the steps within its reach. -/
theorem scan_eq (t : Text) (d : Direction) (skip : Codepoint → Bool)
    (reach : Reach) (pos : Nat) :
    t.scan d skip reach pos = Scan.ofSteps skip (reach.cut (t.steps d pos)) := by
  fun_induction scan t d skip reach pos with
  | case1 pos => simp [Scan.ofSteps, Reach.cut]
  | case2 reach pos hreach h =>
      cases reach <;> simp [steps_of_step?_eq_none h, Scan.ofSteps, Reach.cut]
  | case3 reach pos hreach s h hskip rest ih =>
      cases reach with
      | none =>
          simp [rest, ih, steps_of_step?_eq_some h, Scan.ofSteps, Reach.cut, hskip]
      | some n =>
          cases n with
          | zero => simp at hreach
          | succ n =>
              simp [rest, ih, steps_of_step?_eq_some h, Scan.ofSteps, Reach.cut,
                hskip]
  | case4 reach pos hreach s h hskip =>
      cases reach with
      | none => simp [steps_of_step?_eq_some h, Scan.ofSteps, Reach.cut, hskip]
      | some n =>
          cases n with
          | zero => simp at hreach
          | succ n =>
              simp [steps_of_step?_eq_some h, Scan.ofSteps, Reach.cut, hskip]

end Text
end TextBoundary
