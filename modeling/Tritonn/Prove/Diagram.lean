import Tritonn.Prove.Machine

/-!
The diagram of the prover: which states may follow each other, without the conditions under which
they do.

* `edges` lists the states and directions in which the handler of a state may leave it;
* `pass` is the way of the ball through the states in one direction, `passes` what is ahead of a
  proving run at its beginning, and `remaining` what is ahead of it in each state;
* `remaining_eq` says that an edge of a proving run takes off what is entered, and nothing else.
-/

namespace Tritonn

namespace ProveState

/-- The states of a proving run, from the accepted command on and up to its end. -/
def isUnderWay : ProveState → Bool
  | .start | .stabilization | .runball | .valvetoup | .waittoup | .valvetodown | .waitd1 | .waitd2
  | .calculate | .returnball | .waitd2Reverse | .waitd1Reverse | .waycomplited => true
  | _ => false

/-- The states whose handler starts the timer. -/
def usesTimer : ProveState → Bool
  | .start | .stabilization | .runball | .waittoup | .valvetodown | .waitd1 | .waitd2 | .calculate
  | .returnball | .waitd2Reverse | .waitd1Reverse | .abort => true
  | _ => false

/-- The error states. -/
def isError : ProveState → Bool
  | .errorflow | .errorstab | .errortoup | .errortodown | .errord1 | .errord2 | .errordetector
  | .errorreturn | .errorstreamid | .errord2Reverse | .errord1Reverse => true
  | _ => false

/-- The wait for the first detector in a pass. -/
def waitD1 : Way → ProveState
  | .forward => .waitd1
  | .reverse => .waitd1Reverse

/-- The wait for the second detector in a pass. -/
def waitD2 : Way → ProveState
  | .forward => .waitd2
  | .reverse => .waitd2Reverse

/-- The first detector of a pass was not reached in time. -/
def errorD1 : Way → ProveState
  | .forward => .errord1
  | .reverse => .errord2Reverse

/-- The second detector of a pass was not reached in time. -/
def errorD2 : Way → ProveState
  | .forward => .errord2
  | .reverse => .errord1Reverse

/-- The diagram of the machine; the abort command leads from most states to `IDLE`. -/
def edges (valve4way : Bool) : ProveState → Way → List (ProveState × Way)
  | .idle, w => [(.idle, w), (.start, w)]
  | .finish, w => [(.finish, w), (.start, w)]
  | .start, w =>
      [(.idle, w), (.start, w), (.start, .forward), (.errorstreamid, w), (.errorflow, w),
        (.stabilization, w), (.runball, w)]
  | .stabilization, w => [(.idle, w), (.stabilization, w), (.runball, w), (.errorstab, w)]
  | .runball, w => [(.idle, w), (.runball, w), (.valvetoup, w), (waitD1 w, w)]
  | .valvetoup, w => [(.idle, w), (.valvetodown, w), (.waittoup, w)]
  | .waittoup, w => [(.idle, w), (.waittoup, w), (.valvetodown, w), (.errortoup, w)]
  | .valvetodown, w => [(.idle, w), (.valvetodown, w), (waitD1 w, w), (.errortodown, w)]
  | .waitd1, w =>
      [(.idle, w), (.waitd1, w), (waitD2 w, w), (errorD1 w, w), (.errordetector, w)]
  | .waitd1Reverse, w =>
      [(.idle, w), (.waitd1Reverse, w), (waitD2 w, w), (errorD1 w, w), (.errordetector, w)]
  | .waitd2, w =>
      [(.idle, w), (.waitd2, w), (.calculate, w), (errorD2 w, w), (.errordetector, w)]
  | .waitd2Reverse, w =>
      [(.idle, w), (.waitd2Reverse, w), (.calculate, w), (errorD2 w, w), (.errordetector, w)]
  | .calculate, w => [(.idle, w), (.calculate, w), (.returnball, w)]
  | .returnball, w => [(.idle, w), (.returnball, w), (.waycomplited, w), (.errorreturn, w)]
  | .waycomplited, .forward =>
      if valve4way then [(.runball, .reverse)] else [(.finish, .forward)]
  | .waycomplited, .reverse => [(.finish, .reverse)]
  | s, w => [(.idle, w), (s, w)]

/-- The way of the ball through the states, in one direction. -/
def pass (w : Way) : List (ProveState × Way) :=
  [.runball, waitD1 w, waitD2 w, .calculate, .returnball, .waycomplited].map (·, w)

/-- The passes that are ahead of a run which goes in a direction. -/
def passes (valve4way : Bool) : Way → List (ProveState × Way)
  | .forward => pass .forward ++ if valve4way then pass .reverse else []
  | .reverse => pass .reverse

/-- The part of the passes that is still ahead in a state. -/
def remaining (valve4way : Bool) : ProveState → Way → List (ProveState × Way)
  | .start, w | .stabilization, w => passes valve4way w
  | .runball, w | .valvetoup, w | .waittoup, w | .valvetodown, w => (passes valve4way w).drop 1
  | .waitd1, w | .waitd1Reverse, w => (passes valve4way w).drop 2
  | .waitd2, w | .waitd2Reverse, w => (passes valve4way w).drop 3
  | .calculate, w => (passes valve4way w).drop 4
  | .returnball, w => (passes valve4way w).drop 5
  | .waycomplited, w => (passes valve4way w).drop 6
  | _, _ => []

/-- The states that belong to a pass. -/
def inPass (s : ProveState) : Bool := (pass .forward ++ pass .reverse).any fun e => e.1 = s

/-- What a step from the state `s` to another one enters of the passes. -/
def entered (s s' : ProveState) (w' : Way) : List (ProveState × Way) :=
  if s' ≠ s ∧ s'.inPass = true then [(s', w')] else []

/-- The abort command leads to `IDLE` from the states whose handler looks at it. -/
lemma idle_mem_edges {valve4way : Bool} {s : ProveState} {w : Way} (hf : s ≠ .finish)
    (hw : s ≠ .waycomplited) : (.idle, w) ∈ edges valve4way s w := by
  cases s <;> simp [edges] at hf hw ⊢

/-- From an error there is only the way back to `IDLE`. -/
lemma edges_of_isError {s : ProveState} (valve4way : Bool) (w : Way) (h : s.isError = true) :
    edges valve4way s w = [(.idle, w), (s, w)] := by
  cases s <;> first | rfl | cases h

lemma usesTimer_of_isError {s : ProveState} (h : s.isError = true) : s.usesTimer = false := by
  cases s <;> first | rfl | cases h

/-- The direction changes in `START` and at the end of a pass only. -/
lemma way_of_mem_edges {valve4way : Bool} {s s' : ProveState} {w w' : Way}
    (h : (s', w') ∈ edges valve4way s w) (hs : s ≠ .start) (hw : s ≠ .waycomplited) : w' = w := by
  have key : ∀ valve4way, ∀ e ∈ edges valve4way s w, e.2 = w := by
    cases w <;> cases s <;> first | contradiction | decide
  exact key _ _ h

/-- A proving run does not come back to `START`. -/
lemma ne_start_of_mem_edges {valve4way : Bool} {s s' : ProveState} {w w' : Way}
    (h : (s', w') ∈ edges valve4way s w) (hs : s.isUnderWay = true) (hne : s ≠ .start) :
    s' ≠ .start := by
  have key : ∀ valve4way, ∀ e ∈ edges valve4way s w, e.1 ≠ .start := by
    cases w <;> cases s <;> first | contradiction | decide
  exact key _ _ h

/-- An edge of a proving run takes off what it enters, as long as the direction is not set anew in
`START`. -/
theorem remaining_eq {valve4way : Bool} {s s' : ProveState} {w w' : Way}
    (h : (s', w') ∈ edges valve4way s w) (hs : s.isUnderWay = true)
    (hs' : s'.isUnderWay = true ∨ s' = .finish) (hw : s = .start → w' = w) :
    remaining valve4way s w = entered s s' w' ++ remaining valve4way s' w' := by
  have key : ∀ valve4way, ∀ e ∈ edges valve4way s w,
      e.1.isUnderWay = true ∨ e.1 = .finish → (s = .start → e.2 = w) →
      remaining valve4way s w = entered s e.1 e.2 ++ remaining valve4way e.1 e.2 := by
    cases w <;> cases s <;> first | cases hs; done | decide
  exact key _ _ h hs' hw

end ProveState

end Tritonn
