import Mathlib

/-!
The handles that a system gives to a program, counted in the order in which they are given.

* `Handles` are the handles that were given so far, those that are held, and those that were given
  back; `acquire` takes a new one and `release` gives one back, whether it is held or not;
* `Handles.Ok` says that every handle that was given is either held or was given back, and no
  handle twice; `Ok.acquire` and `Ok.release` are its rules, the second one for a handle that is
  held.
-/

/-- The number of handles that were given, those that are held, and those that were given back. -/
structure Handles where
  opened : ℕ := 0
  live : List ℕ := []
  closed : List ℕ := []
  deriving DecidableEq, Repr

namespace Handles

/-- A new handle, the number of which is `opened`. -/
def acquire (h : Handles) : Handles :=
  { h with opened := h.opened + 1, live := h.opened :: h.live }

/-- A handle is given back. -/
def release (h : Handles) (fd : ℕ) : Handles :=
  { h with live := h.live.erase fd, closed := fd :: h.closed }

/-- Every handle that was given is either held or was given back, and none twice. -/
def Ok (h : Handles) : Prop := (h.closed ++ h.live).Perm (List.range h.opened)

variable {h : Handles} {fd : ℕ}

@[simp] lemma acquire_opened (h : Handles) : h.acquire.opened = h.opened + 1 := rfl

@[simp] lemma release_opened (h : Handles) (fd : ℕ) : (h.release fd).opened = h.opened := rfl

@[simp] lemma mem_acquire (h : Handles) : h.opened ∈ h.acquire.live := List.mem_cons_self

@[simp] lemma acquire_length (h : Handles) : h.acquire.live.length = h.live.length + 1 := rfl

lemma release_length (hfd : fd ∈ h.live) : (h.release fd).live.length + 1 = h.live.length := by
  rw [release, List.length_erase_of_mem hfd]
  have hpos := List.length_pos_of_mem hfd
  omega

/-- A handle that is given back at once leaves the others as they were. -/
@[simp] lemma acquire_release (h : Handles) : (h.acquire.release h.opened).live = h.live :=
  List.erase_cons_head h.opened h.live

lemma ok_empty : Ok {} := List.Perm.nil

lemma Ok.acquire (hok : h.Ok) : h.acquire.Ok := by
  have hperm : (h.closed ++ h.opened :: h.live).Perm (h.opened :: (h.closed ++ h.live)) :=
    List.perm_middle
  have hsnoc : (h.opened :: List.range h.opened).Perm (List.range (h.opened + 1)) := by
    rw [List.range_succ]
    exact (List.perm_append_singleton h.opened (List.range h.opened)).symm
  exact hperm.trans ((hok.cons h.opened).trans hsnoc)

lemma Ok.release (hok : h.Ok) (hfd : fd ∈ h.live) : (h.release fd).Ok := by
  have hback : (fd :: (h.closed ++ h.live.erase fd)).Perm (h.closed ++ fd :: h.live.erase fd) :=
    List.perm_middle.symm
  have hlive : (fd :: h.live.erase fd).Perm h.live := (List.perm_cons_erase hfd).symm
  exact hback.trans ((hlive.append_left h.closed).trans hok)

end Handles
