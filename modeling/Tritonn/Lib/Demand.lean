import Mathlib

/-!
Evaluation on demand: objects that compute themselves once in a scan and, while they do, ask others
for what those have computed.

* `Body` is what an object does: it changes its own state, reads another object, or halts the scan;
* `World` is the state of a scan, with a mark on each object that has begun and a record of what was
  read; `System.calculate` computes an object that has no mark, and `System.scan` a list of them;
* `scan_asked`: a scan of any system reads only what the bodies ask for;
* `scan_grows`: a scan of any system ends and begins no object twice;
* for an acyclic system, `System.value` is what the objects compute, `scan_spec` describes the state
  after a scan by it, `scan_cell` says that each object has run its body on the answers that the
  others give in the end, and `scan_order` that the order of the list makes no difference.

An object that is read may be changed by that (`System.access`), in a way that no reader sees and
that does not depend on the order of the readers.
-/

namespace Demand

/-- What an object does when it is computed: end, change its own state and go on by what it is then,
read another one with a request and go on by the answer, or halt the scan and go on. -/
inductive Body (ι σ τ ω : Type*) where
  | done
  | own (f : σ → σ) (next : σ → Body ι σ τ ω)
  | read (u : ι) (t : τ) (next : ω → Body ι σ τ ω)
  | halt (next : Body ι σ τ ω)

/-- A read: who asked whom for what, and the answer. -/
structure Entry (ι τ ω : Type*) where
  reader : ι
  source : ι
  request : τ
  answer : ω

/-- The state of a scan: the objects, the marks, whether the scan goes on, the objects that have
begun, and what was read. -/
structure World (ι σ τ ω : Type*) where
  cell : ι → σ
  isCalc : ι → Bool
  running : Bool
  started : List ι
  log : List (Entry ι τ ω)

/-- Objects with their bodies, what each answers, and what a read does to it. -/
structure System (ι σ τ ω : Type*) where
  body : ι → Body ι σ τ ω
  answer : ι → τ → σ → ω
  access : ι → τ → σ → σ
  answer_access : ∀ u t t' s, answer u t (access u t' s) = answer u t s
  access_comm : ∀ u t t' s, access u t (access u t' s) = access u t' (access u t s)

variable {ι σ τ ω : Type*}

/-! ### Bodies by themselves -/

namespace Body

/-- The body may read the object. -/
def Reads (u : ι) : Body ι σ τ ω → Prop
  | done => False
  | own _ next => ∃ s, (next s).Reads u
  | read u' _ next => u' = u ∨ ∃ o, (next o).Reads u
  | halt next => next.Reads u

/-- The body may ask the object for the request. -/
def Asks (u : ι) (t : τ) : Body ι σ τ ω → Prop
  | done => False
  | own _ next => ∃ s, (next s).Asks u t
  | read u' t' next => (u' = u ∧ t' = t) ∨ ∃ o, (next o).Asks u t
  | halt next => next.Asks u t

variable (a : ι → τ → ω)

/-- The state of the object in the end, if the others give the answers `a`. -/
def result : Body ι σ τ ω → σ → σ
  | done, s => s
  | own f next, s => (next (f s)).result (f s)
  | read u t next, s => (next (a u t)).result s
  | halt next, s => next.result s

/-- What the body reads. -/
def demands : Body ι σ τ ω → σ → List (ι × τ)
  | done, _ => []
  | own f next, s => (next (f s)).demands (f s)
  | read u t next, s => (u, t) :: (next (a u t)).demands s
  | halt next, s => next.demands s

/-- The body halts the scan. -/
def halts : Body ι σ τ ω → σ → Bool
  | done, _ => false
  | own f next, s => (next (f s)).halts (f s)
  | read u t next, s => (next (a u t)).halts s
  | halt _, _ => true

/-- Only the answers of objects that the body may read matter. -/
lemma result_congr {a b : ι → τ → ω} (p : Body ι σ τ ω)
    (h : ∀ u, p.Reads u → ∀ t, a u t = b u t) (s : σ) : p.result a s = p.result b s := by
  induction p generalizing s with
  | done => rfl
  | own f next ih => exact ih (f s) (fun u hu => h u ⟨f s, hu⟩) (f s)
  | read u t next ih =>
      rw [result, result, h u (.inl rfl) t]
      exact ih (b u t) (fun v hv => h v (.inr ⟨_, hv⟩)) s
  | halt next ih => exact ih h s

end Body

/-! ### Worlds -/

namespace World

/-- `w'` comes from `w` by beginning the objects of a list, none of which had begun. -/
structure Grows (w w' : World ι σ τ ω) (l : List ι) : Prop where
  started : w'.started = w.started ++ l
  nodup : l.Nodup
  fresh : ∀ v ∈ l, w.isCalc v = false
  isCalc : ∀ v, w'.isCalc v = true ↔ w.isCalc v = true ∨ v ∈ l

variable {w w' w'' : World ι σ τ ω}

lemma Grows.refl : Grows w w [] :=
  ⟨(List.append_nil _).symm, List.nodup_nil, fun _ h => absurd h List.not_mem_nil, by simp⟩

lemma Grows.trans {l l' : List ι} (h : Grows w w' l) (h' : Grows w' w'' l') :
    Grows w w'' (l ++ l') where
  started := by rw [h'.started, h.started, List.append_assoc]
  nodup := List.nodup_append.mpr ⟨h.nodup, h'.nodup, fun v hv u hu hvu => by
    have := h'.fresh u hu
    rw [← hvu, (h.isCalc v).mpr (.inr hv)] at this
    exact absurd this nofun⟩
  fresh v hv := by
    rcases List.mem_append.mp hv with hv | hv
    · exact h.fresh v hv
    · by_contra hc
      have := (h.isCalc v).mpr (.inl (Bool.eq_true_of_not_eq_false hc))
      rw [h'.fresh v hv] at this
      exact absurd this nofun
  isCalc v := by rw [h'.isCalc, h.isCalc, List.mem_append, or_assoc]

/-- What has begun has begun. -/
lemma Grows.marks {l : List ι} (h : Grows w w' l) {v : ι} (hv : w.isCalc v = true) :
    w'.isCalc v = true := (h.isCalc v).mpr (.inl hv)

/-- A change that neither marks nor begins anything. -/
lemma Grows.of_eq (hs : w'.started = w.started) (hc : w'.isCalc = w.isCalc) : Grows w w' [] where
  started := by rw [hs, List.append_nil]
  nodup := List.nodup_nil
  fresh _ h := absurd h List.not_mem_nil
  isCalc v := by simp [hc]

/-- The state in which a scan begins. -/
def start (cell₀ : ι → σ) : World ι σ τ ω := ⟨cell₀, fun _ => false, true, [], []⟩

variable [DecidableEq ι] (w : World ι σ τ ω)

/-- The state of an object is changed. -/
def set (v : ι) (s : σ) : World ι σ τ ω := { w with cell := Function.update w.cell v s }

@[simp] lemma set_cell_self (v : ι) (s : σ) : (w.set v s).cell v = s := by simp [set]

lemma set_cell_of_ne {v u : ι} (h : u ≠ v) (s : σ) : (w.set v s).cell u = w.cell u := by
  simp [set, h]

/-- An object begins. -/
def mark (v : ι) : World ι σ τ ω :=
  { w with isCalc := Function.update w.isCalc v true, started := w.started ++ [v] }

@[simp] lemma mark_isCalc_self (v : ι) : (w.mark v).isCalc v = true := by simp [mark]

lemma mark_isCalc_of_ne {v u : ι} (h : u ≠ v) : (w.mark v).isCalc u = w.isCalc u := by
  simp [mark, h]

/-- What an object was asked for. -/
def requests (u : ι) : List τ := (w.log.filter fun e => e.source = u).map Entry.request

variable {w}

lemma grows_mark {v : ι} (h : w.isCalc v = false) : Grows w (w.mark v) [v] where
  started := rfl
  nodup := List.nodup_singleton v
  fresh u hu := List.mem_singleton.mp hu ▸ h
  isCalc u := by
    by_cases hu : u = v
    · simp [hu]
    · simp [mark_isCalc_of_ne w hu, hu]

end World

/-! ### The evaluation -/

namespace System

variable [DecidableEq ι] (S : System ι σ τ ω)

/-- An object has been read: the read may change it, and is recorded. -/
def look (v u : ι) (t : τ) (w : World ι σ τ ω) : World ι σ τ ω :=
  { w.set u (S.access u t (w.cell u)) with log := w.log ++ [⟨v, u, t, S.answer u t (w.cell u)⟩] }

/-- A body of the object `v` is run; an object that is read is computed first. -/
def runBody (call : ι → World ι σ τ ω → Option (World ι σ τ ω)) (v : ι) :
    Body ι σ τ ω → World ι σ τ ω → Option (World ι σ τ ω)
  | .done, w => some w
  | .own f next, w => runBody call v (next (f (w.cell v))) (w.set v (f (w.cell v)))
  | .read u t next, w => (call u w).bind fun w' =>
      runBody call v (next (S.answer u t (w'.cell u))) (S.look v u t w')
  | .halt next, w => runBody call v next { w with running := false }

/-- An object is computed, unless it has begun. The number bounds the depth of the calls. -/
def calculate : ℕ → ι → World ι σ τ ω → Option (World ι σ τ ω)
  | 0, _, _ => none
  | n + 1, v, w =>
      if w.isCalc v then some w
      else S.runBody (calculate n) v (S.body v) (w.mark v)

/-- The objects of a list are computed, until the scan is halted. -/
def scan (n : ℕ) : List ι → World ι σ τ ω → Option (World ι σ τ ω)
  | [], w => some w
  | v :: l, w => if w.running then (S.calculate n v w).bind (scan n l) else some w

/-! ### What is asked -/

/-- Every read of the record is one that its reader may make. -/
def Asked (w : World ι σ τ ω) : Prop := ∀ e ∈ w.log, (S.body e.reader).Asks e.source e.request

variable {S} in
lemma runBody_asked {call : ι → World ι σ τ ω → Option (World ι σ τ ω)}
    (hcall : ∀ u w w', call u w = some w' → S.Asked w → S.Asked w') {v : ι}
    (p : Body ι σ τ ω) (hp : ∀ u t, p.Asks u t → (S.body v).Asks u t) {w w' : World ι σ τ ω}
    (h : S.runBody call v p w = some w') (hw : S.Asked w) : S.Asked w' := by
  induction p generalizing w with
  | done =>
      cases h
      exact hw
  | own f next ih => exact ih _ (fun u t ht => hp u t ⟨_, ht⟩) h hw
  | read u t next ih =>
      obtain ⟨w₁, h₁, h⟩ := Option.bind_eq_some_iff.mp h
      refine ih _ (fun u' t' ht => hp u' t' (.inr ⟨_, ht⟩)) h fun e he => ?_
      rcases List.mem_append.mp he with he | he
      · exact hcall u w w₁ h₁ hw e he
      · rw [List.mem_singleton.mp he]
        exact hp u t (.inl ⟨rfl, rfl⟩)
  | halt next ih => exact ih hp h hw

lemma calculate_asked (n : ℕ) (v : ι) {w w' : World ι σ τ ω} (h : S.calculate n v w = some w')
    (hw : S.Asked w) : S.Asked w' := by
  induction n generalizing v w w' with
  | zero => cases h
  | succ n ih =>
      rw [calculate] at h
      split_ifs at h with hc
      · cases h
        exact hw
      · exact runBody_asked (fun u w w' hu hw => ih u hu hw) _ (fun _ _ ht => ht) h hw

/-- So it is after a scan. -/
theorem scan_asked (n : ℕ) (l : List ι) {w w' : World ι σ τ ω} (h : S.scan n l w = some w')
    (hw : S.Asked w) : S.Asked w' := by
  induction l generalizing w with
  | nil =>
      cases h
      exact hw
  | cons v l ih =>
      rw [scan] at h
      split_ifs at h with hr
      · obtain ⟨w₁, h₁, h⟩ := Option.bind_eq_some_iff.mp h
        exact ih h (S.calculate_asked n v h₁ hw)
      · cases h
        exact hw

/-! ### The bound on the depth -/

variable {S} in
/-- A body that has run to its end does so whenever what it calls answers as before. -/
lemma runBody_mono {call call' : ι → World ι σ τ ω → Option (World ι σ τ ω)}
    (hcall : ∀ u w w', call u w = some w' → call' u w = some w') (v : ι) (p : Body ι σ τ ω)
    {w w' : World ι σ τ ω} (h : S.runBody call v p w = some w') :
    S.runBody call' v p w = some w' := by
  induction p generalizing w with
  | done => exact h
  | own f next ih => exact ih _ h
  | read u t next ih =>
      obtain ⟨w₁, hw₁, h⟩ := Option.bind_eq_some_iff.mp h
      rw [runBody, hcall u w w₁ hw₁]
      exact ih _ h
  | halt next ih => exact ih h

variable {S} in
/-- A higher bound changes nothing. -/
lemma calculate_mono {n m : ℕ} (hnm : n ≤ m) (v : ι) {w w' : World ι σ τ ω}
    (h : S.calculate n v w = some w') : S.calculate m v w = some w' := by
  induction n generalizing m v w w' with
  | zero => exact absurd h nofun
  | succ n ih =>
      obtain ⟨k, rfl⟩ : ∃ k, m = k + 1 := ⟨m - 1, by omega⟩
      rw [calculate] at h ⊢
      by_cases hv : w.isCalc v
      · rwa [if_pos hv] at h ⊢
      · rw [if_neg hv] at h ⊢
        exact runBody_mono (fun u w w' hw => ih (by omega) u hw) v _ h

variable {S} in
/-- Nor does it in a scan. -/
lemma scan_mono {n m : ℕ} (hnm : n ≤ m) (l : List ι) {w w' : World ι σ τ ω}
    (h : S.scan n l w = some w') : S.scan m l w = some w' := by
  induction l generalizing w with
  | nil => exact h
  | cons v l ih =>
      rw [scan] at h ⊢
      by_cases hr : w.running
      · rw [if_pos hr] at h ⊢
        obtain ⟨w₁, hw₁, h⟩ := Option.bind_eq_some_iff.mp h
        rw [calculate_mono hnm v hw₁]
        exact ih h
      · rwa [if_neg hr] at h ⊢

/-! ### Every scan ends -/

section Ends

variable [Fintype ι] {S} {w : World ι σ τ ω}

/-- The objects that have not begun. -/
def unmarked (w : World ι σ τ ω) : Finset ι := Finset.univ.filter fun v => w.isCalc v = false

omit [DecidableEq ι] in
/-- The more has begun, the less remains. -/
lemma unmarked_anti {w' : World ι σ τ ω} {l : List ι} (h : World.Grows w w' l) :
    unmarked w' ⊆ unmarked w := fun v hv => by
  rw [unmarked, Finset.mem_filter] at hv ⊢
  refine ⟨Finset.mem_univ v, ?_⟩
  by_contra hc
  have := (h.isCalc v).mpr (.inl (Bool.eq_true_of_not_eq_false hc))
  rw [hv.2] at this
  exact absurd this nofun

lemma card_unmarked_mark {v : ι} (h : w.isCalc v = false) :
    (unmarked (w.mark v)).card < (unmarked w).card := by
  refine Finset.card_lt_card ⟨unmarked_anti (World.grows_mark h), fun hle => ?_⟩
  have hv : v ∈ unmarked (w.mark v) := hle (by simp [unmarked, h])
  exact absurd (Finset.mem_filter.mp hv).2 (by simp)

/-- A body runs to its end when what it calls does. -/
lemma runBody_grows {call : ι → World ι σ τ ω → Option (World ι σ τ ω)} {m : ℕ}
    (hcall : ∀ u w, (unmarked w).card < m → ∃ w' l, call u w = some w' ∧ World.Grows w w' l)
    (v : ι) (p : Body ι σ τ ω) (hw : (unmarked w).card < m) :
    ∃ w' l, S.runBody call v p w = some w' ∧ World.Grows w w' l := by
  induction p generalizing w with
  | done => exact ⟨w, [], rfl, .refl⟩
  | own f next ih =>
      have hset : World.Grows w (w.set v (f (w.cell v))) [] := .of_eq rfl rfl
      obtain ⟨w', l, hw', hl⟩ := ih _ ((Finset.card_le_card (unmarked_anti hset)).trans_lt hw)
      exact ⟨w', l, hw', hset.trans hl⟩
  | read u t next ih =>
      obtain ⟨w₁, l₁, hw₁, hl₁⟩ := hcall u w hw
      have hlook : World.Grows w (S.look v u t w₁) l₁ := by
        have h := hl₁.trans (World.Grows.of_eq rfl rfl : World.Grows w₁ (S.look v u t w₁) [])
        rwa [List.append_nil] at h
      obtain ⟨w', l, hw', hl⟩ := ih _ ((Finset.card_le_card (unmarked_anti hlook)).trans_lt hw)
      exact ⟨w', l₁ ++ l, by rw [runBody, hw₁]; exact hw', hlook.trans hl⟩
  | halt next ih =>
      have hset : World.Grows w { w with running := false } [] := .of_eq rfl rfl
      obtain ⟨w', l, hw', hl⟩ := ih ((Finset.card_le_card (unmarked_anti hset)).trans_lt hw)
      exact ⟨w', l, hw', hset.trans hl⟩

/-- With more calls than there are objects left, an object is computed. -/
lemma calculate_grows (n : ℕ) (v : ι) (hn : (unmarked w).card < n) :
    ∃ w' l, S.calculate n v w = some w' ∧ World.Grows w w' l := by
  induction n generalizing v w with
  | zero => exact absurd hn (Nat.not_lt_zero _)
  | succ n ih =>
      by_cases hv : w.isCalc v
      · exact ⟨w, [], if_pos hv, .refl⟩
      · have hfresh : w.isCalc v = false := Bool.eq_false_of_not_eq_true hv
        have hlt := card_unmarked_mark hfresh
        obtain ⟨w', l, hw', hl⟩ :=
          runBody_grows (S := S) (w := w.mark v) (fun u w hw => ih u hw) v (S.body v) (by omega)
        exact ⟨w', [v] ++ l, (if_neg hv).trans hw', (World.grows_mark hfresh).trans hl⟩

/-- A scan ends, and begins no object twice. -/
theorem scan_grows (n : ℕ) (l : List ι) (hn : (unmarked w).card < n) :
    ∃ w' new, S.scan n l w = some w' ∧ World.Grows w w' new := by
  induction l generalizing w with
  | nil => exact ⟨w, [], rfl, .refl⟩
  | cons v l ih =>
      by_cases hr : w.running
      · obtain ⟨w₁, l₁, hw₁, hl₁⟩ := calculate_grows (S := S) n v hn
        obtain ⟨w', new, hw', hnew⟩ := ih ((Finset.card_le_card (unmarked_anti hl₁)).trans_lt hn)
        refine ⟨w', l₁ ++ new, ?_, hl₁.trans hnew⟩
        rw [scan, if_pos hr, hw₁]
        exact hw'
      · exact ⟨w, [], if_neg hr, .refl⟩

end Ends

/-! ### Acyclic systems -/

section Acyclic

variable {S} (hS : WellFounded fun u v => (S.body v).Reads u) (cell₀ : ι → σ)

open Classical in
/-- What the objects compute from the states `cell₀`, each from what those that it reads compute. -/
noncomputable def value : ι → σ :=
  hS.fix fun v rec => (S.body v).result
    (fun u t => if h : (S.body v).Reads u then S.answer u t (rec u h) else S.answer u t (cell₀ u))
    (cell₀ v)

/-- What they answer then. -/
noncomputable def valueAnswer (u : ι) (t : τ) : ω := S.answer u t (value hS cell₀ u)

omit [DecidableEq ι] in
lemma value_eq (v : ι) :
    value hS cell₀ v = (S.body v).result (valueAnswer hS cell₀) (cell₀ v) := by
  rw [value, hS.fix_eq]
  refine (S.body v).result_congr (fun u hu t => ?_) (cell₀ v)
  rw [dif_pos hu]
  rfl

/-- What an object asks for and is answered. -/
noncomputable def entries (v : ι) : List (Entry ι τ ω) :=
  ((S.body v).demands (valueAnswer hS cell₀) (cell₀ v)).map
    fun d => ⟨v, d.1, d.2, valueAnswer hS cell₀ d.1 d.2⟩

/-- An object halts the scan. -/
noncomputable def objectHalts (v : ι) : Bool := (S.body v).halts (valueAnswer hS cell₀) (cell₀ v)

/-- A state after reads. -/
def accessed (S : System ι σ τ ω) (u : ι) (ts : List τ) (s : σ) : σ :=
  ts.foldl (fun s t => S.access u t s) s

omit [DecidableEq ι] in
@[simp] lemma answer_accessed (u : ι) (t : τ) (ts : List τ) (s : σ) :
    S.answer u t (S.accessed u ts s) = S.answer u t s := by
  induction ts generalizing s with
  | nil => rfl
  | cons t' ts ih => exact (ih _).trans (S.answer_access u t t' s)

omit [DecidableEq ι] in
lemma accessed_perm (u : ι) {ts ts' : List τ} (h : ts.Perm ts') (s : σ) :
    S.accessed u ts s = S.accessed u ts' s :=
  h.foldl_eq' (fun t _ t' _ s => S.access_comm u t' t s) s

/-- Outside of the objects in `active`, those that have begun have computed what they are to, and
those that have not are as before. -/
structure Good (active : Set ι) (w : World ι σ τ ω) : Prop where
  computed : ∀ u ∉ active, w.isCalc u = true →
    w.cell u = S.accessed u (w.requests u) (value hS cell₀ u)
  untouched : ∀ u, w.isCalc u = false → w.cell u = cell₀ u ∧ w.requests u = []
  answers : ∀ e ∈ w.log, e.answer = valueAnswer hS cell₀ e.source e.request

/-- `w'` comes from `w` by computing the objects `new`, with the reads `mine` besides; the objects
in `active` keep their states. -/
structure Progress (active : Set ι) (w w' : World ι σ τ ω) (new : List ι)
    (mine : List (Entry ι τ ω)) (ok : Bool) : Prop extends World.Grows w w' new where
  log : (w'.log : Multiset (Entry ι τ ω)) = w.log + (new.flatMap (entries hS cell₀) + mine)
  running : w'.running = (w.running && (new.all (fun u => !objectHalts hS cell₀ u) && ok))
  kept : ∀ a ∈ active, w'.cell a = w.cell a ∧ w'.requests a = w.requests a

variable {hS cell₀} {active : Set ι} {w w' w'' : World ι σ τ ω}

lemma Progress.refl : Progress hS cell₀ active w w [] [] true :=
  ⟨.refl, by simp, by simp, fun _ _ => ⟨rfl, rfl⟩⟩

lemma Progress.trans {new new' : List ι} {mine mine' : List (Entry ι τ ω)} {ok ok' : Bool}
    (h : Progress hS cell₀ active w w' new mine ok)
    (h' : Progress hS cell₀ active w' w'' new' mine' ok') :
    Progress hS cell₀ active w w'' (new ++ new') (mine ++ mine') (ok && ok') where
  toGrows := h.toGrows.trans h'.toGrows
  log := by
    rw [h'.log, h.log, List.flatMap_append, ← Multiset.coe_add, ← Multiset.coe_add]
    abel
  running := by
    rw [h'.running, h.running, List.all_append]
    cases w.running <;> cases ok <;> simp [Bool.and_assoc]
  kept a ha := ⟨(h'.kept a ha).1.trans (h.kept a ha).1, (h'.kept a ha).2.trans (h.kept a ha).2⟩

lemma Progress.anti {active' : Set ι} (hsub : active ⊆ active') {new : List ι}
    {mine : List (Entry ι τ ω)} {ok : Bool} (h : Progress hS cell₀ active' w w' new mine ok) :
    Progress hS cell₀ active w w' new mine ok :=
  { h with kept := fun a ha => h.kept a (hsub ha) }

/-- A body changes the state of its own object. -/
lemma good_set {v : ι} (hv : w.isCalc v = true) (hw : Good hS cell₀ (insert v active) w) (s : σ) :
    Good hS cell₀ (insert v active) (w.set v s) where
  computed u hu hc := by
    have hne : u ≠ v := fun h => hu (.inl h)
    rw [World.set_cell_of_ne w hne]
    exact hw.computed u hu hc
  untouched u hu := by
    have hne : u ≠ v := by
      rintro rfl
      exact absurd (hv.symm.trans hu) nofun
    rw [World.set_cell_of_ne w hne]
    exact hw.untouched u hu
  answers := hw.answers

lemma progress_set {v : ι} (hv : v ∉ active) (s : σ) :
    Progress hS cell₀ active w (w.set v s) [] [] true :=
  { (Progress.refl : Progress hS cell₀ active w w [] [] true) with
    kept := fun a ha => ⟨World.set_cell_of_ne w (fun h : a = v => hv (h ▸ ha)) s, rfl⟩ }

lemma look_cell_self (v u : ι) (t : τ) :
    (S.look v u t w).cell u = S.access u t (w.cell u) := w.set_cell_self u _

lemma look_cell_of_ne (v : ι) {u a : ι} (h : a ≠ u) (t : τ) :
    (S.look v u t w).cell a = w.cell a := w.set_cell_of_ne h _

lemma requests_look_self (v u : ι) (t : τ) :
    (S.look v u t w).requests u = w.requests u ++ [t] := by
  simp [look, World.set, World.requests]

lemma requests_look_of_ne (v : ι) {u a : ι} (h : a ≠ u) (t : τ) :
    (S.look v u t w).requests a = w.requests a := by
  simp [look, World.set, World.requests, h.symm]

/-- An object that has computed itself is read. -/
lemma good_look {v u : ι} (t : τ) (hu : w.isCalc u = true) (hua : u ∉ active)
    (hw : Good hS cell₀ active w) : Good hS cell₀ active (S.look v u t w) where
  computed a ha hc := by
    by_cases hau : a = u
    · subst hau
      rw [requests_look_self, look_cell_self, hw.computed a ha hu, accessed, accessed,
        List.foldl_append]
      rfl
    · rw [requests_look_of_ne v hau, look_cell_of_ne v hau]
      exact hw.computed a ha hc
  untouched a ha := by
    have hne : a ≠ u := by
      rintro rfl
      exact absurd (hu.symm.trans ha) nofun
    rw [requests_look_of_ne v hne, look_cell_of_ne v hne]
    exact hw.untouched a ha
  answers e he := by
    rcases List.mem_append.mp he with he | he
    · exact hw.answers e he
    · obtain rfl := List.mem_singleton.mp he
      rw [hw.computed u hua hu, answer_accessed]
      rfl

lemma answer_of_good {u : ι} (hw : Good hS cell₀ active w) (hu : w.isCalc u = true)
    (hua : u ∉ active) (t : τ) : S.answer u t (w.cell u) = valueAnswer hS cell₀ u t := by
  rw [hw.computed u hua hu, answer_accessed, valueAnswer]

lemma progress_look {v u : ι} (hw : Good hS cell₀ active w) (hu : w.isCalc u = true)
    (hua : u ∉ active) (t : τ) :
    Progress hS cell₀ active w (S.look v u t w) [] [⟨v, u, t, valueAnswer hS cell₀ u t⟩] true where
  toGrows := .of_eq rfl rfl
  log := by
    rw [← answer_of_good hw hu hua t]
    simp [look, ← Multiset.coe_add]
  running := by simp [look, World.set]
  kept a ha := by
    have hne : a ≠ u := fun h => hua (h ▸ ha)
    exact ⟨look_cell_of_ne v hne t, requests_look_of_ne v hne t⟩

/-- The body of an object that has begun runs from a good state to a good one, and leaves in its
object what it computes from the answers of the others. -/
lemma runBody_progress {call : ι → World ι σ τ ω → Option (World ι σ τ ω)} {v : ι}
    (hva : v ∉ active) (hreads : ∀ u, (S.body v).Reads u → u ∉ insert v active)
    (hcall : ∀ u, (S.body v).Reads u → ∀ w w', Good hS cell₀ (insert v active) w →
      call u w = some w' → Good hS cell₀ (insert v active) w' ∧ w'.isCalc u = true ∧
        ∃ new, Progress hS cell₀ (insert v active) w w' new [] true)
    (p : Body ι σ τ ω) (hp : ∀ u, p.Reads u → (S.body v).Reads u) (hv : w.isCalc v = true)
    (hw : Good hS cell₀ (insert v active) w) (h : S.runBody call v p w = some w') :
    Good hS cell₀ (insert v active) w' ∧
      w'.cell v = p.result (valueAnswer hS cell₀) (w.cell v) ∧
      w'.requests v = w.requests v ∧
      ∃ new, Progress hS cell₀ active w w' new
        ((p.demands (valueAnswer hS cell₀) (w.cell v)).map
          fun d => ⟨v, d.1, d.2, valueAnswer hS cell₀ d.1 d.2⟩)
        (!p.halts (valueAnswer hS cell₀) (w.cell v)) := by
  induction p generalizing w with
  | done =>
      obtain rfl := Option.some.inj h
      exact ⟨hw, rfl, rfl, [], Progress.refl⟩
  | own f next ih =>
      obtain ⟨hg, hc, hq, new, hpr⟩ :=
        ih _ (w := w.set v (f (w.cell v))) (fun u hu => hp u ⟨_, hu⟩) hv (good_set hv hw _) h
      rw [World.set_cell_self] at hc hpr
      refine ⟨hg, hc, hq, new, ?_⟩
      simpa [Body.demands, Body.halts] using (progress_set hva (f (w.cell v))).trans hpr
  | read u t next ih =>
      obtain ⟨w₁, hw₁, h⟩ := Option.bind_eq_some_iff.mp h
      have hu := hp u (.inl rfl)
      have hua := hreads u hu
      obtain ⟨hg₁, hm₁, new₁, hpr₁⟩ := hcall u hu w w₁ hw hw₁
      have hne : v ≠ u := fun h => hua (.inl h.symm)
      rw [answer_of_good hg₁ hm₁ hua] at h
      obtain ⟨hg, hc, hq, new, hpr⟩ := ih _ (w := S.look v u t w₁) (fun a ha => hp a (.inr ⟨_, ha⟩))
        (hpr₁.toGrows.marks hv) (good_look t hm₁ hua hg₁) h
      -- the state of the reader is its own until its body ends
      obtain ⟨hv₁, hr₁⟩ := hpr₁.kept v (.inl rfl)
      rw [look_cell_of_ne v hne, hv₁] at hc hpr
      rw [requests_look_of_ne v hne, hr₁] at hq
      refine ⟨hg, hc, hq, new₁ ++ new, ?_⟩
      have hlook := progress_look (v := v) hg₁ hm₁ hua t
      simpa [Body.demands, Body.halts] using
        ((hpr₁.trans hlook).anti (Set.subset_insert v active)).trans hpr
  | halt next ih =>
      obtain ⟨hg, hc, hq, new, hpr⟩ :=
        ih hp (w := { w with running := false }) hv ⟨hw.computed, hw.untouched, hw.answers⟩ h
      refine ⟨hg, hc, hq, new, ?_⟩
      have hstop : Progress hS cell₀ active w { w with running := false } [] [] false :=
        { Progress.refl with running := by simp }
      simpa [Body.demands, Body.halts] using hstop.trans hpr

/-- An object that begins is active. -/
lemma good_mark (v : ι) (hw : Good hS cell₀ active w) :
    Good hS cell₀ (insert v active) (w.mark v) where
  computed u hu hm := by
    rw [World.mark_isCalc_of_ne w fun h => hu (.inl h)] at hm
    exact hw.computed u (fun ha => hu (.inr ha)) hm
  untouched u hm := by
    have hne : u ≠ v := by
      rintro rfl
      exact absurd hm (by simp)
    rw [World.mark_isCalc_of_ne w hne] at hm
    exact hw.untouched u hm
  answers := hw.answers

/-- When its body has ended, it has computed itself. -/
lemma progress_of_mark {v : ι} (hv : w.isCalc v = false) {new : List ι}
    (h : Progress hS cell₀ active (w.mark v) w' new (entries hS cell₀ v)
      (!objectHalts hS cell₀ v)) :
    Progress hS cell₀ active w w' ([v] ++ new) [] true where
  toGrows := (World.grows_mark hv).trans h.toGrows
  log := by
    rw [h.log, List.flatMap_append, ← Multiset.coe_add]
    simp [World.mark, add_comm]
  running := by
    rw [h.running]
    simp [World.mark, Bool.and_comm]
  kept := h.kept

/-- An object whose reads do not lead to an active one computes itself. -/
lemma calculate_progress (n : ℕ) (v : ι)
    (hv : ∀ a ∈ active, ¬ Relation.ReflTransGen (fun u v => (S.body v).Reads u) a v)
    (hw : Good hS cell₀ active w) (h : S.calculate n v w = some w') :
    Good hS cell₀ active w' ∧ w'.isCalc v = true ∧
      ∃ new, Progress hS cell₀ active w w' new [] true := by
  induction n generalizing active v w w' with
  | zero => exact absurd h nofun
  | succ n ih =>
      rw [calculate] at h
      by_cases hc : w.isCalc v
      · rw [if_pos hc] at h
        obtain rfl := Option.some.inj h
        exact ⟨hw, hc, [], Progress.refl⟩
      rw [if_neg hc] at h
      have hva : v ∉ active := fun ha => hv v ha .refl
      have hfresh : w.isCalc v = false := Bool.eq_false_of_not_eq_true hc
      obtain ⟨hcell, hreq⟩ := hw.untouched v hfresh
      -- what the body reads cannot lead back to the object, nor to an active one
      have hlead : ∀ u, (S.body v).Reads u → ∀ a ∈ insert v active,
          ¬ Relation.ReflTransGen (fun u v => (S.body v).Reads u) a u := by
        rintro u hu a (rfl | ha) hau
        · have hcyc := Relation.TransGen.tail' hau hu
          exact hS.transGen.asymmetric _ _ hcyc hcyc
        · exact hv a ha (hau.tail hu)
      obtain ⟨hg, hres, hq, new, hpr⟩ := runBody_progress hva
        (fun u hu hmem => hlead u hu u hmem .refl)
        (fun u hu _ _ hw hcall => ih u (hlead u hu) hw hcall) (S.body v) (fun _ hu => hu)
        (w.mark_isCalc_self v) (good_mark v hw) h
      have hvalue : w'.cell v = value hS cell₀ v :=
        hres.trans ((congrArg _ hcell).trans (value_eq hS cell₀ v).symm)
      refine ⟨⟨fun u hu hm => ?_, hg.untouched, hg.answers⟩,
        hpr.toGrows.marks (w.mark_isCalc_self v), [v] ++ new, ?_⟩
      · by_cases huv : u = v
        · subst huv
          have hnone : w'.requests u = [] := hq.trans hreq
          rw [hvalue, hnone]
          rfl
        · exact hg.computed u (fun hmem => hmem.elim huv hu) hm
      · have hcell' : (w.mark v).cell v = cell₀ v := hcell
        rw [hcell'] at hpr
        exact progress_of_mark hfresh hpr

/-- A scan computes the objects of its list, unless it is halted. -/
lemma scan_progress (n : ℕ) (l : List ι) (hw : Good hS cell₀ ∅ w) (h : S.scan n l w = some w') :
    Good hS cell₀ ∅ w' ∧ (∃ new, Progress hS cell₀ ∅ w w' new [] true) ∧
      (w'.running = true → ∀ v ∈ l, w'.isCalc v = true) := by
  induction l generalizing w with
  | nil =>
      obtain rfl := Option.some.inj h
      exact ⟨hw, ⟨[], Progress.refl⟩, fun _ _ hv => absurd hv List.not_mem_nil⟩
  | cons v l ih =>
      rw [scan] at h
      by_cases hr : w.running
      · rw [if_pos hr] at h
        obtain ⟨w₁, hw₁, h⟩ := Option.bind_eq_some_iff.mp h
        obtain ⟨hg₁, hm, new₁, hpr₁⟩ := calculate_progress n v (fun a ha => absurd ha id) hw hw₁
        obtain ⟨hg, ⟨new, hpr⟩, hall⟩ := ih hg₁ h
        refine ⟨hg, ⟨new₁ ++ new, hpr₁.trans hpr⟩, fun hrun u hu => ?_⟩
        rcases List.mem_cons.mp hu with rfl | hu
        · exact hpr.toGrows.marks hm
        · exact hall hrun u hu
      · rw [if_neg hr] at h
        obtain rfl := Option.some.inj h
        exact ⟨hw, ⟨[], Progress.refl⟩, fun hrun => absurd hrun hr⟩

variable (hS) in
lemma good_start : Good hS cell₀ ∅ (World.start cell₀) where
  computed _ _ hu := absurd hu nofun
  untouched _ _ := ⟨rfl, rfl⟩
  answers _ he := absurd he List.not_mem_nil

variable (hS) in
/-- The state after a scan of all the objects that is not halted: each has begun once, has computed
its value, and was asked what the bodies of the others ask. -/
theorem scan_spec {n : ℕ} {l : List ι} (hl : ∀ v, v ∈ l)
    (h : S.scan n l (World.start cell₀) = some w) (hr : w.running = true) :
    w.started.Nodup ∧ (∀ v, v ∈ w.started) ∧ (∀ v, objectHalts hS cell₀ v = false) ∧
      (w.log : Multiset (Entry ι τ ω)) = w.started.flatMap (entries hS cell₀) ∧
      ∀ v, w.cell v = S.accessed v (w.requests v) (value hS cell₀ v) := by
  obtain ⟨hg, ⟨new, hpr⟩, hall⟩ := scan_progress n l (good_start hS) h
  have hstarted : w.started = new := hpr.started
  have hmem : ∀ v, v ∈ new := fun v =>
    ((hpr.isCalc v).mp (hall hr v (hl v))).resolve_left nofun
  have hrun : new.all (fun v => !objectHalts hS cell₀ v) = true := by
    have := hpr.running
    rw [hr] at this
    simpa [World.start] using this
  refine ⟨hstarted ▸ hpr.nodup, fun v => hstarted ▸ hmem v, fun v => ?_, ?_, fun v => ?_⟩
  · simpa using List.all_eq_true.mp hrun v (hmem v)
  · simpa [World.start, hstarted] using hpr.log
  · exact hg.computed v id (hall hr v (hl v))

variable (hS) in
include hS in
/-- What was read is what the source has in the end. -/
theorem scan_answer {n : ℕ} {l : List ι} (hl : ∀ v, v ∈ l)
    (h : S.scan n l (World.start cell₀) = some w) (hr : w.running = true) :
    ∀ e ∈ w.log, e.answer = S.answer e.source e.request (w.cell e.source) := by
  obtain ⟨-, -, -, -, hcell⟩ := scan_spec hS hl h hr
  obtain ⟨hg, -, -⟩ := scan_progress n l (good_start hS) h
  intro e he
  rw [hg.answers e he, hcell, answer_accessed, valueAnswer]

variable (hS) in
include hS in
/-- Each object has run its body on what the others answer in the end. -/
theorem scan_cell {n : ℕ} {l : List ι} (hl : ∀ v, v ∈ l)
    (h : S.scan n l (World.start cell₀) = some w) (hr : w.running = true) (v : ι) :
    w.cell v = S.accessed v (w.requests v)
      ((S.body v).result (fun u t => S.answer u t (w.cell u)) (cell₀ v)) := by
  obtain ⟨-, -, -, -, hcell⟩ := scan_spec hS hl h hr
  have hanswer : (fun u t => S.answer u t (w.cell u)) = valueAnswer hS cell₀ := by
    funext u t
    rw [hcell, answer_accessed, valueAnswer]
  rw [hanswer, ← value_eq]
  exact hcell v

variable (hS) in
include hS in
/-- Nothing depends on the order of the list. -/
theorem scan_order {n n' : ℕ} {l l' : List ι} (hl : ∀ v, v ∈ l) (hl' : ∀ v, v ∈ l')
    (h : S.scan n l (World.start cell₀) = some w)
    (h' : S.scan n' l' (World.start cell₀) = some w') (hr : w.running = true) :
    w'.running = true ∧ w'.cell = w.cell ∧ w'.log.Perm w.log := by
  obtain ⟨hnd, hmem, hhalt, hlog, hcell⟩ := scan_spec hS hl h hr
  have hr' : w'.running = true := by
    obtain ⟨-, ⟨new, hpr⟩, -⟩ := scan_progress n' l' (good_start hS) h'
    rw [hpr.running]
    simp [World.start, hhalt]
  obtain ⟨hnd', hmem', -, hlog', hcell'⟩ := scan_spec hS hl' h' hr'
  have hstarted : w'.started.Perm w.started :=
    (List.perm_ext_iff_of_nodup hnd' hnd).mpr fun v => iff_of_true (hmem' v) (hmem v)
  have hperm : w'.log.Perm w.log := by
    refine (Multiset.coe_eq_coe.mp hlog').trans ?_
    exact (hstarted.flatMap_right _).trans (Multiset.coe_eq_coe.mp hlog).symm
  refine ⟨hr', funext fun v => ?_, hperm⟩
  rw [hcell', hcell]
  exact S.accessed_perm v ((hperm.filter _).map _) _

end Acyclic

end System

end Demand
