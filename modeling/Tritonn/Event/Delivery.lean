import Tritonn.Event.Manager
import Tritonn.Lib.Run

/-!
The delivery of events to the clients of the event server.

* `Delivered` is the property of a client between two turns: of the events added since its
  connection it was sent each once, in their order, and none twice;
* `Owed` is what holds of a client while events are added: what it was sent and what is to be sent
  are together the events since its connection;
* `pends` says that an event is to be sent when a turn comes to its `NewClient`;
* `delivered_iff` says that in every run all clients get what they are owed, if and only if no
  client joins while an event is to be sent;
* `delivered_fails` is an event before the first client.
-/

namespace Tritonn

/-! ### The queue -/

namespace EventQueue

variable {q : EventQueue} {e : EventRecord}

/-- What is to be sent is the end of what was added. -/
def Queued (q : EventQueue) : Prop :=
  ∃ n ≤ q.added.length, q.list = q.added.zipIdx.drop n

/-- What the client was sent and what is to be sent are the events since its connection. -/
def Owed (q : EventQueue) (k : EventClient) : Prop :=
  k.since ≤ q.added.length ∧ k.received ++ q.list = q.added.zipIdx.drop k.since

/-- What an addition does to the lists. -/
lemma add_of_ne (h : e.eid ≠ 0) :
    (q.add e).list = q.list ++ [(e, q.added.length)] ∧ (q.add e).added = q.added ++ [e] := by
  rw [add, if_neg h]
  exact ⟨rfl, rfl⟩

/-- The end of what was added grows with it. -/
lemma drop_zipIdx_concat {n : ℕ} {added : List EventRecord} (h : n ≤ added.length)
    (e : EventRecord) :
    (added ++ [e]).zipIdx.drop n = added.zipIdx.drop n ++ [(e, added.length)] := by
  rw [List.zipIdx_append, List.drop_append_of_le_length (by rwa [List.length_zipIdx])]
  simp

lemma Queued.add (h : q.Queued) (e : EventRecord) : (q.add e).Queued := by
  by_cases he : e.eid = 0
  · rwa [EventQueue.add, if_pos he]
  · obtain ⟨n, hn, hlist⟩ := h
    obtain ⟨hl, ha⟩ := add_of_ne (q := q) he
    refine ⟨n, ?_, by rw [hl, ha, drop_zipIdx_concat hn, hlist]⟩
    rw [ha, List.length_append]
    omega

lemma Owed.add {k : EventClient} (h : q.Owed k) (e : EventRecord) : (q.add e).Owed k := by
  by_cases he : e.eid = 0
  · rwa [EventQueue.add, if_pos he]
  · obtain ⟨hsince, hreceived⟩ := h
    obtain ⟨hl, ha⟩ := add_of_ne (q := q) he
    refine ⟨?_, by rw [hl, ha, drop_zipIdx_concat hsince, ← List.append_assoc, hreceived]⟩
    rw [ha, List.length_append]
    omega

lemma Queued.addAll (h : q.Queued) (l : List EventRecord) : (q.addAll l).Queued := by
  induction l generalizing q with
  | nil => exact h
  | cons e l ih => exact ih (h.add e)

lemma Owed.addAll {k : EventClient} (h : q.Owed k) (l : List EventRecord) :
    (q.addAll l).Owed k := by
  induction l generalizing q with
  | nil => exact h
  | cons e l ih => exact ih (h.add e)

/-- Additions only lengthen what is to be sent, and do so unless the events have no number. -/
lemma addAll_list (q : EventQueue) (l : List EventRecord) :
    ∃ new, (q.addAll l).list = q.list ++ new ∧ (new = [] ↔ ∀ e ∈ l, e.eid = 0) := by
  induction l generalizing q with
  | nil => exact ⟨[], by simp [addAll], by simp⟩
  | cons e l ih =>
      obtain ⟨new, hnew, hnil⟩ := ih (q.add e)
      by_cases he : e.eid = 0
      · rw [add, if_pos he] at hnew
        refine ⟨new, ?_, by simp [hnil, he]⟩
        rw [← hnew, addAll, List.foldl_cons, add, if_pos he]
        rfl
      · rw [(add_of_ne he).1, List.append_assoc] at hnew
        exact ⟨_, hnew, by simp [he]⟩

/-- A client that joins while nothing is to be sent is owed nothing. -/
lemma owed_newClient (h : q.list = []) : q.Owed q.newClient :=
  ⟨le_rfl, by rw [newClient, h, List.append_nil, List.drop_of_length_le (by simp)]⟩

end EventQueue

/-! ### The clients of a turn -/

namespace EventManager

variable {s : EventManager} {i : EventInput}

/-- The loop over the clients drops some of them, and leaves the queue alone. -/
lemma serve_eq (ready : ℕ → Ready) (ii : ℕ) (client : List (ℕ × EventClient)) (q : EventQueue) :
    (TcpClass.serve clientRecv ready ii client q).2 = q ∧
      (TcpClass.serve clientRecv ready ii client q).1.Sublist client := by
  induction client generalizing ii with
  | nil => exact ⟨rfl, List.Sublist.refl _⟩
  | cons c client ih =>
      obtain ⟨id, k⟩ := c
      have hserve : TcpClass.serveClient clientRecv id k q (ready ii) = (none, q) ∨
          TcpClass.serveClient clientRecv id k q (ready ii) = (some k, q) := by
        cases ready ii with
        | error again => cases again <;> simp [TcpClass.serveClient]
        | _ => simp [TcpClass.serveClient, clientRecv]
      obtain ⟨hq, hsub⟩ := ih (ii + 1)
      rcases hserve with h | h <;> simp only [TcpClass.serve, h, hq, true_and]
      · exact hsub.cons _
      · exact hsub.cons_cons _

/-- A last client of which nothing is reported stays. -/
lemma mem_serve_last (ready : ℕ → Ready) (ii : ℕ) (client : List (ℕ × EventClient))
    (c : ℕ × EventClient) (q : EventQueue) (h : ready (ii + client.length) = .idle) :
    c ∈ (TcpClass.serve clientRecv ready ii (client ++ [c]) q).1 := by
  induction client generalizing ii q with
  | nil => simp [TcpClass.serve, TcpClass.serveClient, show ready ii = .idle from h]
  | cons d client ih =>
      rw [List.cons_append, TcpClass.serve]
      refine List.mem_append_right _ (ih (ii + 1) _ ?_)
      rw [show ii + 1 + client.length = ii + (d :: client).length by simp; omega]
      exact h

/-- The clients behind `accept`. -/
lemma accept_client :
    ((s.joins i = true ∧ ∃ old, old.Sublist s.client ∧
        ((i.accept.map (s.accept s.shared.newClient maxClient)).getD s).client
          = old ++ [(s.count, s.shared.newClient)]) ∨
      s.joins i = false ∧ ((i.accept.map (s.accept s.shared.newClient maxClient)).getD s).client
        = s.client) ∧
      ((i.accept.map (s.accept s.shared.newClient maxClient)).getD s).shared = s.shared := by
  rw [joins]
  cases i.accept with
  | none => simp
  | some a =>
      rw [Option.any_some, Option.map_some, Option.getD_some, TcpClass.accept]
      cases a.white with
      | false => simp
      | true =>
          simp only [Bool.not_true, Bool.false_eq_true, if_false, Bool.true_and]
          by_cases hmax : maxClient ≤ s.client.length
          · rw [if_pos (by simp; omega)]
            have hpos : s.client ≠ [] := by
              rintro h
              simp [h, maxClient] at hmax
            refine ⟨.inl ⟨by simp [hmax], s.client.tail, List.tail_sublist _, ?_⟩, rfl⟩
            rw [List.tail_append_of_ne_nil hpos]
          · rw [if_neg (by simp; omega)]
            cases a.nodelay with
            | false => simp [hmax]
            | true => simp [hmax]

/-- The clients behind `rTCPClass::Proccesing` are some of those before it and, if it joins, the new
one. -/
lemma connect_spec :
    (s.connect i).shared = s.shared ∧
      (∀ c ∈ (s.connect i).client, c ∈ s.client ∨
        s.joins i = true ∧ c = (s.count, s.shared.newClient)) ∧
      (s.joins i = true → (s.count, s.shared.newClient) ∈ (s.connect i).client) := by
  obtain ⟨haccept, hshared⟩ := accept_client (s := s) (i := i)
  rw [connect, TcpClass.proccesing]
  dsimp only
  generalize hs₁ : (i.accept.map (s.accept s.shared.newClient maxClient)).getD s = s₁ at *
  obtain ⟨hq, hsub⟩ := serve_eq (s.report i s₁.client.length) 0 s₁.client s.shared
  rw [hshared, hq]
  refine ⟨rfl, fun c hc => ?_, fun hj => ?_⟩
  · have hmem := hsub.subset hc
    rcases haccept with ⟨hj, old, hold, hclient⟩ | ⟨-, hclient⟩
    · rw [hclient, List.mem_append, List.mem_singleton] at hmem
      exact hmem.imp (fun h => hold.subset h) fun h => ⟨hj, h⟩
    · rw [hclient] at hmem
      exact .inl hmem
  · obtain ⟨old, -, hclient⟩ :=
      (haccept.resolve_right fun h => Bool.false_ne_true (h.1.symm.trans hj)).2
    rw [hclient]
    exact mem_serve_last _ 0 old _ _ (by simp [report, hj])

/-! ### What a client gets -/

/-- Of the events since its connection a client was sent each once, in their order, and none
twice. -/
structure Delivered (s : EventManager) (k : EventClient) : Prop where
  complete : k.received.filter (fun e => decide (k.since ≤ e.2)) =
    s.shared.added.zipIdx.drop k.since
  nodup : (k.received.map Prod.snd).Nodup

/-- The numbers behind the `n`-th event. -/
lemma map_drop_zipIdx (l : List EventRecord) (n : ℕ) :
    (l.zipIdx.drop n).map Prod.snd = (List.range' 0 l.length).drop n := by
  rw [List.map_drop, List.zipIdx_map_snd]

lemma le_of_mem_drop_zipIdx {l : List EventRecord} {n : ℕ} {e : EventRecord × ℕ}
    (h : e ∈ l.zipIdx.drop n) : n ≤ e.2 := by
  have hmem : e.2 ∈ (List.range' 0 l.length).drop n := by
    rw [← map_drop_zipIdx]
    exact List.mem_map_of_mem h
  rw [List.drop_range', List.mem_range'_1] at hmem
  omega

/-- A client that was sent all that it is owed. -/
lemma delivered_of_owed {k : EventClient} (h : s.shared.Owed k) (hlist : s.shared.list = []) :
    s.Delivered k := by
  obtain ⟨-, hreceived⟩ := h
  rw [hlist, List.append_nil] at hreceived
  refine ⟨?_, ?_⟩
  · rw [hreceived]
    exact List.filter_eq_self.mpr fun e he => decide_eq_true (le_of_mem_drop_zipIdx he)
  · rw [hreceived, map_drop_zipIdx, List.drop_range']
    exact List.nodup_range'

/-! ### Turns -/

/-- What holds between two turns while all clients get what they are owed. -/
structure Inv (s : EventManager) : Prop where
  queued : s.shared.Queued
  owed : ∀ c ∈ s.client, s.shared.Owed c.2
  sent : s.client ≠ [] → s.shared.list = []

/-- An event is to be sent when the turn comes to `NewClient`: one from before it, or one that is
added at its beginning. -/
def pends (s : EventManager) (i : EventInput) : Prop :=
  s.shared.list ≠ [] ∨ ∃ e ∈ i.before, e.eid ≠ 0

lemma pends_iff : s.pends i ↔ (s.addAll i.before).shared.list ≠ [] := by
  obtain ⟨new, hnew, hnil⟩ := s.shared.addAll_list i.before
  have hlist : (s.addAll i.before).shared.list = s.shared.list ++ new := hnew
  rw [hlist, ne_eq, List.append_eq_nil_iff, hnil, pends]
  push Not
  tauto

/-- The clients of a turn, before it sends the list: they are owed, but for one that joins while an
event is to be sent. -/
lemma connected_owed (hs : s.Inv) :
    ((s.addAll i.before).connect i).shared.Queued ∧
      ∀ c ∈ ((s.addAll i.before).connect i).client,
        ((s.addAll i.before).connect i).shared.Owed c.2 ∨
          (s.joins i = true ∧ s.pends i ∧ c.2 = (s.addAll i.before).shared.newClient) := by
  obtain ⟨hshared, hclient, -⟩ := connect_spec (s := s.addAll i.before) (i := i)
  rw [hshared]
  refine ⟨hs.queued.addAll i.before, fun c hc => ?_⟩
  rcases hclient c hc with hc | ⟨hj, rfl⟩
  · exact .inl ((hs.owed c hc).addAll i.before)
  · by_cases hp : s.pends i
    · exact .inr ⟨hj, hp, rfl⟩
    · rw [pends_iff, not_not] at hp
      exact .inl (EventQueue.owed_newClient hp)

/-- What sending leaves. -/
lemma sendAll_inv (hq : s.shared.Queued) (ho : ∀ c ∈ s.client, s.shared.Owed c.2) :
    s.sendAll.Inv := by
  rw [sendAll]
  by_cases h0 : s.client.length = 0
  · rw [if_pos h0]
    exact ⟨hq, ho, fun h => absurd (List.length_eq_zero_iff.mp h0) h⟩
  · rw [if_neg h0]
    refine ⟨⟨s.shared.added.length, le_rfl, ?_⟩, fun c hc => ?_, fun _ => rfl⟩
    · rw [List.drop_of_length_le (by simp)]
    · obtain ⟨d, hd, rfl⟩ := List.mem_map.mp hc
      obtain ⟨hsince, hreceived⟩ := ho d hd
      exact ⟨hsince, by rw [List.append_nil]; exact hreceived⟩

/-- Between two turns all clients have what they are owed. -/
lemma Inv.delivered (hs : s.Inv) : ∀ c ∈ s.client, s.Delivered c.2 := fun c hc =>
  delivered_of_owed (hs.owed c hc) (hs.sent (List.ne_nil_of_mem hc))

/-- A turn in which nobody joins while an event is to be sent. -/
lemma cycle_inv (hs : s.Inv) (h : s.joins i = true → ¬ s.pends i) : (s.cycle i).Inv := by
  obtain ⟨hqueued, howed⟩ := connected_owed (i := i) hs
  refine sendAll_inv (hqueued.addAll i.between) fun c hc => ?_
  rcases howed c hc with hc' | ⟨hj, hp, -⟩
  · exact hc'.addAll i.between
  · exact absurd hp (h hj)

/-- A client that joins while an event is to be sent gets it twice. -/
lemma cycle_twice (hj : s.joins i = true) (hp : s.pends i) :
    ∃ c ∈ (s.cycle i).client, ¬ (s.cycle i).Delivered c.2 := by
  obtain ⟨hshared, -, hnew⟩ := connect_spec (s := s.addAll i.before) (i := i)
  have hmem := hnew hj
  obtain ⟨new, hlist, -⟩ :=
    EventQueue.addAll_list ((s.addAll i.before).connect i).shared i.between
  rw [hshared] at hlist
  rw [cycle, sendAll]
  have hne : (((s.addAll i.before).connect i).addAll i.between).client.length ≠ 0 :=
    fun h0 => List.ne_nil_of_mem hmem (List.length_eq_zero_iff.mp h0)
  rw [if_neg hne]
  refine ⟨_, List.mem_map_of_mem hmem, fun hd => ?_⟩
  have hnodup := hd.nodup
  have hsent : (((s.addAll i.before).connect i).addAll i.between).shared.list
      = (s.addAll i.before).shared.list ++ new := by
    rw [← hlist, ← hshared]
    rfl
  rw [hsent] at hnodup
  obtain ⟨e, he⟩ := List.exists_mem_of_ne_nil _ (pends_iff.mp hp)
  simp only [EventQueue.newClient, List.map_append] at hnodup
  exact (List.nodup_append.mp hnodup).2.2 _ (List.mem_map_of_mem he) _
    (List.mem_append_left _ (List.mem_map_of_mem he)) rfl

/-- The clients get what they are owed in a turn if and only if nobody joins while an event is to be
sent. -/
lemma cycle_delivered_iff (hs : s.Inv) :
    (∀ c ∈ (s.cycle i).client, (s.cycle i).Delivered c.2) ↔ (s.joins i = true → ¬ s.pends i) := by
  refine ⟨fun h hj hp => ?_, fun h => (cycle_inv hs h).delivered⟩
  obtain ⟨c, hc, hnot⟩ := cycle_twice hj hp
  exact hnot (h c hc)

lemma start_inv : start.Inv :=
  ⟨⟨0, le_rfl, rfl⟩, fun _ hc => (nomatch hc), fun h => absurd rfl h⟩

/-- In every run, all clients get the events since their connection, each once and in their order,
and none twice, if and only if no client joins while an event is to be sent. -/
theorem delivered_iff (l : List EventInput) :
    (∀ pre, pre <+: l → ∀ c ∈ (run pre).client, (run pre).Delivered c.2) ↔
      Run.Along cycle (fun s i => s.joins i = true → ¬ s.pends i) start l := by
  have hrun : (∀ pre, pre <+: l → ∀ c ∈ (run pre).client, (run pre).Delivered c.2) ↔
      Run.Along cycle (fun s i => ∀ c ∈ (s.cycle i).client, (s.cycle i).Delivered c.2) start l :=
    (Run.forall_prefix_iff (C := fun s : EventManager => ∀ c ∈ s.client, s.Delivered c.2) start
      l).trans (and_iff_right start_inv.delivered)
  rw [hrun]
  exact Run.along_congr (A := fun _ _ => True) Inv (fun s i hs _ => cycle_delivered_iff hs)
    (fun s i hs _ h => cycle_inv hs ((cycle_delivered_iff hs).mp h)) start_inv
    (Run.along_of_forall fun _ _ => trivial)

/-! ### An event before the first client -/

/-- An event is added, and then a client connects. -/
def eventThenClient : List EventInput :=
  [{ before := [⟨0x40000001, []⟩] }, { accept := some ⟨true, true⟩ }]

/-- The client gets the event twice. -/
theorem delivered_fails :
    ((run eventThenClient).client.map fun c => c.2.received)
        = [[(⟨0x40000001, []⟩, 0), (⟨0x40000001, []⟩, 0)]] ∧
      ¬ ∀ pre, pre <+: eventThenClient → ∀ c ∈ (run pre).client, (run pre).Delivered c.2 := by
  have hclient : (run eventThenClient).client
      = [(0, ⟨1, [(⟨0x40000001, []⟩, 0), (⟨0x40000001, []⟩, 0)]⟩)] := by decide +kernel
  refine ⟨by rw [hclient]; rfl, fun h => ?_⟩
  have hnodup := (h _ List.prefix_rfl _ (by rw [hclient]; exact List.mem_singleton_self _)).nodup
  simp at hnodup

end EventManager

end Tritonn
