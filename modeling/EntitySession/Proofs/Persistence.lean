import EntitySession.Proofs.Calls
import EntitySession.Proofs.Flush
import EntitySession.Proofs.Provenance

/-!
# No persisted instance is lost unnoticed

An instance that was made persistent, and not deleted since, is in the database once a flush succeeds:
or so one would like to have it.  `Session.persisted_accounted` says what is true.  Since the key was
deleted last, there is a moment that accounts for it (`Session.Accounts`): the insert of a row for the
key was acknowledged, its row came back from the database, or a flush failed and discarded the insert
that was waiting.  The last of the three cannot be left out, and neither can the assumption that nobody
changes the identifiers of tracked instances: `Notes.lost_unnoticed` has a run for each.

The proof follows one key.  As long as nothing accounts for it, the key is tracked only while an insert
of its instance waits (`Session.Awaited`), and what a call makes of a key is one of a few things
(`Session.Fate`).
-/

set_option autoImplicit false

namespace EntitySession

variable {δ : Type} {S : Schema}

namespace Session

/-! ## What is said of a key -/

/-- The insert of an instance waits. -/
def Inserting (w : Work δ) (i : InstanceId) : Prop :=
  ∃ g entity, Action.insert g entity i ∈ w.session.queue.pending

/-- An insert for a key waits. -/
def Waits (S : Schema) (k : EntityKey) (w : Work δ) : Prop :=
  ∃ i, Inserting w i ∧ ∃ j, w.site.heap.key S i = .ok j ∧ (j == k) = true

/-- If a key is tracked, the insert of its instance waits. -/
def Awaited (S : Schema) (k : EntityKey) (w : Work δ) : Prop :=
  ∀ i, w.session.context.get? k = some i →
    Inserting w i ∧ ∃ j, w.site.heap.key S i = .ok j ∧ (j == k) = true

theorem awaited_of_untracked {k : EntityKey} {w : Work δ} (h : w.session.context.get? k = none) :
    Awaited S k w := by
  intro i hi
  rw [h] at hi
  cases hi

/-- A row for a key was inserted in between, or came back from the database. -/
def Stored (S : Schema) (k : EntityKey) (w v : Work (Recorded δ)) : Prop :=
  ∃ x ∈ sentBetween w v, x.InsertsRow S w.session.gateway.connection k ∨
    x.Fetches S w.session.gateway.connection k

/-- What has become of the instance with a key. -/
inductive Accounts (S : Schema) (k : EntityKey) : Moment (Recorded δ) → Prop
  /-- A call has found it stored, or has stored it. -/
  | stored {w v : Work (Recorded δ)} {c : Call} {r : Except Error (List InstanceId)}
      (h : Stored S k w v) : Accounts S k ⟨w, .call c r, v⟩
  /-- A flush has failed and has discarded what waited, an insert for the key as well. -/
  | discarded {w v : Work (Recorded δ)} {e : Error} (hw : Waits S k w)
      (hv : v.session.queue.pending = []) : Accounts S k ⟨w, .call .flush (.error e), v⟩

/-- What is tracked under a key is what it was, with the key that it had; and what waited still
waits. -/
structure Kept (S : Schema) (k : EntityKey) (w v : Work δ) : Prop where
  tracked : v.session.context.get? k = w.session.context.get? k
  queued : ∀ a ∈ w.session.queue.pending, a ∈ v.session.queue.pending
  keys : ∀ i j, w.session.context.get? k = some i → w.site.heap.key S i = .ok j → j.id ≠ .null →
    v.site.heap.key S i = .ok j

/-- What a call makes of a key. -/
inductive Fate (S : Schema) (k : EntityKey) (w v : Work (Recorded δ)) : Prop
  | stored (h : Stored S k w v)
  | kept (h : Kept S k w v)
  | untracked (h : v.session.context.get? k = none)
  /-- An instance with the key is tracked from now on, and its insert waits. -/
  | begun {i : InstanceId} {j : EntityKey} (tracked : v.session.context.get? k = some i)
      (queued : Inserting v i) (key : v.site.heap.key S i = .ok j) (same : (j == k) = true)

theorem Kept.awaited {k : EntityKey} {w v : Work δ} (h : Kept S k w v) (hk : k.id ≠ .null)
    (hw : Awaited S k w) : Awaited S k v := by
  intro i hi
  rw [h.tracked] at hi
  obtain ⟨⟨g, entity, hmem⟩, j, hj, hjk⟩ := hw i hi
  exact ⟨⟨g, entity, h.queued _ hmem⟩, j, h.keys i j hi hj (EntityKey.id_ne_null hjk hk), hjk⟩

namespace Fate

variable {k : EntityKey} {w v : Work (Recorded δ)}

theorem refl (S : Schema) (k : EntityKey) (w : Work (Recorded δ)) : Fate S k w w :=
  .kept ⟨rfl, fun _ ha => ha, fun _ _ _ hj _ => hj⟩

theorem of_keepsKeys (hc : v.session.context.get? k = w.session.context.get? k)
    (hq : ∀ a ∈ w.session.queue.pending, a ∈ v.session.queue.pending)
    (hh : w.site.heap.KeepsKeys S v.site.heap) : Fate S k w v :=
  .kept ⟨hc, hq, fun _ _ _ hj hn => hh.key hj hn⟩

/-- As long as nothing is stored for a key, it is awaited. -/
theorem awaited (h : Fate S k w v) (hk : k.id ≠ .null) (hw : Awaited S k w) :
    Stored S k w v ∨ Awaited S k v := by
  cases h with
  | stored h => exact .inl h
  | kept h => exact .inr (h.awaited hk hw)
  | untracked h => exact .inr (awaited_of_untracked h)
  | begun tracked queued key same =>
    refine .inr fun i hi => ?_
    rw [tracked, Option.some.injEq] at hi
    subst hi
    exact ⟨queued, _, key, same⟩

end Fate

/-! ## What the calls make of a key -/

section Calls

variable {k : EntityKey} {w v : Work (Recorded δ)}

/-- Finding and loading. -/
theorem Fetched.fate (hf : Fetched S w v) (hg : Work.Grows w v) (k : EntityKey) : Fate S k w v := by
  have hqueued : ∀ a ∈ w.session.queue.pending, a ∈ v.session.queue.pending := by
    rw [hg.queue]
    exact fun _ ha => ha
  cases hw : w.session.context.get? k with
  | some i =>
    refine .kept ⟨?_, hqueued, fun _ _ _ hj _ => hg.heap.key hj⟩
    rw [hw, hg.context.get? k i hw]
  | none =>
    cases hv : v.session.context.get? k with
    | none => exact .untracked hv
    | some i =>
      rcases hf k i hv with h | ⟨x, hx, hfetch⟩
      · rw [hw] at h
        cases h
      · exact .stored ⟨x, hx, .inr hfetch⟩

/-- Tracking an instance, unless it has this key, or its row was just inserted, or its insert waits. -/
theorem put_fate {i : InstanceId} (hc : v.session.context = w.session.context)
    (hq : ∀ a ∈ w.session.queue.pending, a ∈ v.session.queue.pending)
    (hh : w.site.heap.KeepsKeys S v.site.heap)
    (hi : ∀ j c, v.site.heap.key S i = .ok j → (j == k) = true →
      Stored S k w { v with session := { v.session with context := c } } ∨ Inserting v i) :
    Fate S k w ((Work.modifyContext fun h c => c.put S h i).perform v).2 := by
  cases hput : v.session.context.put S v.site.heap i with
  | error e =>
    rw [Work.perform_modifyContext_error hput]
    exact .of_keepsKeys (congrArg (·.get? k) hc) hq hh
  | ok c =>
    rw [Work.perform_modifyContext_ok.2 ⟨c, hput, rfl⟩]
    rw [hc] at hput
    cases hw : w.session.context.get? k with
    | some l => exact .of_keepsKeys (((Context.put_grows hput).get? k l hw).trans hw.symm) hq hh
    | none =>
      cases hk : c.get? k with
      | none => exact .untracked hk
      | some l =>
        rcases Context.get?_put hput hk with h | ⟨rfl, j, hj, hjk⟩
        · rw [hw] at h
          cases h
        · rcases hi j c hj hjk with h | h
          · exact .stored h
          · exact .begun hk h hj hjk

/-- Deleting another key. -/
theorem delete_fate {i : InstanceId} {r : Except Error Unit} (h : (delete S i).perform w = (r, v))
    (hd : ∀ u j, r = .ok u → w.site.heap.key S i = .ok j → (j == k) = false) : Fate S k w v := by
  have htracked := delete_get? h hd
  cases r with
  | error e => exact delete_error h ▸ .refl S k w
  | ok u =>
    obtain ⟨j, -, -, rfl⟩ := delete_ok h
    exact .of_keepsKeys htracked (fun _ ha => List.mem_append_left _ ha) (.refl S _)

/-- What happens elsewhere, if it changes no identifier. -/
theorem elsewhere_kept {site : Site (Recorded δ)} {choices : Choices} { isHeld : Bool}
    {transaction : Option TransactionId} (h : w.site.heap.KeepsTypes site.heap)
    (hids : ∀ e ∈ w.session.context.instances, ∀ u, w.site.heap.id S e.2 = .ok u →
      site.heap.id S e.2 = .ok u) (k : EntityKey) :
    Kept S k w ⟨site, { w.session with choices, isHeld, transaction }⟩ := by
  refine ⟨rfl, fun _ ha => ha, fun i j hi hj _ => ?_⟩
  obtain ⟨e, he, -, rfl⟩ := KeyMap.mem_of_get? hi
  obtain ⟨hid, htype⟩ := Heap.key_eq_ok.1 hj
  obtain ⟨x, hx⟩ := Heap.exists_of_id hid
  exact Heap.key_eq_ok.2 ⟨hids e he _ hid, (h.typeOf hx).trans htype⟩

variable [Database δ]

/-- The row of an instance without an identifier is inserted, and then the instance has this key. -/
theorem insertsRow_of_generated {g : Gateway} {s t : Site (Recorded δ)} {i : InstanceId} {j : EntityKey}
    (hid : s.heap.id S i = .ok .null) (h : (g.save S i).perform s = (.ok (), t))
    (hj : t.heap.key S i = .ok j) (hjk : (j == k) = true) :
    ∃ x, x.InsertsRow S g.connection k ∧
      t.outside.exchanges = s.outside.exchanges ++ [x] := by
  obtain ⟨m, values, result, v, id, hm, hrows, hv, hcast, hset, hexchanges⟩ :=
    Gateway.save_generated_ok hid h
  obtain ⟨x, record, hx, -, hheap⟩ := Heap.set_eq_ok hset
  have htype : s.heap.typeOf i = k.entity := by
    rw [← ((EntityKey.beq_iff j k).1 hjk).1, ← (Heap.key_eq_ok.1 hj).2, hheap]
    exact ((Heap.setRecord_keepsTypes _ _ _).typeOf hx).symm
  rw [htype] at hm
  exact ⟨_, ⟨m, m.nonIdFields, values, result, hm, hrows, rfl, .inr ⟨rfl, v, id, hv, hcast, _, i, _, j,
    hset, hj, hjk⟩⟩, hexchanges⟩

variable [Callbacks δ]

theorem persist_fate (i : InstanceId) (w : Work (Recorded δ)) (k : EntityKey) :
    Fate S k w ((persist S i).perform w).2 := by
  refine Act.after_reading_bind (fun _ _ => ?_) (.refl S k w)
  refine Act.after_reading_bind (fun id hid => ?_) (.refl S k w)
  refine Act.after_reading_bind (fun s hs => ?_) (.refl S k w)
  cases hs
  split
  · next hnull =>
    rw [Value.isNull_iff] at hnull
    have hsave : (Work.onSite (w.session.gateway.save S i)).Via (Work.Change S) w :=
      Work.onSite_change (Gateway.save_change _ i _)
    have hkeeps := hsave.keepsKeys
    rw [Work.perform_onSite] at hkeeps
    refine Work.after_onSite_bind (fun _ t ht => ?_) fun _ t ht => ?_
    · rw [ht] at hkeeps
      refine put_fate rfl (fun _ ha => ha) hkeeps fun j c hj hjk => .inl ?_
      obtain ⟨x, hx, hexchanges⟩ := insertsRow_of_generated (hnull ▸ hid) ht hj hjk
      rw [← List.append_nil (_ ++ [x])] at hexchanges
      exact ⟨x, mem_sentBetween hexchanges List.mem_cons_self, .inl hx⟩
    · rw [ht] at hkeeps
      exact .of_keepsKeys rfl (fun _ ha => ha) hkeeps
  · refine Act.after_reading_bind (fun entity _ => ?_) (.refl S k w)
    split
    · exact .refl S k w
    · refine Act.after_bind (fun _ u hu => ?_) fun _ u hu => by cases hu
      cases hu
      refine put_fate rfl (fun _ ha => List.mem_append_left _ ha) (.refl S _) fun _ _ _ _ => .inr ?_
      exact ⟨_, entity, List.mem_append_right _ (List.mem_singleton_self _)⟩

/-! ### Flushing and closing -/

/-- A flush that succeeds has inserted a row for every key with an insert that waited. -/
theorem flush_stored (hs : Sound S w) (hk : k.id ≠ .null) (hw : Waits S k w)
    (h : (flush S).perform w = (.ok (), v)) : Stored S k w v := by
  obtain ⟨i, ⟨g, entity, hmem⟩, j, hj, hjk⟩ := hw
  obtain ⟨rfl, -⟩ := hs.queued _ hmem
  obtain ⟨-, tracked, dirty, updates, order, u, choices, choices', -, -, -, horder, -, hrun, rfl⟩ :=
    flush_ok h
  obtain ⟨front, back, rfl⟩ :=
    List.append_of_mem (horder.mem_iff.2 (List.mem_append_left updates hmem))
  obtain ⟨u₁, hfront, hrun⟩ := Act.perform_each_append_ok.1 hrun
  obtain ⟨_, u₂, hinsert, hback⟩ := Act.perform_bind_ok.1 hrun
  have hvia₁ := each_change (S := S) front
    { w with session := { w.session with choices, queue := .empty } }
  have hvia₂ := each_change (S := S) back u₂
  have hkeeps := hvia₁.keepsKeys
  have hbefore := hvia₁.exchanges
  have hafter := hvia₂.exchanges
  rw [hfront] at hkeeps hbefore
  rw [hback] at hafter
  have hj₁ := hkeeps.key hj (EntityKey.id_ne_null hjk hk)
  have hid : u₁.site.heap.id S i ≠ .ok .null := by
    rw [(Heap.key_eq_ok.1 hj₁).1]
    exact fun hn => EntityKey.id_ne_null hjk hk (Except.ok.inj hn)
  obtain ⟨x, hx, hsends, -⟩ := Action.run_insert_ok hid hinsert
  obtain ⟨xs, hxs⟩ := hbefore
  obtain ⟨ys, hys⟩ := hafter
  have hsent : u.site.outside.exchanges = w.site.outside.exchanges ++ (xs ++ [x]) ++ ys := by
    rw [← List.append_assoc, hxs, ← hsends.exchanges]
    exact hys.symm
  refine ⟨x, mem_sentBetween hsent ?_, .inl (hx.insertsRow hj₁ hjk)⟩
  exact List.mem_append_right _ (List.mem_singleton_self x)

theorem flush_fate {r : Except Error Unit} (hs : Sound S w) (hk : k.id ≠ .null) (hw : Awaited S k w)
    (h : (flush S).perform w = (r, v)) :
    Accounts S k ⟨w, .call .flush (r.map fun _ => []), v⟩ ∨ Fate S k w v := by
  have hinstances := flush_instances (S := S) w
  have hleft := flush_queues_or_emptied (S := S) w
  rw [h] at hinstances hleft
  cases htracked : w.session.context.get? k with
  | none => exact .inr (.untracked ((congrArg (·.get? k) hinstances).trans htracked))
  | some i =>
    have hwaits : Waits S k w := ⟨i, hw i htracked⟩
    cases r with
    | ok u => exact .inr (.stored (flush_stored hs hk hwaits h))
    | error e =>
      rcases hleft with hqueues | ⟨hempty, -⟩
      · refine .inr (.of_keepsKeys (congrArg (·.get? k) hqueues.context) hqueues.queued ?_)
        rw [hqueues.site]
        exact .refl S _
      · exact .inl (.discarded hwaits hempty)

theorem close_fate (w : Work (Recorded δ)) (k : EntityKey) :
    Fate S k w ((close S).perform w).2 := by
  rcases close_closed (S := S) w with ⟨-, hsame⟩ | ⟨hempty, -⟩
  · rw [← hsame]
    exact .refl S k w
  · exact .untracked (congrArg (·.get? k) hempty)

/-- A call accounts for a key or has one of its fates, unless it deletes the key. -/
theorem call_fate {c : Call} {r : Except Error (List InstanceId)} (hs : Sound S w)
    (h : (c.act S).perform w = (r, v)) (hk : k.id ≠ .null) (hd : ¬Deletes S k ⟨w, .call c r, v⟩)
    (hw : Awaited S k w) : Accounts S k ⟨w, .call c r, v⟩ ∨ Fate S k w v := by
  cases c with
  | find entity id =>
    obtain ⟨_, h, -⟩ := Act.perform_map_eq h
    obtain rfl := congrArg Prod.snd h
    exact .inr ((findById_fetched entity id w).fate (findById_growth entity id w).grows k)
  | ask request =>
    obtain rfl := congrArg Prod.snd h
    exact .inr ((askSession_fetched request w).fate (askSession_growth request w).grows k)
  | persist i =>
    obtain ⟨_, h, -⟩ := Act.perform_map_eq h
    obtain rfl := congrArg Prod.snd h
    exact .inr (persist_fate i w k)
  | delete i =>
    obtain ⟨_, hdelete, rfl⟩ := Act.perform_map_eq h
    refine .inr (delete_fate hdelete fun _ j hu hj => Bool.eq_false_iff.2 fun hjk => ?_)
    exact hd ⟨i, [], j, by rw [hu]; rfl, hj, hjk⟩
  | flush =>
    obtain ⟨_, hflush, rfl⟩ := Act.perform_map_eq h
    exact flush_fate hs hk hw hflush
  | close =>
    obtain ⟨_, h, -⟩ := Act.perform_map_eq h
    obtain rfl := congrArg Prod.snd h
    exact .inr (close_fate w k)

/-- A step accounts for a key, or the key is awaited. -/
theorem step_awaited {e : Event} (hs : Sound S w) (h : Step S w e v) (hk : k.id ≠ .null)
    (hd : ¬Deletes S k ⟨w, e, v⟩) (hids : LeavesIds S ⟨w, e, v⟩) (hw : Awaited S k w) :
    Accounts S k ⟨w, e, v⟩ ∨ Awaited S k v := by
  cases h with
  | elsewhere choices held transaction h =>
    exact .inr ((elsewhere_kept h (hids rfl) k).awaited hk hw)
  | call c h =>
    rcases call_fate hs h hk hd hw with haccounts | hfate
    · exact .inl haccounts
    · exact (hfate.awaited hk hw).imp_left .stored

end Calls

/-! ## Runs -/

section Runs

variable [Database δ] [Callbacks δ] {k : EntityKey} {w v : Work (Recorded δ)}
  {trace : List (Moment (Recorded δ))}

/-- In a run that does not delete a key, some moment accounts for it, or it is awaited in the end. -/
theorem run_awaited (hk : k.id ≠ .null) (hrun : Run (Step S) w trace v) (hs : Sound S w)
    (hw : Awaited S k w) (hleaves : ∀ x ∈ trace, ¬Deletes S k x ∧ LeavesIds S x) :
    (∃ x ∈ trace, Accounts S k x) ∨ Awaited S k v := by
  induction hrun with
  | nil => exact .inr hw
  | cons hstep hrest ih =>
    obtain ⟨⟨hdelete, hids⟩, hleaves⟩ := List.forall_mem_cons.1 hleaves
    rcases step_awaited hs hstep hk hdelete hids hw with haccounts | hawaited
    · exact .inl ⟨_, List.mem_cons_self, haccounts⟩
    · refine (ih (hs.step hstep) hawaited hleaves).imp_left ?_
      rintro ⟨x, hx, haccounts⟩
      exact ⟨x, List.mem_cons_of_mem _ hx, haccounts⟩

/-- If a key was made persistent and not deleted, and nothing accounts for it, then its insert waits. -/
theorem run_waits (hk : k.id ≠ .null) (hrun : Run (Step S) w trace v) (hs : Sound S w)
    (hw : Awaited S k w) (hleaves : ∀ x ∈ trace, ¬Deletes S k x ∧ LeavesIds S x)
    (hpersist : ∃ x ∈ trace, Persists S k x) (hv : v.session.isOpen = true) :
    (∃ x ∈ trace, Accounts S k x) ∨ Waits S k v := by
  rcases run_awaited hk hrun hs hw hleaves with haccounts | hawaited
  · exact .inl haccounts
  obtain ⟨p, hp, hpersist⟩ := hpersist
  obtain ⟨front, back, rfl⟩ := List.append_of_mem hp
  obtain ⟨u, -, hrun⟩ := Run.append_iff.1 hrun
  cases hrun with
  | cons hstep hback =>
    obtain ⟨i, hi⟩ := hpersist.tracked hk hstep
    have hundeleted (x) (hx : x ∈ back) : ¬Deletes S k x :=
      (hleaves x (List.mem_append_right _ (List.mem_cons_of_mem _ hx))).1
    exact .inr ⟨i, hawaited i (run_tracked hback hundeleted hv hi)⟩

/-- At the start and after a delete a key is not tracked. -/
theorem run_untracked (hrun : Run (Step S) w trace v) (hw : w.session.context.get? k = none)
    (hlast : ∀ x ∈ trace.getLast?, Deletes S k x) : v.session.context.get? k = none := by
  rcases trace.eq_nil_or_concat' with rfl | ⟨front, x, rfl⟩
  · cases hrun
    exact hw
  · obtain ⟨u, -, hx⟩ := Run.append_iff.1 hrun
    have hdelete : Deletes S k x := hlast x (by simp)
    cases hx with
    | cons hstep hrest =>
      cases hrest
      exact hdelete.untracked hstep

/-- If an instance was made persistent, its key was not deleted afterwards, and a later flush succeeds,
then something accounts for the key since it was deleted last. -/
theorem persisted_accounted {site : Site (Recorded δ)} {g : Gateway} {loader : Loader}
    {old recent : List (Moment (Recorded δ))} {last : Moment (Recorded δ)} {r : List InstanceId}
    (hk : k.id ≠ .null)
    (hrun : Run (Step S) ⟨site, .start g loader⟩ (old ++ (recent ++ [last])) v)
    (hold : ∀ x ∈ old.getLast?, Deletes S k x)
    (hrecent : ∀ x ∈ recent, ¬Deletes S k x ∧ LeavesIds S x)
    (hpersist : ∃ x ∈ recent, Persists S k x) (hlast : last.event = .call .flush (.ok r)) :
    ∃ x ∈ recent ++ [last], Accounts S k x := by
  obtain ⟨w, hrun₁, hrun⟩ := Run.append_iff.1 hrun
  obtain ⟨u, hrun₂, hrun₃⟩ := Run.append_iff.1 hrun
  have hsw : Sound S w := Reachable.sound ⟨site, g, loader, old, hrun₁⟩
  have hsu := hrun₂.invariant (P := Sound S) (fun _ _ hstep hs => hs.step hstep) hsw
  have hawaited : Awaited S k w := awaited_of_untracked (run_untracked hrun₁ rfl hold)
  cases hrun₃ with
  | @cons _ t _ e _ hstep hnil =>
    obtain rfl : e = .call .flush (.ok r) := hlast
    cases hstep with
    | call _ h =>
      obtain ⟨_, hflush, -⟩ := Act.perform_map_ok.1 h
      rcases run_waits hk hrun₂ hsw hawaited hrecent hpersist (flush_ok hflush).1 with
        ⟨x, hx, haccounts⟩ | hwaits
      · exact ⟨x, List.mem_append_left _ hx, haccounts⟩
      · exact ⟨_, List.mem_append_right _ (List.mem_singleton_self _),
          .stored (flush_stored hsu hk hwaits hflush)⟩

end Runs

end Session

/-! ## Notes that are made persistent -/

namespace Notes

/-- A note with a number. -/
def key (n : Int64) : EntityKey := ⟨"Note", .bigInt n⟩

/-- What happens when a session is called for something. -/
def moment (c : Session.Call) (w : Work (Recorded Rehearsal.Scene)) :
    Session.Moment (Recorded Rehearsal.Scene) :=
  ⟨w, .call c ((c.act schema).perform w).1, after c w⟩

/-- What happens when the program replaces the site. -/
def meanwhile (site : Site (Recorded Rehearsal.Scene)) (w : Work (Recorded Rehearsal.Scene)) :
    Session.Moment (Recorded Rehearsal.Scene) :=
  ⟨w, .elsewhere, { w with site := site }⟩

theorem leavesIds_moment (c : Session.Call) (w : Work (Recorded Rehearsal.Scene)) :
    Session.LeavesIds schema (moment c w) := by
  intro h
  cases h

/-- Whether the instance that is made persistent has a number, and the call succeeds. -/
def persists (n : Int64) (i : InstanceId) (w : Work (Recorded Rehearsal.Scene)) : Bool :=
  (((Session.Call.persist i).act schema).perform w).1.isOk &&
    match w.site.heap.key schema i with
    | .ok j => j == key n
    | .error _ => false

theorem persists_moment {n : Int64} {i : InstanceId} {w : Work (Recorded Rehearsal.Scene)}
    (h : persists n i w = true) : Session.Persists schema (key n) (moment (.persist i) w) := by
  rw [persists, Bool.and_eq_true] at h
  obtain ⟨r, hr⟩ := exists_of_isOk h.1
  have hkey := h.2
  split at hkey
  · next j hj => exact ⟨i, r, j, congrArg _ hr, hj, hkey⟩
  · cases hkey

/-- The first note is made persistent and written. -/
theorem accounted_stored :
    ∃ x ∈ [moment (.persist 0) opened] ++ [moment .flush (after (.persist 0) opened)],
      Session.Accounts schema (key 1) x := by
  have hrun : Run (Session.Step schema) opened
      ([] ++ ([moment (.persist 0) opened] ++ [moment .flush (after (.persist 0) opened)]))
      (after .flush (after (.persist 0) opened)) :=
    .cons (.call _ rfl) (.cons (.call _ rfl) (.nil _))
  have hflush : ((Session.Call.flush.act schema).perform (after (.persist 0) opened)).1.isOk = true := by
    decide +kernel
  obtain ⟨r, hr⟩ := exists_of_isOk hflush
  have hlast : (moment .flush (after (.persist 0) opened)).event = .call .flush (.ok r) :=
    congrArg _ hr
  refine Session.persisted_accounted (S := schema) (k := key 1) nofun hrun (by simp) ?_ ?_ hlast
  · refine List.forall_mem_singleton.2 ⟨?_, nofun⟩
    rintro ⟨i, r, j, hevent, -⟩
    cases hevent
  · exact ⟨_, List.mem_cons_self, persists_moment (by decide +kernel)⟩

/-- Whether a value is a number, in the form of a number of notes. -/
def isNumber (n : Int64) (v : Value) : Bool :=
  match v.cast .bigInt with
  | .ok id => id == .bigInt n
  | .error _ => false

/-- Whether a statement may have stored a note with a number, or brought one back. -/
def concerns (n : Int64) : Exchange → Bool
  | .insert _ _ values (.ok result) => values.any (isNumber n) || !result.keys.isEmpty
  | .query _ _ _ (.ok rows) => !rows.isEmpty
  | _ => false

theorem sqlType_of_metadata {m : Metadata} (h : schema.metadata "Note" = .ok m) :
    m.identifier.sqlType = .bigInt := by
  have htype : (schema.metadata "Note").map (fun m => m.identifier.sqlType) = .ok .bigInt := by
    decide +kernel
  rw [h] at htype
  exact Except.ok.inj htype

theorem concerns_of_stored {n : Int64} {w v : Work (Recorded Rehearsal.Scene)}
    (h : Session.Stored schema (key n) w v) : ∃ x ∈ sentBetween w v, concerns n x = true := by
  obtain ⟨x, hx, hinserts | hfetches⟩ := h
  · refine ⟨x, hx, ?_⟩
    obtain ⟨m, fields, values, result, hm, -, rfl, hvalue⟩ := hinserts
    rw [sqlType_of_metadata hm] at hvalue
    rw [concerns, Bool.or_eq_true]
    rcases hvalue with ⟨-, u, id, hu, hid, hsame⟩ | ⟨-, u, id, hu, -⟩
    · refine .inl (List.any_eq_true.2 ⟨u, (List.of_mem_zip hu).2, ?_⟩)
      rw [isNumber, hid]
      exact hsame
    · right
      cases hkeys : result.keys with
      | nil =>
        rw [InsertResult.generatedKey?, hkeys] at hu
        cases hu
      | cons => rfl
  · refine ⟨x, hx, ?_⟩
    obtain ⟨m, statement, values, rows, row, -, -, rfl, hrow, -⟩ := hfetches
    cases rows with
    | nil => cases hrow
    | cons => rfl

/-- The site with a connection that fails on the statements that contain a text. -/
def failing (text : Option String) (s : Site (Recorded Rehearsal.Scene)) :
    Site (Recorded Rehearsal.Scene) :=
  { s with outside := { s.outside with outside := { s.outside.outside with
    connections := #[.scripted { Rehearsal.ScriptedConnection.start "notes" with failOn := text }] } } }

/-- A session over a connection that refuses inserts. -/
def refused : Work (Recorded Rehearsal.Scene) :=
  ⟨failing (some "INSERT") site, .start ⟨0, false⟩ (.session 0)⟩

/-- The insert of the first note was discarded, and the connection works again. -/
def repaired : Work (Recorded Rehearsal.Scene) :=
  let w := after .flush (after (.persist 0) refused)
  { w with site := failing none w.site }

/-- The first note is tracked with another number, and the second note has taken over the old one. -/
def renumbered : Work (Recorded Rehearsal.Scene) :=
  let w := after (.persist 0) opened
  { w with site := { w.site with heap :=
    (w.site.heap.setRecord 0 (record 9 "a")).setRecord 1 (record 1 "b") } }

/-- In a run of a new session a key was made persistent and not deleted, and in the end a flush succeeds;
but no row for the key was inserted or came back. -/
structure Loses (k : EntityKey) (s : Site (Recorded Rehearsal.Scene))
    (trace : List (Session.Moment (Recorded Rehearsal.Scene))) (v : Work (Recorded Rehearsal.Scene)) :
    Prop where
  run : Run (Session.Step schema) ⟨s, .start ⟨0, false⟩ (.session 0)⟩ trace v
  persisted : ∃ x ∈ trace, Session.Persists schema k x
  undeleted : ∀ x ∈ trace, ¬Session.Deletes schema k x
  flushed : ∃ x ∈ trace.getLast?, ∃ r, x.event = .call .flush (.ok r)
  unstored : ∀ x ∈ trace, ¬Session.Stored schema k x.before x.after

/-- Whether the first note may have been deleted or stored in a run. -/
def suspects (x : Session.Moment (Recorded Rehearsal.Scene)) : Bool :=
  (match x.event with
    | .call (.delete _) _ => true
    | _ => false) || (sentBetween x.before x.after).any (concerns 1)

theorem loses_of_unsuspected {s : Site (Recorded Rehearsal.Scene)} {i : InstanceId}
    {w u v : Work (Recorded Rehearsal.Scene)} {trace : List (Session.Moment (Recorded Rehearsal.Scene))}
    (hrun : Run (Session.Step schema) ⟨s, .start ⟨0, false⟩ (.session 0)⟩ (trace ++ [moment .flush u]) v)
    (hpersist : moment (.persist i) w ∈ trace) (hpersists : persists 1 i w = true)
    (hflush : ((Session.Call.flush.act schema).perform u).1.isOk = true)
    (hall : (trace ++ [moment .flush u]).any suspects = false) :
    Loses (key 1) s (trace ++ [moment .flush u]) v := by
  have hnone (x) (hx : x ∈ trace ++ [moment .flush u]) : suspects x = false := by
    simpa using List.any_eq_false.1 hall x hx
  refine ⟨hrun, ⟨_, List.mem_append_left _ hpersist, persists_moment hpersists⟩, fun x hx hdelete => ?_,
    ⟨moment .flush u, by simp, ?_⟩, fun x hx hstored => ?_⟩
  · obtain ⟨_, _, _, hevent, -⟩ := hdelete
    have h := hnone x hx
    rw [suspects, hevent] at h
    cases h
  · obtain ⟨r, hr⟩ := exists_of_isOk hflush
    exact ⟨r, congrArg _ hr⟩
  · obtain ⟨y, hy, hconcerns⟩ := concerns_of_stored hstored
    have h := (Bool.or_eq_false_iff.1 (hnone x hx)).2
    rw [List.any_eq_false] at h
    exact h y hy hconcerns

/-- A note is lost when a flush fails: it is tracked and clean, nothing waits, and it was never
inserted.  And without a failure a note is lost when a tracked one has got another number before. -/
theorem lost_unnoticed :
    (∃ s trace v, Loses (key 1) s trace v ∧ (∀ x ∈ trace, Session.LeavesIds schema x) ∧
      v.session.context.contains (key 1) = true ∧ v.session.queue.pending = [] ∧
        v.session.context.isDirty schema v.site.heap (key 1) = .ok false) ∧
    ∃ s trace v, Loses (key 1) s trace v ∧ ∀ x ∈ trace, ∀ e, x.event ≠ .call .flush (.error e) := by
  constructor
  · have hrun : Run (Session.Step schema) refused
        ([moment (.persist 0) refused, moment .flush (after (.persist 0) refused),
          meanwhile repaired.site (after .flush (after (.persist 0) refused))] ++
          [moment .flush repaired]) (after .flush repaired) := by
      refine .cons (.call _ rfl) (.cons (.call _ rfl) (.cons ?_ (.cons (.call _ rfl) (.nil _))))
      exact .elsewhere _ _ _ (.refl _)
    have hloses := loses_of_unsuspected hrun List.mem_cons_self (by decide +kernel) (by decide +kernel)
      (by decide +kernel)
    refine ⟨_, _, _, hloses, ?_, by decide +kernel, List.isEmpty_iff.1 (by decide +kernel),
      by decide +kernel⟩
    refine List.forall_mem_append.2 ⟨?_, List.forall_mem_singleton.2 (leavesIds_moment _ _)⟩
    refine List.forall_mem_cons.2 ⟨leavesIds_moment _ _, ?_⟩
    refine List.forall_mem_cons.2 ⟨leavesIds_moment _ _, ?_⟩
    exact List.forall_mem_singleton.2 fun _ _ _ _ hid => hid
  · have hrun : Run (Session.Step schema) opened
        ([moment (.persist 0) opened, meanwhile renumbered.site (after (.persist 0) opened),
          moment (.persist 1) renumbered] ++ [moment .flush (after (.persist 1) renumbered)])
        (after .flush (after (.persist 1) renumbered)) := by
      refine .cons (.call _ rfl) (.cons ?_ (.cons (.call _ rfl) (.cons (.call _ rfl) (.nil _))))
      refine .elsewhere _ _ _ ?_
      exact (Heap.setRecord_keepsTypes _ _ _).trans (Heap.setRecord_keepsTypes _ _ _)
    have hloses := loses_of_unsuspected hrun List.mem_cons_self (by decide +kernel) (by decide +kernel)
      (by decide +kernel)
    refine ⟨_, _, _, hloses, ?_⟩
    have hflush : ((Session.Call.flush.act schema).perform (after (.persist 1) renumbered)).1.isOk =
        true := by decide +kernel
    obtain ⟨r, hr⟩ := exists_of_isOk hflush
    intro x hx e he
    simp only [List.cons_append, List.nil_append, List.mem_cons, List.not_mem_nil, or_false] at hx
    rcases hx with rfl | rfl | rfl | rfl
    · cases he
    · cases he
    · cases he
    · rw [moment, hr] at he
      cases he

end Notes

end EntitySession
