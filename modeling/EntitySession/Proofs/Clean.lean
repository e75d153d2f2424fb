import EntitySession.Proofs.Calls
import EntitySession.Proofs.Flush
import EntitySession.Proofs.ForeignKeys

/-!
# Sessions in which nothing is dirty

Finding and loading track instances as they are, so they make nothing dirty (`Session.Clean.growth`).
A flush with nothing dirty has nothing to update: unless an update waits already, none of the statements
that it sends is an update, and this whether it succeeds or fails half way
(`Session.flush_sendsNoUpdate`).
-/

set_option autoImplicit false

namespace EntitySession

variable {δ : Type} {S : Schema}

/-! ## Updates among the statements -/

/-- Texts that begin with different letters are different. -/
theorem append_ne_append {s t : String} {a b : Char} (hs : s.toList.head? = some a)
    (ht : t.toList.head? = some b) (hab : a ≠ b) (u v : String) : s ++ u ≠ t ++ v := by
  intro h
  have hhead : (s ++ u).toList.head? = (t ++ v).toList.head? := by rw [h]
  rw [String.toList_append, String.toList_append, List.head?_append, List.head?_append, hs, ht] at hhead
  exact hab (Option.some.inj hhead)

theorem head?_update : "UPDATE ".toList.head? = some 'U' := by decide +kernel

theorem Statement.render_insert_ne (table : String) (columns : List String) (rest : String) :
    (insert table columns).render ≠ "UPDATE " ++ rest := by
  have hrender : (insert table columns).render = "INSERT INTO " ++ table ++ " (" ++ commas columns
      ++ ") VALUES (" ++ commas (columns.map fun _ => "?") ++ ")" := rfl
  have hhead : "INSERT INTO ".toList.head? = some 'I' := by decide +kernel
  simp only [hrender, String.append_assoc]
  exact append_ne_append hhead head?_update (by decide) _ _

theorem Statement.render_delete_ne (table idColumn rest : String) :
    (delete table idColumn).render ≠ "UPDATE " ++ rest := by
  have hrender : (delete table idColumn).render =
      "DELETE FROM " ++ table ++ " WHERE " ++ idColumn ++ " = ?" := rfl
  have hhead : "DELETE FROM ".toList.head? = some 'D' := by decide +kernel
  simp only [hrender, String.append_assoc]
  exact append_ne_append hhead head?_update (by decide) _ _

/-- The statement that was sent is an update. -/
def Exchange.IsUpdate (x : Exchange) : Prop := ∃ rest, x.sql = "UPDATE " ++ rest

/-- Statements were sent, and none of them is an update. -/
def Site.SendsNoUpdate (s t : Site (Recorded δ)) : Prop :=
  ∃ xs, t.outside.exchanges = s.outside.exchanges ++ xs ∧ ∀ x ∈ xs, ¬x.IsUpdate

namespace Site.SendsNoUpdate

variable {s t u : Site (Recorded δ)}

theorem of_same (h : t.outside.exchanges = s.outside.exchanges) : s.SendsNoUpdate t :=
  ⟨[], by rw [h, List.append_nil], by simp⟩

theorem trans (h : s.SendsNoUpdate t) (h' : t.SendsNoUpdate u) : s.SendsNoUpdate u := by
  obtain ⟨xs, hxs, hnone⟩ := h
  obtain ⟨ys, hys, hnone'⟩ := h'
  refine ⟨xs ++ ys, by rw [hys, hxs, List.append_assoc], fun x hx => ?_⟩
  exact (List.mem_append.1 hx).elim (hnone x) (hnone' x)

end Site.SendsNoUpdate

namespace Gateway

theorem writeIdentifier_exchanges (m : Metadata) (sql : String) (i : InstanceId) (result : InsertResult)
    (s : Site (Recorded δ)) :
    ((writeIdentifier S m sql i result).perform s).2.outside.exchanges = s.outside.exchanges := by
  let P (t : Site (Recorded δ)) : Prop := t.outside.exchanges = s.outside.exchanges
  unfold writeIdentifier
  split
  · rfl
  · refine Act.after_lift_bind (P := P) (fun id _ => ?_) rfl
    have hvia := Site.change_via (R := fun t u => u.outside = t.outside)
      (f := fun h => do
        let h ← (h.set S i m.identifier.name id).mapError
          (fault m .cannotWriteIdentifier sql (some id)).causedBy
        .ok ((), h)) s fun _ _ _ => rfl
    refine hvia.invariant (P := P) (fun t u htu ht => ?_) rfl
    change u.outside.exchanges = _
    rw [htu]
    exact ht

variable [Database δ]

theorem send_insert_sendsNoUpdate {g : Gateway} {table : String} {columns : List String} {f : Fault}
    {values : List Value} {s t : Site (Recorded δ)} {r : Except Error InsertResult}
    (h : (g.send (Statement.insert table columns).render f
      (Database.insert g.connection (Statement.insert table columns).render values)).perform s =
        (r, t)) :
    s.SendsNoUpdate t := by
  obtain rfl := congrArg Prod.snd h
  refine ⟨_, rfl, fun x hx => ?_⟩
  rintro ⟨rest, hrest⟩
  rw [List.mem_singleton.1 hx] at hrest
  exact Statement.render_insert_ne _ _ _ hrest

theorem save_sendsNoUpdate (g : Gateway) (i : InstanceId) (s : Site (Recorded δ)) :
    s.SendsNoUpdate ((g.save S i).perform s).2 := by
  rw [save_eq]
  refine Act.after_reading_bind (fun n _ => ?_) (.of_same rfl)
  refine Act.after_bind (fun result t ht => ?_) fun _ t ht => ?_
  · refine (send_insert_sendsNoUpdate ht).trans (.of_same ?_)
    unfold afterInsert
    split
    · rfl
    · split
      · exact writeIdentifier_exchanges ..
      · rfl
  · exact send_insert_sendsNoUpdate ht

theorem deleteByKey_sendsNoUpdate (g : Gateway) (k : EntityKey) (s : Site (Recorded δ)) :
    s.SendsNoUpdate ((g.deleteByKey S k).perform s).2 := by
  refine Act.after_lift_bind (fun m _ => ?_) (.of_same rfl)
  refine ⟨_, rfl, fun x hx => ?_⟩
  rintro ⟨rest, hrest⟩
  rw [List.mem_singleton.1 hx] at hrest
  exact Statement.render_delete_ne _ _ _ hrest

end Gateway

/-- An action that is no update sends none. -/
theorem Action.run_sendsNoUpdate [Database δ] [Callbacks δ] {a : Action} {g : Gateway} {h : Heap}
    (ha : a.isUpdate = false) (hbelongs : a.Belongs g h) (w : Work (Recorded δ)) :
    w.site.SendsNoUpdate ((a.run S).perform w).2.site := by
  cases a with
  | insert g' entity i => exact Gateway.save_sendsNoUpdate g' i w.site
  | update => cases ha
  | delete g' k =>
    have hsend := Gateway.deleteByKey_sendsNoUpdate (S := S) g' k w.site
    refine Work.after_onSite_bind (P := fun v => w.site.SendsNoUpdate v.site) (fun _ t ht => ?_)
      fun _ t ht => ?_
    · rw [ht] at hsend
      exact hsend
    · rw [ht] at hsend
      exact hsend
  | outside => exact hbelongs.elim

namespace Session

/-- Nothing that the session tracks is dirty. -/
def Clean (S : Schema) (w : Work δ) : Prop :=
  ∀ k, w.session.context.isDirty S w.site.heap k = .ok false

theorem clean_iff {w : Work δ} (hw : Sound S w) :
    Clean S w ↔ w.session.context.Clean S w.site.heap := by
  constructor
  · intro hclean e he
    rw [← hw.context.isDirty_of_mem he]
    exact hclean e.1
  · exact fun hclean => hw.context.forall_isDirty hclean

/-! ## Flushing -/

/-- If nothing is dirty, no update is queued. -/
theorem scheduleUpdates_clean {w v : Work δ} {n : Nat} (hw : Sound S w) (hclean : Clean S w)
    (h : (scheduleUpdates S).perform w = (.ok n, v)) :
    v.site = w.site ∧ v.session.queue = w.session.queue := by
  obtain ⟨tracked, dirty, updates, choices, hperm, hdirty, hupdates, rfl⟩ := scheduleUpdates_ok h
  have hnone : w.session.context.dirtyAmong S w.site.heap tracked = .ok [] :=
    Context.dirtyAmong_of_clean fun e he => (clean_iff hw).1 hclean e (hperm.mem_iff.1 he)
  obtain rfl : dirty = [] := Except.ok.inj (hdirty.symm.trans hnone)
  cases hupdates
  exact ⟨rfl, by rw [List.append_nil]⟩

variable [Database δ] [Callbacks δ]

/-- A flush with nothing dirty sends no update, unless one waits already. -/
theorem flush_sendsNoUpdate {w : Work (Recorded δ)} (hw : Sound S w) (hclean : Clean S w)
    (hqueue : ∀ a ∈ w.session.queue.pending, a.isUpdate = false) :
    w.site.SendsNoUpdate ((flush S).perform w).2.site := by
  let P (v : Work (Recorded δ)) : Prop := w.site.SendsNoUpdate v.site
  have hnothing : P w := .of_same rfl
  refine Act.after_reading_bind (P := P) (fun _ _ => ?_) hnothing
  refine Act.after_bind (fun n v hv => ?_) fun _ v hv => ?_
  · obtain ⟨hsite, hpending⟩ := scheduleUpdates_clean hw hclean hv
    refine Act.after_bind (fun q u hu => ?_) fun _ _ hu => by cases hu
    obtain ⟨hq, rfl⟩ := Prod.mk.inj hu
    obtain rfl : w.session.queue = q := hpending.symm.trans (Except.ok.inj hq)
    have hdrain : P ((drain S w.session.queue).perform
        { v with session := { v.session with queue := .empty } }).2 := by
      refine Queue.drain_invariant (P := P) (fun a ha u hu => hu.trans ?_) (hsite ▸ hnothing)
      exact Action.run_sendsNoUpdate (hqueue a ha) (hw.queued a ha) u
    refine Act.after_bind (fun _ t ht => ?_) fun _ t ht => ?_
    · rw [ht] at hdrain
      exact hdrain
    · rw [ht] at hdrain
      exact hdrain
  · have hqueues := (scheduleUpdates_queues (S := S) w).site
    rw [hv] at hqueues
    exact .of_same (by rw [hqueues])

/-! ## Finding and loading -/

/-- Finding and loading make nothing dirty. -/
theorem Clean.growth {w v : Work δ} (hclean : Clean S w) (hw : Sound S w) (h : Work.Growth S w v) :
    Clean S v := by
  have hv := hw.growth h
  rw [clean_iff hw] at hclean
  rw [clean_iff hv]
  cases h with
  | site h =>
    intro e he
    obtain ⟨x, hx, -⟩ := (hw.context.entry e he).isInstance
    have hkeys : Heap.KeepsForeignKeys S e.2 w.site.heap _ := fun f _ =>
      h.extends.keepsForeignKey e.2 f.1
    exact hkeys.differs (h.extends.keepsValues S) hx (hclean e he)
  | tracked h => exact Context.clean_put h hclean

theorem Clean.growths {w v : Work δ} (hclean : Clean S w) (hw : Sound S w)
    (h : Relation.ReflTransGen (Work.Growth S) w v) : Sound S v ∧ Clean S v := by
  induction h with
  | refl => exact ⟨hw, hclean⟩
  | tail _ h ih => exact ⟨ih.1.growth h, ih.2.growth ih.1 h⟩

end Session

end EntitySession
