import EntitySession.World
import EntitySession.Proofs.Sites

/-!
# What happens to a session

All that a session ever does to itself and to the site it works on consists of a few kinds of changes
(`Work.Change`): the site changes, an instance is tracked or is so no longer, a write is queued, the
queue is taken away, a baseline is renewed, a choice is drawn, the session closes.  Finding and loading
get by with two of them (`Work.Growth`): the site grows, and instances are tracked.

An invariant of sessions has to be looked at once for each kind, and then holds whatever is called.
-/

set_option autoImplicit false

namespace EntitySession

variable {δ α : Type}

/-- Whether a session with the given gateway queues such an action. -/
def Action.Belongs (g : Gateway) (h : Heap) : Action → Prop
  | insert g' entity i => g' = g ∧ ∃ x, h.instances[i]? = some x ∧ x.entity = entity
  | update g' _ _ => g' = g
  | delete g' _ => g' = g
  | outside _ _ _ => False

namespace Work

/-- What finding and loading do: the site grows, and instances are tracked. -/
inductive Growth [Database δ] [Callbacks δ] (S : Schema) : Work δ → Work δ → Prop
  | site (w : Work δ) {t : Site δ} (h : Site.Growth S w.site t) : Growth S w { w with site := t }
  | tracked (w : Work δ) {i : InstanceId} {c : Context}
      (h : w.session.context.put S w.site.heap i = .ok c) :
      Growth S w { w with session := { w.session with context := c } }

/-- What a session does. -/
inductive Change [Database δ] [Callbacks δ] (S : Schema) : Work δ → Work δ → Prop
  | growth {w v : Work δ} (h : Growth S w v) : Change S w v
  | site (w : Work δ) {t : Site δ} (h : Site.Change S w.site t) : Change S w { w with site := t }
  | untracked (w : Work δ) (k : EntityKey) :
      Change S w { w with session := { w.session with context := w.session.context.remove k } }
  | queued (w : Work δ) {a : Action} (h : a.Belongs w.session.gateway w.site.heap) :
      Change S w { w with session := { w.session with queue := w.session.queue.push a } }
  | taken (w : Work δ) : Change S w { w with session := { w.session with queue := .empty } }
  | renewed (w : Work δ) {k : EntityKey} {c : Context}
      (h : w.session.context.refresh S w.site.heap k = .ok c) :
      Change S w { w with session := { w.session with context := c } }
  | chosen (w : Work δ) (c : Choices) :
      Change S w { w with session := { w.session with choices := c } }
  | closed (w : Work δ) : Change S w { w with session := { w.session with isOpen := false } }
  | cleared (w : Work δ) :
      Change S w { w with session := { w.session with queue := .empty, context := .empty } }

/-! ## The parts of acts -/

@[simp] theorem perform_look (f : Session → Heap → Except Error α) (w : Work δ) :
    (look f).perform w = (f w.session w.site.heap, w) := rfl

theorem perform_look_of_ok {f : Session → Heap → Except Error α} {w : Work δ} {a : α}
    (h : f w.session w.site.heap = .ok a) : (look f).perform w = (.ok a, w) := by
  rw [perform_look, h]

@[simp] theorem perform_onSite (x : Act (Site δ) α) (w : Work δ) :
    (onSite x).perform w = ((x.perform w.site).1, { w with site := (x.perform w.site).2 }) := rfl

theorem perform_onSite_ok {x : Act (Site δ) α} {w v : Work δ} {a : α} :
    (onSite x).perform w = (.ok a, v) ↔
      ∃ t, x.perform w.site = (.ok a, t) ∧ v = { w with site := t } := by
  rw [perform_onSite, Prod.mk.injEq]
  constructor
  · rintro ⟨hr, rfl⟩
    exact ⟨_, Prod.ext hr rfl, rfl⟩
  · rintro ⟨t, ht, rfl⟩
    rw [ht]
    exact ⟨rfl, rfl⟩

/-- A chain that begins on the site. -/
theorem after_onSite_bind {β : Type} {P : Work δ → Prop} {x : Act (Site δ) α} {f : α → Act (Work δ) β}
    {w : Work δ}
    (hok : ∀ a t, x.perform w.site = (.ok a, t) → P ((f a).perform { w with site := t }).2)
    (herror : ∀ e t, x.perform w.site = (.error e, t) → P { w with site := t }) :
    P ((onSite x >>= f).perform w).2 := by
  refine Act.after_bind (fun a v hv => ?_) fun e v hv => ?_
  · obtain ⟨t, ht, rfl⟩ := perform_onSite_ok.1 hv
    exact hok a t ht
  · rw [perform_onSite, Prod.mk.injEq] at hv
    exact hv.2 ▸ herror e _ (Prod.ext hv.1 rfl)

theorem perform_modifyContext_ok {f : Heap → Context → Except Error Context} {w v : Work δ} :
    (modifyContext f).perform w = (.ok (), v) ↔
      ∃ c, f w.site.heap w.session.context = .ok c ∧
        v = { w with session := { w.session with context := c } } := by
  rw [modifyContext, Act.perform_of]
  cases f w.site.heap w.session.context with
  | error e => simp
  | ok c => simp [eq_comm]

/-- A change of the context that fails changes nothing. -/
theorem perform_modifyContext_error {f : Heap → Context → Except Error Context} {w : Work δ}
    {e : Error} (h : f w.site.heap w.session.context = .error e) :
    (modifyContext f).perform w = (.error e, w) := by
  rw [modifyContext, Act.perform_of, h]

/-- A change of the context that has failed has changed nothing. -/
theorem of_modifyContext_error {f : Heap → Context → Except Error Context} {w v : Work δ} {e : Error}
    (h : (modifyContext f).perform w = (.error e, v)) :
    f w.site.heap w.session.context = .error e ∧ v = w := by
  cases hc : f w.site.heap w.session.context with
  | error e' =>
    rw [perform_modifyContext_error hc] at h
    obtain ⟨he, rfl⟩ := Prod.mk.inj h
    exact ⟨congrArg Except.error (Except.error.inj he), rfl⟩
  | ok c =>
    rw [perform_modifyContext_ok.2 ⟨c, hc, rfl⟩] at h
    cases h

/-- A change of the context is whatever its computation makes of it. -/
theorem modifyContext_via {R : Work δ → Work δ → Prop} {f : Heap → Context → Except Error Context}
    (w : Work δ) (h : ∀ c, f w.site.heap w.session.context = .ok c →
      R w { w with session := { w.session with context := c } }) : (modifyContext f).Via R w := by
  cases hf : f w.site.heap w.session.context with
  | error e => rw [Act.Via, perform_modifyContext_error hf]
  | ok c =>
    rw [Act.Via, perform_modifyContext_ok.2 ⟨c, hf, rfl⟩]
    exact .single (h c hf)

variable [Database δ] [Callbacks δ] {S : Schema}

theorem onSite_growth {x : Act (Site δ) α} {w : Work δ} (h : x.Via (Site.Growth S) w.site) :
    (onSite x).Via (Growth S) w :=
  .within rfl (fun t _ h => .site { w with site := t } h) h

theorem onSite_change {x : Act (Site δ) α} {w : Work δ} (h : x.Via (Site.Change S) w.site) :
    (onSite x).Via (Change S) w :=
  .within rfl (fun t _ h => .site { w with site := t } h) h

theorem put_growth (i : InstanceId) (w : Work δ) :
    (modifyContext fun h c => c.put S h i).Via (Growth S) w :=
  modifyContext_via w fun _ h => .tracked w h

end Work

namespace Work.Change

variable [Database δ] [Callbacks δ] {S : Schema} {w v : Work δ}

theorem keepsTypes (h : Change S w v) : w.site.heap.KeepsTypes v.site.heap := by
  cases h with
  | growth h =>
    cases h with
    | site h => exact h.extends.keepsTypes
    | tracked => exact .refl _
  | site h => exact h.keepsTypes
  | _ => exact .refl _

theorem keepsIds (h : Change S w v) : w.site.heap.KeepsIds S v.site.heap := by
  cases h with
  | growth h =>
    cases h with
    | site h => exact h.extends.keepsIds S
    | tracked => exact .refl S _
  | site h => exact h.keepsIds
  | _ => exact .refl S _

/-- A session that is open now has never been closed. -/
theorem isOpen (h : Change S w v) (hv : v.session.isOpen = true) : w.session.isOpen = true := by
  cases h with
  | growth h => cases h <;> exact hv
  | closed => cases hv
  | _ => exact hv

end Work.Change

/-- Who had a key still has it. -/
theorem Act.Via.keepsKeys [Database δ] [Callbacks δ] {S : Schema} {x : Act (Work δ) α} {w : Work δ}
    (h : x.Via (Work.Change S) w) : w.site.heap.KeepsKeys S (x.perform w).2.site.heap := by
  refine h.invariant (P := fun v : Work δ => w.site.heap.KeepsKeys S v.site.heap) ?_ (.refl S _)
  exact fun _ _ hstep hv => hv.trans ⟨hstep.keepsTypes, hstep.keepsIds⟩

theorem Act.Via.isOpen [Database δ] [Callbacks δ] {S : Schema} {x : Act (Work δ) α} {w : Work δ}
    (h : x.Via (Work.Change S) w) (hv : (x.perform w).2.session.isOpen = true) :
    w.session.isOpen = true := by
  refine h.invariant (P := fun v : Work δ => v.session.isOpen = true → w.session.isOpen = true) ?_
    (fun hw => hw) hv
  exact fun _ _ hstep hw hv => hw (hstep.isOpen hv)

/-- What goes by growth goes by changes. -/
theorem Act.Via.changes [Database δ] [Callbacks δ] {S : Schema} {x : Act (Work δ) α} {w : Work δ}
    (h : x.Via (Work.Growth S) w) : x.Via (Work.Change S) w := h.mono fun _ _ => .growth

namespace Session

theorem ensureOpen_open {w : Work δ} (h : w.session.isOpen = true) :
    ensureOpen.perform w = (.ok (), w) := by
  rw [ensureOpen, Work.perform_look, if_pos h]

/-- Only an open session goes on. -/
theorem ensureOpen_ok {w v : Work δ} {u : Unit} (h : ensureOpen.perform w = (.ok u, v)) :
    w.session.isOpen = true ∧ w = v := by
  rw [ensureOpen, Work.perform_look] at h
  split at h
  · next hopen => exact ⟨hopen, (Prod.mk.inj h).2⟩
  · cases h

theorem ensureOpen_error {w v : Work δ} {e : Error} (h : ensureOpen.perform w = (.error e, v)) :
    w.session.isOpen = false ∧ v = w := by
  rw [ensureOpen, Work.perform_look] at h
  split at h
  · cases h
  · next hclosed => exact ⟨Bool.eq_false_iff.2 hclosed, (Prod.mk.inj h).2.symm⟩

variable [Database δ] [Callbacks δ] {S : Schema}

/-! ## Finding and loading -/

theorem adopt_growth (k : EntityKey) (loaded : InstanceId) (w : Work δ) :
    (adopt S k loaded).Via (Work.Growth S) w := by
  refine .bind (.reading _) fun found v _ => ?_
  cases found with
  | some tracked => exact .pure _
  | none => exact .bind (Work.put_growth loaded v) fun _ _ _ => .reading _

theorem adoptAll_growth (is : List InstanceId) (w : Work δ) :
    (adoptAll S is).Via (Work.Growth S) w := by
  induction is generalizing w with
  | nil => exact .pure _
  | cons i rest ih =>
    refine .bind (.reading _) fun k v _ => ?_
    refine .bind (adopt_growth k i v) fun _ v _ => ?_
    exact .bind (ih v) fun _ _ _ => .pure _

theorem find_growth (entity : String) (id : Value) (w : Work δ) :
    (find S entity id).Via (Work.Growth S) w := by
  refine .bind (.reading _) fun _ v _ => ?_
  refine .bind (.lift _) fun k v _ => ?_
  refine .bind (.reading _) fun found v _ => ?_
  cases found with
  | some tracked => exact .pure _
  | none =>
    refine .bind (.reading _) fun s v _ => ?_
    refine .bind (Work.onSite_growth (Gateway.findById_growth _ _ _ _)) fun loaded v _ => ?_
    cases loaded with
    | none => exact .pure _
    | some i => exact .map _ (adopt_growth k i v)

theorem loadMany_growth (q : AssociationQuery) (w : Work δ) :
    (loadMany S q).Via (Work.Growth S) w := by
  refine .bind (.reading _) fun _ v _ => ?_
  refine .bind (.reading _) fun s v _ => ?_
  refine .bind (Work.onSite_growth (Gateway.findAssociated_growth _ _ _)) fun loaded v _ => ?_
  exact adoptAll_growth loaded v

theorem findById_growth (entity : String) (id : Value) (w : Work δ) :
    (findById S entity id).Via (Work.Growth S) w := by
  refine .bind (find_growth entity id w) fun found v _ => ?_
  cases found with
  | none => exact .pure _
  | some i =>
    refine .bind (.reading _) fun _ v _ => ?_
    split
    · exact .pure _
    · exact .throw _

theorem askSession_growth (request : Request) (w : Work δ) :
    (World.askSession S request).Via (Work.Growth S) w := by
  cases request with
  | byKey target id => exact .bind (find_growth target id w) fun _ _ _ => .pure _
  | byQuery query => exact loadMany_growth query w

/-! ## Writing -/

theorem enqueue_change {a : Session → Action} {w : Work δ}
    (h : (a w.session).Belongs w.session.gateway w.site.heap) : (enqueue a).Via (Work.Change S) w :=
  .of (.queued w h)

theorem persist_change (i : InstanceId) (w : Work δ) : (persist S i).Via (Work.Change S) w := by
  refine .bind (.reading _) fun _ v _ => ?_
  refine .bind (.reading _) fun id v hv => ?_
  obtain ⟨hid, rfl⟩ := Prod.mk.inj hv
  refine .bind (.reading _) fun s v hv => ?_
  obtain ⟨-, rfl⟩ := Prod.mk.inj hv
  split
  · refine .bind (Work.onSite_change (Gateway.save_change _ i _)) fun _ v _ => ?_
    exact (Work.put_growth i v).changes
  · refine .bind (.reading _) fun entity v hv => ?_
    obtain ⟨hentity, rfl⟩ := Prod.mk.inj hv
    split
    · exact .pure _
    · obtain ⟨x, hx⟩ := Heap.exists_of_id hid
      have hbelongs : ∃ x, v.site.heap.instances[i]? = some x ∧ x.entity = entity :=
        ⟨x, hx, by rw [← Heap.typeOf_of_some hx]; exact Except.ok.inj hentity⟩
      refine .bind (enqueue_change ⟨rfl, hbelongs⟩) fun _ v _ => ?_
      exact (Work.put_growth i v).changes

theorem delete_change (i : InstanceId) (w : Work δ) : (delete S i).Via (Work.Change S) w := by
  refine .bind (.reading _) fun _ v _ => ?_
  refine .bind (.reading _) fun k v _ => ?_
  split
  · exact .throw _
  · refine .bind (enqueue_change rfl) fun _ v _ => ?_
    exact .of (.untracked v k)

/-! ## Flushing and closing -/

theorem dirtyEntities_change (w : Work δ) : (dirtyEntities S).Via (Work.Change S) w := by
  refine .bind (.reading _) fun s v _ => ?_
  refine .bind (.of (.chosen v _)) fun _ v _ => ?_
  exact .reading _

theorem enqueueUpdates_change (dirty : List (EntityKey × InstanceId)) (w : Work δ) :
    (enqueueUpdates S dirty).Via (Work.Change S) w := by
  induction dirty generalizing w with
  | nil => exact .pure _
  | cons e rest ih =>
    refine .bind (.reading _) fun columns v _ => ?_
    exact .bind (enqueue_change rfl) fun _ v _ => ih v

theorem scheduleUpdates_change (w : Work δ) : (scheduleUpdates S).Via (Work.Change S) w := by
  refine .bind (dirtyEntities_change w) fun dirty v _ => ?_
  exact .bind (enqueueUpdates_change dirty v) fun _ _ _ => .pure _

theorem run_change (a : Action) (w : Work δ) : (a.run S).Via (Work.Change S) w := by
  cases a with
  | insert g entity i => exact Work.onSite_change (Gateway.save_change g i _)
  | update g k columns =>
    refine .bind (Work.onSite_growth (Gateway.update_growth g k columns _)).changes fun _ v _ => ?_
    exact Work.modifyContext_via v fun _ h => .renewed v h
  | delete g k =>
    refine .bind (Work.onSite_growth (Gateway.deleteByKey_growth g k _)).changes fun _ v _ => ?_
    exact .pure _
  | outside number name priority =>
    exact (Work.onSite_growth (Site.call_growth (.performAction number) _)).changes

theorem each_change (as : List Action) (w : Work δ) :
    (Act.each (Action.run S) as).Via (Work.Change S) w := by
  induction as generalizing w with
  | nil => exact .pure _
  | cons a as ih => exact .bind (run_change a w) fun _ v _ => ih v

theorem drainRounds_change (rounds : Nat) (q : Queue) (c : Choices) (executed : Nat) (w : Work δ) :
    Relation.ReflTransGen (Work.Change S) w
      (Queue.drainRounds (Action.run S) rounds q c executed w).1.2 := by
  induction rounds generalizing q c executed w with
  | zero => exact .refl
  | succ rounds ih =>
    rw [Queue.drainRounds]
    split
    · exact .refl
    · next a q c _ =>
      have hrun := run_change (S := S) a w
      rw [Act.Via] at hrun
      split
      · next v hv =>
        rw [hv] at hrun
        exact hrun.trans (ih q c _ v)
      · next e v hv =>
        rw [hv] at hrun
        exact hrun

theorem drain_change (q : Queue) (w : Work δ) : (drain S q).Via (Work.Change S) w :=
  (drainRounds_change q.size q w.session.choices 0 w).tail (.chosen _ _)

theorem flush_change (w : Work δ) : (flush S).Via (Work.Change S) w := by
  refine .bind (.reading _) fun _ v _ => ?_
  refine .bind (scheduleUpdates_change v) fun _ v _ => ?_
  refine .bind (.of (.taken v)) fun q v _ => ?_
  exact .bind (drain_change q v) fun _ _ _ => .pure _

theorem close_change (w : Work δ) : (close S).Via (Work.Change S) w := by
  refine .bind (.reading _) fun s v _ => ?_
  split
  · exact .pure _
  · refine .bind (.of (.closed v)) fun _ v _ => ?_
    refine .bind (scheduleUpdates_change v).outcome fun _ v _ => ?_
    refine .bind (.of (.cleared v)) fun _ v _ => ?_
    refine .bind (Work.onSite_growth (Site.call_growth (.close _) _)).changes.outcome fun _ v _ => ?_
    exact .lift _

end Session

end EntitySession
