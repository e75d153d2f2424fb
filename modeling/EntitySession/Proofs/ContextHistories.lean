import EntitySession.Proofs.Reading
import EntitySession.Proofs.Tracking

/-!
# The history of a context

A context is put to, deleted from, refreshed and cleared, by a session or by whoever holds it, and between
any two of these calls anything may happen to the instances.  Nothing is assumed of their accessors, and
some calls fail.  Still the context can be told from its history (`Context.history_of_run`):

* its three maps have the same keys, no key twice, and none without an identifier (`Context.Aligned`);
* a tracked instance was put at some moment, and has been tracked under its key at every moment since
  (`Context.Traced`);
* its baseline is what its columns were at that moment, or at the latest refresh of the key since;
* a call that fails has changed nothing.

The step lemma is `Context.Step.tracked`: a key that is tracked after a step was put in it, or was tracked
before and has either been refreshed or kept its baseline.
-/

set_option autoImplicit false

namespace EntitySession

variable {δ : Type} {S : Schema}

namespace Context

/-! ## Calls and steps -/

/-- What a context can be called for. -/
inductive Call where
  | put (i : InstanceId)
  | delete (i : InstanceId)
  | remove (k : EntityKey)
  | refresh (k : EntityKey)
  | clear

namespace Call

/-- What a call makes of a context. -/
def change (S : Schema) (h : Heap) (c : Context) : Call → Except Error Context
  | put i => c.put S h i
  | delete i => c.delete S h i
  | remove k => .ok (c.remove k)
  | refresh k => c.refresh S h k
  | clear => .ok .empty

/-- The call of the context of a session. -/
def act (S : Schema) (call : Call) : Act (Work δ) Unit :=
  Work.modifyContext fun h c => call.change S h c

/-- A call changes the context and nothing else, or fails and changes nothing. -/
theorem perform_act {call : Call} {w v : Work δ} {result : Except Error Unit}
    (h : (call.act S).perform w = (result, v)) :
    result = .ok () ∧ (∃ c, call.change S w.site.heap w.session.context = .ok c ∧
      v = { w with session := { w.session with context := c } }) ∨
    (∃ e, result = .error e) ∧ v = w := by
  rw [act, Work.modifyContext, Act.perform_of] at h
  cases hchange : call.change S w.site.heap w.session.context with
  | ok c =>
    rw [hchange] at h
    cases h
    exact .inl ⟨rfl, c, rfl, rfl⟩
  | error e =>
    rw [hchange] at h
    cases h
    exact .inr ⟨⟨e, rfl⟩, rfl⟩

end Call

/-- What happens: a call with its answer, or something that leaves the context alone. -/
inductive Event where
  | called (call : Call) (result : Except Error Unit)
  | elsewhere

/-- The context is called, or anything happens to the instances and the rest of the session. -/
inductive Step (S : Schema) : Work δ → Event → Work δ → Prop
  | called {w v : Work δ} {call : Call} {result : Except Error Unit}
      (h : (call.act S).perform w = (result, v)) : Step S w (.called call result) v
  | elsewhere {w v : Work δ} (h : v.session.context = w.session.context) : Step S w .elsewhere v

/-- A moment in the history of a context. -/
abbrev Moment (δ : Type) : Type := EntitySession.Moment (Work δ) Event

/-- The baseline of a key was made anew. -/
def Event.Refreshes (k : EntityKey) (e : Event) : Prop :=
  ∃ j, (j == k) = true ∧ e = .called (.refresh j) (.ok ())

/-- The baseline of a key is what the columns of an instance are. -/
def Snapshot (S : Schema) (h : Heap) (c : Context) (k : EntityKey) (i : InstanceId) : Prop :=
  ∃ columns relations, h.columnValues S i = .ok columns ∧ h.relationValues S i = .ok relations ∧
    c.columns.get? k = some columns ∧ c.relations.get? k = some relations

/-! ## Keys -/

/-- The maps of a context have the same keys, each once and with an identifier. -/
structure Aligned (c : Context) : Prop where
  columns : c.columns.keys = c.instances.keys
  relations : c.relations.keys = c.instances.keys
  distinct : c.instances.Distinct
  id_ne_null : ∀ k ∈ c.instances.keys, k.id ≠ .null

namespace Aligned

variable {h : Heap} {c c' : Context}

theorem empty : Aligned .empty := ⟨rfl, rfl, .nil, nofun⟩

theorem remove (hc : Aligned c) (k : EntityKey) : Aligned (c.remove k) where
  columns := KeyMap.keys_erase_of_keys hc.columns
  relations := KeyMap.keys_erase_of_keys hc.relations
  distinct := KeyMap.distinct_erase hc.distinct k
  id_ne_null j hj := by
    rw [Context.remove, KeyMap.keys_erase] at hj
    exact hc.id_ne_null j (List.mem_filter.1 hj).1

theorem put {i : InstanceId} (hc : Aligned c) (hput : c.put S h i = .ok c') : Aligned c' := by
  obtain ⟨k, -, hnull, ⟨-, rfl⟩ | ⟨hnew, columns, relations, -, -, rfl⟩⟩ := put_eq_ok hput
  · exact hc
  · exact
      { columns := KeyMap.keys_insert_of_keys hc.columns ..
        relations := KeyMap.keys_insert_of_keys hc.relations ..
        distinct := KeyMap.distinct_insert_of_new hc.distinct hnew i
        id_ne_null := fun j hj => by
          rw [instances_track hnew] at hj
          rcases List.mem_cons.1 hj with rfl | hj
          · exact hnull
          · exact hc.id_ne_null j hj }

/-- A baseline is replaced, never added. -/
theorem refresh {k : EntityKey} (hc : Aligned c) (hrefresh : c.refresh S h k = .ok c') :
    Aligned c' := by
  rcases refresh_eq_ok hrefresh with ⟨-, rfl⟩ | ⟨i, columns, relations, hi, -, -, rfl⟩
  · exact hc
  · have htracked : c.instances.contains k = true := contains_iff.2 ⟨i, hi⟩
    refine ⟨?_, ?_, hc.distinct, hc.id_ne_null⟩
    · rw [setBaseline, KeyMap.keys_insert, KeyMap.contains_of_keys hc.columns, if_pos htracked, hc.columns]
    · rw [setBaseline, KeyMap.keys_insert, KeyMap.contains_of_keys hc.relations, if_pos htracked,
        hc.relations]

theorem change {call : Call} (hc : Aligned c) (hchange : call.change S h c = .ok c') : Aligned c' := by
  cases call with
  | put i => exact hc.put hchange
  | delete i =>
    obtain ⟨k, -, hremove⟩ := bind_eq_ok.1 hchange
    cases hremove
    exact hc.remove k
  | remove k =>
    cases hchange
    exact hc.remove k
  | refresh k => exact hc.refresh hchange
  | clear =>
    cases hchange
    exact .empty

theorem step {w v : Work δ} {e : Event} (hw : Aligned w.session.context) (hstep : Step S w e v) :
    Aligned v.session.context := by
  cases hstep with
  | called h =>
    obtain ⟨-, c, hchange, rfl⟩ | ⟨-, rfl⟩ := Call.perform_act h
    · exact hw.change hchange
    · exact hw
  | elsewhere h => rwa [h]

end Aligned

/-! ## Tracked keys -/

section

variable {h : Heap} {c c' : Context} {k : EntityKey} {i : InstanceId} {w v : Work δ} {e : Event}

/-- A tracked key that a call has left alone keeps its instance and its baseline. -/
structure Keeps (c c' : Context) (k : EntityKey) : Prop where
  get? : c'.get? k = c.get? k
  columns : c'.columns.get? k = c.columns.get? k
  relations : c'.relations.get? k = c.relations.get? k

theorem Keeps.refl (c : Context) (k : EntityKey) : Keeps c c k := ⟨rfl, rfl, rfl⟩

theorem Snapshot.keeps (hs : Snapshot S h c k i) (hk : Keeps c c' k) : Snapshot S h c' k i := by
  obtain ⟨columns, relations, hcolumns, hrelations, hc, hr⟩ := hs
  exact ⟨columns, relations, hcolumns, hrelations, hk.columns.trans hc, hk.relations.trans hr⟩

theorem keeps_track {j : EntityKey} (hjk : ¬(j == k) = true) (columns : List ColumnValue)
    (relations : List RelationValue) : Keeps c (c.track j i columns relations) k :=
  ⟨(KeyMap.get?_insert ..).trans (if_neg hjk), (KeyMap.get?_insert ..).trans (if_neg hjk),
    (KeyMap.get?_insert ..).trans (if_neg hjk)⟩

theorem keeps_remove {j : EntityKey} (hjk : ¬(j == k) = true) : Keeps c (c.remove j) k :=
  ⟨(KeyMap.get?_erase ..).trans (if_neg hjk), (KeyMap.get?_erase ..).trans (if_neg hjk),
    (KeyMap.get?_erase ..).trans (if_neg hjk)⟩

theorem keeps_setBaseline {j : EntityKey} (hjk : ¬(j == k) = true) (columns : List ColumnValue)
    (relations : List RelationValue) : Keeps c (c.setBaseline j columns relations) k :=
  ⟨rfl, (KeyMap.get?_insert ..).trans (if_neg hjk), (KeyMap.get?_insert ..).trans (if_neg hjk)⟩

/-- What has become of a key that is tracked after a call. -/
inductive Outcome (S : Schema) (h : Heap) (call : Call) (c c' : Context) (k : EntityKey)
    (i : InstanceId) : Prop
  | put {j : EntityKey} (hcall : call = .put i) (hkey : h.key S i = .ok j) (hjk : (j == k) = true)
      (hnew : c.get? k = none) (hsnapshot : Snapshot S h c' k i)
  | refreshed {j : EntityKey} (hcall : call = .refresh j) (hjk : (j == k) = true)
      (htracked : c.get? k = some i) (hsnapshot : Snapshot S h c' k i)
  | kept (hcall : ∀ j, call = .refresh j → ¬(j == k) = true) (hkeeps : Keeps c c' k)

theorem outcome_put {l : InstanceId} (hput : c.put S h l = .ok c') (hi : c'.get? k = some i) :
    Outcome S h (.put l) c c' k i := by
  obtain ⟨j, hj, -, ⟨-, rfl⟩ | ⟨hnew, columns, relations, hcolumns, hrelations, rfl⟩⟩ := put_eq_ok hput
  · exact .kept nofun (.refl _ _)
  by_cases hjk : (j == k) = true
  · rw [get?_track, if_pos hjk, Option.some.injEq] at hi
    subst hi
    refine .put rfl hj hjk ?_ ⟨columns, relations, hcolumns, hrelations, ?_, ?_⟩
    · rw [← get?_congr hjk]
      exact get?_eq_none.2 hnew
    · exact (KeyMap.get?_insert ..).trans (if_pos hjk)
    · exact (KeyMap.get?_insert ..).trans (if_pos hjk)
  · exact .kept nofun (keeps_track hjk ..)

theorem outcome_refresh {j : EntityKey} (hrefresh : c.refresh S h j = .ok c')
    (hi : c'.get? k = some i) : Outcome S h (.refresh j) c c' k i := by
  have hsame : c'.get? k = c.get? k := congrArg (KeyMap.get? · k) (instances_refresh hrefresh)
  rw [hsame] at hi
  by_cases hjk : (j == k) = true
  · rcases refresh_eq_ok hrefresh with ⟨hnone, -⟩ | ⟨l, columns, relations, hl, hcolumns, hrelations, rfl⟩
    · rw [get?_congr hjk, hi] at hnone
      cases hnone
    · rw [get?_congr hjk, hi, Option.some.injEq] at hl
      subst hl
      exact .refreshed rfl hjk hi ⟨columns, relations, hcolumns, hrelations,
        (KeyMap.get?_insert ..).trans (if_pos hjk), (KeyMap.get?_insert ..).trans (if_pos hjk)⟩
  · refine .kept (fun j' hj' => Call.refresh.inj hj' ▸ hjk) ?_
    rcases refresh_eq_ok hrefresh with ⟨-, rfl⟩ | ⟨_, _, _, -, -, -, rfl⟩
    · exact .refl _ _
    · exact keeps_setBaseline hjk ..

theorem outcome_remove {call : Call} (hcall : ∀ j, call ≠ .refresh j) {j : EntityKey}
    (hi : (c.remove j).get? k = some i) : Outcome S h call c (c.remove j) k i := by
  by_cases hjk : (j == k) = true
  · rw [get?_remove, if_pos hjk] at hi
    cases hi
  · exact .kept (fun j' hj' => absurd hj' (hcall j')) (keeps_remove hjk)

/-- A key that is tracked after a call was put by it, refreshed by it, or left alone. -/
theorem Call.outcome {call : Call} (hchange : call.change S h c = .ok c') (hi : c'.get? k = some i) :
    Outcome S h call c c' k i := by
  cases call with
  | put l => exact outcome_put hchange hi
  | delete l =>
    obtain ⟨j, -, hremove⟩ := bind_eq_ok.1 hchange
    cases hremove
    exact outcome_remove (by nofun) hi
  | remove j =>
    cases hchange
    exact outcome_remove (by nofun) hi
  | refresh j => exact outcome_refresh hchange hi
  | clear =>
    cases hchange
    cases hi

/-- An instance starts to be tracked under a key that was free: it was put, and the key is its own. -/
structure Starts (S : Schema) (k : EntityKey) (i : InstanceId) (x : Moment δ) : Prop where
  event : x.event = .called (.put i) (.ok ())
  isFree : x.before.session.context.get? k = none
  key : ∃ j, x.before.site.heap.key S i = .ok j ∧ (j == k) = true

/-- A key that is tracked after a step was put in it with its baseline, or was tracked before and has
been refreshed or kept its baseline. -/
theorem Step.tracked (hstep : Step S w e v) (hi : v.session.context.get? k = some i) :
    Starts S k i ⟨w, e, v⟩ ∧ Snapshot S w.site.heap v.session.context k i ∨
      w.session.context.get? k = some i ∧
        (e.Refreshes k ∧ Snapshot S w.site.heap v.session.context k i ∨
          ¬e.Refreshes k ∧ Keeps w.session.context v.session.context k) := by
  cases hstep with
  | elsewhere h =>
    rw [h] at hi ⊢
    exact .inr ⟨hi, .inr ⟨nofun, .refl _ _⟩⟩
  | called h =>
    obtain ⟨rfl, c, hchange, rfl⟩ | ⟨⟨e, rfl⟩, rfl⟩ := Call.perform_act h
    · cases Call.outcome hchange hi with
      | put hcall hkey hjk hnew hsnapshot =>
        exact .inl ⟨⟨by rw [hcall], hnew, _, hkey, hjk⟩, hsnapshot⟩
      | refreshed hcall hjk htracked hsnapshot =>
        exact .inr ⟨htracked, .inl ⟨⟨_, hjk, by rw [hcall]⟩, hsnapshot⟩⟩
      | kept hcall hkeeps =>
        refine .inr ⟨hkeeps.get?.symm.trans hi, .inr ⟨?_, hkeeps⟩⟩
        rintro ⟨j, hjk, he⟩
        cases he
        exact hcall j rfl hjk
    · refine .inr ⟨hi, .inr ⟨?_, .refl _ _⟩⟩
      rintro ⟨j, -, he⟩
      cases he

end

/-! ## Histories -/

/-- Where a tracked instance and its baseline come from: the instance was put, and has been tracked ever
since; the baseline is what its columns were then or, if the key was refreshed since, at the latest
refresh. -/
def Traced (S : Schema) (trace : List (Moment δ)) (c : Context) (k : EntityKey) (i : InstanceId) :
    Prop :=
  ∃ old started since, trace = old ++ started :: since ∧ Starts S k i started ∧
    (∀ x ∈ started :: since, x.after.session.context.get? k = some i) ∧
    ∃ front taken rest, started :: since = front ++ taken :: rest ∧
      (front = [] ∨ taken.event.Refreshes k) ∧ (∀ x ∈ rest, ¬x.event.Refreshes k) ∧
        Snapshot S taken.before.site.heap c k i

/-- What holds of a context that began empty, after the moments of its history. -/
structure History (S : Schema) (trace : List (Moment δ)) (w : Work δ) : Prop where
  aligned : Aligned w.session.context
  traced : ∀ k i, w.session.context.get? k = some i → Traced S trace w.session.context k i
  /-- A key changes its instance only by not being tracked in between. -/
  steady : ∀ x ∈ trace, ∀ k i j, x.before.session.context.get? k = some i →
    x.after.session.context.get? k = some j → i = j
  /-- What is tracked keeps its baseline when something is put. -/
  put : ∀ x ∈ trace, ∀ i result, x.event = .called (.put i) result →
    ∀ k, x.before.session.context.contains k = true →
      Keeps x.before.session.context x.after.session.context k
  /-- A call that fails changes nothing. -/
  refused : ∀ x ∈ trace, ∀ call error, x.event = .called call (.error error) →
    x.after.session.context = x.before.session.context

theorem Traced.step {trace : List (Moment δ)} {x : Moment δ} {k : EntityKey} {i : InstanceId}
    (hx : Step S x.before x.event x.after)
    (htraced : ∀ k i, x.before.session.context.get? k = some i →
      Traced S trace x.before.session.context k i)
    (hi : x.after.session.context.get? k = some i) :
    Traced S (trace ++ [x]) x.after.session.context k i := by
  rcases hx.tracked hi with ⟨hstarts, hsnapshot⟩ | ⟨hbefore, hbaseline⟩
  · exact ⟨trace, x, [], rfl, hstarts, List.forall_mem_singleton.2 hi, [], x, [], rfl, .inl rfl,
      List.forall_mem_nil _, hsnapshot⟩
  obtain ⟨old, started, since, rfl, hstarts, hsince, front, taken, rest, hsplit, htaken, hrest,
    hsnapshot⟩ := htraced k i hbefore
  refine ⟨old, started, since ++ [x], by simp, hstarts, ?_, ?_⟩
  · rw [← List.cons_append]
    exact List.forall_mem_append.2 ⟨hsince, List.forall_mem_singleton.2 hi⟩
  rcases hbaseline with ⟨hrefreshes, hsnapshot⟩ | ⟨hnot, hkeeps⟩
  · exact ⟨started :: since, x, [], rfl, .inr hrefreshes, List.forall_mem_nil _, hsnapshot⟩
  · refine ⟨front, taken, rest ++ [x], ?_, htaken, ?_, hsnapshot.keeps hkeeps⟩
    · rw [← List.cons_append, hsplit, List.append_assoc, List.cons_append]
    · exact List.forall_mem_append.2 ⟨hrest, List.forall_mem_singleton.2 hnot⟩

theorem Step.steady {w v : Work δ} {e : Event} (hstep : Step S w e v) {k : EntityKey}
    {i j : InstanceId} (hi : w.session.context.get? k = some i)
    (hj : v.session.context.get? k = some j) : i = j := by
  rcases hstep.tracked hj with ⟨hstarts, -⟩ | ⟨hbefore, -⟩
  · have hfree : w.session.context.get? k = none := hstarts.isFree
    rw [hi] at hfree
    cases hfree
  · rw [hi] at hbefore
    exact Option.some.inj hbefore

theorem Step.put {w v : Work δ} {i : InstanceId} {result : Except Error Unit}
    (hstep : Step S w (.called (.put i) result) v) {k : EntityKey}
    (hk : w.session.context.contains k = true) : Keeps w.session.context v.session.context k := by
  cases hstep with
  | called h =>
    obtain ⟨-, c, hput, rfl⟩ | ⟨-, rfl⟩ := Call.perform_act h
    · have hgrows := put_grows hput
      obtain ⟨l, hl⟩ := contains_iff.1 hk
      exact ⟨(hgrows.get? k l hl).trans hl.symm, hgrows.columns k hk, hgrows.relations k hk⟩
    · exact .refl _ _

theorem Step.refused {w v : Work δ} {call : Call} {error : Error}
    (hstep : Step S w (.called call (.error error)) v) : v.session.context = w.session.context := by
  cases hstep with
  | called h =>
    obtain ⟨hok, -⟩ | ⟨-, rfl⟩ := Call.perform_act h
    · cases hok
    · rfl

/-- **The history of a context.**  Whatever a context that began empty was called for, and whatever has
become of the instances in between, its maps have the same keys and none of them lacks an identifier;
every tracked instance has been tracked since it was put, with the baseline of that moment or of the
latest refresh since; and calls that have failed have changed nothing. -/
theorem history_of_run {w v : Work δ} {trace : List (Moment δ)} (hw : w.session.context = .empty)
    (h : Run (Step S) w trace v) : History S trace v := by
  have haligned : Aligned v.session.context := by
    have hempty : Aligned w.session.context := hw ▸ .empty
    exact h.invariant (P := fun w => Aligned w.session.context)
      (fun x _ hx hbefore => hbefore.step hx) hempty
  -- induction from the end of the run: each step adds one moment to what is known
  have htraced : ∀ k i, v.session.context.get? k = some i → Traced S trace v.session.context k i := by
    refine h.history (P := fun trace w => ∀ k i, w.session.context.get? k = some i →
      Traced S trace w.session.context k i)
      (fun first x hx htraced k i hi => Traced.step hx htraced hi) fun k i hi => ?_
    rw [hw] at hi
    cases hi
  exact
    { aligned := haligned
      traced := htraced
      steady := fun x hx k i j hi hj => (h.step_of_mem hx).steady hi hj
      put := fun x hx i result he k hk => Step.put (he ▸ h.step_of_mem hx) hk
      refused := fun x hx call error he => Step.refused (he ▸ h.step_of_mem hx) }

end Context

/-! ### A pet that is renamed -/

namespace Pets

/-- A call of the context, or the program gives the first instance a name. -/
inductive Deed where
  | call (c : Context.Call)
  | rename (name : String)

/-- What happens when something is done, and the state after it. -/
def Deed.perform (w : Work Unit) : Deed → Context.Event × Work Unit
  | call c => (.called c ((c.act schema).perform w).1, ((c.act schema).perform w).2)
  | rename name =>
    let heap := w.site.heap.setRecord 0 (petRecord 1 name .empty)
    (.elsewhere, { w with site := { w.site with heap := heap } })

/-- The moments of what is done, one after another. -/
def history : List Deed → Work Unit → List (Context.Moment Unit)
  | [], _ => []
  | d :: ds, w => ⟨w, (d.perform w).1, (d.perform w).2⟩ :: history ds (d.perform w).2

/-- The state after that. -/
def outcome (ds : List Deed) (w : Work Unit) : Work Unit := ds.foldl (fun w d => (d.perform w).2) w

theorem run_history (ds : List Deed) (w : Work Unit) :
    Run (Context.Step schema) w (history ds w) (outcome ds w) := by
  induction ds generalizing w with
  | nil => exact .nil w
  | cons d ds ih =>
    refine .cons ?_ (ih _)
    cases d with
    | call c => exact .called rfl
    | rename name => exact .elsewhere rfl

/-- Three pets: the first, one without an identifier, and another one with the identifier of the first. -/
def desk : Work Unit :=
  let first := (Heap.empty.add "Pet" (petRecord 1 "Rex" .empty)).2
  let stray : Record := ⟨[("id", .null), ("name", .text "Stray")], [("owner", .reference "Owner" .empty)]⟩
  let heap := ((first.add "Pet" stray).2.add "Pet" (petRecord 1 "Twin" .empty)).2
  { site := { heap, outside := (), log := [] }, session := .start ⟨0, false⟩ .outside }

/-- The pet is put, renamed and put again, as is its twin; it is refreshed under its new name, renamed
once more and put; and the stray is put, which fails. -/
def deeds : List Deed :=
  [.call (.put 0), .rename "Max", .call (.put 0), .call (.put 2), .call (.refresh ⟨"Pet", .bigInt 1⟩),
    .rename "Tom", .call (.put 0), .call (.put 1)]

/-- The names in the baseline of the pet. -/
def baseline (w : Work Unit) : Option (List Value) :=
  (w.session.context.columns.get? ⟨"Pet", .bigInt 1⟩).map (List.map ColumnValue.value)

/-- The first instance stays, with the name that it had when it was refreshed. -/
theorem history_of_run_deeds :
    desk.session.context = .empty ∧
      Context.History schema (history deeds desk) (outcome deeds desk) ∧
      (outcome deeds desk).session.context.get? ⟨"Pet", .bigInt 1⟩ = some 0 ∧
      baseline (outcome (deeds.take 4) desk) = some [.text "Rex"] ∧
      baseline (outcome deeds desk) = some [.text "Max"] :=
  ⟨rfl, Context.history_of_run rfl (run_history deeds desk), by decide +kernel, by decide +kernel,
    by decide +kernel⟩

end Pets

end EntitySession
