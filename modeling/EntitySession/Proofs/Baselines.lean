import EntitySession.Proofs.Exactness
import EntitySession.Proofs.Persistence

/-!
# What an update makes the baseline

An update that waits holds the values of the moment at which it was queued.  When it runs, it sends
these, and then it makes the *present* state of the instance the baseline of its key.  It does not look
at what it has sent, nor at how many rows the database has changed.

So an update that succeeds leaves its key clean, whatever was written (`Action.run_update_renewed`).  How
much of the new baseline is in the database depends on what has happened to the instance in between:
the columns that were sent with their present values are exactly those that have not changed since
(`Session.carries_iff`), and a column that was not among those of the update was not sent at all.

`Notes.unwritten` has a change that is lost in each of these ways.
-/

set_option autoImplicit false

namespace EntitySession

variable {δ : Type} {S : Schema}

/-! ## Values that have stayed -/

/-- A field is among the columns of an update, with the value that is written for it at present. -/
def Session.Carries (S : Schema) (h : Heap) (i : InstanceId) (columns : List ColumnValue)
    (f : PersistentField) : Prop :=
  ∃ c ∈ columns, c.column = f.column ∧ ∃ v, h.written S i f = .ok v ∧ (v == c.value) = true

/-- Of all columns that were read at an earlier moment, those have their present values that have not
changed. -/
theorem Session.carries_iff {before now : Heap} {i : InstanceId} {m : Metadata}
    {columns : List ColumnValue} (htype : before.typeOf i = now.typeOf i)
    (hm : S.metadata (now.typeOf i) = .ok m) (hnow : now.Readable S i)
    (hcolumns : updateColumns S before i = .ok columns) {f : PersistentField}
    (hf : f ∈ m.nonIdFields) : Carries S now i columns f ↔ ¬Heap.Changed S before now i f := by
  obtain ⟨m', fields, hm', hperm, hfields⟩ := updateColumns_ok hcolumns
  rw [htype, hm, Except.ok.injEq] at hm'
  subst hm'
  obtain ⟨m', hm', hnow⟩ := hnow
  rw [hm, Except.ok.injEq] at hm'
  subst hm'
  obtain ⟨v, hv⟩ := hnow f hf
  obtain ⟨c, hc, hcolumn, hbefore⟩ := exists_mem_zip_of_forall₂ hfields (hperm.mem_iff.2 hf)
  rw [← Heap.not_changed_iff hbefore hv]
  constructor
  · rintro ⟨d, hd, hdcolumn, v', hv', hsame⟩
    rw [hv, Except.ok.injEq] at hv'
    subst hv'
    -- the columns of a type are distinct, so both are the one of the field
    obtain ⟨g, hg, hgcolumn, hgbefore⟩ := exists_mem_zip_of_forall₂ hfields.flip hd
    have hnodup : (m.nonIdFields.map PersistentField.column).Nodup :=
      (Mappings.sound_of_resolve hm).columns_nodup.sublist (m.nonIdFields_sublist.map _)
    have hgf : g = f := List.inj_on_of_nodup_map hnodup
      (hperm.mem_iff.1 (List.of_mem_zip hg).2) hf (hgcolumn.symm.trans hdcolumn)
    rw [hgf, hbefore, Except.ok.injEq] at hgbefore
    rw [hgbefore]
    exact hsame
  · exact fun hsame => ⟨c, (List.of_mem_zip hc).2, hcolumn, v, hv, hsame⟩

/-! ## Running an update -/

/-- What an update has done that has succeeded, of a key under which an instance is tracked. -/
structure Action.Renewed (S : Schema) (g : Gateway) (k : EntityKey) (i : InstanceId)
    (columns : List ColumnValue) (w v : Work (Recorded δ)) : Prop where
  /-- It has sent its columns, if it has any, and the answer may be any number of rows. -/
  sent : columns = [] ∧ w.site.Sends v.site [] ∨ ∃ m rows, S.metadata k.entity = .ok m ∧
    w.site.Sends v.site [.execute g.connection
      (Statement.update m.table.name (columns.map ColumnValue.column) m.identifier.column).render
      (columns.map ColumnValue.value ++ [k.id]) (.ok rows)]
  session : v.session = { w.session with context := v.session.context }
  instances : v.session.context.instances = w.session.context.instances
  /-- The baseline is what the columns of the instance are now. -/
  baseline : Context.Snapshot S w.site.heap v.session.context k i
  clean : v.session.context.isDirty S v.site.heap k = .ok false
  kept : ∀ j, (k == j) = false → Context.Keeps w.session.context v.session.context j
  /-- If its columns were read at some earlier moment, exactly those fields are in the database as they
  are in the baseline that have not changed since. -/
  carried : ∀ before : Heap, before.typeOf i = w.site.heap.typeOf i →
    Session.updateColumns S before i = .ok columns →
    ∃ m, S.metadata (w.site.heap.typeOf i) = .ok m ∧ ∀ f ∈ m.nonIdFields,
      Session.Carries S w.site.heap i columns f ↔ ¬Heap.Changed S before w.site.heap i f

variable [Database δ] [Callbacks δ]

/-- An update of a tracked key that succeeds makes the present state of the instance its baseline, and so
leaves it clean, whatever it has sent and whatever the answer. -/
theorem Action.run_update_renewed {g : Gateway} {k : EntityKey} {i : InstanceId}
    {columns : List ColumnValue} {w v : Work (Recorded δ)} (hi : w.session.context.get? k = some i)
    (h : ((Action.update g k columns).run S).perform w = (.ok (), v)) :
    Action.Renewed S g k i columns w v := by
  obtain ⟨rows, u, hu, h⟩ := Act.perform_bind_ok.1 h
  obtain ⟨t, ht, rfl⟩ := Work.perform_onSite_ok.1 hu
  have hheap := Gateway.update_heap ht
  obtain ⟨c, hrefresh, rfl⟩ := Work.perform_modifyContext_ok.1 h
  have hinstances := Context.instances_refresh hrefresh
  rcases Context.refresh_eq_ok hrefresh with
    ⟨hnone, -⟩ | ⟨l, current, relations, hl, hcurrent, hrelations, rfl⟩
  · rw [hi] at hnone
    cases hnone
  obtain rfl : i = l := Option.some.inj (hi.symm.trans hl)
  have hcolumns : (w.session.context.setBaseline k current relations).columns.get? k = some current :=
    (KeyMap.get?_insert ..).trans (if_pos BEq.rfl)
  have hreferences :
      (w.session.context.setBaseline k current relations).relations.get? k = some relations :=
    (KeyMap.get?_insert ..).trans (if_pos BEq.rfl)
  have hclean := Context.differs_self hcurrent hrelations
  rw [hheap] at hcurrent hrelations
  exact
    { sent := Gateway.update_sends ht
      session := rfl
      instances := hinstances
      baseline := ⟨current, relations, hcurrent, hrelations, hcolumns, hreferences⟩
      clean := by
        rw [Context.isDirty_of_get? (show (w.session.context.setBaseline ..).get? k = some i from hi),
          Context.differsFor, hcolumns, hreferences]
        exact hclean
      kept := fun j hkj => Context.keeps_setBaseline (by rw [hkj]; exact Bool.false_ne_true) ..
      carried := fun before htype hbefore => by
        have hread : w.site.heap.Readable S i :=
          Heap.readable_iff.2 ⟨⟨current, hcurrent⟩, relations, hrelations⟩
        obtain ⟨m, hm, -⟩ := id hread
        exact ⟨m, hm, fun f hf => Session.carries_iff htype hm hread hbefore hf⟩ }

/-! ### A note that is not written -/

namespace Notes

/-- The text of the second note was a draft when its update was queued, and is another one now. -/
theorem renewed_edited :
    ∃ v, Action.Renewed schema ⟨0, false⟩ (key 2) 1 [⟨"text", .text "draft"⟩] edited v := by
  have hrun : (((Action.update ⟨0, false⟩ (key 2) [⟨"text", .text "draft"⟩]).run schema).perform
      edited).1.isOk = true := by decide +kernel
  obtain ⟨u, hu⟩ := exists_of_isOk hrun
  exact ⟨_, Action.run_update_renewed (by decide +kernel) (Prod.ext hu rfl)⟩

/-- The row of the second note is gone: the next update changes none. -/
def rowless : Work (Recorded Rehearsal.Scene) :=
  let connection := { Rehearsal.ScriptedConnection.start "notes" with affected := [0] }
  let scene := { edited.site.outside.outside with connections := #[.scripted connection] }
  { edited with site := { edited.site with outside := ⟨scene, edited.site.outside.exchanges⟩ } }

/-- What becomes of an update of the second note that succeeds: what it sends, with the number of rows,
and whether the note is dirty then. -/
def fate (columns : List ColumnValue) (w : Work (Recorded Rehearsal.Scene)) :
    Option (List (List Value × Option Nat) × Bool) :=
  match ((Action.update ⟨0, false⟩ (key 2) columns).run schema).perform w with
  | (.ok (), v) =>
    let sent := (sentBetween w v).map fun
      | .execute _ _ values answer => (values, answer.toOption)
      | .query _ _ values _ | .insert _ _ values _ => (values, none)
    (v.session.context.isDirty schema v.site.heap (key 2)).toOption.map fun dirty => (sent, dirty)
  | (.error _, _) => none

/-- The second note has a text that the database does not have, and after an update it is clean and the
database still does not have it: because the text was a draft when it was queued, because the update has
no columns, or because no row was there to be changed. -/
theorem unwritten :
    Session.Reachable schema edited ∧ Session.Reachable schema rowless ∧
      edited.session.context.get? (key 2) = some 1 ∧
      (edited.session.context.columns.get? (key 2)).map (List.map ColumnValue.value) =
        some [.text "b"] ∧
      (edited.site.heap.get schema 1 "text").toOption = some (.text "new") ∧
    fate [⟨"text", .text "draft"⟩] edited = some ([([.text "draft", .bigInt 2], some 1)], false) ∧
      fate [] edited = some ([], false) ∧
      fate [⟨"text", .text "new"⟩] rowless = some ([([.text "new", .bigInt 2], some 0)], false) := by
  refine ⟨reachable_edited, reachable_edited.step (.elsewhere _ _ _ (.refl _)), ?_, ?_, ?_, ?_, ?_, ?_⟩
  all_goals decide +kernel

end Notes

end EntitySession
