import EntitySession.Proofs.Bindings
import EntitySession.Proofs.Suppliers

/-!
# What sessions will be asked

A session is asked for one instance, by its identifier, or for the instances that a query selects, and a
query could name anything.  But a query is nothing that a program writes: it is put into an association
value when a row is read, and there it stays.

That is shown here.  A world asks its sessions for whatever its association values do (`World.Asks`).  If
the accessors of a class put no requests of their own into records (`EntityClass.Discreet`), then a record
that was made of a row asks for single instances and for the targets of associations of its type
(`Request.Declared`), and no call adds anything else to what the instances ask for
(`Session.Call.act_asks`).  All declared classes comply, unless what they hold at first asks for something
(`Declaration.discreet_schema`).
-/

set_option autoImplicit false

namespace EntitySession

/-! ## Requests of sessions -/

/-- Some session is asked for something by a supplier. -/
def Supplier.Asks (s : Supplier) (q : Request) : Prop :=
  ∃ owner field n, s = .request owner field (.session n) q

/-- Some session is asked for something when an association value is loaded. -/
def Link.Asks (l : Link) (q : Request) : Prop := ∃ s, l.supplier? = some s ∧ s.Asks q

def Record.Asks (r : Record) (q : Request) : Prop := ∃ e ∈ r.links, e.2.Asks q

def Heap.Asks (h : Heap) (q : Request) : Prop :=
  ∃ (i : InstanceId) (x : Instance), h.instances[i]? = some x ∧ x.record.Asks q

/-- Some session is asked for something when an association value is loaded that is held in an instance or
outside of any. -/
def World.Asks {δ : Type} (w : World δ) (q : Request) : Prop :=
  w.site.heap.Asks q ∨ ∃ e ∈ w.loose, e.2.Asks q

/-- A request for one instance, or for the targets of an association of a type that resolves. -/
inductive Request.Declared (ms : Mappings) : Request → Prop
  | byKey (target : String) (id : Value) : Declared ms (.byKey target id)
  | byQuery {entity : String} {m : Metadata} {a : InverseAssociation} (hm : ms.resolve entity = .ok m)
      (ha : a ∈ m.associations) (ownerId : Value) :
      Declared ms (.byQuery ⟨a.target, a.source, ownerId⟩)

/-- The accessors of a class put nothing into a record that asks sessions, but what they are handed. -/
structure EntityClass.Discreet (C : EntityClass) : Prop where
  constructed : ∀ {r : Record} {q : Request}, C.construct = .ok r → ¬r.Asks q
  written : ∀ {r r' : Record} {field : String} {v : Value} {q : Request},
    C.write r field v = .ok r' → r'.Asks q → r.Asks q
  bound : ∀ {r r' : Record} {field : String} {b : Binding} {q : Request},
    C.bind r field b = .ok r' → r'.Asks q → r.Asks q ∨ q = b.request

/-- The accessors of every type put nothing into records that asks sessions, but what they are handed. -/
def Schema.Discreet (S : Schema) : Prop := ∀ entity, (S entity).Discreet

/-! ## Rows -/

namespace Hydration

variable {S : Schema} {loader : Loader} {entity : String} {row : Row} {r r' : Record} {q : Request}

theorem Placed.asks (hS : S.Discreet) {f : PersistentField} {v ownerId ownerId' : Value}
    (h : Placed S loader entity f v ownerId r ownerId' r') (hq : r'.Asks q) :
    r.Asks q ∨ q.Declared S.mappings := by
  cases h with
  | identifier _ h | simple _ h => exact .inl ((hS entity).written h hq)
  | reference _ h =>
    refine ((hS entity).bound h hq).imp_right fun hq => ?_
    rw [hq]
    exact .byKey _ _

theorem readFields_asks (hS : S.Discreet) {fields : List PersistentField} {position : Nat}
    {ownerId ownerId' : Value}
    (h : readFields S loader entity row position fields ownerId r = .ok (ownerId', r'))
    (hq : r'.Asks q) : r.Asks q ∨ q.Declared S.mappings := by
  induction fields generalizing position ownerId r with
  | nil =>
    cases h
    exact .inl hq
  | cons f fields ih =>
    obtain ⟨_, _, _, r₁, -, -, hplaced, h⟩ := readFields_cons.1 h
    exact (ih h).elim (hplaced.asks hS) .inr

theorem bindAssociations_asks (hS : S.Discreet) {ownerId : Value} {cell : CellId}
    {associations : List InverseAssociation}
    (hdeclared : ∀ a ∈ associations, (Request.byQuery ⟨a.target, a.source, ownerId⟩).Declared S.mappings)
    (h : bindAssociations S loader entity ownerId cell associations r = .ok r') (hq : r'.Asks q) :
    r.Asks q ∨ q.Declared S.mappings := by
  induction associations generalizing cell r with
  | nil =>
    cases h
    exact .inl hq
  | cons a rest ih =>
    obtain ⟨ha, hrest⟩ := List.forall_mem_cons.1 hdeclared
    obtain ⟨b, hb, h⟩ := bind_eq_ok.1 h
    obtain ⟨r₁, hr₁, h⟩ := bind_eq_ok.1 h
    rcases ih hrest h with hq | hq
    · obtain ⟨_, -, rfl⟩ := Binding.inverse_eq_ok.1 hb
      refine ((hS entity).bound hr₁ hq).imp_right fun hq => ?_
      rw [hq]
      exact ha
    · exact .inr hq

/-- A record that was made of a row asks for nothing but what its type declares. -/
theorem record_asks (hS : S.Discreet) {m : Metadata} (hm : S.metadata m.entity = .ok m) {cell : CellId}
    (h : record S loader m row cell = .ok r) (hq : r.Asks q) : q.Declared S.mappings := by
  obtain ⟨fresh, ownerId, filled, hfresh, hfilled, hbound⟩ := record_ok_iff.1 h
  refine (bindAssociations_asks hS (fun a ha => .byQuery hm ha ownerId) hbound hq).elim ?_ id
  intro hq
  exact (readFields_asks hS hfilled hq).elim (absurd · ((hS m.entity).constructed hfresh)) id

end Hydration

/-! ## Instances -/

namespace Heap

variable {S : Schema} {h h' : Heap} {i : InstanceId} {q : Request}

theorem hydrate_asks (hS : S.Discreet) {loader : Loader} {entity : String} {row : Row}
    (hh : h.hydrate S loader entity row = .ok (i, h')) (hq : h'.Asks q) :
    h.Asks q ∨ q.Declared S.mappings := by
  obtain ⟨m, record, hm, hrecord, hinstances, -⟩ := hydrate_eq_ok hh
  obtain rfl := Mappings.entity_of_resolve hm
  obtain ⟨j, x, hx, hq⟩ := hq
  rw [hinstances, Array.getElem?_push] at hx
  split at hx
  · cases hx
    exact .inr (Hydration.record_asks hS hm hrecord hq)
  · exact .inl ⟨j, x, hx, hq⟩

theorem set_asks (hS : S.Discreet) {field : String} {v : Value} (hh : h.set S i field v = .ok h')
    (hq : h'.Asks q) : h.Asks q := by
  obtain ⟨x, record, hx, hrecord, rfl⟩ := set_eq_ok hh
  obtain ⟨j, y, hy, hq⟩ := hq
  rw [setRecord_getElem?] at hy
  split at hy
  · next hij =>
    subst hij
    rw [hx] at hy
    cases hy
    exact ⟨i, x, hx, (hS x.entity).written hrecord hq⟩
  · exact ⟨j, y, hy, hq⟩

end Heap

/-! ## Association values that are put somewhere -/

theorem Record.mem_replace {α : Type} {name : String} {x : α} {entries : List (String × α)}
    {e : String × α} (h : e ∈ replace name x entries) : e ∈ entries ∨ e.2 = x := by
  induction entries with
  | nil => cases h
  | cons d rest ih =>
    rw [replace] at h
    split at h
    · rcases List.mem_cons.1 h with rfl | h
      · exact .inr rfl
      · exact .inl (List.mem_cons_of_mem _ h)
    · rcases List.mem_cons.1 h with rfl | h
      · exact .inl List.mem_cons_self
      · exact (ih h).imp_left (List.mem_cons_of_mem _)

theorem Record.setLink_asks {r : Record} {name : String} {l : Link} {q : Request}
    (h : (r.setLink name l).Asks q) : r.Asks q ∨ l.Asks q := by
  obtain ⟨e, he, hq⟩ := h
  rcases mem_replace he with he | rfl
  · exact .inl ⟨e, he, hq⟩
  · exact .inr hq

theorem World.setLink_asks {δ : Type} {place : Place} {l : Link} {w : World δ} {q : Request}
    (h : (w.setLink place l).Asks q) : w.Asks q ∨ l.Asks q := by
  cases place with
  | field i name =>
    rcases h with ⟨j, x, hx, hq⟩ | hloose
    · have hx : (w.site.heap.setLink i name l).instances[j]? = some x := hx
      rw [Heap.setLink_getElem?] at hx
      split at hx
      · obtain ⟨y, hy, rfl⟩ := Option.map_eq_some_iff.1 hx
        exact (Record.setLink_asks hq).imp_left fun hq => .inl ⟨j, y, hy, hq⟩
      · exact .inl (.inl ⟨j, x, hx, hq⟩)
    · exact .inl (.inr hloose)
  | loose name =>
    rcases h with hheap | ⟨e, he, hq⟩
    · exact .inl (.inl hheap)
    · have hmem : e ∈ w.loose ∨ e.2 = l := by
        simp only [setLink] at he
        split at he
        · exact Record.mem_replace he
        · exact (List.mem_append.1 he).imp_right fun he => by rw [List.mem_singleton.1 he]
      rcases hmem with hmem | rfl
      · exact .inl (.inr ⟨e, hmem, hq⟩)
      · exact .inr hq

theorem Record.mem_of_lookup {α : Type} {name : String} {x : α} {entries : List (String × α)}
    (h : entries.lookup name = some x) : (name, x) ∈ entries := by
  obtain ⟨front, back, rfl, -⟩ := List.lookup_eq_some_iff.1 h
  exact List.mem_append_right _ List.mem_cons_self

/-- What an association value asks for that is at a place, its world does. -/
theorem World.asks_of_link? {δ : Type} {place : Place} {l : Link} {w : World δ} {q : Request}
    (hl : w.link? place = some l) (hq : l.Asks q) : w.Asks q := by
  cases place with
  | field i name =>
    obtain ⟨x, hx, hl⟩ := Option.bind_eq_some_iff.1 hl
    exact .inl ⟨i, x, hx, (name, l), Record.mem_of_lookup hl, hq⟩
  | loose name => exact .inr ⟨(name, l), Record.mem_of_lookup hl, hq⟩

/-! ## Calls -/

section Calls

variable {δ : Type} [Database δ] [Callbacks δ] {S : Schema} {q : Request}

theorem Site.Growth.asks (hS : S.Discreet) {s t : Site δ} (h : Site.Growth S s t) (hq : t.heap.Asks q) :
    s.heap.Asks q ∨ q.Declared S.mappings := by
  cases h with
  | called | noted => exact .inl hq
  | hydrated h => exact Heap.hydrate_asks hS h hq

theorem Work.Growth.asks (hS : S.Discreet) {w v : Work δ} (h : Work.Growth S w v)
    (hq : v.site.heap.Asks q) : w.site.heap.Asks q ∨ q.Declared S.mappings := by
  cases h with
  | site h => exact h.asks hS hq
  | tracked => exact .inl hq

theorem Work.Change.asks (hS : S.Discreet) {w v : Work δ} (h : Work.Change S w v)
    (hq : v.site.heap.Asks q) : w.site.heap.Asks q ∨ q.Declared S.mappings := by
  cases h with
  | growth h => exact h.asks hS hq
  | site h =>
    cases h with
    | growth h => exact h.asks hS hq
    | identified _ h => exact .inl (Heap.set_asks hS h hq)
  | _ => exact .inl hq

/-- Whatever a session is called for, the instances ask for nothing new but what types declare. -/
theorem Session.Call.act_asks (hS : S.Discreet) (c : Session.Call) (w : Work δ)
    (hq : ((c.act S).perform w).2.site.heap.Asks q) :
    w.site.heap.Asks q ∨ q.Declared S.mappings := by
  refine (Session.act_change (S := S) c w).invariant
    (P := fun v => v.site.heap.Asks q → w.site.heap.Asks q ∨ q.Declared S.mappings) ?_ .inl hq
  exact fun v u h hv hq => (h.asks hS hq).elim hv .inr

end Calls

/-! ## Declared classes -/

namespace Declaration

theorem mem_of_mem_firstFields {f : DeclaredField} {fields : List DeclaredField} {seen : List String}
    (h : f ∈ firstFields fields seen) : f ∈ fields := by
  induction fields generalizing seen with
  | nil => cases h
  | cons g fields ih =>
    rw [firstFields] at h
    split at h
    · exact List.mem_cons_of_mem _ (ih h)
    · rcases List.mem_cons.1 h with rfl | h
      · exact List.mem_cons_self
      · exact List.mem_cons_of_mem _ (ih h)

/-- What a class holds at first is not loaded. -/
def IsPlain (d : Declaration) : Prop :=
  ∀ f ∈ d.fields, ∀ l bindable, f.holding = .container l bindable → l.supplier? = none

theorem IsPlain.initial {d : Declaration} (hd : d.IsPlain) {q : Request} : ¬d.initial.Asks q := by
  rintro ⟨e, he, s, hs, -⟩
  obtain ⟨f, hf, hlink⟩ := List.mem_filterMap.1 he
  rw [DeclaredField.initialLink?] at hlink
  split at hlink
  · next l bindable hholding =>
    cases hlink
    rw [hd f (mem_of_mem_firstFields hf) l bindable hholding] at hs
    cases hs
  · cases hlink

/-- A declared class that holds nothing at first that is loaded asks for what it is handed. -/
theorem IsPlain.discreet {d : Declaration} (hd : d.IsPlain) : d.toClass.Discreet := by
  refine ⟨fun {r q} hr => ?_, fun {r r' field v q} hw hq => ?_, fun {r r' field b q} hb hq => ?_⟩
  · simp only [toClass] at hr
    split at hr
    · cases hr
    · cases hr
      exact hd.initial
  · obtain ⟨u, rfl, -⟩ := exists_setValue_of_write hw
    exact hq
  · obtain ⟨initial, l, hl, rfl⟩ := exists_setLink_of_bind hb
    refine (Record.setLink_asks hq).imp_right ?_
    rintro ⟨s, hs, owner, name, n, rfl⟩
    exact (Supplier.request.inj (Link.supplier?_of_bind hl hs)).2.2.2

theorem discreet_schema {ds : List Declaration} (h : ∀ d ∈ ds, d.IsPlain) : (schema ds).Discreet := by
  intro entity
  rw [schema, named]
  cases hd : ds.find? fun d => d.entity == entity with
  | some d => exact (h d (List.mem_of_find?_eq_some hd)).discreet
  | none => exact IsPlain.discreet (d := unmarked entity) (List.forall_mem_nil _)

end Declaration

end EntitySession
