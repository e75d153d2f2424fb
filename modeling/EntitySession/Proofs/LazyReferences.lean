import EntitySession.Proofs.Counterparts
import EntitySession.Proofs.PrivateLists

/-!
# A reference is loaded once at most

A reference that is loaded on first access keeps in itself what its load has given.  Its copies share
nothing with it: one that is made before the load has to be loaded for itself, one that is made after it
has the target already, and one whose target was set has forgotten that there ever was anything to load.

So what happens to a copy depends on what is known of its target, and that is told by the history alone
(`Deferral.known`): a load that succeeds and a target that is set make it known, and a copy knows what the
one knows that it is made from.  `Deferral.loadsOnce_of_run` says that every call goes by that.  Where
nothing is known, to resolve the reference is to ask its supplier, once, and a failure leaves everything to
be done again; where the target is known, nobody is asked.  All the other calls ask nobody at all.  What
is written to the join column is the value that the reference was made with until the target is known;
after that it is the identifier that the target has at the time of the call.

The invariant, `Deferral.Keeps`, compares what is known with what the copies hold.  A supplier may do to
the world whatever sessions and the outside can do when they are asked; that it leaves the copies alone
comes from `World.Served`.
-/

set_option autoImplicit false

namespace EntitySession

namespace World

variable {δ : Type} [Database δ] [Callbacks δ] {S : Schema} {w u : World δ} {place : Place}
  {held : String}

/-- A reference that has its target asks nobody. -/
theorem resolve_of_result {r : Reference} {target : Option InstanceId}
    (h : r.result? = some target) : (resolve S place held r).perform w = (.ok target, w) := by
  unfold resolve
  rw [h]
  rfl

/-- A reference that is loaded keeps what its supplier gives. -/
theorem resolve_of_supplyOne {key : Value} {supplier : Supplier} {target : Option InstanceId}
    (h : (supplyOne S held supplier).perform w = (.ok target, u)) :
    (resolve S place held (.unloaded key none supplier)).perform w =
      (.ok target, u.setLink place (.reference held (.unloaded key (some target) supplier))) :=
  Act.perform_bind_of_ok h _

theorem resolve_of_supplyOne_error {key : Value} {supplier : Supplier} {e : Error}
    (h : (supplyOne S held supplier).perform w = (.error e, u)) :
    (resolve S place held (.unloaded key none supplier)).perform w = (.error e, u) :=
  Act.perform_bind_of_error h _

/-- Whoever asks a supplier for a target, association values stay what they are. -/
theorem supplyOne_keeps {supplier : Supplier} {r : Except Error (Option InstanceId)}
    (h : (supplyOne S held supplier).perform w = (r, u)) :
    ∀ place l, w.link? place = some l → u.link? place = some l := by
  obtain ⟨served, hserved, -⟩ := supplyOne_served h
  exact fun _ _ => hserved.link?

end World

/-- A reference that is loaded on first access, as it was made. -/
structure Deferral where
  /-- The type of the target. -/
  held : String
  /-- The value of the join column. -/
  key : Value
  supplier : Supplier

namespace Deferral

/-! ## Calls -/

/-- What is done to the copies of a reference. -/
inductive Event where
  /-- The target was called for, and loaded if that was due. -/
  | resolved (place : Place) (answer : Except Error (Option InstanceId))
  /-- The target was called for as far as it was there. -/
  | got (place : Place) (target : Option InstanceId)
  /-- It was asked whether no load is due. -/
  | tested (place : Place) (loaded : Bool)
  /-- It was asked what is written to the join column. -/
  | keyed (place : Place) (answer : Except Error Value)
  /-- The copy was made to refer to this target, or to none. -/
  | set (place : Place) (target : Option InstanceId)
  /-- The copy at the first place was copied to the second. -/
  | copied (source target : Place)
  | elsewhere
  deriving DecidableEq

/-- A moment of the copies of a reference. -/
abbrev Moment (δ : Type) : Type := EntitySession.Moment (Copies δ) Event

variable {δ : Type} {S : Schema} {d : Deferral}

/-- The reference itself. -/
def reference (d : Deferral) : Reference := .unloaded d.key none d.supplier

variable [Database δ] [Callbacks δ]

/-- What is done to the copies of a reference, one thing after another.  Others may do whatever they
like, and drop copies, but not change them. -/
inductive Step (d : Deferral) (S : Schema) : Copies δ → Event → Copies δ → Prop
  | resolved {x : Copies δ} {place : Place} {r : Reference} {v : World δ}
      {answer : Except Error (Option InstanceId)} (hplace : place ∈ x.places)
      (hr : x.world.link? place = some (.reference d.held r))
      (h : (World.resolve S place d.held r).perform x.world = (answer, v)) :
      Step d S x (.resolved place answer) ⟨v, x.places⟩
  | got {x : Copies δ} {place : Place} {r : Reference} (hplace : place ∈ x.places)
      (hr : x.world.link? place = some (.reference d.held r)) : Step d S x (.got place r.get?) x
  | tested {x : Copies δ} {place : Place} {r : Reference} (hplace : place ∈ x.places)
      (hr : x.world.link? place = some (.reference d.held r)) : Step d S x (.tested place r.isLoaded) x
  | keyed {x : Copies δ} {place : Place} {r : Reference} (hplace : place ∈ x.places)
      (hr : x.world.link? place = some (.reference d.held r)) :
      Step d S x (.keyed place (r.foreignKey (x.world.site.heap.id S))) x
  | set {x : Copies δ} {place : Place} {target : Option InstanceId} {v : World δ}
      {answer : Except Error Unit} (hplace : place ∈ x.places)
      (h : (World.put place (.reference d.held (.ofTarget target))).perform x.world = (answer, v)) :
      Step d S x (.set place target) ⟨v, x.places⟩
  | copied {x : Copies δ} {source target : Place} {v : World δ} {answer : Except Error Unit}
      (hsource : source ∈ x.places) (htarget : x.world.Admits target)
      (h : (World.copy source target).perform x.world = (answer, v)) :
      Step d S x (.copied source target) ⟨v, insert target x.places⟩
  | elsewhere {x y : Copies δ} (hplaces : y.places ⊆ x.places)
      (hlinks : ∀ place ∈ y.places, y.world.link? place = x.world.link? place) :
      Step d S x .elsewhere y

/-! ## What is known -/

/-- What is known of the target of each copy: nothing as long as a load is due, otherwise what the target
is, if there is one. -/
abbrev Knowledge : Type := Place → Option (Option InstanceId)

/-- What is known after an event.  A load that fails teaches nothing. -/
def Event.learn (k : Knowledge) : Event → Knowledge
  | resolved place (.ok target) => Function.update k place (some target)
  | set place target => Function.update k place (some target)
  | copied source target => Function.update k target (k source)
  | _ => k

/-- What is known after a history, at the beginning of which all copies have to be loaded. -/
def known (trace : List (Moment δ)) : Knowledge := trace.foldl (fun k m => m.event.learn k) fun _ => none

/-- The event puts another reference at a place. -/
def Event.Replaces (place : Place) : Event → Prop
  | set other _ => other = place
  | copied _ other => other = place
  | _ => False

/-- What is written to the join column when this is known. -/
def keyOf (d : Deferral) (idOf : InstanceId → Except Error Value) :
    Option (Option InstanceId) → Except Error Value
  | none => .ok d.key
  | some none => .ok .null
  | some (some target) => idOf target

/-- What happens where this is known of the targets. -/
inductive Answers (d : Deferral) (S : Schema) (k : Knowledge) : Copies δ → Event → Copies δ → Prop
  /-- The target is known, and nobody is asked. -/
  | recalled {x : Copies δ} {place : Place} {target : Option InstanceId} (hk : k place = some target) :
      Answers d S k x (.resolved place (.ok target)) x
  /-- The supplier is asked, and the copy keeps what it gives. -/
  | supplied {x : Copies δ} {place : Place} {target : Option InstanceId} {u : World δ}
      (hk : k place = none)
      (h : (World.supplyOne S d.held d.supplier).perform x.world = (.ok target, u)) :
      Answers d S k x (.resolved place (.ok target))
        ⟨u.setLink place (.reference d.held (.unloaded d.key (some target) d.supplier)), x.places⟩
  /-- The supplier is asked, and fails. -/
  | failed {x : Copies δ} {place : Place} {e : Error} {u : World δ} (hk : k place = none)
      (h : (World.supplyOne S d.held d.supplier).perform x.world = (.error e, u)) :
      Answers d S k x (.resolved place (.error e)) ⟨u, x.places⟩
  | got (x : Copies δ) (place : Place) : Answers d S k x (.got place (k place).join) x
  | tested (x : Copies δ) (place : Place) : Answers d S k x (.tested place (k place).isSome) x
  /-- The target is asked for its present identifier. -/
  | keyed (x : Copies δ) (place : Place) :
      Answers d S k x (.keyed place (d.keyOf (x.world.site.heap.id S) (k place))) x
  | set (x : Copies δ) (place : Place) (target : Option InstanceId) :
      Answers d S k x (.set place target)
        ⟨x.world.setLink place (.reference d.held (.ofTarget target)), x.places⟩
  | copied {x : Copies δ} {source : Place} {l : Link} (hl : x.world.link? source = some l)
      (target : Place) :
      Answers d S k x (.copied source target) ⟨x.world.setLink target l, insert target x.places⟩
  | elsewhere (x y : Copies δ) : Answers d S k x .elsewhere y

/-- What is to be said of a reference that is loaded on first access, and of its copies. -/
structure LoadsOnce (d : Deferral) (S : Schema) (trace : List (Moment δ)) : Prop where
  /-- What happens goes by what is known until then. -/
  answers : ∀ first m last, trace = first ++ m :: last →
    d.Answers S (known first) m.before m.event m.after
  /-- Every copy has its target if that is known, and is to be loaded otherwise. -/
  results : ∀ first m last, trace = first ++ m :: last → ∀ place ∈ m.after.places, ∃ r,
    m.after.world.link? place = some (.reference d.held r) ∧ r.result? = known (first ++ [m]) place
  /-- A target that is known stays what it is until another reference is put there. -/
  lasting : ∀ first later last place target, trace = first ++ later ++ last →
    known first place = some target → (∀ m ∈ later, ¬m.event.Replaces place) →
      known (first ++ later) place = some target

omit [Database δ] [Callbacks δ] in
theorem known_concat (first : List (Moment δ)) (m : Moment δ) :
    known (first ++ [m]) = m.event.learn (known first) := by
  rw [known, List.foldl_append]
  rfl

/-- What is known cannot be learnt once more. -/
theorem Answers.learn_of_known {k : Knowledge} {x y : Copies δ} {e : Event} {place : Place}
    {target : Option InstanceId} (h : d.Answers S k x e y) (hk : k place = some target)
    (he : ¬e.Replaces place) : e.learn k place = some target := by
  cases h with
  | @recalled other target' hk' =>
    rw [Event.learn, Function.update_apply]
    split
    · next heq => rw [← hk', ← heq, hk]
    · exact hk
  | supplied hnone =>
    rw [Event.learn, Function.update_of_ne, hk]
    rintro rfl
    rw [hk] at hnone
    cases hnone
  | set _ other | copied _ other =>
    rw [Event.learn, Function.update_of_ne (Ne.symm he), hk]
  | failed | got | tested | keyed | elsewhere => exact hk

/-! ## What the copies hold -/

/-- What a copy is when this is known of its target. -/
inductive Holds (d : Deferral) : Option (Option InstanceId) → Reference → Prop
  | due : Holds d none d.reference
  | loaded (target : Option InstanceId) :
      Holds d (some target) (.unloaded d.key (some target) d.supplier)
  | given (target : Option InstanceId) : Holds d (some target) (.ofTarget target)

/-- The copies hold what is known of them. -/
def Keeps (d : Deferral) (k : Knowledge) (x : Copies δ) : Prop :=
  ∀ place ∈ x.places, ∃ r, x.world.link? place = some (.reference d.held r) ∧ d.Holds (k place) r

section Keeps

variable {k : Knowledge} {x y : Copies δ} {w : World δ} {places : Set Place} {place : Place}
  {r : Reference} {target : Option (Option InstanceId)}

omit [Database δ] [Callbacks δ]

theorem Holds.result? (h : d.Holds target r) : r.result? = target := by
  cases h with
  | due | loaded => rfl
  | given target => exact Reference.result?_ofTarget target

theorem Holds.get? (h : d.Holds target r) : r.get? = target.join := congrArg Option.join h.result?

theorem Holds.isLoaded (h : d.Holds target r) : r.isLoaded = target.isSome :=
  congrArg Option.isSome h.result?

theorem Holds.foreignKey (h : d.Holds target r) (idOf : InstanceId → Except Error Value) :
    r.foreignKey idOf = d.keyOf idOf target := by
  cases h with
  | due => rfl
  | loaded target | given target => cases target <;> rfl

theorem Holds.reference (h : d.Holds none r) : r = d.reference := by
  cases h
  rfl

theorem Keeps.holds (h : d.Keeps k x) (hplace : place ∈ x.places)
    (hr : x.world.link? place = some (.reference d.held r)) : d.Holds (k place) r := by
  obtain ⟨r', hr', hholds⟩ := h place hplace
  rw [hr, Option.some.injEq, Link.reference.injEq] at hr'
  obtain ⟨-, rfl⟩ := hr'
  exact hholds

/-- What leaves the copies alone leaves alone what they hold. -/
theorem Keeps.of_same (h : d.Keeps k x)
    (hlinks : ∀ place ∈ y.places, place ∈ x.places ∧
      ∀ l, x.world.link? place = some l → y.world.link? place = some l) : d.Keeps k y := by
  intro place hplace
  obtain ⟨hmem, hlink⟩ := hlinks place hplace
  obtain ⟨r, hr, hholds⟩ := h place hmem
  exact ⟨r, hlink _ hr, hholds⟩

/-- What is put at a place is the copy there, and the other copies are what they were. -/
theorem Keeps.put (h : d.Keeps k ⟨w, places⟩) (hadmits : w.Admits place) (hr : d.Holds target r) :
    d.Keeps (Function.update k place target)
      ⟨w.setLink place (.reference d.held r), insert place places⟩ :=
  World.exists_link?_setLink (R := d.Holds) h hadmits hr

/-- The same, where there is a copy already. -/
theorem Keeps.replace (h : d.Keeps k ⟨w, places⟩) (hplace : place ∈ places) (hr : d.Holds target r) :
    d.Keeps (Function.update k place target) ⟨w.setLink place (.reference d.held r), places⟩ := by
  obtain ⟨_, hlink, -⟩ := h place hplace
  have hput := h.put (World.admits_of_link? hlink) hr
  rwa [Set.insert_eq_of_mem hplace] at hput

end Keeps

/-! ## Steps and runs -/

section Runs

variable {k : Knowledge} {x y : Copies δ} {e : Event} {trace : List (Moment δ)}

/-- What happens goes by what is known, and the copies hold what is known after it. -/
theorem Step.answers (h : d.Step S x e y) (hx : d.Keeps k x) :
    d.Answers S k x e y ∧ d.Keeps (e.learn k) y := by
  cases h with
  | @resolved place r v answer hplace hr h =>
    have hholds := hx.holds hplace hr
    cases hk : k place with
    | some target =>
      rw [World.resolve_of_result (hholds.result?.trans hk)] at h
      cases h
      refine ⟨.recalled hk, ?_⟩
      rwa [Event.learn, ← hk, Function.update_eq_self]
    | none =>
      rw [hk] at hholds
      obtain rfl := hholds.reference
      rcases hsupply : (World.supplyOne S d.held d.supplier).perform x.world with ⟨served, u⟩
      have hu : d.Keeps k (⟨u, x.places⟩ : Copies δ) :=
        hx.of_same fun place hplace => ⟨hplace, World.supplyOne_keeps hsupply place⟩
      cases served with
      | error err =>
        obtain ⟨rfl, rfl⟩ := Prod.mk.inj ((World.resolve_of_supplyOne_error hsupply).symm.trans h)
        exact ⟨.failed hk hsupply, hu⟩
      | ok target =>
        obtain ⟨rfl, rfl⟩ := Prod.mk.inj ((World.resolve_of_supplyOne hsupply).symm.trans h)
        exact ⟨.supplied hk hsupply, hu.replace hplace (.loaded target)⟩
  | @got place r hplace hr =>
    rw [(hx.holds hplace hr).get?]
    exact ⟨.got x place, hx⟩
  | @tested place r hplace hr =>
    rw [(hx.holds hplace hr).isLoaded]
    exact ⟨.tested x place, hx⟩
  | @keyed place r hplace hr =>
    rw [(hx.holds hplace hr).foreignKey]
    exact ⟨.keyed x place, hx⟩
  | @set place target v answer hplace h =>
    cases h
    exact ⟨.set x place target, hx.replace hplace (.given target)⟩
  | @copied source target v answer hsource htarget h =>
    obtain ⟨r, hr, hholds⟩ := hx source hsource
    cases (World.copy_of_link? hr target).symm.trans h
    exact ⟨.copied hr target, hx.put htarget hholds⟩
  | elsewhere hplaces hlinks =>
    refine ⟨.elsewhere x y, hx.of_same fun place hplace => ⟨hplaces hplace, fun l hl => ?_⟩⟩
    exact (hlinks place hplace).trans hl

/-- At any time the copies hold what is known by the history. -/
theorem keeps_of_run {first : Copies δ} (hrun : Run (d.Step S) first trace x)
    (hfirst : d.Keeps (fun _ => none) first) : d.Keeps (known trace) x := by
  refine hrun.history (P := fun trace x => d.Keeps (known trace) x) (fun before m hm hbefore => ?_)
    hfirst
  rw [known_concat]
  exact (hm.answers hbefore).2

/-- What is known of a copy lasts until another reference is put in its place. -/
theorem known_of_kept {first later : List (Moment δ)} {place : Place} {target : Option InstanceId}
    (hanswers : ∀ before m after, first ++ later = before ++ m :: after →
      d.Answers S (known before) m.before m.event m.after)
    (hk : known first place = some target) (hlater : ∀ m ∈ later, ¬m.event.Replaces place) :
    known (first ++ later) place = some target := by
  induction later generalizing first with
  | nil => rwa [List.append_nil]
  | cons m later ih =>
    rw [List.forall_mem_cons] at hlater
    have hassoc : first ++ m :: later = first ++ [m] ++ later := by rw [List.append_assoc]; rfl
    rw [hassoc]
    refine ih (fun before m' after heq => hanswers before m' after (hassoc.trans heq)) ?_ hlater.2
    rw [known_concat]
    exact (hanswers first m later rfl).learn_of_known hk hlater.1

/-- **A reference is loaded once at most, and its key follows its target.**  A place holds a reference
that is loaded on first access, with nothing loaded yet.  Whatever is called for from then on, of the
reference, of copies that are made of it and of copies of these, with whatever the supplier answers each
time: only to resolve a copy asks the supplier, once each time, and only as long as nothing is known of
its target.  A failure is the answer and leaves the copy to be loaded.  What was loaded or set is what the
copy answers from then on, and what the copies answer that are made of it later, until it is replaced;
a copy that was made before is loaded for itself.  What is written to the join column is the value that
the reference was made with until the target is known, then the identifier that the target has at the
time, or NULL without one. -/
theorem loadsOnce_of_run {w : World δ} {place : Place}
    (hplace : w.link? place = some (.reference d.held d.reference))
    (hrun : Run (d.Step S) ⟨w, {place}⟩ trace x) : d.LoadsOnce S trace := by
  have hkeeps : d.Keeps (fun _ => none) (⟨w, {place}⟩ : Copies δ) := by
    intro other hother
    obtain rfl := Set.mem_singleton_iff.1 hother
    exact ⟨_, hplace, .due⟩
  have hanswers : ∀ first m last, trace = first ++ m :: last →
      d.Answers S (known first) m.before m.event m.after := by
    rintro first m last rfl
    obtain ⟨hfirst, hm, -⟩ := hrun.split
    exact (hm.answers (keeps_of_run hfirst hkeeps)).1
  refine ⟨hanswers, ?_, ?_⟩
  · rintro first m last rfl other hother
    obtain ⟨hfirst, hm, -⟩ := hrun.split
    obtain ⟨r, hr, hholds⟩ := keeps_of_run (hfirst.trans (.single hm)) hkeeps other hother
    exact ⟨r, hr, hholds.result?⟩
  · rintro first later last other target rfl hk hlater
    refine known_of_kept (fun before m after heq => hanswers before m (after ++ last) ?_) hk hlater
    rw [heq, List.append_assoc, List.cons_append]

end Runs

end Deferral

/-! ## A favourite animal

A person's favourite is to be looked up at a desk, where nobody is there at first. -/

namespace Keepers

/-- The favourite, of which only the tag is known. -/
def favourite : Deferral := ⟨"Animal", .text "rex", .outside 0⟩

/-- The animal itself. -/
def rex : Record := animals.initial.setValue "tag" (.text "rex")

/-- The desk is not open when it is asked first; later it has an animal, and at last it has none. -/
def desk : Rehearsal.Scene :=
  { Rehearsal.Scene.empty with suppliers := #[⟨"desk", [.error .sessionClosed, .ok [0], .ok []]⟩] }

/-- Where the reference is at first. -/
def own : Place := .loose "own"

/-- A place that gets a copy before the favourite is known. -/
def early : Place := .loose "early"

/-- A place that gets a copy later. -/
def late : Place := .loose "late"

/-- There is an animal, and nobody has asked for it yet. -/
def dawn : Copies Rehearsal.Scene where
  world :=
    { World.start desk with
      site := { (World.start desk).site with heap := (Heap.empty.add "Animal" rex).2 }
      loose := [("own", .reference "Animal" favourite.reference)] }
  places := {own}

/-- The reference at a place. -/
def refAt (x : Copies Rehearsal.Scene) (place : Place) : Reference :=
  match x.world.link? place with
  | some (.reference _ r) => r
  | _ => .empty

/-- The copy at a place is resolved. -/
def lookUp (place : Place) (x : Copies Rehearsal.Scene) : Deferral.Moment Rehearsal.Scene :=
  let result := (World.resolve schema place "Animal" (refAt x place)).perform x.world
  ⟨x, .resolved place result.1, ⟨result.2, x.places⟩⟩

/-- The copy at a place is looked at. -/
def peek (place : Place) (x : Copies Rehearsal.Scene) : Deferral.Moment Rehearsal.Scene :=
  ⟨x, .got place (refAt x place).get?, x⟩

def test (place : Place) (x : Copies Rehearsal.Scene) : Deferral.Moment Rehearsal.Scene :=
  ⟨x, .tested place (refAt x place).isLoaded, x⟩

/-- The copy at a place is asked what is written to the join column. -/
def readKey (place : Place) (x : Copies Rehearsal.Scene) : Deferral.Moment Rehearsal.Scene :=
  ⟨x, .keyed place ((refAt x place).foreignKey (x.world.site.heap.id schema)), x⟩

/-- The copy at a place is made to refer to nothing. -/
def forget (place : Place) (x : Copies Rehearsal.Scene) : Deferral.Moment Rehearsal.Scene :=
  ⟨x, .set place none, ⟨x.world.setLink place (.reference "Animal" .empty), x.places⟩⟩

def passOn (source target : Place) (x : Copies Rehearsal.Scene) : Deferral.Moment Rehearsal.Scene :=
  ⟨x, .copied source target, ⟨((World.copy source target).perform x.world).2, insert target x.places⟩⟩

/-- The animal gets another tag. -/
def rename (tag : String) (x : Copies Rehearsal.Scene) : Deferral.Moment Rehearsal.Scene :=
  let site := x.world.site
  ⟨x, .elsewhere,
    { x with world := { x.world with site := { site with
      heap := site.heap.setRecord 0 (rex.setValue "tag" (.text tag)) } } }⟩

/-- The favourite is looked up in vain, and then it is found.  Of the two copies one is made before that
and one after it.  The animal gets another tag, the reference itself forgets its target, and in the
end the early copy is resolved. -/
def day : List (Deferral.Moment Rehearsal.Scene) :=
  let keyed := readKey own dawn
  let given := passOn own early keyed.after
  let missed := lookUp own given.after
  let tested := test own missed.after
  let found := lookUp own tested.after
  let passed := passOn own late found.after
  let renamed := rename "max" passed.after
  let followed := readKey late renamed.after
  let forgotten := forget own followed.after
  let emptied := readKey own forgotten.after
  let seen := peek late emptied.after
  let asked := peek early seen.after
  [keyed, given, missed, tested, found, passed, renamed, followed, forgotten, emptied, seen, asked,
    lookUp early asked.after]

theorem run_day : ∃ x, Run (favourite.Step schema) dawn day x := by
  have hown : own ∈ dawn.places := rfl
  have hearly : early ∈ insert early dawn.places := Set.mem_insert ..
  have hlate : late ∈ insert late (insert early dawn.places) := Set.mem_insert ..
  refine ⟨_, .cons (.keyed hown rfl) <| .cons (.copied hown trivial rfl) <|
    .cons (.resolved (Set.mem_insert_of_mem _ hown) rfl rfl) <|
    .cons (.tested (Set.mem_insert_of_mem _ hown) rfl) <|
    .cons (.resolved (Set.mem_insert_of_mem _ hown) rfl rfl) <|
    .cons (.copied (Set.mem_insert_of_mem _ hown) trivial rfl) <|
    .cons (.elsewhere subset_rfl ?_) <| .cons (.keyed hlate rfl) <|
    .cons (.set (Set.mem_insert_of_mem _ (Set.mem_insert_of_mem _ hown)) rfl) <|
    .cons (.keyed (Set.mem_insert_of_mem _ (Set.mem_insert_of_mem _ hown)) rfl) <|
    .cons (.got hlate rfl) <| .cons (.got (Set.mem_insert_of_mem _ hearly) rfl) <|
    .cons (.resolved (Set.mem_insert_of_mem _ hearly) rfl rfl) <| .nil _⟩
  -- another tag is no other favourite
  rintro place (rfl | rfl | rfl) <;> rfl

/-- The desk is asked three times: in vain, for the reference itself, and for the early copy. -/
theorem loadsOnce_day : favourite.LoadsOnce schema day ∧
    day.map Moment.event =
      [.keyed own (.ok (.text "rex")), .copied own early, .resolved own (.error .sessionClosed),
        .tested own false, .resolved own (.ok (some 0)), .copied own late, .elsewhere,
        .keyed late (.ok (.text "max")), .set own none, .keyed own (.ok .null), .got late (some 0),
        .got early none, .resolved early (.ok none)] ∧
      (day.map fun m => m.after.world.site.outside.journal.length) =
        [0, 0, 1, 1, 2, 2, 2, 2, 2, 2, 2, 2, 3] := by
  obtain ⟨x, hrun⟩ := run_day
  refine ⟨Deferral.loadsOnce_of_run rfl hrun, ?_, ?_⟩ <;> decide +kernel

end Keepers

end EntitySession
