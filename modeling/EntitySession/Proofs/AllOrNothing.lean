import EntitySession.Proofs.Accessors
import EntitySession.Proofs.Flush

/-!
# Saving is all or nothing

Saving an instance can fail before its insert is sent, because a field cannot be read or cast, and in five
ways afterwards: the statement fails, it has not changed exactly one row, no key was generated, the key
does not fit the type of the identifier, or the identifier does not accept it.  `Gateway.allOrNothing` says
that none of them leaves a trace in the instance, and that nothing else keeps an instance from being saved,
whatever the connection answers.  When all goes well, an instance that had an identifier is as it was, and
one that had none has the key that was generated, in the declared form, and is otherwise as it was.

That an instance is otherwise as it was is as much a matter of its class as of the gateway, which does
nothing but write that one field (`Heap.Identified`).
-/

set_option autoImplicit false

namespace EntitySession

/-! ## Writing an identifier -/

/-- Writing one field leaves what another reads as alone. -/
def EntityClass.Spares (C : EntityClass) (written field : String) : Prop :=
  ∀ r r' v, C.write r written v = .ok r' → C.read r' field = C.read r field

/-- A declared class leaves every other field alone. -/
theorem Declaration.spares (d : Declaration) {written field : String} (hne : field ≠ written) :
    d.toClass.Spares written field := by
  intro r r' v hw
  obtain ⟨u, rfl, -⟩ := exists_setValue_of_write hw
  exact read_setValue_of_ne hne r u

namespace Heap

variable {S : Schema} {h h' : Heap} {i : InstanceId} {m : Metadata} {key : Value}

/-- A field of an instance gives back what is written to it. -/
def Returns (S : Schema) (h : Heap) (i : InstanceId) (field : String) : Prop :=
  ∀ v h', h.set S i field v = .ok h' → h'.read S i field = .ok (.value v)

/-- An instance was given an identifier, and nothing else has changed. -/
structure Identified (S : Schema) (m : Metadata) (i : InstanceId) (key : Value) (h h' : Heap) : Prop where
  written : h.set S i m.identifier.name key = .ok h'
  read : h'.read S i m.identifier.name = .ok (.value key)
  id : h'.id S i = .ok key
  /-- Other fields read as before, unless the class itself changes them along with the identifier. -/
  others : ∀ field, (S (h.typeOf i)).Spares m.identifier.name field →
    h'.read S i field = h.read S i field
  instances : ∀ j, j ≠ i → h'.instances[j]? = h.instances[j]?
  cells : h'.cells = h.cells

theorem identified_of_set (hm : S.metadata (h.typeOf i) = .ok m)
    (hreturns : h.Returns S i m.identifier.name) {v : Value}
    (hcast : v.cast m.identifier.sqlType = .ok key)
    (hset : h.set S i m.identifier.name key = .ok h') : h.Identified S m i key h' := by
  have hread := hreturns key h' hset
  obtain ⟨x, record, hx, hrecord, rfl⟩ := set_eq_ok hset
  have hx' : (h.setRecord i record).instances[i]? = some { x with record } := by
    rw [setRecord_getElem?, if_pos rfl, hx]
    rfl
  rw [typeOf_of_some hx] at hm
  refine ⟨hset, hread, ?id, fun field hspares => ?others, fun j hj => ?instances, rfl⟩
  case id =>
    refine id_eq_ok.2 ⟨_, m, key, hx', hm, ?_, Value.cast_cast hcast⟩
    rw [← hread, read_of_some hx']
  case others =>
    rw [typeOf_of_some hx] at hspares
    rw [read_of_some hx', read_of_some hx]
    exact hspares x.record record key hrecord
  case instances => rw [setRecord_getElem?, if_neg hj.symm]

end Heap

/-! ## Saving -/

namespace Gateway

variable {δ : Type} [Database δ] {S : Schema} {g : Gateway} {i : InstanceId} {m : Metadata}
  {s t : Site (Recorded δ)} {r : Except Error Unit}

/-- The first key that an insert has generated can be cast, and the field of the identifier accepts it. -/
def KeyAccepted (S : Schema) (m : Metadata) (i : InstanceId) (h : Heap) (result : InsertResult)
    (key : Value) (h' : Heap) : Prop :=
  ∃ v, result.generatedKey? = some v ∧ v.cast m.identifier.sqlType = .ok key ∧
    h.set S i m.identifier.name key = .ok h'

/-- All that has to go well for an instance to be saved. -/
structure GoesWell (S : Schema) (g : Gateway) (i : InstanceId) (s : Site (Recorded δ)) (n : Insertion)
    (result : InsertResult) : Prop where
  /-- The identifier and what is to be inserted can be read and cast, -/
  collected : insertion S s.heap i = .ok n
  /-- the statement succeeds -/
  answer : (Database.insert g.connection n.sql n.values s.outside).1 = .ok result
  /-- with exactly one row, -/
  rows : result.rows = 1
  /-- and if there was no identifier, there is one now. -/
  identifier : n.id ≠ .null ∨ ∃ key h', KeyAccepted S n.metadata i s.heap result key h'

/-- What there is to say of a call that saves an instance. -/
structure AllOrNothing (S : Schema) (g : Gateway) (i : InstanceId) (m : Metadata)
    (s : Site (Recorded δ)) (r : Except Error Unit) (t : Site (Recorded δ)) : Prop where
  /-- One insert was sent, or nothing. -/
  sent : t.outside.exchanges = s.outside.exchanges ∨ ∃ sql values answer,
    t.outside.exchanges = s.outside.exchanges ++ [.insert g.connection sql values answer]
  ok_iff : r = .ok () ↔ ∃ n result, GoesWell S g i s n result
  /-- If it has failed, nothing has become of any instance. -/
  failed : r ≠ .ok () → t.heap = s.heap
  assigned : r = .ok () → s.heap.id S i ≠ .ok .null → t.heap = s.heap
  generated : r = .ok () → s.heap.id S i = .ok .null → ∃ n result key,
    GoesWell S g i s n result ∧ KeyAccepted S m i s.heap result key t.heap ∧
      s.heap.Identified S m i key t.heap

omit [Database δ] in
/-- An answer is a success exactly if it counts one row and brings the identifier that was missing. -/
theorem Settled.ok_iff {n : Insertion} {u : Site (Recorded δ)} {answer : Except Error InsertResult}
    (h : Settled S n i u answer r t) : r = .ok () ↔ ∃ result, answer = .ok result ∧ result.rows = 1 ∧
      (n.id ≠ .null ∨ ∃ key h', KeyAccepted S n.metadata i u.heap result key h') := by
  cases h with
  | failed => simp
  | miscounted hrows => simp [hrows]
  | assigned hrows hid => simp [hrows, hid]
  | ungenerated hrows hid hkey => simp [hrows, hid, KeyAccepted, hkey]
  | unfit hrows hid hkey hcast => simp [hrows, hid, KeyAccepted, hkey, hcast]
  | unwritable hrows hid hkey hcast hset => simp [hrows, hid, KeyAccepted, hkey, hcast, hset]
  | generated hrows hid hkey hcast hset => simp [hrows, hid, KeyAccepted, hkey, hcast, hset]

omit [Database δ] in
/-- Nothing becomes of the instances, unless a key that was missing is accepted. -/
theorem Settled.heap {n : Insertion} {u : Site (Recorded δ)} {answer : Except Error InsertResult}
    (h : Settled S n i u answer r t) : t.heap = u.heap ∧ (r = .ok () → n.id ≠ .null) ∨
      r = .ok () ∧ n.id = .null ∧ ∃ result key, answer = .ok result ∧
        KeyAccepted S n.metadata i u.heap result key t.heap := by
  cases h with
  | assigned _ hid => exact .inl ⟨rfl, fun _ => hid⟩
  | generated _ hid hkey hcast hset => exact .inr ⟨rfl, hid, _, _, rfl, _, hkey, hcast, hset⟩
  | _ => exact .inl ⟨rfl, nofun⟩

/-- **Saving is all or nothing.** -/
theorem allOrNothing (hm : S.metadata (s.heap.typeOf i) = .ok m)
    (hreturns : s.heap.Returns S i m.identifier.name)
    (h : (g.save S i).perform s = (r, t)) : AllOrNothing S g i m s r t := by
  cases saving_of_save h with
  | unsent he =>
    refine ⟨.inl rfl, ⟨nofun, ?_⟩, fun _ => rfl, nofun, nofun⟩
    rintro ⟨n, result, hwell⟩
    cases he.symm.trans hwell.collected
  | @sent n outside answer r t hn hanswer hsettled =>
    obtain ⟨hm', hid, -⟩ := insertion_eq_ok.1 hn
    cases hm.symm.trans hm'
    have hok : r = .ok () ↔ ∃ n result, GoesWell S g i s n result := by
      rw [hsettled.ok_iff]
      constructor
      · rintro ⟨result, rfl, hrows, hidentifier⟩
        exact ⟨n, result, hn, hanswer, hrows, hidentifier⟩
      · rintro ⟨n', result, hwell⟩
        cases hn.symm.trans hwell.collected
        exact ⟨result, hanswer.symm.trans hwell.answer, hwell.rows, hwell.identifier⟩
    refine ⟨.inr ⟨_, _, _, congrArg Recorded.exchanges hsettled.outside⟩, hok, ?failed, ?assigned,
      ?generated⟩
    case failed =>
      intro hr
      rcases hsettled.heap with ⟨hheap, -⟩ | ⟨hr', -⟩
      · exact hheap
      · exact absurd hr' hr
    case assigned =>
      intro _ hassigned
      rcases hsettled.heap with ⟨hheap, -⟩ | ⟨-, hnull, -⟩
      · exact hheap
      · exact absurd (hid.trans (congrArg Except.ok hnull)) hassigned
    case generated =>
      intro hr hnull
      have hnull : n.id = .null := Except.ok.inj (hid.symm.trans hnull)
      rcases hsettled.heap with ⟨-, hassigned⟩ | ⟨-, -, result, key, rfl, hkey⟩
      · exact absurd hnull (hassigned hr)
      · obtain ⟨n', result', hwell⟩ := hok.1 hr
        cases hn.symm.trans hwell.collected
        cases hanswer.symm.trans hwell.answer
        have ⟨_, _, hcast, hset⟩ := hkey
        exact ⟨n, result, key, hwell, hkey, Heap.identified_of_set hm hreturns hcast hset⟩

end Gateway

/-! ### A note without a number -/

namespace Notes

/-- A note that has no number yet, and a connection that generates the given keys. -/
def blank (keys : List Value) : Site (Recorded Rehearsal.Scene) :=
  let connection := { Rehearsal.ScriptedConnection.start "notes" with keys }
  { heap := ⟨#[⟨"Note", ⟨[("id", .null), ("text", .text "a")], []⟩⟩], #[]⟩
    outside := ⟨{ Rehearsal.Scene.empty with connections := #[.scripted connection] }, []⟩
    log := [] }

/-- What comes of saving it. -/
def attempted (keys : List Value) : Except Error Unit × Site (Recorded Rehearsal.Scene) :=
  (Gateway.save ⟨0, false⟩ schema 0).perform (blank keys)

/-- The number of a note reads as it was written. -/
theorem returns_blank (keys : List Value) : (blank keys).heap.Returns schema 0 "id" := by
  intro v h' hset
  cases hset
  rfl

/-- A key that is a whole number becomes the number of the note, in the declared form, and nothing else of the
note has changed; a key that is a text is refused when the row is there already, and the note has no number
still. -/
theorem allOrNothing_blank : ∃ m, schema.metadata "Note" = .ok m ∧
    (Gateway.AllOrNothing schema ⟨0, false⟩ 0 m (blank [.int 4]) (attempted [.int 4]).1
        (attempted [.int 4]).2 ∧
      ((attempted [.int 4]).2.heap.id schema 0).toOption = some (.bigInt 4) ∧
      ∀ field ≠ "id", (attempted [.int 4]).2.heap.read schema 0 field =
        (blank [.int 4]).heap.read schema 0 field) ∧
    Gateway.AllOrNothing schema ⟨0, false⟩ 0 m (blank [.text "x"]) (attempted [.text "x"]).1
        (attempted [.text "x"]).2 ∧
      (attempted [.text "x"]).1.isOk = false ∧
      (attempted [.text "x"]).2.outside.exchanges.length = 1 ∧
      ((attempted [.text "x"]).2.heap.id schema 0).toOption = some .null := by
  obtain ⟨m, hm⟩ := exists_of_isOk (show (schema.metadata "Note").isOk = true by decide +kernel)
  have hname : ((schema.metadata "Note").toOption.map fun m => m.identifier.name) = some "id" := by
    decide +kernel
  rw [hm] at hname
  have hname : m.identifier.name = "id" := Option.some.inj hname
  have hreturns (keys : List Value) : (blank keys).heap.Returns schema 0 m.identifier.name := by
    rw [hname]
    exact returns_blank keys
  have hsaved : (attempted [.int 4]).1 = .ok () :=
    ok_of_toOption (show (attempted [.int 4]).1.toOption = some () by decide +kernel)
  have hnull : (blank [.int 4]).heap.id schema 0 = .ok .null :=
    ok_of_toOption (show _ = some Value.null by decide +kernel)
  have hall := Gateway.allOrNothing (g := ⟨0, false⟩) (s := blank [.int 4]) hm (hreturns [.int 4]) rfl
  obtain ⟨_, _, _, -, -, hidentified⟩ := hall.generated hsaved hnull
  refine ⟨m, hm, ⟨hall, ?_, fun field hne => ?_⟩, Gateway.allOrNothing hm (hreturns _) rfl, ?_, ?_, ?_⟩
  case refine_2 =>
    refine hidentified.others field ?_
    rw [hname]
    exact Declaration.spares _ hne
  all_goals decide +kernel

end Notes

end EntitySession
