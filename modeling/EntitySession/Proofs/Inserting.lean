import EntitySession.Proofs.Exchanges

/-!
# How an insert ends

To save an instance is to put its insert together, to send it, and to settle what came of it.  There are
eight ways for this to end, and `Gateway.saving_of_save` lists them once and for all: `Gateway.Saving` says
whether an insert was sent at all, and `Gateway.Settled` what the answer to it has led to.  Six of them are
failures, all of which leave the instance as it was; only one writes to it.
-/

set_option autoImplicit false

namespace EntitySession.Gateway

variable {δ : Type} {S : Schema} {g : Gateway} {i : InstanceId}

/-- What the answer to an insert leads to, in the site `u` that the statement has left. -/
inductive Settled (S : Schema) (n : Insertion) (i : InstanceId) (u : Site (Recorded δ)) :
    Except Error InsertResult → Except Error Unit → Site (Recorded δ) → Prop
  | failed (cause : Error) :
      Settled S n i u (.error cause)
        (.error ((fault n.metadata .insertFailed n.sql none).causedBy cause)) u
  | miscounted {result : InsertResult} (hrows : result.rows ≠ 1) :
      Settled S n i u (.ok result)
        (.error (fault n.metadata (.insertCount result.rows) n.sql none).error) u
  | assigned {result : InsertResult} (hrows : result.rows = 1) (hid : n.id ≠ .null) :
      Settled S n i u (.ok result) (.ok ()) u
  | ungenerated {result : InsertResult} (hrows : result.rows = 1) (hid : n.id = .null)
      (hkey : result.generatedKey? = none) :
      Settled S n i u (.ok result) (.error (fault n.metadata .noGeneratedKey n.sql none).error) u
  /-- The generated key does not fit the identifier. -/
  | unfit {result : InsertResult} {v : Value} {cause : Error} (hrows : result.rows = 1)
      (hid : n.id = .null) (hkey : result.generatedKey? = some v)
      (hcast : v.cast n.metadata.identifier.sqlType = .error cause) :
      Settled S n i u (.ok result)
        (.error ((fault n.metadata (.generatedKeyUnfit v) n.sql none).causedBy cause)) u
  /-- The field of the identifier does not accept the key. -/
  | unwritable {result : InsertResult} {v key : Value} {cause : Error} (hrows : result.rows = 1)
      (hid : n.id = .null) (hkey : result.generatedKey? = some v)
      (hcast : v.cast n.metadata.identifier.sqlType = .ok key)
      (hset : u.heap.set S i n.metadata.identifier.name key = .error cause) :
      Settled S n i u (.ok result)
        (.error ((fault n.metadata .cannotWriteIdentifier n.sql (some key)).causedBy cause)) u
  | generated {result : InsertResult} {v key : Value} {heap : Heap} (hrows : result.rows = 1)
      (hid : n.id = .null) (hkey : result.generatedKey? = some v)
      (hcast : v.cast n.metadata.identifier.sqlType = .ok key)
      (hset : u.heap.set S i n.metadata.identifier.name key = .ok heap) :
      Settled S n i u (.ok result) (.ok ()) { u with heap := heap }

/-- How saving an instance ends. -/
inductive Saving [Database δ] (S : Schema) (g : Gateway) (i : InstanceId) (s : Site (Recorded δ)) :
    Except Error Unit → Site (Recorded δ) → Prop
  /-- The insert could not be put together, and nothing was sent. -/
  | unsent {e : Error} (he : insertion S s.heap i = .error e) : Saving S g i s (.error e) s
  | sent {n : Insertion} {outside : δ} {answer : Except Error InsertResult} {r : Except Error Unit}
      {t : Site (Recorded δ)} (hn : insertion S s.heap i = .ok n)
      (hanswer : (Database.insert g.connection n.sql n.values s.outside).1 = answer)
      (h : Settled S n i
        (g.sent s outside n.sql [.insert g.connection n.sql n.values answer]) answer r t) :
      Saving S g i s r t

variable {s t u : Site (Recorded δ)} {r : Except Error Unit}

/-- Once the insert is sent, nothing else is asked of the outside. -/
theorem Settled.outside {n : Insertion} {answer : Except Error InsertResult}
    (h : Settled S n i u answer r t) : t.outside = u.outside := by
  cases h <;> rfl

theorem settled_of_writeIdentifier {n : Insertion} {result : InsertResult} (hrows : result.rows = 1)
    (hid : n.id = .null)
    (h : (writeIdentifier S n.metadata n.sql i result).perform u = (r, t)) :
    Settled S n i u (.ok result) r t := by
  unfold writeIdentifier at h
  cases hkey : result.generatedKey? with
  | none =>
    rw [hkey] at h
    cases h
    exact .ungenerated hrows hid hkey
  | some v =>
    rw [hkey] at h
    dsimp only at h
    cases hcast : v.cast n.metadata.identifier.sqlType with
    | error cause =>
      rw [hcast] at h
      cases h
      exact .unfit hrows hid hkey hcast
    | ok key =>
      rw [hcast, Except.mapError, Act.perform_bind_of_ok (Act.perform_lift _ u), Site.change,
        Act.perform_of] at h
      cases hset : u.heap.set S i n.metadata.identifier.name key with
      | error cause =>
        rw [hset] at h
        cases h
        exact .unwritable hrows hid hkey hcast hset
      | ok heap =>
        rw [hset] at h
        cases h
        exact .generated hrows hid hkey hcast hset

theorem settled_of_afterInsert {n : Insertion} {result : InsertResult}
    (h : (afterInsert S n.metadata n.sql i n.id result).perform u = (r, t)) :
    Settled S n i u (.ok result) r t := by
  unfold afterInsert at h
  split at h
  · next hrows =>
    cases h
    exact .miscounted hrows
  · next hrows =>
    have hrows := Decidable.not_not.1 hrows
    split at h
    · next hnull => exact settled_of_writeIdentifier hrows ((Value.isNull_iff _).1 hnull) h
    · next hnull =>
      cases h
      exact .assigned hrows (mt (Value.isNull_iff _).2 hnull)

variable [Database δ]

/-- Saving an instance ends in one of these ways. -/
theorem saving_of_save (h : (g.save S i).perform s = (r, t)) : Saving S g i s r t := by
  rw [save_eq] at h
  cases hn : insertion S s.heap i with
  | error e =>
    have hlook : (Site.look fun h => insertion S h i).perform s = (.error e, s) := Prod.ext hn rfl
    rw [Act.perform_bind_of_error hlook] at h
    cases h
    exact .unsent hn
  | ok n =>
    have hlook : (Site.look fun h => insertion S h i).perform s = (.ok n, s) := Prod.ext hn rfl
    rw [Act.perform_bind_of_ok hlook] at h
    obtain ⟨outside, hsend⟩ : ∃ outside, (g.send n.sql (fault n.metadata .insertFailed n.sql none)
        (Database.insert g.connection n.sql n.values)).perform s =
          ((Database.insert g.connection n.sql n.values s.outside).1.mapError
              (fault n.metadata .insertFailed n.sql none).causedBy,
            g.sent s outside n.sql [.insert g.connection n.sql n.values
              (Database.insert g.connection n.sql n.values s.outside).1]) := ⟨_, rfl⟩
    cases hanswer : (Database.insert g.connection n.sql n.values s.outside).1 with
    | error cause =>
      rw [hanswer] at hsend
      rw [Act.perform_bind_of_error hsend] at h
      cases h
      exact .sent hn hanswer (.failed cause)
    | ok result =>
      rw [hanswer] at hsend
      rw [Act.perform_bind_of_ok hsend] at h
      exact .sent hn hanswer (settled_of_afterInsert h)

end EntitySession.Gateway
