import Mathlib.Data.Nat.Digits.Lemmas
import Mathlib.Logic.Equiv.List
import Mathlib.Tactic.Common
import Mathlib.Tactic.DeriveEncodable
import Watchtower.Proofs.Store
import Watchtower.Store.Access

/-!
Stores as bytes.

A row is bytes, which a codec writes and reads (`Codec`), and a table of rows is reached by a few
operations on bytes alone (`Cells`). The calls that write the row of a watcher are made of these
(`Disk.perform`), and what they do to the bytes is what the store does to the rows that the bytes
stand for: a call that is refused leaves every byte as it was, and any other one writes one row
(`Disk.writes_fail_cleanly`).
-/

namespace Watchtower

abbrev Bytes := List UInt8

/-- How values are written as bytes, and what bytes are read as. Whatever is written can be read. -/
structure Codec (α : Type) where
  encode : α → Bytes
  decode? : Bytes → Option α
  decode?_encode : ∀ a, decode? (encode a) = some a

namespace Codec

variable {α : Type} (codec : Codec α)

/-- The row that bytes stand for. -/
def row (bytes : Bytes) : Row α :=
  match codec.decode? bytes with
  | some a => .intact a
  | none => .damaged

@[simp] theorem row_encode (a : α) : codec.row (codec.encode a) = .intact a := by
  rw [row, codec.decode?_encode]

theorem value?_row (bytes : Bytes) : (codec.row bytes).value? = codec.decode? bytes := by
  unfold row
  cases codec.decode? bytes <;> rfl

end Codec

/-! ### Tables of bytes -/

/-- Bytes by key. -/
abbrev Cells := Table Bytes

namespace Cells

variable {σ : Type}

/-- Puts bytes under a key, or removes what is there. -/
def set (t : Cells) (k : String) : Option Bytes → Cells
  | some bytes => t.put k bytes
  | none => t.erase k

/-- Sets what is under a key if that is as expected, and says otherwise what it is. -/
def compareAndSwap (t : Cells) (k : String) (old new : Option Bytes) :
    Cells × Except (Option Bytes) Unit :=
  if t.get? k = old then (t.set k new, .ok ()) else (t, .error (t.get? k))

/-- Puts bytes under a key, and says what was there. -/
def insert (t : Cells) (k : String) (bytes : Bytes) : Cells × Option Bytes :=
  (t.put k bytes, t.get? k)

/-- Sets what is under a key to what a function makes of it, and says what that is, with whatever
the function says besides. -/
def updateAndFetch (t : Cells) (k : String) (f : Option Bytes → Option Bytes × σ) :
    Cells × Option Bytes × σ :=
  (t.set k (f (t.get? k)).1, f (t.get? k))

/-- Setting what is there already, be it bytes or nothing, changes nothing. -/
theorem set_get? (t : Cells) (k : String) : t.set k (t.get? k) = t := by
  refine Table.ext fun j => ?_
  cases hk : t.get? k with
  | some bytes =>
    rw [set, Table.get?_put]
    split
    · next e => exact e ▸ hk.symm
    · rfl
  | none =>
    rw [set, Table.get?_erase]
    split
    · next e => exact e ▸ hk.symm
    · rfl

theorem get?_put_of_ne (t : Cells) {k j : String} (h : j ≠ k) (bytes : Bytes) :
    (t.put k bytes).get? j = t.get? j := by
  rw [Table.get?_put, if_neg h.symm]

end Cells

/-! ### Calls that write the row of a watcher -/

/-- A call that writes the row of a watcher. -/
inductive RowCall where
  | create (w : Watcher)
  | createOrReplace (w : Watcher)
  | update (w : Watcher)
  | recordFire (id : String) (at_ : Moment)
  | recordError (id message : String)

namespace RowCall

/-- The id under which the call writes. -/
def id : RowCall → String
  | create w | createOrReplace w | update w => w.id
  | recordFire id _ | recordError id _ => id

/-- Makes the call: the store afterwards, and the watcher that was replaced. -/
def make (a : Access) : RowCall → Traced (Store × Option Watcher)
  | create w => do return (← a.create w, none)
  | createOrReplace w => a.createOrReplace w
  | update w => do return (← a.update w, none)
  | recordFire id at_ => do return (← a.recordFire id at_, none)
  | recordError id message => do return (← a.recordError id message, none)

/-- Why statistics are not changed: there is no row, or a damaged one, or its counter is full. -/
def statisticsFault? (s : Store) (id : String) (count : Statistics → Nat) : Option StoreFault :=
  match s.watchers.get? id with
  | none => some (.notFound id)
  | some .damaged => some .undecodable
  | some (.intact w) => if count w.stats < Statistics.limit then none else some (.counterFull id)

/-- Why a store refuses a call. A watcher that is unfit is refused for that, whether or not there is
a row; whether a row is damaged matters to statistics only. -/
def fault? (s : Store) : RowCall → Option StoreFault
  | create w => (Store.fault? w).or <|
    if s.watchers.contains w.id then some (.alreadyExists w.id) else none
  | createOrReplace w => Store.fault? w
  | update w => (Store.fault? w).or <|
    if s.watchers.contains w.id then none else some (.notFound w.id)
  | recordFire id _ => statisticsFault? s id (·.fires)
  | recordError id _ => statisticsFault? s id (·.errors)

/-! ### The store's answers -/

variable {s : Store}

theorem result_alone (x : Traced Store) :
    (do return (← x, none) : Traced (Store × Option Watcher)).result = x.result.map (·, none) := by
  rw [Traced.result_bind]
  cases x.result <;> rfl

theorem make_create (w : Watcher) :
    ((create w).make ⟨s, .none⟩).result = (s.create w).map (·, none) := by
  have h : (Access.create ⟨s, .none⟩ w).result = s.create w := by
    simp only [Access.create, Access.attempt, Outage.none, Traced.result_bind, Traced.result_lift]
    cases s.create w <;> rfl
  rw [make, result_alone, h]

theorem make_createOrReplace (w : Watcher) : ((createOrReplace w).make ⟨s, .none⟩).result =
    (s.createOrReplace w).map (·, (s.watchers.get? w.id).bind Row.value?) := by
  simp only [make, Access.createOrReplace, Access.attempt, Outage.none, Traced.result_bind,
    Traced.result_lift]
  cases s.createOrReplace w with
  | error f => rfl
  | ok t => rcases s.watchers.get? w.id with - | old | - <;> rfl

theorem make_update (w : Watcher) :
    ((update w).make ⟨s, .none⟩).result = (s.update w).map (·, none) := by
  rw [make, result_alone]
  rfl

theorem make_recordFire (id : String) (at_ : Moment) :
    ((recordFire id at_).make ⟨s, .none⟩).result =
      (s.record id (Statistics.countFire id at_)).map (·, none) := by
  rw [make, result_alone]
  rfl

theorem make_recordError (id message : String) :
    ((recordError id message).make ⟨s, .none⟩).result =
      (s.record id (Statistics.countError id message)).map (·, none) := by
  rw [make, result_alone]
  rfl

theorem map_eq_error {α β ε : Type} {g : α → β} {r : Except ε α} {e : ε} :
    r.map g = .error e ↔ r = .error e := by
  cases r <;> simp [Except.map]

theorem record_eq_error {id : String} {change : Statistics → Except StoreFault Statistics}
    {count : Statistics → Nat} {f : StoreFault}
    (hchange : ∀ stats f, change stats = .error f ↔
      ¬ count stats < Statistics.limit ∧ f = .counterFull id) :
    s.record id change = .error f ↔ statisticsFault? s id count = some f := by
  unfold Store.record statisticsFault?
  rcases s.watchers.get? id with - | w | -
  · simp
  · have hbind : (do
        let stats ← change w.stats
        return { s with watchers := s.watchers.put id (.intact { w with stats }) } :
          Except StoreFault Store) = .error f ↔ change w.stats = .error f := map_eq_error
    dsimp only
    rw [hbind, hchange]
    by_cases h : count w.stats < Statistics.limit <;> simp [h, eq_comm]
  · simp

/-- A store refuses a call exactly if there is a reason to. -/
theorem make_eq_error {call : RowCall} {f : StoreFault} :
    (call.make ⟨s, .none⟩).result = .error f ↔ call.fault? s = some f := by
  cases call with
  | create w =>
    rw [make_create, map_eq_error, fault?, Store.create]
    cases Store.fault? w <;> cases s.watchers.contains w.id <;> simp
  | createOrReplace w =>
    rw [make_createOrReplace, map_eq_error, fault?, Store.createOrReplace]
    cases Store.fault? w <;> simp
  | update w =>
    rw [make_update, map_eq_error, fault?, Store.update]
    cases Store.fault? w <;> cases s.watchers.contains w.id <;> simp
  | recordFire id at_ =>
    rw [make_recordFire, map_eq_error, fault?]
    refine record_eq_error fun stats f => ?_
    unfold Statistics.countFire
    split <;> simp_all [eq_comm]
  | recordError id message =>
    rw [make_recordError, map_eq_error, fault?]
    refine record_eq_error fun stats f => ?_
    unfold Statistics.countError
    split <;> simp_all [eq_comm]

end RowCall

namespace Cells

variable (codec : Codec Watcher) (t : Cells)

/-- The bytes of a watcher, if it is fit to be stored. -/
def written (w : Watcher) : Except StoreFault Bytes :=
  match Store.fault? w with
  | some f => .error f
  | none => .ok (codec.encode w)

def create (w : Watcher) : Cells × Except StoreFault (Option Watcher) :=
  match written codec w with
  | .error f => (t, .error f)
  | .ok bytes =>
    match t.compareAndSwap w.id none (some bytes) with
    | (t, .ok ()) => (t, .ok none)
    | (t, .error _) => (t, .error (.alreadyExists w.id))

def createOrReplace (w : Watcher) : Cells × Except StoreFault (Option Watcher) :=
  match written codec w with
  | .error f => (t, .error f)
  | .ok bytes =>
    let (t, previous) := t.insert w.id bytes
    (t, .ok (previous.bind codec.decode?))

def update (w : Watcher) : Cells × Except StoreFault (Option Watcher) :=
  match written codec w with
  | .error f => (t, .error f)
  | .ok bytes =>
    match t.get? w.id with
    | none => (t, .error (.notFound w.id))
    | some existing =>
      match t.compareAndSwap w.id (some existing) (some bytes) with
      | (t, .ok ()) => (t, .ok none)
      | (t, .error (some _)) => (t, .error (.conflict w.id))
      | (t, .error none) => (t, .error (.notFound w.id))

/-- What becomes of the bytes of a watcher whose statistics change, and what goes wrong with them.
Bytes that cannot be changed are handed back. -/
def changed (change : Statistics → Except StoreFault Statistics) :
    Option Bytes → Option Bytes × Option StoreFault
  | none => (none, none)
  | some bytes =>
    match codec.decode? bytes with
    | none => (some bytes, some .undecodable)
    | some w =>
      match change w.stats with
      | .ok stats => (some (codec.encode { w with stats }), none)
      | .error f => (some bytes, some f)

def record (id : String) (change : Statistics → Except StoreFault Statistics) :
    Cells × Except StoreFault (Option Watcher) :=
  match t.updateAndFetch id (changed codec change) with
  | (t, _, some f) => (t, .error f)
  | (t, some _, none) => (t, .ok none)
  | (t, none, none) => (t, .error (.notFound id))

/-- Makes a call on the bytes of the watchers. -/
def perform : RowCall → Cells × Except StoreFault (Option Watcher)
  | .create w => t.create codec w
  | .createOrReplace w => t.createOrReplace codec w
  | .update w => t.update codec w
  | .recordFire id at_ => t.record codec id (Statistics.countFire id at_)
  | .recordError id message => t.record codec id (Statistics.countError id message)

/-! ### What each call comes to -/

variable {codec t}

theorem create_eq (w : Watcher) : t.create codec w =
    match Store.fault? w with
    | some f => (t, .error f)
    | none =>
      if t.contains w.id then (t, .error (.alreadyExists w.id))
      else (t.put w.id (codec.encode w), .ok none) := by
  unfold create written compareAndSwap Table.contains
  cases Store.fault? w with
  | some f => rfl
  | none => cases t.get? w.id <;> simp [set]

theorem createOrReplace_eq (w : Watcher) : t.createOrReplace codec w =
    match Store.fault? w with
    | some f => (t, .error f)
    | none => (t.put w.id (codec.encode w), .ok ((t.get? w.id).bind codec.decode?)) := by
  unfold createOrReplace written
  cases Store.fault? w <;> rfl

/-- Between reading and writing nothing comes, so what is read is what is swapped. -/
theorem update_eq (w : Watcher) : t.update codec w =
    match Store.fault? w with
    | some f => (t, .error f)
    | none =>
      if t.contains w.id then (t.put w.id (codec.encode w), .ok none)
      else (t, .error (.notFound w.id)) := by
  unfold update written compareAndSwap Table.contains
  cases Store.fault? w with
  | some f => rfl
  | none => cases t.get? w.id <;> simp [set]

theorem record_eq (id : String) (change : Statistics → Except StoreFault Statistics) :
    t.record codec id change =
      match t.get? id with
      | none => (t, .error (.notFound id))
      | some bytes =>
        match codec.decode? bytes with
        | none => (t, .error .undecodable)
        | some w =>
          match change w.stats with
          | .ok stats => (t.put id (codec.encode { w with stats }), .ok none)
          | .error f => (t, .error f) := by
  have hback := t.set_get? id
  unfold record updateAndFetch
  cases hrow : t.get? id with
  | none =>
    rw [hrow] at hback
    simp [changed, hback]
  | some bytes =>
    rw [hrow] at hback
    cases hread : codec.decode? bytes with
    | none => simp [changed, hread, hback]
    | some w =>
      cases hstats : change w.stats with
      | error f => simp [changed, hread, hstats, hback]
      | ok stats => simp [changed, hread, hstats, set]

/-- A call hands the table back or puts down one row. -/
theorem perform_cases (codec : Codec Watcher) (t : Cells) (call : RowCall) :
    (∃ f, t.perform codec call = (t, .error f)) ∨
      ∃ bytes previous, t.perform codec call = (t.put call.id bytes, .ok previous) := by
  cases call with
  | create w =>
    rw [perform, create_eq]
    split
    · exact .inl ⟨_, rfl⟩
    · split
      · exact .inl ⟨_, rfl⟩
      · exact .inr ⟨_, _, rfl⟩
  | createOrReplace w =>
    rw [perform, createOrReplace_eq]
    split
    · exact .inl ⟨_, rfl⟩
    · exact .inr ⟨_, _, rfl⟩
  | update w =>
    rw [perform, update_eq]
    split
    · exact .inl ⟨_, rfl⟩
    · split
      · exact .inr ⟨_, _, rfl⟩
      · exact .inl ⟨_, rfl⟩
  | recordFire | recordError =>
    rw [perform, record_eq]
    split
    · exact .inl ⟨_, rfl⟩
    · split
      · exact .inl ⟨_, rfl⟩
      · split
        · exact .inr ⟨_, _, rfl⟩
        · exact .inl ⟨_, rfl⟩

/-- The rows of all other ids keep their bytes. -/
theorem perform_elsewhere (call : RowCall) {k : String} (h : k ≠ call.id) :
    (t.perform codec call).1.get? k = t.get? k := by
  rcases t.perform_cases codec call with ⟨f, he⟩ | ⟨bytes, previous, he⟩
  · rw [he]
  · rw [he]
    exact get?_put_of_ne t h bytes

end Cells

/-! ### Bytes and the store that they hold -/

/-- Both tables as bytes. -/
structure Disk where
  watchers : Cells
  cursors : Cells

/-- The codecs of both tables. -/
structure Codecs where
  watcher : Codec Watcher
  cursor : Codec Cursor

namespace Disk

variable (codecs : Codecs) (d : Disk)

/-- The store whose rows the bytes stand for. -/
def store : Store := ⟨d.watchers.map codecs.watcher.row, d.cursors.map codecs.cursor.row⟩

/-- Makes a call on the bytes. -/
def perform (call : RowCall) : Disk × Except StoreFault (Option Watcher) :=
  ({ d with watchers := (d.watchers.perform codecs.watcher call).1 },
    (d.watchers.perform codecs.watcher call).2)

/-- The call does to the bytes what it does to the store that they hold, and answers alike. Where the
store refuses it, every byte stays. -/
def Carries (call : RowCall) : Prop :=
  match (call.make ⟨d.store codecs, .none⟩).result with
  | .error f => d.perform codecs call = (d, .error f)
  | .ok (s, previous) => ∃ e, d.perform codecs call = (e, .ok previous) ∧ e.store codecs = s

variable {codecs d}

theorem contains_store (id : String) :
    (d.store codecs).watchers.contains id = d.watchers.contains id := by
  rw [Table.contains, store, Table.get?_map, Option.isSome_map]
  rfl

/-- Writing a watcher's bytes is to store the watcher. -/
theorem store_put (w : Watcher) (id : String) :
    Disk.store codecs ⟨d.watchers.put id (codecs.watcher.encode w), d.cursors⟩ =
      { d.store codecs with watchers := (d.store codecs).watchers.put id (.intact w) } := by
  rw [store, Table.map_put, Codec.row_encode]
  rfl

theorem carries_create (w : Watcher) : d.Carries codecs (.create w) := by
  unfold Carries perform
  rw [RowCall.make_create, Cells.perform, Cells.create_eq, Store.create, contains_store]
  cases Store.fault? w with
  | some f => rfl
  | none =>
    cases d.watchers.contains w.id with
    | true => rfl
    | false => exact ⟨_, rfl, store_put w w.id⟩

theorem carries_createOrReplace (w : Watcher) : d.Carries codecs (.createOrReplace w) := by
  have hprevious : ((d.store codecs).watchers.get? w.id).bind Row.value? =
      (d.watchers.get? w.id).bind codecs.watcher.decode? := by
    rw [store, Table.get?_map]
    cases d.watchers.get? w.id with
    | none => rfl
    | some bytes => exact codecs.watcher.value?_row bytes
  unfold Carries perform
  rw [RowCall.make_createOrReplace, Cells.perform, Cells.createOrReplace_eq, Store.createOrReplace,
    hprevious]
  cases Store.fault? w with
  | some f => rfl
  | none => exact ⟨_, rfl, store_put w w.id⟩

theorem carries_update (w : Watcher) : d.Carries codecs (.update w) := by
  unfold Carries perform
  rw [RowCall.make_update, Cells.perform, Cells.update_eq, Store.update, contains_store]
  cases Store.fault? w with
  | some f => rfl
  | none =>
    cases d.watchers.contains w.id with
    | true => exact ⟨_, rfl, store_put w w.id⟩
    | false => rfl

theorem carries_record {call : RowCall} {id : String}
    {change : Statistics → Except StoreFault Statistics}
    (hmake : (call.make ⟨d.store codecs, .none⟩).result =
      ((d.store codecs).record id change).map (·, none))
    (hperform : d.watchers.perform codecs.watcher call = d.watchers.record codecs.watcher id change) :
    d.Carries codecs call := by
  have hrow : (d.store codecs).watchers.get? id =
      (d.watchers.get? id).map codecs.watcher.row := Table.get?_map ..
  unfold Carries perform
  rw [hmake, hperform, Cells.record_eq, Store.record, hrow]
  cases d.watchers.get? id with
  | none => rfl
  | some bytes =>
    rw [Option.map_some, Codec.row]
    dsimp only
    cases codecs.watcher.decode? bytes with
    | none => rfl
    | some w =>
      dsimp only
      cases change w.stats with
      | error f => rfl
      | ok stats => exact ⟨_, rfl, store_put { w with stats } id⟩

theorem carries (codecs : Codecs) (d : Disk) (call : RowCall) : d.Carries codecs call := by
  cases call with
  | create w => exact carries_create w
  | createOrReplace w => exact carries_createOrReplace w
  | update w => exact carries_update w
  | recordFire id at_ => exact carries_record (RowCall.make_recordFire id at_) rfl
  | recordError id message => exact carries_record (RowCall.make_recordError id message) rfl

/-- A call that is refused leaves both tables as they are, byte for byte. It is refused for the reason
that the store would refuse it for, and for no other: an unfit watcher first of all, then a row that
is there already or is missing, and for statistics also one that is damaged or full. Any other call
writes what the store would write, and touches no other row and no cursor. -/
theorem writes_fail_cleanly (codecs : Codecs) (d : Disk) (call : RowCall) :
    (∀ f, (d.perform codecs call).2 = .error f → (d.perform codecs call).1 = d) ∧
    (∀ f, (d.perform codecs call).2 = .error f ↔ call.fault? (d.store codecs) = some f) ∧
    (∀ s f, (call.make ⟨s, .none⟩).result = .error f ↔ call.fault? s = some f) ∧
    (∀ previous, (d.perform codecs call).2 = .ok previous ↔
      (call.make ⟨d.store codecs, .none⟩).result =
        .ok ((d.perform codecs call).1.store codecs, previous)) ∧
    (∀ k ≠ call.id, (d.perform codecs call).1.watchers.get? k = d.watchers.get? k) ∧
    (d.perform codecs call).1.cursors = d.cursors := by
  have hcarries := d.carries codecs call
  unfold Carries at hcarries
  have helsewhere : ∀ k ≠ call.id,
      (d.perform codecs call).1.watchers.get? k = d.watchers.get? k :=
    fun k hk => Cells.perform_elsewhere call hk
  cases hresult : (call.make ⟨d.store codecs, .none⟩).result with
  | error f =>
    rw [hresult] at hcarries
    have hfault : call.fault? (d.store codecs) = some f := RowCall.make_eq_error.1 hresult
    refine ⟨?_, ?_, fun s f => RowCall.make_eq_error, ?_, helsewhere, rfl⟩ <;> rw [hcarries]
    · exact fun _ _ => rfl
    · simp [hfault]
    · simp
  | ok r =>
    obtain ⟨s, previous⟩ := r
    rw [hresult] at hcarries
    obtain ⟨e, hperform, rfl⟩ := hcarries
    have hfault : ∀ f, call.fault? (d.store codecs) ≠ some f := fun f hf => by
      rw [RowCall.make_eq_error.2 hf] at hresult
      cases hresult
    refine ⟨?_, ?_, fun s f => RowCall.make_eq_error, ?_, helsewhere, rfl⟩ <;> rw [hperform]
    · exact nofun
    · simp [hfault]
    · simp

end Disk

/-! A codec that marks what it writes by a leading one, and a table with a damaged row. -/

namespace Sample

instance encodableChar : Encodable Char := .ofLeftInverse Char.toNat Char.ofNat Char.ofNat_toNat

instance encodableString : Encodable String := .ofLeftInverse String.toList String.ofList (by simp)

instance encodableWord : Encodable UInt32 := .ofLeftInverse UInt32.toNat UInt32.ofNat (by simp)

instance encodableTable {α : Type} [Encodable α] : Encodable (Table α) :=
  .ofLeftInjection Table.rows
    (fun rs => if h : rs.Pairwise fun r s => r.1 < s.1 then some ⟨rs, h⟩ else none)
    fun t => dif_pos t.ordered

deriving instance Encodable for Numeric.Single, Moment, ActionKind, Filter, Similarity, Antecedent,
  Rule, Statistics, Watcher, Cursor

/-- The digits of the value's number, after a one. -/
def codec (α : Type) [Encodable α] : Codec α where
  encode a := 1 :: ((Nat.digits 256 (Encodable.encode a)).map UInt8.ofNat)
  decode?
    | 1 :: bytes => Encodable.decode (Nat.ofDigits 256 (bytes.map UInt8.toNat))
    | _ => none
  decode?_encode a := by
    have hdigits : ((Nat.digits 256 (Encodable.encode a)).map UInt8.ofNat).map UInt8.toNat =
        Nat.digits 256 (Encodable.encode a) := by
      rw [List.map_map]
      refine (List.map_congr_left fun n hn => ?_).trans (List.map_id _)
      exact UInt8.toNat_ofNat_of_lt (Nat.digits_lt_base (by decide) hn)
    show Encodable.decode (Nat.ofDigits 256 (_ : List Nat)) = some a
    rw [hdigits, Nat.ofDigits_digits, Encodable.encodek]

def codecs : Codecs := ⟨codec Watcher, codec Cursor⟩

def plain (id name : String) : Watcher where
  id
  rule := ⟨name, true, .webhook, "", .any, none, none, none, 60⟩
  stats := .none
  createdAt := default
  updatedAt := default

def disk : Disk := ⟨.ofList [("v", codecs.watcher.encode (plain "v" "v")), ("w", [0, 255])], .empty⟩

end Sample

namespace Disk

/-- In the sample the damaged row keeps its bytes when a fire is recorded, when a watcher is created
under its id, and when an unfit watcher is to replace it. The other row can be updated. -/
theorem sample_refused :
    Sample.disk.perform Sample.codecs (.recordFire "w" default) =
      (Sample.disk, .error .undecodable) ∧
    Sample.disk.perform Sample.codecs (.create (Sample.plain "w" "w")) =
      (Sample.disk, .error (.alreadyExists "w")) ∧
    Sample.disk.perform Sample.codecs (.createOrReplace (Sample.plain "w" "")) =
      (Sample.disk, .error (.invalidWatcher "w" "name must not be empty")) ∧
    (Sample.disk.perform Sample.codecs (.update (Sample.plain "v" "w"))).2.isOk := by
  have hrefused : ∀ call f, call.fault? (Sample.disk.store Sample.codecs) = some f →
      Sample.disk.perform Sample.codecs call = (Sample.disk, .error f) := by
    intro call f hfault
    obtain ⟨hsame, hiff, -⟩ := writes_fail_cleanly Sample.codecs Sample.disk call
    have hresult := (hiff f).2 hfault
    exact Prod.ext (hsame f hresult) hresult
  refine ⟨hrefused _ _ ?_, hrefused _ _ ?_, hrefused _ _ ?_, ?_⟩
  · decide +kernel
  · decide +kernel
  · decide +kernel
  · have hnone : RowCall.fault? (Sample.disk.store Sample.codecs) (.update (Sample.plain "v" "w")) =
        none := by decide +kernel
    obtain ⟨-, hiff, -⟩ :=
      writes_fail_cleanly Sample.codecs Sample.disk (.update (Sample.plain "v" "w"))
    cases hresult : (Sample.disk.perform Sample.codecs (.update (Sample.plain "v" "w"))).2 with
    | ok previous => rfl
    | error f =>
      rw [hiff f, hnone] at hresult
      cases hresult

end Disk

end Watchtower
