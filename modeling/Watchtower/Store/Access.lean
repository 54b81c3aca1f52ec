import Watchtower.Log
import Watchtower.Store

/-!
Access to a store that may be out of order.

An outage says of every call whether it fails, and how. A failing call has no effect and says
nothing; any other call does what the store does and says what there is to say about it.
-/

namespace Watchtower

/-- A call of the store. -/
inductive StoreCall where
  | get (id : String)
  | create (id : String)
  | createOrReplace (id : String)
  | update (id : String)
  | delete (id : String)
  | deleteByStem (stem : String)
  | list
  | listByStem (stem : String)
  | compoundsFor (glyph : String)
  | recordFire (id : String)
  | recordError (id : String)
  | cursor (composition source target : String)
  | upsertCursor (composition source target : String)
  | deleteCursors (composition : String)
  | flush
  deriving DecidableEq

/-- Which calls fail, and how. -/
abbrev Outage := StoreCall → Option StoreFault

namespace Outage

/-- Every call works. -/
def none : Outage := fun _ => .none

end Outage

/-- A store and its outage. -/
structure Access where
  store : Store
  outage : Outage

namespace Access

variable {α : Type}

/-- Does what the call does, if the call works. -/
def attempt (a : Access) (call : StoreCall) (act : Traced α) : Traced α :=
  match a.outage call with
  | some f => .fail f
  | none => act

/-- A scan says which rows it passes over. -/
def scanned (a : Access) (within : String → Bool) (found : List Watcher) : Traced (List Watcher) :=
  ⟨.ok found, (a.store.damagedKeys within).map .undecodableWatcher⟩

def get? (a : Access) (id : String) : Traced (Option Watcher) :=
  a.attempt (.get id) (.lift (a.store.get? id))

def list (a : Access) (includeDisabled : Bool) : Traced (List Watcher) :=
  a.attempt .list (a.scanned (fun _ => true) (a.store.list includeDisabled))

def listByStem (a : Access) (stem : String) : Traced (List Watcher) :=
  a.attempt (.listByStem stem)
    (a.scanned (fun key => Naming.startsWith key stem) (a.store.listByStem stem))

def compoundsFor (a : Access) (glyph : String) : Traced (List Watcher) :=
  a.attempt (.compoundsFor glyph) (a.scanned (fun _ => true) (a.store.compoundsFor glyph))

/-- The cursor of an edge; a damaged one is reported and reads as none. -/
def cursor? (a : Access) (composition source target : String) : Traced (Option Cursor) :=
  a.attempt (.cursor composition source target)
    ⟨.ok (a.store.cursor? composition source target),
      match a.store.cursors.get? (Cursor.keyOf composition source target) with
      | some .damaged => [.undecodableCursor composition source target]
      | _ => []⟩

def create (a : Access) (w : Watcher) : Traced Store :=
  a.attempt (.create w.id) do
    let s ← .lift (a.store.create w)
    .say .createdWatcher
    return s

/-- The store with the watcher written, and the intact watcher it replaced. -/
def createOrReplace (a : Access) (w : Watcher) : Traced (Store × Option Watcher) :=
  a.attempt (.createOrReplace w.id) do
    let s ← .lift (a.store.createOrReplace w)
    match a.store.watchers.get? w.id with
    | some .damaged => do
      .say .replacedUndecodable
      return (s, none)
    | some (.intact old) => return (s, some old)
    | none => return (s, none)

def update (a : Access) (w : Watcher) : Traced Store :=
  a.attempt (.update w.id) (.lift (a.store.update w))

/-- The store without the row, and whether there was one. -/
def delete (a : Access) (id : String) : Traced (Store × Bool) :=
  a.attempt (.delete id) (pure (a.store.delete id, a.store.watchers.contains id))

/-- The store without the rows under a stem, and how many there were. -/
def deleteByStem (a : Access) (stem : String) : Traced (Store × Nat) :=
  a.attempt (.deleteByStem stem) do
    .say (.deletedByStem (a.store.countByStem stem))
    return (a.store.deleteByStem stem, a.store.countByStem stem)

def recordFire (a : Access) (id : String) (at_ : Moment) : Traced Store :=
  a.attempt (.recordFire id) (.lift (a.store.recordFire id at_))

def recordError (a : Access) (id message : String) : Traced Store :=
  a.attempt (.recordError id) (.lift (a.store.recordError id message))

def upsertCursor (a : Access) (c : Cursor) : Traced Store :=
  a.attempt (.upsertCursor c.composition c.source c.target) do
    .say (.cursorUpserted c.lastId)
    return a.store.upsertCursor c

/-- The store without a composition's cursors, and how many there were. -/
def deleteCursors (a : Access) (composition : String) : Traced (Store × Nat) :=
  a.attempt (.deleteCursors composition)
    (pure (a.store.deleteCursors composition, a.store.countCursors composition))

def flush (a : Access) : Traced Unit := a.attempt .flush (pure ())

end Access

end Watchtower
