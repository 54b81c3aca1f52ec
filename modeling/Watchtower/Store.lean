import Watchtower.Cursor
import Watchtower.Fault
import Watchtower.Table
import Watchtower.Watcher

/-!
The store: watchers by id and cursors by edge.

A row may have become damaged. A damaged row still counts as a row where rows are created, removed
or counted; scans pass over it, and reading it alone is a failure (a damaged cursor reads as none).
Every operation is a function on the store; one that fails yields no store.
-/

namespace Watchtower

/-- What is kept under a key. -/
inductive Row (α : Type) where
  | intact (a : α)
  | damaged
  deriving DecidableEq

namespace Row

variable {α : Type}

/-- What an intact row holds. -/
def value? : Row α → Option α
  | intact a => some a
  | damaged => none

end Row

namespace Statistics

/-- One more fire of the watcher under an id, unless the counter is full. -/
def countFire (id : String) (at_ : Moment) (stats : Statistics) : Except StoreFault Statistics :=
  if stats.fires < limit then .ok { stats with fires := stats.fires + 1, lastFiredAt := some at_ }
  else .error (.counterFull id)

/-- One more error of the watcher under an id, unless the counter is full. -/
def countError (id message : String) (stats : Statistics) : Except StoreFault Statistics :=
  if stats.errors < limit then
    .ok { stats with errors := stats.errors + 1, lastError := some message }
  else .error (.counterFull id)

end Statistics

/-- Both tables. -/
structure Store where
  watchers : Table (Row Watcher)
  cursors : Table (Row Cursor)
  deriving DecidableEq

namespace Store

def empty : Store := ⟨.empty, .empty⟩

/-! ### Reading -/

/-- The watcher under an id. -/
def get? (s : Store) (id : String) : Except StoreFault (Option Watcher) :=
  match s.watchers.get? id with
  | none => .ok none
  | some .damaged => .error .undecodable
  | some (.intact w) => .ok (some w)

/-- The intact watchers that a test admits, in the order of their keys. -/
def scan (s : Store) (keep : String → Watcher → Bool) : List Watcher :=
  s.watchers.rows.filterMap fun r => r.2.value?.filter (keep r.1)

/-- The keys of damaged watcher rows that a test admits. -/
def damagedKeys (s : Store) (keep : String → Bool) : List String :=
  (s.watchers.rows.filter fun r => keep r.1 && r.2.value?.isNone).map (·.1)

/-- All watchers, or the enabled ones. -/
def list (s : Store) (includeDisabled : Bool) : List Watcher :=
  s.scan fun _ w => includeDisabled || w.rule.enabled

/-- The watchers whose key starts with a stem. -/
def listByStem (s : Store) (stem : String) : List Watcher :=
  s.scan fun key _ => Naming.startsWith key stem

/-- The enabled compound watchers that cover a glyph. -/
def compoundsFor (s : Store) (glyph : String) : List Watcher :=
  s.scan fun _ w => w.rule.enabled && w.covers? == some glyph

/-- The cursor of an edge. -/
def cursor? (s : Store) (composition source target : String) : Option Cursor :=
  (s.cursors.get? (Cursor.keyOf composition source target)).bind Row.value?

/-! ### Writing watchers -/

/-- The fault of a watcher that must not be stored. -/
def fault? (w : Watcher) : Option StoreFault :=
  w.defect?.map fun d => .invalidWatcher w.id d.message

/-- Stores a watcher under its id. -/
def write (s : Store) (w : Watcher) : Store :=
  { s with watchers := s.watchers.put w.id (.intact w) }

/-- Stores a new watcher. -/
def create (s : Store) (w : Watcher) : Except StoreFault Store :=
  match fault? w with
  | some f => .error f
  | none => if s.watchers.contains w.id then .error (.alreadyExists w.id) else .ok (s.write w)

/-- Stores a watcher whether or not its id has a row. -/
def createOrReplace (s : Store) (w : Watcher) : Except StoreFault Store :=
  match fault? w with
  | some f => .error f
  | none => .ok (s.write w)

/-- Stores a watcher whose id has a row. -/
def update (s : Store) (w : Watcher) : Except StoreFault Store :=
  match fault? w with
  | some f => .error f
  | none => if s.watchers.contains w.id then .ok (s.write w) else .error (.notFound w.id)

/-- Removes the row under an id. -/
def delete (s : Store) (id : String) : Store := { s with watchers := s.watchers.erase id }

/-- Removes the watcher rows whose key starts with a stem. -/
def deleteByStem (s : Store) (stem : String) : Store :=
  { s with watchers := s.watchers.filter fun key _ => !Naming.startsWith key stem }

/-- How many watcher rows have a key that starts with a stem. -/
def countByStem (s : Store) (stem : String) : Nat :=
  (s.watchers.filter fun key _ => Naming.startsWith key stem).size

/-- Changes the statistics of a stored watcher. -/
def record (s : Store) (id : String) (change : Statistics → Except StoreFault Statistics) :
    Except StoreFault Store :=
  match s.watchers.get? id with
  | none => .error (.notFound id)
  | some .damaged => .error .undecodable
  | some (.intact w) => do
    let stats ← change w.stats
    return { s with watchers := s.watchers.put id (.intact { w with stats }) }

/-- Counts one more fire. -/
def recordFire (s : Store) (id : String) (at_ : Moment) : Except StoreFault Store :=
  s.record id (Statistics.countFire id at_)

/-- Counts one more error. -/
def recordError (s : Store) (id message : String) : Except StoreFault Store :=
  s.record id (Statistics.countError id message)

/-! ### Writing cursors -/

/-- Stores a cursor unless the stored one is strictly later. -/
def upsertCursor (s : Store) (c : Cursor) : Store :=
  match (s.cursors.get? c.key).bind Row.value? with
  | some stored =>
    if c.lastAt.Before stored.lastAt then s
    else { s with cursors := s.cursors.put c.key (.intact c) }
  | none => { s with cursors := s.cursors.put c.key (.intact c) }

/-- Removes the cursors of a composition. -/
def deleteCursors (s : Store) (composition : String) : Store :=
  { s with cursors := s.cursors.filter fun key _ =>
    !Naming.startsWith key (Cursor.stem composition) }

/-- How many cursor rows a composition has. -/
def countCursors (s : Store) (composition : String) : Nat :=
  (s.cursors.filter fun key _ => Naming.startsWith key (Cursor.stem composition)).size

/-! ### Damage -/

/-- Puts a damaged row under a watcher id. -/
def damageWatcher (s : Store) (id : String) : Store :=
  { s with watchers := s.watchers.put id .damaged }

/-- Puts a damaged row under the key of an edge's cursor. -/
def damageCursor (s : Store) (composition source target : String) : Store :=
  { s with cursors := s.cursors.put (Cursor.keyOf composition source target) .damaged }

end Store

end Watchtower
