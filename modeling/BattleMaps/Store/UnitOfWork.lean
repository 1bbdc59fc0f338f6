import BattleMaps.Store.Table

/-!
# Units of work

Changes to the table are made in units of work. Inside a unit its own changes show at once; others
see them only after they have been committed. Rolling back, and ending the unit in whatever way,
drops what has not been committed. A unit can be used again after any of these.

## Main definitions

* `UnitOfWork`: a unit of work on a table
* `UnitOfWork.start`, `put`, `commit`, `rollback`, `exit`: the steps
* `save`: one row in a unit of its own
-/

namespace BattleMaps.Store

structure UnitOfWork where
  committed : Table
  working : Table
deriving DecidableEq, Repr

namespace UnitOfWork

def start (t : Table) : UnitOfWork := ⟨t, t⟩

/-- Puts a row into the table as the unit sees it. -/
def put (u : UnitOfWork) (row : Row) : Except Conflict UnitOfWork :=
  (u.working.put row).map fun t => { u with working := t }

def commit (u : UnitOfWork) : UnitOfWork := { u with committed := u.working }

/-- Drops the changes that have not been committed. -/
def rollback (u : UnitOfWork) : UnitOfWork := { u with working := u.committed }

/-- Ends a unit, which drops the changes that have not been committed. -/
def exit (u : UnitOfWork) : UnitOfWork := u.rollback

end UnitOfWork

/-- Puts one row into a table in a unit of its own: whether it was refused, and the table
afterwards. -/
def save (t : Table) (row : Row) : Except Conflict Unit × Table :=
  let u := UnitOfWork.start t
  match u.put row with
  | .ok u => (.ok (), u.commit.exit.committed)
  | .error c => (.error c, u.exit.committed)

end BattleMaps.Store
