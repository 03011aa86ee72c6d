import Compliance.Database.Select
import Compliance.Scan.Cooperative
import Compliance.Scan.Run
import Compliance.Store.Violations

/-!
Scanning the store.

The rules are fetched from the store, their queries run over its relations, and what they find is
recorded in it.
-/

namespace Compliance.Store

open Database Scan

def answer (s : Store) (query : Query) (limit : Nat) : Except Fault Database.Answer :=
  runQuery s.find? s.relations.length (query.limited limit) query.binds

def behaviour (s : Store) (query : Query) (limit : Nat) : Behaviour :=
  match s.answer query limit with
  | .ok (.rows rows) => .immediate (.ok rows)
  | .ok .endless => ⟨0, false, none⟩
  | .error fault => .immediate (.error (.query fault.message))

def scanStore (newId : Nat → String) (now : Time.Timestamp) : Scan.Store Store :=
  ⟨fetchRules, catalog, persist newId now⟩

structure Disturbance where
  cancelled : Bool
  cancelAfter : Option Time.Duration
  deriving DecidableEq, Repr, Inhabited

def evaluate (s : Store) (disturbance : Disturbance) : Scan.Evaluate := fun settings catalog rules =>
  let runner (_ : Nat) (query : Query) : Behaviour := s.behaviour query (rowLimit settings.maxRows)
  let ended :=
    Cooperative.evaluate runner 0 disturbance.cancelAfter settings catalog rules disturbance.cancelled
  (ended.pass.evaluations, ended.pass.cancelled)

def scan (newId : Nat → String) (clock : Clock) (settings : Settings) (disturbance : Disturbance)
    (s : Store) :
    Except ScanError (Report × Store) :=
  Scan.run (scanStore newId clock.startedAt) (s.evaluate disturbance) settings clock s

end Compliance.Store
