import CodecLink.Engine.Passthrough
import CodecLink.Engine.Registry

/-! Copying engines whose calls may be made to fail: each method has a list of outcomes laid out
beforehand, used up call by call by all engines of a registry. A call without one reaches the
engine. -/
namespace CodecLink

inductive EngineMethod
  | init | deinit | prepare | start | wait | reset | flush | control
  deriving DecidableEq, Repr

namespace EngineMethod

def all : List EngineMethod := [init, deinit, prepare, start, wait, reset, flush, control]

def name : EngineMethod → String
  | init => "init" | deinit => "deinit" | prepare => "prepare" | start => "start"
  | wait => "wait" | reset => "reset" | flush => "flush" | control => "control"

def ofOperation : EngineOperation → EngineMethod
  | .init _ => init
  | .deinit => deinit
  | .prepare _ => prepare
  | .start _ => start
  | .reset => reset
  | .flush => flush
  | .control _ => control

end EngineMethod

inductive Outcome
  | reach
  | fail (error : EngineError)
  | report (feedback : Feedback)
  deriving DecidableEq, Repr

structure ScriptedEngine where
  outcomes : List (EngineMethod × List Outcome) := []
  engine : Passthrough := {}
  deriving DecidableEq, Repr

namespace ScriptedEngine

def next (method : EngineMethod) :
    List (EngineMethod × List Outcome) → Outcome × List (EngineMethod × List Outcome)
  | [] => (.reach, [])
  | entry :: rest =>
    if entry.1 = method then
      match entry.2 with
      | [] => (.reach, entry :: rest)
      | outcome :: later => (outcome, (method, later) :: rest)
    else
      let (outcome, rest) := next method rest
      (outcome, entry :: rest)

def take (method : EngineMethod) (s : ScriptedEngine) : Outcome × ScriptedEngine :=
  let (outcome, outcomes) := next method s.outcomes
  (outcome, { s with outcomes })

def perform (operation : EngineOperation) (t : RegionTable) (s : ScriptedEngine) :
    EngineResult Unit × RegionTable × ScriptedEngine :=
  match s.take (.ofOperation operation) with
  | (.fail error, s) => (.error error, t, s)
  | (_, s) =>
    let (result, engine) := s.engine.perform operation t
    (result, t, { s with engine })

def wait (task : Task) (t : RegionTable) (s : ScriptedEngine) :
    EngineResult Feedback × RegionTable × ScriptedEngine :=
  match s.take .wait with
  | (.fail error, s) => (.error error, t, s)
  | (.report feedback, s) => (.ok feedback, t, s)
  | (.reach, s) =>
    let (result, t, engine) := s.engine.wait task t
    (result, t, { s with engine })

/-- Every engine starts blank; the outcomes go on where the last engine left them. -/
def host (registry : EngineRegistry) : EngineHost ScriptedEngine where
  create backend s := if registry.supports backend then some { s with engine := {} } else none
  perform := perform
  wait := wait

end ScriptedEngine

end CodecLink
