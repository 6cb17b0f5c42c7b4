/-! Which log lines are let through. Lines about single primitives need more than the level: below
`debug` they appear only on request. -/
namespace CodecLink

inductive LogLevel
  | error | warn | info | debug | trace
  deriving DecidableEq, Repr

namespace LogLevel

def all : List LogLevel := [error, warn, info, debug, trace]

def name : LogLevel → String
  | error => "error"
  | warn => "warn"
  | info => "info"
  | debug => "debug"
  | trace => "trace"

def ofName? (text : String) : Option LogLevel := all.find? fun level => level.name == text

/-- How much a level lets through. -/
def rank : LogLevel → Nat
  | error => 0
  | warn => 1
  | info => 2
  | debug => 3
  | trace => 4

end LogLevel

structure LogFilter where
  level : LogLevel := .info
  traceWire : Bool := false
  deriving DecidableEq, Repr

namespace LogFilter

/-- What the targets that log every primitive start with. -/
def wireTargets : List String := ["rvpu_frame", "rvpu_peer"]

def isWire (target : String) : Bool :=
  wireTargets.any fun start => start.toList.isPrefixOf target.toList

def limit (filter : LogFilter) (target : String) : Nat :=
  if isWire target && !filter.traceWire then min filter.level.rank LogLevel.debug.rank
  else filter.level.rank

def enables (filter : LogFilter) (target : String) (level : LogLevel) : Bool :=
  level.rank ≤ filter.limit target

end LogFilter

end CodecLink
