import CodecLink.Record.Merge

/-! The configuration in force on the engine's side: the accepted records merged in order. -/
namespace CodecLink

structure AppliedConfig where
  prep : Prep := {}
  rc : RateControl := {}
  codec : CodecRecord
  sei : UInt32 := 0
  deriving DecidableEq, Repr

namespace AppliedConfig

def blank (codec : Codec) : AppliedConfig := { codec := .blank codec }

def apply (applied : AppliedConfig) (request : ConfigRequest) : Except RecordError AppliedConfig :=
  match request with
  | .prep new => .ok { applied with prep := applied.prep.merge new }
  | .rc new => .ok { applied with rc := applied.rc.merge new }
  | .codec new => do
    let codec ← applied.codec.merge new
    return { applied with codec }
  | .sei mode => .ok { applied with sei := mode }

/-- Forgets the change words once a task has used the configuration. -/
def clearChanges (applied : AppliedConfig) : AppliedConfig :=
  { applied with
    prep := { applied.prep with change := 0 }
    rc := { applied.rc with change := 0 }
    codec := match applied.codec with
      | .h264 r => .h264 { r with change := 0 }
      | .jpeg r => .jpeg { r with change := 0 } }

end AppliedConfig

end CodecLink
