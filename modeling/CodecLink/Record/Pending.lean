import CodecLink.Record.Merge

/-! The records a session has stored, and which of them still wait for delivery. A request for a
record that waits is joined to it; otherwise it takes the record's place. -/
namespace CodecLink

structure ConfigSet where
  prep : Prep := {}
  rc : RateControl := {}
  codec : CodecRecord
  sei : UInt32 := 0
  pending : RecordSet := {}
  deriving DecidableEq, Repr

namespace ConfigSet

def blank (codec : Codec) : ConfigSet := { codec := .blank codec }

def recordPrep (set : ConfigSet) (new : Prep) : ConfigSet :=
  { set with prep := if set.pending.prep then set.prep.merge new else new }

def recordRc (set : ConfigSet) (new : RateControl) : ConfigSet :=
  { set with rc := if set.pending.rc then set.rc.merge new else new }

def recordCodec (set : ConfigSet) (new : CodecRecord) : Except RecordError ConfigSet :=
  match set.codec, new with
  | .h264 old, .h264 new =>
    .ok { set with codec := .h264 (if set.pending.codec then old.merge new else new) }
  | .jpeg old, .jpeg new =>
    .ok { set with codec := .jpeg (if set.pending.codec then old.join new else new) }
  | old, new => .error (.codecMismatch old.codec new.codec)

def record (set : ConfigSet) (request : ConfigRequest) : Except RecordError ConfigSet := do
  let stored ← match request with
    | .prep new => pure (set.recordPrep new)
    | .rc new => pure (set.recordRc new)
    | .codec new => set.recordCodec new
    | .sei mode => pure { set with sei := mode }
  return { stored with pending := stored.pending.insert request.kind }

def encoded (set : ConfigSet) : RecordKind → Bytes
  | .prep => set.prep.encode
  | .rc => set.rc.encode
  | .codec => set.codec.encode
  | .sei => Sei.encode set.sei

def delivered (set : ConfigSet) (kind : RecordKind) : ConfigSet :=
  { set with pending := set.pending.erase kind }

def clearBits (set : ConfigSet) (bits : UInt32) : ConfigSet :=
  { set with pending := set.pending.eraseBits bits }

end ConfigSet

end CodecLink
