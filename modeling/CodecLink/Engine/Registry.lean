import CodecLink.Backend

/-! Which backends have an engine. -/
namespace CodecLink

structure EngineRegistry where
  registered : List Backend := []
  deriving DecidableEq, Repr

def Backend.title : Backend → String
  | h264Decoder => "H264Decoder"
  | h264Encoder => "H264Encoder"
  | jpegEncoder => "JpegEncoder"

namespace EngineRegistry

def full : EngineRegistry := ⟨Backend.all⟩

def register (registry : EngineRegistry) (backend : Backend) : EngineRegistry :=
  if backend ∈ registry.registered then registry else ⟨registry.registered ++ [backend]⟩

def supports (registry : EngineRegistry) (backend : Backend) : Bool :=
  registry.registered.contains backend

/-- The registered backends in the order of their names. -/
def kinds (registry : EngineRegistry) : List Backend := Backend.all.filter registry.supports

def describe (registry : EngineRegistry) : String :=
  "EngineRegistry \x7b kinds: [" ++ ", ".intercalate (registry.kinds.map Backend.title)
    ++ "] \x7d"

end EngineRegistry

end CodecLink
