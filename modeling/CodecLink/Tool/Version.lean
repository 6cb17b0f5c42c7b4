import CodecLink.Channel.Handshake
import CodecLink.Frame.Codec
import CodecLink.Text.Numeral
import CodecLink.Tool.Report

/-! What the program says of itself. -/
namespace CodecLink

/-- What was known of the build. -/
structure BuildInfo where
  target : String := "unknown"
  profile : String := "unknown"
  compiler : String := "unknown"
  revision : String := "unknown"
  deriving DecidableEq, Repr

namespace BuildInfo

def programName : String := "rvpu"

def programVersion : String := "0.1.0"

def line : String := programName ++ " " ++ programVersion

def report (endpoint : String) (info : BuildInfo) : Report where
  title := "Build"
  fields :=
    [ ("name", .ofString programName), ("version", .ofString programVersion),
      ("target", .ofString info.target), ("profile", .ofString info.profile),
      ("rustc", .ofString info.compiler), ("git_hash", .ofString info.revision),
      ("default_endpoint", .ofString endpoint),
      ("channel_tag", .ofNat Handshake.channelTag.toNat),
      ("max_context_size", .ofNat Frame.maxContextSize),
      ("tx_capacity", .ofNat Frame.defaultCapacity), ("async_codec", .bool true) ]
  rows :=
    [ ("version", programVersion), ("target", info.target), ("profile", info.profile),
      ("rustc", info.compiler), ("git hash", info.revision), ("endpoint", endpoint),
      ("channel tag", Numeral.byteText Handshake.channelTag),
      ("max context", s!"{Frame.maxContextSize} (tx {Frame.defaultCapacity})"),
      ("async codec", toString true) ]

end BuildInfo

end CodecLink
