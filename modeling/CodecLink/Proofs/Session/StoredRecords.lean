import CodecLink.Proofs.Dispatcher.Dropped
import CodecLink.Proofs.Dispatcher.InForce
import CodecLink.Proofs.Record.Lossless
import CodecLink.Proofs.Session.Outstanding

/-! Both ends of a session agree on its records. What one end stores has the size that the other
expects of the primitive it travels in, and reaches the engine. -/
namespace CodecLink

namespace Dispatcher

variable {σ : Type} {d : Dispatcher σ} {s : HostSession}

/-- In a session that came about by dispatching, the configuration is of the session's codec. -/
theorem codec_applied {host : EngineHost σ} (closed : d.session = none) {ps : List Primitive}
    (opened : (d.reached host ps).session = some s) :
    s.applied.codec.codec = s.config.backend.codec := by
  rw [applied_of_turns closed ps opened]
  exact AppliedConfig.codec_inForce _ _ _

variable (host : EngineHost σ) in
/-- A record that suits the session is not dropped, and its engine is told of it. -/
theorem performs_record (opened : d.session = some s) {request : ConfigRequest}
    (suits : request.suits s.config.backend.codec = true)
    (alike : s.applied.codec.codec = s.config.backend.codec) :
    let after := (d.dispatch host (.of request.kind.primitive request.encode)).1
    after.summary.dropped = d.summary.dropped ∧
      after.calls = d.calls ++ [.perform (.control (.configure request))] := by
  intro after
  have known : (Primitive.of request.kind.primitive request.encode).kind? =
      some request.kind.primitive := PrimitiveCode.ofWire?_wire _
  have decoded := ConfigRequest.decode_encode suits
  rw [← alike] at suits
  obtain ⟨applied, merged, -⟩ := AppliedConfig.apply_suits suits
  have taken : after = { d.countPrimitive with session := some { s with applied } }.attempt host
      (.control (.configure request)) := by
    dsimp only [after]
    rw [dispatch_record host _ known opened, Primitive.of, onRecord_taken decoded merged]
  rw [taken]
  exact ⟨(counts_attempt host _ _).dropped, calls_attempt _ _⟩

end Dispatcher

/-- The five records and the byte strings of their sizes correspond one to one. A client's records
are always of the codec of its backend, and each of them has the size that a host expects of the
primitive that belongs to its bit of the change word, whether or not the backend makes use of it. A
host with a session of that backend, whatever it did before, does not drop it but hands it on. -/
theorem record_formats_agree :
    Lossless 12 Prep.encode Prep.decode ∧ Lossless 32 RateControl.encode RateControl.decode ∧
      Lossless 20 H264.encode H264.decode ∧ Lossless 8 Jpeg.encode Jpeg.decode ∧
      Lossless 4 Sei.encode Sei.decode ∧
      (∀ (config : SessionConfig) (events : List SessionEvent),
        (Followed.run config events).session.configs.codec.codec = config.backend.codec) ∧
      ∀ (backend : Backend) (set : ConfigSet), set.codec.codec = backend.codec →
        ∀ (bit : UInt32) (kind : RecordKind), RecordKind.ofBit? bit = some kind →
          (set.encoded kind).length = ConfigRequest.size backend.codec kind ∧
          ∀ {σ : Type} (host : EngineHost σ) (d : Dispatcher σ) (ps : List Primitive)
            (s : HostSession), d.session = none → (d.reached host ps).session = some s →
            s.config.backend = backend →
            let before := d.reached host ps
            let after := (before.dispatch host (.of kind.primitive (set.encoded kind))).1
            after.summary.dropped = before.summary.dropped ∧
              after.calls =
                before.calls ++ [.perform (.control (.configure (set.stored kind)))] := by
  refine ⟨Prep.lossless, RateControl.lossless, H264.lossless, Jpeg.lossless, Sei.lossless,
    fun config events => ?_, fun backend set fits bit kind _ => ⟨?_, ?_⟩⟩
  · have faithful := Followed.faithful_run config events
    have fits : (Followed.run config events).session.Fits := faithful.sound.fits
    rwa [Session.Fits, faithful.own] at fits
  · rw [set.length_encoded_eq, fits]
  · intro σ host d ps s closed opened same
    have suits : (set.stored kind).suits s.config.backend.codec = true :=
      ConfigSet.suits_stored (fits.trans (by rw [same])) kind
    have performed := Dispatcher.performs_record host opened suits
      (Dispatcher.codec_applied closed opened)
    rwa [set.kind_stored, set.encode_stored] at performed

/-- A quantizer beyond the largest, with a bit that means nothing. -/
theorem record_formats_agree_jpeg :
    let host := ScriptedEngine.host .full
    let d : Dispatcher ScriptedEngine :=
      { settings.defaultSession.backend := .jpegEncoder, engine := {} }
    let ps : List Primitive := [.of .init [], .of .control [1, 2, 3]]
    let set : ConfigSet := { ConfigSet.blank .jpeg with codec := .jpeg ⟨0x80000001, 99⟩ }
    set.codec.codec = Backend.jpegEncoder.codec ∧ RecordKind.ofBit? 4 = some .codec ∧
      d.session = none ∧ (set.encoded .codec).length = 8 ∧
      ∃ s, (d.reached host ps).session = some s ∧ s.config.backend = .jpegEncoder ∧
        let after := ((d.reached host ps).dispatch host (.of .controlCodec (set.encoded .codec))).1
        after.summary.dropped = 0 ∧
          after.calls = (d.reached host ps).calls ++
            [.perform (.control (.configure (.codec (.jpeg ⟨0x80000001, 99⟩))))] := by
  intro host d ps set
  have fits : set.codec.codec = Backend.jpegEncoder.codec := rfl
  have bit : RecordKind.ofBit? 4 = some .codec := rfl
  have backend : (d.reached host ps).session.map (·.config.backend) = some .jpegEncoder := by
    decide +kernel
  obtain ⟨s, opened, same⟩ := Option.map_eq_some_iff.1 backend
  have before : (d.reached host ps).summary.dropped = 0 := by decide +kernel
  obtain ⟨-, -, -, -, -, -, taken⟩ := record_formats_agree
  obtain ⟨size, performed⟩ := taken .jpegEncoder set fits 4 .codec bit
  obtain ⟨dropped, calls⟩ := performed host d ps s rfl opened same
  exact ⟨fits, bit, rfl, size, s, opened, same, dropped.trans before, calls⟩

end CodecLink
