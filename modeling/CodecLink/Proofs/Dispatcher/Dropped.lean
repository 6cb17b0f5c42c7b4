import CodecLink.Engine.Scripted
import CodecLink.Proofs.Dispatcher.Answering
import CodecLink.Proofs.Message.CheckedLayouts
import CodecLink.Proofs.Record.Acceptance

/-! Primitives that a dispatcher cannot use. Each is counted and has no other effect, but that a
session that waits for replies is told of an output that could not be imported. -/
namespace CodecLink

namespace Dispatcher

variable {σ : Type} {host : EngineHost σ} {p : Primitive} {d : Dispatcher σ}

/-- The grounds on which a dispatcher drops a primitive. No run comes to the last one: the
configuration of a session is of the session's codec. -/
inductive Unusable (p : Primitive) (d : Dispatcher σ) : Prop
  | unknown (code : p.kind? = none)
  | undefined (kind : p.kind? = some .undefined)
  | unopened {kind : PrimitiveCode} (known : p.kind? = some kind) (other : kind ≠ .init)
      (closed : d.session = none)
  | reopening (kind : p.kind? = some .init) (opened : d.session.isSome = true)
  | unreadable (kind : p.kind? = some .init) (given : p.payload.isEmpty = false)
      (invalid : SessionConfig.ofPayload? p.payload = none)
  | undecodedInput {error : DescriptorError} (kind : p.kind? = some .start)
      (given : p.payload.isEmpty = false) (undecoded : Descriptor.decode p.payload = .error error)
  | unknownInput {descriptor : Descriptor} {error : DescriptorError} (kind : p.kind? = some .start)
      (given : p.payload.isEmpty = false) (decoded : Descriptor.decode p.payload = .ok descriptor)
      (refused : d.regions.importBuffer descriptor = .error error)
  | undecodedOutput {error : DescriptorError} (kind : p.kind? = some .wait)
      (given : p.payload.isEmpty = false) (undecoded : WaitRequest.decode p.payload = .error error)
  | unknownOutput {request : WaitRequest} {error : DescriptorError} (kind : p.kind? = some .wait)
      (given : p.payload.isEmpty = false) (decoded : WaitRequest.decode p.payload = .ok request)
      (refused : d.regions.importBuffer request.output = .error error)
  | missized {kind : RecordKind} {s : HostSession} (known : p.kind? = some kind.primitive)
      (opened : d.session = some s)
      (size : p.payload.length ≠ ConfigRequest.size s.config.backend.codec kind)
  | foreign {s : HostSession} (kind : p.kind? = some .controlCodec) (opened : d.session = some s)
      (other : s.applied.codec.codec ≠ s.config.backend.codec)

/-- What is said of a dropped primitive: a request whose output could not be imported failed, in a
session that waits for replies. -/
inductive Refusal (p : Primitive) (d : Dispatcher σ) : WaitReply → Prop
  | unimported {s : HostSession} {timeoutMs : UInt64} {request : WaitRequest}
      {error : DescriptorError} (kind : p.kind? = some .wait) (opened : d.session = some s)
      (mode : s.config.completion = .roundTrip timeoutMs)
      (decoded : WaitRequest.decode p.payload = .ok request)
      (refused : d.regions.importBuffer request.output = .error error) :
      Refusal p d (.failed request.tag)

/-- Nothing is counted as dropped: a failure of the engine is counted, or a task, or neither. -/
structure Counts (before after : DispatchSummary) : Prop where
  primitives : after.primitives = before.primitives
  dropped : after.dropped = before.dropped
  others : (after.engineErrors, after.tasks) ∈
    [(before.engineErrors, before.tasks), (before.engineErrors + 1, before.tasks),
      (before.engineErrors, before.tasks + 1)]

variable (host) in
theorem counts_attempt (operation : EngineOperation) (d : Dispatcher σ) :
    Counts d.summary (d.attempt host operation).summary := by
  rw [attempt_eq]
  cases (d.perform host operation).1 with
  | ok _ => exact ⟨rfl, rfl, .head _⟩
  | error e => exact ⟨rfl, rfl, .tail _ (.head _)⟩

/-- An engine that fails to start is not kept. -/
theorem Opening.closed {config : SessionConfig} {after : Dispatcher σ}
    (opening : Opening host config d after) (closed : d.session = none)
    (failed : after.summary.engineErrors = d.summary.engineErrors + 1) : after.session = none := by
  cases opening with
  | unsupported absent | refused created failed => exact closed
  | opened created ready => exact absurd failed (Nat.ne_of_lt (Nat.lt_succ_self _))

section Grounds

/-! What is dropped is so on one of the grounds. -/

theorem importPayload_undecoded {error : DescriptorError} (given : p.payload.isEmpty = false)
    (undecoded : Descriptor.decode p.payload = .error error) :
    d.importPayload p.payload = .error error := by
  rw [importPayload, given, undecoded]
  rfl

theorem importPayload_unknown {descriptor : Descriptor} {error : DescriptorError}
    (given : p.payload.isEmpty = false) (decoded : Descriptor.decode p.payload = .ok descriptor)
    (refused : d.regions.importBuffer descriptor = .error error) :
    d.importPayload p.payload = .error error := by
  rw [importPayload, given, decoded]
  simp only [Bool.false_eq_true, if_false, refused, bind, Except.bind]

theorem dropped_of_route {kind : PrimitiveCode} (known : p.kind? = some kind) (other : kind ≠ .init)
    (routed : ∀ s, d.session = some s →
      (d.countPrimitive.route host kind p.payload s).1 = d.countPrimitive.countDropped) :
    (d.dispatch host p).1 = d.countPrimitive.countDropped := by
  cases opened : d.session with
  | none => rw [dispatch_closed known other opened]
  | some s =>
    rw [dispatch_open known opened]
    exact routed s opened

variable (host) in
/-- On each ground the primitive is dropped. -/
theorem Unusable.dropped (unusable : Unusable p d) :
    (d.dispatch host p).1 = d.countPrimitive.countDropped := by
  cases unusable with
  | unknown code => rw [dispatch_unknown code]
  | undefined kind => exact dropped_of_route kind (by decide) fun s _ => rfl
  | unopened known other closed => rw [dispatch_closed known other closed]
  | reopening kind opened =>
    rw [dispatch_init kind]
    exact if_pos opened
  | unreadable kind given invalid =>
    rw [dispatch_init kind, onInit, given, invalid]
    exact ite_self _
  | undecodedInput kind given undecoded =>
    refine dropped_of_route kind (by decide) fun s _ => ?_
    rw [route, onStart, importPayload_undecoded (d := d.countPrimitive) given undecoded]
  | unknownInput kind given decoded refused =>
    refine dropped_of_route kind (by decide) fun s _ => ?_
    rw [route, onStart, importPayload_unknown (d := d.countPrimitive) given decoded refused]
  | undecodedOutput kind given undecoded =>
    refine dropped_of_route kind (by decide) fun s _ => ?_
    rw [route, onWait, decodeWait, given, undecoded]
    rfl
  | unknownOutput kind given decoded refused =>
    have refused : d.countPrimitive.regions.importBuffer _ = _ := refused
    refine dropped_of_route kind (by decide) fun s _ => ?_
    rw [route, onWait, decodeWait, given, decoded]
    simp only [Bool.false_eq_true, if_false, Except.map, refused]
  | missized known opened size =>
    rw [dispatch_record host _ known opened, onRecord_missized size]
  | @foreign s kind opened other =>
    rw [dispatch_record host .codec kind opened]
    by_cases sized : p.payload.length = ConfigRequest.size s.config.backend.codec .codec
    · obtain ⟨request, decoded, suits⟩ := ConfigRequest.decode_sized sized
      cases request with
      | prep r | rc r | sei r => cases ConfigRequest.kind_of_decode decoded
      | codec r =>
        have own : r.codec = s.config.backend.codec := of_decide_eq_true suits
        obtain ⟨error, refused⟩ := AppliedConfig.apply_foreign (own.trans_ne other.symm)
        rw [onRecord_refused decoded refused]
    · rw [onRecord_missized sized]

end Grounds

theorem Refusal.told {m : WaitReply} (refusal : Refusal p d m) :
    (d.dispatch host p).2.2 = some m := by
  cases refusal with
  | @unimported s timeoutMs request error kind opened mode decoded refused =>
    have asked := decodeWait_of_decode decoded
    have named : requested? p.payload d.regions = some (.error error) := by
      rw [requested?, asked]
      simp only [refused, Except.map]
    rw [dispatch_request host kind opened, named]
    simp only [failedReply, mode, tagOf, asked]
    rfl

end Dispatcher

end CodecLink
