import CodecLink.Proofs.Dispatcher.Copying
import CodecLink.Proofs.Dispatcher.Handling
import CodecLink.Proofs.Record.Acceptance
import CodecLink.Proofs.Regions
import CodecLink.Session.Calls

/-! A host that copies, served a session in which everything is as it should be. It knows what each
primitive is for, counts no failure, and answers a request with the content of the input that the
last start named, as that was when the start was handled. -/
namespace CodecLink.Dispatcher

/-- How far the host is with a session: there is none, one is open, or a task of it is ready. -/
inductive Stage
  | vacant
  | idle
  | loaded (input : Descriptor)
  deriving DecidableEq, Repr

/-- From which stage to which a primitive takes the host. Requests that name an output are left
out: they are answered, and handled apart. -/
inductive Leads (config : SessionConfig) (t : RegionTable) : Stage → Primitive → Stage → Prop
  | init : Leads config t .vacant (.of .init config.toPayload) .idle
  | record {stage : Stage} {kind : RecordKind} {payload : Bytes} (opened : stage ≠ .vacant)
      (sized : payload.length = ConfigRequest.size config.backend.codec kind) :
      Leads config t stage (.of kind.primitive payload) stage
  | prepare {stage : Stage} (opened : stage ≠ .vacant) :
      Leads config t stage (.of .regs []) stage
  | start {stage : Stage} {input : Descriptor} (opened : stage ≠ .vacant)
      (admits : t.Admits input) :
      Leads config t stage (.of .start (Session.startPayload input)) (.loaded input)
  | drain {input : Descriptor} (unanswered : config.completion.isPolling = true) :
      Leads config t (.loaded input) (.of .wait []) .idle
  | clear {stage : Stage} {kind : PrimitiveCode} (opened : stage ≠ .vacant)
      (clears : kind = .reset ∨ kind = .flush) : Leads config t stage (.of kind []) .idle
  | deinit {stage : Stage} (opened : stage ≠ .vacant) :
      Leads config t stage (.of .deinit []) .vacant

/-- A run of primitives takes the host from one stage to another. -/
inductive Travels (config : SessionConfig) (t : RegionTable) :
    Stage → List Primitive → Stage → Prop
  | nil {stage : Stage} : Travels config t stage [] stage
  | cons {first middle last : Stage} {p : Primitive} {ps : List Primitive}
      (leads : Leads config t first p middle) (later : Travels config t middle ps last) :
      Travels config t first (p :: ps) last

section

variable {config : SessionConfig} {t : RegionTable} {first middle last : Stage}

theorem Travels.append {ps qs : List Primitive} (front : Travels config t first ps middle)
    (back : Travels config t middle qs last) : Travels config t first (ps ++ qs) last := by
  induction front with
  | nil => exact back
  | cons leads _ ih => exact .cons leads (ih back)

theorem Leads.travels {p : Primitive} (leads : Leads config t first p last) :
    Travels config t first [p] last :=
  .cons leads .nil

theorem Leads.mono {after : RegionTable} {p : Primitive} (keeps : t.Keeps after)
    (leads : Leads config t first p last) : Leads config after first p last := by
  cases leads with
  | init => exact .init
  | record opened sized => exact .record opened sized
  | prepare opened => exact .prepare opened
  | start opened admits => exact .start opened (keeps.admits admits)
  | drain unanswered => exact .drain unanswered
  | clear opened clears => exact .clear opened clears
  | deinit opened => exact .deinit opened

theorem Travels.mono {after : RegionTable} {ps : List Primitive} (keeps : t.Keeps after)
    (travels : Travels config t first ps last) : Travels config after first ps last := by
  induction travels with
  | nil => exact .nil
  | cons leads _ ih => exact .cons (leads.mono keeps) ih

end

variable {registry : EngineRegistry} {config : SessionConfig} {d : Dispatcher ScriptedEngine}
  {snapshot : RegionTable}

/-- A session of the configuration is open, and its engine is ready. -/
structure Serving (config : SessionConfig) (d : Dispatcher ScriptedEngine) : Prop where
  unscripted : d.engine.outcomes = []
  ready : d.engine.engine.initialized = true
  session : ∃ s, d.session = some s ∧ s.config = config ∧
    s.applied.codec.codec = config.backend.codec

/-- The host is at a stage; `snapshot` are the regions as they were at the last start. -/
def Stands (config : SessionConfig) (snapshot : RegionTable) (d : Dispatcher ScriptedEngine) :
    Stage → Prop
  | .vacant => d.engine.outcomes = [] ∧ d.session = none
  | .idle => d.Serving config
  | .loaded input => d.Serving config ∧ d.slot = some (.bytes (snapshot.contentOf input))

theorem Stands.serving {stage : Stage} (stands : d.Stands config snapshot stage)
    (opened : stage ≠ .vacant) : d.Serving config := by
  cases stage with
  | vacant => exact absurd rfl opened
  | idle => exact stands
  | loaded input => exact stands.1

/-- Between two moments nothing failed, and so many tasks were completed. -/
structure Counted (d after : Dispatcher ScriptedEngine) (tasks : Nat) : Prop where
  dropped : after.summary.dropped = d.summary.dropped
  engineErrors : after.summary.engineErrors = d.summary.engineErrors
  tasks : after.summary.tasks = d.summary.tasks + tasks

/-- What handling a primitive that needs no answer comes to. -/
structure Handled (config : SessionConfig) (snapshot : RegionTable) (next : Stage) (tasks : Nat)
    (d : Dispatcher ScriptedEngine)
    (outcome : Dispatcher ScriptedEngine × Flow × Option WaitReply) : Prop where
  stands : outcome.1.Stands config snapshot next
  regions : outcome.1.regions = d.regions
  silent : outcome.2.2 = none
  counted : Counted d outcome.1 tasks

variable (registry) in
theorem dispatch_opened (serving : d.Serving config) (kind : PrimitiveCode) (payload : Bytes) :
    ∃ s, s.config = config ∧ s.applied.codec.codec = config.backend.codec ∧
      d.session = some s ∧
      d.dispatch (ScriptedEngine.host registry) (.of kind payload) =
        d.countPrimitive.route (ScriptedEngine.host registry) kind payload s := by
  obtain ⟨s, opened, same, codec⟩ := serving.session
  refine ⟨s, same, codec, opened, ?_⟩
  exact dispatch_open (PrimitiveCode.ofWire?_wire kind) opened

theorem Serving.countPrimitive (serving : d.Serving config) : d.countPrimitive.Serving config :=
  ⟨serving.unscripted, serving.ready, serving.session⟩

theorem Serving.did (serving : d.Serving config) {operation : EngineOperation}
    (stays : operation ≠ .deinit) : (d.did operation).Serving config where
  unscripted := serving.unscripted
  ready := by
    have ready := serving.ready
    cases operation with
    | deinit => exact absurd rfl stays
    | _ => simp [Dispatcher.did, Passthrough.perform, ready]
  session := serving.session

theorem Serving.isSome (serving : d.Serving config) : d.session.isSome := by
  obtain ⟨s, opened, _⟩ := serving.session
  rw [opened]
  rfl

theorem Serving.copies (serving : d.Serving config) : d.Copies :=
  copies_open serving.unscripted serving.ready serving.isSome

/-- The stage stays while the session is served and what its engine holds is left alone. -/
theorem Stands.kept {stage : Stage} {after : Dispatcher ScriptedEngine}
    (stands : d.Stands config snapshot stage) (opened : stage ≠ .vacant)
    (serving : after.Serving config) (same : after.slot = d.slot) :
    after.Stands config snapshot stage := by
  cases stage with
  | vacant => exact absurd rfl opened
  | idle => exact serving
  | loaded input => exact ⟨serving, same.trans stands.2⟩

theorem handled_init (supported : registry.supports config.backend = true)
    (stands : d.Stands config snapshot .vacant) :
    Handled config snapshot .idle 0 d
      (d.dispatch (ScriptedEngine.host registry) (.of .init config.toPayload)) := by
  obtain ⟨unscripted, closed⟩ := stands
  rw [dispatch_opening closed, openSession_supported (d := d.countPrimitive) unscripted supported]
  exact ⟨⟨unscripted, rfl, _, rfl, rfl, AppliedConfig.codec_blank _⟩, rfl, rfl, rfl, rfl, rfl⟩

variable (registry) in
theorem handled_record {stage : Stage} (stands : d.Stands config snapshot stage)
    (opened : stage ≠ .vacant) (kind : RecordKind) {payload : Bytes}
    (sized : payload.length = ConfigRequest.size config.backend.codec kind) :
    Handled config snapshot stage 0 d
      (d.dispatch (ScriptedEngine.host registry) (.of kind.primitive payload)) := by
  have serving := stands.serving opened
  obtain ⟨s, session, own, codec⟩ := serving.session
  have alike (_ : kind = .codec) : s.applied.codec.codec = config.backend.codec := codec
  obtain ⟨request, applied, decoded, -, accepted, same⟩ := AppliedConfig.apply_sized sized alike
  have known : (Primitive.of kind.primitive payload).kind? = some kind.primitive :=
    PrimitiveCode.ofWire?_wire kind.primitive
  let taken : Dispatcher ScriptedEngine :=
    { d.countPrimitive with session := some { s with applied } }
  have still : taken.Serving config :=
    ⟨serving.unscripted, serving.ready, _, rfl, own, same.trans codec⟩
  have recorded : d.countPrimitive.onRecord (ScriptedEngine.host registry) kind payload s =
      taken.did (.control (.configure request)) := by
    rw [onRecord_taken (own ▸ decoded) accepted]
    exact attempt_ready still.unscripted still.ready _
  have outcome : d.dispatch (ScriptedEngine.host registry) (.of kind.primitive payload) =
      (taken.did (.control (.configure request)), .resume, none) := by
    rw [dispatch_record _ kind known session, ← recorded, Primitive.of]
  rw [outcome]
  refine ⟨stands.kept opened (still.did (by simp)) ?_, rfl, rfl, rfl, rfl, rfl⟩
  exact slot_did_quiet still.copies rfl (.inr ⟨_, rfl⟩)

theorem handled_prepare {stage : Stage} (stands : d.Stands config snapshot stage)
    (opened : stage ≠ .vacant) :
    Handled config snapshot stage 0 d
      (d.dispatch (ScriptedEngine.host registry) (.of .regs [])) := by
  have serving := (stands.serving opened).countPrimitive
  obtain ⟨s, _, _, _, through⟩ :=
    dispatch_opened registry (stands.serving opened) .regs []
  have outcome : d.dispatch (ScriptedEngine.host registry) (.of .regs []) =
      (d.countPrimitive.did (.prepare s.task), .resume, none) := by
    rw [through, route, attempt_ready serving.unscripted serving.ready]
  rw [outcome]
  refine ⟨stands.kept opened (serving.did (by simp)) ?_, rfl, rfl, rfl, rfl, rfl⟩
  exact slot_did_quiet serving.copies serving.isSome (.inl ⟨_, rfl⟩)

variable (registry) in
theorem handled_clear {stage : Stage} (stands : d.Stands config snapshot stage)
    (opened : stage ≠ .vacant) {kind : PrimitiveCode} (clears : kind = .reset ∨ kind = .flush) :
    Handled config snapshot .idle 0 d
      (d.dispatch (ScriptedEngine.host registry) (.of kind [])) := by
  have serving := (stands.serving opened).countPrimitive
  obtain ⟨s, _, _, _, through⟩ :=
    dispatch_opened registry (stands.serving opened) kind []
  rw [through]
  rcases clears with rfl | rfl
  · rw [route, attempt_ready serving.unscripted serving.ready]
    exact ⟨serving.did (by simp), rfl, rfl, rfl, rfl, rfl⟩
  · rw [route, attempt_ready serving.unscripted serving.ready]
    exact ⟨serving.did (by simp), rfl, rfl, rfl, rfl, rfl⟩

theorem handled_deinit {stage : Stage} (stands : d.Stands config snapshot stage)
    (opened : stage ≠ .vacant) :
    Handled config snapshot .vacant 0 d
      (d.dispatch (ScriptedEngine.host registry) (.of .deinit [])) := by
  have serving := (stands.serving opened).countPrimitive
  obtain ⟨s, _, _, _, through⟩ :=
    dispatch_opened registry (stands.serving opened) .deinit []
  rw [through, route, onDeinit_eq serving.unscripted serving.ready]
  exact ⟨⟨serving.unscripted, rfl⟩, rfl, rfl, rfl, rfl, rfl⟩

/-- A start makes the engine ready with what its input holds now. -/
theorem handled_start {stage : Stage} (stands : d.Stands config snapshot stage)
    (opened : stage ≠ .vacant) {input : Descriptor} (admits : d.regions.Admits input) :
    Handled config d.regions (.loaded input) 0 d
      (d.dispatch (ScriptedEngine.host registry) (.of .start (Session.startPayload input))) := by
  have serving := (stands.serving opened).countPrimitive
  obtain ⟨s, own, codec, session, through⟩ :=
    dispatch_opened registry (stands.serving opened) .start
      (Session.startPayload input)
  obtain ⟨buffer, imported, content⟩ : ∃ buffer,
      d.countPrimitive.importPayload (Session.startPayload input) = .ok buffer ∧
        ∀ task : Task, Passthrough.inputOf { task with input := buffer } d.regions =
          .bytes (d.regions.contentOf input) := by
    cases shared : input.isShared with
    | false =>
      refine ⟨none, by simp [importPayload, Session.startPayload, shared], fun task => ?_⟩
      simp [Passthrough.inputOf, RegionTable.contentOf, shared]
    | true =>
      refine ⟨some (d.regions.bufferOf input), ?_, Passthrough.inputOf_bufferOf shared admits⟩
      have filled : input.encode.isEmpty = false := by
        rw [List.isEmpty_eq_false_iff, ← List.length_pos_iff]
        simp [Descriptor.wireSize]
      rw [importPayload, Session.startPayload, if_pos shared, filled, Descriptor.decode_encode]
      have imported := RegionTable.importBuffer_admits admits
      simp [bind, Except.bind, pure, Except.pure, imported, countPrimitive]
  let task : Task := { sequence := s.task.sequence + 1, input := buffer }
  let taken : Dispatcher ScriptedEngine := { d.countPrimitive with session := some { s with task } }
  have still : taken.Serving config := ⟨serving.unscripted, serving.ready, _, rfl, own, codec⟩
  have outcome : d.dispatch (ScriptedEngine.host registry)
      (.of .start (Session.startPayload input)) = (taken.did (.start task), .resume, none) := by
    rw [through, route, onStart, imported]
    exact congrArg (·, _, _) (attempt_ready still.unscripted still.ready _)
  rw [outcome]
  refine ⟨⟨still.did (by simp), ?_⟩, rfl, rfl, rfl, rfl, rfl⟩
  have ready : d.engine.engine.initialized = true := still.ready
  have loaded := content { sequence := s.task.sequence + 1 }
  simp only [did, slot, Passthrough.perform, taken, countPrimitive, ready, if_true]
  exact congrArg some loaded

variable (registry) in
/-- A request is served from what the last start made ready. -/
theorem dispatch_wait {input : Descriptor} (stands : d.Stands config snapshot (.loaded input))
    {payload : Bytes} {output : Option Buffer} {regions : RegionTable}
    (asked : requested? payload d.regions = some (.ok output))
    (delivered : Passthrough.deliver ((Produced.bytes (snapshot.contentOf input)).cutTo output)
      output d.regions = .ok regions) :
    let feedback := Feedback.done
      (.ofNat ((Produced.bytes (snapshot.contentOf input)).cutTo output).size)
    ∃ after : Dispatcher ScriptedEngine, after.Serving config ∧ Counted d after 1 ∧
      after.regions = regions ∧
      d.dispatch (ScriptedEngine.host registry) (.of .wait payload) =
        match config.completion with
        | .roundTrip _ => (after, .resume, some (doneReply output feedback (tagOf payload)))
        | .polling _ _ => (after.publish output feedback, .resume, none) := by
  intro feedback
  obtain ⟨opened, loaded⟩ := stands
  have serving := opened.countPrimitive
  obtain ⟨s, rfl, codec, session, through⟩ := dispatch_opened registry opened .wait payload
  let after : Dispatcher ScriptedEngine :=
    { d.countPrimitive.emptied { s.task with output } regions with
      session := some { s with task.output := none, applied := s.applied.clearChanges }
      summary.tasks := d.countPrimitive.summary.tasks + 1 }
  have codec : s.applied.clearChanges.codec.codec = s.config.backend.codec :=
    (s.applied.codec_clearChanges).trans codec
  refine ⟨after, ⟨serving.unscripted, serving.ready, _, rfl, rfl, codec⟩, ⟨rfl, rfl, rfl⟩, rfl, ?_⟩
  have same : requested? payload d.countPrimitive.regions = some (.ok output) := asked
  rw [through, route, onWait_eq, same]
  dsimp only
  rw [finishTask_loaded serving.unscripted serving.ready loaded delivered]
  dsimp only
  cases s.config.completion <;> rfl

theorem handled_drain {input : Descriptor} (stands : d.Stands config snapshot (.loaded input))
    (unanswered : config.completion.isPolling = true) :
    Handled config snapshot .idle 1 d
      (d.dispatch (ScriptedEngine.host registry) (.of .wait [])) := by
  have unnamed : requested? [] d.regions = some (.ok none) := rfl
  obtain ⟨after, serving, counted, regions, through⟩ := dispatch_wait registry stands unnamed rfl
  cases mode : config.completion with
  | roundTrip timeoutMs =>
    rw [mode] at unanswered
    cases unanswered
  | polling intervalMs maxPolls =>
    rw [through, mode]
    exact ⟨serving, regions, rfl, counted⟩

theorem publish_bufferOf (d : Dispatcher ScriptedEngine) (output : Descriptor)
    (feedback : Feedback) :
    d.publish (some (d.regions.bufferOf output)) feedback =
      { d with
        regions := d.regions.adjust output (·.publish (publishedSize feedback.outputSize)) } := by
  rw [publish, RegionTable.adjust, Option.bind_some]
  cases (d.regions.bufferOf output).region <;> rfl

variable (registry) in
/-- A request that names an output is answered with as much of the content as the output takes, and
the output's region then holds it. -/
theorem answered_request {input output : Descriptor} {payload : Bytes} {tag : Option UInt64}
    (stands : d.Stands config snapshot (.loaded input))
    (decoded : decodeWait payload = .ok (some ⟨output.sanitized, tag⟩))
    (admits : d.regions.Admits output) :
    let copied := (snapshot.contentOf input).take output.size.toNat
    let outcome := d.dispatch (ScriptedEngine.host registry) (.of .wait payload)
    outcome.1.Serving config ∧ Counted d outcome.1 1 ∧
      outcome.2.2 = (if config.completion.isPolling then none
        else some { output := { output.sanitized with size := .ofNat copied.length }, tag }) ∧
      (∀ handle, outcome.1.regions.find? handle = d.regions.find? handle) ∧
      (output.isShared = true → ∀ r, d.regions.get? output.handle = some r →
        outcome.1.regions.get? output.handle = some { r with
          data := copied
          ready :=
            if config.completion.isPolling then publishedSize (.ofNat copied.length)
            else r.ready }) := by
  intro copied outcome
  have short : copied.length ≤ output.size.toNat := List.length_take_le _ _
  have asked : requested? payload d.regions = some (.ok (some (d.regions.bufferOf output))) := by
    rw [requested?, decoded]
    simp [RegionTable.importBuffer_admits admits, Except.map]
  have tagged : tagOf payload = tag := by
    rw [tagOf, decoded]
    rfl
  obtain ⟨after, serving, counted, regions, through⟩ :=
    dispatch_wait registry stands asked (Passthrough.deliver_bufferOf admits short)
  rw [tagged] at through
  have places (handle : UInt64) : after.regions.find? handle = d.regions.find? handle := by
    rw [regions, RegionTable.find?_adjust]
  have filled (shared : output.isShared = true) (r : Region)
      (present : d.regions.get? output.handle = some r) :
      after.regions.get? output.handle = some { r with data := copied } := by
    rw [regions, RegionTable.get?_adjust shared, present]
    rfl
  cases mode : config.completion with
  | roundTrip timeoutMs =>
    rw [mode] at through
    have same : outcome = (after, .resume, some _) := through
    rw [same]
    exact ⟨serving, counted, rfl, places, filled⟩
  | polling intervalMs maxPolls =>
    have buffer : d.regions.bufferOf output = after.regions.bufferOf output := by
      rw [regions, RegionTable.bufferOf_adjust]
    rw [mode, buffer, publish_bufferOf] at through
    have same : outcome = (_, .resume, none) := through
    rw [same]
    refine ⟨⟨serving.unscripted, serving.ready, serving.session⟩,
      ⟨counted.dropped, counted.engineErrors, counted.tasks⟩, rfl, fun handle => ?_,
      fun shared r present => ?_⟩
    · exact (RegionTable.find?_adjust _ _ _ _).trans (places handle)
    · refine (RegionTable.get?_adjust shared _).trans ?_
      rw [filled shared r present]
      rfl

/-- What becomes of what is on its way to the host, a primitive at a time. -/
theorem handled_leads (supported : registry.supports config.backend = true) {stage next : Stage}
    {p : Primitive} (stands : d.Stands config snapshot stage)
    (leads : Leads config d.regions stage p next) :
    Handled config (if p.kind? = some .start then d.regions else snapshot) next
      (if p.kind? = some .wait then 1 else 0) d
      (d.dispatch (ScriptedEngine.host registry) p) := by
  have known (kind : PrimitiveCode) (payload : Bytes) :
      (Primitive.of kind payload).kind? = some kind := PrimitiveCode.ofWire?_wire kind
  cases leads with
  | init => simpa [known] using handled_init supported stands
  | @record _ kind _ opened sized =>
    have handled := handled_record registry stands opened kind sized
    cases kind <;> simpa [known, RecordKind.primitive] using handled
  | prepare opened => simpa [known] using handled_prepare stands opened
  | start opened admits => simpa [known] using handled_start stands opened admits
  | drain unanswered => simpa [known] using handled_drain stands unanswered
  | clear opened clears =>
    have handled := handled_clear registry stands opened clears
    rcases clears with rfl | rfl <;> simpa [known] using handled
  | deinit opened => simpa [known] using handled_deinit stands opened

end CodecLink.Dispatcher
