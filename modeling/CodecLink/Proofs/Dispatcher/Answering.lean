import Mathlib.Data.List.Forall2
import CodecLink.Dispatcher.Serve
import CodecLink.Engine.Scripted
import CodecLink.Proofs.Dispatcher.Handling

/-! Each request for a completed task that can be read is answered by one reply, in a session that
waits for replies; nothing else is answered. The form of the reply goes by that of the request, its
content by what the engine said when it was last asked. -/
namespace CodecLink.Dispatcher

variable {σ : Type} (host : EngineHost σ)

/-- A primitive that is owed a reply by the dispatcher that comes to handle it. -/
def owed (turn : Dispatcher σ × Primitive) : Bool :=
  turn.2.kind? = some .wait && turn.1.session.any (fun s => !s.config.completion.isPolling) &&
    (turn.2.payload.isEmpty || (WaitRequest.decode turn.2.payload).isOk)

/-- All replies, in order. -/
def replies (ps : List Primitive) (d : Dispatcher σ) : List WaitReply :=
  (turns host ps d).filterMap fun turn => (turn.1.dispatch host turn.2).2.2

/-- Handles a primitive and sends the reply, if there is one. -/
def respond (p : Primitive) (d : Dispatcher σ) (c : Channel) :
    Except ChannelError Flow × Dispatcher σ × Channel :=
  let (after, flow, reply) := d.dispatch host p
  let (sent, c) := sendReply reply c
  (sent.map fun _ => flow, after, c)

/-- How a task came to its end, and what the reply says of it. The engine was called as often as it
takes, and by nothing but these calls. -/
inductive Concludes (d : Dispatcher σ) (p : Primitive) (m : WaitReply) : Prop
  | unimported {request : WaitRequest} {error : DescriptorError}
      (decoded : WaitRequest.decode p.payload = .ok request)
      (refused : d.regions.importBuffer request.output = .error error)
      (unasked : (d.dispatch host p).1.calls = d.calls)
      (untouched : (d.dispatch host p).1.hosted = d.hosted)
      (status : m.status = .failed) (size : m.output.size = 0)
  | failed {s : HostSession} {output : Option Buffer} {calls : Nat} {error : EngineError}
      (opened : d.session = some s) (named : requested? p.payload d.regions = some (.ok output))
      (drain : host.Drain { s.task with output } (max 1 d.settings.maxTries)
        (d.regions, d.engine) calls (.error error))
      (asked : (d.dispatch host p).1.calls =
        d.calls ++ List.replicate calls (.wait { s.task with output }))
      (left : (d.dispatch host p).1.hosted = host.asked { s.task with output } calls d.hosted)
      (status : m.status = .failed) (size : m.output.size = 0)
  | completed {s : HostSession} {output : Option Buffer} {calls : Nat} {feedback : Feedback}
      (opened : d.session = some s) (named : requested? p.payload d.regions = some (.ok output))
      (drain : host.Drain { s.task with output } (max 1 d.settings.maxTries)
        (d.regions, d.engine) calls (.ok feedback))
      (asked : (d.dispatch host p).1.calls =
        d.calls ++ List.replicate calls (.wait { s.task with output }))
      (left : (d.dispatch host p).1.hosted = host.asked { s.task with output } calls d.hosted)
      (status : m.status = .done) (size : m.output.size = feedback.outputSize)

structure Answers (d : Dispatcher σ) (p : Primitive) (m : WaitReply) : Prop where
  tagged : p.payload.length = 40 → m.encode.length = 44 ∧ m.encode.drop 36 = p.payload.drop 32
  bare : p.payload = [] ∨ p.payload.length = 32 → m.status = .done →
    m.encode = m.output.encode ∧ m.encode.length = 32
  untagged : p.payload = [] ∨ p.payload.length = 32 → m.status = .failed →
    m.encode.length = 44 ∧ m.encode.drop 36 = List.replicate 8 0
  concludes : Concludes host d p m

variable {host} {d : Dispatcher σ} {p : Primitive}

theorem decodeWait_ok {payload : Bytes} {request : Option WaitRequest}
    (decoded : decodeWait payload = .ok request) :
    payload = [] ∧ request = none ∨
      ∃ r, request = some r ∧ WaitRequest.decode payload = .ok r := by
  rw [decodeWait] at decoded
  split at decoded
  · rename_i empty
    cases decoded
    exact .inl ⟨List.isEmpty_iff.1 empty, rfl⟩
  · cases read : WaitRequest.decode payload with
    | error e =>
      rw [read] at decoded
      cases decoded
    | ok r =>
      rw [read] at decoded
      cases decoded
      exact .inr ⟨r, rfl, rfl⟩

theorem decodeWait_of_decode {payload : Bytes} {request : WaitRequest}
    (decoded : WaitRequest.decode payload = .ok request) :
    decodeWait payload = .ok (some request) := by
  rw [decodeWait, decoded]
  cases payload with
  | nil => cases decoded
  | cons b bs => rfl

theorem owed_iff :
    owed (d, p) = true ↔ p.kind? = some .wait ∧
      (∃ s, d.session = some s ∧ s.config.completion.isPolling = false) ∧
      ∃ request, decodeWait p.payload = .ok request := by
  have readable : (p.payload.isEmpty || (WaitRequest.decode p.payload).isOk) = true ↔
      ∃ request, decodeWait p.payload = .ok request := by
    rw [decodeWait]
    cases p.payload.isEmpty with
    | true => simp
    | false => cases WaitRequest.decode p.payload <;> simp [Except.isOk, Except.toBool, Except.map]
  rw [owed, Bool.and_eq_true, Bool.and_eq_true, decide_eq_true_eq, readable, and_assoc]
  simp only [Option.any_eq_true, Bool.not_eq_true']

/-- The form of a reply, whatever it says of the task. -/
theorem answers_of_concludes {m : WaitReply} (answered : (d.dispatch host p).2.2 = some m)
    (concludes : Concludes host d p m) : Answers host d p m := by
  obtain ⟨-, request, decoded, tag⟩ := dispatch_reply answered
  have untagged (short : p.payload = [] ∨ p.payload.length = 32) : m.tag = none := by
    rcases decodeWait_ok decoded with ⟨-, rfl⟩ | ⟨r, rfl, read⟩
    · exact tag
    · rcases WaitRequest.tag_of_decode read with ⟨-, absent⟩ | ⟨long, -⟩
      · exact tag.trans absent
      · rcases short with empty | short
        · rw [empty] at long
          cases long
        · rw [short] at long
          cases long
  constructor
  case tagged =>
    intro long
    have present : m.tag = some (.ofNat (Bytes.toNat (p.payload.drop Descriptor.wireSize))) := by
      rcases decodeWait_ok decoded with ⟨empty, -⟩ | ⟨r, rfl, read⟩
      · rw [empty] at long
        cases long
      · rcases WaitRequest.tag_of_decode read with ⟨short, -⟩ | ⟨-, present⟩
        · rw [long] at short
          cases short
        · exact tag.trans present
    have eight : (p.payload.drop Descriptor.wireSize).length = 8 := by
      rw [List.length_drop, long]
      rfl
    have fits := Bytes.toNat_lt (p.payload.drop Descriptor.wireSize)
    have word := Bytes.littleEndian_toNat (p.payload.drop Descriptor.wireSize)
    rw [eight] at fits word
    have same : (UInt64.ofNat (Bytes.toNat (p.payload.drop Descriptor.wireSize))).toNat =
        Bytes.toNat (p.payload.drop Descriptor.wireSize) := by
      rw [UInt64.toNat_ofNat']
      exact Nat.mod_eq_of_lt fits
    have tagged : m.tag.isSome := by rw [present]; rfl
    obtain ⟨length, trailing⟩ := WaitReply.encode_long (.inl tagged)
    rw [present, Option.getD_some, same, word] at trailing
    exact ⟨length, trailing⟩
  case bare =>
    intro short done
    have same := WaitReply.encode_bare (untagged short) done
    exact ⟨same, by rw [same, Descriptor.length_encode]; rfl⟩
  case untagged =>
    intro short failed
    obtain ⟨length, trailing⟩ := WaitReply.encode_long (.inr failed)
    rw [untagged short] at trailing
    exact ⟨length, trailing⟩
  case concludes => exact concludes

theorem failedReply_of_waiting {s : HostSession} (waits : s.config.completion.isPolling = false)
    (tag : Option UInt64) : failedReply s tag = some (.failed tag) := by
  rw [failedReply]
  cases mode : s.config.completion with
  | roundTrip timeoutMs => rfl
  | polling intervalMs maxPolls =>
    rw [mode] at waits
    cases waits

theorem failedReply_of_polling {s : HostSession} (polls : s.config.completion.isPolling = true)
    (tag : Option UInt64) : failedReply s tag = none := by
  rw [failedReply]
  cases mode : s.config.completion with
  | roundTrip timeoutMs =>
    rw [mode] at polls
    cases polls
  | polling intervalMs maxPolls => rfl

theorem Finish.concludes {s : HostSession} {output : Option Buffer} {tag : Option UInt64}
    {result : Dispatcher σ × Option WaitReply} (opened : d.session = some s)
    (waits : s.config.completion.isPolling = false)
    (named : requested? p.payload d.regions = some (.ok output))
    (finish : Finish host output tag s d.countPrimitive result)
    (handled : (d.dispatch host p).1 = result.1) :
    ∃ m, result.2 = some m ∧ Concludes host d p m := by
  have asked (calls : Nat) :=
    (waited_fields host { s.task with output } d.countPrimitive calls).2.2
  have left (calls : Nat) := hosted_waited host { s.task with output } d.countPrimitive calls
  cases finish with
  | @failed calls _ drain =>
    exact ⟨.failed tag, failedReply_of_waiting waits _,
      .failed opened named drain (handled ▸ asked calls) (handled ▸ left calls) rfl rfl⟩
  | @replied calls feedback _ drain mode =>
    exact ⟨doneReply output feedback tag, rfl,
      .completed opened named drain (handled ▸ asked calls) (handled ▸ left calls) rfl rfl⟩
  | published drain mode =>
    rw [mode] at waits
    cases waits

theorem requested?_error {payload : Bytes} {t : RegionTable} {error : DescriptorError}
    (named : requested? payload t = some (.error error)) :
    ∃ r, decodeWait payload = .ok (some r) ∧ t.importBuffer r.output = .error error := by
  rw [requested?] at named
  split at named
  · cases named
  · cases named
  · rename_i r decoded
    refine ⟨r, decoded, ?_⟩
    cases imported : t.importBuffer r.output with
    | ok buffer =>
      rw [imported] at named
      cases named
    | error e =>
      rw [imported] at named
      cases named
      rfl

variable (host) in
theorem dispatch_owed (due : owed (d, p) = true) :
    ∃ m, (d.dispatch host p).2.2 = some m ∧ Answers host d p m := by
  obtain ⟨kind, ⟨s, opened, waits⟩, request, decoded⟩ := owed_iff.1 due
  have handled := dispatch_request host kind opened
  suffices concluded : ∃ m, (d.dispatch host p).2.2 = some m ∧ Concludes host d p m by
    obtain ⟨m, answered, concludes⟩ := concluded
    exact ⟨m, answered, answers_of_concludes answered concludes⟩
  cases named : requested? p.payload d.regions with
  | none =>
    rw [requested?, decoded] at named
    cases request <;> cases named
  | some imported =>
    rw [named] at handled
    cases imported with
    | error e =>
      obtain ⟨r, decoded, refused⟩ := requested?_error named
      obtain ⟨-, absent⟩ | ⟨_, same, read⟩ := decodeWait_ok decoded
      · cases absent
      · cases same
        refine ⟨.failed (tagOf p.payload), ?_, .unimported read refused ?_ ?_ rfl rfl⟩
        · rw [handled]
          exact failedReply_of_waiting waits _
        · rw [handled]
          rfl
        · rw [handled]
          rfl
    | ok output =>
      have finish := finishTask_finish host output (tagOf p.payload) s d.countPrimitive
      obtain ⟨m, answered, concludes⟩ := finish.concludes opened waits named (by rw [handled])
      exact ⟨m, by rw [handled]; exact answered, concludes⟩

variable (host) in
theorem dispatch_unowed (undue : owed (d, p) = false) : (d.dispatch host p).2.2 = none := by
  by_contra answered
  obtain ⟨m, answered⟩ := Option.ne_none_iff_exists'.1 answered
  obtain ⟨kind, request, decoded, -⟩ := dispatch_reply answered
  have handled := dispatch_handling host p d
  refine Bool.false_ne_true (undue.symm.trans (owed_iff.2 ⟨kind, ?_, request, decoded⟩))
  generalize d.dispatch host p = result at handled answered
  cases handled with
  | dropped => cases answered
  | opening closed known => cases answered
  | farewell opened known => cases answered
  | ordered opened orders => cases answered
  | @unimported s error opened known named =>
    refine ⟨s, opened, Bool.eq_false_iff.2 fun polls => ?_⟩
    rw [failedReply_of_polling polls] at answered
    cases answered
  | @finished s output result opened known named finish =>
    refine ⟨s, opened, Bool.eq_false_iff.2 fun polls => ?_⟩
    cases finish with
    | failed drain =>
      rw [failedReply_of_polling polls] at answered
      cases answered
    | replied drain mode =>
      rw [mode] at polls
      cases polls
    | published drain mode => cases answered

variable (host) in
theorem replies_of_turns (turns : List (Dispatcher σ × Primitive)) :
    List.Forall₂ (fun turn m => Answers host turn.1 turn.2 m) (turns.filter owed)
      (turns.filterMap fun turn => (turn.1.dispatch host turn.2).2.2) := by
  induction turns with
  | nil => exact .nil
  | cons turn turns ih =>
    cases due : owed turn with
    | true =>
      obtain ⟨m, answered, answers⟩ := dispatch_owed host due
      rw [List.filter_cons_of_pos due, List.filterMap_cons]
      simp only [answered]
      exact .cons answers ih
    | false =>
      have unanswered := dispatch_unowed host due
      rw [List.filter_cons_of_neg (by rw [due]; exact Bool.false_ne_true), List.filterMap_cons]
      simp only [unanswered]
      exact ih

theorem respond_error {c : Channel} {e : ChannelError}
    (failed : (d.respond host p c).1 = .error e) :
    ∃ m, (d.dispatch host p).2.2 = some m ∧ (c.send (.of .wait m.encode)).1 = .error e := by
  have failed : ((sendReply (d.dispatch host p).2.2 c).1.map fun _ =>
      (d.dispatch host p).2.1) = .error e := failed
  cases answered : (d.dispatch host p).2.2 with
  | none =>
    rw [answered] at failed
    cases failed
  | some m =>
    rw [answered] at failed
    refine ⟨m, rfl, ?_⟩
    dsimp only [sendReply] at failed
    cases sent : (c.send (.of .wait m.encode)).1 with
    | ok _ =>
      rw [sent] at failed
      cases failed
    | error fault =>
      rw [sent] at failed
      cases failed
      rfl

/-- Of the primitives of a run, exactly those are replied to that are owed a reply, one reply each
and in their order, and handling one fails only if its reply cannot be sent. -/
theorem one_reply_per_request (host : EngineHost σ) (ps : List Primitive) (d : Dispatcher σ) :
    List.Forall₂ (fun turn m => Answers host turn.1 turn.2 m) ((turns host ps d).filter owed)
        (replies host ps d) ∧
      ∀ turn ∈ turns host ps d,
        (turn.1.dispatch host turn.2).2.2.isSome = owed turn ∧
          ∀ c e, (turn.1.respond host turn.2 c).1 = .error e →
            ∃ m, (turn.1.dispatch host turn.2).2.2 = some m ∧
              (c.send (.of .wait m.encode)).1 = .error e := by
  refine ⟨replies_of_turns host _, fun turn _ => ⟨?_, fun c e => respond_error⟩⟩
  cases due : owed turn with
  | true =>
    obtain ⟨m, answered, -⟩ := dispatch_owed host due
    rw [answered]
    rfl
  | false =>
    rw [dispatch_unowed host due]
    rfl

/-- What a reply says, by what the engine says to one who asks it as often as allowed. -/
theorem Concludes.of_result {m : WaitReply} (concludes : Concludes host d p m) {s : HostSession}
    {output : Option Buffer} (opened : d.session = some s)
    (named : requested? p.payload d.regions = some (.ok output)) {result : EngineResult Feedback}
    (said : host.result { s.task with output } d.allowance d.hosted = result) :
    match result with
    | .error _ => m.status = .failed ∧ m.output.size = 0
    | .ok feedback => m.status = .done ∧ m.output.size = feedback.outputSize := by
  cases concludes with
  | unimported decoded refused =>
    rw [requested?, decodeWait_of_decode decoded] at named
    dsimp only at named
    rw [refused] at named
    cases named
  | failed own same drain _ _ status size | completed own same drain _ _ status size =>
    cases opened.symm.trans own
    cases named.symm.trans same
    cases said.symm.trans drain.result_eq
    exact ⟨status, size⟩

/-- One task is lost and the next one completed, each when the engine is asked for the second time;
what is said of them is what the engine said. -/
theorem replies_of_lost_and_completed :
    let host := ScriptedEngine.host .full
    let d : Dispatcher ScriptedEngine :=
      { settings.defaultSession.completion := .defaultRoundTrip
        engine.outcomes :=
          [(.wait, [.fail .notReady, .fail (.failed "lost"), .fail .notReady, .report (.done 7)])] }
    let output : Buffer := ⟨.heap 16, none⟩
    let request : Primitive := .of .wait (WaitRequest.encode ⟨.heap 16, some 5⟩)
    let opened := d.reached host [.of .init []]
    let lost := d.reached host [.of .init [], request]
    host.result { output := some output } opened.allowance opened.hosted =
        .error (.failed "lost") ∧
      host.result {} lost.allowance lost.hosted = .ok (.done 7) ∧
      ∃ first second, replies host [.of .init [], request, .of .wait []] d = [first, second] ∧
        (first.status = .failed ∧ first.output.size = 0) ∧
        second.status = .done ∧ second.output.size = 7 := by
  intro host d output request opened lost
  have fails : host.result { output := some output } opened.allowance opened.hosted =
      .error (.failed "lost") := by decide +kernel
  have completes : host.result {} lost.allowance lost.hosted = .ok (.done 7) := by decide +kernel
  obtain ⟨answers, -⟩ := one_reply_per_request host [.of .init [], request, .of .wait []] d
  have due : (turns host [.of .init [], request, .of .wait []] d).filter owed =
      [(opened, request), (lost, .of .wait [])] := by
    have taken : turns host [.of .init [], request, .of .wait []] d =
      [(d, .of .init []), (opened, request), (lost, .of .wait [])] := rfl
    rw [taken, List.filter_cons_of_neg (by decide +kernel), List.filter_cons_of_pos
      (by decide +kernel), List.filter_cons_of_pos (by decide +kernel), List.filter_nil]
  rw [due] at answers
  obtain ⟨first, _, one, rest, told⟩ := List.forall₂_cons_left_iff.1 answers
  obtain ⟨second, _, two, last, rfl⟩ := List.forall₂_cons_left_iff.1 rest
  cases List.forall₂_nil_left_iff.1 last
  let s : HostSession := { config.completion := .defaultRoundTrip, applied := .blank .h264 }
  have session : opened.session = some s ∧ lost.session = some s := by decide +kernel
  have named : requested? request.payload opened.regions = some (.ok (some output)) ∧
      requested? [] lost.regions = some (.ok none) := by decide +kernel
  exact ⟨fails, completes, first, second, told,
    one.concludes.of_result session.1 named.1 fails,
    two.concludes.of_result session.2 named.2 completes⟩

end CodecLink.Dispatcher
