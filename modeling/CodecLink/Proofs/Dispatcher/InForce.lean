import Mathlib.Data.List.DropRight
import CodecLink.Engine.Scripted
import CodecLink.Proofs.Dispatcher.Configuration

/-! The configuration in force in a session, told from the records that the dispatcher accepted
since the session was opened. Nothing else that is dispatched has a part in it, but that a completed
task uses up the change words. -/
namespace CodecLink

namespace RecordKind

theorem ofPrimitive?_primitive (kind : RecordKind) : ofPrimitive? kind.primitive = some kind := by
  cases kind <;> rfl

theorem primitive_of_ofPrimitive? {code : PrimitiveCode} {kind : RecordKind}
    (own : ofPrimitive? code = some kind) : code = kind.primitive := by
  cases code <;> cases own <;> rfl

end RecordKind

/-! What accepted records come to. A group of fields is as in the last record that names it, and
change words are joined over the recent records only. -/

def Prep.inForce (accepted recent : List Prep) : Prep :=
  { coalesce {} accepted with change := joined change {} recent }

theorem Prep.merge_inForce (accepted recent : List Prep) (new : Prep) :
    (inForce accepted recent).merge new = inForce (accepted ++ [new]) (recent ++ [new]) := by
  rw [inForce, inForce, coalesce_concat, joined_concat]
  rfl

/-- The last record's fields, whatever it names. -/
def RateControl.inForce (accepted recent : List RateControl) : RateControl :=
  { accepted.getLastD {} with change := joined change {} recent }

theorem RateControl.merge_inForce (accepted recent : List RateControl) (new : RateControl) :
    (inForce accepted recent).merge new = inForce (accepted ++ [new]) (recent ++ [new]) := by
  rw [inForce, inForce, joined_concat, List.getLastD_concat]
  rfl

def H264.inForce (accepted recent : List H264) : H264 :=
  { coalesce {} accepted with change := joined change {} recent }

theorem H264.merge_inForce (accepted recent : List H264) (new : H264) :
    (inForce accepted recent).merge new = inForce (accepted ++ [new]) (recent ++ [new]) := by
  rw [inForce, inForce, coalesce_concat, joined_concat]
  rfl

/-- A quant beyond the largest counts as the default; there is no change word to keep. -/
def Jpeg.inForce (accepted : List Jpeg) : Jpeg where
  change := 0
  quant := lastNamed (·.names quantBit) (fun r => if 10 < r.quant then 8 else r.quant) {} accepted

theorem Jpeg.merge_inForce (accepted : List Jpeg) (new : Jpeg) :
    (inForce accepted).merge new = inForce (accepted ++ [new]) := by
  rw [inForce, inForce, lastNamed_concat]
  rfl

theorem Jpeg.quant_inForce (accepted : List Jpeg) : (inForce accepted).quant ≤ 10 := by
  rw [inForce, lastNamed]
  dsimp only
  split
  · decide
  · rename_i small
    exact UInt32.not_lt.1 small

namespace AppliedConfig

def inForce (codec : Codec) (accepted recent : List ConfigRequest) : AppliedConfig where
  prep := .inForce (accepted.filterMap ConfigRequest.prep?) (recent.filterMap ConfigRequest.prep?)
  rc := .inForce (accepted.filterMap ConfigRequest.rc?) (recent.filterMap ConfigRequest.rc?)
  codec := match codec with
    | .h264 => .h264 (.inForce (accepted.filterMap ConfigRequest.h264?)
        (recent.filterMap ConfigRequest.h264?))
    | .jpeg => .jpeg (.inForce (accepted.filterMap ConfigRequest.jpeg?))
  sei := (accepted.filterMap ConfigRequest.sei?).getLastD 0

theorem inForce_nil (codec : Codec) : inForce codec [] [] = blank codec := by
  cases codec <;> rfl

theorem codec_inForce (codec : Codec) (accepted recent : List ConfigRequest) :
    (inForce codec accepted recent).codec.codec = codec := by
  cases codec <;> rfl

theorem clearChanges_inForce (codec : Codec) (accepted recent : List ConfigRequest) :
    (inForce codec accepted recent).clearChanges = inForce codec accepted [] := by
  cases codec <;> rfl

open ConfigRequest in
/-- One more accepted record. -/
theorem apply_inForce {codec : Codec} {request : ConfigRequest} (suits : request.suits codec = true)
    (accepted recent : List ConfigRequest) :
    (inForce codec accepted recent).apply request =
      .ok (inForce codec (accepted ++ [request]) (recent ++ [request])) := by
  rcases request with new | new | (new | new) | mode
  · simp [apply, inForce, List.filterMap_cons, prep?, rc?, h264?, jpeg?, sei?, Prep.merge_inForce]
  · simp [apply, inForce, List.filterMap_cons, prep?, rc?, h264?, jpeg?, sei?,
      RateControl.merge_inForce]
  · cases of_decide_eq_true suits
    simp [apply, inForce, List.filterMap_cons, prep?, rc?, h264?, sei?, CodecRecord.codec,
      CodecRecord.merge, H264.merge_inForce, bind, Except.bind, pure, Except.pure]
  · cases of_decide_eq_true suits
    simp [apply, inForce, List.filterMap_cons, prep?, rc?, jpeg?, sei?, CodecRecord.codec,
      CodecRecord.merge, Jpeg.merge_inForce, bind, Except.bind, pure, Except.pure]
  · simp [apply, inForce, List.filterMap_cons, prep?, rc?, h264?, jpeg?, sei?]

end AppliedConfig

namespace Dispatcher

variable {σ : Type} (host : EngineHost σ)

/-- The primitive opens a session. -/
def opens (turn : Dispatcher σ × Primitive) : Bool :=
  turn.1.session.isNone && (turn.1.dispatch host turn.2).1.session.isSome

/-- The record that a primitive brings to a session, of the size that records of its kind have
there. -/
def accepted? (turn : Dispatcher σ × Primitive) : Option ConfigRequest := do
  let s ← turn.1.session
  let kind ← RecordKind.ofPrimitive? (← turn.2.kind?)
  if turn.2.payload.length = ConfigRequest.size s.config.backend.codec kind then
    (ConfigRequest.decode s.config.backend.codec kind turn.2.payload).toOption
  else none

/-- The turns since the last session was opened. -/
def sinceOpened (turns : List (Dispatcher σ × Primitive)) : List (Dispatcher σ × Primitive) :=
  turns.rtakeWhile fun turn => !opens host turn

/-- The turns since the last task was completed. -/
def sinceCompleted (turns : List (Dispatcher σ × Primitive)) : List (Dispatcher σ × Primitive) :=
  turns.rtakeWhile fun turn => !completes host turn

variable {host} {p : Primitive} {d : Dispatcher σ} {s next : HostSession}

theorem sinceOpened_concat (turns : List (Dispatcher σ × Primitive))
    (turn : Dispatcher σ × Primitive) :
    sinceOpened host (turns ++ [turn]) =
      if opens host turn then [] else sinceOpened host turns ++ [turn] := by
  rw [sinceOpened, List.rtakeWhile_concat]
  cases opens host turn <;> rfl

theorem sinceCompleted_concat (turns : List (Dispatcher σ × Primitive))
    (turn : Dispatcher σ × Primitive) :
    sinceCompleted host (turns ++ [turn]) =
      if completes host turn then [] else sinceCompleted host turns ++ [turn] := by
  rw [sinceCompleted, List.rtakeWhile_concat]
  cases completes host turn <;> rfl

theorem accepted?_plain {code : PrimitiveCode} (known : p.kind? = some code)
    (plain : RecordKind.ofPrimitive? code = none) : accepted? (d, p) = none := by
  rw [accepted?, known]
  cases d.session with
  | none => rfl
  | some s => simp [plain]

/-- What one primitive does to the configuration of a session. -/
inductive Advance (host : EngineHost σ) (p : Primitive) (d : Dispatcher σ) (s next : HostSession) :
    Prop
  | accepted {request : ConfigRequest} (taken : accepted? (d, p) = some request)
      (suits : request.suits s.config.backend.codec = true)
      (unfinished : completes host (d, p) = false)
      (merged : s.applied.apply request = .ok next.applied)
  | completed (silent : accepted? (d, p) = none) (finished : completes host (d, p) = true)
      (cleared : next.applied = s.applied.clearChanges)
  | kept (silent : accepted? (d, p) = none) (unfinished : completes host (d, p) = false)
      (same : next.applied = s.applied)

theorem advance_record {kind : RecordKind} (known : p.kind? = some kind.primitive)
    (opened : d.session = some s) (alike : s.applied.codec.codec = s.config.backend.codec)
    (stays : (d.dispatch host p).1.session = some next) :
    next.config = s.config ∧ Advance host p d s next := by
  have unfinished : completes host (d, p) = false :=
    completes_other known (by cases kind <;> exact nofun)
  have told : accepted? (d, p) =
      if p.payload.length = ConfigRequest.size s.config.backend.codec kind then
        (ConfigRequest.decode s.config.backend.codec kind p.payload).toOption
      else none := by
    rw [accepted?, opened, known]
    simp [RecordKind.ofPrimitive?_primitive]
  rw [dispatch_record host kind known opened] at stays
  by_cases sized : p.payload.length = ConfigRequest.size s.config.backend.codec kind
  · obtain ⟨request, applied, decoded, suits, merged, -⟩ :=
      AppliedConfig.apply_sized sized fun _ => alike
    rw [onRecord_taken decoded merged, session_attempt] at stays
    cases stays
    rw [if_pos sized, decoded] at told
    exact ⟨rfl, .accepted told suits unfinished merged⟩
  · rw [onRecord_missized sized] at stays
    cases opened.symm.trans stays
    rw [if_neg sized] at told
    exact ⟨rfl, .kept told unfinished rfl⟩

theorem advance (opened : d.session = some s)
    (alike : s.applied.codec.codec = s.config.backend.codec)
    (stays : (d.dispatch host p).1.session = some next) :
    next.config = s.config ∧ Advance host p d s next := by
  cases known : p.kind? with
  | none =>
    rw [dispatch_unknown known] at stays
    cases opened.symm.trans stays
    have silent : accepted? (d, p) = none := by
      rw [accepted?, known, opened]
      rfl
    have unfinished : completes host (d, p) = false := by
      rw [completes, known]
      rfl
    exact ⟨rfl, .kept silent unfinished rfl⟩
  | some code =>
    cases own : RecordKind.ofPrimitive? code with
    | some kind =>
      rw [RecordKind.primitive_of_ofPrimitive? own] at known
      exact advance_record known opened alike stays
    | none =>
      by_cases farewell : code = .deinit
      · subst farewell
        cases (session_farewell opened known).symm.trans stays
      have silent := accepted?_plain (d := d) known own
      obtain ⟨_, later, config, applied⟩ := session_plain host opened known own farewell
      cases later.symm.trans stays
      cases finished : completes host (d, p) with
      | true =>
        rw [finished] at applied
        exact ⟨config, .completed silent finished applied⟩
      | false =>
        rw [finished] at applied
        exact ⟨config, .kept silent finished applied⟩

/-- A session begins with nothing in force. -/
theorem session_fresh (closed : d.session = none)
    (opened : (d.dispatch host p).1.session = some s) :
    s.applied = .blank s.config.backend.codec := by
  have handled := dispatch_handling host p d
  generalize d.dispatch host p = result at handled opened
  cases handled with
  | dropped => cases closed.symm.trans opened
  | opening _ kind opening =>
    rcases session_opening opening closed with unopened | fresh
    · cases unopened.symm.trans opened
    · cases fresh.symm.trans opened
      rfl
  | unimported found _ _ | farewell found _ | ordered found _ | finished found _ _ _ =>
    cases closed.symm.trans found

theorem applied_of_turns (closed : d.session = none) (ps : List Primitive)
    (opened : (d.reached host ps).session = some s) :
    s.applied = .inForce s.config.backend.codec
      ((sinceOpened host (turns host ps d)).filterMap accepted?)
      ((sinceCompleted host (sinceOpened host (turns host ps d))).filterMap accepted?) := by
  -- On the run: the last primitive opens the session, or the session was there before it.
  induction ps using List.reverseRecOn generalizing s with
  | nil => cases closed.symm.trans opened
  | append_singleton ps p ih =>
    rw [reached_concat] at opened
    rw [turns_concat]
    cases before : (d.reached host ps).session with
    | none =>
      have opens : opens host (d.reached host ps, p) = true := by
        rw [Dispatcher.opens, before, opened]
        rfl
      rw [sinceOpened_concat, if_pos opens]
      exact (session_fresh before opened).trans (AppliedConfig.inForce_nil _).symm
    | some earlier =>
      have ongoing : ¬ Dispatcher.opens host (d.reached host ps, p) = true := by
        rw [Dispatcher.opens, before]
        exact Bool.false_ne_true
      have ih := ih before
      have alike : earlier.applied.codec.codec = earlier.config.backend.codec := by
        rw [ih, AppliedConfig.codec_inForce]
      obtain ⟨config, advance⟩ := advance before alike opened
      rw [sinceOpened_concat, if_neg ongoing, sinceCompleted_concat, config,
        List.filterMap_append]
      cases advance with
      | @accepted request taken suits unfinished merged =>
        rw [ih, AppliedConfig.apply_inForce suits] at merged
        rw [unfinished, if_neg Bool.false_ne_true, List.filterMap_append, List.filterMap_cons,
          taken]
        exact (Except.ok.inj merged).symm
      | completed silent finished cleared =>
        rw [finished, if_pos rfl, cleared, ih, AppliedConfig.clearChanges_inForce]
        simp [silent]
      | kept silent unfinished same =>
        rw [unfinished, if_neg Bool.false_ne_true, same, ih]
        simp [silent]

/-- What is in force in a session is what the records come to that were accepted since it was
opened, whatever else was dispatched and whatever the engine said. The change words are those of the
records since a task was last completed, that is, since the engine last had a result for one. -/
theorem configuration_of_accepted (closed : d.session = none) (ps : List Primitive)
    (opened : (d.reached host ps).session = some s) :
    let session := sinceOpened host (turns host ps d)
    s.applied = .inForce s.config.backend.codec (session.filterMap accepted?)
        ((sinceCompleted host session).filterMap accepted?) ∧
      (∀ r, s.applied.codec = .jpeg r → r.change = 0 ∧ r.quant ≤ 10) ∧
      ∀ turn ∈ session, completes host turn = true ↔ turn.2.kind? = some .wait ∧
        ∃ own output calls feedback, turn.1.session = some own ∧
          requested? turn.2.payload turn.1.regions = some (.ok output) ∧
          host.Drain { own.task with output } turn.1.allowance turn.1.hosted calls
            (.ok feedback) := by
  intro session
  have applied := applied_of_turns closed ps opened
  refine ⟨applied, fun r own => ?_, fun _ _ => completes_iff⟩
  rw [applied] at own
  unfold AppliedConfig.inForce at own
  cases codec : s.config.backend.codec with
  | h264 =>
    rw [codec] at own
    cases own
  | jpeg =>
    rw [codec] at own
    cases own
    exact ⟨rfl, Jpeg.quant_inForce _⟩

/-- A second session, with a quant beyond the largest that the engine refuses as well, a record of
the wrong size, a bit that means nothing, and one task that fails before another is completed. The
last one never gets ready, and the change word that came before it is kept. -/
theorem configuration_of_second_session :
    let host := ScriptedEngine.host .full
    let d : Dispatcher ScriptedEngine :=
      { settings.defaultSession.backend := .jpegEncoder
        engine.outcomes :=
          [(.control, [.reach, .fail .notReady]),
            (.wait, .fail (.failed "lost") :: .report (.done 4) ::
              List.replicate 3 (.fail .notReady))] }
    let ps : List Primitive :=
      [ .of .init [], .of .controlPrep (Prep.encode { change := 4, format := 7 }), .of .deinit [],
        .of .init [], .of .controlCodec (Jpeg.encode ⟨1, 99⟩), .of .controlPrep [1, 2, 3],
        .of .controlPrep { Prep.input 640 480 with change := 0x8001 }.encode, .of .wait [],
        .of .controlSei (Sei.encode 2), .of .wait [],
        .of .controlRc (RateControl.encode { change := 2, gop := 60 }), .of .wait [] ]
    let words (d : Dispatcher ScriptedEngine) : Option (UInt16 × UInt32) :=
      d.session.map fun s => (s.applied.prep.change, s.applied.rc.change)
    -- The eighth primitive is the request that fails, the tenth the one that is completed.
    words (d.reached host (ps.take 8)) = some (0x8001, 0) ∧
      words (d.reached host (ps.take 10)) = some (0, 0) ∧
      d.session = none ∧ ∃ s, (d.reached host ps).session = some s ∧
        s.applied = .inForce .jpeg
          [ .codec (.jpeg ⟨1, 99⟩), .prep { Prep.input 640 480 with change := 0x8001 }, .sei 2,
            .rc { change := 2, gop := 60 } ]
          [.rc { change := 2, gop := 60 }] ∧
        s.applied =
          { prep := { Prep.input 640 480 with change := 0 }
            rc := { change := 2, gop := 60 }
            codec := .jpeg ⟨0, 8⟩
            sei := 2 } := by
  intro host d ps words
  have kept : words (d.reached host (ps.take 8)) = some (0x8001, 0) := by decide +kernel
  have cleared : words (d.reached host (ps.take 10)) = some (0, 0) := by decide +kernel
  have records : (sinceOpened host (turns host ps d)).filterMap accepted? =
      [ .codec (.jpeg ⟨1, 99⟩), .prep { Prep.input 640 480 with change := 0x8001 }, .sei 2,
        .rc { change := 2, gop := 60 } ] := by decide +kernel
  have recent : (sinceCompleted host (sinceOpened host (turns host ps d))).filterMap accepted? =
      [.rc { change := 2, gop := 60 }] := by decide +kernel
  have closed : d.session = none := rfl
  have codec : (d.reached host ps).session.map (·.config.backend.codec) = some .jpeg := by
    decide +kernel
  obtain ⟨s, opened, codec⟩ := Option.map_eq_some_iff.1 codec
  obtain ⟨applied, -⟩ := configuration_of_accepted closed ps opened
  rw [records, recent, codec] at applied
  exact ⟨kept, cleared, closed, s, opened, applied, applied.trans (by decide +kernel)⟩

end Dispatcher

end CodecLink
