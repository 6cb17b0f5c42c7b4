import CodecLink.Proofs.Frame.Buffering

/-! What becomes of each read of a stream while frames are received. A call reads on until a frame
is whole, and a read that fails is its last one and what it reports, unless it was interrupted. So
the faults that are told over all calls are those of the reads, and no read costs a byte. -/
namespace CodecLink

namespace Inbound

/-- The faults that are to be told of these reads; interrupted ones are repeated without a word. -/
def faults (steps : List ReadStep) : List Fault :=
  steps.filterMap fun
    | .data _ => none
    | .fault fault => if fault.kind = .interrupted then none else some fault

/-- What reading comes to, one read after another, and what it leaves. A read takes the front of
what is there, and of more bytes than it asks for only as many. -/
inductive Reads (most : Nat) : List ReadStep → List ReadStep → List ReadStep → Prop
  | done (steps : List ReadStep) : Reads most steps [] steps
  | whole {step : ReadStep} {steps reads left : List ReadStep} (fits : step.bytes.length ≤ most)
      (later : Reads most steps reads left) : Reads most (step :: steps) (step :: reads) left
  | part {bs : Bytes} {steps reads left : List ReadStep} (long : most < bs.length)
      (later : Reads most (.data (bs.drop most) :: steps) reads left) :
      Reads most (.data bs :: steps) (.data (bs.take most) :: reads) left

variable {most : Nat} {steps middle left reads more : List ReadStep}

theorem faults_append (steps more : List ReadStep) :
    faults (steps ++ more) = faults steps ++ faults more :=
  List.filterMap_append

theorem faults_reported {fault : Fault} (reported : fault.kind ≠ .interrupted) :
    faults [.fault fault] = [fault] := by
  simp [faults, reported]

theorem Reads.trans (first : Reads most steps reads middle) (second : Reads most middle more left) :
    Reads most steps (reads ++ more) left := by
  induction first with
  | done => exact second
  | whole fits _ ih => exact .whole fits (ih second)
  | part long _ ih => exact .part long (ih second)

theorem Reads.faults_eq (read : Reads most steps reads left) :
    faults steps = faults reads ++ faults left := by
  induction read with
  | done => rfl
  | @whole step steps reads left _ _ ih =>
    rw [← List.singleton_append, faults_append, ih, ← List.append_assoc, ← faults_append]
    rfl
  | part _ _ ih => exact ih

/-- Where no piece of the bytes is empty, no read finds one that is, and none is left. -/
theorem Reads.filled (some_most : 0 < most) (read : Reads most steps reads left)
    (filled : .data [] ∉ steps) : .data [] ∉ reads ∧ .data [] ∉ left := by
  induction read with
  | done => exact ⟨List.not_mem_nil, filled⟩
  | whole _ _ ih =>
    obtain ⟨front, back⟩ := not_or.1 (List.mem_cons.not.1 filled)
    obtain ⟨reads, left⟩ := ih back
    exact ⟨List.mem_cons.not.2 (not_or.2 ⟨front, reads⟩), left⟩
  | @part bs _ _ _ long _ ih =>
    obtain ⟨-, back⟩ := not_or.1 (List.mem_cons.not.1 filled)
    have rest : ReadStep.data [] ≠ .data (bs.drop most) := fun same => by
      have size := congrArg List.length (ReadStep.data.inj same)
      simp only [List.length_nil, List.length_drop] at size
      omega
    have front : ReadStep.data [] ≠ .data (bs.take most) := fun same => by
      have size := congrArg List.length (ReadStep.data.inj same)
      simp only [List.length_nil, List.length_take] at size
      omega
    obtain ⟨reads, left⟩ := ih (List.mem_cons.not.2 (not_or.2 ⟨rest, back⟩))
    exact ⟨List.mem_cons.not.2 (not_or.2 ⟨front, reads⟩), left⟩

end Inbound

namespace Reader

open Inbound

/-- How a call ends that found these bytes in the buffer and made these reads. -/
inductive Ends (ending : Ending) (buffer : Bytes) (reads : List ReadStep) (after : Pulled) : Prop
  /-- The frame and the bytes behind it are all that was there and was read. -/
  | frame {p : Primitive} (result : after.result = .ok p) (silent : faults reads = [])
      (next : FrameStream.next { remaining := buffer ++ unread reads } =
        some (.ok p, { remaining := after.buffer }))
  /-- The last read failed, and nothing that was read is lost. -/
  | fault {quiet : List ReadStep} {fault : Fault} (result : after.result = .error (.io fault))
      (last : reads = quiet ++ [.fault fault]) (reported : fault.kind ≠ .interrupted)
      (silent : faults quiet = []) (kept : after.buffer = buffer ++ unread reads)
  /-- There is nothing more to read for now. -/
  | waiting (idle : ending = .idle) (result : after.result = .error (.io .wouldBlock))
      (spent : after.steps = []) (silent : faults reads = [])
      (kept : after.buffer = buffer ++ unread reads)
  /-- What was read is refused, or the stream is at its end. -/
  | failed {e : FrameError} (result : after.result = .error e) (given : ∀ fault, e ≠ .io fault)
      (silent : faults reads = [])
      (spent : e = .connectionClosed → after.steps = [] ∨ .data [] ∈ reads)

/-- One more read in front, which reports nothing. -/
theorem Ends.behind {ending : Ending} {buffer : Bytes} {reads : List ReadStep} {after : Pulled}
    {step : ReadStep} (quiet : faults [step] = [])
    (ends : Ends ending (buffer ++ step.bytes) reads after) :
    Ends ending buffer (step :: reads) after := by
  have silent {steps : List ReadStep} (silent : faults steps = []) :
      faults (step :: steps) = [] := by
    rw [← List.singleton_append, faults_append, quiet, silent]
    rfl
  have bytes : buffer ++ step.bytes ++ unread reads = buffer ++ unread (step :: reads) :=
    List.append_assoc _ _ _
  cases ends with
  | frame result none next => exact .frame result (silent none) (bytes ▸ next)
  | fault result last reported none kept =>
    exact .fault result (congrArg (step :: ·) last) reported (silent none) (bytes ▸ kept)
  | waiting idle result spent none kept =>
    exact .waiting idle result spent (silent none) (bytes ▸ kept)
  | failed result given none spent =>
    exact .failed result given (silent none) fun closed =>
      (spent closed).imp_right (List.mem_cons_of_mem step)

theorem pull_ends (maxPayload : Nat) (ending : Ending) (buffer : Bytes) (steps : List ReadStep) :
    ∃ reads, Reads chunkSize steps reads (pull maxPayload ending buffer steps).steps ∧
      Ends ending buffer reads (pull maxPayload ending buffer steps) := by
  fun_induction pull maxPayload ending buffer steps with
  | case1 buffer steps p rest taken =>
    refine ⟨[], .done steps, .frame rfl rfl ?_⟩
    have next := (Frame.next_of_take taken []).1
    rwa [List.append_nil rest] at next
  | case2 buffer steps e failed =>
    obtain ⟨-, -, still_open, given⟩ := Frame.failureOf_take failed []
    exact ⟨[], .done steps, .failed rfl given rfl fun closed => absurd closed still_open⟩
  | case3 buffer =>
    exact ⟨[], .done [], .failed rfl (by simp) rfl fun _ => .inl rfl⟩
  | case4 buffer _ idle =>
    exact ⟨[], .done [], .waiting idle rfl rfl rfl (List.append_nil buffer).symm⟩
  | case5 buffer _ fault rest interrupted ih =>
    obtain ⟨reads, read, ends⟩ := ih
    refine ⟨.fault fault :: reads, .whole (Nat.zero_le _) read, .behind ?_ ?_⟩
    · simp [faults, interrupted]
    · rwa [ReadStep.bytes, List.append_nil]
  | case6 buffer _ fault rest reported =>
    exact ⟨[.fault fault], .whole (Nat.zero_le _) (.done rest),
      .fault rfl (List.nil_append _).symm reported rfl (List.append_nil buffer).symm⟩
  | case7 buffer _ rest =>
    exact ⟨[.data []], .whole (Nat.zero_le _) (.done rest),
      .failed rfl (by simp) rfl fun _ => .inr (List.mem_singleton_self _)⟩
  | case8 buffer _ b bs rest short ih =>
    obtain ⟨reads, read, ends⟩ := ih
    exact ⟨.data (b :: bs) :: reads, .whole short read, .behind rfl ends⟩
  | case9 buffer _ b bs rest long ih =>
    obtain ⟨reads, read, ends⟩ := ih
    exact ⟨.data ((b :: bs).take chunkSize) :: reads,
      .part (Nat.lt_succ_of_le (Nat.not_lt.1 long)) read, .behind rfl ends⟩

section

variable {ending : Ending} {buffer : Bytes} {reads : List ReadStep} {after : Pulled}

theorem Ends.silent_of_ok (ends : Ends ending buffer reads after) {p : Primitive}
    (received : after.result = .ok p) : faults reads = [] := by
  cases ends with
  | frame _ silent _ => exact silent
  | fault other | waiting _ other | failed other => cases received.symm.trans other

theorem Ends.told_of_io (ends : Ends .finished buffer reads after) {fault : Fault}
    (received : after.result = .error (.io fault)) : faults reads = [fault] := by
  cases ends with
  | fault result last reported silent _ =>
    cases received.symm.trans result
    rw [last, faults_append, silent, faults_reported reported, List.nil_append]
  | waiting idle => cases idle
  | failed other given =>
    cases received.symm.trans other
    exact absurd rfl (given fault)
  | frame other => cases received.symm.trans other

theorem Ends.silent_of_error (ends : Ends ending buffer reads after) {e : FrameError}
    (received : after.result = .error e) (given : ∀ fault, e ≠ .io fault) :
    faults reads = [] ∧ (e = .connectionClosed → after.steps = [] ∨ .data [] ∈ reads) := by
  cases ends with
  | failed result _ silent spent =>
    cases received.symm.trans result
    exact ⟨silent, spent⟩
  | fault other | waiting _ other =>
    cases received.symm.trans other
    exact absurd rfl (given _)
  | frame other => cases received.symm.trans other

end

theorem next_progress {r after : Reader} {steps : List ReadStep} {source : Inbound}
    {result : Except FrameError Primitive}
    (called : r.next { steps } = (result, after, source)) :
    backlog after.buffer source.steps < backlog r.buffer steps ∨
      result = .error .connectionClosed := by
  have progress := pull_progress r.limits.maxPayload .finished r.buffer steps
  simp only [next, Prod.mk.injEq] at called
  obtain ⟨rfl, rfl, rfl⟩ := called
  rcases progress with less | closed | ⟨_, _, idle⟩
  · exact .inl less
  · exact .inr closed
  · cases idle

/-- What call after call answers, up to the first failure that is not a fault of the stream, and
what is left to read then. -/
def answers (r : Reader) (steps : List ReadStep) :
    List (Except FrameError Primitive) × List ReadStep :=
  match _called : r.next { steps } with
  | (.ok p, after, source) => (answers after source.steps).map (.ok p :: ·) id
  | (.error (.io fault), after, source) =>
    (answers after source.steps).map (.error (.io fault) :: ·) id
  | (.error e, _, source) => ([.error e], source.steps)
termination_by backlog r.buffer steps
decreasing_by
  · rcases next_progress _called with less | closed
    · exact less
    · cases closed
  · rcases next_progress _called with less | closed
    · exact less
    · cases closed

def faultOf? : Except FrameError Primitive → Option Fault
  | .error (.io fault) => some fault
  | _ => none

/-- Answers that hand out what stands at the front of the bytes, tell of the faults of all reads,
and then of the failure behind it. -/
def Delivers (maxPayload : Nat) (bs : Bytes) (steps : List ReadStep)
    (answered : List (Except FrameError Primitive) × List ReadStep) : Prop :=
  ∃ handed reads, answered.1 = handed ++ [.error (failure maxPayload bs)] ∧
    handed.filter Except.isOk = fitting maxPayload bs ∧
    (∀ answer ∈ handed, answer.isOk ∨ (faultOf? answer).isSome) ∧
    Reads chunkSize steps reads answered.2 ∧ handed.filterMap faultOf? = faults reads ∧
    (failure maxPayload bs = .connectionClosed → answered.2 = [])

section

variable {maxPayload : Nat} {bs rest : Bytes} {steps left reads : List ReadStep}
  {answered : List (Except FrameError Primitive) × List ReadStep}

theorem Delivers.frame {p : Primitive} (delivers : Delivers maxPayload rest left answered)
    (next : FrameStream.next { remaining := bs } = some (.ok p, { remaining := rest }))
    (bounded : p.payload.length ≤ maxPayload) (read : Reads chunkSize steps reads left)
    (silent : faults reads = []) :
    Delivers maxPayload bs steps (answered.map (.ok p :: ·) id) := by
  obtain ⟨handed, later, same, whole, each, rest_read, told, spent⟩ := delivers
  obtain ⟨front, behind⟩ := fitting_next next bounded
  refine ⟨.ok p :: handed, reads ++ later, ?_, ?_, ?_, read.trans rest_read, ?_, ?_⟩
  · rw [behind, Prod.map_fst, same, List.cons_append]
  · rw [front, ← whole]
    rfl
  · intro answer member
    rcases List.mem_cons.1 member with rfl | member
    · exact .inl rfl
    · exact each answer member
  · rw [faults_append, silent, List.nil_append]
    exact told
  · rw [behind]
    exact spent

theorem Delivers.fault {fault : Fault} (delivers : Delivers maxPayload bs left answered)
    (read : Reads chunkSize steps reads left) (reported : faults reads = [fault]) :
    Delivers maxPayload bs steps (answered.map (.error (.io fault) :: ·) id) := by
  obtain ⟨handed, later, same, whole, each, rest_read, told, spent⟩ := delivers
  refine ⟨.error (.io fault) :: handed, reads ++ later, ?_, whole, ?_, read.trans rest_read, ?_,
    spent⟩
  · rw [Prod.map_fst, same, List.cons_append]
  · intro answer member
    rcases List.mem_cons.1 member with rfl | member
    · exact .inr rfl
    · exact each answer member
  · rw [faults_append, reported, ← told]
    rfl

theorem delivers_ended {e : FrameError}
    (stands : Frame.failureOf maxPayload (FrameStream.head? { remaining := bs }) = e)
    (unfit : ∀ item ∈ FrameStream.head? { remaining := bs }, Frame.fits maxPayload item = false)
    (read : Reads chunkSize steps reads left) (silent : faults reads = [])
    (spent : e = .connectionClosed → left = []) :
    Delivers maxPayload bs steps ([.error e], left) := by
  obtain ⟨front, behind⟩ := fitting_stopped unfit
  have ending := behind.trans stands
  refine ⟨[], reads, ?_, front.symm, by simp, read, silent.symm, fun closed => ?_⟩
  · rw [ending, List.nil_append]
  · exact spent (ending.symm.trans closed)

end

theorem answers_from (r : Reader) (steps : List ReadStep) (filled : .data [] ∉ steps) :
    Delivers r.limits.maxPayload (r.buffer ++ unread steps) steps (r.answers steps) := by
  -- The invariant: buffered and unread bytes together are what the one-shot stream has left.
  fun_induction answers r steps with
  | case1 r steps p after source called ih =>
    have cases := pull_cases r.limits.maxPayload .finished r.buffer steps
    obtain ⟨reads, read, ends⟩ := pull_ends r.limits.maxPayload .finished r.buffer steps
    simp only [next, Prod.mk.injEq] at called
    obtain ⟨received, rfl, rfl⟩ := called
    rcases cases with ⟨q, same, next, bounded⟩ | ⟨_, other, _⟩ | ⟨_, other, _⟩
    · cases received.symm.trans same
      exact (ih (read.filled (by decide) filled).2).frame next bounded read
        (ends.silent_of_ok received)
    · cases received.symm.trans other
    · cases received.symm.trans other
  | case2 r steps fault after source called ih =>
    have cases := pull_cases r.limits.maxPayload .finished r.buffer steps
    obtain ⟨reads, read, ends⟩ := pull_ends r.limits.maxPayload .finished r.buffer steps
    simp only [next, Prod.mk.injEq] at called
    obtain ⟨received, rfl, rfl⟩ := called
    rcases cases with ⟨_, other, _⟩ | ⟨_, _, content⟩ | ⟨_, other, given, _⟩
    · cases received.symm.trans other
    · rw [← content]
      exact (ih (read.filled (by decide) filled).2).fault read (ends.told_of_io received)
    · cases received.symm.trans other
      exact absurd rfl (given fault)
  | case3 r steps e after source given called =>
    have cases := pull_cases r.limits.maxPayload .finished r.buffer steps
    obtain ⟨reads, read, ends⟩ := pull_ends r.limits.maxPayload .finished r.buffer steps
    simp only [next, Prod.mk.injEq] at called
    obtain ⟨received, rfl, rfl⟩ := called
    rcases cases with ⟨_, other, _⟩ | ⟨fault, other, _⟩ | ⟨_, same, _, stream⟩
    · cases received.symm.trans other
    · cases received.symm.trans other
      exact absurd rfl (given fault)
    · cases received.symm.trans same
      obtain ⟨stands, unfit⟩ := stream filled
      obtain ⟨silent, spent⟩ := ends.silent_of_error received given
      refine delivers_ended stands unfit read silent fun closed => ?_
      exact (spent closed).resolve_right (read.filled (by decide) filled).1

/-- Receiving in pieces agrees with reading the same bytes at once: the whole frames within the
bound come in order, and what ends the receiving is what the one-shot stream has next. The faults
that are told are those of the reads that were made, each told at once by the call whose last read
it was; it costs no byte. -/
theorem answers_eq_decodeStream (limits : Frame.Limits) (steps : List ReadStep)
    (filled : ∀ bs, .data bs ∈ steps → bs ≠ []) :
    (∃ handed reads,
      (answers { limits } steps).1 =
        handed ++ [.error (failure limits.maxPayload (unread steps))] ∧
      handed.filter Except.isOk = fitting limits.maxPayload (unread steps) ∧
      (∀ answer ∈ handed, answer.isOk ∨ (faultOf? answer).isSome) ∧
      Reads chunkSize steps reads (answers { limits } steps).2 ∧
      handed.filterMap faultOf? = faults reads ∧
      (failure limits.maxPayload (unread steps) = .connectionClosed →
        (answers { limits } steps).2 = [] ∧ handed.filterMap faultOf? = faults steps)) ∧
    ∀ (r : Reader) (source : Inbound),
      (∃ reads, Reads chunkSize source.steps reads (r.next source).2.2.steps ∧
        Ends source.ending r.buffer reads
          ⟨(r.next source).1, (r.next source).2.1.buffer, (r.next source).2.2.steps⟩) ∧
      ∀ fault, (r.next source).1 = .error (.io fault) →
        (r.next source).2.1.buffer ++ unread (r.next source).2.2.steps =
          r.buffer ++ unread source.steps := by
  constructor
  · obtain ⟨handed, reads, same, whole, each, read, told, spent⟩ :=
      answers_from { limits } steps fun member => filled [] member rfl
    refine ⟨handed, reads, same, whole, each, read, told, fun closed => ?_⟩
    have all := read.faults_eq
    rw [spent closed, ← told] at all
    exact ⟨spent closed, by simpa [faults] using all.symm⟩
  · intro r source
    refine ⟨pull_ends r.limits.maxPayload source.ending r.buffer source.steps,
      fun fault reported => ?_⟩
    rcases pull_cases r.limits.maxPayload source.ending r.buffer source.steps with
      ⟨_, other, _⟩ | ⟨_, _, content⟩ | ⟨_, other, given, _⟩
    · cases reported.symm.trans other
    · exact content
    · cases reported.symm.trans other
      exact absurd rfl (given fault)

/-- A frame cut in its header and again in its payload, with a fault at either cut, and then a
header that cannot be read; the fault behind it is not told, for it was never read. -/
theorem answers_cut_frame :
    let steps : List ReadStep :=
      [ .data [52, 58], .fault .wouldBlock, .fault (.ofKind .interrupted), .data [50, 58, 49],
        .fault (.ofKind .timedOut), .data [58, 65], .fault .wouldBlock ]
    (∀ bs, .data bs ∈ steps → bs ≠ []) ∧
      ∃ handed,
        (answers {} steps).1 = handed ++ [.error (.malformedHeader .nonNumeric)] ∧
        handed.filter Except.isOk = [.ok ⟨4, [49, 58]⟩] ∧
        handed.filterMap faultOf? = [.wouldBlock, .ofKind .timedOut] ∧
        (answers {} steps).2 = [.fault .wouldBlock] := by
  intro steps
  have filled : ∀ bs, .data bs ∈ steps → bs ≠ [] := by simp [steps]
  obtain ⟨⟨handed, reads, answered, whole, -, read, told, -⟩, -⟩ :=
    answers_eq_decodeStream {} steps filled
  have ending : failure 512 (unread steps) = .malformedHeader .nonNumeric := by decide +kernel
  have front : fitting 512 (unread steps) = [.ok ⟨4, [49, 58]⟩] := by decide +kernel
  have left : (answers {} steps).2 = [.fault .wouldBlock] := by decide +kernel
  have all := read.faults_eq
  rw [left, ← told] at all
  have told : handed.filterMap faultOf? = [.wouldBlock, .ofKind .timedOut] :=
    (List.append_cancel_right (all : [_, _] ++ [_] = _)).symm
  exact ⟨filled, handed, ending ▸ answered, whole.trans front, told, left⟩

end Reader

end CodecLink
