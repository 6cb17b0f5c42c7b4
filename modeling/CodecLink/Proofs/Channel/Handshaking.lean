import CodecLink.Channel.Handshake
import CodecLink.Proofs.Frame.Buffering

/-! Both halves of the handshake over a connection that loses nothing, however often reads and
writes are interrupted. One byte goes each way and no more is taken, and both ends judge alike but
for one tag: the byte by which a server rejects looks like an echo to a client that offered it. -/
namespace CodecLink

/-- A write that takes something or is to be made again. -/
inductive WriteStep.Lossless : WriteStep → Prop
  | accept (spare : Nat) : Lossless (.accept (spare + 1))
  | interrupted {fault : Fault} (again : fault.kind = .interrupted) : Lossless (.fault fault)

/-- A read that gives something or is to be made again. -/
inductive ReadStep.Lossless : ReadStep → Prop
  | data (b : UInt8) (bs : Bytes) : Lossless (.data (b :: bs))
  | passing {fault : Fault} (again : Handshake.isPassing fault = true) : Lossless (.fault fault)

structure Stream.Lossless (s : Stream) : Prop where
  reads : ∀ step ∈ s.inbound.steps, step.Lossless
  writes : ∀ step ∈ s.outbound.writes, step.Lossless
  flushes : ∀ outcome ∈ s.outbound.flushes, outcome = none
  intact : s.outbound.broken = false

/-- What was written between two moments. -/
def Outbound.since (before after : Outbound) : Bytes := after.accepted.drop before.accepted.length

namespace Handshake

/-- A client and a server each of which reads what the other one writes in its half of the
handshake, and then what it sends after that. -/
structure Joined (tag : UInt8) (accepted : List UInt8) (patience farPatience : Millis)
    (near far : Stream) (pipelined greeting : Bytes) : Prop where
  lossless : near.Lossless ∧ far.Lossless
  patient : 0 < patience ∧ 0 < farPatience
  offered : Inbound.unread far.inbound.steps =
    near.outbound.since (client tag patience near).2.outbound ++ pipelined
  answered : Inbound.unread near.inbound.steps =
    far.outbound.since (server accepted farPatience far).2.outbound ++ greeting

/-- The byte by which a server answers an offer. -/
def answer (accepted : List UInt8) (tag : UInt8) : UInt8 :=
  if tag ∈ accepted then tag else rejectTag

variable {tag : UInt8} {s : Stream}

theorem writeByte_lossless {sink : Outbound} (writes : ∀ step ∈ sink.writes, step.Lossless)
    (intact : sink.broken = false) (tag : UInt8) :
    ∃ rest, writeByte tag sink =
      (.ok (), { sink with writes := rest, accepted := sink.accepted ++ [tag] }) := by
  rw [writeByte]
  generalize sink.writes = steps at writes ⊢
  fun_induction writeByte.go tag sink steps with
  | case1 broken =>
    rw [intact] at broken
    cases broken
  | case2 _ => exact ⟨[], rfl⟩
  | case3 rest => cases writes (.accept 0) (by simp)
  | case4 most rest _ => exact ⟨rest, rfl⟩
  | case5 fault rest _ ih => exact ih fun step member => writes step (by simp [member])
  | case6 fault rest final =>
    cases writes (.fault fault) (by simp) with
    | interrupted again => exact absurd again final

theorem writeTag_lossless (lossless : s.Lossless) (tag : UInt8) :
    (writeTag tag s.outbound).1 = .ok () ∧
      s.outbound.since (writeTag tag s.outbound).2 = [tag] := by
  obtain ⟨rest, written⟩ := writeByte_lossless lossless.writes lossless.intact tag
  have flushes := lossless.flushes
  rw [writeTag, written]
  dsimp only [Outbound.flush]
  generalize s.outbound.flushes = outcomes at flushes ⊢
  cases outcomes with
  | nil => exact ⟨rfl, List.drop_left⟩
  | cons outcome later =>
    cases flushes outcome (by simp)
    exact ⟨rfl, List.drop_left⟩

theorem readTag_lossless (lossless : s.Lossless) {patience : Millis} (patient : 0 < patience)
    {rest : Bytes} (unread : Inbound.unread s.inbound.steps = tag :: rest) :
    (readTag patience s.inbound).1 = .ok tag ∧
      Inbound.unread (readTag patience s.inbound).2.steps = rest := by
  have reads := lossless.reads
  rw [readTag, if_neg (Nat.ne_of_gt patient)]
  generalize s.inbound.steps = steps at reads unread ⊢
  fun_induction readTag.go patience s.inbound steps with
  | case1 => cases unread
  | case2 => cases unread
  | case3 rest => cases reads (.data []) (by simp)
  | case4 got rest =>
    cases unread
    exact ⟨rfl, rfl⟩
  | case5 got b bs rest =>
    cases unread
    exact ⟨rfl, rfl⟩
  | case6 fault rest _ ih => exact ih (fun step member => reads step (by simp [member])) unread
  | case7 fault rest final =>
    cases reads (.fault fault) (by simp) with
    | passing again => exact absurd again final

theorem client_lossless (lossless : s.Lossless) (tag : UInt8) {patience : Millis}
    (patient : 0 < patience) {got : UInt8} {rest : Bytes}
    (unread : Inbound.unread s.inbound.steps = got :: rest) :
    (client tag patience s).1 =
        (if got = tag then .ok got else .error (.handshakeMismatch tag got)) ∧
      Inbound.unread (client tag patience s).2.inbound.steps = rest := by
  obtain ⟨written, -⟩ := writeTag_lossless lossless tag
  obtain ⟨read, left⟩ := readTag_lossless lossless patient unread
  rw [client]
  generalize writeTag tag s.outbound = sending at written ⊢
  generalize readTag patience s.inbound = reading at read left ⊢
  obtain ⟨sent, outbound⟩ := sending
  obtain ⟨received, inbound⟩ := reading
  cases written
  cases read
  exact ⟨rfl, left⟩

theorem since_client (lossless : s.Lossless) (tag : UInt8) (patience : Millis) :
    s.outbound.since (client tag patience s).2.outbound = [tag] := by
  obtain ⟨written, since⟩ := writeTag_lossless lossless tag
  rw [client]
  generalize writeTag tag s.outbound = sending at written since ⊢
  obtain ⟨sent, outbound⟩ := sending
  cases written
  dsimp only at since ⊢
  split <;> exact since

theorem server_lossless (lossless : s.Lossless) (accepted : List UInt8) {patience : Millis}
    (patient : 0 < patience) {rest : Bytes}
    (unread : Inbound.unread s.inbound.steps = tag :: rest) :
    (server accepted patience s).1 =
        (if tag ∈ accepted then .ok tag else .error (.unsupportedTag tag)) ∧
      s.outbound.since (server accepted patience s).2.outbound = [answer accepted tag] ∧
      Inbound.unread (server accepted patience s).2.inbound.steps = rest := by
  obtain ⟨read, left⟩ := readTag_lossless lossless patient unread
  rw [server]
  generalize readTag patience s.inbound = reading at read left ⊢
  obtain ⟨received, inbound⟩ := reading
  cases read
  obtain ⟨written, since⟩ := writeTag_lossless lossless (answer accepted tag)
  by_cases served : tag ∈ accepted
  · rw [answer, if_pos served] at written since ⊢
    simp only [List.contains_iff_mem.2 served, if_true, served, written, Except.map]
    exact ⟨trivial, since, left⟩
  · rw [answer, if_neg served] at written since ⊢
    simp only [List.contains_iff_mem, served, if_false]
    exact ⟨trivial, since, left⟩

/-- What both ends come to, what each of them wrote and what is left to be read. They agree unless
the client offered the reject byte to a server that does not serve it. -/
theorem agreement_unless_reject_offered {tag : UInt8} {accepted : List UInt8}
    {patience farPatience : Millis} {near far : Stream} {pipelined greeting : Bytes}
    (joined : Joined tag accepted patience farPatience near far pipelined greeting) :
    let offering := client tag patience near
    let answering := server accepted farPatience far
    (answering.1 = if tag ∈ accepted then .ok tag else .error (.unsupportedTag tag)) ∧
      (offering.1 =
        if tag ∈ accepted ∨ tag = rejectTag then .ok tag
        else .error (.handshakeMismatch tag rejectTag)) ∧
      (tag ∈ accepted ∨ tag ≠ rejectTag → (offering.1 = .ok tag ↔ answering.1 = .ok tag)) ∧
      near.outbound.since offering.2.outbound = [tag] ∧
      far.outbound.since answering.2.outbound = [answer accepted tag] ∧
      Inbound.unread far.inbound.steps = tag :: pipelined ∧
      Inbound.unread answering.2.inbound.steps = pipelined ∧
      Inbound.unread near.inbound.steps = answer accepted tag :: greeting ∧
      Inbound.unread offering.2.inbound.steps = greeting := by
  obtain ⟨⟨intact, farIntact⟩, ⟨patient, farPatient⟩, offered, answered⟩ := joined
  -- The client writes before it reads, so what it offers does not hang on the answer.
  have sent := since_client intact tag patience
  rw [sent] at offered
  obtain ⟨served, replied, left⟩ := server_lossless farIntact accepted farPatient offered
  rw [replied] at answered
  obtain ⟨taken, rest⟩ := client_lossless intact tag patient answered
  have outcome : (client tag patience near).1 =
      if tag ∈ accepted ∨ tag = rejectTag then .ok tag
      else .error (.handshakeMismatch tag rejectTag) := by
    rw [taken, answer]
    by_cases served : tag ∈ accepted
    · simp [served]
    · by_cases reject : tag = rejectTag
      · simp [reject]
      · simp [served, reject, Ne.symm reject]
  refine ⟨served, outcome, fun telling => ?_, sent, replied, offered, left, answered, rest⟩
  rw [outcome, served]
  by_cases member : tag ∈ accepted
  · simp [member]
  · simp [member, telling.resolve_left member]

/-- Both ends are interrupted, and a primitive is sent right behind the tag. -/
theorem agreement_across_interruptions :
    let again : Fault := .ofKind .interrupted
    let near : Stream :=
      ⟨{ steps := [.fault again, .data [2]], ending := .idle },
        { writes := [.fault again, .accept 1] }⟩
    let far : Stream :=
      ⟨{ steps := [.data [2], .fault again, .data (Bytes.ofAscii "1:0:")], ending := .idle },
        { writes := [.fault again, .fault again, .accept 1] }⟩
    (client 2 5 near).1 = .ok 2 ∧ (server [7, 2] 5 far).1 = .ok 2 ∧
      Inbound.unread (server [7, 2] 5 far).2.inbound.steps = Bytes.ofAscii "1:0:" := by
  intro again near far
  have lossless : near.Lossless ∧ far.Lossless := by
    constructor
    · refine ⟨?_, ?_, by simp [near], rfl⟩
      · simp only [near, List.forall_mem_cons]
        exact ⟨.passing rfl, .data 2 [], by simp⟩
      · simp only [near, List.forall_mem_cons]
        exact ⟨.interrupted rfl, .accept 0, by simp⟩
    · refine ⟨?_, ?_, by simp [far], rfl⟩
      · simp only [far, List.forall_mem_cons]
        exact ⟨.data 2 [], .passing rfl, .data 49 _, by simp⟩
      · simp only [far, List.forall_mem_cons]
        exact ⟨.interrupted rfl, .interrupted rfl, .accept 0, by simp⟩
  have joined : Joined 2 [7, 2] 5 5 near far (Bytes.ofAscii "1:0:") [] :=
    ⟨lossless, by decide, by decide, by decide⟩
  obtain ⟨served, offered, -, -, -, -, left, -⟩ := agreement_unless_reject_offered joined
  exact ⟨offered, served, left⟩

/-- Nothing is lost here, and the client takes the rejection for an echo. -/
theorem rejection_taken_for_echo :
    let near : Stream := ⟨{ steps := [.data [rejectTag]], ending := .idle }, {}⟩
    let far : Stream := ⟨{ steps := [.data [rejectTag]], ending := .idle }, {}⟩
    let offering := client rejectTag defaultTimeout near
    let answering := server [channelTag] defaultTimeout far
    Inbound.unread far.inbound.steps = near.outbound.since offering.2.outbound ∧
      Inbound.unread near.inbound.steps = far.outbound.since answering.2.outbound ∧
      offering.1 = .ok rejectTag ∧ answering.1 = .error (.unsupportedTag rejectTag) := by
  decide

end Handshake

end CodecLink
