import CodecLink.Dispatcher.Basic

/-! Only a request for a completed task is answered, and the answer has the tag of the request. -/
namespace CodecLink.Dispatcher

variable {σ : Type} {host : EngineHost σ}

theorem failedReply_tag {s : HostSession} {tag : Option UInt64} {m : WaitReply}
    (answered : failedReply s tag = some m) : m.tag = tag := by
  rw [failedReply] at answered
  split at answered
  · cases answered
    rfl
  · cases answered

theorem finishTask_tag {output : Option Buffer} {tag : Option UInt64} {s : HostSession}
    {d : Dispatcher σ} {m : WaitReply} (answered : (d.finishTask host output tag s).2 = some m) :
    m.tag = tag := by
  rw [finishTask] at answered
  split at answered
  · exact failedReply_tag answered
  · dsimp only at answered
    split at answered
    · cases answered
      rfl
    · cases answered

theorem onWait_tag {payload : Bytes} {s : HostSession} {d : Dispatcher σ} {m : WaitReply}
    (answered : (d.onWait host payload s).2 = some m) :
    ∃ request, decodeWait payload = .ok request ∧ m.tag = request.bind (·.tag) := by
  rw [onWait] at answered
  split at answered
  · cases answered
  · rename_i decoded
    exact ⟨none, decoded, finishTask_tag answered⟩
  · rename_i request decoded
    refine ⟨some request, decoded, ?_⟩
    split at answered
    · exact failedReply_tag answered
    · exact finishTask_tag answered

theorem dispatch_reply {p : Primitive} {d : Dispatcher σ} {m : WaitReply}
    (answered : (d.dispatch host p).2.2 = some m) :
    p.kind? = some .wait ∧
      ∃ request, decodeWait p.payload = .ok request ∧ m.tag = request.bind (·.tag) := by
  rw [dispatch] at answered
  split at answered
  · cases answered
  · rename_i kind s known _
    cases kind with
    | wait => exact ⟨known, onWait_tag answered⟩
    | _ => cases answered
  · cases answered
  · cases answered

end CodecLink.Dispatcher
