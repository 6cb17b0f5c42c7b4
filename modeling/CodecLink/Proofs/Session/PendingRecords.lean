import CodecLink.Proofs.Record.Coalescing
import CodecLink.Proofs.Session.Settled

/-! The records that wait for delivery, accounted for over a whole run: whatever calls are made and
whatever becomes of the channels, a record waits exactly while a request for it was accepted after
its last delivery, and it then holds what those requests come to. -/
namespace CodecLink

inductive RecordEvent
  | accepted (request : ConfigRequest)
  | delivered (kind : RecordKind)
  deriving DecidableEq, Repr

namespace RecordEvent

def after (kind : RecordKind) (requests : List ConfigRequest) : RecordEvent → List ConfigRequest
  | accepted request => if request.kind = kind then requests ++ [request] else requests
  | delivered sent => if sent = kind then [] else requests

/-- The requests accepted for a record since it was last delivered, in order. -/
def waiting (kind : RecordKind) (history : List RecordEvent) : List ConfigRequest :=
  history.foldl (after kind) []

@[simp] theorem waiting_accepted (kind : RecordKind) (history : List RecordEvent)
    (request : ConfigRequest) :
    waiting kind (history ++ [accepted request]) =
      if request.kind = kind then waiting kind history ++ [request] else waiting kind history := by
  simp [waiting, after]

@[simp] theorem waiting_delivered (kind sent : RecordKind) (history : List RecordEvent) :
    waiting kind (history ++ [delivered sent]) =
      if sent = kind then [] else waiting kind history := by
  simp [waiting, after]

end RecordEvent

namespace Attempt

def delivered? (a : Attempt) : Option RecordEvent :=
  if a.sent then a.kind?.map RecordEvent.delivered else none

end Attempt

namespace ConfigSet

/-- The records of a session account for a history of requests and deliveries. -/
structure Accounts (set : ConfigSet) (history : List RecordEvent) : Prop where
  pending : ∀ kind, set.pending.has kind ↔ RecordEvent.waiting kind history ≠ []
  stored : ∀ kind first later, RecordEvent.waiting kind history = first :: later →
    set.stored kind = first.coalesce later

theorem accounts_blank (codec : Codec) : (blank codec).Accounts [] :=
  ⟨fun kind => by cases kind <;> simp [blank, RecordSet.has, RecordEvent.waiting],
    fun _ _ _ empty => by cases empty⟩

theorem Accounts.record {set after : ConfigSet} {history : List RecordEvent}
    {request : ConfigRequest} (accounts : set.Accounts history)
    (recorded : set.record request = .ok after) :
    after.Accounts (history ++ [.accepted request]) := by
  obtain ⟨pending, _, stored⟩ := record_ok recorded
  refine ⟨fun kind => ?_, fun kind first later same => ?_⟩
  · by_cases own : request.kind = kind
    · simp [pending, own, RecordSet.insert]
    · simp [pending, own, RecordSet.insert, Ne.symm own, accounts.pending kind]
  · rw [RecordEvent.waiting_accepted] at same
    by_cases own : request.kind = kind
    · rw [if_pos own] at same
      rw [stored kind, if_pos own.symm]
      cases before : RecordEvent.waiting kind history with
      | nil =>
        rw [before] at same
        cases same
        have idle : set.pending.has kind = false := by
          rw [Bool.eq_false_iff, ne_eq, accounts.pending kind]
          simp [before]
        rw [idle, ConfigRequest.coalesce_nil]
        rfl
      | cons oldest others =>
        obtain ⟨rfl, rfl⟩ : oldest = first ∧ others ++ [request] = later := by
          simpa [before] using same
        have waits : set.pending.has kind = true := (accounts.pending kind).2 (by simp [before])
        rw [if_pos waits, ConfigRequest.coalesce_concat, accounts.stored kind _ _ before]
    · rw [if_neg own] at same
      rw [stored kind, if_neg (Ne.symm own)]
      exact accounts.stored kind first later same

theorem Accounts.deliver {set : ConfigSet} {history : List RecordEvent}
    (accounts : set.Accounts history) (kind : RecordKind) :
    (set.delivered kind).Accounts (history ++ [.delivered kind]) := by
  refine ⟨fun other => ?_, fun other first later same => ?_⟩
  · by_cases own : kind = other
    · simp [delivered, own, RecordSet.erase]
    · simp [delivered, own, RecordSet.erase, Ne.symm own, accounts.pending other]
  · rw [RecordEvent.waiting_delivered] at same
    split at same
    · cases same
    · rw [stored_delivered]
      exact accounts.stored other first later same

end ConfigSet

/-- A delivery pass over some records: what it tries to send, and the records before and after. -/
structure DeliveryPass (kinds : List RecordKind) (before : ConfigSet) (attempts : List Attempt)
    (after : ConfigSet) : Prop where
  order : ∃ done, done <+: kinds ∧
    attempts.map (·.primitive) = done.map fun kind => .of kind.primitive (before.stored kind).encode
  /-- Only a failure ends the pass early. -/
  whole : (∀ a ∈ attempts, a.sent = true) → attempts.length = kinds.length
  stops : ∀ front a back, attempts = front ++ a :: back → a.sent = false → back = []
  /-- A record waits until it was sent, and no longer. -/
  clears : ∀ front a back, attempts = front ++ a :: back → ∀ kind,
    a.pending.has kind = (before.pending.has kind && !front.any (·.delivers kind))
  left : ∀ kind, after.pending.has kind =
    (before.pending.has kind && !attempts.any (·.delivers kind))
  stored : after.stored = before.stored

namespace DeliveryPass

theorem nothing (set : ConfigSet) : DeliveryPass [] set [] set where
  order := ⟨[], List.nil_prefix, rfl⟩
  whole _ := rfl
  stops front a back split := by simp at split
  clears front a back split := by simp at split
  left kind := by simp
  stored := rfl

theorem failed {kind : RecordKind} {rest : List RecordKind} {set : ConfigSet} {a : Attempt}
    (carries : a.primitive = .of kind.primitive (set.stored kind).encode)
    (pending : a.pending = set.pending) (unsent : a.sent = false) :
    DeliveryPass (kind :: rest) set [a] set where
  order := ⟨[kind], by simp, by simp [carries]⟩
  whole all := by simp [unsent] at all
  stops front b back split _ := by
    cases front with
    | nil => exact (List.cons.inj split).2.symm
    | cons head tail => simp at split
  clears front b back split kind := by
    cases front with
    | nil =>
      cases split
      simp [pending]
    | cons head tail => simp at split
  left kind := by simp [Attempt.delivers, unsent]
  stored := rfl

theorem sent {kind : RecordKind} {rest : List RecordKind} {set after : ConfigSet} {a : Attempt}
    {others : List Attempt} (carries : a.primitive = .of kind.primitive (set.stored kind).encode)
    (pending : a.pending = set.pending)
    (delivers : ∀ other, a.delivers other = decide (kind = other))
    (pass : DeliveryPass rest (set.delivered kind) others after) :
    DeliveryPass (kind :: rest) set (a :: others) after := by
  have success : a.sent = true := by
    have own := delivers kind
    simp only [decide_true, Attempt.delivers, Bool.and_eq_true] at own
    exact own.1
  have fewer : ∀ other, (set.delivered kind).pending.has other =
      (set.pending.has other && !a.delivers other) := by
    intro other
    rw [delivers]
    by_cases own : kind = other
    · simp [ConfigSet.delivered, RecordSet.erase, own]
    · simp [ConfigSet.delivered, RecordSet.erase, own, Ne.symm own]
  constructor
  case order =>
    obtain ⟨done, front, same⟩ := pass.order
    refine ⟨kind :: done, by simpa using front, ?_⟩
    rw [List.map_cons, List.map_cons, carries, same, ConfigSet.stored_delivered]
  case whole =>
    intro all
    simp [pass.whole fun b member => all b (List.mem_cons_of_mem _ member)]
  case stops =>
    intro front b back split unsent
    cases front with
    | nil =>
      cases split
      rw [success] at unsent
      cases unsent
    | cons head tail =>
      cases split
      exact pass.stops tail b back rfl unsent
  case clears =>
    intro front b back split other
    cases front with
    | nil =>
      cases split
      simp [pending]
    | cons head tail =>
      cases split
      rw [pass.clears tail b back rfl, fewer, List.any_cons, Bool.not_or, Bool.and_assoc]
  case left =>
    intro other
    rw [pass.left, fewer, List.any_cons, Bool.not_or, Bool.and_assoc]
  case stored => rw [pass.stored, ConfigSet.stored_delivered]

end DeliveryPass

namespace Session

theorem deliver_pass (kinds : List RecordKind) (s : Session) :
    DeliveryPass kinds s.configs (s.deliveries kinds) (s.deliver kinds).2.configs := by
  induction kinds generalizing s with
  | nil => exact .nothing s.configs
  | cons kind rest ih =>
    have carries : (s.attempt kind.primitive (s.configs.encoded kind)).primitive =
        .of kind.primitive (s.configs.stored kind).encode := by
      rw [ConfigSet.encode_stored, attempt]
    have kept : (s.send kind.primitive (s.configs.encoded kind)).2.configs = s.configs := by simp
    cases outcome : s.send kind.primitive (s.configs.encoded kind) with
    | mk result middle =>
      rw [outcome] at kept
      cases result with
      | error e =>
        obtain ⟨same, attempts, unsent⟩ := deliver_cons_error outcome rest
        rw [same, attempts]
        dsimp only at kept ⊢
        rw [kept]
        exact .failed carries rfl unsent
      | ok =>
        obtain ⟨same, attempts, sent⟩ := deliver_cons_ok outcome rest
        have pass := ih { middle with configs := middle.configs.delivered kind }
        rw [same, attempts]
        dsimp only at kept pass
        rw [kept] at pass ⊢
        refine .sent carries rfl (fun other => ?_) pass
        rw [Attempt.delivers, sent, kind_attempt, Bool.true_and]
        simp

theorem has_deliver {kinds : List RecordKind} {s : Session} (done : (s.deliver kinds).1 = .ok ())
    (kind : RecordKind) :
    (s.deliver kinds).2.configs.pending.has kind =
      (s.configs.pending.has kind && !kinds.contains kind) := by
  induction kinds generalizing s with
  | nil => simp [deliver]
  | cons head rest ih =>
    have kept := configs_send head.primitive (s.configs.encoded head) s
    cases outcome : s.send head.primitive (s.configs.encoded head) with
    | mk result middle =>
      rw [outcome] at kept
      cases result with
      | error e =>
        rw [(deliver_cons_error outcome rest).1] at done
        cases done
      | ok =>
        have same := (deliver_cons_ok outcome rest).1
        rw [same] at done ⊢
        rw [ih done, kept]
        by_cases own : kind = head
        · simp [ConfigSet.delivered, RecordSet.erase, own]
        · simp [ConfigSet.delivered, RecordSet.erase, own]

theorem pending_deliverPending {s : Session} (done : s.deliverPending.1 = .ok ()) :
    s.deliverPending.2.configs.pending = {} := by
  have empty : ∀ kind, s.deliverPending.2.configs.pending.has kind = false := by
    intro kind
    rw [deliverPending, has_deliver done]
    cases waits : s.configs.pending.has kind with
    | false => rfl
    | true => simpa using RecordSet.mem_toList.2 waits
  cases all : s.deliverPending.2.configs.pending with
  | mk prep rc codec sei =>
    rw [all] at empty
    obtain rfl : prep = false := empty .prep
    obtain rfl : rc = false := empty .rc
    obtain rfl : codec = false := empty .codec
    obtain rfl : sei = false := empty .sei
    rfl

theorem accounts_deliver {history : List RecordEvent} (kinds : List RecordKind) {s : Session}
    (accounts : s.configs.Accounts history) :
    (s.deliver kinds).2.configs.Accounts
      (history ++ (s.deliveries kinds).filterMap Attempt.delivered?) := by
  induction kinds generalizing s history with
  | nil => simpa [deliver, deliveries] using accounts
  | cons kind rest ih =>
    have kept := configs_send kind.primitive (s.configs.encoded kind) s
    have own := kind_attempt kind (s.configs.encoded kind) s
    cases outcome : s.send kind.primitive (s.configs.encoded kind) with
    | mk result middle =>
      rw [outcome] at kept
      cases result with
      | error e =>
        obtain ⟨same, attempts, unsent⟩ := deliver_cons_error outcome rest
        rw [same, attempts]
        simpa [Attempt.delivered?, unsent] using kept ▸ accounts
      | ok =>
        obtain ⟨same, attempts, sent⟩ := deliver_cons_ok outcome rest
        have before : { middle with configs := middle.configs.delivered kind }.configs.Accounts
            (history ++ [RecordEvent.delivered kind]) := by
          dsimp only at kept ⊢
          rw [kept]
          exact accounts.deliver kind
        have delivered : (s.attempt kind.primitive (s.configs.encoded kind)).delivered? =
            some (.delivered kind) := by
          rw [Attempt.delivered?, sent, own]
          rfl
        rw [same, attempts, List.filterMap_cons_some delivered, List.append_cons]
        exact ih before

/-- Whether the state, the backend, the request itself and the codec let a request in. -/
def accepts (request : ConfigRequest) (s : Session) : Bool :=
  s.state ∈ [.connected, .configured] && s.config.backend.accepted.has request.kind &&
    (validate request s.config.backend).isOk && request.suits s.config.backend.codec

/-- What a call does to the records, in order. -/
def happened (call : SessionCall) (s : Session) : List RecordEvent :=
  (match call with
    | .control request => if s.accepts request then [.accepted request] else []
    | _ => []) ++ (s.attempts call).filterMap Attempt.delivered?

/-- The records that a call's delivery pass starts from, if the call makes one. -/
def passRecords? (call : SessionCall) (s : Session) : Option ConfigSet :=
  match call with
  | .control request => if s.accepts request then (s.configs.record request).toOption else none
  | .start _ => if s.state ∈ startingStates then some s.configs else none
  | _ => none

def recordAttempts (call : SessionCall) (s : Session) : List Attempt :=
  (s.attempts call).filter (·.kind?.isSome)

def Fits (s : Session) : Prop := s.configs.codec.codec = s.config.backend.codec

theorem fits_ofConfig (config : SessionConfig) : (ofConfig config).Fits := by
  show (CodecRecord.blank config.backend.codec).codec = config.backend.codec
  cases config.backend.codec <;> rfl

theorem recorded_accepts {s : Session} (fits : s.Fits) (request : ConfigRequest) :
    (s.recorded? request).map (·.configs) =
      if s.accepts request then (s.configs.record request).toOption else none := by
  have suits := s.configs.record_ok_iff request
  rw [fits] at suits
  rw [recorded?, accepts]
  by_cases member : s.state ∈ [SessionState.connected, .configured]
  · cases has : s.config.backend.accepted.has request.kind with
    | false => simp
    | true =>
      cases valid : validate request s.config.backend with
      | error e =>
        simp [recordRequest, valid, Except.toOption, Except.isOk, Except.toBool]
      | ok =>
        cases kept : s.configs.record request with
        | error e =>
          simp [recordRequest, valid, kept, Except.toOption]
        | ok configs =>
          rw [if_pos ⟨member, rfl⟩, recordRequest, valid, ← suits.1 ⟨configs, kept⟩, kept]
          simp [member, Except.toOption, Except.isOk, Except.toBool]
  · simp [member]

theorem record_of_accepts {s : Session} (fits : s.Fits) {request : ConfigRequest}
    (accepted : s.accepts request = true) : ∃ configs, s.configs.record request = .ok configs := by
  rw [ConfigSet.record_ok_iff, fits]
  simp only [accepts, Bool.and_eq_true] at accepted
  exact accepted.2

theorem isSome_recorded {s : Session} (fits : s.Fits) (request : ConfigRequest) :
    (s.recorded? request).isSome = s.accepts request := by
  have same := congrArg Option.isSome (recorded_accepts fits request)
  rw [Option.isSome_map] at same
  rw [same]
  cases accepted : s.accepts request with
  | false => rfl
  | true =>
    obtain ⟨set, recorded⟩ := record_of_accepts fits accepted
    rw [recorded]
    rfl

theorem delivering_records {s : Session} (fits : s.Fits) (call : SessionCall) :
    (s.delivering? call).map (·.configs) = s.passRecords? call := by
  cases call with
  | control request => exact recorded_accepts fits request
  | start input =>
    rw [delivering?, passRecords?]
    split <;> rfl
  | _ => rfl

theorem kind_of_delivery {kinds : List RecordKind} {s : Session} {a : Attempt}
    (member : a ∈ s.deliveries kinds) : a.kind?.isSome := by
  obtain ⟨kind, t, rfl⟩ := mem_deliveries member
  rw [kind_attempt]
  rfl

theorem recordAttempts_eq (call : SessionCall) (s : Session) :
    s.recordAttempts call = match s.delivering? call with
      | some begun => begun.deliveries begun.configs.pending.toList
      | none => [] := by
  have all (kinds : List RecordKind) (t : Session) :
      (t.deliveries kinds).filter (·.kind?.isSome) = t.deliveries kinds :=
    List.filter_eq_self.2 fun a member => kind_of_delivery member
  rw [recordAttempts]
  cases call with
  | attach c =>
    simp only [attempts, delivering?]
    split <;> simp [RecordKind.ofPrimitive?]
  | init attempt =>
    cases attempt with
    | error e => rfl
    | ok c =>
      simp only [attempts, delivering?]
      split <;> simp [RecordKind.ofPrimitive?]
  | control request =>
    simp only [attempts, delivering?]
    cases s.recorded? request with
    | none => rfl
    | some recorded => exact all _ recorded
  | start input =>
    simp only [attempts, delivering?]
    split
    · rw [List.filter_append, all]
      cases s.deliverPending with
      | mk result after => cases result <;> simp [RecordKind.ofPrimitive?]
    · rfl
  | wait output flag =>
    simp only [attempts, delivering?, waitAttempt]
    split
    · split <;> simp [RecordKind.ofPrimitive?]
    · rfl
  | genRegs | reset | flush | deinit =>
    simp only [attempts, delivering?]
    split <;> simp [RecordKind.ofPrimitive?]

theorem filterMap_delivered (attempts : List Attempt) :
    attempts.filterMap Attempt.delivered? =
      (attempts.filter (·.kind?.isSome)).filterMap Attempt.delivered? := by
  rw [List.filterMap_filter]
  congr
  funext a
  cases kind : a.kind? <;> simp [Attempt.delivered?, kind]

theorem pending_start {s : Session} {call : SessionCall} {a : Attempt}
    (member : a ∈ s.attempts call) (starts : a.primitive.kind? = some .start) :
    a.pending = {} := by
  have own := code_of_mem member starts rfl
  cases call with
  | start input =>
    simp only [attempts, List.mem_ite_nil_right, List.mem_append] at member
    rcases member.2 with delivery | last
    · have record := kind_of_delivery delivery
      rw [Attempt.kind?, starts] at record
      cases record
    · have empty := pending_deliverPending (s := s)
      cases outcome : s.deliverPending with
      | mk result after =>
        rw [outcome] at last empty
        cases result with
        | error e => cases last
        | ok =>
          rw [List.mem_singleton.1 last]
          exact empty rfl
  | _ => cases own

theorem Carried.accounts {s after : Session} {call : SessionCall} {history : List RecordEvent}
    (carried : Carried call s after) (fits : s.Fits) (accounts : s.configs.Accounts history) :
    after.Fits ∧ after.configs.Accounts (history ++ s.happened call) := by
  have records := recordAttempts_eq call s
  have configs := carried.configs
  have sent : (s.attempts call).filterMap Attempt.delivered? =
      (s.recordAttempts call).filterMap Attempt.delivered? := filterMap_delivered _
  -- A call that begins no delivery pass leaves the records as they are.
  have idle (none_begun : s.delivering? call = none) : after.Fits ∧ after.configs.Accounts
      (history ++ (s.attempts call).filterMap Attempt.delivered?) := by
    rw [none_begun] at configs records
    rw [Fits, sent, records, show after.configs = s.configs from configs, carried.config]
    exact ⟨fits, by simpa using accounts⟩
  have passed {begun : Session} {front : List RecordEvent}
      (begins : s.delivering? call = some begun)
      (codec : begun.configs.codec.codec = s.configs.codec.codec)
      (before : begun.configs.Accounts front) : after.Fits ∧ after.configs.Accounts
        (front ++ (s.attempts call).filterMap Attempt.delivered?) := by
    rw [begins] at configs records
    have kept := (deliver_pass begun.configs.pending.toList begun).stored
    have same : (begun.deliverPending).2.configs.codec = begun.configs.codec :=
      ConfigRequest.codec.inj (congrFun kept .codec)
    simp only [Option.map_some, Option.getD_some] at configs
    rw [Fits, sent, records, configs, carried.config, same, codec]
    exact ⟨fits, accounts_deliver _ before⟩
  cases call with
  | control request =>
    have let_in := isSome_recorded fits request
    cases found : s.recorded? request with
    | none =>
      have refused : s.accepts request = false := by rw [← let_in, found, Option.isSome_none]
      simpa [happened, refused] using idle found
    | some recorded =>
      have accepted : s.accepts request = true := by rw [← let_in, found, Option.isSome_some]
      obtain ⟨_, _, _, set, stored, rfl⟩ := recorded_some found
      have step := passed found (ConfigSet.record_ok stored).2.1 (accounts.record stored)
      simpa [happened, accepted] using step
  | start input =>
    by_cases member : s.state ∈ startingStates
    · simpa [happened] using passed (if_pos member) rfl accounts
    · simpa [happened] using idle (if_neg member)
  | attach _ | init _ | genRegs | wait _ _ | reset | flush | deinit =>
    simpa [happened] using idle rfl

end Session

/-- What a session may meet with: a call of its own, or any change to the channel it holds. -/
inductive SessionEvent
  | call (call : SessionCall)
  | world (change : Channel → Channel)

/-- A session together with what happened to its records. -/
structure Followed where
  session : Session
  history : List RecordEvent := []

namespace Followed

def step (f : Followed) : SessionEvent → Followed
  | .call call => ⟨(f.session.perform call).2, f.history ++ f.session.happened call⟩
  | .world change => { f with session.channel := f.session.channel.map change }

def run (config : SessionConfig) (events : List SessionEvent) : Followed :=
  events.foldl step { session := .ofConfig config }

structure Sound (f : Followed) : Prop where
  settled : f.session.Settled
  fits : f.session.Fits
  accounts : f.session.configs.Accounts f.history

theorem sound_start (config : SessionConfig) : Sound { session := .ofConfig config } where
  settled := .inr ⟨rfl, by simp [Session.ofConfig, Session.openingStates]⟩
  fits := Session.fits_ofConfig config
  accounts := ConfigSet.accounts_blank config.backend.codec

theorem Sound.step {f : Followed} (sound : f.Sound) (event : SessionEvent) :
    (f.step event).Sound := by
  cases event with
  | call call =>
    have carried := Session.carried_perform sound.settled call
    obtain ⟨fits, accounts⟩ := carried.accounts sound.fits sound.accounts
    exact ⟨carried.settled, fits, accounts⟩
  | world change =>
    refine ⟨?_, sound.fits, sound.accounts⟩
    rcases sound.settled with ⟨held, state⟩ | ⟨vacant, state⟩
    · exact .inl ⟨by simpa [Followed.step] using held, state⟩
    · exact .inr ⟨by simp [Followed.step, vacant], state⟩

theorem Sound.run {f : Followed} (sound : f.Sound) (events : List SessionEvent) :
    (events.foldl Followed.step f).Sound := by
  induction events generalizing f with
  | nil => exact sound
  | cons event rest ih => exact ih (sound.step event)

/-- Over every run the stored records account for what was accepted and delivered, and every call's
delivery pass keeps to its order and leaves no record waiting when a task starts. -/
theorem records_accounted (config : SessionConfig) (events : List SessionEvent) :
    let f := run config events
    f.session.configs.Accounts f.history ∧ ∀ call,
      let after := (f.session.perform call).2
      (match f.session.passRecords? call with
        | some begun => DeliveryPass ([.prep, .rc, .codec, .sei].filter begun.pending.has) begun
            (f.session.recordAttempts call) after.configs
        | none => f.session.recordAttempts call = [] ∧ after.configs = f.session.configs) ∧
      (∀ a ∈ f.session.attempts call, a.primitive.kind? = some .start → a.pending = {}) ∧
      Session.Leaves { f.session with channel := f.session.line call } (f.session.attempts call)
        after := by
  have sound := (sound_start config).run events
  rw [← run] at sound
  refine ⟨sound.accounts, fun call => ?_⟩
  have carried := Session.carried_perform sound.settled call
  refine ⟨?_, fun a member starts => Session.pending_start member starts, carried.leaves⟩
  have configs := carried.configs
  have records := Session.recordAttempts_eq call (run config events).session
  rw [← Session.delivering_records sound.fits call]
  cases begins : (run config events).session.delivering? call with
  | none =>
    rw [begins] at configs records
    exact ⟨records, configs⟩
  | some begun =>
    rw [begins] at configs records
    dsimp only [Option.map_some]
    rw [records, configs]
    exact begun.deliver_pass begun.configs.pending.toList

end Followed

end CodecLink
