import CodecLink.Proofs.Record.Transmission
import CodecLink.Proofs.Session.CallOrder
import CodecLink.Proofs.Session.Refusals

/-! The geometry that a session writes. A request is checked by itself and may then be joined to a
record that waits; what waits is valid all the same, so that nothing is written that is not. -/
namespace CodecLink

namespace Prep

theorem names_merge (old new : Prep) (bit : Nat) :
    (old.merge new).names bit = (old.names bit || new.names bit) := by
  simp [merge, names]

/-- The geometry of joined records is all of the newer one if that names it, else all of the
older. -/
theorem bounds_merge (old new : Prep) (codec : Codec) :
    (old.merge new).bounds codec =
      if new.names inputBit then new.bounds codec else old.bounds codec := by
  cases named : new.names inputBit <;> cases codec <;> simp [merge, bounds, named]

/-- Joined requests need no check of their own. -/
theorem validate_merge {old new : Prep} {backend : Backend}
    (older : old.validate backend = .ok ()) (newer : new.validate backend = .ok ()) :
    (old.merge new).validate backend = .ok () := by
  rw [validate, names_merge, bounds_merge]
  cases named : new.names inputBit with
  | true =>
    rw [validate, named] at newer
    simpa using newer
  | false =>
    rw [validate] at older
    simpa using older

end Prep

namespace ConfigSet

variable {set after : ConfigSet} {backend : Backend}

/-- A record of geometry that waits is valid. -/
def InBounds (set : ConfigSet) (backend : Backend) : Prop :=
  set.pending.has .prep = true → set.prep.validate backend = .ok ()

theorem InBounds.record {request : ConfigRequest} (inside : set.InBounds backend)
    (valid : Session.validate request backend = .ok ())
    (recorded : set.record request = .ok after) : after.InBounds backend := by
  obtain ⟨pending, -, stored⟩ := record_ok recorded
  intro waits
  have own := stored .prep
  cases request with
  | prep new =>
    cases before : set.pending.has .prep with
    | true =>
      have joined : after.prep = set.prep.merge new := by
        simpa [ConfigSet.stored, ConfigRequest.kind, ConfigRequest.join, before] using own
      rw [joined]
      exact Prep.validate_merge (inside before) valid
    | false =>
      have replaced : after.prep = new := by
        simpa [ConfigSet.stored, ConfigRequest.kind, before] using own
      rw [replaced]
      exact valid
  | rc new | codec new | sei mode =>
    have kept : after.prep = set.prep := by
      simpa [ConfigSet.stored, ConfigRequest.kind] using own
    have before : set.pending.has .prep = true := by
      simpa [pending, RecordSet.insert, ConfigRequest.kind] using waits
    rw [kept]
    exact inside before

end ConfigSet

/-- A primitive that carries geometry carries such as the backend allows. -/
def Primitive.GeometryValid (backend : Backend) (p : Primitive) : Prop :=
  p.kind? = some .controlPrep → ∃ r, Prep.decode p.payload = .ok r ∧ r.validate backend = .ok ()

theorem DeliveryPass.inBounds {kinds : List RecordKind} {before after : ConfigSet}
    {attempts : List Attempt} {backend : Backend} (pass : DeliveryPass kinds before attempts after)
    (inside : before.InBounds backend) : after.InBounds backend := by
  intro waits
  have same := congrFun pass.stored .prep
  have kept : after.prep = before.prep := ConfigRequest.prep.inj same
  rw [pass.left, Bool.and_eq_true] at waits
  rw [kept]
  exact inside waits.1

namespace Session

variable {s : Session} {call : SessionCall}

/-- A delivery pass sends the records that wait, and these are valid. -/
theorem geometry_of_deliveries (inside : s.configs.InBounds s.config.backend) :
    ∀ a ∈ s.deliveries s.configs.pending.toList, a.primitive.GeometryValid s.config.backend := by
  intro a member carries
  obtain ⟨done, ⟨rest, whole⟩, primitives⟩ := (s.deliver_pass s.configs.pending.toList).order
  have sent := List.mem_map_of_mem (f := (·.primitive)) member
  rw [primitives] at sent
  obtain ⟨kind, delivered, same⟩ := List.mem_map.1 sent
  rw [← same] at carries ⊢
  have known : (Primitive.of kind.primitive (s.configs.stored kind).encode).kind? =
    some kind.primitive := PrimitiveCode.ofWire?_wire _
  have waits : s.configs.pending.has kind = true :=
    RecordSet.mem_toList.1 (whole ▸ List.mem_append_left rest delivered)
  obtain rfl : kind = .prep := by
    rw [known] at carries
    cases kind <;> first | rfl | cases carries
  exact ⟨s.configs.prep, s.configs.prep.decode_encode, inside waits⟩

/-- The records that a call's delivery pass starts from, if there is one, are the session's or take
in a request that is valid. -/
theorem inBounds_delivering {begun : Session} (begins : s.delivering? call = some begun)
    (inside : s.configs.InBounds s.config.backend) :
    begun.config = s.config ∧ begun.configs.InBounds s.config.backend := by
  cases call with
  | control request =>
    obtain ⟨-, -, kept, configs, recorded, rfl⟩ := recorded_some begins
    refine ⟨rfl, inside.record ?_ recorded⟩
    rw [recordRequest] at kept
    split at kept
    · cases kept
    · assumption
  | start input =>
    rw [delivering?] at begins
    split at begins
    · cases begins
      exact ⟨rfl, inside⟩
    · cases begins
  | _ => cases begins

theorem geometry_of_attempts (inside : s.configs.InBounds s.config.backend) :
    ∀ a ∈ s.attempts call, a.primitive.GeometryValid s.config.backend := by
  intro a member carries
  have record : a ∈ s.recordAttempts call := by
    refine List.mem_filter.2 ⟨member, ?_⟩
    rw [Attempt.kind?, carries]
    rfl
  rw [recordAttempts_eq] at record
  cases begins : s.delivering? call with
  | none =>
    rw [begins] at record
    cases record
  | some begun =>
    rw [begins] at record
    obtain ⟨config, within⟩ := inBounds_delivering begins inside
    rw [← config] at within ⊢
    exact geometry_of_deliveries within a record carries

theorem Carried.inBounds {after : Session} (carried : Carried call s after)
    (inside : s.configs.InBounds s.config.backend) : after.configs.InBounds s.config.backend := by
  rw [carried.configs]
  cases begins : s.delivering? call with
  | none => exact inside
  | some begun =>
    obtain ⟨-, within⟩ := inBounds_delivering begins inside
    exact (begun.deliver_pass begun.configs.pending.toList).inBounds within

end Session

namespace Traffic

/-- What waits in a session and what was attempted on its channels is valid. -/
structure InBounds (config : SessionConfig) (t : Traffic) : Prop where
  same : t.session.config = config
  waiting : t.session.configs.InBounds config.backend
  lines : ∀ line ∈ t.lines, ∀ a ∈ line.attempts, a.primitive.GeometryValid config.backend

theorem InBounds.step {config : SessionConfig} {t : Traffic} (sound : t.Sound)
    (inside : t.InBounds config) (event : SessionEvent) : (t.step event).InBounds config := by
  obtain ⟨rfl, waiting, lines⟩ := inside
  cases event with
  | world change => exact ⟨rfl, waiting, lines⟩
  | call call =>
    have carried := Session.carried_perform sound.settled call
    refine ⟨carried.config, carried.inBounds waiting, fun line member => ?_⟩
    have now : ∀ a ∈ (told call t.session).attempts,
        a.primitive.GeometryValid t.session.config.backend := Session.geometry_of_attempts waiting
    rw [Traffic.step] at member
    dsimp only at member
    -- A call that opens a channel begins a line of its own, any other goes on with the latest.
    split at member
    · rcases List.mem_cons.1 member with rfl | older
      · exact now
      · exact lines line older
    · cases held : t.lines with
      | nil =>
        rw [held] at member
        cases member
      | cons current others =>
        rw [held] at lines member
        rcases List.mem_cons.1 member with rfl | older
        · exact List.forall_mem_append.2 ⟨lines current (by simp), now⟩
        · exact lines line (List.mem_cons_of_mem _ older)

theorem InBounds.run {config : SessionConfig} {t : Traffic} (sound : t.Sound)
    (inside : t.InBounds config) (events : List SessionEvent) :
    (events.foldl Traffic.step t).InBounds config := by
  induction events generalizing t with
  | nil => exact inside
  | cons event rest ih => exact ih (sound.step event) (inside.step sound event)

theorem inBounds_start (config : SessionConfig) :
    InBounds config { session := .ofConfig config } where
  same := rfl
  waiting waits := by cases waits
  lines _ member := by cases member

/-- Whatever is requested and whatever becomes of the channels, each record of geometry that a
session attempts to send is one that its backend allows, and no other is on its channels. A request
that ends in an error, unless of the channel, leaves the session as it was, and one for geometry
that is not allowed ends so. -/
theorem written_geometry_in_bounds (config : SessionConfig) (events : List SessionEvent) :
    let t := run config events
    (∀ line ∈ t.lines, Attempt.Wrote line.attempts line.bytes ∧
        Frame.whole line.bytes <+: line.attempts.map (·.primitive) ∧
        ∀ a ∈ line.attempts, a.primitive.GeometryValid config.backend) ∧
      (∀ request error, (t.session.control request).1 = .error error →
        (∀ e, error ≠ .connection e) → (t.session.control request).2 = t.session) ∧
      ∀ r error, t.session.state ∈ [.connected, .configured] →
        config.backend.accepted.has .prep = true → r.validate config.backend = .error error →
          t.session.control (.prep r) = (.error (.invalidConfig error), t.session) := by
  intro t
  have sound : t.Sound := (sound_start config).run events
  have inside : t.InBounds config := (inBounds_start config).run (sound_start config) events
  refine ⟨fun line member => ?_, fun request error failed other => ?_,
    fun r error state taken invalid => ?_⟩
  · have order := lines_in_order config events line member
    exact ⟨order.wrote, order.attempted, inside.lines line member⟩
  · have conclusion := Session.conclusion_control sound.settled request
    generalize t.session.control request = answer at conclusion failed ⊢
    cases conclusion with
    | refused _ _ | invalid _ _ _ _ => rfl
    | ignored _ _ _ | through _ _ _ _ => cases failed
    | unopened _ _ _ _ | lost _ _ _ _ _ _ =>
      cases failed
      exact absurd rfl (other _)
  · have allowed : t.session.require "control" [.connected, .configured] = .ok () := if_pos state
    rw [← inside.same] at taken invalid
    have refused : Session.validate (.prep r) t.session.config.backend = .error error := invalid
    rw [Session.control, allowed]
    simp [ConfigRequest.kind, taken, Session.recordRequest, refused]

end Traffic

end CodecLink
