import Mathlib.Data.List.Basic
import CodecLink.Proofs.Endpoint.LawfulTree

/-! Endpoints that are bound, dropped and abandoned one after another, while anyone else makes,
replaces and removes files. An endpoint knows its socket by the identity that the file had when it
was bound. Another file may get this identity at some time, but not as long as the endpoint is
there. -/
namespace CodecLink

namespace Rendezvous

variable {σ : Type} {fs : FileSystem σ} {path : String} {mode : Nat} {t before after : σ}

/-- Nothing is cleared away but a socket at the path. -/
theorem clearIn_ok (lawful : fs.Lawful) (done : clearIn fs path before = .ok after) :
    after = before ∨ ∃ place status, fs.resolve path before = .ok place ∧
      fs.get? place before = some status ∧ status.isSocket = true ∧
      ∀ other ≠ place, fs.get? other after = fs.get? other before := by
  rw [clearIn] at done
  cases looked : fs.status path before with
  | error fault =>
    rw [looked] at done
    exact .inl (Except.ok.inj done).symm
  | ok status =>
    obtain ⟨place, led, found⟩ := FileSystem.status_eq_ok.1 looked
    rw [looked] at done
    dsimp only at done
    split at done
    · rename_i socket
      exact .inr ⟨place, status, led, found, socket, (lawful.unlinked led done).2⟩
    · cases done

theorem openIn_keeps (lawful : fs.Lawful) {place : fs.Place} {status : FileStatus}
    (found : fs.get? place t = some status) :
    fs.get? place (openIn fs path mode t).2 = some status := by
  rw [openIn]
  cases done : fs.bindSocket path t with
  | error fault => exact found
  | ok made =>
    obtain ⟨own, identity, vacant, -, -, others⟩ := lawful.made done
    have apart : place ≠ own := by
      rintro rfl
      cases found.symm.trans vacant
    have kept : fs.get? place made = some status := (others place apart).trans found
    dsimp only
    cases set : fs.setMode path mode made with
    | error fault => exact kept
    | ok opened => exact ((lawful.modeSet set).1 place).trans kept

/-- The socket that was made is the one that stands at the path in the end. -/
theorem openIn_ok (lawful : fs.Lawful) {identity : FileId}
    (opened : (openIn fs path mode t).1 = .ok identity) :
    ∃ made, fs.bindSocket path t = .ok made ∧ fs.status path made = .ok ⟨true, identity⟩ ∧
      fs.status path (openIn fs path mode t).2 = .ok ⟨true, identity⟩ := by
  rw [openIn] at opened ⊢
  cases done : fs.bindSocket path t with
  | error fault =>
    rw [done] at opened
    cases opened
  | ok made =>
    obtain ⟨place, own, -, led, found, -⟩ := lawful.made done
    rw [done] at opened
    dsimp only at opened ⊢
    cases set : fs.setMode path mode made with
    | error fault =>
      rw [set] at opened
      cases opened
    | ok last =>
      obtain ⟨same, leads⟩ := lawful.modeSet set
      have status : fs.status path last = .ok ⟨true, own⟩ :=
        FileSystem.status_eq_ok.2 ⟨place, leads place led, (same place).trans found⟩
      rw [set] at opened
      dsimp only at opened ⊢
      rw [status] at opened
      cases opened
      exact ⟨made, rfl, FileSystem.status_eq_ok.2 ⟨place, led, found⟩, status⟩

/-- Binding takes away nothing but a socket at the path. -/
theorem bindIn_spares (lawful : fs.Lawful) (path : String) (mode : Nat) {place : fs.Place}
    {status : FileStatus} (found : fs.get? place t = some status) :
    fs.get? place (bindIn fs path mode t).2 = some status ∨
      status.isSocket = true ∧ fs.resolve path t = .ok place := by
  rw [bindIn]
  cases checkPath path with
  | error error => exact .inl found
  | ok _ =>
    dsimp only
    cases done : clearIn fs path t with
    | error fault => exact .inl found
    | ok cleared =>
      obtain rfl | ⟨own, other, led, stood, socket, others⟩ := clearIn_ok lawful done
      · exact .inl (openIn_keeps lawful found)
      · by_cases same : place = own
        · subst same
          cases stood.symm.trans found
          exact .inr ⟨socket, led⟩
        · exact .inl (openIn_keeps lawful ((others place same).trans found))

theorem bindIn_occupied (short : path.utf8ByteSize < maxPath) {status : FileStatus}
    (looked : fs.status path t = .ok status) (other : status.isSocket = false) (mode : Nat) :
    bindIn fs path mode t = (.error (.bind path .notASocket), t) := by
  have checked : checkPath path = .ok () := if_neg (Nat.not_le.2 short)
  have refused : clearIn fs path t = .error .notASocket := by
    rw [clearIn, looked]
    exact if_neg (ne_true_of_eq_false other)
  rw [bindIn, checked, refused]

theorem bindIn_ok (lawful : fs.Lawful) {r : Rendezvous}
    (bound : (bindIn fs path mode t).1 = .ok r) :
    r.path = path ∧ ∃ cleared made, clearIn fs path t = .ok cleared ∧
      fs.bindSocket path cleared = .ok made ∧ fs.status path made = .ok ⟨true, r.identity⟩ ∧
      fs.status path (bindIn fs path mode t).2 = .ok ⟨true, r.identity⟩ := by
  rw [bindIn] at bound ⊢
  cases checked : checkPath path with
  | error error =>
    rw [checked] at bound
    cases bound
  | ok _ =>
    rw [checked] at bound
    dsimp only at bound ⊢
    cases done : clearIn fs path t with
    | error fault =>
      rw [done] at bound
      cases bound
    | ok cleared =>
      rw [done] at bound
      dsimp only at bound ⊢
      cases opened : (openIn fs path mode cleared).1 with
      | error fault =>
        rw [opened] at bound
        cases bound
      | ok identity =>
        rw [opened] at bound
        cases bound
        obtain ⟨made, bound, fresh, last⟩ := openIn_ok lawful opened
        exact ⟨rfl, cleared, made, rfl, bound, fresh, last⟩

theorem releaseIn_mine {r : Rendezvous} (looked : fs.status r.path t = .ok ⟨true, r.identity⟩) :
    releaseIn fs r t = (fs.unlink r.path t).toOption.getD t := by
  rw [releaseIn, looked]
  simp only [Bool.true_and, decide_true, if_true]

variable (fs) in
/-- Nothing is touched, or the endpoint's socket stands at the path and is removed. -/
theorem releaseIn_cases (r : Rendezvous) (t : σ) :
    releaseIn fs r t = t ∨ ∃ place, fs.resolve r.path t = .ok place ∧
      fs.get? place t = some ⟨true, r.identity⟩ ∧
      fs.unlink r.path t = .ok (releaseIn fs r t) := by
  cases looked : fs.status r.path t with
  | error fault => exact .inl (by rw [releaseIn, looked])
  | ok status =>
    by_cases mine : status = ⟨true, r.identity⟩
    · subst mine
      rw [releaseIn_mine looked]
      obtain ⟨place, led, found⟩ := FileSystem.status_eq_ok.1 looked
      cases done : fs.unlink r.path t with
      | error fault => exact .inl rfl
      | ok after => exact .inr ⟨place, led, found, rfl⟩
    · refine .inl ?_
      rw [releaseIn, looked]
      refine if_neg fun same => mine ?_
      obtain ⟨socket, identity⟩ := status
      obtain ⟨rfl, rfl⟩ : socket = true ∧ identity = r.identity := by simpa using same
      rfl

end Rendezvous

/-- An endpoint that was bound, and which of the files of its identity its socket is. -/
structure Owner where
  socket : Rendezvous
  generation : Nat
  deriving DecidableEq, Repr

/-- Files and the endpoints that are neither dropped nor abandoned. The generation of an identity
tells which of the files that get it one after another has it now. -/
structure Ownership (σ : Type) where
  files : σ
  owners : List Owner := []
  generation : FileId → Nat

/-- Whatever changes the files may pass identities on to other files. -/
inductive OwnershipEvent (σ : Type)
  | bind (path : String) (mode : Nat) (generation : FileId → Nat)
  | drop (n : Nat)
  /-- The endpoint is gone, but not its socket file. -/
  | abandon (n : Nat)
  | outside (files : σ) (generation : FileId → Nat)

/-- The socket file, told from all others that have its identity before or later. -/
def Owner.file (owner : Owner) : FileId × Nat := (owner.socket.identity, owner.generation)

namespace Ownership

open Rendezvous

variable {σ : Type} (fs : FileSystem σ)

def file (w : Ownership σ) (status : FileStatus) : FileId × Nat :=
  (status.identity, w.generation status.identity)

def step (w : Ownership σ) : OwnershipEvent σ → Ownership σ
  | .bind path mode generation =>
    let (bound, files) := bindIn fs path mode w.files
    match bound with
    | .error _ => { w with files, generation }
    | .ok socket =>
      { files, owners := w.owners ++ [⟨socket, generation socket.identity⟩], generation }
  | .drop n =>
    match w.owners[n]? with
    | none => w
    | some owner =>
      { w with files := releaseIn fs owner.socket w.files, owners := w.owners.eraseIdx n }
  | .abandon n => { w with owners := w.owners.eraseIdx n }
  | .outside files generation => { w with files, generation }

/-- The identity of a file is not passed on as long as the file has an owner. -/
def Keeps (w : Ownership σ) (generation : FileId → Nat) : Prop :=
  ∀ owner ∈ w.owners, generation owner.socket.identity = w.generation owner.socket.identity

/-- A socket that is made on the way of a bind is a new file. -/
def MakesNew (w : Ownership σ) (path : String) (generation : FileId → Nat) : Prop :=
  ∀ cleared made status, clearIn fs path w.files = .ok cleared →
    fs.bindSocket path cleared = .ok made → fs.status path made = .ok status →
    generation status.identity ≠ w.generation status.identity

def Allows (w : Ownership σ) : OwnershipEvent σ → Prop
  | .bind path _ generation => w.Keeps generation ∧ w.MakesNew fs path generation
  | .drop _ | .abandon _ => True
  | .outside _ generation => w.Keeps generation

/-- States that come about from files without owners. -/
inductive Reached : Ownership σ → Prop
  | start (files : σ) (generation : FileId → Nat) : Reached { files, generation }
  | step {w : Ownership σ} (reached : Reached w) {event : OwnershipEvent σ}
      (allowed : w.Allows fs event) : Reached (w.step fs event)

/-- The identity of an owner is still that of its file, and no two owners have the same. -/
structure Sound (w : Ownership σ) : Prop where
  current : ∀ owner ∈ w.owners, w.generation owner.socket.identity = owner.generation
  distinct : w.owners.Pairwise fun a b => a.socket.identity ≠ b.socket.identity

variable {fs} {w : Ownership σ}

/-- A new socket is none that has an owner. -/
theorem fresh_of_bound (lawful : fs.Lawful) {path : String} {mode : Nat} {generation : FileId → Nat}
    (new : w.MakesNew fs path generation) {r : Rendezvous}
    (bound : (bindIn fs path mode w.files).1 = .ok r) :
    generation r.identity ≠ w.generation r.identity := by
  obtain ⟨-, cleared, made, done, bound, status, -⟩ := bindIn_ok lawful bound
  exact new cleared made _ done bound status

theorem Keeps.apart {generation : FileId → Nat} (keeps : w.Keeps generation) {identity : FileId}
    (fresh : generation identity ≠ w.generation identity) {owner : Owner}
    (member : owner ∈ w.owners) : owner.socket.identity ≠ identity := by
  rintro rfl
  exact fresh (keeps owner member)

theorem step_refused {path : String} {mode : Nat} {generation : FileId → Nat}
    {error : EndpointError} (refused : (bindIn fs path mode w.files).1 = .error error) :
    w.step fs (.bind path mode generation) =
      { w with files := (bindIn fs path mode w.files).2, generation } := by
  rw [step]
  dsimp only
  rw [refused]

theorem step_bound {path : String} {mode : Nat} {generation : FileId → Nat} {r : Rendezvous}
    (bound : (bindIn fs path mode w.files).1 = .ok r) :
    w.step fs (.bind path mode generation) =
      ⟨(bindIn fs path mode w.files).2, w.owners ++ [⟨r, generation r.identity⟩], generation⟩ := by
  rw [step]
  dsimp only
  rw [bound]

theorem files_bind (path : String) (mode : Nat) (generation : FileId → Nat) :
    (w.step fs (.bind path mode generation)).files = (bindIn fs path mode w.files).2 := by
  cases bound : (bindIn fs path mode w.files).1 with
  | error error => rw [step_refused bound]
  | ok r => rw [step_bound bound]

theorem step_drop {n : Nat} {owner : Owner} (held : w.owners[n]? = some owner) :
    w.step fs (.drop n) =
      { w with files := releaseIn fs owner.socket w.files, owners := w.owners.eraseIdx n } := by
  rw [step, held]

theorem Sound.renew (sound : w.Sound) {generation : FileId → Nat} (keeps : w.Keeps generation)
    (files : σ) : Sound { w with files, generation } :=
  ⟨fun owner member => (keeps owner member).trans (sound.current owner member), sound.distinct⟩

theorem Sound.erase (sound : w.Sound) (n : Nat) (files : σ) :
    Sound { w with files, owners := w.owners.eraseIdx n } :=
  ⟨fun owner member => sound.current owner (List.mem_of_mem_eraseIdx member),
    sound.distinct.sublist (List.eraseIdx_sublist _ _)⟩

theorem Sound.append (sound : w.Sound) (files : σ) {r : Rendezvous}
    (apart : ∀ owner ∈ w.owners, owner.socket.identity ≠ r.identity) :
    Sound { w with files, owners := w.owners ++ [⟨r, w.generation r.identity⟩] } := by
  refine ⟨fun owner member => ?_, List.pairwise_append.2
    ⟨sound.distinct, List.pairwise_singleton _ _, fun owner member last among => ?_⟩⟩
  · rcases List.mem_append.1 member with old | new
    · exact sound.current owner old
    · cases List.mem_singleton.1 new
      rfl
  · cases List.mem_singleton.1 among
    exact apart owner member

theorem Sound.step (lawful : fs.Lawful) (sound : w.Sound) {event : OwnershipEvent σ}
    (allowed : w.Allows fs event) : (w.step fs event).Sound := by
  cases event with
  | bind path mode generation =>
    obtain ⟨keeps, new⟩ := allowed
    have renewed := sound.renew keeps (bindIn fs path mode w.files).2
    cases bound : (bindIn fs path mode w.files).1 with
    | error error => rwa [step_refused bound]
    | ok r =>
      have fresh := fresh_of_bound lawful new bound
      rw [step_bound bound]
      exact renewed.append _ fun owner member => keeps.apart fresh member
  | drop n =>
    cases held : w.owners[n]? with
    | none =>
      rw [Ownership.step, held]
      exact sound
    | some owner =>
      rw [step_drop held]
      exact sound.erase n _
  | abandon n => exact sound.erase n w.files
  | outside files generation => exact sound.renew allowed files

theorem Reached.sound (lawful : fs.Lawful) (reached : w.Reached fs) : w.Sound := by
  induction reached with
  | start files generation => exact ⟨nofun, .nil⟩
  | step _ allowed ih => exact ih.step lawful allowed

theorem Sound.alone (sound : w.Sound) {n : Nat} {owner other : Owner}
    (held : w.owners[n]? = some owner) (member : other ∈ w.owners.eraseIdx n) :
    other.socket.identity ≠ owner.socket.identity := by
  obtain ⟨i, apart, found⟩ := List.mem_eraseIdx_iff_getElem?.1 member
  obtain ⟨hn, rfl⟩ := List.getElem?_eq_some_iff.1 held
  obtain ⟨hi, rfl⟩ := List.getElem?_eq_some_iff.1 found
  have distinct := List.pairwise_iff_getElem.1 sound.distinct
  rcases Nat.lt_or_gt_of_ne apart with before | after
  · exact distinct i n hi hn before
  · exact (distinct n i hn hi after).symm

/-- What a bind does to the files. -/
structure SafeBind (fs : FileSystem σ) (w : Ownership σ) (path : String) (mode : Nat)
    (generation : FileId → Nat) (next : Ownership σ) : Prop where
  /-- Nothing is removed but a socket at the path. -/
  spared : ∀ place status, fs.get? place w.files = some status →
    fs.get? place next.files = some status ∨
      status.isSocket = true ∧ fs.resolve path w.files = .ok place
  refused : ∀ status, path.utf8ByteSize < maxPath → fs.status path w.files = .ok status →
    status.isSocket = false →
    (bindIn fs path mode w.files).1 = .error (.bind path .notASocket) ∧ next.files = w.files
  /-- The socket at the path is a file that was not there before, and none that has an owner. -/
  bound : ∀ r, (bindIn fs path mode w.files).1 = .ok r →
    r.path = path ∧ fs.status path next.files = .ok ⟨true, r.identity⟩ ∧
      generation r.identity ≠ w.generation r.identity ∧
      ∀ owner ∈ w.owners, owner.socket.identity ≠ r.identity
  /-- It is the file that the new endpoint owns. -/
  owned : ∀ r, (bindIn fs path mode w.files).1 = .ok r →
    ∃ owner, next.owners = w.owners ++ [owner] ∧ owner.socket = r ∧
      next.file ⟨true, r.identity⟩ = owner.file

/-- What becomes of the files when an owner lets go of its socket. The file system may refuse to
remove it, which the owner does not look at. -/
structure ExactDrop (fs : FileSystem σ) (w : Ownership σ) (owner : Owner) (next : Ownership σ) :
    Prop where
  removed_iff : ∀ place status, fs.resolve owner.socket.path w.files = .ok place →
    fs.get? place w.files = some status →
    (fs.get? place next.files = none ↔
      (status.isSocket = true ∧ w.file status = owner.file) ∧
        ∃ after, fs.unlink owner.socket.path w.files = .ok after)
  kept : ∀ place, fs.get? place next.files = fs.get? place w.files ∨
    fs.resolve owner.socket.path w.files = .ok place ∧ fs.get? place next.files = none
  others : ∀ other ∈ next.owners, ∀ place status, fs.get? place w.files = some status →
    w.file status = other.file → fs.get? place next.files = some status

theorem safeBind (lawful : fs.Lawful) {path : String} {mode : Nat} {generation : FileId → Nat}
    (allowed : w.Allows fs (.bind path mode generation)) :
    SafeBind fs w path mode generation (w.step fs (.bind path mode generation)) := by
  obtain ⟨keeps, new⟩ := allowed
  refine ⟨fun place status found => ?_, fun status short looked other => ?_, fun r bound => ?_,
    fun r bound => ?_⟩
  · rw [files_bind]
    exact bindIn_spares lawful path mode found
  · rw [files_bind, bindIn_occupied short looked other]
    exact ⟨rfl, rfl⟩
  · have fresh := fresh_of_bound lawful new bound
    obtain ⟨own, _, _, _, _, _, status⟩ := bindIn_ok lawful bound
    rw [files_bind]
    exact ⟨own, status, fresh, fun owner member => keeps.apart fresh member⟩
  · rw [step_bound bound]
    exact ⟨_, rfl, rfl, rfl⟩

theorem Sound.exactDrop (lawful : fs.Lawful) (sound : w.Sound) {n : Nat} {owner : Owner}
    (held : w.owners[n]? = some owner) : ExactDrop fs w owner (w.step fs (.drop n)) := by
  have own : w.file ⟨true, owner.socket.identity⟩ = owner.file :=
    congrArg (owner.socket.identity, ·) (sound.current owner (List.mem_of_getElem? held))
  have outcome := releaseIn_cases fs owner.socket w.files
  rw [step_drop held]
  refine ⟨fun place status led found => ⟨fun gone => ?_, fun ⟨⟨socket, same⟩, after, done⟩ => ?_⟩,
    fun place => ?_, fun other among place status found same => ?_⟩
  · rcases outcome with unchanged | ⟨mine, leads, stood, done⟩
    · rw [unchanged] at gone
      cases gone.symm.trans found
    · cases led.symm.trans leads
      cases found.symm.trans stood
      exact ⟨⟨rfl, own⟩, _, done⟩
  · obtain ⟨isSocket, identity⟩ := status
    obtain ⟨rfl, -⟩ := Prod.mk.inj same
    cases socket
    dsimp only
    rw [releaseIn_mine (FileSystem.status_eq_ok.2 ⟨place, led, found⟩), done]
    exact (lawful.unlinked led done).1
  · rcases outcome with unchanged | ⟨mine, leads, -, done⟩
    · exact .inl (congrArg _ unchanged)
    · by_cases same : place = mine
      · subst same
        exact .inr ⟨leads, (lawful.unlinked leads done).1⟩
      · exact .inl ((lawful.unlinked leads done).2 place same)
  · rcases outcome with unchanged | ⟨mine, leads, stood, done⟩
    · exact (congrArg _ unchanged).trans found
    · have apart : place ≠ mine := by
        rintro rfl
        cases found.symm.trans stood
        exact sound.alone held among (Prod.mk.inj same).1.symm
      exact ((lawful.unlinked leads done).2 place apart).trans found

open FileTree in
/-- A file tree gives a new socket the next number. -/
theorem makesNew_tree {w : Ownership FileTree} {generation : FileId → Nat} (path : String)
    (passed : generation (.ofSocket w.files.nextIdentity) ≠
      w.generation (.ofSocket w.files.nextIdentity)) :
    w.MakesNew fileSystem path generation := by
  intro cleared made status done bound looked
  have numbered : cleared.nextIdentity = w.files.nextIdentity := by
    obtain rfl | ⟨place, _, _, _, _, _, rfl⟩ := clearIn_tree done <;> rfl
  obtain ⟨place, nul, led, found⟩ := made_socket bound
  have stands : fileSystem.status path made = .ok ⟨true, .ofSocket cleared.nextIdentity⟩ :=
    FileSystem.status_eq_ok.2 ⟨place, resolve_eq_ok.2 ⟨nul, led⟩,
      congrArg (Option.map Entry.status) found⟩
  cases stands.symm.trans looked
  rwa [numbered]

/-- In every file system in which a file keeps its identity to itself as long as it has an owner,
whatever is bound, dropped, abandoned and changed from outside: a bind removes nothing but a socket,
and where it goes through, the path holds the socket that it made; a drop removes the file at its
path if and only if it is the one that was made for the owner and the file system lets it be
removed. -/
theorem socket_ownership (lawful : fs.Lawful) (reached : w.Reached fs) :
    Fault.notASocket.kind = .alreadyExists ∧
      (∀ path mode generation, w.Allows fs (.bind path mode generation) →
        SafeBind fs w path mode generation (w.step fs (.bind path mode generation))) ∧
      ∀ n owner, w.owners[n]? = some owner → ExactDrop fs w owner (w.step fs (.drop n)) :=
  ⟨rfl, fun _ _ _ allowed => safeBind lawful allowed,
    fun _ _ held => (reached.sound lawful).exactDrop lawful held⟩

open FileTree in
/-- A stale socket is replaced by one that gets the same number, and this one by another. -/
theorem socket_ownership_after_reuse :
    let count (generations : List Nat) (id : FileId) : Nat := generations.getD id.inode 0
    let start : Ownership FileTree := ⟨{}, [], count []⟩
    let first := start.step fileSystem (.bind "s" 0o660 (count [0, 1]))
    let stale := first.step fileSystem (.abandon 0)
    let renumbered := stale.step fileSystem
      (.outside { stale.files with nextIdentity := 1 } (count [0, 1]))
    let second := renumbered.step fileSystem (.bind "s" 0o660 (count [0, 2]))
    let third := second.step fileSystem (.bind "s" 0o660 (count [0, 2, 1]))
    let earlier : Owner := ⟨⟨"s", .ofSocket 1⟩, 2⟩
    let later : Owner := ⟨⟨"s", .ofSocket 2⟩, 1⟩
    fileSystem.Lawful ∧ third.Reached fileSystem ∧ third.owners = [earlier, later] ∧
      second.Allows fileSystem (.bind "s" 0o660 (count [0, 2, 1])) ∧
      fileSystem.status "s" third.files = .ok ⟨true, .ofSocket 2⟩ ∧
      fileSystem.get? ["s"] (third.step fileSystem (.drop 0)).files = some ⟨true, .ofSocket 2⟩ ∧
      fileSystem.get? ["s"] (third.step fileSystem (.drop 1)).files = none := by
  intro count start first stale renumbered second third earlier later
  have opens : start.Allows fileSystem (.bind "s" 0o660 (count [0, 1])) :=
    ⟨nofun, makesNew_tree "s" (by decide +kernel)⟩
  have replaces : renumbered.Allows fileSystem (.bind "s" 0o660 (count [0, 2])) :=
    ⟨nofun, makesNew_tree "s" (by decide +kernel)⟩
  have held : second.owners = [earlier] := by decide +kernel
  have keeps : second.Keeps (count [0, 2, 1]) := by
    intro owner member
    rw [held] at member
    cases List.mem_singleton.1 member
    rfl
  have again : second.Allows fileSystem (.bind "s" 0o660 (count [0, 2, 1])) :=
    ⟨keeps, makesNew_tree "s" (by decide +kernel)⟩
  have before : second.Reached fileSystem := by
    have bound : first.Reached fileSystem := .step (.start _ _) opens
    have abandoned : first.Allows fileSystem (.abandon 0) := trivial
    have passed : stale.Allows fileSystem
        (.outside { stale.files with nextIdentity := 1 } (count [0, 1])) := nofun
    exact ((bound.step abandoned).step passed).step replaces
  have reached : third.Reached fileSystem := .step before again
  have owners : third.owners = [earlier, later] := by decide +kernel
  have led : fileSystem.resolve "s" third.files = .ok ["s"] :=
    resolve_eq_ok.2 ⟨by decide +kernel, by decide +kernel⟩
  obtain ⟨-, binds, -⟩ := socket_ownership lawful_fileSystem before
  obtain ⟨-, -, bound, -⟩ := binds "s" 0o660 _ again
  obtain ⟨-, status, -⟩ := bound later.socket (by decide +kernel)
  obtain ⟨place, same, found⟩ := FileSystem.status_eq_ok.1 status
  cases led.symm.trans same
  obtain ⟨-, -, drops⟩ := socket_ownership lawful_fileSystem reached
  have kept := (drops 0 earlier (by rw [owners]; rfl)).others later (by decide +kernel)
  have removed := (drops 1 later (by rw [owners]; rfl)).removed_iff ["s"] _ led found
  refine ⟨lawful_fileSystem, reached, owners, again, status, ?_, ?_⟩
  · exact kept ["s"] _ found (by decide +kernel)
  · exact removed.2 ⟨⟨rfl, by decide +kernel⟩, removable led found rfl⟩

end Ownership

end CodecLink
