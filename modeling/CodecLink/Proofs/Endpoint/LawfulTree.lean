import CodecLink.Endpoint.Rendezvous

/-! The promises of a file system about socket files, and a file tree that keeps them. Any call may
fail; in a file tree a socket that is found can always be removed. -/
namespace CodecLink

theorem Fault.bind_orNoSuchFile {α β : Type} {led : Except Fault α} {get? : α → Option β}
    {found : β} : (led >>= fun place => orNoSuchFile (get? place)) = .ok found ↔
      ∃ place, led = .ok place ∧ get? place = some found := by
  cases led with
  | error fault => exact iff_of_false nofun nofun
  | ok place =>
    simp only [bind, Except.bind, Except.ok.injEq, exists_eq_left']
    cases get? place with
    | none => exact iff_of_false nofun nofun
    | some own => simp only [orNoSuchFile, Except.ok.injEq, Option.some.injEq]

namespace FileSystem

variable {σ : Type} {fs : FileSystem σ}

theorem status_eq_ok {path : String} {t : σ} {status : FileStatus} :
    fs.status path t = .ok status ↔
      ∃ place, fs.resolve path t = .ok place ∧ fs.get? place t = some status :=
  Fault.bind_orNoSuchFile

/-- What the calls on socket files promise. Only the entry that a path leads to is ever changed, a
new socket takes no other entry's place, and a change of mode leaves every entry what it is. -/
structure Lawful (fs : FileSystem σ) : Prop where
  unlinked {path : String} {place : fs.Place} {before after : σ}
    (led : fs.resolve path before = .ok place) (done : fs.unlink path before = .ok after) :
    fs.get? place after = none ∧ ∀ other ≠ place, fs.get? other after = fs.get? other before
  made {path : String} {before after : σ} (done : fs.bindSocket path before = .ok after) :
    ∃ place identity, fs.get? place before = none ∧ fs.resolve path after = .ok place ∧
      fs.get? place after = some ⟨true, identity⟩ ∧
      ∀ other ≠ place, fs.get? other after = fs.get? other before
  modeSet {path : String} {mode : Nat} {before after : σ}
    (done : fs.setMode path mode before = .ok after) :
    (∀ place, fs.get? place after = fs.get? place before) ∧
      ∀ place, fs.resolve path before = .ok place → fs.resolve path after = .ok place

end FileSystem

namespace FileTree

variable {t after : FileTree} {path : String} {place : Location}

/-- What is no directory is below one. -/
theorem isBase_of_get? (other : t.get? place ≠ some .directory) : isBase place = false := by
  cases base : isBase place with
  | false => rfl
  | true =>
    rw [get?, if_pos base] at other
    exact absurd rfl other

theorem step_of_directories
    (kept : ∀ place, t.get? place = some .directory → after.get? place = some .directory)
    {next : Location} {name : String} (led : t.step place name = .ok next) :
    after.step place name = .ok next := by
  rw [step] at led ⊢
  cases found : t.get? place with
  | none =>
    rw [found] at led
    cases led
  | some entry =>
    rw [found] at led
    cases entry with
    | directory =>
      rw [kept place found]
      exact led
    | file content => cases led
    | socket identity mode => cases led

/-- The way of a path goes over directories only. -/
theorem walk_of_directories
    (kept : ∀ place, t.get? place = some .directory → after.get? place = some .directory)
    (led : t.walk path = .ok place) : after.walk path = .ok place := by
  have onward (names : List String) (first : Location)
      (led : names.foldlM t.step first = .ok place) :
      names.foldlM after.step first = .ok place := by
    induction names generalizing first with
    | nil => exact led
    | cons name names ih =>
      rw [List.foldlM_cons] at led ⊢
      cases stepped : t.step first name with
      | error fault =>
        rw [stepped] at led
        cases led
      | ok next =>
        rw [stepped] at led
        rw [step_of_directories kept stepped]
        exact ih next led
  rw [walk] at led ⊢
  split at led
  · cases led
  · rename_i given
    split at led
    · cases led
    · rename_i short
      rw [if_neg given, if_neg short]
      exact onward _ _ led

theorem find_eq_ok {entry : Entry} :
    t.find path = .ok entry ↔ ∃ place, t.walk path = .ok place ∧ t.get? place = some entry :=
  Fault.bind_orNoSuchFile

theorem unlink_ok (done : t.unlink path = .ok after) :
    ∃ place entry, t.walk path = .ok place ∧ t.get? place = some entry ∧ entry ≠ .directory ∧
      after = t.erase place := by
  rw [unlink] at done
  cases found : t.find path with
  | error fault =>
    rw [found] at done
    cases done
  | ok entry =>
    obtain ⟨place, led, stands⟩ := find_eq_ok.1 found
    refine ⟨place, entry, led, stands, ?_⟩
    rw [found, led] at done
    cases entry with
    | directory => cases done
    | file content | socket identity mode =>
      cases done
      exact ⟨nofun, rfl⟩

theorem unlink_socket {identity mode : Nat} (led : t.walk path = .ok place)
    (found : t.get? place = some (.socket identity mode)) :
    t.unlink path = .ok (t.erase place) := by
  rw [unlink, find_eq_ok.2 ⟨place, led, found⟩, led]
  rfl

theorem placeFor_eq_ok : t.placeFor path = .ok place ↔
    Path.holdsNul path = false ∧ t.walk path = .ok place ∧ t.get? place = none := by
  rw [placeFor]
  cases nul : Path.holdsNul path with
  | true => exact iff_of_false nofun nofun
  | false =>
    cases led : t.walk path with
    | error fault => exact iff_of_false nofun nofun
    | ok own =>
      cases found : t.get? own with
      | some entry =>
        simp only [Bool.false_eq_true, if_false, bind, Except.bind, found]
        refine iff_of_false nofun fun ⟨_, same, vacant⟩ => ?_
        cases same
        cases found.symm.trans vacant
      | none =>
        simp only [Bool.false_eq_true, if_false, bind, Except.bind, found]
        refine ⟨fun same => ?_, fun ⟨_, same, _⟩ => ?_⟩
        · cases same
          exact ⟨trivial, rfl, found⟩
        · cases same
          rfl

theorem bindSocket_ok (done : t.bindSocket path = .ok after) :
    ∃ place, Path.holdsNul path = false ∧ t.walk path = .ok place ∧ t.get? place = none ∧
      after = { t.insert place (.socket t.nextIdentity socketMode) with
        nextIdentity := t.nextIdentity + 1 } := by
  rw [bindSocket] at done
  cases free : t.placeFor path with
  | error fault =>
    rw [free] at done
    cases done
  | ok place =>
    rw [free] at done
    cases done
    obtain ⟨nul, led, vacant⟩ := placeFor_eq_ok.1 free
    exact ⟨place, nul, led, vacant, rfl⟩

theorem setMode_socket {identity old : Nat} (mode : Nat) (led : t.walk path = .ok place)
    (found : t.get? place = some (.socket identity old)) :
    t.setMode path mode = .ok (t.insert place (.socket identity mode)) := by
  rw [setMode, find_eq_ok.2 ⟨place, led, found⟩, led]
  rfl

theorem setMode_ok {mode : Nat} (done : t.setMode path mode = .ok after) :
    after = t ∨ ∃ place identity old, t.get? place = some (.socket identity old) ∧
      after = t.insert place (.socket identity mode) := by
  rw [setMode] at done
  cases found : t.find path with
  | error fault =>
    rw [found] at done
    cases done
  | ok entry =>
    obtain ⟨place, led, stands⟩ := find_eq_ok.1 found
    rw [found, led] at done
    cases entry with
    | directory | file content =>
      cases done
      exact .inl rfl
    | socket identity old =>
      cases done
      exact .inr ⟨place, identity, old, stands, rfl⟩

theorem get?_insert {entry : Entry} (other : t.get? place ≠ some .directory) (p : Location) :
    (t.insert place entry).get? p = if p = place then some entry else t.get? p := by
  split
  · rename_i same
    rw [same, get?_insert_self (isBase_of_get? other)]
  · rename_i apart
    exact get?_insert_other apart

theorem directories_erase (other : t.get? place ≠ some .directory) (p : Location)
    (directory : t.get? p = some .directory) : (t.erase place).get? p = some .directory := by
  have apart : p ≠ place := by
    rintro rfl
    exact other directory
  rw [get?_erase_other apart, directory]

theorem directories_insert {entry : Entry} (other : t.get? place ≠ some .directory) (p : Location)
    (directory : t.get? p = some .directory) :
    (t.insert place entry).get? p = some .directory := by
  have apart : p ≠ place := by
    rintro rfl
    exact other directory
  rw [get?_insert_other apart, directory]

theorem resolve_eq_ok : fileSystem.resolve path t = .ok place ↔
    Path.holdsNul path = false ∧ t.walk path = .ok place := by
  change (if Path.holdsNul path = true then .error .interiorNul else t.walk path) = .ok place ↔ _
  cases Path.holdsNul path with
  | true => exact iff_of_false nofun nofun
  | false => exact ⟨fun led => ⟨rfl, led⟩, fun led => led.2⟩

theorem status_insert_socket {identity mode : Nat} (other : t.get? place ≠ some .directory)
    (p : Location) : fileSystem.get? p (t.insert place (.socket identity mode)) =
      if p = place then some ⟨true, .ofSocket identity⟩ else fileSystem.get? p t := by
  change ((t.insert place (.socket identity mode)).get? p).map Entry.status = _
  rw [get?_insert other]
  split <;> rfl

theorem lawful_fileSystem : fileSystem.Lawful where
  unlinked := by
    intro path place before after led done
    obtain ⟨own, entry, walked, found, plain, rfl⟩ := unlink_ok done
    cases walked.symm.trans (resolve_eq_ok.1 led).2
    have named : isBase place = false := by
      apply isBase_of_get?
      rw [found]
      exact fun same => plain (Option.some.inj same)
    refine ⟨congrArg (Option.map Entry.status) (get?_erase_self named), fun other apart => ?_⟩
    exact congrArg (Option.map Entry.status) (get?_erase_other apart)
  made := by
    intro path before after done
    obtain ⟨place, nul, led, vacant, rfl⟩ := bindSocket_ok done
    have other : before.get? place ≠ some .directory := fun directory =>
      nomatch vacant.symm.trans directory
    refine ⟨place, .ofSocket before.nextIdentity, congrArg (Option.map Entry.status) vacant, ?_, ?_,
      fun p apart => ?_⟩
    · exact resolve_eq_ok.2 ⟨nul, walk_of_directories (directories_insert other) led⟩
    · exact (status_insert_socket other place).trans (if_pos rfl)
    · exact (status_insert_socket other p).trans (if_neg apart)
  modeSet := by
    intro path mode before after done
    obtain rfl | ⟨place, identity, old, found, rfl⟩ := setMode_ok done
    · exact ⟨fun _ => rfl, fun _ led => led⟩
    · have other : before.get? place ≠ some .directory := fun directory =>
        nomatch found.symm.trans directory
      refine ⟨fun p => ?_, fun p led => ?_⟩
      · refine (status_insert_socket other p).trans ?_
        split
        · rename_i same
          rw [same]
          exact (congrArg (Option.map Entry.status) found).symm
        · rfl
      · obtain ⟨nul, led⟩ := resolve_eq_ok.1 led
        exact resolve_eq_ok.2 ⟨nul, walk_of_directories (directories_insert other) led⟩

/-- No permission stands against removing a socket. -/
theorem removable {status : FileStatus} (led : fileSystem.resolve path t = .ok place)
    (found : fileSystem.get? place t = some status) (socket : status.isSocket = true) :
    ∃ after, fileSystem.unlink path t = .ok after := by
  obtain ⟨entry, stands, rfl⟩ : ∃ entry, t.get? place = some entry ∧ entry.status = status :=
    Option.map_eq_some_iff.1 found
  cases entry with
  | directory | file content => cases socket
  | socket identity mode => exact ⟨_, unlink_socket (resolve_eq_ok.1 led).2 stands⟩

theorem made_socket {made : FileTree} (done : t.bindSocket path = .ok made) :
    ∃ place, Path.holdsNul path = false ∧ made.walk path = .ok place ∧
      made.get? place = some (.socket t.nextIdentity socketMode) := by
  obtain ⟨place, nul, led, vacant, rfl⟩ := bindSocket_ok done
  have other : t.get? place ≠ some .directory := fun directory =>
    nomatch vacant.symm.trans directory
  exact ⟨place, nul, walk_of_directories (directories_insert other) led,
    get?_insert_self (isBase_of_get? other)⟩

theorem bindSocket_erase {identity mode : Nat} (nul : Path.holdsNul path = false)
    (led : t.walk path = .ok place) (found : t.get? place = some (.socket identity mode)) :
    ∃ made, (t.erase place).bindSocket path = .ok made := by
  have other : t.get? place ≠ some .directory := fun directory =>
    nomatch found.symm.trans directory
  have free : (t.erase place).placeFor path = .ok place :=
    placeFor_eq_ok.2 ⟨nul, walk_of_directories (directories_erase other) led,
      get?_erase_self (isBase_of_get? other)⟩
  rw [bindSocket, free]
  exact ⟨_, rfl⟩

end FileTree

namespace Rendezvous

open FileTree

variable {t : FileTree} {path : String}

/-- In a file tree the mode of a new socket can always be set. -/
theorem openIn_made {made : FileTree} (done : t.bindSocket path = .ok made) (mode : Nat) :
    (openIn fileSystem path mode t).1 = .ok (.ofSocket t.nextIdentity) := by
  obtain ⟨place, nul, led, found⟩ := made_socket done
  have other : made.get? place ≠ some .directory := fun directory =>
    nomatch found.symm.trans directory
  have set := setMode_socket mode led found
  have status : fileSystem.status path (made.insert place (.socket t.nextIdentity mode)) =
      .ok ⟨true, .ofSocket t.nextIdentity⟩ := by
    refine FileSystem.status_eq_ok.2 ⟨place, resolve_eq_ok.2 ⟨nul, ?_⟩, ?_⟩
    · exact walk_of_directories (directories_insert other) led
    · exact (status_insert_socket other place).trans (if_pos rfl)
  rw [openIn, show fileSystem.bindSocket path t = .ok made from done]
  dsimp only
  rw [show fileSystem.setMode path mode made = _ from set]
  dsimp only
  rw [status]
  rfl

theorem clearIn_tree {cleared : FileTree} (done : clearIn fileSystem path t = .ok cleared) :
    cleared = t ∨ ∃ place identity mode, Path.holdsNul path = false ∧ t.walk path = .ok place ∧
      t.get? place = some (.socket identity mode) ∧ cleared = t.erase place := by
  rw [clearIn] at done
  cases looked : fileSystem.status path t with
  | error fault =>
    rw [looked] at done
    exact .inl (Except.ok.inj done).symm
  | ok status =>
    rw [looked] at done
    obtain ⟨place, led, found⟩ := FileSystem.status_eq_ok.1 looked
    obtain ⟨nul, led⟩ := resolve_eq_ok.1 led
    obtain ⟨entry, stands, rfl⟩ : ∃ entry, t.get? place = some entry ∧ entry.status = status :=
      Option.map_eq_some_iff.1 found
    cases entry with
    | directory | file content => cases done
    | socket identity mode =>
      cases (unlink_socket led stands).symm.trans done
      exact .inr ⟨place, identity, mode, nul, led, stands, rfl⟩

/-- Where a socket was cleared away, there is room for another. -/
theorem clearIn_unbound {cleared : FileTree} {fault : Fault}
    (done : clearIn fileSystem path t = .ok cleared)
    (failed : cleared.bindSocket path = .error fault) : cleared = t := by
  obtain rfl | ⟨place, identity, mode, nul, led, found, rfl⟩ := clearIn_tree done
  · rfl
  · obtain ⟨made, bound⟩ := bindSocket_erase nul led found
    cases bound.symm.trans failed

/-- A file tree is as before when nothing could be bound in it. -/
theorem bindIn_error {mode : Nat} {error : EndpointError}
    (failed : (bindIn fileSystem path mode t).1 = .error error) :
    (bindIn fileSystem path mode t).2 = t := by
  unfold bindIn at failed ⊢
  cases checked : checkPath path with
  | error _ => rfl
  | ok _ =>
    rw [checked] at failed
    cases done : clearIn fileSystem path t with
    | error _ => rfl
    | ok cleared =>
      rw [done] at failed
      cases bound : cleared.bindSocket path with
      | ok made =>
        dsimp only at failed
        rw [openIn_made bound mode] at failed
        cases failed
      | error fault =>
        have unbound : (openIn fileSystem path mode cleared).2 = cleared := by
          rw [openIn, show fileSystem.bindSocket path cleared = .error fault from bound]
        exact unbound.trans (clearIn_unbound done bound)

end Rendezvous

end CodecLink
