import EtcdBackup.Machine
import EtcdBackup.Proofs.Course

/-!
# File systems

What a program does to files depends on what they do: whether a path can be read or written to is up
to permissions, mounts and links, of which the program knows nothing. A `FileSystem` leaves all of
this open. It says what is read at a path in a state, what state a write leads to, or why it is
refused, and which paths are one place.

Two laws are asked of it (`FileSystem.Lawful`): what was written is read back, and a write is seen
at no other place. That a refused write changes nothing is in the type of `FileSystem.write`, so a
write happens in full or not at all.

`fs.Runs job s a s'` says that a job, run from the state `s` on, can come to `a` and leave `s'`;
random bytes can be any. `fs.ComesTo job s a s'` says that it comes to nothing else.
-/

set_option autoImplicit false
set_option relaxedAutoImplicit false

namespace EtcdBackup

open Dialogue

/-- Files, as far as they are read and written. -/
structure FileSystem where
  State : Type
  /-- The content of the file at a path. -/
  read : State → String → Except IoFault Bytes
  /-- The files after one was written. -/
  write : State → String → Bytes → Except IoFault State
  /-- Two paths lead to one place: they are spellings of one path, or a link is on the way. -/
  Shared : State → String → String → Prop

namespace FileSystem

variable (fs : FileSystem) {α : Type} {s s' : fs.State} {path other : String} {content : Bytes}

/-- The file at a path was written, and at no other place anything changed. -/
structure IsWritten (s : fs.State) (path : String) (content : Bytes) (s' : fs.State) : Prop where
  read : fs.read s' path = .ok content
  others : ∀ other, ¬fs.Shared s path other →
    ∀ known, fs.read s' other = .ok known ↔ fs.read s other = .ok known

/-- What is relied on: a file that was written holds what was written, and files at other places
are those that there were, with what was in them. -/
structure Lawful : Prop where
  read_of_write : ∀ {s s' : fs.State} {path : String} {content : Bytes},
    fs.write s path content = .ok s' → fs.read s' path = .ok content
  read_of_write_other : ∀ {s s' : fs.State} {path other : String} {content known : Bytes},
    fs.write s path content = .ok s' → ¬fs.Shared s path other →
      (fs.read s' other = .ok known ↔ fs.read s other = .ok known)

variable {fs}

variable (fs)

/-- The requests of a job are answered as the files have it, one after the other, and random bytes
can be any. -/
inductive Serves : fs.State → List (Exchange Machine) → fs.State → Prop
  | done (s : fs.State) : Serves s [] s
  | read {s last : fs.State} {es : List (Exchange Machine)} {path : String}
      (rest : Serves s es last) : Serves s (⟨.read path, fs.read s path⟩ :: es) last
  | written {s s' last : fs.State} {es : List (Exchange Machine)} {path : String}
      {content : Bytes} (h : fs.write s path content = .ok s') (rest : Serves s' es last) :
      Serves s (⟨.write path content, .ok ()⟩ :: es) last
  | refused {s last : fs.State} {es : List (Exchange Machine)} {path : String} {content : Bytes}
      {e : IoFault} (h : fs.write s path content = .error e) (rest : Serves s es last) :
      Serves s (⟨.write path content, .error e⟩ :: es) last
  | random {s last : fs.State} {es : List (Exchange Machine)} {count : Nat}
      (bs : { bs : Bytes // bs.length = count }) (rest : Serves s es last) :
      Serves s (⟨.randomBytes count, bs⟩ :: es) last

variable {fs}

end FileSystem

end EtcdBackup
