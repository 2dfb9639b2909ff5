import SourceIndex.Command.Run
import SourceIndex.Rehearsal.Clones
import SourceIndex.Rehearsal.Server
import SourceIndex.Rehearsal.Workshop

/-!
# Rehearsals of commands

A machine on which every party acts by a script: a server with prepared answers, a git with prepared
runs, workers with prepared replies, and a disk that is a value. Its state goes on from command to
command.
-/

set_option autoImplicit false

namespace SourceIndex.Rehearsal

/-- The state of a scripted machine. -/
structure World where
  /-- The disk, and git that works on it. -/
  clones : Clones
  databases : Keyed (String × DatabaseFile) Prod.fst
  server : Server
  workshop : Workshop

namespace World

/-- The disk and the databases on it. -/
def files (world : World) : DatabaseFiles :=
  ⟨world.clones.disk, world.databases⟩

/-- Replaces the disk and the databases. -/
def setFiles (files : DatabaseFiles) (world : World) : World :=
  { world with clones := { world.clones with disk := files.disk }, databases := files.databases }

/-- The network of the scripted server. -/
def network : Host.Network World where
  send request world :=
    let sent := Server.network.send request world.server
    (sent.1, { world with server := sent.2 })
  now world := Server.network.now world.server
  wait seconds world := { world with server := Server.network.wait seconds world.server }

/-- The scripted workers, whose program is on the disk. -/
def workers : Workers World Life where
  launch command world :=
    let workshop := { world.workshop with disk := world.clones.disk }
    let launched := Workshop.workers.launch command workshop
    (launched.1, { world with workshop := launched.2 })
  receive life line world :=
    let received := Workshop.workers.receive life line world.workshop
    (received.1, { world with workshop := received.2 })

/-- The scripted git. -/
def git : Git World where
  run call world :=
    let done := Clones.git.run call world.clones
    (done.1, { world with clones := done.2 })
  makeDirectories path world :=
    let done := Clones.git.makeDirectories path world.clones
    (done.1, { world with clones := done.2 })
  pathExists path world := Clones.git.pathExists path world.clones

/-- The scripted machine with a current directory. -/
def machine (current : String) : Machine World Life where
  current := current
  token := none
  files := files
  setFiles := setFiles
  network := network
  workers := workers
  git := git

end World

end SourceIndex.Rehearsal
