import DAIM.Stage1.Relay

/-!
# The processes of stage 1

`main` of `stage0.cpp` from its first system call to the end of its two
processes, with the signals that may reach either of them between any two
steps.  A call of `close_sockets` is one step; messages to the user are left
out.
-/

namespace DAIM.Stage1

open DAIM.Library

inductive Who where
  | parent
  | child
  deriving DecidableEq, Repr

inductive Signal where
  | int
  | term
  | pipe
  deriving DecidableEq, Repr

/-- What a process does about a signal; it is blocked while its handler runs. -/
inductive Disposition where
  | default
  | ignore
  | handle
  | block
  deriving DecidableEq, Repr

/-- How a process ends. -/
inductive Ending where
  | exited (status : Int)
  | killed (signal : Signal)
  deriving DecidableEq, Repr

def exitSuccess : Int := 0
def exitFailure : Int := 1

/-! ## The sockets -/

structure Sockets where
  app : Int
  sw : Int
  con : Int
  deriving DecidableEq, Repr

def Sockets.initial : Sockets := ⟨-1, -1, -1⟩

/-- What `close_sockets` passes to `close`. -/
def closeSockets (s : Sockets) : List Int :=
  (if s.app < 0 then [s.app] else []) ++ (if s.sw < 0 then [s.sw] else []) ++
    if s.con < 0 then [s.con] else []

/-- The system calls of `create_app_socket` and `create_controller_socket`. -/
inductive Startup where
  | socketApp
  | bind
  | listen
  | accept
  | socketController
  | gethostbyname
  | connect
  deriving DecidableEq, Repr

namespace Startup

def next : Startup → Option Startup
  | .socketApp => some .bind
  | .bind => some .listen
  | .listen => some .accept
  | .accept => some .socketController
  | .socketController => some .gethostbyname
  | .gethostbyname => some .connect
  | .connect => none

/-- The assignment of the result, where there is one. -/
def store (result : Int) (s : Sockets) : Startup → Sockets
  | .socketApp => { s with app := result }
  | .accept => { s with sw := result }
  | .socketController => { s with con := result }
  | _ => s

end Startup

/-! ## The two processes -/

/-- Why a process closes its sockets: after an error, in `exit_handler` or in
`child_exit_handler`. -/
inductive Way where
  | error
  | interrupted
  | terminated
  deriving DecidableEq, Repr

def Way.status : Way → Int
  | .error => exitFailure
  | _ => exitSuccess

/-- Signals that were sent but not delivered. -/
structure Pending where
  int : Bool
  term : Bool
  deriving DecidableEq, Repr

def Pending.none : Pending := ⟨false, false⟩

/-- Where the parent is; `handling` is the beginning of `exit_handler`. -/
inductive ParentPlace where
  | creating (call : Startup)
  | installing
  | forking
  | assigning (pid : Nat)
  | relaying
  | killing
  | waiting
  | handling
  | closing (way : Way)
  | exiting (way : Way)
  | ended (ending : Ending)
  deriving DecidableEq, Repr

structure Parent where
  place : ParentPlace
  sockets : Sockets
  cproc : Int
  installed : Bool
  pending : Pending
  relay : Relay

def Parent.initial : Parent where
  place := .creating .socketApp
  sockets := .initial
  cproc := -1
  installed := false
  pending := .none
  relay := .initial

def Parent.onInt (p : Parent) : Disposition :=
  match p.place with
  | .handling | .closing .interrupted | .exiting .interrupted | .ended _ => .block
  | _ => if p.installed then .handle else .default

/-- Where the child is; `assigning` is between `fork` and the assignment. -/
inductive ChildPlace where
  | assigning
  | ignoring
  | setting
  | relaying
  | handling
  | closing (way : Way)
  | exiting (way : Way)
  | ended (ending : Ending)
  deriving DecidableEq, Repr

/-- `changed` says that it was stopped or continued and not yet waited for. -/
structure Child where
  pid : Nat
  place : ChildPlace
  sockets : Sockets
  cproc : Int
  pending : Pending
  changed : Bool
  relay : Relay

namespace Child

/-- The copy that `fork` makes of the parent. -/
def forked (pid : Nat) (p : Parent) : Child where
  pid := pid
  place := .assigning
  sockets := p.sockets
  cproc := p.cproc
  pending := .none
  changed := false
  relay := .initial

/-- The child inherits `exit_handler` and keeps it until it ignores `SIGINT`. -/
def onInt (c : Child) : Disposition :=
  match c.place with
  | .assigning | .ignoring => .handle
  | .handling | .closing .interrupted | .exiting .interrupted | .ended _ => .block
  | _ => .ignore

def onTerm (c : Child) : Disposition :=
  match c.place with
  | .relaying | .closing .error | .exiting .error => .handle
  | .closing .terminated | .exiting .terminated | .ended _ => .block
  | _ => .default

def terminate (c : Child) : Child := { c with pending := { c.pending with term := true } }
def interrupt (c : Child) : Child := { c with pending := { c.pending with int := true } }

end Child

namespace Parent

def terminate (p : Parent) : Parent := { p with pending := { p.pending with term := true } }
def interrupt (p : Parent) : Parent := { p with pending := { p.pending with int := true } }

end Parent

/-! ## Steps -/

inductive Event where
  | internal
  | installed
  | forked (pid : Nat)
  | assigned (who : Who) (value : Int)
  | ignored
  | relayed (who : Who) (round : Round)
  | interrupted (who : Who)
  | killed (who : Who) (target : Int)
  | stopped
  | closed (who : Who) (sockets : List Int)
  | ended (who : Who) (ending : Ending)

/-- A step of the parent that needs no child. -/
inductive Parent.Move : Parent → Event → Parent → Prop where
  | created {p : Parent} {call : Startup} {result : Int} : p.place = .creating call →
      0 ≤ result → Move p .internal
        { p with
          sockets := call.store result p.sockets
          place := call.next.elim .installing .creating }
  | notCreated {p : Parent} {call : Startup} : p.place = .creating call →
      Move p .internal
        { p with sockets := call.store (-1) p.sockets, place := .closing .error }
  | installed {p : Parent} : p.place = .installing →
      Move p .installed { p with installed := true, place := .forking }
  | notForked {p : Parent} : p.place = .forking →
      Move p (.assigned .parent (-1)) { p with cproc := -1, place := .closing .error }
  | assigned {p : Parent} {pid : Nat} : p.place = .assigning pid →
      Move p (.assigned .parent pid) { p with cproc := pid, place := .relaying }
  | relayed {p : Parent} {round : Round} : p.place = .relaying → round.Possible →
      Move p (.relayed .parent round)
        { p with
          relay := p.relay.relay round
          place := if (p.relay.relay round).exited then .killing else .relaying }
  -- the peer is gone, and nothing is done about `SIGPIPE`
  | broken {p : Parent} : p.place = .relaying →
      Move p (.ended .parent (.killed .pipe)) { p with place := .ended (.killed .pipe) }
  | closed {p : Parent} {way : Way} : p.place = .closing way →
      Move p (.closed .parent (closeSockets p.sockets)) { p with place := .exiting way }
  | exited {p : Parent} {way : Way} : p.place = .exiting way →
      Move p (.ended .parent (.exited way.status)) { p with place := .ended (.exited way.status) }
  | interrupted {p : Parent} : p.pending.int = true → p.onInt = .handle →
      Move p (.interrupted .parent)
        { p with pending := { p.pending with int := false }, place := .handling }
  | killedByInt {p : Parent} : p.pending.int = true → p.onInt = .default →
      Move p (.ended .parent (.killed .int)) { p with place := .ended (.killed .int) }
  | killedByTerm {p : Parent} : p.pending.term = true → (∀ ending, p.place ≠ .ended ending) →
      Move p (.ended .parent (.killed .term)) { p with place := .ended (.killed .term) }

/-- A step of the child alone. -/
inductive Child.Move : Child → Event → Child → Prop where
  | assigned {c : Child} : c.place = .assigning →
      Move c (.assigned .child 0) { c with cproc := 0, place := .ignoring }
  | ignored {c : Child} : c.place = .ignoring → Move c .ignored { c with place := .setting }
  | set {c : Child} : c.place = .setting → Move c .internal { c with place := .relaying }
  | relayed {c : Child} {round : Round} : c.place = .relaying → round.Possible →
      Move c (.relayed .child round)
        { c with
          relay := c.relay.relay round
          place := if (c.relay.relay round).exited then .closing .error else .relaying }
  | broken {c : Child} : c.place = .relaying →
      Move c (.ended .child (.killed .pipe)) { c with place := .ended (.killed .pipe) }
  | closed {c : Child} {way : Way} : c.place = .closing way →
      Move c (.closed .child (closeSockets c.sockets)) { c with place := .exiting way }
  | exited {c : Child} {way : Way} : c.place = .exiting way →
      Move c (.ended .child (.exited way.status)) { c with place := .ended (.exited way.status) }
  | interrupted {c : Child} : c.pending.int = true → c.onInt = .handle →
      Move c (.interrupted .child)
        { c with pending := { c.pending with int := false }, place := .handling }
  | discarded {c : Child} : c.pending.int = true → c.onInt = .ignore →
      Move c .internal { c with pending := { c.pending with int := false } }
  | killedByTerm {c : Child} : c.pending.term = true → c.onTerm = .default →
      Move c (.ended .child (.killed .term)) { c with place := .ended (.killed .term) }
  | terminated {c : Child} : c.pending.term = true → c.onTerm = .handle →
      Move c .internal
        { c with pending := { c.pending with term := false }, place := .closing .terminated }

/-- The two processes; there is no child before `fork`. -/
structure Life where
  parent : Parent
  child : Option Child

def Life.initial : Life := ⟨.initial, none⟩

/-- `kill (target, SIGTERM)`: a process, all of the group, or all but the sender. -/
def Life.kill (life : Life) (sender : Who) (target : Int) : Life :=
  if target = -1 then
    match sender with
    | .parent => { life with child := life.child.map Child.terminate }
    | .child => { life with parent := life.parent.terminate }
  else if target = 0 then
    ⟨life.parent.terminate, life.child.map Child.terminate⟩
  else
    { life with
      child := life.child.map fun c => if (c.pid : Int) = target then c.terminate else c }

/-- `waitpid` returns for the child. -/
def Child.Waited (c : Child) : Prop := (∃ ending, c.place = .ended ending) ∨ c.changed = true

inductive Life.Step : Life → Event → Life → Prop where
  | parent {p q : Parent} {child : Option Child} {event : Event} : p.Move event q →
      Step ⟨p, child⟩ event ⟨q, child⟩
  | child {p : Parent} {c d : Child} {event : Event} : c.Move event d →
      Step ⟨p, some c⟩ event ⟨p, some d⟩
  | forked {p : Parent} {pid : Nat} : p.place = .forking → 0 < pid →
      Step ⟨p, none⟩ (.forked pid)
        ⟨{ p with place := .assigning pid }, some (Child.forked pid p)⟩
  | killed {p : Parent} {child : Option Child} : p.place = .killing →
      Step ⟨p, child⟩ (.killed .parent p.cproc)
        (Life.kill ⟨{ p with place := .waiting }, child⟩ .parent p.cproc)
  | waited {p : Parent} {c : Child} : p.place = .waiting → c.Waited →
      Step ⟨p, some c⟩ .internal
        ⟨{ p with place := .closing .error }, some { c with changed := false }⟩
  | handled {p : Parent} {child : Option Child} : p.place = .handling →
      Step ⟨p, child⟩ (.killed .parent p.cproc)
        (Life.kill ⟨{ p with place := .closing .interrupted }, child⟩ .parent p.cproc)
  | childHandled {p : Parent} {c : Child} : c.place = .handling →
      Step ⟨p, some c⟩ (.killed .child c.cproc)
        (Life.kill ⟨p, some { c with place := .closing .interrupted }⟩ .child c.cproc)
  -- the user types Ctrl + C, or sends a signal to one of the processes
  | typed {p : Parent} {child : Option Child} :
      Step ⟨p, child⟩ .internal ⟨p.interrupt, child.map Child.interrupt⟩
  | parentInterrupted {p : Parent} {child : Option Child} :
      Step ⟨p, child⟩ .internal ⟨p.interrupt, child⟩
  | parentTerminated {p : Parent} {child : Option Child} :
      Step ⟨p, child⟩ .internal ⟨p.terminate, child⟩
  | childInterrupted {p : Parent} {c : Child} :
      Step ⟨p, some c⟩ .internal ⟨p, some c.interrupt⟩
  | childTerminated {p : Parent} {c : Child} :
      Step ⟨p, some c⟩ .internal ⟨p, some c.terminate⟩
  | childStopped {p : Parent} {c : Child} :
      Step ⟨p, some c⟩ .stopped ⟨p, some { c with changed := true }⟩

abbrev Life.Reaches (events : List Event) (life : Life) : Prop :=
  Run Life.Step Life.initial events life

end DAIM.Stage1
