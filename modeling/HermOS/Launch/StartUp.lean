import HermOS.Library.Held
import HermOS.Library.PythonText

/-!
# Starting the sandboxes of an experiment

`Lazy-Remote-Dedup.py` starts the proxy, a network namespace and a Firecracker for every sandbox and
its uffd handlers.  What the helpers start becomes known to `main` when they return.  A start-up
raises at one point at most, since an exception ends it.
-/

namespace HermOS
namespace Launch

open Python

/-! ### Effects -/

/-- The processes which `main` spawns. -/
inductive Process
  | proxy
  /-- Inside the network namespace. -/
  | firecracker (i : ℕ) (ns : Text)
  | uffdHandler (i : ℕ)
  deriving DecidableEq

/-- The commands of `setup` and `cleanup`. -/
inductive Command
  | netnsAdd (ns : Text)
  /-- `ip netns exec ns` and a command. -/
  | netnsExec (ns : Text) (command : List Text)
  /-- `ip link add name hv type veth peer name veth0 netns ns`. -/
  | linkAdd (hv ns : Text)
  /-- `ip addr add address dev hv`. -/
  | addrAdd (address hv : Text)
  | linkUp (hv : Text)
  /-- `iptables -t nat -A POSTROUTING -s subnet -o up -j MASQUERADE`. -/
  | natAppend (subnet up : Text)
  /-- The same with `-D`. -/
  | natDelete (subnet up : Text)
  | linkDel (hv : Text)
  /-- `ip netns del ns`, which also deletes what is inside. -/
  | netnsDel (ns : Text)
  deriving DecidableEq

/-- What `main` does to its host. -/
inductive Event
  | spawned (process : Process)
  /-- `stop` has terminated the process, unless it had ended by itself. -/
  | stopped (process : Process)
  | ran (command : Command)
  deriving DecidableEq

/-- What an experiment can leave behind. -/
inductive Resource
  | process (process : Process)
  | netns (ns : Text)
  | veth (hv : Text)
  | nat (subnet up : Text)
  deriving DecidableEq

def Event.opens : Event → Option Resource
  | .spawned process => some (.process process)
  | .ran (.netnsAdd ns) => some (.netns ns)
  | .ran (.linkAdd hv _) => some (.veth hv)
  | .ran (.natAppend subnet up) => some (.nat subnet up)
  | _ => none

def Event.closes : Event → Option Resource
  | .stopped process => some (.process process)
  | .ran (.netnsDel ns) => some (.netns ns)
  | .ran (.linkDel hv) => some (.veth hv)
  | .ran (.natDelete subnet up) => some (.nat subnet up)
  | _ => none

def effects : Brackets Event Resource :=
  ⟨Event.opens, Event.closes⟩

/-- Where a start-up can raise. -/
inductive Point
  /-- In `start_proxy`, up to its `Popen`. -/
  | proxySpawn
  | proxyWait
  | upstream
  | setup (i : ℕ) (command : ℕ)
  | firecracker (i : ℕ)
  /-- In `start_remote_uffd`, up to its `Popen`. -/
  | uffdSpawn (i : ℕ)
  | uffdWait (i : ℕ)
  /-- In a `load_snapshot`. -/
  | load
  /-- In a `run_workload`. -/
  | workload
  /-- Behind the workloads. -/
  | record
  deriving DecidableEq

def raiseAt (failure : Option Point) (point : Point) : Attempt Event Unit :=
  ⟨[], if failure = some point then none else some ()⟩

/-! ### Network namespaces -/

/-- The dictionary which `nsinfo` returns. -/
structure NsInfo where
  ns : Text
  hv : Text
  host : Text
  guest : Text
  subnet : Text
  up : Text

def vethBase : ℕ :=
  200

/-- `10.a.b.` and the rest of an address of sandbox `i`. -/
def nsAddress (i : ℕ) (rest : Text) : Text :=
  '1' :: '0' :: '.' :: (decimal (vethBase + i / 256) ++ '.' :: (decimal (i % 256) ++ '.' :: rest))

def nsinfo (i : ℕ) (up : Text) : NsInfo where
  ns := 'f' :: 'c' :: decimal i
  hv := 'f' :: 'c' :: (decimal i ++ "-veth".toList)
  host := nsAddress i "1".toList
  guest := nsAddress i "2".toList
  subnet := nsAddress i "0/30".toList
  up := up

def cleanup (n : NsInfo) : List Event :=
  (if n.up ≠ [] then [.ran (.natDelete n.subnet n.up)] else []) ++
    [.ran (.linkDel n.hv), .ran (.netnsDel n.ns)]

def setupCommands (n : NsInfo) : List Command :=
  [.netnsAdd n.ns,
    .netnsExec n.ns (["ip", "tuntap", "add", "dev", "tap0", "mode", "tap"].map String.toList),
    .netnsExec n.ns (["ip", "addr", "add", "172.16.0.1/30", "dev", "tap0"].map String.toList),
    .netnsExec n.ns (["ip", "link", "set", "tap0", "up"].map String.toList),
    .linkAdd n.hv n.ns,
    .netnsExec n.ns (["ip", "addr", "add"].map String.toList ++
      ((n.guest ++ "/30".toList) :: ["dev", "veth0"].map String.toList)),
    .netnsExec n.ns (["ip", "link", "set", "veth0", "up"].map String.toList),
    .addrAdd (n.host ++ "/30".toList) n.hv,
    .linkUp n.hv,
    .netnsExec n.ns (["ip", "route", "add", "default", "via"].map String.toList ++ [n.host]),
    .netnsExec n.ns (["iptables", "-t", "nat", "-A", "POSTROUTING", "-s", "172.16.0.1/30", "-o",
      "veth0", "-j", "MASQUERADE"].map String.toList),
    .netnsExec n.ns (["iptables", "-P", "FORWARD", "ACCEPT"].map String.toList)] ++
  if n.up ≠ [] then [.natAppend n.subnet n.up] else []

/-- The commands of sandbox `i`, the first of which has number `next`. -/
def shAll (failure : Option Point) (i : ℕ) : ℕ → List Command → Attempt Event Unit
  | _, [] => pure ()
  | next, command :: commands => do
      raiseAt failure (.setup i next)
      ⟨[.ran command], some ()⟩
      shAll failure i (next + 1) commands

def setup (failure : Option Point) (i : ℕ) (n : NsInfo) : Attempt Event NsInfo :=
  match shAll failure i 0 (setupCommands n) with
  | ⟨events, some ()⟩ => ⟨cleanup n ++ events, some n⟩
  | ⟨events, none⟩ => ⟨cleanup n ++ events ++ cleanup n, none⟩

/-! ### Processes -/

def startFirecracker (failure : Option Point) (i : ℕ) (n : NsInfo) : Attempt Event Process := do
  raiseAt failure (.firecracker i)
  ⟨[.spawned (.firecracker i n.ns)], some (.firecracker i n.ns)⟩

/-- `start_sandboxes`, with the device which `upstream` finds. -/
def startSandboxes (failure : Option Point) (up : Text) (count : ℕ) :
    Attempt Event (List NsInfo × List Process) := do
  raiseAt failure .upstream
  let netns ← Attempt.comprehension (fun i => setup failure i (nsinfo i up)) (List.range count)
  let procs ← Attempt.comprehension (fun item => startFirecracker failure item.2 item.1)
    netns.zipIdx
  pure (netns, procs)

def startRemoteUffd (failure : Option Point) (i : ℕ) : Attempt Event Process := do
  raiseAt failure (.uffdSpawn i)
  ⟨[.spawned (.uffdHandler i)], some ()⟩
  raiseAt failure (.uffdWait i)
  pure (.uffdHandler i)

def startRemoteUffdHandlers (failure : Option Point) (count : ℕ) :
    Attempt Event (List Process) :=
  Attempt.comprehension (startRemoteUffd failure) (List.range count)

def startProxy (failure : Option Point) : Attempt Event Process := do
  raiseAt failure .proxySpawn
  ⟨[.spawned .proxy], some ()⟩
  raiseAt failure .proxyWait
  pure .proxy

def stop (procs : List Process) : List Event :=
  procs.map .stopped

/-! ### The script -/

/-- The local variables of `main` which its `finally` block reads. -/
structure Locals where
  proxyProc : Option Process := none
  netns : List NsInfo := []
  fcProcs : List Process := []
  uffdProcs : List Process := []

def cleanupSandboxes (netns : List NsInfo) (fcProcs uffdProcs extraProcs : List Process) :
    List Event :=
  stop fcProcs ++ stop uffdProcs ++ stop extraProcs ++ netns.reverse.flatMap cleanup

/-- `parallel_map` over calls which spawn nothing; a pool of no threads cannot be made. -/
def parallelMap (failure : Option Point) (point : Point) (count : ℕ) : Attempt Event Unit :=
  if count = 0 then ⟨[], none⟩ else raiseAt failure point

/-- A statement of the `try` block, which assigns to the variables when it has returned. -/
abbrev Statement :=
  Locals → Attempt Event Locals

def tryBlock (failure : Option Point) (up : Text) (count : ℕ) : List Statement :=
  [fun known => do
      let proxyProc ← startProxy failure
      pure { known with proxyProc := some proxyProc },
    fun known => do
      let started ← startSandboxes failure up count
      pure { known with netns := started.1, fcProcs := started.2 },
    fun known => do
      let uffdProcs ← startRemoteUffdHandlers failure count
      pure { known with uffdProcs := uffdProcs },
    fun known => do
      parallelMap failure .load count
      pure known,
    fun known => do
      parallelMap failure .workload count
      pure known,
    fun known => ⟨stop known.uffdProcs, some { known with uffdProcs := [] }⟩,
    fun known => do
      raiseAt failure .record
      pure known]

/-- Statements up to the first which raises, with the variables as they are then. -/
def runStatements : List Statement → Locals → List Event × Locals
  | [], known => ([], known)
  | statement :: statements, known =>
      match statement known with
      | ⟨events, none⟩ => (events, known)
      | ⟨events, some assigned⟩ =>
          (events ++ (runStatements statements assigned).1, (runStatements statements assigned).2)

/-- The `finally` block. -/
def Locals.cleanup (known : Locals) : List Event :=
  cleanupSandboxes known.netns known.fcProcs known.uffdProcs known.proxyProc.toList

def main (failure : Option Point) (up : Text) (count : ℕ) : List Event :=
  (runStatements (tryBlock failure up count) {}).1 ++
    (runStatements (tryBlock failure up count) {}).2.cleanup

/-- Every process which was spawned has been stopped since, and every namespace, veth and NAT rule
which was set up has been deleted since. -/
def LeavesNothing (events : List Event) : Prop :=
  ∀ resource, ¬ effects.Held events resource

end Launch
end HermOS
