import HermOS.Bench.Workers
import Mathlib.Data.Int.Notation

/-!
# Namespace set-up stages

The instances, commands and stages of `ops/netns`.  The run token, the effective user and the exit
statuses of commands are parameters.
-/

namespace HermOS
namespace Bench
namespace Netns

/-- `{:x}`. -/
def lowerHex (value : ℕ) : String :=
  String.ofList (Nat.toDigits 16 value)

/-- `s.chars().take(count).collect()`. -/
def takeChars (count : ℕ) (text : String) : String :=
  String.ofList (text.toList.take count)

/-- `run_token`, from the nanoseconds since the epoch at its first call. -/
def runToken (now : ℕ) : String :=
  lowerHex (now &&& 0xfffff)

structure NetnsInstance where
  namespaceName : String
  hostVeth : String
  hostVethCidr : String
  hostVethGateway : String
  nsVethCidr : String
  vethNetwork : String

def buildInstance (token : String) (seq : ℕ) : NetnsInstance :=
  let suffix := lowerHex seq ++ token
  let octet2 := 64 + seq / 256 % 64
  let octet3 := seq % 256
  { namespaceName := takeChars 31 ("fc" ++ suffix)
    hostVeth := takeChars 15 ("fcv" ++ suffix)
    hostVethCidr := s!"10.{octet2}.{octet3}.1/30"
    hostVethGateway := s!"10.{octet2}.{octet3}.1"
    nsVethCidr := s!"10.{octet2}.{octet3}.2/30"
    vethNetwork := s!"10.{octet2}.{octet3}.0/30" }

/-! ### Commands -/

/-- `{:?}` of the exit code. -/
def debugCode : Option ℤ → String
  | some code => s!"Some({code})"
  | none => "None"

/-- `run_command`, given what spawning the command and waiting for it answers. -/
def runCommand (status : Except String (Option ℤ)) (args : List String) (allowFailure : Bool) :
    Except String Unit :=
  let command := " ".intercalate args
  match status with
  | .error err => .error s!"spawn failed for {command}: {err}"
  | .ok code =>
      if code = some 0 ∨ allowFailure = true then .ok ()
      else
        let shown := debugCode code
        .error s!"command failed with status {shown}: {command}"

section Commands

-- `nix::unistd::geteuid().is_root()`
variable (root : Bool)

def privilegedPrefix : List String :=
  if root then [] else ["sudo", "-n"]

def prefixed (args : List String) : List String :=
  privilegedPrefix root ++ args

def netnsAdd (name : String) : List String :=
  prefixed root ["ip", "netns", "add", name]

def hostIp (args : List String) : List String :=
  prefixed root ("ip" :: args)

def hostIptables (args : List String) : List String :=
  prefixed root ("iptables" :: args)

def netnsIp (name : String) (args : List String) : List String :=
  prefixed root (["ip", "netns", "exec", name, "ip"] ++ args)

def netnsIptables (name : String) (args : List String) : List String :=
  prefixed root (["ip", "netns", "exec", name, "iptables"] ++ args)

end Commands

/-! ### Stages -/

def tapName : String := "tap0"
def nsVethName : String := "veth0"
def tapCidr : String := "172.16.0.1/30"
def tapNatCidr : String := "172.16.0.1/30"

/-- One stage; its command depends on the effective user, the instance and the upstream device. -/
structure Stage where
  name : String
  allowFailure : Bool
  build : Bool → NetnsInstance → String → List String

def stages : List Stage :=
  [ { name := "netns_add"
      allowFailure := false
      build := fun root inst _ => netnsAdd root inst.namespaceName },
    { name := "tap_add"
      allowFailure := false
      build := fun root inst _ => netnsIp root inst.namespaceName
        ["tuntap", "add", "dev", tapName, "mode", "tap"] },
    { name := "tap_addr"
      allowFailure := false
      build := fun root inst _ => netnsIp root inst.namespaceName
        ["addr", "add", tapCidr, "dev", tapName] },
    { name := "tap_up"
      allowFailure := false
      build := fun root inst _ => netnsIp root inst.namespaceName
        ["link", "set", tapName, "up"] },
    { name := "veth_add"
      allowFailure := false
      build := fun root inst _ => hostIp root
        ["link", "add", "name", inst.hostVeth, "type", "veth", "peer", "name", nsVethName,
          "netns", inst.namespaceName] },
    { name := "ns_veth_addr"
      allowFailure := false
      build := fun root inst _ => netnsIp root inst.namespaceName
        ["addr", "add", inst.nsVethCidr, "dev", nsVethName] },
    { name := "ns_veth_up"
      allowFailure := false
      build := fun root inst _ => netnsIp root inst.namespaceName
        ["link", "set", "dev", nsVethName, "up"] },
    { name := "host_veth_addr"
      allowFailure := false
      build := fun root inst _ => hostIp root
        ["addr", "add", inst.hostVethCidr, "dev", inst.hostVeth] },
    { name := "host_veth_up"
      allowFailure := false
      build := fun root inst _ => hostIp root ["link", "set", "dev", inst.hostVeth, "up"] },
    { name := "route_add"
      allowFailure := false
      build := fun root inst _ => netnsIp root inst.namespaceName
        ["route", "add", "default", "via", inst.hostVethGateway] },
    { name := "ns_nat"
      allowFailure := false
      build := fun root inst _ => netnsIptables root inst.namespaceName
        ["-t", "nat", "-A", "POSTROUTING", "-s", tapNatCidr, "-o", nsVethName,
          "-j", "MASQUERADE"] },
    { name := "host_nat"
      allowFailure := false
      build := fun root inst upstream => hostIptables root
        ["-t", "nat", "-A", "POSTROUTING", "-s", inst.vethNetwork, "-o", upstream,
          "-j", "MASQUERADE"] },
    { name := "forward_accept"
      allowFailure := false
      build := fun root inst _ => netnsIptables root inst.namespaceName
        ["-P", "FORWARD", "ACCEPT"] } ]

end Netns
end Bench
end HermOS
