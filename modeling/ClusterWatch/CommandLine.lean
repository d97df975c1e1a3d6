import ClusterWatch.Cluster.Snapshot
import ClusterWatch.Net.SocketAddress.Reader
import ClusterWatch.Settings.Document

/-!
The command line of a node. Arguments come in pairs of a flag and its value and are taken
from left to right; of a flag that is given again the last value counts, except that every
peer is kept. A last argument without a partner is passed over. The settings of a file are
checked before the command line changes the cluster's name, and then once more.
-/
namespace ClusterWatch

structure CommandLine where
  bind : Net.SocketAddress
  name : Option String
  cluster : Option String
  config : Option String
  peers : List Node
deriving DecidableEq

inductive CommandLineError where
  | tooFew
  | malformedAddress
  | malformedPeer (given : String)
  | unknownArgument (given : String)
  | missingBind
deriving DecidableEq, Repr

namespace CommandLineError

/-- The name that the program goes by. -/
def program : String := "liveness-node"

def usage : String :=
  "Usage: " ++ program ++ " --bind <addr:port> [--name <id>] [--peer <id>@<addr:port>]..." ++
    " [--cluster <name>] [--config <file.json>]"

/-- What a node that is told too little shows: how to start it, and two examples. -/
def help : List String := [
  usage,
  "Example: " ++ program ++ " --bind 127.0.0.1:5000 --name a",
  "Example: " ++ program ++ " --bind 127.0.0.1:5001 --name b --peer a@127.0.0.1:5000"]

def message : CommandLineError → String
  | .tooFew => "too few arguments"
  | .malformedAddress => Net.SocketAddress.malformed
  | .malformedPeer given => "invalid peer [" ++ given ++ "], expected <id>@<addr:port>"
  | .unknownArgument given => "unknown argument [" ++ given ++ "]"
  | .missingBind => "--bind is required"

end CommandLineError

namespace CommandLine

/-- What has been taken from the arguments so far. -/
structure Draft where
  bind : Option Net.SocketAddress
  name : Option String
  cluster : Option String
  config : Option String
  peers : List Node
deriving DecidableEq

def Draft.empty : Draft := ⟨none, none, none, none, []⟩

def address (text : String) : Except CommandLineError Net.SocketAddress :=
  match Net.SocketAddress.parse? text with
  | some address => .ok address
  | none => .error .malformedAddress

/-- The parts before and after the first occurrence of a character. -/
def splitAtFirst (mark : Char) : List Char → Option (List Char × List Char)
  | [] => none
  | c :: rest =>
      if c = mark then some ([], rest)
      else (splitAtFirst mark rest).map fun (front, back) => (c :: front, back)

/-- A peer is its id and its address, with the first at sign between them. -/
def peer (given : String) : Except CommandLineError Node :=
  match splitAtFirst '@' given.toList with
  | none => .error (.malformedPeer given)
  | some (id, rest) =>
      (address (String.ofList rest)).map fun address => .named ⟨String.ofList id⟩ address none

def Draft.take (d : Draft) (flag value : String) : Except CommandLineError Draft :=
  match flag with
  | "--bind" => (address value).map fun address => { d with bind := some address }
  | "--name" => .ok { d with name := some value }
  | "--cluster" => .ok { d with cluster := some value }
  | "--config" => .ok { d with config := some value }
  | "--peer" => (peer value).map fun peer => { d with peers := d.peers ++ [peer] }
  | other => .error (.unknownArgument other)

def Draft.takeAll (d : Draft) : List String → Except CommandLineError Draft
  | flag :: value :: rest => (d.take flag value).bind fun d => d.takeAll rest
  | _ => .ok d

/-- The arguments are those after the program's own name. -/
def parse (arguments : List String) : Except CommandLineError CommandLine :=
  if arguments.length < 2 then .error .tooFew
  else (Draft.empty.takeAll arguments).bind fun d =>
    match d.bind with
    | none => .error .missingBind
    | some bind => .ok ⟨bind, d.name, d.cluster, d.config, d.peers⟩

/-- The settings in force, given what was found under the path of the settings file. -/
def settings (line : CommandLine) (content : Option (List UInt8)) :
    Except LoadError NodeSettings :=
  let loaded := match line.config with
    | some path => NodeSettings.ofFile path content
    | none => .ok .standard
  loaded.bind fun loaded =>
    let settings := match line.cluster with
      | some cluster => { loaded with cluster }
      | none => loaded
    match settings.validate with
    | .ok () => .ok settings
    | .error e => .error (.invalid e)

/-- The first version of the cluster: the node itself, which coordinates it, and its peers. -/
def snapshot (line : CommandLine) (self : Node) (cluster : ClusterName) : Snapshot :=
  line.peers.foldl Snapshot.withNode
    (((Snapshot.empty cluster).next.withNode self).withCoordinator self.id)

end CommandLine
end ClusterWatch
