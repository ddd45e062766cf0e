import SumCluster.Address.Parser
import SumCluster.Address.Printer
import SumCluster.Directory.Basic
import SumCluster.Text.Blank
import SumCluster.Text.Quoted

/-!
# Peers as text

A peer is written `id@address`; the first `@` ends the identifier. White space around the whole and
around the address is ignored, white space around the identifier alone is not. A list of peers is
written with commas, and blank items of it are ignored.
-/

namespace SumCluster

/-- Why a text is not accepted. -/
inductive TextFault
  /-- The text has no `@`. -/
  | noPeer (text : List Char)
  /-- What comes before the `@` of a peer is no identifier. -/
  | peerId (text : List Char) (fault : Numeral.Fault)
  /-- What `name` is given is no address. -/
  | address (name : String) (text : List Char)
  /-- What `name` is given is no identifier. -/
  | nodeId (name : String) (text : List Char) (fault : Numeral.Fault)
  deriving DecidableEq, Repr

/-- The wording of a fault. -/
def TextFault.message : TextFault → String
  | noPeer text => "Expected id@host:port, got " ++ Text.quote text
  | peerId text fault => "Invalid peer id in " ++ Text.quote text ++ ": " ++ fault.message
  | address name text =>
    "Invalid " ++ name ++ " address " ++ Text.quote text ++ ": " ++ Address.faultMessage
  | nodeId name text fault =>
    "Invalid " ++ name ++ " " ++ Text.quote text ++ ": " ++ fault.message

/-- The greatest identifier. -/
def NodeId.greatest : Nat := 4294967295

/-- Reads an identifier with white space around it. -/
def NodeId.parse (name : String) (text : List Char) : Except TextFault NodeId :=
  match Numeral.read NodeId.greatest (Text.trim text) with
  | .ok id => .ok (UInt32.ofNat id)
  | .error fault => .error (.nodeId name text fault)

/-- Reads an address with white space around it. -/
def Address.parse (name : String) (text : List Char) : Except TextFault Address :=
  match Address.parse? (Text.trim text) with
  | some address => .ok address
  | none => .error (.address name text)

namespace Peer

/-- Reads a peer. -/
def parse (text : List Char) : Except TextFault Peer :=
  match Text.cutAt? '@' (Text.trim text) with
  | none => .error (.noPeer text)
  | some (id, address) =>
    match Numeral.read NodeId.greatest id with
    | .error fault => .error (.peerId text fault)
    | .ok id => (Address.parse "peer" address).map fun address => ⟨UInt32.ofNat id, address⟩

/-- Reads a list of peers; the first item that is no peer is reported. -/
def parseList (text : List Char) : Except TextFault (List Peer) :=
  (((Text.pieces ',' text).map Text.trim).filter fun item => !item.isEmpty).mapM parse

/-- The text of a peer. -/
def render (peer : Peer) : List Char :=
  Numeral.render peer.id.toNat ++ '@' :: peer.address.render

end Peer

end SumCluster
