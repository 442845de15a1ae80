import CatalogEntities.Path
import CatalogEntities.Settings
import CatalogEntities.Text.Character

/-!
# `Database/Endpoint.lean` — where a server listens

A server is reached through the network, on a port of a host, or through a socket in a directory of
the same machine. A host that is written as an absolute path is such a directory.

Whether a host is written as a number decides what can go wrong on a machine without a network: a
name has to be looked up first, and a number has not. So the forms in which numbers are written are
spelled out here, the old ones with fewer than four parts included.
-/

set_option autoImplicit false

namespace CatalogEntities

/-- **Where a server listens.** The port is part of both, since it is also in the name of a socket.
-/
inductive Endpoint
  | host (name : String) (port : UInt16)
  | directory (path : String) (port : UInt16)
  deriving Repr, DecidableEq

/-- The place that some settings name (`pg_config`). Nothing is looked up for it, and no host is
invalid. -/
def DatabaseSettings.endpoint (s : DatabaseSettings) : Endpoint :=
  if s.host.toList.head? = some '/' then .directory s.host s.port else .host s.host s.port

def Endpoint.socketPath (directory : String) (port : UInt16) : String :=
  Path.join directory (".s.PGSQL." ++ toString port.toNat)

/-! ## Numeric addresses -/

namespace Endpoint

/-- A part of a numeric address: hexadecimal behind `0x`, octal behind a zero, decimal otherwise. -/
def readPart? : List Char → Option Nat
  | '0' :: 'x' :: ds | '0' :: 'X' :: ds => Text.readDigits? 16 ds
  | '0' :: ds => if ds.isEmpty then some 0 else Text.readDigits? 8 ds
  | ds => Text.readDigits? 10 ds

/-- An address of four bytes: one to four numbers with points between them. All but the last are
bytes, and the last fills what they leave. -/
def isShortAddress (cs : List Char) : Bool :=
  match ((cs.splitOn '.').mapM readPart?).map List.reverse with
  | some (last :: front) =>
      front.length ≤ 3 && front.all (· < 256) && last < Nat.pow 256 (4 - front.length)
  | _ => false

/-- A group of a long address: one to four hexadecimal digits. -/
def isGroup (cs : List Char) : Bool :=
  !cs.isEmpty && cs.length ≤ 4 && cs.all fun c => (Text.hexValue? c).isSome

/-- Four bytes in decimal, which end a long address in place of two groups. -/
def isQuad (cs : List Char) : Bool :=
  let parts := cs.splitOn '.'
  parts.length = 4 && parts.all fun ds =>
    (ds = ['0'] || ds.head? ≠ some '0')
      && ((Text.readDigits? 10 ds).filter (· < 256)).isSome

/-- How many groups a piece of a long address holds; four bytes count as two at its end. -/
def countGroups? (cs : List Char) : Option Nat :=
  if cs.isEmpty then some 0
  else
    let parts := cs.splitOn ':'
    if parts.all isGroup then some parts.length
    else if parts.dropLast.all isGroup && parts.getLast?.any isQuad then some (parts.length + 1)
    else none

/-- The pieces of a long address around the first double colon, which stands for groups of zeros. -/
def aroundGap : List Char → Option (List Char × List Char)
  | ':' :: ':' :: rest => some ([], rest)
  | c :: rest => (aroundGap rest).map fun (front, back) => (c :: front, back)
  | [] => none

def isLongAddress (cs : List Char) : Bool :=
  match aroundGap cs with
  | none => countGroups? cs = some 8
  | some (front, back) =>
      match countGroups? front, countGroups? back with
      | some m, some n => m + n ≤ 7
      | _, _ => false

/-- **Whether a host is written as an address**, so that its name need not be looked up. -/
def isNumeric (name : String) : Bool := isShortAddress name.toList || isLongAddress name.toList

end Endpoint

end CatalogEntities
