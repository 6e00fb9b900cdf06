import Duplex.Socket.ConnectionError

/-! # Endpoints

  An address and a port, with the text form of each. A version 6 address is written in
  groups of lower-case hexadecimal digits without leading zeros; the first longest run of two
  or more zero groups is written as `::`, and an address that holds a version 4 one shows it.
-/

namespace Duplex

/-- A network address. -/
inductive Address where
  /-- Four octets. -/
  | v4 (octets : Vector UInt8 4)
  /-- Eight groups of sixteen bits. -/
  | v6 (groups : Vector UInt16 8)
  deriving DecidableEq, Repr

namespace Address

/-- Whether the address is the one that stands for none. -/
def isUnspecified : Address → Bool
  | v4 octets => octets.toList.all (· == 0)
  | v6 groups => groups.toList.all (· == 0)

/-- Four octets in decimal, with points between them. -/
def dotted (octets : List UInt8) : String := ".".intercalate (octets.map fun o => toString o.toNat)

/-- Groups in hexadecimal, with colons between them. -/
def colonSeparated (groups : List UInt16) : String :=
  ":".intercalate (groups.map fun g => String.ofList (Nat.toDigits 16 g.toNat))

/-- The number of zero groups that a list starts with. -/
def leadingZeros (groups : List UInt16) : Nat := (groups.takeWhile (· == 0)).length

/-- The first longest run of zero groups: where it starts, and how long it is. -/
def longestZeroRun (groups : List UInt16) : Nat × Nat :=
  (List.range groups.length).foldl
    (fun best start =>
      let length := leadingZeros (groups.drop start)
      if best.2 < length then (start, length) else best)
    (0, 0)

/-- The version 4 address that a version 6 one holds, as octets. -/
def mapped? : List UInt16 → Option (List UInt8)
  | [0, 0, 0, 0, 0, 0xFFFF, a, b] =>
    some [(a >>> 8).toUInt8, a.toUInt8, (b >>> 8).toUInt8, b.toUInt8]
  | _ => none

/-- The text of the groups of a version 6 address. -/
def groupsText (groups : List UInt16) : String :=
  match mapped? groups with
  | some octets => "::ffff:" ++ dotted octets
  | none =>
    let (start, length) := longestZeroRun groups
    if 1 < length then
      colonSeparated (groups.take start) ++ "::" ++ colonSeparated (groups.drop (start + length))
    else colonSeparated groups

/-- The text of an address. -/
def text : Address → String
  | v4 octets => dotted octets.toList
  | v6 groups => groupsText groups.toList

end Address

/-- An address and a port. -/
structure Endpoint where
  address : Address
  port : UInt16
  deriving DecidableEq, Repr

namespace Endpoint

/-- The text of an endpoint; a version 6 address stands in brackets. -/
def text (e : Endpoint) : String :=
  match e.address with
  | .v4 _ => s!"{e.address.text}:{e.port.toNat}"
  | .v6 _ => s!"[{e.address.text}]:{e.port.toNat}"

/-- Refuses endpoints to which no connection can be made. -/
def validateRemote (e : Endpoint) : Except ConnectionError Unit :=
  if e.address.isUnspecified then
    .error (.invalidArgument "remote endpoint address is unspecified")
  else if e.port = 0 then .error (.invalidArgument "remote endpoint port is zero")
  else .ok ()

end Endpoint

end Duplex
