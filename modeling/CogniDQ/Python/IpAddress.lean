import CogniDQ.Python.Value
import Mathlib.Algebra.Group.Int.Defs
import Mathlib.Algebra.Group.Nat.Defs

/-!
# `ipaddress`

Reading a version 4 or version 6 address, and membership in a network.
-/

set_option autoImplicit false

namespace CogniDQ.Python

inductive IpAddress where
  | v4 (bits : Nat)
  | v6 (bits : Nat)
deriving DecidableEq

namespace IpAddress

/-- `_parse_octet`: at most three ASCII digits, and no leading zero. -/
def parseOctet (text : List Char) : Option Nat :=
  if text.isEmpty || !text.all Char.isDigit || 3 < text.length then none
  else if text != ['0'] && text.head? == some '0' then none
  else
    let value := text.foldl (fun value digit => 10 * value + (digit.toNat - '0'.toNat)) 0
    if 255 < value then none else some value

def parseV4 (text : List Char) : Option Nat :=
  match text.splitOn '.' with
  | [first, second, third, fourth] => do
    let first ← parseOctet first
    let second ← parseOctet second
    let third ← parseOctet third
    let fourth ← parseOctet fourth
    return ((first * 256 + second) * 256 + third) * 256 + fourth
  | _ => none

def hexDigit (digit : Char) : Option Nat :=
  if digit.isDigit then some (digit.toNat - '0'.toNat)
  else if 'a' ≤ digit ∧ digit ≤ 'f' then some (digit.toNat - 'a'.toNat + 10)
  else if 'A' ≤ digit ∧ digit ≤ 'F' then some (digit.toNat - 'A'.toNat + 10)
  else none

def parseHextet (text : List Char) : Option Nat :=
  if text.isEmpty || 4 < text.length then none
  else text.foldlM (fun value digit => (hexDigit digit).map (16 * value + ·)) 0

/-- The eight groups of a version 6 address, where `::` stands for the groups left out. -/
def expandGroups (parts : List (List Char)) : Option (List (List Char)) :=
  -- An empty part at either end belongs to a `::` there.
  let ended := fun (side : List (List Char)) (outer : Option (List Char)) =>
    if outer == some [] then if side.length = 1 then some [] else none else some side
  match (List.range parts.length).filter fun position =>
      0 < position && position + 1 < parts.length && (parts.getD position []).isEmpty with
  | [] =>
    if parts.length = 8 && parts.head? != some [] && parts.getLast? != some [] then some parts
    else none
  | [skipped] => do
    let high ← ended (parts.take skipped) parts.head?
    let low ← ended (parts.drop (skipped + 1)) parts.getLast?
    if high.length + low.length < 8 then
      return high ++ List.replicate (8 - (high.length + low.length)) ['0'] ++ low
    else none
  | _ => none

/-- `IPv6Address(text)`, whose scope is not part of the number. -/
def parseV6 (text : List Char) : Option Nat :=
  if text.contains '/' then none
  else
    let address := text.takeWhile (· != '%')
    let scope := text.drop (address.length + 1)
    if text.contains '%' && (scope.isEmpty || scope.contains '%') then none
    else do
      let parts := address.splitOn ':'
      if parts.length < 3 then none
      let parts ←
        match parts.getLast? with
        | some last =>
          if last.contains '.' then
            (parseV4 last).map fun bits =>
              parts.dropLast ++ [Nat.toDigits 16 (bits / 2 ^ 16), Nat.toDigits 16 (bits % 2 ^ 16)]
          else some parts
        | none => none
      if 9 < parts.length then none
      let groups ← expandGroups parts
      let hextets ← groups.mapM parseHextet
      return hextets.foldl (fun value hextet => value * 2 ^ 16 + hextet) 0

def ofInt (number : Int) : Option IpAddress :=
  if number < 0 then none
  else if number < 2 ^ 32 then some (.v4 number.toNat)
  else if number < 2 ^ 128 then some (.v6 number.toNat)
  else none

/-- `ipaddress.ip_address(value)`; none when it raises `ValueError`. A float or a container is read
by its text, which is no address. -/
def parse : Value → Option IpAddress
  | .bool value => ofInt (if value then 1 else 0)
  | .int value => ofInt value
  | .str text =>
    match parseV4 text.toList with
    | some bits => some (.v4 bits)
    | none => (parseV6 text.toList).map .v6
  | _ => none

/-- `address in network`, for a network given by its address and the length of its prefix. -/
def inNetwork : IpAddress → IpAddress × Nat → Bool
  | .v4 bits, (.v4 network, length) => bits / 2 ^ (32 - length) == network / 2 ^ (32 - length)
  | .v6 bits, (.v6 network, length) => bits / 2 ^ (128 - length) == network / 2 ^ (128 - length)
  | _, _ => false

example : parse (.str "10.1.2.3") = some (.v4 (10 * 2 ^ 24 + 2 ^ 16 + 2 * 2 ^ 8 + 3)) := by
  decide +kernel

example : parse (.str "::1") = some (.v6 1) ∧ parse (.str "10.1.2") = none := by decide +kernel

end IpAddress

end CogniDQ.Python
