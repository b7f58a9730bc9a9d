import CogniDQ.Python.InetAton
import CogniDQ.Sources.Validation

/-!
# Private hosts

Which private addresses `validate_host_not_private` lets through. It reads a host as `ipaddress` does
and compares it with networks of its own version, so what a socket reads in another way gets past it.
-/

set_option autoImplicit false

namespace CogniDQ.Sources

open CogniDQ.Python

/-- A version 6 address that maps one of version 4 is taken for that one. -/
def embedded : IpAddress → IpAddress
  | .v4 bits => .v4 bits
  | .v6 bits => if bits / 2 ^ 32 = 0xffff then .v4 (bits % 2 ^ 32) else .v6 bits

def isPrivate (address : IpAddress) : Bool :=
  privateIpNetworks.any (embedded address).inNetwork

section Hosts

variable {Uuid : Type} (settings : SourceSettings Uuid)

def NotBypassed (host : String) : Prop :=
  ∀ address, IpAddress.ofNumericHost host = some address →
    validateHostNotPrivate settings (.str host) = .ok [] → isPrivate address = false

/-- The host denotes a private address of version 4 and is not a dotted quad of four decimal bytes
without leading zeros: it is another numeric form of it, or a version 6 address that maps it. -/
def SpelledPrivate (host : String) : Prop :=
  ∃ bits, isPrivate (.v4 bits) = true ∧
    (IpAddress.inetAton host.toList = some bits ∧ IpAddress.parseV4 host.toList = none ∨
      ∃ mapped, IpAddress.parseV6 host.toList = some mapped ∧ embedded (.v6 mapped) = .v4 bits)

variable {settings} {host : String}

private theorem parse_v4 {bits : Nat} (read : IpAddress.parseV4 host.toList = some bits) :
    IpAddress.parse (.str host) = some (.v4 bits) := by
  simp [IpAddress.parse, read]

private theorem parse_v6 {bits : Nat} (read : IpAddress.parseV6 host.toList = some bits) :
    IpAddress.parse (.str host) = some (.v6 bits) := by
  have quad : IpAddress.parseV4 host.toList = none := by
    cases four : IpAddress.parseV4 host.toList with
    | none => rfl
    | some other =>
      have quad := IpAddress.inetAton_of_parseV4 four
      rw [IpAddress.inetAton_of_colon (IpAddress.colon_of_parseV6 read)] at quad
      cases quad
  simp [IpAddress.parse, quad, read]

theorem validate_parsed {address : IpAddress} (parsed : IpAddress.parse (.str host) = some address) :
    validateHostNotPrivate settings (.str host) = .ok [] ↔
      privateIpNetworks.any address.inNetwork = false := by
  unfold validateHostNotPrivate
  rw [parsed]
  dsimp only
  split_ifs with inside <;> simp [inside]

theorem validate_unparsed {bits : Nat} (quad : IpAddress.inetAton host.toList = some bits)
    (unread : IpAddress.parseV4 host.toList = none) :
    validateHostNotPrivate settings (.str host) = .ok [] := by
  have inQuad := IpAddress.inQuad_of_inetAton quad
  have unparsed : IpAddress.parse (.str host) = none := by
    cases six : IpAddress.parseV6 host.toList with
    | none => simp [IpAddress.parse, unread, six]
    | some other =>
      rw [IpAddress.inetAton_of_colon (IpAddress.colon_of_parseV6 six)] at quad
      cases quad
  have lower : (settings.runtime.lowerStr host).toList = host.toList.map Char.toLower := by
    rw [Runtime.lowerStr, String.toList_ofList,
      settings.runtime.lower_ascii _ fun c listed => (inQuad c listed).ascii]
  have unnamed : 'l' ∉ (settings.runtime.lowerStr host).toList := by
    rw [lower]
    intro listed
    obtain ⟨c, inHost, same⟩ := List.mem_map.mp listed
    exact (inQuad c inHost).toLower_ne same
  unfold validateHostNotPrivate
  rw [unparsed]
  dsimp only
  rw [if_neg, if_neg]
  · intro suffix
    exact unnamed ((List.isSuffixOf_iff_suffix.mp suffix).subset (by decide))
  · intro named
    refine unnamed ?_
    rcases List.mem_cons.mp (List.contains_iff_mem.mp named) with same | others
    · rw [same]
      decide
    · rw [List.mem_singleton.mp others]
      decide

private theorem mapped_outside {mapped bits : Nat} (maps : embedded (.v6 mapped) = .v4 bits) :
    privateIpNetworks.any (IpAddress.v6 mapped).inNetwork = false := by
  simp only [embedded] at maps
  split_ifs at maps with inMapped
  have loopback : mapped ≠ 1 := by omega
  have local_ : mapped / 2 ^ 121 ≠ 0xfc00 * 2 ^ 112 / 2 ^ 121 := by omega
  simp [privateIpNetworks, IpAddress.inNetwork, loopback] at local_ ⊢
  exact local_

private theorem privateV4 (bits : Nat) :
    isPrivate (.v4 bits) = privateIpNetworks.any (IpAddress.v4 bits).inNetwork := rfl

private def bareSettings : SourceSettings Unit where
  text _ := ""
  runtime := Runtime.ascii
  loads _ := none
  debug := false
  encrypt _ := none
  decrypt _ := none
  lower text := text

end Hosts

end CogniDQ.Sources
