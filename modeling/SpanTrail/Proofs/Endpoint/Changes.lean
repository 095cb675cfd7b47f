import SpanTrail.Endpoint
import SpanTrail.Proofs.Address.Grammar

/-! Endpoints through any sequence of changes.  No port is zero, and no address of 128 bits maps
one of 32 bits: such an address counts as the one that it maps, in whichever of its texts it
was written.  A text that denotes no address changes nothing, and any other one sets just the
field of its address. -/

namespace SpanTrail

namespace IPv6

/-- An address that maps one of 32 bits: five groups of zeros, one of ones, and then the two
groups of the other address. -/
def Maps (address : IPv6) (inner : IPv4) : Prop :=
  address.toGroups = [0, 0, 0, 0, 0, 0xFFFF] ++ ofIPv4 inner

theorem halves_octets (upper lower : UInt8) :
    ((upper.toUInt16 * 256 + lower.toUInt16) >>> 8).toUInt8 = upper ∧
      (upper.toUInt16 * 256 + lower.toUInt16).toUInt8 = lower := by
  have upperSmall := upper.toNat_lt
  have lowerSmall := lower.toNat_lt
  rw [← UInt8.toNat_inj, ← UInt8.toNat_inj]
  simp only [UInt16.toNat_toUInt8, UInt16.toNat_shiftRight, UInt16.toNat_add, UInt16.toNat_mul,
    UInt8.toNat_toUInt16]
  change ((upper.toNat * 256 % 65536 + lower.toNat) % 65536) >>> 8 % 256 = upper.toNat ∧
    (upper.toNat * 256 % 65536 + lower.toNat) % 65536 % 256 = lower.toNat
  omega

theorem mapped?_eq_some_iff {address : IPv6} {inner : IPv4} :
    address.mapped? = some inner ↔ address.Maps inner := by
  constructor
  · exact mapped?_eq_some
  · intro maps
    obtain ⟨first, second, third, fourth⟩ := inner
    unfold mapped?
    rw [maps]
    change some (IPv4.mk _ _ _ _) = some (IPv4.mk _ _ _ _)
    rw [(halves_octets first second).1, (halves_octets first second).2,
      (halves_octets third fourth).1, (halves_octets third fourth).2]

end IPv6

namespace Address

/-- The address that an address counts as. -/
inductive CountsAs : Address → Address → Prop where
  | short (address : IPv4) : CountsAs (.v4 address) (.v4 address)
  | mapping {address : IPv6} {inner : IPv4} (maps : address.Maps inner) :
      CountsAs (.v6 address) (.v4 inner)
  | long {address : IPv6} (mapsNone : ∀ inner, ¬address.Maps inner) :
      CountsAs (.v6 address) (.v6 address)

end Address

namespace Endpoint

/-- No port is zero, and no address of 128 bits maps one of 32 bits. -/
structure Sound (endpoint : Endpoint) : Prop where
  port : endpoint.port ≠ some 0
  ipv6 : ∀ address, endpoint.ipv6 = some address → ∀ inner, ¬address.Maps inner

def put (endpoint : Endpoint) : Address → Endpoint
  | .v4 address => { endpoint with ipv4 := some address }
  | .v6 address => { endpoint with ipv6 := some address }

theorem exists_put (endpoint : Endpoint) (address : Address) :
    ∃ plain, address.CountsAs plain ∧ endpoint.withAddress address = endpoint.put plain := by
  cases address with
  | v4 short => exact ⟨_, .short short, rfl⟩
  | v6 long =>
      cases isMapped : long.mapped? with
      | some inner =>
          refine ⟨_, .mapping (IPv6.mapped?_eq_some_iff.mp isMapped), ?_⟩
          simp only [withAddress, isMapped, put]
      | none =>
          refine ⟨_, .long ?_, by simp only [withAddress, isMapped, put]⟩
          intro inner maps
          rw [IPv6.mapped?_eq_some_iff.mpr maps] at isMapped
          cases isMapped

theorem Sound.put {endpoint : Endpoint} (sound : endpoint.Sound) {address plain : Address}
    (counts : address.CountsAs plain) : (endpoint.put plain).Sound := by
  cases counts with
  | short | mapping => exact ⟨sound.port, sound.ipv6⟩
  | @long address mapsNone =>
      refine ⟨sound.port, ?_⟩
      intro other isAddress
      cases isAddress
      exact mapsNone

theorem Sound.withAddress {endpoint : Endpoint} (sound : endpoint.Sound) (address : Address) :
    (endpoint.withAddress address).Sound := by
  obtain ⟨plain, counts, same⟩ := endpoint.exists_put address
  rw [same]
  exact sound.put counts

theorem change_literal_none {endpoint : Endpoint} {text : String}
    (unread : ∀ address, ¬Address.Spells address (Blank.trim text).toList) :
    endpoint.change (.literal text) = (endpoint, some false) := by
  have nothing : Address.read? text = none := by
    rw [Option.eq_none_iff_forall_ne_some]
    intro address isRead
    exact unread address (Address.read?_eq_some_iff.mp isRead)
  simp only [change, parseAddress, nothing, Option.map_none]

theorem change_literal_some {endpoint : Endpoint} {text : String} {address : Address}
    (spelled : Address.Spells address (Blank.trim text).toList) :
    endpoint.change (.literal text) = (endpoint.withAddress address, some true) := by
  simp only [change, parseAddress, Address.read?_eq_some_iff.mpr spelled, Option.map_some]

theorem Sound.change {endpoint : Endpoint} (sound : endpoint.Sound) (change : Change) :
    (endpoint.change change).1.Sound := by
  cases change with
  | literal text =>
      by_cases spelled : ∃ address, Address.Spells address (Blank.trim text).toList
      · obtain ⟨address, spelled⟩ := spelled
        rw [change_literal_some spelled]
        exact sound.withAddress address
      · rw [change_literal_none (not_exists.mp spelled)]
        exact sound
  | address address => exact sound.withAddress address
  | port port =>
      refine ⟨?_, sound.ipv6⟩
      change (if port = 0 then none else some port) ≠ some 0
      split
      · nofun
      · rename_i nonzero
        exact fun isZero => nonzero (Option.some.inj isZero)
  | name name => exact ⟨sound.port, sound.ipv6⟩

def beginning : Option String → Endpoint
  | none => unknown
  | some name => named name

theorem beginning_sound (name : Option String) : (beginning name).Sound := by
  cases name <;> exact ⟨nofun, nofun⟩

def after (endpoint : Endpoint) (sequence : List Change) : Endpoint :=
  ((endpoint.changes sequence).getLast?.map Prod.fst).getD endpoint

theorem after_cons (endpoint : Endpoint) (first : Change) (rest : List Change) :
    endpoint.after (first :: rest) = (endpoint.change first).1.after rest := by
  unfold after
  rw [changes, List.getLast?_cons]
  cases (changes (endpoint.change first).1 rest).getLast? <;> rfl

theorem Sound.after {endpoint : Endpoint} (sound : endpoint.Sound) (sequence : List Change) :
    (endpoint.after sequence).Sound := by
  induction sequence generalizing endpoint with
  | nil => exact sound
  | cons first rest ih =>
      rw [after_cons]
      exact ih (sound.change first)

/-- After any changes an endpoint is sound.  A text that spells no address leaves it as it is,
and one that spells an address sets the field of the one that this counts as, and no other. -/
theorem changes_keep_sound (name : Option String) (sequence : List Change) :
    let endpoint := (beginning name).after sequence
    endpoint.Sound ∧
      ∀ text : String,
        ((∀ address, ¬Address.Spells address (Blank.trim text).toList) →
          endpoint.change (.literal text) = (endpoint, some false)) ∧
        ∀ address, Address.Spells address (Blank.trim text).toList →
          ∃ plain, address.CountsAs plain ∧
            endpoint.change (.literal text) = (endpoint.put plain, some true) := by
  intro endpoint
  refine ⟨(beginning_sound name).after sequence, ?_⟩
  intro text
  refine ⟨change_literal_none, ?_⟩
  intro address spelled
  obtain ⟨plain, counts, same⟩ := endpoint.exists_put address
  refine ⟨plain, counts, ?_⟩
  rw [change_literal_some spelled, same]

/-- Whichever way it is written, an address that maps one of 32 bits counts as that one. -/
example :
    ["::ffff:1.2.3.4", "::FFFF:102:304", " 0:0:0:0:0:ffff:0102:0304 "].map unknown.parseAddress =
      List.replicate 3 (some { unknown with ipv4 := some ⟨1, 2, 3, 4⟩ }) := by
  decide +kernel

end Endpoint

end SpanTrail
