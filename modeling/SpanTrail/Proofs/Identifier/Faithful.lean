import SpanTrail.Identifier
import SpanTrail.Proofs.Text
import Mathlib.Data.List.OfFn

/-! The text and the bytes of identities.  Both stand for the identity that they were written
from.  As text any hexadecimal numeral is taken that fits, and writing what was read gives
its digits in lower case and in the width of the identity. -/

namespace SpanTrail

theorem toList_toBigEndian_succ (width number : Nat) :
    (toBigEndian (width + 1) number).toList =
      (toBigEndian width (number / 256)).toList ++ [UInt8.ofNat number] := by
  unfold toBigEndian
  rw [Vector.toList_ofFn, Vector.toList_ofFn, List.ofFn_succ_last]
  congr 2
  · funext index
    have inside := index.isLt
    have shift : 8 * (width + 1 - 1 - index.val) = 8 + 8 * (width - 1 - index.val) := by
      omega
    simp only [Fin.val_castSucc]
    rw [shift, Nat.shiftRight_add, Nat.shiftRight_eq_div_pow number 8]
  · simp

/-- The bytes of a number denote what is left of it in their width. -/
theorem bigEndian_toBigEndian (width number : Nat) :
    bigEndian (toBigEndian width number) = number % 256 ^ width := by
  induction width generalizing number with
  | zero =>
      rw [Nat.pow_zero, Nat.mod_one]
      rfl
  | succ width ih =>
      have front := ih (number / 256)
      unfold bigEndian at front ⊢
      have last : (UInt8.ofNat number).toNat = number % 256 := UInt8.toNat_ofNat'
      rw [toList_toBigEndian_succ, List.foldl_append, front, List.foldl_cons, List.foldl_nil, last,
        Nat.pow_succ', Nat.mod_mul]
      omega

/-! ### Identities as numbers -/

/-- Identities of a kind as the numbers that fit into some bytes.  Each is written in a width
that its number does not exceed. -/
structure Numbering (Id : Type) (bytes : Nat) where
  toNat : Id → Nat
  ofNat : Nat → Id
  width : Id → Nat
  ofNat_toNat : ∀ id, ofNat (toNat id) = id
  toNat_ofNat : ∀ number < 256 ^ bytes, toNat (ofNat number) = number
  toNat_lt : ∀ id, toNat id < 256 ^ bytes
  width_positive : ∀ id, 0 < width id
  narrow : ∀ id, toNat id < 16 ^ width id

namespace Numbering

variable {Id : Type} {bytes : Nat} (numbering : Numbering Id bytes)

def text (id : Id) : String :=
  String.ofList (Hex.fixed (numbering.width id) (numbering.toNat id))

def read (written : String) : Except Hex.ReadError Id :=
  (Hex.read (256 ^ bytes) written.toList).map numbering.ofNat

def toBytes (id : Id) : Vector UInt8 bytes :=
  toBigEndian bytes (numbering.toNat id)

def ofBytes (written : Vector UInt8 bytes) : Id :=
  numbering.ofNat (bigEndian written)

theorem read_text (id : Id) : numbering.read (numbering.text id) = .ok id := by
  unfold read text
  rw [String.toList_ofList,
    Hex.read_fixed (numbering.width_positive id) (numbering.narrow id) (numbering.toNat_lt id),
    Except.map, numbering.ofNat_toNat]

theorem ofBytes_toBytes (id : Id) : numbering.ofBytes (numbering.toBytes id) = id := by
  unfold ofBytes toBytes
  rw [bigEndian_toBigEndian, Nat.mod_eq_of_lt (numbering.toNat_lt id), numbering.ofNat_toNat]

theorem read_eq_ok_iff {written : String} {id : Id} :
    numbering.read written = .ok id ↔
      Hex.Numeral (256 ^ bytes) (Hex.unsigned written.toList) ∧
        numbering.toNat id = Hex.value (Hex.unsigned written.toList) := by
  have positive : 0 < 256 ^ bytes := Nat.pow_pos (by decide)
  unfold read
  cases result : Hex.read (256 ^ bytes) written.toList with
  | error cause =>
      constructor
      · nofun
      · rintro ⟨numeral, same⟩
        have isRead := (Hex.read_eq_ok_iff positive).mpr ⟨numeral, same⟩
        rw [result] at isRead
        cases isRead
  | ok number =>
      obtain ⟨numeral, rfl⟩ := (Hex.read_eq_ok_iff positive).mp result
      rw [Except.map, Except.ok.injEq, and_iff_right numeral]
      constructor
      · rintro rfl
        exact numbering.toNat_ofNat _ numeral.fits
      · intro same
        rw [← same, numbering.ofNat_toNat]

theorem exists_read_iff {written : String} :
    (∃ id, numbering.read written = .ok id) ↔
      Hex.Numeral (256 ^ bytes) (Hex.unsigned written.toList) := by
  constructor
  · rintro ⟨id, isRead⟩
    exact (numbering.read_eq_ok_iff.mp isRead).1
  · intro numeral
    exact ⟨_, numbering.read_eq_ok_iff.mpr ⟨numeral, numbering.toNat_ofNat _ numeral.fits⟩⟩

theorem text_of_read {written : String} {id : Id} (isRead : numbering.read written = .ok id) :
    (numbering.text id).toList =
      Hex.inWidth (numbering.width id) ((Hex.unsigned written.toList).map Char.toLower) := by
  obtain ⟨numeral, same⟩ := numbering.read_eq_ok_iff.mp isRead
  have lower : ∀ digit ∈ (Hex.unsigned written.toList).map Char.toLower,
      digit ∈ Hex.lowerDigits :=
    List.forall_mem_map.mpr numeral.digits
  have narrow := numbering.narrow id
  rw [same] at narrow
  unfold text
  rw [String.toList_ofList, same]
  exact Hex.fixed_eq_inWidth lower narrow

end Numbering

/-! ### Forms of identities -/

/-- The text and the bytes of identities of a kind.  Both are read back, and as text every
numeral is taken that fits. -/
structure Faithful {Id : Type} {bytes : Nat} (width : Id → Nat) (text : Id → String)
    (read : String → Except Hex.ReadError Id) (toBytes : Id → Vector UInt8 bytes)
    (ofBytes : Vector UInt8 bytes → Id) : Prop where
  text_length : ∀ id, (text id).length = width id
  text_lower : ∀ id, ∀ digit ∈ (text id).toList, digit ∈ Hex.lowerDigits
  read_text : ∀ id, read (text id) = .ok id
  ofBytes_toBytes : ∀ id, ofBytes (toBytes id) = id
  exists_read_iff : ∀ written,
    (∃ id, read written = .ok id) ↔
      Hex.Numeral (2 ^ (8 * bytes)) (Hex.unsigned written.toList)
  text_of_read : ∀ written id, read written = .ok id →
    (text id).toList =
      Hex.inWidth (width id) ((Hex.unsigned written.toList).map Char.toLower)

theorem Numbering.faithful {Id : Type} {bytes : Nat} (numbering : Numbering Id bytes) :
    Faithful numbering.width numbering.text numbering.read numbering.toBytes
      numbering.ofBytes where
  text_length id := by
    unfold text
    rw [String.length_ofList, Hex.fixed_length]
  text_lower id := by
    unfold text
    rw [String.toList_ofList, ← Hex.all_isLowerDigit]
    exact Hex.fixed_lower _ _
  read_text := numbering.read_text
  ofBytes_toBytes := numbering.ofBytes_toBytes
  exists_read_iff written := by
    rw [Nat.pow_mul]
    exact numbering.exists_read_iff
  text_of_read _ _ := numbering.text_of_read

namespace TraceId

theorem isWide_iff (id : TraceId) : id.isWide = true ↔ 16 ^ 16 ≤ id.toNat := by
  have low := id.low.toNat_lt
  have high : 16 ^ 16 ≤ id.toNat ↔ id.high.toNat ≠ 0 := by
    unfold toNat
    omega
  unfold isWide
  rw [high, bne_iff_ne, ne_eq, ne_eq, ← UInt64.toNat_inj]
  rfl

def width (id : TraceId) : Nat :=
  if id.isWide then 32 else 16

def numbering : Numbering TraceId 16 where
  toNat := toNat
  ofNat := ofNat
  width := width
  ofNat_toNat := ofNat_toNat
  toNat_ofNat _ := toNat_ofNat
  toNat_lt := toNat_lt
  width_positive id := by
    unfold width
    split <;> decide
  narrow id := by
    unfold width
    split
    · exact id.toNat_lt
    · rename_i narrow
      rw [isWide_iff] at narrow
      omega

theorem width_eq (id : TraceId) : id.width = if id.high = 0 then 16 else 32 := by
  unfold width isWide
  by_cases noHigh : id.high = 0
  · rw [if_pos noHigh, noHigh]
    rfl
  · rw [if_neg noHigh, if_pos (bne_iff_ne.mpr noHigh)]

end TraceId

def SpanId.numbering : Numbering SpanId 8 where
  toNat := toNat
  ofNat := ofNat
  width _ := 16
  ofNat_toNat := ofNat_toNat
  toNat_ofNat _ := toNat_ofNat
  toNat_lt id := id.value.toNat_lt
  width_positive _ := by decide
  narrow id := id.value.toNat_lt

/-- Identities of both kinds are read back from their text and their bytes, and are read from
every numeral that fits, whatever its width and case.  A trace is made of its halves. -/
theorem identities_read_back :
    Faithful (fun id : TraceId => if id.high = 0 then 16 else 32) TraceId.text TraceId.read
      TraceId.toBytes TraceId.ofBytes ∧
    Faithful (fun _ : SpanId => 16) SpanId.text SpanId.read SpanId.toBytes SpanId.ofBytes ∧
    ∀ id : TraceId, TraceId.ofNat (id.high.toNat * 2 ^ 64 + id.low.toNat) = id ∧
      ⟨id.high, id.low⟩ = id := by
  refine ⟨?_, SpanId.numbering.faithful, ?_⟩
  · have width : TraceId.width = fun id => if id.high = 0 then 16 else 32 :=
      funext TraceId.width_eq
    rw [← width]
    exact TraceId.numbering.faithful
  · intro id
    refine ⟨?_, rfl⟩
    have number : id.high.toNat * 2 ^ 64 + id.low.toNat = id.toNat := by
      unfold TraceId.toNat
      rw [Nat.shiftLeft_eq]
    rw [number, TraceId.ofNat_toNat]

/-- Any number of zeros in front is read, and written are as many as the width needs. -/
example : (SpanId.read "+00000000000000000000002A").map SpanId.text = .ok "000000000000002a" := by
  decide +kernel

end SpanTrail
