/-! Time as whole microseconds since the epoch, in 64 bits. -/

namespace SpanTrail

abbrev Timestamp := UInt64

/-- The timestamp of a moment some seconds and nanoseconds from the epoch.  Parts
of a microsecond are dropped, moments before the epoch count as the epoch, and the
count is taken modulo two to the 64. -/
def Timestamp.ofEpoch (seconds : Int) (nanoseconds : Nat) : Timestamp :=
  UInt64.ofNat ((seconds * 1000000000 + nanoseconds).toNat / 1000)

def Timestamp.since (finish start : Timestamp) : UInt64 :=
  if finish < start then 0 else finish - start

theorem Timestamp.since_toNat (finish start : Timestamp) :
    (finish.since start).toNat = finish.toNat - start.toNat := by
  unfold since
  split
  · rename_i earlier
    have below := UInt64.lt_iff_toNat_lt.mp earlier
    simp only [UInt64.toNat_zero]
    omega
  · rename_i notEarlier
    rw [UInt64.toNat_sub_of_le _ _ (UInt64.not_lt.mp notEarlier)]

end SpanTrail
