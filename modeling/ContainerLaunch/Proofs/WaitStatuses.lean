import ContainerLaunch.WaitStatus

/-!
# Wait statuses read bit by bit

The word of a wait status tells by its bits one of three things: that the child exited, that it was
killed, or that it has not ended.  The code made of it is one byte, and is zero only for an exit
with zero.  Success is the word without any bit, which among the words of ended children comes to
the same.
-/

namespace ContainerLaunch.WaitStatus

variable {status : WaitStatus} {code signal : Nat}

/-- The low seven bits are zero, and the eight bits above the low byte are the code. -/
def HasExited (status : WaitStatus) (code : Nat) : Prop :=
  status.word &&& 0x7F = 0 ∧ (status.word >>> 8 &&& 0xFF).toNat = code

/-- The low seven bits are the signal, neither all zero nor all one. -/
def WasKilled (status : WaitStatus) (signal : Nat) : Prop :=
  (status.word &&& 0x7F).toNat = signal ∧ 0 < signal ∧ signal < 0x7F

/-- What is left when a child has neither exited nor been killed. -/
def Unended (status : WaitStatus) : Prop := status.word &&& 0x7F = 0x7F

theorem toNat_low (word : UInt32) : (word &&& 0x7F).toNat = word.toNat % 0x80 := by
  rw [UInt32.toNat_and]
  exact Nat.and_two_pow_sub_one_eq_mod word.toNat 7

theorem toNat_high (word : UInt32) :
    (word >>> 8 &&& 0xFF).toNat = word.toNat / 0x100 % 0x100 := by
  rw [UInt32.toNat_and, UInt32.toNat_shiftRight]
  calc
    _ = (word.toNat >>> 8) % 0x100 := Nat.and_two_pow_sub_one_eq_mod _ 8
    _ = _ := by rw [Nat.shiftRight_eq_div_pow]

theorem hasExited_iff :
    status.HasExited code ↔
      status.word.toNat % 0x80 = 0 ∧ status.word.toNat / 0x100 % 0x100 = code := by
  rw [HasExited, ← UInt32.toNat_inj, toNat_low, toNat_high, UInt32.toNat_zero]

theorem wasKilled_iff :
    status.WasKilled signal ↔
      status.word.toNat % 0x80 = signal ∧ 0 < signal ∧ signal < 0x7F := by
  rw [WasKilled, toNat_low]

theorem exitCode_of_hasExited (h : status.HasExited code) : status.exitCode = code := by
  obtain ⟨hlow, hcode⟩ := hasExited_iff.mp h
  rw [exitCode, ending]
  simp only [if_pos hlow, hcode]

theorem exitCode_of_wasKilled (h : status.WasKilled signal) : status.exitCode = 128 + signal := by
  obtain ⟨hlow, hpos, hlt⟩ := wasKilled_iff.mp h
  rw [exitCode, ending]
  simp only [hlow, if_neg (Nat.ne_of_gt hpos), if_neg (Nat.ne_of_lt hlt)]

theorem exitCode_of_unended (h : status.Unended) : status.exitCode = 1 := by
  have hlow : status.word.toNat % 0x80 = 0x7F := by
    rw [← toNat_low, h]
    rfl
  rw [exitCode, ending]
  simp [hlow]

/-- Every word tells one of three things. -/
theorem told (status : WaitStatus) :
    (∃ code < 0x100, status.HasExited code) ∨ (∃ signal, status.WasKilled signal) ∨
      status.Unended := by
  by_cases hexited : status.word.toNat % 0x80 = 0
  · exact .inl ⟨_, Nat.mod_lt _ (by decide), hasExited_iff.mpr ⟨hexited, rfl⟩⟩
  by_cases hunended : status.word.toNat % 0x80 = 0x7F
  · refine .inr (.inr (UInt32.toNat_inj.mp ?_))
    rw [toNat_low, hunended]
    rfl
  · exact .inr (.inl ⟨_, wasKilled_iff.mpr ⟨rfl, by omega, by omega⟩⟩)

theorem exitCode_le (status : WaitStatus) : status.exitCode ≤ 255 := by
  rcases status.told with ⟨code, hcode, h⟩ | ⟨signal, h⟩ | h
  · rw [exitCode_of_hasExited h]
    omega
  · have hlt := h.2.2
    rw [exitCode_of_wasKilled h]
    omega
  · rw [exitCode_of_unended h]
    decide

theorem exitCode_eq_zero_iff : status.exitCode = 0 ↔ status.HasExited 0 := by
  refine ⟨fun h ↦ ?_, exitCode_of_hasExited⟩
  rcases status.told with ⟨code, -, htold⟩ | ⟨signal, htold⟩ | htold
  · rw [exitCode_of_hasExited htold] at h
    exact h ▸ htold
  · rw [exitCode_of_wasKilled htold] at h
    omega
  · rw [exitCode_of_unended htold] at h
    omega

theorem exitCode_of_succeeded (h : status.succeeded = true) : status.exitCode = 0 := by
  have hword : status.word = 0 := beq_iff_eq.mp h
  apply exitCode_of_hasExited
  rw [HasExited, hword]
  decide

theorem hasExited_exited (code : UInt8) : (exited code).HasExited code.toNat := by
  have hcode := code.toNat_lt
  rw [hasExited_iff, exited, UInt32.toNat_mul, UInt8.toNat_toUInt32]
  simp only [UInt32.reduceToNat]
  omega

theorem wasKilled_killed (image : Bool) (hpos : 0 < signal) (hlt : signal < 0x7F) :
    (killed signal image).WasKilled signal := by
  rw [wasKilled_iff, killed, UInt32.toNat_ofNat']
  split <;> omega

/-- Of the words of ended children only one has no bit set. -/
theorem Final.succeeded_iff (h : status.Final) :
    status.succeeded = true ↔ status.exitCode = 0 := by
  refine ⟨exitCode_of_succeeded, fun hzero ↦ ?_⟩
  have hexited := exitCode_eq_zero_iff.mp hzero
  cases h with
  | exited code =>
    have hcode : code.toNat = 0 := (hasExited_exited code).2.symm.trans hexited.2
    rw [UInt8.toNat_inj.mp (hcode.trans UInt8.toNat_zero.symm)]
    rfl
  | @killed signal image hpos hlt =>
    have hsignal := (wasKilled_killed image hpos hlt).1
    rw [hexited.1] at hsignal
    exact absurd hsignal (Nat.ne_of_lt hpos)

end ContainerLaunch.WaitStatus
