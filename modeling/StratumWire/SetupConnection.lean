import StratumWire.Codec
import StratumWire.Flags

/-! `SetupConnection` and its negotiation: the flag setters, `check_flags`, `get_version`, and
`Protocol`'s discriminant. -/

namespace StratumWire

inductive Protocol where
  | miningProtocol
  | jobDeclarationProtocol
  | templateDistributionProtocol
  deriving DecidableEq, Repr

structure SetupConnection where
  protocol : Protocol
  minVersion : UInt16
  maxVersion : UInt16
  flags : UInt32
  endpointHost : Str0255
  endpointPort : UInt16
  vendor : Str0255
  hardwareVersion : Str0255
  firmware : Str0255
  deviceId : Str0255
  deriving DecidableEq

structure SetupConnectionSuccess where
  usedVersion : UInt16
  flags : UInt32
  deriving DecidableEq

structure SetupConnectionError where
  flags : UInt32
  errorCode : Str0255
  deriving DecidableEq

/-- Modelled from the spec: the shared constant table of `const_sv2` that gives each protocol its
discriminant. Rust rejects a `#[repr(u8)]` enum whose discriminants repeat, so they are
distinct. -/
structure ProtocolDiscriminants where
  mining : UInt8
  jobDeclaration : UInt8
  templateDistribution : UInt8
  distinct : mining ≠ jobDeclaration ∧ mining ≠ templateDistribution ∧
    jobDeclaration ≠ templateDistribution

namespace Protocol

variable (d : ProtocolDiscriminants)

def toU8 : Protocol → UInt8
  | miningProtocol => d.mining
  | jobDeclarationProtocol => d.jobDeclaration
  | templateDistributionProtocol => d.templateDistribution

def tryFrom (value : UInt8) : Except Unit Protocol :=
  if value = d.mining then .ok miningProtocol
  else if value = d.jobDeclaration then .ok jobDeclarationProtocol
  else if value = d.templateDistribution then .ok templateDistributionProtocol
  else .error ()

def fromDecodedFields (v : List UInt8) : Except Error Protocol :=
  match v.getLast? with
  | none => .error .noDecodableFieldPassed
  | some val => (tryFrom d val).mapError fun _ => .valueIsNotAValidProtocol val

instance : GetSize Protocol := ⟨fun _ => 1⟩

@[simp] theorem tryFrom_toU8 (p : Protocol) : tryFrom d (p.toU8 d) = .ok p := by
  obtain ⟨miningJob, miningTemplate, jobTemplate⟩ := d.distinct
  cases p
  · simp [tryFrom, toU8]
  · simp [tryFrom, toU8, Ne.symm miningJob]
  · simp [tryFrom, toU8, Ne.symm miningTemplate, Ne.symm jobTemplate]

theorem tryFrom_eq_ok {value : UInt8} {p : Protocol} :
    tryFrom d value = .ok p ↔ p.toU8 d = value := by
  constructor
  · intro converted
    unfold tryFrom at converted
    split_ifs at converted with mining job template <;> cases converted
    · exact mining.symm
    · exact job.symm
    · exact template.symm
  · rintro rfl
    exact tryFrom_toU8 d p

theorem fromDecodedFields_singleton {val : UInt8} {p : Protocol} :
    fromDecodedFields d [val] = .ok p ↔ p.toU8 d = val := by
  rw [← tryFrom_eq_ok]
  cases converted : tryFrom d val <;> simp [fromDecodedFields, Except.mapError, converted]

theorem fromDecodedFields_of_unknown {val : UInt8} (unknown : ∀ p : Protocol, p.toU8 d ≠ val)
    (v : List UInt8) :
    fromDecodedFields d (v ++ [val]) = .error (.valueIsNotAValidProtocol val) := by
  cases known : tryFrom d val with
  | error u => simp [fromDecodedFields, known, Except.mapError]
  | ok p => exact absurd ((tryFrom_eq_ok d).mp known) (unknown p)

end Protocol

namespace SetupConnection

def orFlags (mask : UInt32) (s : SetupConnection) : SetupConnection :=
  { s with flags := s.flags ||| mask }

def setRequiresStandardJob (s : SetupConnection) : SetupConnection :=
  s.orFlags 0b00000000000000000000000000000001

def setAsyncJobNogotiation (s : SetupConnection) : SetupConnection :=
  s.orFlags 0b00000000000000000000000000000001

def checkFlags (protocol : Protocol) (availableFlags requiredFlags : UInt32) : Bool :=
  match protocol with
  | .miningProtocol =>
    let available := reverseBits availableFlags
    let requiredFlags := reverseBits requiredFlags
    let requiresWorkSelectionPassed := decide (requiredFlags >>> 30 > 0)
    let requiresVersionRollingPassed := decide (requiredFlags >>> 29 > 0)
    let requiresWorkSelectionSelf := decide (available >>> 30 > 0)
    let requiresVersionRollingSelf := decide (available >>> 29 > 0)
    let workSelection := !requiresWorkSelectionSelf || requiresWorkSelectionPassed
    let versionRolling := !requiresVersionRollingSelf || requiresVersionRollingPassed
    workSelection && versionRolling
  | .jobDeclarationProtocol =>
    let available := reverseBits availableFlags
    let required := reverseBits requiredFlags
    let requiresAsyncJobMiningPassed := decide ((required >>> 31) &&& 1 > 0)
    let requiresAsyncJobMiningSelf := decide ((available >>> 31) &&& 1 > 0)
    match requiresAsyncJobMiningSelf, requiresAsyncJobMiningPassed with
    | true, true => true
    | true, false => true
    | false, true => false
    | false, false => true
  | .templateDistributionProtocol => false

def getVersion (s : SetupConnection) (minVersion maxVersion : UInt16) : Option UInt16 :=
  if s.minVersion > maxVersion ∨ minVersion > s.maxVersion then none
  else some (min s.maxVersion maxVersion)

def requiresStandardJob (s : SetupConnection) : Bool :=
  hasRequiresStdJob s.flags

def SharedVersion (s : SetupConnection) (minVersion maxVersion u : UInt16) : Prop :=
  s.minVersion ≤ u ∧ u ≤ s.maxVersion ∧ minVersion ≤ u ∧ u ≤ maxVersion

instance (s : SetupConnection) (minVersion maxVersion u : UInt16) :
    Decidable (s.SharedVersion minVersion maxVersion u) :=
  inferInstanceAs (Decidable (_ ∧ _ ∧ _ ∧ _))

def createSetupConnection : SetupConnection where
  protocol := .miningProtocol
  minVersion := 1
  maxVersion := 4
  flags := 0
  endpointHost := ⟨asciiBytes "0.0.0.0", by decide⟩
  endpointPort := 0
  vendor := ⟨asciiBytes "vendor", by decide⟩
  hardwareVersion := ⟨asciiBytes "hw_version", by decide⟩
  firmware := ⟨asciiBytes "firmware", by decide⟩
  deviceId := ⟨asciiBytes "device_id", by decide⟩

def LargestSharedVersion (s : SetupConnection) (minVersion maxVersion v : UInt16) : Prop :=
  s.SharedVersion minVersion maxVersion v ∧ ∀ u, s.SharedVersion minVersion maxVersion u → u ≤ v

@[simp] theorem orFlags_flags (mask : UInt32) (s : SetupConnection) :
    (s.orFlags mask).flags = s.flags ||| mask := rfl

theorem testBit_orFlags_one (s : SetupConnection) (i : Nat) :
    (s.orFlags 1).flags.toNat.testBit i = (decide (i = 0) || s.flags.toNat.testBit i) := by
  rw [orFlags_flags, testBit_lor, Bool.or_comm, show (1 : UInt32).toNat = 2 ^ 0 from rfl,
    Nat.testBit_two_pow]
  exact congrArg (· || _) (decide_eq_decide.mpr eq_comm)

section Flags

variable (available required : UInt32)

/-- The mining branch shifts the reversed words by 30 and 29 without masking, so it reads bits
0 and 1, and bits 0 to 2, of each word. -/
theorem checkFlags_mining :
    checkFlags .miningProtocol available required =
      ((!(available.toNat.testBit 0 || available.toNat.testBit 1) ||
          (required.toNat.testBit 0 || required.toNat.testBit 1)) &&
        (!(available.toNat.testBit 0 || available.toNat.testBit 1 || available.toNat.testBit 2) ||
          (required.toNat.testBit 0 || required.toNat.testBit 1 || required.toNat.testBit 2))) := by
  unfold checkFlags
  simp only [shiftRight_30_gt_zero, shiftRight_29_gt_zero, testBit_reverseBits_of_add _ 31 0 rfl,
    testBit_reverseBits_of_add _ 30 1 rfl, testBit_reverseBits_of_add _ 29 2 rfl]

/-- At `available = 1` (only bit 0, requires-standard-jobs, set locally) and `required = 0` the
mining check fails although neither version rolling nor work selection is required; at
`available = 4`, `required = 2` it passes although work selection is required locally and not
offered. -/
theorem check_flags_mining_unmasked_shift :
    checkFlags .miningProtocol 1 0 = false ∧
      ((!hasVersionRolling 1 || hasVersionRolling 0) &&
        (!hasWorkSelection 1 || hasWorkSelection 0)) = true ∧
    checkFlags .miningProtocol 4 2 = true ∧
      ((!hasVersionRolling 4 || hasVersionRolling 2) &&
        (!hasWorkSelection 4 || hasWorkSelection 2)) = false := by
  decide

end Flags

section Versions

theorem uint16_le_iff_toNat {a b : UInt16} : a ≤ b ↔ a.toNat ≤ b.toNat := Iff.rfl

theorem toNat_min_uint16 (a b : UInt16) : (min a b).toNat = min a.toNat b.toNat := by
  show (if a ≤ b then a else b).toNat = _
  split <;> rename_i order <;> rw [uint16_le_iff_toNat] at order <;> omega

variable (s : SetupConnection) (minVersion maxVersion : UInt16)

theorem getVersion_eq_some {v : UInt16} :
    s.getVersion minVersion maxVersion = some v ↔
      s.minVersion ≤ maxVersion ∧ minVersion ≤ s.maxVersion ∧
        v = min s.maxVersion maxVersion := by
  unfold getVersion
  by_cases outside : s.minVersion > maxVersion ∨ minVersion > s.maxVersion
  · simp only [gt_iff_lt, ← UInt16.not_le] at outside
    rw [if_pos (by simpa only [gt_iff_lt, ← UInt16.not_le] using outside)]
    exact ⟨fun h => (nomatch h), fun ⟨low, localLow, _⟩ => by tauto⟩
  · simp only [gt_iff_lt, not_or, UInt16.not_lt] at outside
    rw [if_neg (by simpa only [gt_iff_lt, not_or, UInt16.not_lt] using outside)]
    simp only [Option.some.injEq, outside, true_and, eq_comm]

theorem largestSharedVersion_min (lower : s.minVersion ≤ min s.maxVersion maxVersion)
    (localLower : minVersion ≤ min s.maxVersion maxVersion) :
    s.LargestSharedVersion minVersion maxVersion (min s.maxVersion maxVersion) := by
  have top := toNat_min_uint16 s.maxVersion maxVersion
  refine ⟨⟨lower, ?_, localLower, ?_⟩, fun u ⟨_, below, _, localBelow⟩ => ?_⟩ <;>
    simp only [uint16_le_iff_toNat, top] at * <;> omega

/-- Whenever the two ranges share a version `get_version` returns the largest one; it returns
only shared versions when both ranges are ordered, which nothing checks of a peer's. -/
theorem get_version_largest_shared :
    ((∃ u, s.SharedVersion minVersion maxVersion u) →
      ∃ v, s.getVersion minVersion maxVersion = some v ∧
        s.LargestSharedVersion minVersion maxVersion v) ∧
    (s.minVersion ≤ s.maxVersion → minVersion ≤ maxVersion →
      ∀ v, s.getVersion minVersion maxVersion = some v →
        s.LargestSharedVersion minVersion maxVersion v) := by
  have top := toNat_min_uint16 s.maxVersion maxVersion
  constructor
  · rintro ⟨u, low, high, localLow, localHigh⟩
    simp only [uint16_le_iff_toNat] at low high localLow localHigh
    refine ⟨_, (getVersion_eq_some s minVersion maxVersion).mpr ⟨?_, ?_, rfl⟩,
      largestSharedVersion_min s minVersion maxVersion ?_ ?_⟩ <;>
      simp only [uint16_le_iff_toNat, top] <;> omega
  · intro ordered localOrdered v returned
    obtain ⟨low, localLow, rfl⟩ := (getVersion_eq_some s minVersion maxVersion).mp returned
    apply largestSharedVersion_min <;>
      simp only [uint16_le_iff_toNat, top] at * <;> omega

/-- A peer offering the inverted range `[5, 3]` against the local range `[1, 10]` is given
version 3, although the two ranges share no version. -/
theorem get_version_inverted_offer :
    let s := { createSetupConnection with minVersion := 5, maxVersion := 3 }
    s.getVersion 1 10 = some 3 ∧ ¬ ∃ u, s.SharedVersion 1 10 u := by
  refine ⟨rfl, fun ⟨u, low, high, _⟩ => ?_⟩
  simp only [uint16_le_iff_toNat] at low high
  exact absurd (le_trans low high) (by decide)

theorem get_version_test_offer :
    createSetupConnection.minVersion ≤ createSetupConnection.maxVersion ∧ (1 : UInt16) ≤ 5 ∧
      createSetupConnection.getVersion 1 5 = some 4 ∧
      createSetupConnection.LargestSharedVersion 1 5 4 :=
  ⟨by decide, by decide, rfl,
    (get_version_largest_shared createSetupConnection 1 5).2 (by decide) (by decide) 4 rfl⟩

end Versions

theorem setters_eq_orFlags (s : SetupConnection) :
    ∀ set ∈ [setRequiresStandardJob, setAsyncJobNogotiation], set s = s.orFlags 1 := by
  simp only [List.mem_cons, List.mem_singleton, List.not_mem_nil, or_false]
  rintro set (rfl | rfl) <;> rfl

theorem flag_helpers_and_setters :
    (∀ flags : UInt32, hasRequiresStdJob flags = flags.toNat.testBit 0 ∧
        hasVersionRolling flags = flags.toNat.testBit 1 ∧
        hasWorkSelection flags = flags.toNat.testBit 2) ∧
    ∀ s : SetupConnection, ∀ set ∈ [setRequiresStandardJob, setAsyncJobNogotiation],
      set s = { s with flags := s.flags ||| 1 } ∧
      (set s).requiresStandardJob = true ∧
      hasVersionRolling (set s).flags = hasVersionRolling s.flags ∧
      hasWorkSelection (set s).flags = hasWorkSelection s.flags ∧
      ∀ i, i ≠ 0 → (set s).flags.toNat.testBit i = s.flags.toNat.testBit i := by
  refine ⟨fun flags => ⟨hasRequiresStdJob_eq flags, hasVersionRolling_eq flags,
    hasWorkSelection_eq flags⟩, fun s set member => ?_⟩
  rw [setters_eq_orFlags s set member, requiresStandardJob, hasRequiresStdJob_eq,
    hasVersionRolling_eq, hasVersionRolling_eq, hasWorkSelection_eq, hasWorkSelection_eq,
    testBit_orFlags_one, testBit_orFlags_one, testBit_orFlags_one]
  exact ⟨rfl, rfl, rfl, rfl, fun i nonzero => by rw [testBit_orFlags_one]; simp [nonzero]⟩

theorem set_requires_std_job_test :
    createSetupConnection.requiresStandardJob = false ∧
      setRequiresStandardJob ∈ [setRequiresStandardJob, setAsyncJobNogotiation] ∧
      (setRequiresStandardJob createSetupConnection).requiresStandardJob = true :=
  ⟨by decide, List.mem_cons_self _ _,
    (flag_helpers_and_setters.2 createSetupConnection _ (List.mem_cons_self _ _)).2.1⟩

end SetupConnection

end StratumWire
