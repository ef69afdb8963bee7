import StratumWire.MessageCodec

/-! The C representations of the common and template-distribution messages: each `C*` struct,
its `From` conversion and `to_rust_rep_mut`. -/

namespace StratumWire

structure CSetupConnection where
  protocol : Protocol
  minVersion : UInt16
  maxVersion : UInt16
  flags : UInt32
  endpointHost : CVec
  endpointPort : UInt16
  vendor : CVec
  hardwareVersion : CVec
  firmware : CVec
  deviceId : CVec
  deriving DecidableEq

structure CSetupConnectionError where
  flags : UInt32
  errorCode : CVec
  deriving DecidableEq

structure CRequestTransactionDataSuccess where
  templateId : UInt64
  excessData : CVec
  transactionList : CVec2
  deriving DecidableEq

structure CRequestTransactionDataError where
  templateId : UInt64
  errorCode : CVec
  deriving DecidableEq

structure CSubmitSolution where
  templateId : UInt64
  version : UInt32
  headerTimestamp : UInt32
  headerNonce : UInt32
  coinbaseTx : CVec
  deriving DecidableEq

namespace CSetupConnection

def toRustRepMut (c : CSetupConnection) : Except Error SetupConnection := do
  let endpointHost : Str0255 ← Inner.tryFrom c.endpointHost.asMutSlice
  let vendor : Str0255 ← Inner.tryFrom c.vendor.asMutSlice
  let hardwareVersion : Str0255 ← Inner.tryFrom c.hardwareVersion.asMutSlice
  let firmware : Str0255 ← Inner.tryFrom c.firmware.asMutSlice
  let deviceId : Str0255 ← Inner.tryFrom c.deviceId.asMutSlice
  pure
    { protocol := c.protocol
      minVersion := c.minVersion
      maxVersion := c.maxVersion
      flags := c.flags
      endpointHost
      endpointPort := c.endpointPort
      vendor
      hardwareVersion
      firmware
      deviceId }

def fromSetupConnection (v : SetupConnection) : CSetupConnection where
  protocol := v.protocol
  minVersion := v.minVersion
  maxVersion := v.maxVersion
  flags := v.flags
  endpointHost := CVec.fromInner v.endpointHost
  endpointPort := v.endpointPort
  vendor := CVec.fromInner v.vendor
  hardwareVersion := CVec.fromInner v.hardwareVersion
  firmware := CVec.fromInner v.firmware
  deviceId := CVec.fromInner v.deviceId

def FitsBounds (c : CSetupConnection) : Prop :=
  c.endpointHost.data.length ≤ 255 ∧ c.vendor.data.length ≤ 255 ∧
    c.hardwareVersion.data.length ≤ 255 ∧ c.firmware.data.length ≤ 255 ∧
    c.deviceId.data.length ≤ 255

instance (c : CSetupConnection) : Decidable c.FitsBounds :=
  inferInstanceAs (Decidable (_ ∧ _ ∧ _ ∧ _ ∧ _))

theorem toRustRepMut_eq_ok {c : CSetupConnection} {m : SetupConnection} :
    c.toRustRepMut = .ok m ↔ fromSetupConnection m = c := by
  constructor
  · intro converted
    simp only [toRustRepMut, except_bind_eq_ok, Inner.tryFrom_eq_ok, except_pure_eq_ok] at converted
    obtain ⟨_, host, _, vendor, _, hardware, _, firmware, _, device, rfl⟩ := converted
    cases c
    simp_all [fromSetupConnection, CVec.fromInner, CVec.asMutSlice]
  · rintro rfl
    simp [toRustRepMut, fromSetupConnection]

theorem fitsBounds_iff {c : CSetupConnection} :
    c.FitsBounds ↔ ∃ m, fromSetupConnection m = c := by
  constructor
  · rintro ⟨host, vendor, hardware, firmware, device⟩
    exact ⟨⟨c.protocol, c.minVersion, c.maxVersion, c.flags, ⟨_, host⟩, c.endpointPort,
      ⟨_, vendor⟩, ⟨_, hardware⟩, ⟨_, firmware⟩, ⟨_, device⟩⟩, rfl⟩
  · rintro ⟨m, rfl⟩
    exact ⟨m.endpointHost.bounded, m.vendor.bounded, m.hardwareVersion.bounded,
      m.firmware.bounded, m.deviceId.bounded⟩

theorem lengthErrors_toRustRepMut (c : CSetupConnection) : LengthErrors c.toRustRepMut :=
  lengthErrors_bind (Inner.lengthErrors_tryFrom _) fun _ =>
    lengthErrors_bind (Inner.lengthErrors_tryFrom _) fun _ =>
      lengthErrors_bind (Inner.lengthErrors_tryFrom _) fun _ =>
        lengthErrors_bind (Inner.lengthErrors_tryFrom _) fun _ =>
          lengthErrors_bind (Inner.lengthErrors_tryFrom _) fun _ => lengthErrors_pure _

theorem toRustRepMut_eq_error (c : CSetupConnection) (e : Error) :
    c.toRustRepMut = .error e ↔ ¬ c.FitsBounds ∧ e = .lengthViolation :=
  error_iff_not_fits (lengthErrors_toRustRepMut c) (fun _ => toRustRepMut_eq_ok) fitsBounds_iff e

end CSetupConnection

namespace CSetupConnectionError

def toRustRepMut (c : CSetupConnectionError) : Except Error SetupConnectionError := do
  let errorCode : Str0255 ← Inner.tryFrom c.errorCode.asMutSlice
  pure { flags := c.flags, errorCode }

def fromSetupConnectionError (v : SetupConnectionError) : CSetupConnectionError where
  flags := v.flags
  errorCode := CVec.fromInner v.errorCode

def FitsBounds (c : CSetupConnectionError) : Prop :=
  c.errorCode.data.length ≤ 255

instance (c : CSetupConnectionError) : Decidable c.FitsBounds :=
  inferInstanceAs (Decidable (_ ≤ _))

theorem toRustRepMut_eq_ok {c : CSetupConnectionError} {m : SetupConnectionError} :
    c.toRustRepMut = .ok m ↔ fromSetupConnectionError m = c := by
  constructor
  · intro converted
    simp only [toRustRepMut, except_bind_eq_ok, Inner.tryFrom_eq_ok, except_pure_eq_ok] at converted
    obtain ⟨_, code, rfl⟩ := converted
    cases c
    simp_all [fromSetupConnectionError, CVec.fromInner, CVec.asMutSlice]
  · rintro rfl
    simp [toRustRepMut, fromSetupConnectionError]

theorem fitsBounds_iff {c : CSetupConnectionError} :
    c.FitsBounds ↔ ∃ m, fromSetupConnectionError m = c :=
  ⟨fun code => ⟨⟨c.flags, ⟨_, code⟩⟩, rfl⟩, fun ⟨m, copied⟩ => copied ▸ m.errorCode.bounded⟩

theorem toRustRepMut_eq_error (c : CSetupConnectionError) (e : Error) :
    c.toRustRepMut = .error e ↔ ¬ c.FitsBounds ∧ e = .lengthViolation :=
  error_iff_not_fits
    (lengthErrors_bind (Inner.lengthErrors_tryFrom _) fun _ => lengthErrors_pure _)
    (fun _ => toRustRepMut_eq_ok) fitsBounds_iff e

end CSetupConnectionError

namespace CRequestTransactionDataSuccess

/-- The `for cvec in transaction_list_` loop of `to_rust_rep_mut`: each block becomes a
`B016M` pushed onto the list built so far, and the first block over the bound ends the
conversion. -/
def pushTransactions : List CVec → List B016M → Except Error (List B016M)
  | [], transactionList => .ok transactionList
  | cvec :: rest, transactionList => do
    let transaction ← Inner.tryFrom cvec.asMutSlice
    pushTransactions rest (transactionList ++ [transaction])

def toRustRepMut (c : CRequestTransactionDataSuccess) :
    Except Error RequestTransactionDataSuccess := do
  let excessData : B064K ← Inner.tryFrom c.excessData.asMutSlice
  let transactionList_ := c.transactionList.asMutSlice
  let transactionList ← pushTransactions transactionList_ []
  let transactionList ← Seq064K.new transactionList
  pure { templateId := c.templateId, excessData, transactionList }

def fromRequestTransactionDataSuccess (v : RequestTransactionDataSuccess) :
    CRequestTransactionDataSuccess where
  templateId := v.templateId
  excessData := CVec.fromInner v.excessData
  transactionList := CVec2.fromSeq064K v.transactionList

def FitsBounds (c : CRequestTransactionDataSuccess) : Prop :=
  c.excessData.data.length ≤ 65535 ∧
    (∀ cvec ∈ c.transactionList.data, cvec.data.length ≤ 16777215) ∧
    c.transactionList.data.length ≤ 65535

instance (c : CRequestTransactionDataSuccess) : Decidable c.FitsBounds :=
  inferInstanceAs (Decidable (_ ∧ _ ∧ _))

theorem pushTransactions_eq_ok {cvecs : List CVec} {transactionList out : List B016M} :
    pushTransactions cvecs transactionList = .ok out ↔
      ∃ pushed : List B016M, pushed.map CVec.fromInner = cvecs ∧
        out = transactionList ++ pushed := by
  induction cvecs generalizing transactionList with
  | nil =>
    simp only [pushTransactions, Except.ok.injEq, List.map_eq_nil_iff, exists_eq_left,
      List.append_nil]
    exact eq_comm
  | cons cvec rest ih =>
    simp only [pushTransactions, except_bind_eq_ok, Inner.tryFrom_eq_ok, ih]
    constructor
    · rintro ⟨transaction, copied, pushed, mapped, rfl⟩
      refine ⟨transaction :: pushed, ?_, by simp⟩
      rw [List.map_cons, mapped]
      exact congrArg (· :: rest) (congrArg CVec.mk copied)
    · rintro ⟨_ | ⟨transaction, pushed⟩, mapped, rfl⟩
      · cases mapped
      · simp only [List.map_cons, List.cons.injEq] at mapped
        exact ⟨transaction, mapped.1 ▸ rfl, pushed, mapped.2, by simp⟩

theorem lengthErrors_pushTransactions (cvecs : List CVec) (transactionList : List B016M) :
    LengthErrors (pushTransactions cvecs transactionList) := by
  induction cvecs generalizing transactionList with
  | nil => exact lengthErrors_pure transactionList
  | cons cvec rest ih => exact lengthErrors_bind (Inner.lengthErrors_tryFrom _) fun _ => ih _

theorem toRustRepMut_eq_ok {c : CRequestTransactionDataSuccess}
    {m : RequestTransactionDataSuccess} :
    c.toRustRepMut = .ok m ↔ fromRequestTransactionDataSuccess m = c := by
  constructor
  · intro converted
    simp only [toRustRepMut, except_bind_eq_ok, Inner.tryFrom_eq_ok, pushTransactions_eq_ok,
      Seq064K.new_eq_ok, except_pure_eq_ok] at converted
    obtain ⟨_, excess, _, ⟨pushed, mapped, rfl⟩, _, items, rfl⟩ := converted
    obtain ⟨templateId, ⟨excessData⟩, ⟨transactionList⟩⟩ := c
    simp_all [fromRequestTransactionDataSuccess, CVec2.fromSeq064K, CVec.fromInner,
      CVec.asMutSlice, CVec2.asMutSlice]
  · rintro rfl
    have loop : pushTransactions (m.transactionList.items.map CVec.fromInner) [] =
        .ok m.transactionList.items :=
      pushTransactions_eq_ok.mpr ⟨_, rfl, rfl⟩
    simp [toRustRepMut, fromRequestTransactionDataSuccess, loop, Seq064K.new_eq_ok.mpr rfl]

theorem fitsBounds_iff {c : CRequestTransactionDataSuccess} :
    c.FitsBounds ↔ ∃ m, fromRequestTransactionDataSuccess m = c := by
  constructor
  · rintro ⟨excess, transactions, count⟩
    obtain ⟨pushed, mapped⟩ := CVec.exists_map_fromInner.mpr transactions
    refine ⟨⟨c.templateId, ⟨_, excess⟩, ⟨pushed, ?_⟩⟩, ?_⟩
    · simpa [← mapped] using count
    · simp [fromRequestTransactionDataSuccess, CVec2.fromSeq064K, mapped]
      rfl
  · rintro ⟨m, rfl⟩
    refine ⟨m.excessData.bounded, CVec.exists_map_fromInner.mp ⟨_, rfl⟩, ?_⟩
    simpa [fromRequestTransactionDataSuccess, CVec2.fromSeq064K] using m.transactionList.bounded

theorem toRustRepMut_eq_error (c : CRequestTransactionDataSuccess) (e : Error) :
    c.toRustRepMut = .error e ↔ ¬ c.FitsBounds ∧ e = .lengthViolation :=
  error_iff_not_fits
    (lengthErrors_bind (Inner.lengthErrors_tryFrom _) fun _ =>
      lengthErrors_bind (lengthErrors_pushTransactions _ _) fun _ =>
        lengthErrors_bind (Seq064K.lengthErrors_new _) fun _ => lengthErrors_pure _)
    (fun _ => toRustRepMut_eq_ok) fitsBounds_iff e

end CRequestTransactionDataSuccess

namespace CRequestTransactionDataError

def toRustRepMut (c : CRequestTransactionDataError) :
    Except Error RequestTransactionDataError := do
  let errorCode : Str0255 ← Inner.tryFrom c.errorCode.asMutSlice
  pure { templateId := c.templateId, errorCode }

def fromRequestTransactionDataError (v : RequestTransactionDataError) :
    CRequestTransactionDataError where
  templateId := v.templateId
  errorCode := CVec.fromInner v.errorCode

def FitsBounds (c : CRequestTransactionDataError) : Prop :=
  c.errorCode.data.length ≤ 255

instance (c : CRequestTransactionDataError) : Decidable c.FitsBounds :=
  inferInstanceAs (Decidable (_ ≤ _))

theorem toRustRepMut_eq_ok {c : CRequestTransactionDataError} {m : RequestTransactionDataError} :
    c.toRustRepMut = .ok m ↔ fromRequestTransactionDataError m = c := by
  constructor
  · intro converted
    simp only [toRustRepMut, except_bind_eq_ok, Inner.tryFrom_eq_ok, except_pure_eq_ok] at converted
    obtain ⟨_, code, rfl⟩ := converted
    cases c
    simp_all [fromRequestTransactionDataError, CVec.fromInner, CVec.asMutSlice]
  · rintro rfl
    simp [toRustRepMut, fromRequestTransactionDataError]

theorem fitsBounds_iff {c : CRequestTransactionDataError} :
    c.FitsBounds ↔ ∃ m, fromRequestTransactionDataError m = c :=
  ⟨fun code => ⟨⟨c.templateId, ⟨_, code⟩⟩, rfl⟩, fun ⟨m, copied⟩ => copied ▸ m.errorCode.bounded⟩

theorem toRustRepMut_eq_error (c : CRequestTransactionDataError) (e : Error) :
    c.toRustRepMut = .error e ↔ ¬ c.FitsBounds ∧ e = .lengthViolation :=
  error_iff_not_fits
    (lengthErrors_bind (Inner.lengthErrors_tryFrom _) fun _ => lengthErrors_pure _)
    (fun _ => toRustRepMut_eq_ok) fitsBounds_iff e

end CRequestTransactionDataError

namespace CSubmitSolution

def toRustRepMut (c : CSubmitSolution) : Except Error SubmitSolution := do
  let coinbaseTx : B064K ← Inner.tryFrom c.coinbaseTx.asMutSlice
  pure
    { templateId := c.templateId
      version := c.version
      headerTimestamp := c.headerTimestamp
      headerNonce := c.headerNonce
      coinbaseTx }

def fromSubmitSolution (v : SubmitSolution) : CSubmitSolution where
  templateId := v.templateId
  version := v.version
  headerTimestamp := v.headerTimestamp
  headerNonce := v.headerNonce
  coinbaseTx := CVec.fromInner v.coinbaseTx

def FitsBounds (c : CSubmitSolution) : Prop :=
  c.coinbaseTx.data.length ≤ 65535

instance (c : CSubmitSolution) : Decidable c.FitsBounds :=
  inferInstanceAs (Decidable (_ ≤ _))

theorem toRustRepMut_eq_ok {c : CSubmitSolution} {m : SubmitSolution} :
    c.toRustRepMut = .ok m ↔ fromSubmitSolution m = c := by
  constructor
  · intro converted
    simp only [toRustRepMut, except_bind_eq_ok, Inner.tryFrom_eq_ok, except_pure_eq_ok] at converted
    obtain ⟨_, coinbase, rfl⟩ := converted
    cases c
    simp_all [fromSubmitSolution, CVec.fromInner, CVec.asMutSlice]
  · rintro rfl
    simp [toRustRepMut, fromSubmitSolution]

theorem fitsBounds_iff {c : CSubmitSolution} :
    c.FitsBounds ↔ ∃ m, fromSubmitSolution m = c :=
  ⟨fun coinbase => ⟨⟨c.templateId, c.version, c.headerTimestamp, c.headerNonce, ⟨_, coinbase⟩⟩,
    rfl⟩, fun ⟨m, copied⟩ => copied ▸ m.coinbaseTx.bounded⟩

theorem toRustRepMut_eq_error (c : CSubmitSolution) (e : Error) :
    c.toRustRepMut = .error e ↔ ¬ c.FitsBounds ∧ e = .lengthViolation :=
  error_iff_not_fits
    (lengthErrors_bind (Inner.lengthErrors_tryFrom _) fun _ => lengthErrors_pure _)
    (fun _ => toRustRepMut_eq_ok) fitsBounds_iff e

end CSubmitSolution

/-- Copying any message into its C representation and converting it back never fails and gives
the message back: its scalars, every byte of its blocks and every transaction in order. -/
theorem c_representation_round_trip :
    (∀ m : SetupConnection,
      (CSetupConnection.fromSetupConnection m).toRustRepMut = .ok m) ∧
    (∀ m : SetupConnectionError,
      (CSetupConnectionError.fromSetupConnectionError m).toRustRepMut = .ok m) ∧
    (∀ m : RequestTransactionDataSuccess,
      (CRequestTransactionDataSuccess.fromRequestTransactionDataSuccess m).toRustRepMut = .ok m) ∧
    (∀ m : RequestTransactionDataError,
      (CRequestTransactionDataError.fromRequestTransactionDataError m).toRustRepMut = .ok m) ∧
    (∀ m : SubmitSolution,
      (CSubmitSolution.fromSubmitSolution m).toRustRepMut = .ok m) :=
  ⟨fun _ => CSetupConnection.toRustRepMut_eq_ok.mpr rfl,
    fun _ => CSetupConnectionError.toRustRepMut_eq_ok.mpr rfl,
    fun _ => CRequestTransactionDataSuccess.toRustRepMut_eq_ok.mpr rfl,
    fun _ => CRequestTransactionDataError.toRustRepMut_eq_ok.mpr rfl,
    fun _ => CSubmitSolution.toRustRepMut_eq_ok.mpr rfl⟩

/-- Whatever blocks a foreign caller supplies, `to_rust_rep_mut` fails, with a length violation,
exactly when a block or the transaction count is over its bound, and a message it returns is
copied back by `From` to the C value it came from. -/
theorem to_rust_rep_mut_error_iff_oversized :
    (∀ c : CSetupConnection,
      (∀ e, c.toRustRepMut = .error e ↔ ¬ c.FitsBounds ∧ e = .lengthViolation) ∧
      ∀ m, c.toRustRepMut = .ok m → CSetupConnection.fromSetupConnection m = c) ∧
    (∀ c : CSetupConnectionError,
      (∀ e, c.toRustRepMut = .error e ↔ ¬ c.FitsBounds ∧ e = .lengthViolation) ∧
      ∀ m, c.toRustRepMut = .ok m → CSetupConnectionError.fromSetupConnectionError m = c) ∧
    (∀ c : CRequestTransactionDataSuccess,
      (∀ e, c.toRustRepMut = .error e ↔ ¬ c.FitsBounds ∧ e = .lengthViolation) ∧
      ∀ m, c.toRustRepMut = .ok m →
        CRequestTransactionDataSuccess.fromRequestTransactionDataSuccess m = c) ∧
    (∀ c : CRequestTransactionDataError,
      (∀ e, c.toRustRepMut = .error e ↔ ¬ c.FitsBounds ∧ e = .lengthViolation) ∧
      ∀ m, c.toRustRepMut = .ok m →
        CRequestTransactionDataError.fromRequestTransactionDataError m = c) ∧
    (∀ c : CSubmitSolution,
      (∀ e, c.toRustRepMut = .error e ↔ ¬ c.FitsBounds ∧ e = .lengthViolation) ∧
      ∀ m, c.toRustRepMut = .ok m → CSubmitSolution.fromSubmitSolution m = c) :=
  ⟨fun c => ⟨c.toRustRepMut_eq_error, fun _ => CSetupConnection.toRustRepMut_eq_ok.mp⟩,
    fun c => ⟨c.toRustRepMut_eq_error, fun _ => CSetupConnectionError.toRustRepMut_eq_ok.mp⟩,
    fun c => ⟨c.toRustRepMut_eq_error,
      fun _ => CRequestTransactionDataSuccess.toRustRepMut_eq_ok.mp⟩,
    fun c => ⟨c.toRustRepMut_eq_error,
      fun _ => CRequestTransactionDataError.toRustRepMut_eq_ok.mp⟩,
    fun c => ⟨c.toRustRepMut_eq_error, fun _ => CSubmitSolution.toRustRepMut_eq_ok.mp⟩⟩

set_option maxRecDepth 2000 in
theorem oversized_error_code_rejected :
    let c : CSetupConnectionError := ⟨0, ⟨List.replicate 256 0⟩⟩
    ¬ c.FitsBounds ∧ c.toRustRepMut = .error .lengthViolation :=
  have oversized : ¬ (⟨0, ⟨List.replicate 256 0⟩⟩ : CSetupConnectionError).FitsBounds := by
    decide
  ⟨oversized, ((to_rust_rep_mut_error_iff_oversized.2.1 _).1 _).mpr ⟨oversized, rfl⟩⟩

end StratumWire
