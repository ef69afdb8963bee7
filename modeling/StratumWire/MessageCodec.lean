import StratumWire.SetupConnection

/-! The Stratum V2 messages of this repository on the wire: each one's `GetSize` impl and its
codec, the fields in declaration order as the `binary_sv2` derives write and read them. -/

namespace StratumWire

structure SubmitSharesStandard where
  channelId : UInt32
  sequenceNumber : UInt32
  jobId : UInt32
  nonce : UInt32
  ntime : UInt32
  version : UInt32
  deriving DecidableEq

structure SubmitSharesExtended where
  channelId : UInt32
  sequenceNumber : UInt32
  jobId : UInt32
  nonce : UInt32
  ntime : UInt32
  version : UInt32
  extranonce : B032
  deriving DecidableEq

structure SubmitSharesSuccess where
  channelId : UInt32
  lastSequenceNumber : UInt32
  newSubmitsAcceptedCount : UInt32
  newSharesSum : UInt64
  deriving DecidableEq

structure SubmitSharesError where
  channelId : UInt32
  sequenceNumber : UInt32
  errorCode : Str0255
  deriving DecidableEq

namespace SubmitSharesError

def invalidChannelErrorCode : String := "invalid-channel-id"

def staleShareErrorCode : String := "stale-share"

def difficultyTooLowErrorCode : String := "difficulty-too-low"

def invalidJobIdErrorCode : String := "invalid-job-id"

end SubmitSharesError

structure RequestTransactionData where
  templateId : UInt64
  deriving DecidableEq

structure RequestTransactionDataSuccess where
  templateId : UInt64
  excessData : B064K
  transactionList : Seq064K B016M
  deriving DecidableEq

structure RequestTransactionDataError where
  templateId : UInt64
  errorCode : Str0255
  deriving DecidableEq

structure SubmitSolution where
  templateId : UInt64
  version : UInt32
  headerTimestamp : UInt32
  headerNonce : UInt32
  coinbaseTx : B064K
  deriving DecidableEq

def str0255Codec : Codec Str0255 := innerCodec 255 (by decide)

def b032Codec : Codec B032 := innerCodec 32 (by decide)

def b064KCodec : Codec B064K := innerCodec 65535 (by decide)

def b016MCodec : Codec B016M := innerCodec 16777215 (by decide)

namespace SetupConnection

instance : GetSize SetupConnection where
  getSize s := GetSize.getSize s.protocol + GetSize.getSize s.minVersion +
    GetSize.getSize s.maxVersion + GetSize.getSize s.flags + GetSize.getSize s.endpointHost +
    GetSize.getSize s.endpointPort + GetSize.getSize s.vendor +
    GetSize.getSize s.hardwareVersion + GetSize.getSize s.firmware + GetSize.getSize s.deviceId

abbrev DecodedFields : Type :=
  UInt8 × UInt16 × UInt16 × UInt32 × Str0255 × UInt16 × Str0255 × Str0255 × Str0255 × Str0255

def decodableFields : Codec DecodedFields :=
  u8Codec.prod <| u16Codec.prod <| u16Codec.prod <| u32Codec.prod <| str0255Codec.prod <|
    u16Codec.prod <| str0255Codec.prod <| str0255Codec.prod <| str0255Codec.prod str0255Codec

/-- The derived `from_decoded_fields`: each field converted to its type, of which only the
protocol's conversion can fail. -/
def fromDecodedFields (d : ProtocolDiscriminants) : DecodedFields → Except Error SetupConnection
  | (protocol, minVersion, maxVersion, flags, endpointHost, endpointPort, vendor,
      hardwareVersion, firmware, deviceId) => do
    let protocol ← Protocol.fromDecodedFields d [protocol]
    pure ⟨protocol, minVersion, maxVersion, flags, endpointHost, endpointPort, vendor,
      hardwareVersion, firmware, deviceId⟩

def toDecodableFields (d : ProtocolDiscriminants) (s : SetupConnection) : DecodedFields :=
  (s.protocol.toU8 d, s.minVersion, s.maxVersion, s.flags, s.endpointHost, s.endpointPort,
    s.vendor, s.hardwareVersion, s.firmware, s.deviceId)

theorem fromDecodedFields_toDecodableFields (d : ProtocolDiscriminants) (s : SetupConnection) :
    fromDecodedFields d (toDecodableFields d s) = .ok s := by
  simp [fromDecodedFields, toDecodableFields, (Protocol.fromDecodedFields_singleton d).mpr rfl]

theorem toDecodableFields_of_fromDecodedFields (d : ProtocolDiscriminants) (fields : DecodedFields)
    (s : SetupConnection) (converted : fromDecodedFields d fields = .ok s) :
    toDecodableFields d s = fields := by
  obtain ⟨protocol, minVersion, maxVersion, flags, endpointHost, endpointPort, vendor,
    hardwareVersion, firmware, deviceId⟩ := fields
  obtain ⟨p, known, built⟩ := except_bind_eq_ok.mp converted
  cases built
  rw [toDecodableFields, (Protocol.fromDecodedFields_singleton d).mp known]

def codec (d : ProtocolDiscriminants) : Codec SetupConnection :=
  decodableFields.convert (fromDecodedFields d) (toDecodableFields d)
    (fromDecodedFields_toDecodableFields d) (toDecodableFields_of_fromDecodedFields d)

theorem codec_encode (d : ProtocolDiscriminants) (s : SetupConnection) :
    (codec d).encode s =
      u8Codec.encode (s.protocol.toU8 d) ++ u16Codec.encode s.minVersion ++
        u16Codec.encode s.maxVersion ++ u32Codec.encode s.flags ++
        str0255Codec.encode s.endpointHost ++ u16Codec.encode s.endpointPort ++
        str0255Codec.encode s.vendor ++ str0255Codec.encode s.hardwareVersion ++
        str0255Codec.encode s.firmware ++ str0255Codec.encode s.deviceId := by
  simp [codec, decodableFields, toDecodableFields]

theorem length_codec_encode (d : ProtocolDiscriminants) (s : SetupConnection) :
    ((codec d).encode s).length = GetSize.getSize s := by
  simp only [codec_encode, List.length_append, length_u8Codec_encode, length_u16Codec_encode,
    length_u32Codec_encode, str0255Codec, length_innerCodec_encode]
  rfl

end SetupConnection

namespace SetupConnectionSuccess

instance : GetSize SetupConnectionSuccess where
  getSize s := GetSize.getSize s.usedVersion + GetSize.getSize s.flags

def codec : Codec SetupConnectionSuccess :=
  Codec.map (u16Codec.prod u32Codec) (fun (usedVersion, flags) => { usedVersion, flags })
    (fun s => (s.usedVersion, s.flags)) (fun _ => rfl) fun _ => rfl

theorem codec_encode (s : SetupConnectionSuccess) :
    codec.encode s = u16Codec.encode s.usedVersion ++ u32Codec.encode s.flags :=
  rfl

theorem length_codec_encode (s : SetupConnectionSuccess) :
    (codec.encode s).length = GetSize.getSize s := by
  simp only [codec_encode, List.length_append, length_u16Codec_encode, length_u32Codec_encode,
    length_u64Codec_encode]
  rfl

end SetupConnectionSuccess

namespace SetupConnectionError

instance : GetSize SetupConnectionError where
  getSize s := GetSize.getSize s.flags + GetSize.getSize s.errorCode

def codec : Codec SetupConnectionError :=
  Codec.map (u32Codec.prod str0255Codec) (fun (flags, errorCode) => { flags, errorCode })
    (fun s => (s.flags, s.errorCode)) (fun _ => rfl) fun _ => rfl

theorem codec_encode (s : SetupConnectionError) :
    codec.encode s = u32Codec.encode s.flags ++ str0255Codec.encode s.errorCode :=
  rfl

theorem length_codec_encode (s : SetupConnectionError) :
    (codec.encode s).length = GetSize.getSize s := by
  simp only [codec_encode, List.length_append, length_u16Codec_encode, length_u32Codec_encode,
    length_u64Codec_encode, str0255Codec, length_innerCodec_encode]
  rfl

end SetupConnectionError

namespace SubmitSharesStandard

instance : GetSize SubmitSharesStandard where
  getSize s := GetSize.getSize s.channelId + GetSize.getSize s.sequenceNumber +
    GetSize.getSize s.jobId + GetSize.getSize s.nonce + GetSize.getSize s.ntime +
    GetSize.getSize s.version

def codec : Codec SubmitSharesStandard :=
  Codec.map
    (u32Codec.prod <| u32Codec.prod <| u32Codec.prod <| u32Codec.prod <| u32Codec.prod u32Codec)
    (fun (channelId, sequenceNumber, jobId, nonce, ntime, version) =>
      { channelId, sequenceNumber, jobId, nonce, ntime, version })
    (fun s => (s.channelId, s.sequenceNumber, s.jobId, s.nonce, s.ntime, s.version))
    (fun _ => rfl) fun _ => rfl

theorem codec_encode (s : SubmitSharesStandard) :
    codec.encode s =
      u32Codec.encode s.channelId ++ u32Codec.encode s.sequenceNumber ++
        u32Codec.encode s.jobId ++ u32Codec.encode s.nonce ++ u32Codec.encode s.ntime ++
        u32Codec.encode s.version := by
  simp [codec]

theorem length_codec_encode (s : SubmitSharesStandard) :
    (codec.encode s).length = GetSize.getSize s := by
  simp only [codec_encode, List.length_append, length_u16Codec_encode, length_u32Codec_encode,
    length_u64Codec_encode]
  rfl

end SubmitSharesStandard

namespace SubmitSharesExtended

instance : GetSize SubmitSharesExtended where
  getSize s := GetSize.getSize s.channelId + GetSize.getSize s.sequenceNumber +
    GetSize.getSize s.jobId + GetSize.getSize s.nonce + GetSize.getSize s.ntime +
    GetSize.getSize s.version + GetSize.getSize s.extranonce

def codec : Codec SubmitSharesExtended :=
  Codec.map
    (u32Codec.prod <| u32Codec.prod <| u32Codec.prod <| u32Codec.prod <| u32Codec.prod <|
      u32Codec.prod b032Codec)
    (fun (channelId, sequenceNumber, jobId, nonce, ntime, version, extranonce) =>
      { channelId, sequenceNumber, jobId, nonce, ntime, version, extranonce })
    (fun s => (s.channelId, s.sequenceNumber, s.jobId, s.nonce, s.ntime, s.version, s.extranonce))
    (fun _ => rfl) fun _ => rfl

theorem codec_encode (e : SubmitSharesExtended) :
    codec.encode e =
      SubmitSharesStandard.codec.encode
          ⟨e.channelId, e.sequenceNumber, e.jobId, e.nonce, e.ntime, e.version⟩ ++
        b032Codec.encode e.extranonce := by
  simp [codec, SubmitSharesStandard.codec]

theorem length_codec_encode (s : SubmitSharesExtended) :
    (codec.encode s).length = GetSize.getSize s := by
  simp only [codec_encode, List.length_append, SubmitSharesStandard.length_codec_encode, b032Codec,
    length_innerCodec_encode]
  rfl

end SubmitSharesExtended

namespace SubmitSharesSuccess

instance : GetSize SubmitSharesSuccess where
  getSize s := GetSize.getSize s.channelId + GetSize.getSize s.lastSequenceNumber +
    GetSize.getSize s.newSubmitsAcceptedCount + GetSize.getSize s.newSharesSum

def codec : Codec SubmitSharesSuccess :=
  Codec.map (u32Codec.prod <| u32Codec.prod <| u32Codec.prod u64Codec)
    (fun (channelId, lastSequenceNumber, newSubmitsAcceptedCount, newSharesSum) =>
      { channelId, lastSequenceNumber, newSubmitsAcceptedCount, newSharesSum })
    (fun s => (s.channelId, s.lastSequenceNumber, s.newSubmitsAcceptedCount, s.newSharesSum))
    (fun _ => rfl) fun _ => rfl

theorem codec_encode (s : SubmitSharesSuccess) :
    codec.encode s =
      u32Codec.encode s.channelId ++ u32Codec.encode s.lastSequenceNumber ++
        u32Codec.encode s.newSubmitsAcceptedCount ++ u64Codec.encode s.newSharesSum := by
  simp [codec]

theorem length_codec_encode (s : SubmitSharesSuccess) :
    (codec.encode s).length = GetSize.getSize s := by
  simp only [codec_encode, List.length_append, length_u16Codec_encode, length_u32Codec_encode,
    length_u64Codec_encode]
  rfl

end SubmitSharesSuccess

namespace SubmitSharesError

instance : GetSize SubmitSharesError where
  getSize s := GetSize.getSize s.channelId + GetSize.getSize s.sequenceNumber +
    GetSize.getSize s.errorCode

def codec : Codec SubmitSharesError :=
  Codec.map (u32Codec.prod <| u32Codec.prod str0255Codec)
    (fun (channelId, sequenceNumber, errorCode) => { channelId, sequenceNumber, errorCode })
    (fun s => (s.channelId, s.sequenceNumber, s.errorCode)) (fun _ => rfl) fun _ => rfl

theorem codec_encode (s : SubmitSharesError) :
    codec.encode s =
      u32Codec.encode s.channelId ++ u32Codec.encode s.sequenceNumber ++
        str0255Codec.encode s.errorCode := by
  simp [codec]

theorem length_codec_encode (s : SubmitSharesError) :
    (codec.encode s).length = GetSize.getSize s := by
  simp only [codec_encode, List.length_append, length_u16Codec_encode, length_u32Codec_encode,
    length_u64Codec_encode, str0255Codec, length_innerCodec_encode]
  rfl

end SubmitSharesError

namespace RequestTransactionData

instance : GetSize RequestTransactionData where
  getSize s := GetSize.getSize s.templateId

def codec : Codec RequestTransactionData :=
  Codec.map u64Codec (fun templateId => { templateId }) (fun s => s.templateId) (fun _ => rfl)
    fun _ => rfl

theorem codec_encode (s : RequestTransactionData) :
    codec.encode s = u64Codec.encode s.templateId :=
  rfl

theorem length_codec_encode (s : RequestTransactionData) :
    (codec.encode s).length = GetSize.getSize s := by
  simp only [codec_encode, List.length_append, length_u16Codec_encode, length_u32Codec_encode,
    length_u64Codec_encode]
  rfl

end RequestTransactionData

namespace RequestTransactionDataSuccess

instance : GetSize RequestTransactionDataSuccess where
  getSize s := GetSize.getSize s.templateId + GetSize.getSize s.excessData +
    GetSize.getSize s.transactionList

def codec : Codec RequestTransactionDataSuccess :=
  Codec.map (u64Codec.prod <| b064KCodec.prod (seq064KCodec b016MCodec))
    (fun (templateId, excessData, transactionList) => { templateId, excessData, transactionList })
    (fun s => (s.templateId, s.excessData, s.transactionList)) (fun _ => rfl) fun _ => rfl

theorem codec_encode (s : RequestTransactionDataSuccess) :
    codec.encode s =
      u64Codec.encode s.templateId ++ b064KCodec.encode s.excessData ++
        (seq064KCodec b016MCodec).encode s.transactionList := by
  simp [codec]

theorem length_codec_encode (s : RequestTransactionDataSuccess) :
    (codec.encode s).length = GetSize.getSize s := by
  have transactions := length_seq064KCodec_encode b016MCodec
    (length_innerCodec_encode (by decide)) s.transactionList
  simp only [codec_encode, List.length_append, length_u16Codec_encode, length_u32Codec_encode,
    length_u64Codec_encode, b064KCodec, length_innerCodec_encode, transactions]
  rfl

end RequestTransactionDataSuccess

namespace RequestTransactionDataError

instance : GetSize RequestTransactionDataError where
  getSize s := GetSize.getSize s.templateId + GetSize.getSize s.errorCode

def codec : Codec RequestTransactionDataError :=
  Codec.map (u64Codec.prod str0255Codec) (fun (templateId, errorCode) => { templateId, errorCode })
    (fun s => (s.templateId, s.errorCode)) (fun _ => rfl) fun _ => rfl

theorem codec_encode (s : RequestTransactionDataError) :
    codec.encode s = u64Codec.encode s.templateId ++ str0255Codec.encode s.errorCode :=
  rfl

theorem length_codec_encode (s : RequestTransactionDataError) :
    (codec.encode s).length = GetSize.getSize s := by
  simp only [codec_encode, List.length_append, length_u16Codec_encode, length_u32Codec_encode,
    length_u64Codec_encode, str0255Codec, length_innerCodec_encode]
  rfl

end RequestTransactionDataError

namespace SubmitSolution

instance : GetSize SubmitSolution where
  getSize s := GetSize.getSize s.templateId + GetSize.getSize s.version +
    GetSize.getSize s.headerTimestamp + GetSize.getSize s.headerNonce +
    GetSize.getSize s.coinbaseTx

def codec : Codec SubmitSolution :=
  Codec.map (u64Codec.prod <| u32Codec.prod <| u32Codec.prod <| u32Codec.prod b064KCodec)
    (fun (templateId, version, headerTimestamp, headerNonce, coinbaseTx) =>
      { templateId, version, headerTimestamp, headerNonce, coinbaseTx })
    (fun s => (s.templateId, s.version, s.headerTimestamp, s.headerNonce, s.coinbaseTx))
    (fun _ => rfl) fun _ => rfl

theorem codec_encode (s : SubmitSolution) :
    codec.encode s =
      u64Codec.encode s.templateId ++ u32Codec.encode s.version ++
        u32Codec.encode s.headerTimestamp ++ u32Codec.encode s.headerNonce ++
        b064KCodec.encode s.coinbaseTx := by
  simp [codec]

theorem length_codec_encode (s : SubmitSolution) :
    (codec.encode s).length = GetSize.getSize s := by
  simp only [codec_encode, List.length_append, length_u16Codec_encode, length_u32Codec_encode,
    length_u64Codec_encode, b064KCodec, length_innerCodec_encode]
  rfl

end SubmitSolution

section Wire

/-- What the wire format promises of a message type: it reads back from its encoding whatever
follows, a buffer cut inside an encoding is out of bound, a buffer it accepts is exactly an
encoding followed by the rest, and `get_size` is the encoding's length, so a buffer `get_size`
allocates always holds the message. -/
def WireExact {α : Type} [GetSize α] (c : Codec α) : Prop :=
  (∀ a rest, c.decode (c.encode a ++ rest) = .ok (a, rest)) ∧
    (∀ a k, k < (c.encode a).length → c.decode ((c.encode a).take k) = .error .outOfBound) ∧
    (∀ buf a rest, c.decode buf = .ok (a, rest) → buf = c.encode a ++ rest) ∧
    ∀ a, (c.encode a).length = GetSize.getSize a

theorem wireExact_of_sized {α : Type} [GetSize α] {c : Codec α}
    (sized : ∀ a, (c.encode a).length = GetSize.getSize a) : WireExact c :=
  ⟨c.decode_encode, c.decode_truncated, c.decode_sound, sized⟩

/-- Every message type of this repository meets the wire format's promises. -/
theorem messages_wire_exact (d : ProtocolDiscriminants) :
    WireExact (SetupConnection.codec d) ∧ WireExact SetupConnectionSuccess.codec ∧
      WireExact SetupConnectionError.codec ∧ WireExact SubmitSharesStandard.codec ∧
      WireExact SubmitSharesExtended.codec ∧ WireExact SubmitSharesSuccess.codec ∧
      WireExact SubmitSharesError.codec ∧ WireExact RequestTransactionData.codec ∧
      WireExact RequestTransactionDataSuccess.codec ∧ WireExact RequestTransactionDataError.codec ∧
      WireExact SubmitSolution.codec :=
  ⟨wireExact_of_sized (SetupConnection.length_codec_encode d),
    wireExact_of_sized SetupConnectionSuccess.length_codec_encode,
    wireExact_of_sized SetupConnectionError.length_codec_encode,
    wireExact_of_sized SubmitSharesStandard.length_codec_encode,
    wireExact_of_sized SubmitSharesExtended.length_codec_encode,
    wireExact_of_sized SubmitSharesSuccess.length_codec_encode,
    wireExact_of_sized SubmitSharesError.length_codec_encode,
    wireExact_of_sized RequestTransactionData.length_codec_encode,
    wireExact_of_sized RequestTransactionDataSuccess.length_codec_encode,
    wireExact_of_sized RequestTransactionDataError.length_codec_encode,
    wireExact_of_sized SubmitSolution.length_codec_encode⟩

/-- Decoding a `SetupConnection` reads every field before it converts the protocol byte: with the
other nine fields in place, a byte that is no protocol's discriminant is rejected with its value,
and cut inside them the buffer is out of bound. -/
theorem unknown_protocol_rejected (d : ProtocolDiscriminants) (val : UInt8)
    (unknown : ∀ p : Protocol, p.toU8 d ≠ val) (s : SetupConnection) (rest : List UInt8) :
    let fields := ((SetupConnection.codec d).encode s).tail
    (SetupConnection.codec d).decode (val :: (fields ++ rest)) =
        .error (.valueIsNotAValidProtocol val) ∧
      ∀ k < fields.length,
        (SetupConnection.codec d).decode (val :: fields.take k) = .error .outOfBound := by
  have unknownByte : Protocol.fromDecodedFields d [val] = .error (.valueIsNotAValidProtocol val) :=
    Protocol.fromDecodedFields_of_unknown d unknown []
  have rejected :
      SetupConnection.fromDecodedFields d (val, (SetupConnection.toDecodableFields d s).2) =
        .error (.valueIsNotAValidProtocol val) := by
    simp [SetupConnection.fromDecodedFields, unknownByte]
  exact ⟨Codec.convert_decode_encode_of_error _ _ _ _ rejected rest, fun k short =>
    Codec.convert_decode_of_error _ _ _ _
      (Codec.prod_decode_truncated_right u8Codec _ val _ short)⟩

theorem unknown_protocol_rejected_seven :
    let d : ProtocolDiscriminants := ⟨0, 1, 2, by decide⟩
    let fields := ((SetupConnection.codec d).encode SetupConnection.createSetupConnection).tail
    (∀ p : Protocol, p.toU8 d ≠ 7) ∧
      (SetupConnection.codec d).decode (7 :: (fields ++ [])) =
          .error (.valueIsNotAValidProtocol 7) ∧
        ∀ k < fields.length,
          (SetupConnection.codec d).decode (7 :: fields.take k) = .error .outOfBound :=
  have unknown : ∀ p : Protocol, p.toU8 ⟨0, 1, 2, by decide⟩ ≠ 7 := by
    intro p
    cases p <;> decide
  ⟨unknown, unknown_protocol_rejected _ 7 unknown _ []⟩

theorem b032Codec_decode_oversized (n : UInt8) (bytes rest : List UInt8) (over : 32 < n.toNat)
    (length : bytes.length = n.toNat) :
    b032Codec.decode (n :: (bytes ++ rest)) = .error .lengthViolation := by
  have header : readBytes 1 (n :: (bytes ++ rest)) = .ok ([n], bytes ++ rest) :=
    readBytes_append [n] _
  have read : readBytes (leValue [n]) (bytes ++ rest) = .ok (bytes, rest) := by
    rw [show leValue [n] = bytes.length by simp [leValue, length], readBytes_append]
  have rejected : (Inner.tryFrom bytes : Except Error B032) = .error .lengthViolation :=
    Inner.tryFrom_eq_error.mpr ⟨by omega, rfl⟩
  simp [b032Codec, innerCodec, Inner.headerSize, header, read, rejected]

/-- After the six fields a `SubmitSharesStandard` shares with it, a `SubmitSharesExtended` whose
extranonce announces more than 32 bytes is rejected as a length violation. -/
theorem oversized_extranonce_rejected (s : SubmitSharesStandard) (n : UInt8)
    (bytes rest : List UInt8) (over : 32 < n.toNat) (length : bytes.length = n.toNat) :
    SubmitSharesExtended.codec.decode (SubmitSharesStandard.codec.encode s ++ n :: (bytes ++ rest)) =
      .error .lengthViolation := by
  simp only [SubmitSharesExtended.codec, SubmitSharesStandard.codec, Codec.map_encode,
    Codec.prod_encode, List.append_assoc, Codec.map_decode, Codec.prod_decode_encode_append,
    b032Codec_decode_oversized n bytes rest over length, except_map_error]

theorem oversized_extranonce_rejected_thirty_three :
    (32 < (33 : UInt8).toNat ∧ (List.replicate 33 (0 : UInt8)).length = (33 : UInt8).toNat) ∧
      SubmitSharesExtended.codec.decode
        (SubmitSharesStandard.codec.encode ⟨0, 0, 0, 0, 0, 0⟩ ++ 33 :: (List.replicate 33 0 ++ [])) =
        .error .lengthViolation :=
  ⟨⟨by decide, by decide⟩, oversized_extranonce_rejected _ 33 _ [] (by decide) (by decide)⟩

/-- Nothing in a share's payload says which of the two variants it is: read as a standard
share, an extended share's payload gives the six fields they share and leaves its extranonce
unread. -/
theorem extended_share_reads_as_standard (e : SubmitSharesExtended) (rest : List UInt8) :
    SubmitSharesStandard.codec.decode (SubmitSharesExtended.codec.encode e ++ rest) =
      .ok (⟨e.channelId, e.sequenceNumber, e.jobId, e.nonce, e.ntime, e.version⟩,
        b032Codec.encode e.extranonce ++ rest) := by
  rw [SubmitSharesExtended.codec_encode, List.append_assoc, Codec.decode_encode]

/-- `Str0255`, `B064K` and `B016M` have length prefixes that cannot name more than their
maximum, so decoding one fails only by running out of bytes; only `B032` can be oversized. -/
theorem wide_prefix_decode_errors_out_of_bound :
    (∀ buf e, str0255Codec.decode buf = .error e → e = .outOfBound) ∧
      (∀ buf e, b064KCodec.decode buf = .error e → e = .outOfBound) ∧
      ∀ buf e, b016MCodec.decode buf = .error e → e = .outOfBound :=
  ⟨fun _ _ => innerCodec_decode_eq_error _ (by decide),
    fun _ _ => innerCodec_decode_eq_error _ (by decide),
    fun _ _ => innerCodec_decode_eq_error _ (by decide)⟩

end Wire

end StratumWire
