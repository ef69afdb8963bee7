import Mathlib.Algebra.Group.Nat.Basic
import StratumWire.BinarySv2

/-! The wire format of `binary_sv2`, modelled from the spec: a `Codec` packs an encoder, its
decoder and the laws they keep, and message codecs are built from their fields'. -/

namespace StratumWire

def readBytes (n : Nat) (buf : List UInt8) : Except Error (List UInt8 × List UInt8) :=
  if n ≤ buf.length then .ok (buf.take n, buf.drop n) else .error .outOfBound

def leBytes : Nat → Nat → List UInt8
  | 0, _ => []
  | width + 1, n => UInt8.ofNat n :: leBytes width (n / 256)

def leValue : List UInt8 → Nat
  | [] => 0
  | b :: bytes => b.toNat + 256 * leValue bytes

section Bytes

theorem readBytes_append (bytes rest : List UInt8) :
    readBytes bytes.length (bytes ++ rest) = .ok (bytes, rest) := by
  simp [readBytes]

theorem readBytes_of_lt {n : Nat} {buf : List UInt8} (short : buf.length < n) :
    readBytes n buf = .error .outOfBound := by
  rw [readBytes, if_neg (Nat.not_le.mpr short)]

@[simp] theorem length_leBytes (width n : Nat) : (leBytes width n).length = width := by
  induction width generalizing n with
  | zero => rfl
  | succ width ih => simp [leBytes, ih]

theorem leValue_leBytes (width n : Nat) : leValue (leBytes width n) = n % 256 ^ width := by
  induction width generalizing n with
  | zero => simp [leBytes, leValue, Nat.mod_one]
  | succ width ih =>
    rw [leBytes, leValue, ih, Nat.pow_succ', Nat.mod_mul]
    rfl

theorem readBytes_eq_ok {n : Nat} {buf bytes rest : List UInt8}
    (read : readBytes n buf = .ok (bytes, rest)) : bytes.length = n ∧ bytes ++ rest = buf := by
  unfold readBytes at read
  split at read
  · cases read
    exact ⟨by rw [List.length_take]; omega, List.take_append_drop n buf⟩
  · cases read

theorem readBytes_eq_error {n : Nat} {buf : List UInt8} {e : Error}
    (failed : readBytes n buf = .error e) : e = .outOfBound := by
  unfold readBytes at failed
  split at failed <;> cases failed
  rfl

theorem leBytes_leValue (bytes : List UInt8) : leBytes bytes.length (leValue bytes) = bytes := by
  induction bytes with
  | nil => rfl
  | cons b bytes ih =>
    have low : b.toNat < 256 := b.toNat_lt_size
    have byte : UInt8.ofNat (b.toNat + 256 * leValue bytes) = b :=
      UInt8.toNat.inj (show (b.toNat + 256 * leValue bytes) % 256 = b.toNat by omega)
    rw [List.length_cons, leValue, leBytes, byte,
      show (b.toNat + 256 * leValue bytes) / 256 = leValue bytes by omega, ih]

theorem leValue_lt (bytes : List UInt8) : leValue bytes < 256 ^ bytes.length := by
  induction bytes with
  | nil => simp [leValue]
  | cons b bytes ih =>
    have low : b.toNat < 256 := b.toNat_lt_size
    rw [leValue, List.length_cons, Nat.pow_succ']
    omega

theorem readBytes_leBytes (width n : Nat) (rest : List UInt8) :
    readBytes width (leBytes width n ++ rest) = .ok (leBytes width n, rest) := by
  simpa using readBytes_append (leBytes width n) rest

theorem readBytes_take_of_lt (buf : List UInt8) {k n : Nat} (short : k < n) :
    readBytes n (buf.take k) = .error .outOfBound :=
  readBytes_of_lt (by rw [List.length_take]; omega)

theorem leValue_leBytes_of_lt {width n : Nat} (fits : n < 256 ^ width) :
    leValue (leBytes width n) = n := by
  rw [leValue_leBytes, Nat.mod_eq_of_lt fits]

theorem take_leBytes_append (width n i : Nat) (body : List UInt8) :
    (leBytes width n ++ body).take (width + i) = leBytes width n ++ body.take i := by
  simpa using @List.take_append _ (leBytes width n) body i

end Bytes

/-- Modelled from the spec: a type's wire encoding, as its `Encodable` and `Decodable` impls
give it, with the three laws of the format: decoding reads back what encoding wrote, whatever
follows; a buffer cut inside an encoding is out of bound; and a buffer that decodes is the
encoding of what it decodes to, followed by the rest, so no value has a second encoding. -/
structure Codec (α : Type) where
  encode : α → List UInt8
  decode : List UInt8 → Except Error (α × List UInt8)
  decode_encode : ∀ a rest, decode (encode a ++ rest) = .ok (a, rest)
  decode_truncated : ∀ a k, k < (encode a).length → decode ((encode a).take k) = .error .outOfBound
  decode_sound : ∀ buf a rest, decode buf = .ok (a, rest) → buf = encode a ++ rest

namespace Codec

variable {α β : Type}

def prod (c : Codec α) (d : Codec β) : Codec (α × β) where
  encode p := c.encode p.1 ++ d.encode p.2
  decode buf := do
    let (a, buf) ← c.decode buf
    let (b, buf) ← d.decode buf
    pure ((a, b), buf)
  decode_encode p rest := by
    simp [List.append_assoc, c.decode_encode, d.decode_encode]
  decode_truncated p k short := by
    by_cases within : k < (c.encode p.1).length
    · simp [List.take_append_of_le_length within.le, c.decode_truncated _ _ within]
    · obtain ⟨i, rfl⟩ := Nat.exists_eq_add_of_le (Nat.not_lt.mp within)
      have inside : i < (d.encode p.2).length := by simp at short; omega
      simp [List.take_append, c.decode_encode, d.decode_truncated _ _ inside]
  decode_sound buf p rest decoded := by
    rcases except_bind_eq_ok.mp decoded with ⟨⟨a, buf'⟩, first, decoded⟩
    rcases except_bind_eq_ok.mp decoded with ⟨⟨b, rest'⟩, second, decoded⟩
    cases decoded
    rw [c.decode_sound _ _ _ first, d.decode_sound _ _ _ second, List.append_assoc]

/-- A type read from another through a conversion that can fail, as a derived
`from_decoded_fields` converts what `decode` has read: every field is read first, and only then
converted. -/
def convert (c : Codec α) (f : α → Except Error β) (g : β → α) (inverse : ∀ b, f (g b) = .ok b)
    (inverse' : ∀ a b, f a = .ok b → g b = a) : Codec β where
  encode b := c.encode (g b)
  decode buf := do
    let (a, buf) ← c.decode buf
    let b ← f a
    pure (b, buf)
  decode_encode b rest := by simp [c.decode_encode, inverse]
  decode_truncated b k short := by simp [c.decode_truncated _ _ short]
  decode_sound buf b rest decoded := by
    rcases except_bind_eq_ok.mp decoded with ⟨⟨a, rest'⟩, first, decoded⟩
    rcases except_bind_eq_ok.mp decoded with ⟨b', converted, decoded⟩
    cases decoded
    dsimp only
    rw [c.decode_sound _ _ _ first, inverse' _ _ converted]

/-- A type written as another it corresponds to one to one, as a struct is written as its
fields. -/
def map (c : Codec α) (f : α → β) (g : β → α) (inverse : ∀ b, f (g b) = b)
    (inverse' : ∀ a, g (f a) = a) : Codec β :=
  c.convert (fun a => .ok (f a)) g (fun b => congrArg _ (inverse b)) fun a _ converted => by
    cases converted
    exact inverse' a

@[simp] theorem convert_encode (c : Codec α) (f : α → Except Error β) (g : β → α)
    (inverse : ∀ b, f (g b) = .ok b) (inverse' : ∀ a b, f a = .ok b → g b = a) (b : β) :
    (c.convert f g inverse inverse').encode b = c.encode (g b) :=
  rfl

theorem convert_decode_encode_of_error (c : Codec α) {f : α → Except Error β} (g : β → α)
    (inverse : ∀ b, f (g b) = .ok b) (inverse' : ∀ a b, f a = .ok b → g b = a) {a : α}
    {e : Error} (rejected : f a = .error e) (rest : List UInt8) :
    (c.convert f g inverse inverse').decode (c.encode a ++ rest) = .error e := by
  simp [convert, c.decode_encode, rejected]

theorem convert_decode_of_error {c : Codec α} (f : α → Except Error β) (g : β → α)
    (inverse : ∀ b, f (g b) = .ok b) (inverse' : ∀ a b, f a = .ok b → g b = a)
    {buf : List UInt8} {e : Error} (failed : c.decode buf = .error e) :
    (c.convert f g inverse inverse').decode buf = .error e := by
  simp [convert, failed]

@[simp] theorem prod_encode (c : Codec α) (d : Codec β) (p : α × β) :
    (c.prod d).encode p = c.encode p.1 ++ d.encode p.2 := rfl

@[simp] theorem map_encode (c : Codec α) (f : α → β) (g : β → α) (inverse : ∀ b, f (g b) = b)
    (inverse' : ∀ a, g (f a) = a) (b : β) :
    (c.map f g inverse inverse').encode b = c.encode (g b) :=
  rfl

theorem map_decode (c : Codec α) (f : α → β) (g : β → α) (inverse : ∀ b, f (g b) = b)
    (inverse' : ∀ a, g (f a) = a) (buf : List UInt8) :
    (c.map f g inverse inverse').decode buf = (fun p => (f p.1, p.2)) <$> c.decode buf := by
  simp only [map, convert]
  cases c.decode buf <;> rfl

theorem prod_decode_encode_append (c : Codec α) (d : Codec β) (a : α) (rest : List UInt8) :
    (c.prod d).decode (c.encode a ++ rest) = (fun p => ((a, p.1), p.2)) <$> d.decode rest := by
  simp only [prod, c.decode_encode, except_ok_bind]
  cases d.decode rest <;> rfl

theorem prod_decode_truncated_right (c : Codec α) (d : Codec β) (a : α) (b : β) {k : Nat}
    (short : k < (d.encode b).length) :
    (c.prod d).decode (c.encode a ++ (d.encode b).take k) = .error .outOfBound := by
  rw [prod_decode_encode_append, d.decode_truncated _ _ short]
  rfl

end Codec

section Primitives

variable {α : Type}

def u8Codec : Codec UInt8 where
  encode x := [x]
  decode
    | [] => .error .outOfBound
    | x :: rest => .ok (x, rest)
  decode_encode _ _ := rfl
  decode_truncated _ k short := by
    obtain rfl : k = 0 := by simpa using short
    rfl
  decode_sound
    | [], _, _, decoded => nomatch decoded
    | _ :: _, _, _, decoded => by cases decoded; rfl

def uintCodec (width : Nat) (toNat : α → Nat) (ofNat : Nat → α)
    (toNat_lt : ∀ a, toNat a < 256 ^ width) (ofNat_toNat : ∀ a, ofNat (toNat a) = a)
    (toNat_ofNat : ∀ n, n < 256 ^ width → toNat (ofNat n) = n) : Codec α where
  encode a := leBytes width (toNat a)
  decode buf := do
    let (bytes, buf) ← readBytes width buf
    pure (ofNat (leValue bytes), buf)
  decode_encode a rest := by
    simp [readBytes_leBytes, leValue_leBytes_of_lt (toNat_lt a), ofNat_toNat]
  decode_truncated a k short := by
    simp [readBytes_take_of_lt _ (show k < width by simpa using short)]
  decode_sound buf a rest decoded := by
    rcases except_bind_eq_ok.mp decoded with ⟨⟨bytes, rest'⟩, read, decoded⟩
    cases decoded
    obtain ⟨length, rfl⟩ := readBytes_eq_ok read
    have below : leValue bytes < 256 ^ width := length ▸ leValue_lt bytes
    dsimp only
    rw [toNat_ofNat _ below, ← length, leBytes_leValue]

def u16Codec : Codec UInt16 :=
  uintCodec 2 UInt16.toNat UInt16.ofNat UInt16.toNat_lt_size
    (fun x => UInt16.toNat.inj (UInt16.toNat_ofNat_of_lt x.toNat_lt_size))
    fun _ => UInt16.toNat_ofNat_of_lt

def u32Codec : Codec UInt32 :=
  uintCodec 4 UInt32.toNat UInt32.ofNat UInt32.toNat_lt_size
    (fun x => UInt32.toNat.inj (UInt32.toNat_ofNat_of_lt x.toNat_lt_size))
    fun _ => UInt32.toNat_ofNat_of_lt

def u64Codec : Codec UInt64 :=
  uintCodec 8 UInt64.toNat UInt64.ofNat UInt64.toNat_lt_size
    (fun x => UInt64.toNat.inj (UInt64.toNat_ofNat_of_lt x.toNat_lt_size))
    fun _ => UInt64.toNat_ofNat_of_lt

/-- Modelled from the spec: the width of a bounded type's length prefix, the narrowest of one
to three bytes that holds its maximum: one for `B032` and `Str0255`, two for `B064K`, three for
`B016M`. -/
def Inner.headerSize (maxSize : Nat) : Nat :=
  if maxSize < 256 then 1 else if maxSize < 65536 then 2 else 3

theorem Inner.lt_pow_headerSize {maxSize : Nat} (fits : maxSize < 16777216) :
    maxSize < 256 ^ Inner.headerSize maxSize := by
  unfold Inner.headerSize
  split_ifs <;> simp <;> omega

theorem Inner.length_lt_pow {maxSize : Nat} (fits : maxSize < 16777216) (x : Inner maxSize) :
    x.bytes.length < 256 ^ Inner.headerSize maxSize :=
  lt_of_le_of_lt x.bounded (Inner.lt_pow_headerSize fits)

def innerCodec (maxSize : Nat) (fits : maxSize < 16777216) : Codec (Inner maxSize) where
  encode x := leBytes (Inner.headerSize maxSize) x.bytes.length ++ x.bytes
  decode buf := do
    let (header, buf) ← readBytes (Inner.headerSize maxSize) buf
    let (bytes, buf) ← readBytes (leValue header) buf
    let x ← Inner.tryFrom bytes
    pure (x, buf)
  decode_encode x rest := by
    simp [List.append_assoc, readBytes_leBytes, leValue_leBytes_of_lt (x.length_lt_pow fits),
      readBytes_append]
  decode_truncated x k short := by
    by_cases within : k < Inner.headerSize maxSize
    · simp [readBytes_take_of_lt _ within]
    · obtain ⟨i, rfl⟩ := Nat.exists_eq_add_of_le (Nat.not_lt.mp within)
      have inside : i < x.bytes.length := by simp at short; omega
      simp [take_leBytes_append, readBytes_leBytes, leValue_leBytes_of_lt (x.length_lt_pow fits),
        readBytes_take_of_lt _ inside]
  decode_sound buf x rest decoded := by
    rcases except_bind_eq_ok.mp decoded with ⟨⟨header, buf'⟩, readHeader, decoded⟩
    rcases except_bind_eq_ok.mp decoded with ⟨⟨bytes, rest'⟩, readBody, decoded⟩
    rcases except_bind_eq_ok.mp decoded with ⟨y, built, decoded⟩
    cases decoded
    obtain ⟨headerLength, rfl⟩ := readBytes_eq_ok readHeader
    obtain ⟨bodyLength, rfl⟩ := readBytes_eq_ok readBody
    dsimp only
    rw [Inner.tryFrom_eq_ok.mp built, bodyLength, ← headerLength, leBytes_leValue,
      List.append_assoc]

theorem innerCodec_decode_eq_error {maxSize : Nat} (fits : maxSize < 16777216)
    (full : 256 ^ Inner.headerSize maxSize ≤ maxSize + 1) {buf : List UInt8} {e : Error}
    (failed : (innerCodec maxSize fits).decode buf = .error e) : e = .outOfBound := by
  simp only [innerCodec] at failed
  rcases except_bind_eq_error.mp failed with failed | ⟨⟨header, buf⟩, read, failed⟩
  · exact readBytes_eq_error failed
  dsimp only at failed
  rcases except_bind_eq_error.mp failed with failed | ⟨⟨bytes, buf⟩, read', failed⟩
  · exact readBytes_eq_error failed
  have header_length := (readBytes_eq_ok read).1
  have bytes_length := (readBytes_eq_ok read').1
  have below := leValue_lt header
  rw [header_length] at below
  have built : (Inner.tryFrom bytes : Except Error (Inner maxSize)) = .ok ⟨bytes, by omega⟩ :=
    Inner.tryFrom_eq_ok.mpr rfl
  simp [built] at failed

def decodeMany (c : Codec α) : Nat → List UInt8 → Except Error (List α × List UInt8)
  | 0, buf => .ok ([], buf)
  | n + 1, buf => do
    let (a, buf) ← c.decode buf
    let (items, buf) ← decodeMany c n buf
    pure (a :: items, buf)

theorem decodeMany_encode (c : Codec α) (items : List α) (rest : List UInt8) :
    decodeMany c items.length ((items.map c.encode).flatten ++ rest) = .ok (items, rest) := by
  induction items with
  | nil => rfl
  | cons a items ih => simp [decodeMany, List.append_assoc, c.decode_encode, ih]

theorem decodeMany_truncated (c : Codec α) (items : List α) (k : Nat)
    (short : k < (items.map c.encode).flatten.length) :
    decodeMany c items.length ((items.map c.encode).flatten.take k) = .error .outOfBound := by
  induction items generalizing k with
  | nil => simp at short
  | cons a items ih =>
    by_cases within : k < (c.encode a).length
    · simp [decodeMany, List.take_append_of_le_length within.le, c.decode_truncated _ _ within]
    · obtain ⟨i, rfl⟩ := Nat.exists_eq_add_of_le (Nat.not_lt.mp within)
      have inside : i < (items.map c.encode).flatten.length := by
        simp only [List.map_cons, List.flatten_cons, List.length_append] at short
        omega
      simp [decodeMany, List.take_append, c.decode_encode, ih i inside]

theorem decodeMany_sound (c : Codec α) (n : Nat) {buf : List UInt8} {items : List α}
    {rest : List UInt8} (decoded : decodeMany c n buf = .ok (items, rest)) :
    items.length = n ∧ buf = (items.map c.encode).flatten ++ rest := by
  induction n generalizing buf items with
  | zero =>
    cases decoded
    exact ⟨rfl, rfl⟩
  | succ n ih =>
    rcases except_bind_eq_ok.mp decoded with ⟨⟨a, buf'⟩, first, decoded⟩
    rcases except_bind_eq_ok.mp decoded with ⟨⟨items', rest'⟩, others, decoded⟩
    cases decoded
    obtain ⟨length, rfl⟩ := ih others
    exact ⟨by simp [length], by simp [c.decode_sound _ _ _ first]⟩

theorem Seq064K.length_lt_pow (s : Seq064K α) : s.items.length < 256 ^ 2 := by
  have := s.bounded
  omega

/-- Modelled from the spec: a `Seq064K` is its element count in two bytes followed by its
elements. -/
def seq064KCodec (c : Codec α) : Codec (Seq064K α) where
  encode s := leBytes 2 s.items.length ++ (s.items.map c.encode).flatten
  decode buf := do
    let (header, buf) ← readBytes 2 buf
    let (items, buf) ← decodeMany c (leValue header) buf
    let s ← Seq064K.new items
    pure (s, buf)
  decode_encode s rest := by
    simp [List.append_assoc, readBytes_leBytes, leValue_leBytes_of_lt s.length_lt_pow,
      decodeMany_encode]
  decode_truncated s k short := by
    by_cases within : k < 2
    · simp [readBytes_take_of_lt _ within]
    · obtain ⟨i, rfl⟩ := Nat.exists_eq_add_of_le (Nat.not_lt.mp within)
      have inside : i < (s.items.map c.encode).flatten.length := by
        simp only [List.length_append, length_leBytes] at short
        omega
      simp [take_leBytes_append, readBytes_leBytes, leValue_leBytes_of_lt s.length_lt_pow,
        decodeMany_truncated c s.items i inside]
  decode_sound buf s rest decoded := by
    rcases except_bind_eq_ok.mp decoded with ⟨⟨header, buf'⟩, readHeader, decoded⟩
    rcases except_bind_eq_ok.mp decoded with ⟨⟨items, rest'⟩, elements, decoded⟩
    rcases except_bind_eq_ok.mp decoded with ⟨t, built, decoded⟩
    cases decoded
    obtain ⟨headerLength, rfl⟩ := readBytes_eq_ok readHeader
    obtain ⟨count, rfl⟩ := decodeMany_sound c _ elements
    dsimp only
    rw [Seq064K.new_eq_ok.mp built, count, ← headerLength, leBytes_leValue, List.append_assoc]

end Primitives

class GetSize (α : Type) where
  getSize : α → Nat

section Sizes

variable {α : Type}

instance : GetSize UInt8 := ⟨fun _ => 1⟩
instance : GetSize UInt16 := ⟨fun _ => 2⟩
instance : GetSize UInt32 := ⟨fun _ => 4⟩
instance : GetSize UInt64 := ⟨fun _ => 8⟩

instance {maxSize : Nat} : GetSize (Inner maxSize) :=
  ⟨fun x => Inner.headerSize maxSize + x.bytes.length⟩

instance [GetSize α] : GetSize (Seq064K α) :=
  ⟨fun s => s.items.foldl (fun size a => size + GetSize.getSize a) 2⟩

@[simp] theorem length_u8Codec_encode (x : UInt8) : (u8Codec.encode x).length = GetSize.getSize x :=
  rfl

@[simp] theorem length_u16Codec_encode (x : UInt16) :
    (u16Codec.encode x).length = GetSize.getSize x := length_leBytes 2 _

@[simp] theorem length_u32Codec_encode (x : UInt32) :
    (u32Codec.encode x).length = GetSize.getSize x := length_leBytes 4 _

@[simp] theorem length_u64Codec_encode (x : UInt64) :
    (u64Codec.encode x).length = GetSize.getSize x := length_leBytes 8 _

@[simp] theorem length_innerCodec_encode {maxSize : Nat} (fits : maxSize < 16777216)
    (x : Inner maxSize) : ((innerCodec maxSize fits).encode x).length = GetSize.getSize x := by
  simp [innerCodec, GetSize.getSize]

theorem foldl_add_length_encode (c : Codec α) (items : List α) (init : Nat) :
    items.foldl (fun size a => size + (c.encode a).length) init =
      init + ((items.map c.encode).flatten).length := by
  induction items generalizing init with
  | nil => rfl
  | cons a items ih => simp [ih, Nat.add_assoc]

theorem length_seq064KCodec_encode [GetSize α] (c : Codec α)
    (sized : ∀ a, (c.encode a).length = GetSize.getSize a) (s : Seq064K α) :
    ((seq064KCodec c).encode s).length = GetSize.getSize s := by
  have summed := foldl_add_length_encode c s.items 2
  simp only [sized] at summed
  simp [seq064KCodec, GetSize.getSize, summed]

end Sizes

end StratumWire
