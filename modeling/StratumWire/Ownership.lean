import Mathlib.Data.List.Nodup
import StratumWire.Bridge
import StratumWire.Heap

/-! The ownership discipline of the C representations over the heap: the blocks each held value
owns, and what every run of conversions and releases leaves in memory. -/

namespace StratumWire

namespace CSetupConnection

structure Raw where
  protocol : Protocol
  minVersion : UInt16
  maxVersion : UInt16
  flags : UInt32
  endpointHost : Ptr
  endpointPort : UInt16
  vendor : Ptr
  hardwareVersion : Ptr
  firmware : Ptr
  deviceId : Ptr

namespace Raw

/-- `From<SetupConnection> for CSetupConnection`: every `.into()` copies a field into a fresh
`Vec`, in the order the struct literal lists them. -/
def fromSetupConnection (v : SetupConnection) (h : Heap) : Raw × Heap :=
  let (endpointHost, h) := h.allocInner v.endpointHost
  let (vendor, h) := h.allocInner v.vendor
  let (hardwareVersion, h) := h.allocInner v.hardwareVersion
  let (firmware, h) := h.allocInner v.firmware
  let (deviceId, h) := h.allocInner v.deviceId
  ({ protocol := v.protocol
     minVersion := v.minVersion
     maxVersion := v.maxVersion
     flags := v.flags
     endpointHost
     endpointPort := v.endpointPort
     vendor
     hardwareVersion
     firmware
     deviceId }, h)

def freeSetupConnection (p : Raw) (h : Heap) : Except HeapError Heap :=
  h.freeVecs [p.endpointHost, p.vendor, p.hardwareVersion, p.firmware, p.deviceId]

def load (p : Raw) (h : Heap) : Except HeapError CSetupConnection := do
  let endpointHost ← h.readVec p.endpointHost
  let vendor ← h.readVec p.vendor
  let hardwareVersion ← h.readVec p.hardwareVersion
  let firmware ← h.readVec p.firmware
  let deviceId ← h.readVec p.deviceId
  pure
    { protocol := p.protocol
      minVersion := p.minVersion
      maxVersion := p.maxVersion
      flags := p.flags
      endpointHost
      endpointPort := p.endpointPort
      vendor
      hardwareVersion
      firmware
      deviceId }

end Raw

end CSetupConnection

namespace CSetupConnectionError

structure Raw where
  flags : UInt32
  errorCode : Ptr

namespace Raw

def fromSetupConnectionError (v : SetupConnectionError) (h : Heap) : Raw × Heap :=
  let (errorCode, h) := h.allocInner v.errorCode
  ({ flags := v.flags, errorCode }, h)

def freeSetupConnectionError (p : Raw) (h : Heap) : Except HeapError Heap :=
  h.freeVecs [p.errorCode]

def load (p : Raw) (h : Heap) : Except HeapError CSetupConnectionError := do
  let errorCode ← h.readVec p.errorCode
  pure { flags := p.flags, errorCode }

end Raw

end CSetupConnectionError

namespace CRequestTransactionDataSuccess

structure Raw where
  templateId : UInt64
  excessData : Ptr
  transactionList : Ptr

namespace Raw

def fromRequestTransactionDataSuccess (v : RequestTransactionDataSuccess) (h : Heap) :
    Raw × Heap :=
  let (excessData, h) := h.allocInner v.excessData
  let (transactionList, h) := h.allocSeq064K v.transactionList
  ({ templateId := v.templateId, excessData, transactionList }, h)

def freeRequestTxDataSuccess (p : Raw) (h : Heap) : Except HeapError Heap := do
  let h ← h.freeVec p.excessData
  h.freeVec2 p.transactionList

def load (p : Raw) (h : Heap) : Except HeapError CRequestTransactionDataSuccess := do
  let excessData ← h.readVec p.excessData
  let transactionList ← h.readVec2 p.transactionList
  pure { templateId := p.templateId, excessData, transactionList }

end Raw

end CRequestTransactionDataSuccess

namespace CRequestTransactionDataError

structure Raw where
  templateId : UInt64
  errorCode : Ptr

namespace Raw

def fromRequestTransactionDataError (v : RequestTransactionDataError) (h : Heap) : Raw × Heap :=
  let (errorCode, h) := h.allocInner v.errorCode
  ({ templateId := v.templateId, errorCode }, h)

def freeRequestTxDataError (p : Raw) (h : Heap) : Except HeapError Heap :=
  h.freeVecs [p.errorCode]

def load (p : Raw) (h : Heap) : Except HeapError CRequestTransactionDataError := do
  let errorCode ← h.readVec p.errorCode
  pure { templateId := p.templateId, errorCode }

end Raw

end CRequestTransactionDataError

namespace CSubmitSolution

structure Raw where
  templateId : UInt64
  version : UInt32
  headerTimestamp : UInt32
  headerNonce : UInt32
  coinbaseTx : Ptr

namespace Raw

def fromSubmitSolution (v : SubmitSolution) (h : Heap) : Raw × Heap :=
  let (coinbaseTx, h) := h.allocInner v.coinbaseTx
  ({ templateId := v.templateId
     version := v.version
     headerTimestamp := v.headerTimestamp
     headerNonce := v.headerNonce
     coinbaseTx }, h)

def freeSubmitSolution (p : Raw) (h : Heap) : Except HeapError Heap :=
  h.freeVecs [p.coinbaseTx]

def load (p : Raw) (h : Heap) : Except HeapError CSubmitSolution := do
  let coinbaseTx ← h.readVec p.coinbaseTx
  pure
    { templateId := p.templateId
      version := p.version
      headerTimestamp := p.headerTimestamp
      headerNonce := p.headerNonce
      coinbaseTx }

end Raw

end CSubmitSolution

inductive Outgoing where
  | setupConnection (v : SetupConnection)
  | setupConnectionError (v : SetupConnectionError)
  | requestTransactionDataSuccess (v : RequestTransactionDataSuccess)
  | requestTransactionDataError (v : RequestTransactionDataError)
  | submitSolution (v : SubmitSolution)

inductive Handle where
  | setupConnection (p : CSetupConnection.Raw)
  | setupConnectionError (p : CSetupConnectionError.Raw)
  | requestTransactionDataSuccess (p : CRequestTransactionDataSuccess.Raw)
  | requestTransactionDataError (p : CRequestTransactionDataError.Raw)
  | submitSolution (p : CSubmitSolution.Raw)

def Outgoing.convert : Outgoing → Heap → Handle × Heap
  | setupConnection v, h =>
    let (p, h) := CSetupConnection.Raw.fromSetupConnection v h
    (.setupConnection p, h)
  | setupConnectionError v, h =>
    let (p, h) := CSetupConnectionError.Raw.fromSetupConnectionError v h
    (.setupConnectionError p, h)
  | requestTransactionDataSuccess v, h =>
    let (p, h) := CRequestTransactionDataSuccess.Raw.fromRequestTransactionDataSuccess v h
    (.requestTransactionDataSuccess p, h)
  | requestTransactionDataError v, h =>
    let (p, h) := CRequestTransactionDataError.Raw.fromRequestTransactionDataError v h
    (.requestTransactionDataError p, h)
  | submitSolution v, h =>
    let (p, h) := CSubmitSolution.Raw.fromSubmitSolution v h
    (.submitSolution p, h)

namespace Handle

def free : Handle → Heap → Except HeapError Heap
  | setupConnection p, h => p.freeSetupConnection h
  | setupConnectionError p, h => p.freeSetupConnectionError h
  | requestTransactionDataSuccess p, h => p.freeRequestTxDataSuccess h
  | requestTransactionDataError p, h => p.freeRequestTxDataError h
  | submitSolution p, h => p.freeSubmitSolution h

def toRustRepMut : Handle → Heap → Except HeapError (Except Error Outgoing)
  | setupConnection p, h => (fun c => .setupConnection <$> c.toRustRepMut) <$> p.load h
  | setupConnectionError p, h => (fun c => .setupConnectionError <$> c.toRustRepMut) <$> p.load h
  | requestTransactionDataSuccess p, h =>
    (fun c => .requestTransactionDataSuccess <$> c.toRustRepMut) <$> p.load h
  | requestTransactionDataError p, h =>
    (fun c => .requestTransactionDataError <$> c.toRustRepMut) <$> p.load h
  | submitSolution p, h => (fun c => .submitSolution <$> c.toRustRepMut) <$> p.load h

def pointers : Handle → List Ptr
  | setupConnection p => [p.endpointHost, p.vendor, p.hardwareVersion, p.firmware, p.deviceId]
  | setupConnectionError p => [p.errorCode]
  | requestTransactionDataSuccess p => [p.excessData, p.transactionList]
  | requestTransactionDataError p => [p.errorCode]
  | submitSolution p => [p.coinbaseTx]

end Handle

namespace Outgoing

/-- The blocks `From` fills for the message, in the order it allocates them: one for each
variable-length field that is not empty, and for a transaction list that is not empty its
transactions' blocks, then the array of their pointers. -/
def blocks : Outgoing → Heap → List Block
  | setupConnection v, _ =>
    Heap.bytesBlocks [v.endpointHost.bytes, v.vendor.bytes, v.hardwareVersion.bytes,
      v.firmware.bytes, v.deviceId.bytes]
  | setupConnectionError v, _ => Heap.bytesBlocks [v.errorCode.bytes]
  | requestTransactionDataSuccess v, h =>
    Heap.bytesBlocks [v.excessData.bytes] ++
      Heap.seqBlocks (h.next + (Heap.bytesBlocks [v.excessData.bytes]).length)
        (v.transactionList.items.map Inner.bytes)
  | requestTransactionDataError v, _ => Heap.bytesBlocks [v.errorCode.bytes]
  | submitSolution v, _ => Heap.bytesBlocks [v.coinbaseTx.bytes]

theorem convert_heap (m : Outgoing) (h : Heap) :
    (m.convert h).2 = (h.allocMany (m.blocks h)).2 := by
  cases m with
  | setupConnection v =>
    exact congrArg Prod.snd
      (h.allocInners_eq [v.endpointHost, v.vendor, v.hardwareVersion, v.firmware, v.deviceId])
  | setupConnectionError v => exact congrArg Prod.snd (h.allocInners_eq [v.errorCode])
  | requestTransactionDataSuccess v =>
    have excess := congrArg Prod.snd (h.allocInners_eq [v.excessData])
    show ((h.allocInners [v.excessData]).2.allocSeq064K v.transactionList).2 = _
    rw [excess, Heap.allocSeq064K_eq, Heap.allocMany_next, blocks, Heap.allocMany_append]
    rfl
  | requestTransactionDataError v => exact congrArg Prod.snd (h.allocInners_eq [v.errorCode])
  | submitSolution v => exact congrArg Prod.snd (h.allocInners_eq [v.coinbaseTx])

end Outgoing

/-- `bs` are the blocks the held value `hd`, made from `m`, owns: with them in place `hd` reads
back as `m`, and its `free_*` hands back exactly them. -/
structure Footprint (m : Outgoing) (hd : Handle) (bs : List (Nat × Block)) : Prop where
  distinct : (bs.map Prod.fst).Nodup
  reads : ∀ h : Heap, h.Holds bs → hd.toRustRepMut h = .ok (.ok m)
  frees : ∀ h : Heap, h.Holds bs → hd.free h = .ok (h.removeAll (bs.map Prod.fst))

theorem footprint_of_pointers {m : Outgoing} {hd : Handle} {ptrs : List Ptr} {start : Nat}
    {ds : List (List UInt8)} (allocated : ptrs = Heap.pointers start ds)
    (reads : ∀ h : Heap, List.Forall₂ (fun p d => h.readVec p = .ok ⟨d⟩) ptrs ds →
      hd.toRustRepMut h = .ok (.ok m))
    (frees : ∀ h : Heap, hd.free h = h.freeVecs ptrs) :
    Footprint m hd (Heap.placed start (Heap.bytesBlocks ds)) := by
  subst allocated
  exact ⟨Heap.nodup_placed _ _, fun h held => reads h (Heap.forall₂_readVec_pointers start ds held),
    fun h held => (frees h).trans (Heap.freeVecs_pointers start ds held)⟩

theorem toRustRepMut_of_load {γ μ : Type} {load : Except HeapError γ}
    {convert : γ → Except Error μ} {c : γ} {v : μ} (wrap : μ → Outgoing) (loaded : load = .ok c)
    (back : convert c = .ok v) :
    (fun c => wrap <$> convert c) <$> load = .ok (.ok (wrap v)) := by
  rw [loaded, except_map_ok, back]
  rfl

namespace Outgoing

theorem footprint_setupConnection (v : SetupConnection) (h : Heap) :
    Footprint (setupConnection v) ((setupConnection v).convert h).1
      (Heap.placed h.next ((setupConnection v).blocks h)) := by
  let p := (CSetupConnection.Raw.fromSetupConnection v h).1
  have allocated : [p.endpointHost, p.vendor, p.hardwareVersion, p.firmware, p.deviceId] =
      Heap.pointers h.next [v.endpointHost.bytes, v.vendor.bytes, v.hardwareVersion.bytes,
        v.firmware.bytes, v.deviceId.bytes] :=
    h.allocInners_fst [v.endpointHost, v.vendor, v.hardwareVersion, v.firmware, v.deviceId]
  refine footprint_of_pointers allocated (fun h' read => ?_) fun _ => rfl
  simp only [List.forall₂_cons] at read
  obtain ⟨host, vendor, hardware, firmware, device, -⟩ := read
  show (fun c => _) <$> p.load h' = _
  refine toRustRepMut_of_load _ ?_ (CSetupConnection.toRustRepMut_eq_ok.mpr rfl)
  rw [CSetupConnection.Raw.load, host, except_ok_bind, vendor, except_ok_bind, hardware,
    except_ok_bind, firmware, except_ok_bind, device, except_ok_bind]
  rfl

theorem footprint_requestTransactionDataSuccess (v : RequestTransactionDataSuccess) (h : Heap) :
    Footprint (requestTransactionDataSuccess v) ((requestTransactionDataSuccess v).convert h).1
      (Heap.placed h.next ((requestTransactionDataSuccess v).blocks h)) := by
  let p := (CRequestTransactionDataSuccess.Raw.fromRequestTransactionDataSuccess v h).1
  let excess := Heap.bytesBlocks [v.excessData.bytes]
  let ds := v.transactionList.items.map Inner.bytes
  have allocated : [p.excessData] = Heap.pointers h.next [v.excessData.bytes] :=
    h.allocInners_fst [v.excessData]
  have list : p.transactionList = Heap.seqPointer (h.next + excess.length) ds := by
    have excessHeap := congrArg Prod.snd (h.allocInners_eq [v.excessData])
    show ((h.allocInners [v.excessData]).2.allocSeq064K v.transactionList).1 = _
    rw [excessHeap, Heap.allocSeq064K_eq, Heap.allocMany_next]
    rfl
  have split : Heap.placed h.next ((requestTransactionDataSuccess v).blocks h) =
      Heap.placed h.next excess ++ Heap.placed (h.next + excess.length)
        (Heap.seqBlocks (h.next + excess.length) ds) :=
    Heap.placed_append _ _ _
  refine ⟨Heap.nodup_placed _ _, fun h' held => ?_, fun h' held => ?_⟩ <;>
    rw [split, Heap.holds_append] at held
  · obtain ⟨code, -⟩ := List.forall₂_cons.mp
      (allocated ▸ Heap.forall₂_readVec_pointers h.next _ held.1)
    have transactions := list ▸ Heap.readVec2_seqPointer _ ds held.2
    show (fun c => _) <$> p.load h' = _
    refine toRustRepMut_of_load _ ?_ (CRequestTransactionDataSuccess.toRustRepMut_eq_ok.mpr rfl)
    rw [CRequestTransactionDataSuccess.Raw.load, code, except_ok_bind, transactions,
      except_ok_bind, List.map_map]
    rfl
  · have first := Heap.freeVecs_pointers h.next _ held.1
    rw [← allocated, Heap.freeVecs_singleton] at first
    have apart : ∀ e ∈ Heap.placed (h.next + excess.length)
        (Heap.seqBlocks (h.next + excess.length) ds),
        e.1 ∉ (Heap.placed h.next excess).map Prod.fst := fun e member outside => by
      obtain ⟨e', inExcess, same⟩ := List.mem_map.mp outside
      have := (Heap.mem_placed inExcess).2.1
      have := (Heap.mem_placed member).1
      omega
    have second := list ▸ Heap.freeVec2_seqPointer _ ds (Heap.holds_removeAll held.2 _ apart)
    show p.freeRequestTxDataSuccess h' = _
    rw [CRequestTransactionDataSuccess.Raw.freeRequestTxDataSuccess, first, except_ok_bind,
      second, split, List.map_append, Heap.removeAll_append]

theorem footprint_convert (m : Outgoing) (h : Heap) :
    Footprint m (m.convert h).1 (Heap.placed h.next (m.blocks h)) := by
  cases m with
  | setupConnection v => exact footprint_setupConnection v h
  | requestTransactionDataSuccess v => exact footprint_requestTransactionDataSuccess v h
  | setupConnectionError v =>
    let p := (CSetupConnectionError.Raw.fromSetupConnectionError v h).1
    have allocated : [p.errorCode] = Heap.pointers h.next [v.errorCode.bytes] :=
      h.allocInners_fst [v.errorCode]
    refine footprint_of_pointers allocated (fun h' read => ?_) fun _ => rfl
    show (fun c => _) <$> p.load h' = _
    refine toRustRepMut_of_load _ ?_ (CSetupConnectionError.toRustRepMut_eq_ok.mpr rfl)
    rw [CSetupConnectionError.Raw.load, (List.forall₂_cons.mp read).1]
    rfl
  | requestTransactionDataError v =>
    let p := (CRequestTransactionDataError.Raw.fromRequestTransactionDataError v h).1
    have allocated : [p.errorCode] = Heap.pointers h.next [v.errorCode.bytes] :=
      h.allocInners_fst [v.errorCode]
    refine footprint_of_pointers allocated (fun h' read => ?_) fun _ => rfl
    show (fun c => _) <$> p.load h' = _
    refine toRustRepMut_of_load _ ?_ (CRequestTransactionDataError.toRustRepMut_eq_ok.mpr rfl)
    rw [CRequestTransactionDataError.Raw.load, (List.forall₂_cons.mp read).1]
    rfl
  | submitSolution v =>
    let p := (CSubmitSolution.Raw.fromSubmitSolution v h).1
    have allocated : [p.coinbaseTx] = Heap.pointers h.next [v.coinbaseTx.bytes] :=
      h.allocInners_fst [v.coinbaseTx]
    refine footprint_of_pointers allocated (fun h' read => ?_) fun _ => rfl
    show (fun c => _) <$> p.load h' = _
    refine toRustRepMut_of_load _ ?_ (CSubmitSolution.toRustRepMut_eq_ok.mpr rfl)
    rw [CSubmitSolution.Raw.load, (List.forall₂_cons.mp read).1]
    rfl

end Outgoing

inductive Call where
  | convert (m : Outgoing)
  | free (i : Nat)

structure Session where
  heap : Heap
  held : List (Outgoing × Handle)

namespace Session

def step (s : Session) : Call → Except HeapError Session
  | .convert m =>
    let (hd, heap) := m.convert s.heap
    .ok ⟨heap, (m, hd) :: s.held⟩
  | .free i =>
    match s.held[i]? with
    | some (_, hd) => do
      let heap ← hd.free s.heap
      pure ⟨heap, s.held.eraseIdx i⟩
    | none => .ok s

def run (s : Session) (calls : List Call) : Except HeapError Session := calls.foldlM step s

/-- `owned` lists the footprint of every held value, in order. The footprints are disjoint, lie
above the memory the session started from (`base`), and are in place; every other address is as
in `base`. -/
structure Accounts (base : Heap) (s : Session) (owned : List (List (Nat × Block))) : Prop where
  grown : base.next ≤ s.heap.next
  footprints : List.Forall₂ (fun x bs => Footprint x.1 x.2 bs) s.held owned
  distinct : (owned.flatten.map Prod.fst).Nodup
  above : ∀ e ∈ owned.flatten, base.next ≤ e.1
  live : s.heap.Holds owned.flatten
  untouched : ∀ a, a ∉ owned.flatten.map Prod.fst → s.heap.mem a = base.mem a

section Lists

variable {α β : Type} {R : α → β → Prop}

theorem forall₂_getElem? {xs : List α} {ys : List β} (related : List.Forall₂ R xs ys) {i : Nat}
    {x : α} (found : xs[i]? = some x) : ∃ y, ys[i]? = some y ∧ R x y := by
  induction related generalizing i with
  | nil => cases found
  | cons head _ ih =>
    cases i with
    | zero =>
      rw [List.getElem?_cons_zero, Option.some.injEq] at found
      exact ⟨_, List.getElem?_cons_zero, found ▸ head⟩
    | succ i =>
      rw [List.getElem?_cons_succ] at found ⊢
      exact ih found

theorem forall₂_eraseIdx {xs : List α} {ys : List β} (related : List.Forall₂ R xs ys) (i : Nat) :
    List.Forall₂ R (xs.eraseIdx i) (ys.eraseIdx i) := by
  induction related generalizing i with
  | nil => exact .nil
  | cons head rest ih =>
    cases i with
    | zero => exact rest
    | succ i => exact .cons head (ih i)

theorem flatten_perm_eraseIdx {L : List (List α)} {i : Nat} {l : List α} (found : L[i]? = some l) :
    L.flatten.Perm (l ++ (L.eraseIdx i).flatten) := by
  induction L generalizing i with
  | nil => cases found
  | cons l' L ih =>
    cases i with
    | zero =>
      rw [List.getElem?_cons_zero, Option.some.injEq] at found
      rw [← found]
      exact .refl _
    | succ i =>
      rw [List.eraseIdx_cons_succ, List.flatten_cons, List.flatten_cons]
      rw [List.getElem?_cons_succ] at found
      exact ((ih found).append_left l').trans (List.perm_append_comm_assoc _ _ _)

end Lists

variable {base : Heap} {s : Session} {owned : List (List (Nat × Block))}

theorem accounts_start (base : Heap) : Accounts base ⟨base, []⟩ [] :=
  ⟨le_refl _, .nil, List.nodup_nil, nofun, nofun, fun _ _ => rfl⟩

theorem accounts_convert (acc : Accounts base s owned) (m : Outgoing) :
    Accounts base ⟨(m.convert s.heap).2, (m, (m.convert s.heap).1) :: s.held⟩
      (Heap.placed s.heap.next (m.blocks s.heap) :: owned) := by
  have old : ∀ e ∈ owned.flatten, e.1 < s.heap.next := fun e member =>
    Heap.lt_next_of_mem (acc.live e member)
  rw [Outgoing.convert_heap]
  refine ⟨?_, .cons (Outgoing.footprint_convert m s.heap) acc.footprints, ?_, ?_, ?_, ?_⟩
  · have := acc.grown
    simp only [Heap.allocMany_next]
    omega
  · rw [List.flatten_cons, List.map_append, List.nodup_append]
    refine ⟨Heap.nodup_placed _ _, acc.distinct, fun a inNew inOld => ?_⟩
    obtain ⟨e, member, rfl⟩ := List.mem_map.mp inNew
    obtain ⟨e', member', same⟩ := List.mem_map.mp inOld
    have := (Heap.mem_placed member).1
    have := old e' member'
    omega
  · intro e member
    rcases List.mem_append.mp member with member | member
    · have := (Heap.mem_placed member).1
      have := acc.grown
      omega
    · exact acc.above e member
  · intro e member
    rcases List.mem_append.mp member with member | member
    · exact Heap.allocMany_holds _ _ e member
    · rw [Heap.allocMany_mem_of_lt _ (old e member)]
      exact acc.live e member
  · intro a outside
    rw [List.flatten_cons, List.map_append, List.mem_append, not_or, Heap.map_fst_placed] at outside
    rw [Heap.allocMany_mem_of_not_mem _ outside.1]
    exact acc.untouched a outside.2

theorem accounts_free (acc : Accounts base s owned) {i : Nat} {x : Outgoing × Handle}
    (found : s.held[i]? = some x) :
    ∃ bs, owned[i]? = some bs ∧ x.2.free s.heap = .ok (s.heap.removeAll (bs.map Prod.fst)) ∧
      Accounts base ⟨s.heap.removeAll (bs.map Prod.fst), s.held.eraseIdx i⟩ (owned.eraseIdx i) := by
  obtain ⟨bs, owns, footprint⟩ := forall₂_getElem? acc.footprints found
  have split := flatten_perm_eraseIdx owns
  have addrs := split.map Prod.fst
  rw [List.map_append] at addrs
  have parts := List.nodup_append.mp (addrs.nodup_iff.mp acc.distinct)
  have inOwned : ∀ e, e ∈ bs ∨ e ∈ (owned.eraseIdx i).flatten → e ∈ owned.flatten := fun e member =>
    split.mem_iff.mpr (List.mem_append.mpr member)
  have freed := footprint.frees s.heap fun e member => acc.live e (inOwned e (.inl member))
  refine ⟨bs, owns, freed, (Heap.removeAll_next _ _).symm ▸ acc.grown,
    forall₂_eraseIdx acc.footprints i,
    parts.2.1, fun e member => acc.above e (inOwned e (.inr member)), fun e member => ?_,
    fun a outside => ?_⟩
  · rw [Heap.removeAll_mem, if_neg fun mine => parts.2.2 mine (List.mem_map_of_mem _ member)]
    exact acc.live e (inOwned e (.inr member))
  · rw [Heap.removeAll_mem]
    split
    · obtain ⟨e, member, rfl⟩ := List.mem_map.mp ‹a ∈ bs.map Prod.fst›
      exact (base.fresh _ (acc.above e (inOwned e (.inl member)))).symm
    · refine acc.untouched a fun inFlatten => ?_
      rcases List.mem_append.mp (addrs.mem_iff.mp inFlatten) with mine | rest
      · contradiction
      · exact outside rest

theorem accounts_step (acc : Accounts base s owned) (c : Call) :
    ∃ s' owned', s.step c = .ok s' ∧ Accounts base s' owned' := by
  cases c with
  | convert m => exact ⟨_, _, rfl, accounts_convert acc m⟩
  | free i =>
    cases found : s.held[i]? with
    | none => exact ⟨s, owned, by simp [step, found], acc⟩
    | some x =>
      obtain ⟨bs, -, freed, acc'⟩ := accounts_free acc found
      exact ⟨_, _, by simp [step, found, freed], acc'⟩

theorem accounts_run (acc : Accounts base s owned) (calls : List Call) :
    ∃ s' owned', s.run calls = .ok s' ∧ Accounts base s' owned' := by
  induction calls generalizing s owned with
  | nil => exact ⟨s, owned, rfl, acc⟩
  | cons c rest ih =>
    obtain ⟨s₁, owned₁, stepped, acc₁⟩ := accounts_step acc c
    obtain ⟨s', owned', ran, acc'⟩ := ih acc₁
    exact ⟨s', owned', by rw [run, List.foldlM_cons, stepped, except_ok_bind]; exact ran, acc'⟩

theorem Accounts.reads (acc : Accounts base s owned) {x : Outgoing × Handle} (held : x ∈ s.held) :
    x.2.toRustRepMut s.heap = .ok (.ok x.1) := by
  obtain ⟨i, found⟩ := List.mem_iff_getElem?.mp held
  obtain ⟨bs, owns, footprint⟩ := forall₂_getElem? acc.footprints found
  exact footprint.reads s.heap fun e member =>
    acc.live e (List.mem_flatten.mpr ⟨bs, List.getElem?_mem owns, member⟩)

end Session

/-- Over every run of conversions and releases by the foreign caller, starting from any heap:
no call fails, every value still held converts back with `to_rust_rep_mut`, through its
pointers, to the message it was made from, memory allocated before the run is untouched, and
once every value is released the heap is as it was. -/
theorem session_run_safe (base : Heap) (calls : List Call) :
    ∃ s, Session.run ⟨base, []⟩ calls = .ok s ∧
      (∀ x ∈ s.held, x.2.toRustRepMut s.heap = .ok (.ok x.1)) ∧
      (∀ a < base.next, s.heap.mem a = base.mem a) ∧
      (s.held = [] → s.heap.mem = base.mem) := by
  obtain ⟨s, owned, ran, acc⟩ := Session.accounts_run (Session.accounts_start base) calls
  refine ⟨s, ran, fun x held => acc.reads held, fun a below => acc.untouched a fun member => ?_,
    fun none => funext fun a => acc.untouched a ?_⟩
  · obtain ⟨e, inOwned, rfl⟩ := List.mem_map.mp member
    exact absurd (acc.above e inOwned) (by omega)
  · have empty := acc.footprints
    rw [none, List.forall₂_nil_left_iff] at empty
    rw [empty]
    nofun

/-- At every point of every run, memory that differs from where the run started belongs to the
blocks of the values the caller still holds: each value's blocks are in place and its `free_*`
hands back exactly them, and no block belongs to two values. Nothing leaks, and no block is
released twice. -/
theorem session_memory_accounted (base : Heap) (calls : List Call) :
    ∃ s owned, Session.run ⟨base, []⟩ calls = .ok s ∧
      List.Forall₂ (fun x bs => Footprint x.1 x.2 bs) s.held owned ∧
      (owned.flatten.map Prod.fst).Nodup ∧ s.heap.Holds owned.flatten ∧
      ∀ a, a ∉ owned.flatten.map Prod.fst → s.heap.mem a = base.mem a := by
  obtain ⟨s, owned, ran, acc⟩ := Session.accounts_run (Session.accounts_start base) calls
  exact ⟨s, owned, ran, acc.footprints, acc.distinct, acc.live, acc.untouched⟩

namespace Handle

variable {hd : Handle} {h h' : Heap}

/-- A value that owns no block, every variable-length field of it empty, is released without
touching the heap, any number of times. -/
theorem free_of_unowned (unowned : ∀ p ∈ hd.pointers, p = none) : hd.free h = .ok h := by
  cases hd with
  | requestTransactionDataSuccess p =>
    obtain ⟨excess, list⟩ : p.excessData = none ∧ p.transactionList = none :=
      ⟨unowned _ (List.mem_cons_self _ _),
        unowned _ (List.mem_cons_of_mem _ (List.mem_singleton_self _))⟩
    simp only [free, CRequestTransactionDataSuccess.Raw.freeRequestTxDataSuccess, excess, list]
    rfl
  | _ p => exact Heap.freeVecs_of_none unowned

end Handle

end StratumWire
