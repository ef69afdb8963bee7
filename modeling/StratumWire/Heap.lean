import StratumWire.BinarySv2

/-! The allocator behind the C representations, as the foreign side sees it: a pointer with no
live block of its kind behind it is an error here and undefined behaviour in the code. -/

namespace StratumWire

/-- A `CVec` or `CVec2` as the foreign caller holds it: the address of its block, or `none`
when it is empty, since a zero-capacity `Vec` owns no allocation. -/
abbrev Ptr := Option Nat

inductive Block where
  | bytes (data : List UInt8)
  | cvecs (items : List Ptr)
  deriving DecidableEq, Repr

inductive HeapError where
  | invalidPointer (addr : Nat)
  deriving DecidableEq, Repr

/-- `mem` maps every live address to its block; no address from `next` on has been handed
out. -/
structure Heap where
  mem : Nat → Option Block
  next : Nat
  fresh : ∀ addr, next ≤ addr → mem addr = none

namespace Heap

def empty : Heap := ⟨fun _ => none, 0, fun _ _ => rfl⟩

def alloc (h : Heap) (b : Block) : Nat × Heap :=
  (h.next, ⟨Function.update h.mem h.next (some b), h.next + 1, fun addr above => by
    rw [Function.update_noteq (by omega), h.fresh addr (by omega)]⟩)

def allocMany (h : Heap) : List Block → List Nat × Heap
  | [] => ([], h)
  | b :: bs =>
    let (addr, h) := h.alloc b
    let (addrs, h) := h.allocMany bs
    (addr :: addrs, h)

def remove (h : Heap) (addr : Nat) : Heap :=
  ⟨Function.update h.mem addr none, h.next, fun a above => by
    rw [Function.update_apply]
    split
    · rfl
    · exact h.fresh a above⟩

def removeAll (h : Heap) (addrs : List Nat) : Heap := addrs.foldl remove h

def freeVec (h : Heap) : Ptr → Except HeapError Heap
  | none => .ok h
  | some addr =>
    match h.mem addr with
    | some (.bytes _) => .ok (h.remove addr)
    | _ => .error (.invalidPointer addr)

def freeVecs (h : Heap) (ptrs : List Ptr) : Except HeapError Heap := ptrs.foldlM freeVec h

/-- `free_vec_2`: rebuilds the `Vec<CVec>` behind a `CVec2`, frees every element with
`free_vec` and drops the array. -/
def freeVec2 (h : Heap) : Ptr → Except HeapError Heap
  | none => .ok h
  | some addr =>
    match h.mem addr with
    | some (.cvecs items) => do
      let h ← h.freeVecs items
      pure (h.remove addr)
    | _ => .error (.invalidPointer addr)

def readVec (h : Heap) : Ptr → Except HeapError CVec
  | none => .ok ⟨[]⟩
  | some addr =>
    match h.mem addr with
    | some (.bytes data) => .ok ⟨data⟩
    | _ => .error (.invalidPointer addr)

def readVec2 (h : Heap) : Ptr → Except HeapError CVec2
  | none => .ok ⟨[]⟩
  | some addr =>
    match h.mem addr with
    | some (.cvecs items) => CVec2.mk <$> items.mapM h.readVec
    | _ => .error (.invalidPointer addr)

/-- `From<Inner> for CVec`: the bytes copied into a fresh `Vec`, which allocates only when they
are not empty. -/
def allocInner {maxSize : Nat} (h : Heap) (v : Inner maxSize) : Ptr × Heap :=
  match v.bytes with
  | [] => (none, h)
  | data =>
    let (addr, h) := h.alloc (.bytes data)
    (some addr, h)

def allocInners {maxSize : Nat} (h : Heap) : List (Inner maxSize) → List Ptr × Heap
  | [] => ([], h)
  | v :: vs =>
    let (ptr, h) := h.allocInner v
    let (ptrs, h) := h.allocInners vs
    (ptr :: ptrs, h)

/-- `From<Seq064K<Inner>> for CVec2`: every element converted in order, then their `CVec`s
collected into an array, which allocates only when there are any. -/
def allocSeq064K {maxSize : Nat} (h : Heap) (v : Seq064K (Inner maxSize)) : Ptr × Heap :=
  match v.items with
  | [] => (none, h)
  | items =>
    let (ptrs, h) := h.allocInners items
    let (addr, h) := h.alloc (.cvecs ptrs)
    (some addr, h)

def Holds (h : Heap) (bs : List (Nat × Block)) : Prop := ∀ e ∈ bs, h.mem e.1 = some e.2

def placed : Nat → List Block → List (Nat × Block)
  | _, [] => []
  | start, b :: bs => (start, b) :: placed (start + 1) bs

def pointers : Nat → List (List UInt8) → List Ptr
  | _, [] => []
  | start, [] :: ds => none :: pointers start ds
  | start, (_ :: _) :: ds => some start :: pointers (start + 1) ds

def bytesBlocks : List (List UInt8) → List Block
  | [] => []
  | [] :: ds => bytesBlocks ds
  | (b :: d) :: ds => .bytes (b :: d) :: bytesBlocks ds

def seqBlocks (start : Nat) : List (List UInt8) → List Block
  | [] => []
  | d :: ds => bytesBlocks (d :: ds) ++ [.cvecs (pointers start (d :: ds))]

def seqPointer (start : Nat) : List (List UInt8) → Ptr
  | [] => none
  | d :: ds => some (start + (bytesBlocks (d :: ds)).length)

section Lemmas

variable {h : Heap}

@[simp] theorem alloc_fst (h : Heap) (b : Block) : (h.alloc b).1 = h.next := rfl

@[simp] theorem alloc_next (h : Heap) (b : Block) : (h.alloc b).2.next = h.next + 1 := rfl

@[simp] theorem alloc_mem (h : Heap) (b : Block) :
    (h.alloc b).2.mem = Function.update h.mem h.next (some b) := rfl

@[simp] theorem remove_next (h : Heap) (addr : Nat) : (h.remove addr).next = h.next := rfl

@[simp] theorem remove_mem (h : Heap) (addr : Nat) :
    (h.remove addr).mem = Function.update h.mem addr none := rfl

theorem lt_next_of_mem {a : Nat} {b : Block} (live : h.mem a = some b) : a < h.next :=
  Nat.lt_of_not_le fun above => by rw [h.fresh a above] at live; cases live

@[simp] theorem removeAll_next (h : Heap) (addrs : List Nat) :
    (h.removeAll addrs).next = h.next := by
  induction addrs generalizing h with
  | nil => rfl
  | cons a rest ih => exact ih (h.remove a)

theorem removeAll_mem (h : Heap) (addrs : List Nat) (a : Nat) :
    (h.removeAll addrs).mem a = if a ∈ addrs then none else h.mem a := by
  induction addrs generalizing h with
  | nil => simp [removeAll]
  | cons b rest ih =>
    rw [removeAll, List.foldl_cons, ← removeAll, ih, remove_mem, Function.update_apply]
    by_cases here : a = b <;> simp [here]

theorem removeAll_append (h : Heap) (addrs addrs' : List Nat) :
    h.removeAll (addrs ++ addrs') = (h.removeAll addrs).removeAll addrs' :=
  List.foldl_append _ _ _ _

@[simp] theorem allocMany_next (h : Heap) (bs : List Block) :
    (h.allocMany bs).2.next = h.next + bs.length := by
  induction bs generalizing h with
  | nil => rfl
  | cons b bs ih => simp only [allocMany, ih, alloc_next, List.length_cons]; omega

theorem allocMany_mem (h : Heap) (bs : List Block) (a : Nat) :
    (h.allocMany bs).2.mem a = if h.next ≤ a then bs[a - h.next]? else h.mem a := by
  induction bs generalizing h with
  | nil =>
    split
    · rw [List.getElem?_nil]
      exact h.fresh a ‹_›
    · rfl
  | cons b bs ih =>
    simp only [allocMany, ih, alloc_next, alloc_mem, Function.update_apply]
    by_cases below : a < h.next
    · simp [show ¬ h.next + 1 ≤ a by omega, show ¬ h.next ≤ a by omega,
        show a ≠ h.next by omega]
    · by_cases here : a = h.next
      · simp [here]
      · obtain ⟨k, rfl⟩ : ∃ k, a = h.next + 1 + k := ⟨a - (h.next + 1), by omega⟩
        simp [show h.next + 1 + k - h.next = k + 1 by omega, show h.next ≤ h.next + 1 + k by omega]

theorem allocMany_mem_of_lt {a : Nat} (bs : List Block) (below : a < h.next) :
    (h.allocMany bs).2.mem a = h.mem a := by
  rw [allocMany_mem, if_neg (by omega)]

theorem map_fst_placed (start : Nat) (bs : List Block) :
    (placed start bs).map Prod.fst = List.range' start bs.length := by
  induction bs generalizing start with
  | nil => rfl
  | cons b bs ih => simp [placed, ih, List.range'_succ]

theorem nodup_placed (start : Nat) (bs : List Block) : ((placed start bs).map Prod.fst).Nodup := by
  rw [map_fst_placed]
  exact List.nodup_range' _ _

theorem placed_append (start : Nat) (bs cs : List Block) :
    placed start (bs ++ cs) = placed start bs ++ placed (start + bs.length) cs := by
  induction bs generalizing start with
  | nil => rfl
  | cons b bs ih => simp [placed, ih, Nat.add_assoc, Nat.add_comm 1]

theorem mem_placed {start : Nat} {bs : List Block} {e : Nat × Block}
    (member : e ∈ placed start bs) : start ≤ e.1 ∧ e.1 < start + bs.length ∧ e.2 ∈ bs := by
  induction bs generalizing start with
  | nil => cases member
  | cons b bs ih =>
    rcases List.mem_cons.mp member with rfl | member
    · simp
    · obtain ⟨low, high, inBlocks⟩ := ih member
      exact ⟨by omega, by simp only [List.length_cons]; omega, List.mem_cons_of_mem _ inBlocks⟩

theorem allocMany_holds (h : Heap) (bs : List Block) :
    (h.allocMany bs).2.Holds (placed h.next bs) := by
  induction bs generalizing h with
  | nil => nofun
  | cons b bs ih =>
    rintro e (_ | ⟨_, member⟩)
    · rw [allocMany, allocMany_mem_of_lt bs (by simp), alloc_mem, Function.update_same]
    · exact ih (h.alloc b).2 e member

theorem allocMany_append (h : Heap) (bs cs : List Block) :
    (h.allocMany (bs ++ cs)).2 = ((h.allocMany bs).2.allocMany cs).2 := by
  induction bs generalizing h with
  | nil => rfl
  | cons b bs ih => exact ih (h.alloc b).2

theorem allocMany_mem_of_not_mem {a : Nat} (bs : List Block)
    (outside : a ∉ List.range' h.next bs.length) : (h.allocMany bs).2.mem a = h.mem a := by
  rw [List.mem_range'_1] at outside
  rw [allocMany_mem]
  split
  · rw [List.getElem?_eq_none (by omega), h.fresh a (by omega)]
  · rfl

@[simp] theorem holds_nil (h : Heap) : h.Holds [] := nofun

@[simp] theorem holds_cons {e : Nat × Block} {bs : List (Nat × Block)} :
    h.Holds (e :: bs) ↔ h.mem e.1 = some e.2 ∧ h.Holds bs :=
  List.forall_mem_cons

@[simp] theorem holds_append {bs cs : List (Nat × Block)} :
    h.Holds (bs ++ cs) ↔ h.Holds bs ∧ h.Holds cs :=
  List.forall_mem_append

theorem freeVecs_singleton (p : Ptr) : h.freeVecs [p] = h.freeVec p := by
  simp only [freeVecs, List.foldlM_cons, List.foldlM_nil]
  cases h.freeVec p <;> rfl

theorem freeVecs_of_none {ptrs : List Ptr} (empty : ∀ p ∈ ptrs, p = none) :
    h.freeVecs ptrs = .ok h := by
  induction ptrs with
  | nil => rfl
  | cons p ptrs ih =>
    rw [empty p (List.mem_cons_self _ _)]
    exact ih fun q member => empty q (List.mem_cons_of_mem _ member)

theorem holds_removeAll {bs : List (Nat × Block)} (held : h.Holds bs) (addrs : List Nat)
    (apart : ∀ e ∈ bs, e.1 ∉ addrs) : (h.removeAll addrs).Holds bs := fun e member => by
  rw [removeAll_mem, if_neg (apart e member)]
  exact held e member

theorem readVec_eq_ok {p : Ptr} {c : CVec} :
    h.readVec p = .ok c ↔
      p = none ∧ c = ⟨[]⟩ ∨ ∃ a, p = some a ∧ h.mem a = some (.bytes c.data) := by
  obtain ⟨data⟩ := c
  cases p with
  | none => simp [readVec, eq_comm]
  | some a => rcases live : h.mem a with _ | _ | _ <;> simp [readVec, live, eq_comm]

theorem allocInners_eq (h : Heap) {maxSize : Nat} (vs : List (Inner maxSize)) :
    h.allocInners vs = (pointers h.next (vs.map Inner.bytes),
      (h.allocMany (bytesBlocks (vs.map Inner.bytes))).2) := by
  induction vs generalizing h with
  | nil => rfl
  | cons v vs ih =>
    obtain ⟨bytes, bounded⟩ := v
    cases bytes with
    | nil => simp [allocInners, allocInner, ih, pointers, bytesBlocks]
    | cons b d => simp [allocInners, allocInner, ih, pointers, bytesBlocks, allocMany]

theorem allocInners_fst (h : Heap) {maxSize : Nat} (vs : List (Inner maxSize)) :
    (h.allocInners vs).1 = pointers h.next (vs.map Inner.bytes) :=
  congrArg Prod.fst (h.allocInners_eq vs)

theorem allocSeq064K_eq (h : Heap) {maxSize : Nat} (v : Seq064K (Inner maxSize)) :
    h.allocSeq064K v =
      (seqPointer h.next (v.items.map Inner.bytes),
        (h.allocMany (seqBlocks h.next (v.items.map Inner.bytes))).2) := by
  obtain ⟨_ | ⟨x, xs⟩, bounded⟩ := v
  · rfl
  · simp only [allocSeq064K, allocInners_eq, List.map_cons, seqPointer, seqBlocks,
      allocMany_append]
    exact Prod.ext (by simp) rfl

theorem forall₂_readVec_pointers (start : Nat) (ds : List (List UInt8))
    (held : h.Holds (placed start (bytesBlocks ds))) :
    List.Forall₂ (fun p d => h.readVec p = .ok ⟨d⟩) (pointers start ds) ds := by
  induction ds generalizing start with
  | nil => exact .nil
  | cons d ds ih =>
    rcases d with _ | ⟨b, d⟩
    · exact .cons rfl (ih start held)
    · simp only [bytesBlocks, placed, holds_cons] at held
      exact .cons (by simp [readVec, held.1]) (ih (start + 1) held.2)

theorem mapM_readVec_of_forall₂ {ptrs : List Ptr} {ds : List (List UInt8)}
    (read : List.Forall₂ (fun p d => h.readVec p = .ok ⟨d⟩) ptrs ds) :
    ptrs.mapM h.readVec = .ok (ds.map CVec.mk) := by
  induction read with
  | nil => rfl
  | cons read _ ih =>
    rw [List.mapM_cons, read, except_ok_bind, ih]
    rfl

/-- Fields allocated from `start` on are freed by `free_vec` on their pointers, which hands back
exactly their blocks. -/
theorem freeVecs_pointers (start : Nat) (ds : List (List UInt8))
    (held : h.Holds (placed start (bytesBlocks ds))) :
    h.freeVecs (pointers start ds) =
      .ok (h.removeAll ((placed start (bytesBlocks ds)).map Prod.fst)) := by
  induction ds generalizing h start with
  | nil => rfl
  | cons d ds ih =>
    rcases d with _ | ⟨b, d⟩
    · exact ih start held
    · simp only [bytesBlocks, placed, holds_cons] at held
      have moved : (h.remove start).Holds (placed (start + 1) (bytesBlocks ds)) :=
        holds_removeAll held.2 [start] fun e member => by
          have := (mem_placed member).1
          simp only [List.mem_singleton]
          omega
      simp only [pointers, freeVecs, List.foldlM_cons, freeVec, held.1, except_ok_bind]
      exact ih (start + 1) moved

theorem readVec2_seqPointer (start : Nat) (ds : List (List UInt8))
    (held : h.Holds (placed start (seqBlocks start ds))) :
    h.readVec2 (seqPointer start ds) = .ok ⟨ds.map CVec.mk⟩ := by
  cases ds with
  | nil => rfl
  | cons d ds =>
    simp only [seqBlocks, placed_append, holds_append, placed, holds_cons] at held
    simp only [seqPointer, readVec2, held.2.1]
    rw [mapM_readVec_of_forall₂ (forall₂_readVec_pointers start _ held.1)]
    rfl

theorem freeVec2_seqPointer (start : Nat) (ds : List (List UInt8))
    (held : h.Holds (placed start (seqBlocks start ds))) :
    h.freeVec2 (seqPointer start ds) =
      .ok (h.removeAll ((placed start (seqBlocks start ds)).map Prod.fst)) := by
  cases ds with
  | nil => rfl
  | cons d ds =>
    simp only [seqBlocks, placed_append, holds_append, placed, holds_cons] at held
    simp [seqPointer, seqBlocks, freeVec2, held.2.1, freeVecs_pointers start _ held.1,
      placed_append, placed, removeAll_append, removeAll]

end Lemmas

end Heap

end StratumWire
