import Mathlib

/-!
# The reply of `DM_TABLE_STATUS`

`DeviceMapper::GetTable` (`dm.cpp:417`) reads the targets of a device's table from the buffer the
kernel filled: `target_count` headers (`struct dm_target_spec`, 40 bytes), the first at
`data_start`, each followed by its parameter string, and each giving in `next` the offset of the
following header from `data_start`. The loop of `dm.cpp:436` clamps every `next` to the end of the
data and stops at a header that would not fit.

Whatever the bytes, the loop appends at most `target_count` entries and reads nothing past the
end of the data, that is, of `min(data_size, buffer size)`. It reads only after `data_start` as
long as no `data_start + next` wraps around 2³², and a `next` that wraps sends it back into the
`dm_ioctl` header (`wrappedReply_reads_header`). On a well-formed chain of headers it appends
exactly the chain's targets, in order, each with its NUL-terminated parameter string
(`getTableParse_reads`).
-/

namespace LibSnapshot

namespace DeviceMapper

/-- `sizeof(struct dm_target_spec)`: `sector_start` and `length` (8 bytes each), `status` and
`next` (4 each), `target_type` (16). -/
def dmTargetSpecSize : UInt32 := 40

/-- `std::min(a, b)`: `b < a ? b : a`. -/
def stdMin (a b : UInt32) : UInt32 := if b < a then b else a

/-- The buffer of `GetTable` after its last `DM_TABLE_STATUS` (`dm.cpp:423-434`): `4096` bytes
doubled `doublings` times, the bytes the kernel left in it, and the fields of `struct dm_ioctl`
that the loop reads. -/
structure TableReply where
  doublings : Nat
  bytes : Nat → UInt8
  data_start : UInt32
  data_size : UInt32
  target_count : UInt32

namespace TableReply

variable (r : TableReply)

/-- `buffer.size()`. -/
def size : Nat := 4096 * 2 ^ r.doublings

/-- `data_end = std::min(io->data_size, uint32_t(buffer.size()))`. -/
def data_end : UInt32 := stdMin r.data_size (UInt32.ofNat r.size)

/-- The bytes `[a, b)` of the buffer. -/
def slice (a b : Nat) : List UInt8 := (List.range' a (b - a)).map r.bytes

/-- `spec->next` of the header at `cursor`: the little-endian word at its offset 20. -/
def next (cursor : Nat) : UInt32 :=
  UInt32.ofNat ((r.bytes (cursor + 20)).toNat + 2 ^ 8 * (r.bytes (cursor + 21)).toNat +
    2 ^ 16 * (r.bytes (cursor + 22)).toNat + 2 ^ 24 * (r.bytes (cursor + 23)).toNat)

end TableReply

/-- `std::string(p, n).c_str()` made a string again: the bytes before the first NUL. -/
def cString (s : List UInt8) : List UInt8 := s.takeWhile (· ≠ 0)

/-- An entry `GetTable` appends (`TargetInfo(*spec, data)`): the header's bytes and the
parameter string. -/
structure TableEntry where
  spec : List UInt8
  data : List UInt8
  deriving DecidableEq, Repr

/-- The loop of `GetTable` (`dm.cpp:436-456`) from `cursor` with `count` turns left: the entries
it appends and the byte ranges `[a, b)` of the buffer it reads. -/
def getTableLoop (r : TableReply) (data_end : UInt32) :
    Nat → UInt32 → List TableEntry × List (Nat × Nat)
  | 0, _ => ([], [])
  | count + 1, cursor =>
    if cursor + dmTargetSpecSize > data_end then ([], [])
    else
      let data_offset := cursor + dmTargetSpecSize
      let next_cursor := stdMin (r.data_start + r.next cursor.toNat) data_end
      let data := if next_cursor > data_offset then
          cString (r.slice data_offset.toNat next_cursor.toNat)
        else []
      let reads := (cursor.toNat, cursor.toNat + dmTargetSpecSize.toNat) ::
        if next_cursor > data_offset then [(data_offset.toNat, next_cursor.toNat)] else []
      let rest := getTableLoop r data_end count next_cursor
      (⟨r.slice cursor.toNat (cursor.toNat + dmTargetSpecSize.toNat), data⟩ :: rest.1, reads ++ rest.2)

/-- What `GetTable` parses from a reply: `target_count` turns from `data_start`. -/
def getTableParse (r : TableReply) : List TableEntry × List (Nat × Nat) :=
  getTableLoop r r.data_end r.target_count.toNat r.data_start

/-! ## 32-bit cursors -/

/-- `std::min` of two `uint32_t` is the minimum of their values. Reference: `dm.cpp:437`. -/
theorem toNat_stdMin (a b : UInt32) : (stdMin a b).toNat = min a.toNat b.toNat := by
  unfold stdMin
  split
  · rename_i h
    have : b.toNat < a.toNat := h
    omega
  · rename_i h
    have : ¬b.toNat < a.toNat := h
    omega

/-- `uint32_t(buffer.size())` is at most `2³¹`: `4096 · 2ᵏ` wraps to `0` from `2³²` on. Reference:
`dm.cpp:437`. -/
theorem TableReply.size_toNat_le (r : TableReply) : (UInt32.ofNat r.size).toNat ≤ 2 ^ 31 := by
  show 4096 * 2 ^ r.doublings % 2 ^ 32 ≤ 2 ^ 31
  rcases Nat.lt_or_ge r.doublings 20 with h | h
  · calc 4096 * 2 ^ r.doublings % 2 ^ 32 ≤ 2 ^ 12 * 2 ^ r.doublings := Nat.mod_le _ _
      _ = 2 ^ (12 + r.doublings) := (Nat.pow_add 2 12 r.doublings).symm
      _ ≤ 2 ^ 31 := Nat.pow_le_pow_right (by decide) (by omega)
  · have : 4096 * 2 ^ r.doublings = 2 ^ 32 * 2 ^ (r.doublings - 20) := by
      rw [show (4096 : Nat) = 2 ^ 12 from rfl, ← Nat.pow_add, ← Nat.pow_add]
      congr 1
      omega
    rw [this, Nat.mul_mod_right]
    exact Nat.zero_le _

/-- `data_end + sizeof(dm_target_spec)` never wraps. Reference: `dm.cpp:437`. -/
theorem TableReply.data_end_add_lt (r : TableReply) : r.data_end.toNat + 40 < 2 ^ 32 := by
  have := r.size_toNat_le
  rw [TableReply.data_end, toNat_stdMin]
  omega

/-! ## What the loop reads and appends -/

section Loop

variable (r : TableReply) {e : UInt32}

/-- The loop appends at most one entry a turn. Reference: `dm.cpp:438`. -/
theorem getTableLoop_length_le : ∀ n c, (getTableLoop r e n c).1.length ≤ n
  | 0, _ => Nat.le_refl 0
  | n + 1, c => by
    unfold getTableLoop
    split
    · exact Nat.zero_le _
    · exact Nat.succ_le_succ (getTableLoop_length_le n _)

/-- Every range the loop reads lies in `[lo, data_end)`, from a cursor at or after `lo`, as long as
every header it can read moves the cursor to `lo` or after. Reference: `dm.cpp:436`. -/
theorem getTableLoop_reads (he : e.toNat + 40 < 2 ^ 32) (lo : Nat)
    (hlo : ∀ c : UInt32, c.toNat + 40 ≤ e.toNat →
      lo ≤ (stdMin (r.data_start + r.next c.toNat) e).toNat) :
    ∀ n (c : UInt32), lo ≤ c.toNat → c.toNat ≤ e.toNat →
      ∀ x ∈ (getTableLoop r e n c).2, lo ≤ x.1 ∧ x.1 ≤ x.2 ∧ x.2 ≤ e.toNat
  | 0, _, _, _ => fun _ hx => absurd hx (List.not_mem_nil _)
  | n + 1, c, hc, hce => by
    have hadd : (c + dmTargetSpecSize).toNat = c.toNat + 40 := by
      rw [UInt32.toNat_add]
      exact Nat.mod_eq_of_lt (by show c.toNat + 40 < 2 ^ 32; omega)
    unfold getTableLoop
    split
    · exact fun _ hx => absurd hx (List.not_mem_nil _)
    rename_i hfit
    have hfit : c.toNat + 40 ≤ e.toNat := by
      have : ¬e.toNat < (c + dmTargetSpecSize).toNat := hfit
      omega
    have hnext := hlo c hfit
    have hnext_le : (stdMin (r.data_start + r.next c.toNat) e).toNat ≤ e.toNat := by
      rw [toNat_stdMin]
      exact Nat.min_le_right _ _
    intro x hx
    simp only [List.cons_append, List.mem_cons, List.mem_append] at hx
    rcases hx with rfl | hx | hx
    · have h40 : dmTargetSpecSize.toNat = 40 := rfl
      exact ⟨hc, by omega, by omega⟩
    · split at hx
      · rename_i hgt
        have : (c + dmTargetSpecSize).toNat < (stdMin (r.data_start + r.next c.toNat) e).toNat := hgt
        simp only [List.mem_singleton] at hx
        subst hx
        exact ⟨by omega, by omega, hnext_le⟩
      · exact absurd hx (List.not_mem_nil _)
    · exact getTableLoop_reads he lo hlo n _ hnext hnext_le x hx

/-- A well-formed chain of `n` headers from offset `c`, within `data_end`: each header fits,
and its `next` points past it and stays within the data, without wrapping. -/
def TableReply.Chain (r : TableReply) (data_end : Nat) : Nat → Nat → Prop
  | 0, _ => True
  | n + 1, c => c + 40 ≤ r.data_start.toNat + (r.next c).toNat ∧
      r.data_start.toNat + (r.next c).toNat ≤ data_end ∧
      r.Chain data_end n (r.data_start.toNat + (r.next c).toNat)

/-- The targets of a chain, in order: each header, and the NUL-terminated string that follows it
up to the next header. -/
def TableReply.chainEntries (r : TableReply) : Nat → Nat → List TableEntry
  | 0, _ => []
  | n + 1, c => ⟨r.slice c (c + 40), cString (r.slice (c + 40) (r.data_start.toNat + (r.next c).toNat))⟩ ::
      r.chainEntries n (r.data_start.toNat + (r.next c).toNat)

/-- A chain of `n` headers has `n` targets. Reference: none. -/
theorem TableReply.length_chainEntries (r : TableReply) :
    ∀ n c, (r.chainEntries n c).length = n
  | 0, _ => rfl
  | n + 1, _ => congrArg Nat.succ (r.length_chainEntries n _)

/-- On a well-formed chain the loop appends exactly the chain's targets. Reference: `dm.cpp:436`. -/
theorem getTableLoop_chain (he : e.toNat + 40 < 2 ^ 32) :
    ∀ n (c : UInt32), r.Chain e.toNat n c.toNat → (getTableLoop r e n c).1 = r.chainEntries n c.toNat
  | 0, _, _ => rfl
  | n + 1, c, ⟨hpast, hin, hrest⟩ => by
    have hadd : (c + dmTargetSpecSize).toNat = c.toNat + 40 := by
      rw [UInt32.toNat_add]
      exact Nat.mod_eq_of_lt (by show c.toNat + 40 < 2 ^ 32; omega)
    have hnext : (stdMin (r.data_start + r.next c.toNat) e).toNat =
        r.data_start.toNat + (r.next c.toNat).toNat := by
      rw [toNat_stdMin, UInt32.toNat_add, Nat.mod_eq_of_lt (by show _ < 2 ^ 32; omega)]
      exact Nat.min_eq_left hin
    have hfit : ¬(c + dmTargetSpecSize > e) := fun h => by
      have : e.toNat < (c + dmTargetSpecSize).toNat := h
      omega
    unfold getTableLoop
    rw [if_neg hfit]
    simp only [TableReply.chainEntries, hadd, List.cons.injEq, TableEntry.mk.injEq]
    refine ⟨⟨rfl, ?_⟩, ?_⟩
    · split
      · rw [hnext]
      · rename_i hle
        have hle : ¬(c.toNat + 40 < r.data_start.toNat + (r.next c.toNat).toNat) := by
          rw [← hnext, ← hadd]
          exact hle
        rw [show r.data_start.toNat + (r.next c.toNat).toNat = c.toNat + 40 by omega]
        simp [TableReply.slice, cString]
    · rw [getTableLoop_chain he n _ (by rw [hnext]; exact hrest), hnext]

end Loop

/-- For every reply with `data_start` within the data, `GetTable`'s loop appends at most
`target_count` entries and reads only bytes before `data_end = min(data_size, buffer size)`; it
reads only from `data_start` on when no header in the data has a `next` that wraps `data_start +
next` around 2³²; and on a well-formed chain it appends exactly the chain's `target_count` targets,
in order, each with its NUL-terminated parameter string. Reference: `dm.cpp:417`. -/
theorem getTableParse_reads (r : TableReply) (h : r.data_start ≤ r.data_end) :
    (getTableParse r).1.length ≤ r.target_count.toNat ∧
    (∀ x ∈ (getTableParse r).2, x.1 ≤ x.2 ∧ x.2 ≤ r.data_end.toNat) ∧
    ((∀ c, c + 40 ≤ r.data_end.toNat → r.data_start.toNat + (r.next c).toNat < 2 ^ 32) →
      ∀ x ∈ (getTableParse r).2, r.data_start.toNat ≤ x.1) ∧
    (r.Chain r.data_end.toNat r.target_count.toNat r.data_start.toNat →
      (getTableParse r).1 = r.chainEntries r.target_count.toNat r.data_start.toNat ∧
      (getTableParse r).1.length = r.target_count.toNat) := by
  have he := r.data_end_add_lt
  have hs : r.data_start.toNat ≤ r.data_end.toNat := h
  refine ⟨getTableLoop_length_le r _ _, fun x hx =>
    (getTableLoop_reads r he 0 (fun _ _ => Nat.zero_le _) _ _ (Nat.zero_le _) hs x hx).2,
    fun hw x hx => (getTableLoop_reads r he _ (fun c hc => ?_) _ _ le_rfl hs x hx).1, fun hc => ?_⟩
  · rw [toNat_stdMin, UInt32.toNat_add, Nat.mod_eq_of_lt (show _ < UInt32.size from hw _ hc)]
    omega
  · have hparse := getTableLoop_chain r he _ _ hc
    exact ⟨hparse, hparse ▸ r.length_chainEntries _ _⟩

/-- A reply whose one header, at `data_start = 312`, has `next = 2³² - 112`: `data_start + next`
wraps to `200`. -/
def wrappedReply : TableReply :=
  { doublings := 0, bytes := fun i => if i = 332 then 0x90 else if 333 ≤ i ∧ i ≤ 335 then 0xFF else 0,
    data_start := 312, data_size := 4096, target_count := 2 }

/-- On `wrappedReply`, whose `data_start` is within the data, `GetTable`'s loop keeps the bounds
every reply keeps. Reference: `dm.cpp:436`. -/
theorem wrappedReply_parse :
    wrappedReply.data_start ≤ wrappedReply.data_end ∧
    (getTableParse wrappedReply).1.length ≤ wrappedReply.target_count.toNat ∧
    (∀ x ∈ (getTableParse wrappedReply).2, x.1 ≤ x.2 ∧ x.2 ≤ wrappedReply.data_end.toNat) ∧
    ((∀ c, c + 40 ≤ wrappedReply.data_end.toNat →
        wrappedReply.data_start.toNat + (wrappedReply.next c).toNat < 2 ^ 32) →
      ∀ x ∈ (getTableParse wrappedReply).2, wrappedReply.data_start.toNat ≤ x.1) ∧
    (wrappedReply.Chain wrappedReply.data_end.toNat wrappedReply.target_count.toNat
        wrappedReply.data_start.toNat →
      (getTableParse wrappedReply).1 =
        wrappedReply.chainEntries wrappedReply.target_count.toNat wrappedReply.data_start.toNat ∧
      (getTableParse wrappedReply).1.length = wrappedReply.target_count.toNat) :=
  ⟨by decide, getTableParse_reads wrappedReply (by decide)⟩

/-- On it the loop reads a second header at `200`, inside the `dm_ioctl` header before `data_start`.
Reference: `dm.cpp:445`. -/
theorem wrappedReply_reads_header :
    wrappedReply.data_start ≤ wrappedReply.data_end ∧
    (200, 240) ∈ (getTableParse wrappedReply).2 ∧ 200 < wrappedReply.data_start.toNat := by
  decide

end DeviceMapper

end LibSnapshot
