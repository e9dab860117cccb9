import Mathlib.Data.List.Basic
import Mathlib.Tactic.IntervalCases
import Mathlib.Data.Nat.Digits

/-!
# The snapshot status line

`WriteSnapshotStatus` (`snapshot.cpp:1671`) stores a `SnapshotStatus` as the state's
`to_string` and the `std::to_string` of its six numbers, joined by single spaces.
`ReadSnapshotStatus` (`snapshot.cpp:1593`) splits the file on `' '`, wants exactly seven pieces,
matches the state token and parses each number with `ParseUint`. This module models the text of
both, the libbase helpers they call (`Split`, `Join`, `ParseUint`), and proves that reading what
`WriteSnapshotStatus` wrote gives back the status, for all four states and all `uint64` values
(`parseStatusLine_statusLine`).
-/

namespace LibSnapshot

/-! ## Statuses -/

/-- `SnapshotManager::SnapshotState` (`snapshot.h:253`). -/
inductive SnapshotState
  | None
  | Created
  | Merging
  | MergeCompleted
  deriving DecidableEq, Repr

/-- `SnapshotManager::SnapshotStatus` (`snapshot.h:257`), the state persisted per snapshot under
`/metadata/ota/snapshots/`. -/
structure SnapshotStatus where
  state : SnapshotState := .None
  device_size : UInt64 := 0
  snapshot_size : UInt64 := 0
  cow_partition_size : UInt64 := 0
  cow_file_size : UInt64 := 0
  sectors_allocated : UInt64 := 0
  metadata_sectors : UInt64 := 0
  deriving DecidableEq, Repr

/-- `SnapshotManager::to_string` (`snapshot.cpp:1655`). -/
def SnapshotState.toString : SnapshotState → String
  | .None => "none"
  | .Created => "created"
  | .Merging => "merging"
  | .MergeCompleted => "merge-completed"

/-- The state tokens `ReadSnapshotStatus` accepts (`snapshot.cpp:1614`). -/
def parseSnapshotState (s : List Char) : Option SnapshotState :=
  if s = "none".data then some .None
  else if s = "created".data then some .Created
  else if s = "merging".data then some .Merging
  else if s = "merge-completed".data then some .MergeCompleted
  else none

/-- `ReadSnapshotStatus` reads back the token `to_string` writes for every state. Reference:
`snapshot.cpp:1614`. -/
theorem parseSnapshotState_toString (st : SnapshotState) :
    parseSnapshotState st.toString.data = some st := by
  cases st <;> decide

/-! ## The libbase string helpers -/

/-- Prepend a character to the first piece of a split. -/
def consHead (c : Char) : List (List Char) → List (List Char)
  | [] => [[c]]
  | p :: ps => (c :: p) :: ps

/-- `android::base::Split(s, d)` with a one-character delimiter: the pieces between
occurrences of `d`, with an empty piece at each end or between adjacent delimiters. -/
def split (d : Char) : List Char → List (List Char)
  | [] => [[]]
  | c :: cs => if c = d then [] :: split d cs else consHead c (split d cs)

/-- `android::base::Join(pieces, d)`: the pieces with `d` between consecutive ones. -/
def join (d : Char) : List (List Char) → List Char
  | [] => []
  | [p] => p
  | p :: q :: ps => p ++ d :: join d (q :: ps)

/-- The characters C's `isspace` accepts. -/
def isspace (c : Char) : Bool :=
  c = ' ' || c = '\t' || c = '\n' || c = '\x0b' || c = '\x0c' || c = '\r'

/-- The value of a digit in `base` (10 or 16), if `c` is one. -/
def digitValue (base : Nat) (c : Char) : Option Nat :=
  let v := if '0' ≤ c ∧ c ≤ '9' then c.toNat - '0'.toNat
    else if 'a' ≤ c ∧ c ≤ 'f' then c.toNat - 'a'.toNat + 10
    else if 'A' ≤ c ∧ c ≤ 'F' then c.toNat - 'A'.toNat + 10
    else base
  if v < base then some v else none

/-- The value of a nonempty run of digits in `base`, read most significant first, as `strtoull`
accumulates it; `none` if a character is not a digit. -/
def digitsValue (base : Nat) : Nat → List Char → Option Nat
  | acc, [] => some acc
  | acc, c :: cs => (digitValue base c).bind fun v => digitsValue base (acc * base + v) cs

/-- The largest `uint64_t`. -/
def UINT64_MAX : Nat := 2 ^ 64 - 1

/-- Modelled from the spec: `android::base::ParseUint` (libbase's `parseint.h`, not under
src/), called by `ReadSnapshotStatus` for each number. It skips leading `isspace` characters,
rejects a `'-'`, reads base 16 after `"0x"` or `"0X"` and base 10 otherwise (after an optional
`'+'`, as `strtoull` does), wants at least one digit and nothing after the digits, and rejects a
value above `UINT64_MAX`. -/
def ParseUint (s : List Char) : Option UInt64 :=
  let read (base : Nat) (body : List Char) : Option UInt64 :=
    if body = [] then none
    else (digitsValue base 0 body).bind fun n =>
      if n ≤ UINT64_MAX then some (UInt64.ofNat n) else none
  match s.dropWhile isspace with
  | '-' :: _ => none
  | '0' :: 'x' :: r => read 16 r
  | '0' :: 'X' :: r => read 16 r
  | '+' :: r => read 10 r
  | r => read 10 r

/-- `std::to_string` of a `uint64_t`: its decimal digits. -/
def decimal (n : UInt64) : List Char := Nat.toDigits 10 n.toNat

/-! ## The status line -/

/-- The contents `WriteSnapshotStatus` writes for `status` (`snapshot.cpp:1683`). -/
def statusLine (status : SnapshotStatus) : String :=
  ⟨join ' ' [status.state.toString.data, decimal status.device_size,
    decimal status.snapshot_size, decimal status.cow_partition_size,
    decimal status.cow_file_size, decimal status.sectors_allocated,
    decimal status.metadata_sectors]⟩

/-- The parse `ReadSnapshotStatus` makes of a status file's contents (`snapshot.cpp:1607`):
exactly seven pieces, a known state token and seven `ParseUint`s. -/
def parseStatusLine (contents : String) : Option SnapshotStatus :=
  match split ' ' contents.data with
  | [p0, p1, p2, p3, p4, p5, p6] => do
    let state ← parseSnapshotState p0
    let device_size ← ParseUint p1
    let snapshot_size ← ParseUint p2
    let cow_partition_size ← ParseUint p3
    let cow_file_size ← ParseUint p4
    let sectors_allocated ← ParseUint p5
    let metadata_sectors ← ParseUint p6
    pure { state, device_size, snapshot_size, cow_partition_size, cow_file_size,
           sectors_allocated, metadata_sectors }
  | _ => none

/-! ## Splitting a join -/

/-- A text without the delimiter splits into itself. Reference: none. -/
theorem split_of_forall_ne {d : Char} :
    ∀ {p : List Char}, (∀ c ∈ p, c ≠ d) → split d p = [p]
  | [], _ => rfl
  | c :: p, h => by
    rw [split, if_neg (h c (.head _)),
      split_of_forall_ne fun x hx => h x (List.mem_cons_of_mem _ hx)]
    rfl

/-- A piece without the delimiter, the delimiter, then the rest: the piece comes off first.
Reference: none. -/
theorem split_append_cons {d : Char} (s : List Char) :
    ∀ {p : List Char}, (∀ c ∈ p, c ≠ d) → split d (p ++ d :: s) = p :: split d s
  | [], _ => by simp [split]
  | c :: p, h => by
    rw [List.cons_append, split, if_neg (h c (.head _)),
      split_append_cons s fun x hx => h x (List.mem_cons_of_mem _ hx)]
    rfl

/-- `Split` undoes `Join` when no piece holds the delimiter. Reference: none. -/
theorem split_join {d : Char} :
    ∀ {ps : List (List Char)}, ps ≠ [] → (∀ p ∈ ps, ∀ c ∈ p, c ≠ d) → split d (join d ps) = ps
  | [p], _, h => split_of_forall_ne (h p (.head _))
  | p :: q :: ps, _, h => by
    rw [join, split_append_cons _ (h p (.head _)),
      split_join (List.cons_ne_nil q ps) fun x hx => h x (List.mem_cons_of_mem _ hx)]

/-! ## Decimal digits -/

/-- A decimal digit reads back as its value, and is neither a space, a sign nor an `x`. Reference:
none. -/
theorem digitChar_facts {d : Nat} (h : d < 10) :
    digitValue 10 (Nat.digitChar d) = some d ∧ isspace (Nat.digitChar d) = false ∧
      Nat.digitChar d ∉ ['-', 'x', 'X', '+', ' '] := by
  interval_cases d <;> decide

/-- `toDigitsCore` with an accumulator appends to what it writes alone. Reference: none. -/
theorem toDigitsCore_append (fuel n : Nat) (ds : List Char) :
    Nat.toDigitsCore 10 fuel n ds = Nat.toDigitsCore 10 fuel n [] ++ ds := by
  induction fuel generalizing n ds with
  | zero => rfl
  | succ fuel ih =>
    simp only [Nat.toDigitsCore]
    split
    · rfl
    · rw [ih _ (_ :: ds), ih _ [_]]
      simp

/-- Reading two runs of digits one after the other reads the first, then goes on from its value.
Reference: none. -/
theorem digitsValue_append (base acc : Nat) (l r : List Char) :
    digitsValue base acc (l ++ r) = (digitsValue base acc l).bind (digitsValue base · r) := by
  induction l generalizing acc with
  | nil => rfl
  | cons c l ih =>
    simp only [List.cons_append, digitsValue]
    cases digitValue base c <;> simp [ih]

/-- With enough fuel, `toDigitsCore` writes the digits of `n`, and reading them gives `n`.
Reference: none. -/
theorem digitsValue_toDigitsCore :
    ∀ (fuel n : Nat), n < fuel → digitsValue 10 0 (Nat.toDigitsCore 10 fuel n []) = some n
  | 0, _, h => absurd h (Nat.not_lt_zero _)
  | fuel + 1, n, h => by
    have hd := (digitChar_facts (Nat.mod_lt n (by decide : 10 > 0))).1
    simp only [Nat.toDigitsCore]
    split
    · simp [digitsValue, hd]
      omega
    · rw [toDigitsCore_append, digitsValue_append,
        digitsValue_toDigitsCore fuel (n / 10) (by omega)]
      simp [digitsValue, hd]
      omega

/-- Reading `std::to_string` of a number gives its value. Reference: none. -/
theorem digitsValue_decimal (n : UInt64) : digitsValue 10 0 (decimal n) = some n.toNat :=
  digitsValue_toDigitsCore _ _ (Nat.lt_succ_self _)

/-- Every character of `std::to_string` of a number is a decimal digit. Reference: none. -/
theorem decimal_digits (n : UInt64) : ∀ c ∈ decimal n, ∃ d < 10, c = Nat.digitChar d := by
  suffices ∀ fuel m ds, (∀ c ∈ ds, ∃ d < 10, c = Nat.digitChar d) →
      ∀ c ∈ Nat.toDigitsCore 10 fuel m ds, ∃ d < 10, c = Nat.digitChar d from
    this _ _ _ (by simp)
  intro fuel
  induction fuel with
  | zero => exact fun _ _ h => h
  | succ fuel ih =>
    intro m ds hds
    have hc : ∀ c ∈ Nat.digitChar (m % 10) :: ds, ∃ d < 10, c = Nat.digitChar d := by
      simp only [List.mem_cons, forall_eq_or_imp]
      exact ⟨⟨m % 10, Nat.mod_lt m (by decide), rfl⟩, hds⟩
    simp only [Nat.toDigitsCore]
    split
    · exact hc
    · exact ih _ _ hc

/-- `std::to_string` of a number is never empty. Reference: none. -/
theorem decimal_ne_nil (n : UInt64) : decimal n ≠ [] := by
  rw [decimal, Nat.toDigits, Nat.toDigitsCore]
  split
  · simp
  · rw [toDigitsCore_append]; simp

/-- A `uint64_t` is the `uint64_t` of its value. Reference: none. -/
theorem UInt64.ofNat_toNat (n : UInt64) : UInt64.ofNat n.toNat = n :=
  UInt64.toNat.inj (UInt64.toNat_ofNat_of_lt n.toNat_lt_size)

/-- `ParseUint` reads back `std::to_string` of every `uint64_t`. Reference: `snapshot.cpp:1628`. -/
theorem ParseUint_decimal (n : UInt64) : ParseUint (decimal n) = some n := by
  have hd := decimal_digits n
  have hne := decimal_ne_nil n
  have hnot : ∀ c ∈ ['-', 'x', 'X', '+', ' '], c ∉ decimal n := fun c hc hm => by
    obtain ⟨d, hd10, rfl⟩ := hd c hm
    exact (digitChar_facts hd10).2.2 hc
  have hsp : (decimal n).dropWhile isspace = decimal n := by
    obtain ⟨c, cs, hc⟩ := List.exists_cons_of_ne_nil hne
    obtain ⟨d, hd10, rfl⟩ := hd c (by simp [hc])
    rw [hc, List.dropWhile_cons_of_neg (by simp [(digitChar_facts hd10).2.1])]
  have hval : (digitsValue 10 0 (decimal n)).bind (fun m =>
      if m ≤ UINT64_MAX then some (UInt64.ofNat m) else none) = some n := by
    have := n.toNat_lt_size
    rw [digitsValue_decimal, Option.some_bind, if_pos (by unfold UINT64_MAX UInt64.size at *; omega),
      UInt64.ofNat_toNat]
  simp only [ParseUint, hsp]
  split
  · rename_i h; exact absurd (by simp [h]) (hnot '-' (by simp))
  · rename_i r h; exact absurd (by simp [h]) (hnot 'x' (by simp))
  · rename_i r h; exact absurd (by simp [h]) (hnot 'X' (by simp))
  · rename_i r h; exact absurd (by simp [h]) (hnot '+' (by simp))
  · simpa [hne] using hval

/-- The status line splits back into its seven pieces. Reference: `snapshot.cpp:1609`. -/
theorem split_statusLine (s : SnapshotStatus) :
    split ' ' (statusLine s).data = [s.state.toString.data, decimal s.device_size,
      decimal s.snapshot_size, decimal s.cow_partition_size, decimal s.cow_file_size,
      decimal s.sectors_allocated, decimal s.metadata_sectors] := by
  have hnum : ∀ n : UInt64, ∀ c ∈ decimal n, c ≠ ' ' := fun n c hc h => by
    obtain ⟨d, hd, rfl⟩ := decimal_digits n c hc
    exact (digitChar_facts hd).2.2 (by simp [h])
  have hstate : ∀ c ∈ s.state.toString.data, c ≠ ' ' := by
    cases s.state <;> decide
  apply split_join (by simp)
  simp only [List.mem_cons, List.mem_singleton, List.not_mem_nil, or_false]
  rintro p (rfl | rfl | rfl | rfl | rfl | rfl | rfl) <;> first | exact hstate | exact hnum _

/-- A text that splits into a state's token and six decimals parses as that status, whatever
else it is. Reference: `ReadSnapshotStatus` (`snapshot.cpp:1593`). -/
theorem parseStatusLine_of_split {contents : String} {s : SnapshotStatus}
    (h : split ' ' contents.data = [s.state.toString.data, decimal s.device_size,
      decimal s.snapshot_size, decimal s.cow_partition_size, decimal s.cow_file_size,
      decimal s.sectors_allocated, decimal s.metadata_sectors]) :
    parseStatusLine contents = some s := by
  simp only [parseStatusLine, h, parseSnapshotState_toString, ParseUint_decimal]
  rfl

/-- Reading the status file `WriteSnapshotStatus` wrote gives back the status, for every state
and every `uint64_t` value of the six numbers. Reference: `ReadSnapshotStatus`
(`snapshot.cpp:1593`) after `WriteSnapshotStatus` (`snapshot.cpp:1671`). -/
theorem parseStatusLine_statusLine (s : SnapshotStatus) : parseStatusLine (statusLine s) = some s :=
  parseStatusLine_of_split (split_statusLine s)

end LibSnapshot
